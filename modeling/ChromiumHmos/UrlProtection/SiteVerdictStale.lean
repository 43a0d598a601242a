import ChromiumHmos.UrlProtection.SiteVerdictState

set_option autoImplicit false

namespace ChromiumHmos.UrlProtection

open Transition

def SiteOp.isInitialize : SiteOp → Bool
  | .initializeSite .. => true
  | _ => false

-- The calls that must outdate an outstanding check; a repeated `Begin` returns false.
def SiteOp.invalidates (state : SiteVerdictState) : SiteOp → Bool
  | .beginNavigation id .. => !state.isCurrent id
  | .redirect .. | .finish .. | .sameDocumentCommit .. | .policyChanged .. => true
  | .startCommittedCheck => true
  | .initializeSite .. | .report .. | .completeCommittedCheck .. => false

-- `TabProtection` guards `Report` with `IsCurrent` and a check with `NeedsCommittedCheck`.
def SiteOp.permitted (state : SiteVerdictState) : SiteOp → Prop
  | .report .. => state.pendingNavigation = true
  | .startCommittedCheck => state.needsCommittedCheck = true
  | _ => True

namespace SiteVerdictState

abbrev siteStep : SiteVerdictState → SiteOp → SiteVerdictState → Prop :=
  guarded SiteOp.permitted apply

variable (state : SiteVerdictState)

theorem completeCommittedCheck_accepted (generation : UInt64)
    (revision : Int) (result : Result) (now : Rat) :
    (state.completeCommittedCheck generation revision result now).1 = true ↔
      state.pendingNavigation = false /\ generation = state.generation /\
        revision = state.current.revision /\ result.url = state.current.url := by
  unfold completeCommittedCheck
  split <;> grind

theorem completeCommittedCheck_refused (generation : UInt64)
    (revision : Int) (result : Result) (now : Rat)
    (refused : (state.completeCommittedCheck generation revision result now).1 = false) :
    (state.completeCommittedCheck generation revision result now).2 = state := by
  unfold completeCommittedCheck at refused ⊢
  split <;> simp_all

theorem completeCommittedCheck_commits (generation : UInt64)
    (revision : Int) (result : Result) (now : Rat)
    (accepted : (state.completeCommittedCheck generation revision result now).1 = true) :
    (state.completeCommittedCheck generation revision result now).2.committed =
      (state.completeCommittedCheck generation revision result now).2.current := by
  unfold completeCommittedCheck at accepted ⊢
  split <;> simp_all

@[simp] theorem reportSnapshot_revision (current : Snapshot) (result : Result)
    (checking enabled : Bool) (now : Rat) :
    (reportSnapshot current result checking enabled now).revision = current.revision := by
  unfold reportSnapshot
  grind

theorem reportSnapshot_url (current : Snapshot) (result : Result) (checking enabled : Bool)
    (now : Rat) : (reportSnapshot current result checking enabled now).url =
      if result.dangerous then result.url else current.url := by
  unfold reportSnapshot
  grind

theorem apply_generation (op : SiteOp) :
    (state.apply op).generation =
      state.generation + if op.invalidates state then 1 else 0 := by
  cases op with
  | beginNavigation id url revision enabled =>
    by_cases current : state.isCurrent id <;>
      simp [apply, beginNavigation, SiteOp.invalidates, current]
  | finish committed url => cases committed <;> simp [apply, finish, SiteOp.invalidates]
  | completeCommittedCheck generation revision result now =>
    simp only [apply, completeCommittedCheck, SiteOp.invalidates]
    split <;> simp [report]
  | _ => simp [apply, initializeSite, redirect, sameDocumentCommit, policyChanged, report,
      startCommittedCheck, SiteOp.invalidates]

theorem trace_generation {s t : SiteVerdictState} {trace : List (SiteVerdictState × SiteOp)}
    (run : Trace siteStep s trace t) :
    t.generation = s.generation +
      UInt64.ofNat (trace.countP fun entry => entry.2.invalidates entry.1) := by
  induction run with
  | nil => simp
  | @cons s u t op rest first _ ih =>
    obtain ⟨_, rfl⟩ := first
    rw [ih, apply_generation, List.countP_cons]
    by_cases bumps : op.invalidates s <;> simp [bumps, add_assoc, add_comm]

theorem apply_keeps_document (op : SiteOp)
    (permitted : op.permitted state) (idle : state.pendingNavigation = false)
    (quiet : op.invalidates state = false) (initialized : op.isInitialize = false) :
    (state.apply op).pendingNavigation = false /\
      (state.apply op).current.revision = state.current.revision /\
      (state.apply op).current.url = state.current.url := by
  cases op with
  | beginNavigation id url revision enabled =>
    have repeated : state.isCurrent id = true := by simpa [SiteOp.invalidates] using quiet
    simp [apply, beginNavigation, repeated, idle]
  | report => simp [SiteOp.permitted, idle] at permitted
  | completeCommittedCheck generation revision result now =>
    simp only [apply, completeCommittedCheck]
    split <;> simp_all [report, reportSnapshot_url]
  | _ => simp [SiteOp.invalidates, SiteOp.isInitialize] at quiet initialized

theorem trace_keeps_document {s t : SiteVerdictState} {trace : List (SiteVerdictState × SiteOp)}
    (run : Trace siteStep s trace t) (idle : s.pendingNavigation = false)
    (quiet : ∀ entry ∈ trace, entry.2.invalidates entry.1 = false)
    (initialized : ∀ entry ∈ trace, entry.2.isInitialize = false) :
    t.pendingNavigation = false /\ t.current.revision = s.current.revision /\
      t.current.url = s.current.url := by
  induction run with
  | nil => exact ⟨idle, rfl, rfl⟩
  | @cons s u t op rest first _ ih =>
    obtain ⟨permitted, rfl⟩ := first
    have kept := apply_keeps_document s op permitted idle (quiet (s, op) (by simp))
      (initialized (s, op) (by simp))
    have later := ih kept.1 (fun entry member => quiet entry (by simp [member]))
      (fun entry member => initialized entry (by simp [member]))
    exact ⟨later.1, later.2.1.trans kept.2.1, later.2.2.trans kept.2.2⟩

end SiteVerdictState

/-- Accepting a committed check under `legal` histories proves it is the newest one, untouched. -/
def RefusesStaleResults (legal : List (SiteVerdictState × SiteOp) → UInt64 → Prop) : Prop :=
  ∀ trace state, Trace SiteVerdictState.siteStep {} trace state →
    ∀ generation revision result now, legal trace generation →
      (state.completeCommittedCheck generation revision result now).1 = true →
      ∃ before start after, trace = before ++ (start, SiteOp.startCommittedCheck) :: after ∧
        start.startCommittedCheck.1 = generation ∧
        (∀ entry ∈ after, entry.2.invalidates entry.1 = false) ∧
        state.pendingNavigation = false ∧
        revision = start.current.revision ∧ result.url = start.current.url

def IssuedGeneration (trace : List (SiteVerdictState × SiteOp)) (generation : UInt64) : Prop :=
  ∃ start, (start, SiteOp.startCommittedCheck) ∈ trace ∧
    start.startCommittedCheck.1 = generation

def InitializedOnce (trace : List (SiteVerdictState × SiteOp)) : Prop :=
  ∀ entry ∈ trace.tail, entry.2.isInitialize = false

/-- The tab's use of the class: its own tokens, one `Initialize`, no wrapped counter. -/
def TabDiscipline (trace : List (SiteVerdictState × SiteOp)) (generation : UInt64) : Prop :=
  IssuedGeneration trace generation ∧ InitializedOnce trace ∧ trace.length < 2 ^ 64

theorem quiet_of_generation {s t : SiteVerdictState} {trace : List (SiteVerdictState × SiteOp)}
    (run : Trace SiteVerdictState.siteStep s trace t) (few : trace.length < 2 ^ 64)
    (same : t.generation = s.generation) :
    ∀ entry ∈ trace, entry.2.invalidates entry.1 = false := by
  have counted := SiteVerdictState.trace_generation run
  set bumps := trace.countP fun entry => entry.2.invalidates entry.1 with bumpsDef
  have bounded : bumps < 2 ^ 64 := lt_of_le_of_lt List.countP_le_length few
  have wrapped : UInt64.ofNat bumps = 0 := by
    have shifted : s.generation + UInt64.ofNat bumps = s.generation + 0 := by
      rw [<- counted, same, UInt64.add_zero]
    exact (UInt64.add_right_inj _).mp shifted
  have none : bumps = 0 := by
    have value := congrArg UInt64.toNat wrapped
    simpa [UInt64.toNat_ofNat_of_lt' bounded] using value
  intro entry member
  simpa using List.countP_eq_zero.mp (bumpsDef.symm.trans none) entry member

theorem disciplined_refuses_stale : RefusesStaleResults TabDiscipline := by
  intro trace state run generation revision result now legal accepted
  obtain ⟨⟨start, issued, token⟩, once, few⟩ := legal
  obtain ⟨before, after, rfl⟩ := List.append_of_mem issued
  obtain ⟨started, _, ⟨needed, rfl⟩, later⟩ := run.split_cons
  obtain ⟨idle, current, sameRevision, sameUrl⟩ :=
    (SiteVerdictState.completeCommittedCheck_accepted _ _ _ _ _).mp accepted
  have quiet : ∀ entry ∈ after, entry.2.invalidates entry.1 = false := by
    refine quiet_of_generation later ?_ ?_
    · simp only [List.length_append, List.length_cons] at few
      omega
    · exact current.symm.trans token.symm
  have unmoved : ∀ entry ∈ after, entry.2.isInitialize = false := by
    intro entry member
    refine once entry ?_
    cases before <;> simp [member]
  have notPending : start.pendingNavigation = false := by
    simp only [SiteOp.permitted, SiteVerdictState.needsCommittedCheck, Bool.and_eq_true,
      Bool.not_eq_true'] at needed
    exact needed.1
  have kept := SiteVerdictState.trace_keeps_document later notPending quiet unmoved
  exact ⟨before, start, after, rfl, token, quiet, idle, sameRevision.trans kept.2.1,
    sameUrl.trans kept.2.2⟩

theorem stale_committed_check_refused :
    RefusesStaleResults TabDiscipline ∧
      ∀ (state : SiteVerdictState) (generation : UInt64) (revision : Int) (result : Result)
        (now : Rat),
        let outcome := state.completeCommittedCheck generation revision result now
        (outcome.1 = false → outcome.2.current = state.current ∧
          outcome.2.committed = state.committed ∧ outcome.2.generation = state.generation) ∧
        (outcome.1 = true → outcome.2.committed = outcome.2.current) := by
  refine ⟨disciplined_refuses_stale, fun state generation revision result now => ⟨?_, ?_⟩⟩
  · intro refused
    rw [SiteVerdictState.completeCommittedCheck_refused _ _ _ _ _ refused]
    exact ⟨rfl, rfl, rfl⟩
  · exact SiteVerdictState.completeCommittedCheck_commits _ _ _ _ _

theorem last_mem_after {β : Type*} {front before after : List β} {last middle : β}
    (same : front ++ [last] = before ++ middle :: after) (distinct : last ≠ middle) :
    last ∈ after := by
  rcases List.eq_nil_or_concat after with rfl | ⟨rest, final, rfl⟩
  · obtain ⟨-, equal⟩ := List.append_inj' same rfl
    simp only [List.cons.injEq, and_true] at equal
    exact absurd equal distinct
  · have regrouped : front ++ [last] = (before ++ middle :: rest) ++ [final] := by
      simpa using same
    obtain ⟨-, equal⟩ := List.append_inj' regrouped rfl
    simp only [List.cons.injEq, and_true] at equal
    simp [equal]

theorem policy_changes (count : Nat) (s : SiteVerdictState) :
    ∃ trace t, Trace SiteVerdictState.siteStep s trace t /\ trace.length = count /\
      (∀ entry ∈ trace, entry.2 = .policyChanged 1 true true) /\
      t.pendingNavigation = s.pendingNavigation /\ t.current.url = s.current.url /\
      (s.current.revision = 1 -> t.current.revision = 1) := by
  induction count generalizing s with
  | zero => exact ⟨[], s, .nil s, rfl, by simp, rfl, rfl, id⟩
  | succ count ih =>
    obtain ⟨trace, t, run, counted, policies, pending, url, revision⟩ :=
      ih (s.policyChanged 1 true true)
    refine ⟨(s, .policyChanged 1 true true) :: trace, t, .cons ⟨trivial, rfl⟩ run, ?_, ?_, ?_, ?_, ?_⟩
    · simp [counted]
    · simpa using policies
    · exact pending
    · exact url
    · intro _
      exact revision rfl

def counterPage : GURL := ⟨"https://example.com/watch?v=1"⟩
def counterOther : GURL := ⟨"https://example.com/watch?v=2"⟩

def counterStart : SiteVerdictState := ({} : SiteVerdictState).initializeSite counterPage 1 true

theorem counter_start_checks : Trace SiteVerdictState.siteStep {}
    [({}, .initializeSite counterPage 1 true), (counterStart, .startCommittedCheck)]
    counterStart.startCommittedCheck.2 :=
  have needed : counterStart.needsCommittedCheck = true := by decide
  .cons ⟨trivial, rfl⟩ (.cons ⟨needed, rfl⟩ (.nil _))

theorem wrapped_counter_accepts :
    ¬ RefusesStaleResults fun trace generation =>
      IssuedGeneration trace generation /\ InitializedOnce trace := by
  intro refuses
  let checking := counterStart.startCommittedCheck.2
  obtain ⟨policies, state, run, counted, changes, pending, url, revision⟩ :=
    policy_changes (2 ^ 64) checking
  have full := counter_start_checks.append run
  have wrapped : state.generation = checking.generation := by
    have every : (policies.countP fun entry => entry.2.invalidates entry.1) = 2 ^ 64 := by
      rw [List.countP_eq_length.mpr, counted]
      intro entry member
      simp [changes entry member, SiteOp.invalidates]
    rw [SiteVerdictState.trace_generation run, every]
    rfl
  have accepted : (state.completeCommittedCheck counterStart.startCommittedCheck.1 1
      { verdict := .noMatch, url := counterPage } 1000).1 = true := by
    rw [SiteVerdictState.completeCommittedCheck_accepted, wrapped, pending, url,
      revision (by decide)]
    decide
  obtain ⟨before, start, after, split, -, quiet, -⟩ := refuses _ _ full
    counterStart.startCommittedCheck.1 1 { verdict := .noMatch, url := counterPage } 1000
    ⟨⟨counterStart, by simp, rfl⟩, by
      intro entry member
      rcases List.mem_cons.mp member with rfl | later
      · rfl
      · simp [changes entry later, SiteOp.isInitialize]⟩ accepted
  rcases List.eq_nil_or_concat policies with rfl | ⟨front, last, rfl⟩
  · simp at counted
  · have change := changes last (by simp)
    rw [List.concat_eq_append, <- List.append_assoc] at split
    have outdated := quiet last (last_mem_after split (by
      intro equal
      simp [equal] at change))
    simp [change, SiteOp.invalidates] at outdated

theorem accepts_without_discipline :
    (¬ RefusesStaleResults fun _ _ => True) ∧
      (¬ RefusesStaleResults fun trace generation =>
        IssuedGeneration trace generation ∧ trace.length < 2 ^ 64) ∧
      (¬ RefusesStaleResults fun trace generation =>
        IssuedGeneration trace generation ∧ InitializedOnce trace) := by
  refine ⟨?_, ?_, wrapped_counter_accepts⟩
  · -- The freshly constructed counter is 0, a number nobody was ever given.
    intro refuses
    obtain ⟨before, start, after, split, -⟩ := refuses
      [({}, .initializeSite counterPage 1 true)] counterStart (.cons ⟨trivial, rfl⟩ (.nil _))
      0 1 { verdict := .noMatch, url := counterPage } 1000 trivial (by decide)
    rcases before with _ | ⟨head, rest⟩ <;> simp at split
  · -- `Initialize` moves the document without moving the counter.
    intro refuses
    let checking := counterStart.startCommittedCheck.2
    have moved : SiteVerdictState.siteStep checking (.initializeSite counterOther 1 true)
        (checking.initializeSite counterOther 1 true) := ⟨trivial, rfl⟩
    have run := counter_start_checks.snoc moved
    obtain ⟨before, start, after, split, -, -, -, -, sameUrl⟩ := refuses _ _ run
      counterStart.startCommittedCheck.1 1 { verdict := .noMatch, url := counterOther } 1000
      ⟨⟨counterStart, by simp, rfl⟩, by simp⟩ (by decide)
    have started : (start, SiteOp.startCommittedCheck) ∈
        [(({} : SiteVerdictState), SiteOp.initializeSite counterPage 1 true),
          (counterStart, .startCommittedCheck)] ++
        [(checking, .initializeSite counterOther 1 true)] := by
      rw [split]
      simp
    simp only [List.cons_append, List.nil_append, List.mem_cons, Prod.mk.injEq, reduceCtorEq,
      and_false, false_or, and_true, List.not_mem_nil, or_false] at started
    subst started
    exact absurd sameUrl (by decide)

end ChromiumHmos.UrlProtection
