import ChromiumHmos.UrlProtection.SiteVerdictStale

set_option autoImplicit false

namespace ChromiumHmos.UrlProtection

open Transition

-- A tab's verdict state beside the revision its service has at that moment.
structure TabState where
  site : SiteVerdictState
  revision : Int

namespace TabState

def next (state : TabState) (op : SiteOp) : TabState where
  site := state.site.apply op
  revision := match op with
    | .policyChanged revision _ _ => revision
    | _ => state.revision

def initial (state : TabState) : Prop :=
  ∃ url enabled,
    state.site = ({} : SiteVerdictState).initializeSite url state.revision enabled

-- `IsEnabled` is a function of the URL, so `PolicyChanged` gets equal flags for equal URLs.
def permitted (state : TabState) : SiteOp → Prop
  | .initializeSite .. => False
  | .beginNavigation _ _ revision _ => revision = state.revision
  | .redirect _ revision _ =>
    state.site.pendingNavigation = true ∧ revision = state.revision
  | .sameDocumentCommit _ _ revision _ => revision = state.revision
  | .policyChanged _ currentEnabled committedEnabled =>
    state.site.current.url = state.site.committed.url → currentEnabled = committedEnabled
  | .report .. => state.site.pendingNavigation = true
  | .startCommittedCheck => state.site.needsCommittedCheck = true
  | .finish .. | .completeCommittedCheck .. => True

end TabState

def SiteOp.isFinish : SiteOp → Bool
  | .finish .. => true
  | _ => false

-- The only calls that may move the committed snapshot while a navigation is pending.
def SiteOp.isHistory : SiteOp → Bool
  | .sameDocumentCommit .. | .policyChanged .. => true
  | _ => false

def committedBy (committed : Snapshot) : SiteOp → Snapshot
  | .sameDocumentCommit id url revision enabled =>
    SiteVerdictState.commitSameDocument committed id url revision enabled
  | .policyChanged revision _ committedEnabled => committed.reset revision committedEnabled
  | _ => committed

def historyCalls (trace : List (TabState × SiteOp)) : List SiteOp :=
  (trace.map Prod.snd).filter SiteOp.isHistory

-- A verdict that still has to be established.
def Snapshot.open (snapshot : Snapshot) : Prop :=
  snapshot.verdict = .unchecked ∨ snapshot.verdict = .checking

structure Coherent (state : TabState) : Prop where
  idle : state.site.pendingNavigation = false → state.site.current = state.site.committed
  currentRevision : state.site.current.revision = state.revision
  committedRevision : state.site.committed.revision = state.revision
  currentTime : state.site.current.open → state.site.current.checkedAt = 0
  committedTime : state.site.committed.open → state.site.committed.checkedAt = 0

namespace SiteVerdictState

theorem reportSnapshot_time (current : Snapshot) (result : Result) (checking enabled : Bool)
    (now : Rat) (unsettled : (reportSnapshot current result checking enabled now).open) :
    (reportSnapshot current result checking enabled now).checkedAt = 0 := by
  unfold reportSnapshot Snapshot.open at *
  cases verdict : result.verdict <;> grind [Verdict.toSite]

theorem commitSameDocument_revision (committed : Snapshot) (id : String) (url : GURL)
    (revision : Int) (enabled : Bool) :
    (commitSameDocument committed id url revision enabled).revision = revision := by
  unfold commitSameDocument
  grind [Snapshot.reset]

theorem commitSameDocument_time (committed : Snapshot) (id : String) (url : GURL)
    (revision : Int) (enabled : Bool) (before : committed.open -> committed.checkedAt = 0)
    (unsettled : (commitSameDocument committed id url revision enabled).open) :
    (commitSameDocument committed id url revision enabled).checkedAt = 0 := by
  unfold commitSameDocument Snapshot.open at *
  grind [Snapshot.reset]

end SiteVerdictState

open SiteVerdictState

variable (state : TabState)

theorem initial_coherent (initial : state.initial) : Coherent state := by
  obtain ⟨url, enabled, site⟩ := initial
  constructor <;> simp [site, initializeSite]

theorem step_coherent (op : SiteOp) (coherent : Coherent state)
    (permitted : state.permitted op) : Coherent (state.next op) := by
  obtain ⟨idle, currentRevision, committedRevision, currentTime, committedTime⟩ := coherent
  cases op with
  | initializeSite => exact absurd permitted id
  | beginNavigation id url revision enabled =>
    have same : revision = state.revision := permitted
    by_cases repeated : state.site.isCurrent id
    · constructor <;> simp_all [TabState.next, apply, beginNavigation]
    · constructor <;> simp_all [TabState.next, apply, beginNavigation]
  | redirect url revision enabled =>
    obtain ⟨pending, same⟩ := permitted
    constructor <;> simp_all [TabState.next, apply, redirect]
  | finish committed url =>
    cases committed with
    | false => constructor <;> simp_all [TabState.next, apply, finish]
    | true =>
      by_cases risky : state.site.current.isDangerous
      · constructor <;> simp_all [TabState.next, apply, finish]
      · constructor <;> simp_all [TabState.next, apply, finish, Snapshot.open]
  | sameDocumentCommit id url revision enabled =>
    have same : revision = state.revision := permitted
    have time := commitSameDocument_time state.site.committed id url revision enabled committedTime
    by_cases pending : state.site.pendingNavigation
    · constructor <;>
        simp_all [TabState.next, apply, sameDocumentCommit, commitSameDocument_revision]
    · constructor <;>
        simp_all [TabState.next, apply, sameDocumentCommit, commitSameDocument_revision]
  | policyChanged revision currentEnabled committedEnabled =>
    constructor
    · intro settled
      have equal := idle settled
      have flags : currentEnabled = committedEnabled := permitted (by rw [equal])
      simp [TabState.next, apply, policyChanged, equal, flags]
    all_goals simp [TabState.next, apply, policyChanged]
  | report result checking enabled now =>
    have pending : state.site.pendingNavigation = true := permitted
    have time := reportSnapshot_time state.site.current result checking enabled now
    constructor <;> simp_all [TabState.next, apply, report]
  | startCommittedCheck =>
    constructor <;> simp_all [TabState.next, apply, startCommittedCheck]
  | completeCommittedCheck generation revision result now =>
    have time := reportSnapshot_time state.site.current result false true now
    simp only [TabState.next, apply, completeCommittedCheck]
    split
    · exact ⟨idle, currentRevision, committedRevision, currentTime, committedTime⟩
    · constructor <;> simp_all [report]

theorem step_pending (op : SiteOp) (permitted : state.permitted op)
    (pending : state.site.pendingNavigation = true) (unfinished : op.isFinish = false) :
    (state.next op).site.pendingNavigation = true /\
      (state.next op).site.committed = committedBy state.site.committed op := by
  cases op with
  | initializeSite => exact absurd permitted id
  | finish => simp [SiteOp.isFinish] at unfinished
  | startCommittedCheck =>
    simp [TabState.permitted, needsCommittedCheck, pending] at permitted
  | beginNavigation id url revision enabled =>
    by_cases repeated : state.site.isCurrent id <;>
      simp [TabState.next, apply, beginNavigation, repeated, committedBy, pending]
  | completeCommittedCheck generation revision result now =>
    simp [TabState.next, apply, completeCommittedCheck, committedBy, pending]
  | _ => simp [TabState.next, apply, redirect, sameDocumentCommit, policyChanged, report,
      committedBy, pending]

theorem committedBy_other (committed : Snapshot) (op : SiteOp) (other : op.isHistory = false) :
    committedBy committed op = committed := by
  cases op <;> simp_all [SiteOp.isHistory, committedBy]

abbrev tabStep (extra : TabState → SiteOp → Prop) : TabState → SiteOp → TabState → Prop :=
  guarded (fun state op => state.permitted op ∨ extra state op) TabState.next

abbrev noExtra : TabState → SiteOp → Prop := fun _ _ => False

theorem run_pending {s t : TabState} {trace : List (TabState × SiteOp)}
    (run : Trace (tabStep noExtra) s trace t) (pending : s.site.pendingNavigation = true)
    (unfinished : ∀ entry ∈ trace, entry.2.isFinish = false) :
    t.site.pendingNavigation = true /\
      t.site.committed = (historyCalls trace).foldl committedBy s.site.committed := by
  induction run with
  | nil => exact ⟨pending, rfl⟩
  | @cons s u t op rest first _ ih =>
    obtain ⟨permitted | impossible, rfl⟩ := first
    · have moved := step_pending s op permitted pending (unfinished (s, op) (by simp))
      have later := ih moved.1 (fun entry member => unfinished entry (by simp [member]))
      refine ⟨later.1, later.2.trans ?_⟩
      rw [moved.2]
      by_cases history : op.isHistory
      · simp [historyCalls, history]
      · simp only [Bool.not_eq_true] at history
        simp [historyCalls, history, committedBy_other]
    · exact absurd impossible id

/-- What a tab may rely on after the calls of `trace` ended in `state`. -/
structure TabGuarantees (trace : List (TabState × SiteOp)) (state : TabState) : Prop where
  idle : state.site.pendingNavigation = false → state.site.current = state.site.committed
  revision : state.site.current.revision = state.revision ∧
    state.site.committed.revision = state.revision
  aborted : ∀ before during s id url revision enabled,
    trace = before ++ (s, SiteOp.beginNavigation id url revision enabled) :: during →
    s.site.isCurrent id = false → (∀ entry ∈ during, entry.2.isFinish = false) →
    state.site.pendingNavigation = true ∧ ∀ target,
      (state.site.finish false target).current =
        (historyCalls during).foldl committedBy s.site.committed
  identity : ∀ id url revision enabled, state.site.pendingNavigation = true →
    (state.site.sameDocumentCommit id url revision enabled).current.navigationId =
      state.site.current.navigationId ∧
    (state.site.sameDocumentCommit id url revision enabled).current.url = state.site.current.url
  recheck : ∀ op, op.isFinish = true ∨ (∃ id url enabled,
      op = SiteOp.sameDocumentCommit id url state.revision enabled) →
    (state.next op).site.pendingNavigation = false →
    (state.next op).site.current.open ∨ (state.next op).site.committed.open →
    (state.next op).site.needsCommittedCheck = true ∧
      (state.next op).site.current.checkedAt = 0 ∧ (state.next op).site.committed.checkedAt = 0

def CoherentUnder (extra : TabState → SiteOp → Prop) : Prop :=
  ∀ start trace state, start.initial → Trace (tabStep extra) start trace state →
    TabGuarantees trace state

theorem coherent_recheck (coherent : Coherent state)
    (settled : state.site.pendingNavigation = false)
    (unsettled : state.site.current.open \/ state.site.committed.open) :
    state.site.needsCommittedCheck = true /\ state.site.current.checkedAt = 0 /\
      state.site.committed.checkedAt = 0 := by
  have equal := coherent.idle settled
  have current : state.site.current.open := by
    rcases unsettled with current | committed
    · exact current
    · rwa [equal]
  refine ⟨?_, coherent.currentTime current, ?_⟩
  · rcases current with verdict | verdict <;> simp [needsCommittedCheck, settled, verdict]
  · rw [<- equal]
    exact coherent.currentTime current

theorem tab_verdicts_coherent : CoherentUnder noExtra := by
  intro start trace state initial run
  have coherent : Coherent state := by
    refine run.preserves ?_ (initial_coherent start initial)
    rintro s op t before ⟨permitted | impossible, rfl⟩
    · exact step_coherent s op before permitted
    · exact absurd impossible id
  refine ⟨coherent.idle, ⟨coherent.currentRevision, coherent.committedRevision⟩, ?_, ?_, ?_⟩
  · rintro before during s id url revision enabled rfl fresh unfinished
    obtain ⟨begun, -, ⟨-, rfl⟩, later⟩ := run.split_cons
    have moved := run_pending later
      (by simp [TabState.next, apply, beginNavigation, fresh]) unfinished
    refine ⟨moved.1, fun target => ?_⟩
    have restored : (state.site.finish false target).current = state.site.committed := rfl
    rw [restored, moved.2]
    simp [TabState.next, apply, beginNavigation, fresh]
  · intro id url revision enabled pending
    simp [sameDocumentCommit, pending]
  · intro op finishing settled unsettled
    refine coherent_recheck _ (step_coherent state op coherent ?_) settled unsettled
    rcases finishing with finish | ⟨id, url, enabled, rfl⟩
    · cases op <;> simp_all [SiteOp.isFinish, TabState.permitted]
    · rfl

def counterTab : TabState := ⟨counterStart, 1⟩

theorem counterTab_initial : counterTab.initial := ⟨counterPage, true, rfl⟩

theorem incoherent_without_guards :
    (¬ CoherentUnder fun _ op => ∃ revision current committed,
      op = .policyChanged revision current committed) ∧
    (¬ CoherentUnder fun _ op => op = .startCommittedCheck) ∧
    (¬ CoherentUnder fun state op => ∃ url enabled,
      op = .initializeSite url state.revision enabled) := by
  have begins (extra : TabState → SiteOp → Prop) : tabStep extra counterTab
      (.beginNavigation "1" counterOther 1 true)
      (counterTab.next (.beginNavigation "1" counterOther 1 true)) := ⟨.inl rfl, rfl⟩
  refine ⟨?_, ?_, ?_⟩
  · -- Two enabled flags for one document.
    intro coherent
    have guarantees := coherent counterTab _ _ counterTab_initial
      (.cons (a := .policyChanged 2 true false) ⟨.inr ⟨_, _, _, rfl⟩, rfl⟩ (.nil _))
    exact absurd (guarantees.idle (by decide)) (by decide)
  · -- A check started for the navigation that is still pending.
    intro coherent
    have guarantees := coherent counterTab _ _ counterTab_initial
      (.cons (begins _) (.cons (a := .startCommittedCheck) ⟨.inr rfl, rfl⟩ (.nil _)))
    have restored := (guarantees.aborted [] _ counterTab "1" counterOther 1 true rfl
      (by decide) (by simp [SiteOp.isFinish])).2 counterOther
    exact absurd restored (by decide)
  · -- `Initialize` during a navigation commits the pending snapshot.
    intro coherent
    have guarantees := coherent counterTab _ _ counterTab_initial
      (.cons (begins _)
        (.cons (a := .initializeSite counterPage 1 true) ⟨.inr ⟨_, _, rfl⟩, rfl⟩ (.nil _)))
    have restored := (guarantees.aborted [] _ counterTab "1" counterOther 1 true rfl
      (by decide) (by simp [SiteOp.isFinish])).2 counterOther
    exact absurd restored (by decide)

end ChromiumHmos.UrlProtection
