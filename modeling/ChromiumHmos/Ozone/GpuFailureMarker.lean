import ChromiumHmos.Lib.History
import ChromiumHmos.Lib.Transition

set_option autoImplicit false

/-!
# Failure marker of the GPU child

A file that says the GPU child is in doubt is written at every start and taken back by a delayed
check. A start holds the lock twice, before and after the child is started; the launcher thread has
one start going at a time.
-/

namespace ChromiumHmos.Ozone

open History Transition

-- In milliseconds.
def kGpuChildSettled : Nat := 10000
def settleRetry : Nat := 1000

structure LaunchHistory where
  startFailed : Bool := false
  fellBack : Bool := false
  generation : Nat := 0

/-- A posted `ClearGpuChildDoubtIfSettled`. -/
structure SettleCheck where
  generation : Nat
  due : Nat

inductive MarkerEvent
  -- `noted`: whether the marker was written.
  | launched (generation : Nat) (noted : Bool)
  | fellBack
  | started (generation time : Nat)
  | startFailed (generation : Nat)
  | settled (generation time : Nat)
  | cleared (generation : Nat)
deriving DecidableEq

def MarkerEvent.launches : MarkerEvent → Bool
  | .launched .. => true
  | _ => false

structure GpuLauncher where
  history : LaunchHistory := {}
  -- `--user-data-dir` is set: there is a place for the marker.
  profile : Bool := true
  phoneFork : Bool := true
  -- The file is there.
  marker : Bool := false
  -- The generation of the start between its two locked sections.
  launching : Option Nat := none
  checks : List SettleCheck := []
  now : Nat := 0
  log : List MarkerEvent := []

namespace GpuLauncher

def noteGpuChildInDoubt (s : GpuLauncher) (written : Bool) : GpuLauncher :=
  if s.profile ∧ written then { s with marker := true } else s

def disablesGl (encodedParams : String) : Bool :=
  decide ("--use-gl=disabled".toList <:+: encodedParams.toList)

def launchGpuChild (s : GpuLauncher) (encodedParams : String) (written : Bool) : GpuLauncher :=
  if s.history.startFailed then s
  else
    let history := s.history
    let gone := disablesGl encodedParams
    let history := { history with
      fellBack := history.fellBack || gone
      generation := history.generation + 1 }
    let s := { s with history, launching := some history.generation }.noteGpuChildInDoubt written
    { s with
      log := s.log ++ .launched history.generation (s.profile && written) ::
        if gone then [.fellBack] else [] }

-- `started`: whether there is a process id.
def childStarted (s : GpuLauncher) (generation : Nat) (started : Bool) : GpuLauncher :=
  let s := { s with launching := none }
  if started then
    { s with
      checks := s.checks ++ [⟨generation, s.now + kGpuChildSettled⟩]
      log := s.log ++ [.started generation s.now] }
  else
    { s with
      history := { s.history with startFailed := true }
      log := s.log ++ [.startFailed generation] }

def clearGpuChildDoubtIfSettled (s : GpuLauncher) (generation : Nat) (presented deleted : Bool) :
    GpuLauncher :=
  if s.history.generation ≠ generation ∨ s.history.fellBack ∨ s.history.startFailed then s
  else if s.phoneFork ∧ ¬ presented then
    { s with checks := s.checks ++ [⟨generation, s.now + settleRetry⟩] }
  else
    let s : GpuLauncher := { s with log := s.log ++ [.settled generation s.now] }
    if s.profile then
      { s with marker := s.marker && !deleted, log := s.log ++ [.cleared generation] }
    else s

end GpuLauncher

inductive MarkerOp
  | launch (encodedParams : String) (written : Bool)
  | started (started : Bool)
  | check (index : Nat) (presented deleted : Bool)
  | tick (elapsed : Nat)

namespace GpuLauncher

def next (s : GpuLauncher) : MarkerOp → GpuLauncher
  | .launch encodedParams written => s.launchGpuChild encodedParams written
  | .started started =>
    match s.launching with
    | some generation => s.childStarted generation started
    | none => s
  | .check index presented deleted =>
    match s.checks[index]? with
    | some check =>
      { s with checks := s.checks.eraseIdx index }.clearGpuChildDoubtIfSettled check.generation
        presented deleted
    | none => s
  | .tick elapsed => { s with now := s.now + elapsed }

def permitted (s : GpuLauncher) : MarkerOp → Prop
  | .launch .. => s.launching = none
  | .started _ => s.launching.isSome
  | .check index _ _ => ∃ check ∈ s.checks[index]?, check.due ≤ s.now
  | .tick _ => True

instance (s : GpuLauncher) (op : MarkerOp) : Decidable (s.permitted op) :=
  match op with
  | .launch .. => inferInstanceAs (Decidable (s.launching = none))
  | .started _ => inferInstanceAs (Decidable (s.launching.isSome = true))
  | .check index _ _ => inferInstanceAs (Decidable (∃ check ∈ s.checks[index]?, check.due ≤ s.now))
  | .tick _ => .isTrue trivial

def step : GpuLauncher → MarkerOp → GpuLauncher → Prop := guarded permitted next

/-- The history ends in a start of `generation`, and what came since. -/
def LastLaunch (log : List MarkerEvent) (generation : Nat) (noted : Bool)
    (since : List MarkerEvent) : Prop :=
  (∃ before, log = before ++ .launched generation noted :: since) ∧
    ∀ event ∈ since, event.launches = false

variable {generation : Nat}

theorem LastLaunch.append {log since more : List MarkerEvent} {noted : Bool}
    (last : LastLaunch log generation noted since)
    (quiet : ∀ event ∈ more, event.launches = false) :
    LastLaunch (log ++ more) generation noted (since ++ more) := by
  obtain ⟨⟨before, rfl⟩, none⟩ := last
  refine ⟨⟨before, by simp⟩, fun event mem => ?_⟩
  rcases List.mem_append.mp mem with mem | mem
  · exact none event mem
  · exact quiet event mem

theorem LastLaunch.unique {log since since' : List MarkerEvent} {generation' : Nat}
    {noted noted' : Bool} (one : LastLaunch log generation noted since)
    (two : LastLaunch log generation' noted' since') :
    generation = generation' /\ noted = noted' /\ since = since' := by
  obtain ⟨⟨before, rfl⟩, none⟩ := one
  obtain ⟨⟨before', same⟩, none'⟩ := two
  have later (first second rest : List MarkerEvent) (event : MarkerEvent)
      (launches : event.launches = true) (g : Nat) (n : Bool) (quiet : ∀ e ∈ rest, e.launches = false)
      (split : first ++ event :: second = .launched g n :: rest) : first = [] := by
    cases first with
    | nil => rfl
    | cons head tail =>
      rw [List.cons_append, List.cons.injEq] at split
      have mem : event ∈ rest := by
        rw [<- split.2]
        simp
      rw [quiet event mem] at launches
      cases launches
  rcases List.append_eq_append_iff.mp same with ⟨mid, -, split⟩ | ⟨mid, -, split⟩
  · have empty := later mid since' since _ rfl _ _ none split.symm
    subst empty
    simp only [List.nil_append, List.cons.injEq, MarkerEvent.launched.injEq] at split
    exact ⟨split.1.1, split.1.2, split.2⟩
  · have empty := later mid since since' _ rfl _ _ none' split.symm
    subst empty
    simp only [List.nil_append, List.cons.injEq, MarkerEvent.launched.injEq] at split
    exact ⟨split.1.1.symm, split.1.2.symm, split.2.symm⟩

/-- The check was not early and came for the launch that was the last one then. -/
def Timely (before : List MarkerEvent) : MarkerEvent → Prop
  | .settled generation time => (∃ noted since, LastLaunch before generation noted since) ∧
      ∃ start, .started generation start ∈ before ∧ start + kGpuChildSettled ≤ time
  | .cleared generation => ∃ noted since, LastLaunch before generation noted since
  | _ => True

structure MarkerInv (s : GpuLauncher) : Prop where
  last : s.history.generation ≠ 0 →
    ∃ noted since, LastLaunch s.log s.history.generation noted since
  withGl : s.history.fellBack = false → .fellBack ∉ s.log
  working : s.history.startFailed = false → ∀ generation, .startFailed generation ∉ s.log
  absent : ∀ generation since, LastLaunch s.log generation true since → s.marker = false →
    (∃ time, .settled generation time ∈ since) ∧ s.history.fellBack = false ∧
      s.history.startFailed = false ∧ s.launching = none
  launching : ∀ generation, s.launching = some generation →
    0 < generation ∧ generation = s.history.generation
  checks : ∀ check ∈ s.checks, 0 < check.generation ∧ check.generation ≤ s.history.generation ∧
    s.launching ≠ some check.generation ∧
      ∃ start, .started check.generation start ∈ s.log ∧ start + kGpuChildSettled ≤ check.due
  timely : Throughout Timely s.log

variable {s : GpuLauncher}

theorem launch_inv (inv : MarkerInv s) (encodedParams : String) (written : Bool) :
    MarkerInv (s.launchGpuChild encodedParams written) := by
  unfold launchGpuChild
  split
  · exact inv
  next working =>
    have noted : ∀ t : GpuLauncher, (t.noteGpuChildInDoubt written) =
        { t with marker := t.marker || (t.profile && written) } := by
      intro t
      unfold noteGpuChildInDoubt
      split
      next both => rw [both.1, both.2, Bool.and_self, Bool.or_true]
      next either =>
        have unwritten : (t.profile && written) = false := by simpa using either
        rw [unwritten, Bool.or_false]
    simp only [noted]
    generalize disablesGl encodedParams = gone
    have quiet : ∀ event ∈ (if gone then [MarkerEvent.fellBack] else []), event.launches = false := by
      cases gone <;> simp [MarkerEvent.launches]
    have last : LastLaunch (s.log ++ .launched (s.history.generation + 1) (s.profile && written) ::
        if gone then [.fellBack] else []) (s.history.generation + 1) (s.profile && written)
        (if gone then [.fellBack] else []) := ⟨⟨s.log, rfl⟩, quiet⟩
    refine ⟨fun _ => ⟨_, _, last⟩, fun withGl => ?_, fun ok generation => ?_,
      fun generation since of gone => ?_, fun generation same => Option.some.inj same ▸ ⟨Nat.succ_pos _, rfl⟩,
      fun check mem => ?_, ?_⟩
    · simp only [Bool.or_eq_false_iff] at withGl
      simp [withGl.2, inv.withGl withGl.1]
    · have old := inv.working ok generation
      cases gone <;> simp [old]
    · obtain ⟨-, marked, -⟩ := last.unique of
      simp [marked] at gone
    · obtain ⟨pos, bound, -, start, mem', due⟩ := inv.checks check mem
      refine ⟨pos, by simp; omega, ?_, start, List.mem_append_left _ mem', due⟩
      intro same
      have := Option.some.inj same
      omega
    · refine inv.timely.append _ fun before event mem => ?_
      cases gone with
      | false =>
        obtain rfl := List.mem_singleton.mp mem
        trivial
      | true =>
        rcases List.mem_cons.mp mem with rfl | mem
        · trivial
        · obtain rfl := List.mem_singleton.mp mem
          trivial

theorem started_inv (inv : MarkerInv s)
    (launching : s.launching = some generation) (started : Bool) :
    MarkerInv (s.childStarted generation started) := by
  obtain ⟨pos, rfl⟩ := inv.launching generation launching
  obtain ⟨noted, since, last⟩ := inv.last pos.ne'
  -- The marker is there: nothing settles while a start goes on.
  have marked : noted = true -> s.marker = true := by
    rintro rfl
    by_contra gone
    have idle := (inv.absent _ since last (by simpa using gone)).2.2.2
    cases launching.symm.trans idle
  have absent : ∀ event : MarkerEvent, event.launches = false -> ∀ generation since,
      LastLaunch (s.log ++ [event]) generation true since -> s.marker ≠ false := by
    intro event quiet generation since' of gone
    have grown : LastLaunch (s.log ++ [event]) _ noted (since ++ [event]) :=
      last.append (by simpa using quiet)
    obtain ⟨-, noted, -⟩ := grown.unique of
    rw [marked noted] at gone
    cases gone
  have older : ∀ check ∈ s.checks, check.generation ≠ s.history.generation := by
    intro check mem same
    exact (inv.checks check mem).2.2.1 (by rw [launching, same])
  unfold childStarted
  split
  · refine ⟨fun _ => ⟨noted, _, last.append (by simp [MarkerEvent.launches])⟩,
      fun withGl => by simpa using inv.withGl withGl,
      fun ok generation => by simpa using inv.working ok generation,
      fun generation since of gone => absurd gone (absent _ rfl generation since of),
      (by rintro generation ⟨⟩), fun check mem => ?_, inv.timely.snoc trivial⟩
    rcases List.mem_append.mp mem with mem | mem
    · obtain ⟨pos, bound, -, start, mem', due⟩ := inv.checks check mem
      exact ⟨pos, bound, (by rintro ⟨⟩), start, List.mem_append_left _ mem', due⟩
    · obtain rfl := List.mem_singleton.mp mem
      exact ⟨pos, le_rfl, (by rintro ⟨⟩), s.now, by simp, le_rfl⟩
  · refine ⟨fun _ => ⟨noted, _, last.append (by simp [MarkerEvent.launches])⟩,
      fun withGl => by simpa using inv.withGl withGl, (by rintro ⟨⟩),
      fun generation since of gone => absurd gone (absent _ rfl generation since of),
      (by rintro generation ⟨⟩), fun check mem => ?_, inv.timely.snoc trivial⟩
    obtain ⟨pos, bound, -, start, mem', due⟩ := inv.checks check mem
    exact ⟨pos, bound, (by rintro ⟨⟩), start, List.mem_append_left _ mem', due⟩

theorem check_inv (inv : MarkerInv s) {index : Nat} {check : SettleCheck}
    (posted : s.checks[index]? = some check) (due : check.due <= s.now) (presented deleted : Bool) :
    MarkerInv ({ s with checks := s.checks.eraseIdx index }.clearGpuChildDoubtIfSettled
      check.generation presented deleted) := by
  obtain ⟨pos, bound, elsewhere, start, mem, early⟩ := inv.checks check (List.mem_of_getElem? posted)
  have rest : ∀ other ∈ s.checks.eraseIdx index, other ∈ s.checks := fun other mem =>
    List.mem_of_mem_eraseIdx mem
  have taken : MarkerInv { s with checks := s.checks.eraseIdx index } :=
    { inv with checks := fun other mem => inv.checks other (rest other mem) }
  unfold clearGpuChildDoubtIfSettled
  dsimp only
  split
  · exact taken
  next current =>
    simp only [not_or, not_not, Bool.not_eq_true] at current
    obtain ⟨same, withGl, working⟩ := current
    split
    · refine { taken with checks := fun other mem' => ?_ }
      rcases List.mem_append.mp mem' with mem' | mem'
      · exact taken.checks other mem'
      · obtain rfl := List.mem_singleton.mp mem'
        exact ⟨pos, bound, elsewhere, start, mem, early.trans (Nat.le_add_right_of_le due)⟩
    · have idle : s.launching = none := by
        cases launching : s.launching with
        | none => rfl
        | some generation =>
          obtain ⟨-, rfl⟩ := inv.launching generation launching
          exact absurd (launching.trans (congrArg some same)) elsewhere
      obtain ⟨noted, since, last⟩ := inv.last (same ▸ pos.ne')
      have settled : LastLaunch (s.log ++ [.settled check.generation s.now]) s.history.generation
          noted (since ++ [.settled check.generation s.now]) :=
        last.append (by simp [MarkerEvent.launches])
      have timely : Throughout Timely (s.log ++ [.settled check.generation s.now]) :=
        inv.timely.snoc ⟨⟨noted, since, same ▸ last⟩, start, mem, by omega⟩
      have known : ∀ generation since', LastLaunch (s.log ++ [.settled check.generation s.now])
          generation true since' -> ∃ time, .settled generation time ∈ since' := by
        intro generation since' of
        obtain ⟨rfl, -, rfl⟩ := settled.unique of
        exact ⟨s.now, by simp [same]⟩
      split
      · have cleared : LastLaunch
            ((s.log ++ [.settled check.generation s.now]) ++ [.cleared check.generation])
            s.history.generation noted
            ((since ++ [.settled check.generation s.now]) ++ [.cleared check.generation]) :=
          settled.append (by simp [MarkerEvent.launches])
        refine ⟨fun _ => ⟨noted, _, cleared⟩, fun _ => by simpa using inv.withGl withGl,
          fun _ generation => by simpa using inv.working working generation, ?_, inv.launching, ?_,
          timely.snoc ⟨noted, _, same ▸ settled⟩⟩
        · intro generation since' of _
          obtain ⟨rfl, -, rfl⟩ := cleared.unique of
          exact ⟨⟨s.now, by simp [same]⟩, withGl, working, idle⟩
        · intro other mem'
          obtain ⟨pos, bound, apart, start, mem, early⟩ := taken.checks other mem'
          exact ⟨pos, bound, apart, start, by simp [mem], early⟩
      · refine ⟨fun _ => ⟨noted, _, settled⟩, fun _ => by simpa using inv.withGl withGl,
          fun _ generation => by simpa using inv.working working generation, ?_, inv.launching, ?_,
          timely⟩
        · intro generation since' of _
          exact ⟨known generation since' of, withGl, working, idle⟩
        · intro other mem'
          obtain ⟨pos, bound, apart, start, mem, early⟩ := taken.checks other mem'
          exact ⟨pos, bound, apart, start, by simp [mem], early⟩

theorem next_inv {t : GpuLauncher} {op : MarkerOp} (inv : MarkerInv s) (moved : step s op t) :
    MarkerInv t := by
  obtain ⟨allowed, rfl⟩ := moved
  cases op with
  | launch encodedParams written => exact launch_inv inv encodedParams written
  | started started =>
    simp only [next]
    split
    next generation launching => exact started_inv inv launching started
    · exact inv
  | check index presented deleted =>
    obtain ⟨check, posted, due⟩ := allowed
    simp only [next, Option.mem_def.mp posted]
    exact check_inv inv (Option.mem_def.mp posted) due presented deleted
  | tick elapsed => exact { inv with }

/-- Before the first start; an old marker may be there. -/
def start (profile phoneFork marker : Bool) : GpuLauncher := { profile, phoneFork, marker }

theorem start_inv (profile phoneFork marker : Bool) : MarkerInv (start profile phoneFork marker) where
  last := by simp [start]
  withGl := by simp [start]
  working := by simp [start]
  absent := by
    rintro generation since ⟨⟨before, split⟩, -⟩
    simp [start] at split
  launching := by simp [start]
  checks := by simp [start]
  timely := .nil _

theorem run_inv {profile phoneFork marker : Bool} {trace : List (GpuLauncher × MarkerOp)} (run : Trace step (start profile phoneFork marker) trace s) : MarkerInv s :=
  run.preserves (fun _ _ _ inv moved => next_inv inv moved) (start_inv profile phoneFork marker)

/-- The marker is gone only once the last start settled, and nothing failed since. -/
def AbsentWhenSettled (s : GpuLauncher) (noted : Bool) : Prop :=
  ∀ generation since, LastLaunch s.log generation noted since → s.marker = false →
    (∃ time, .settled generation time ∈ since) ∧ .fellBack ∉ since ∧
      ∀ failed, .startFailed failed ∉ since

structure MarkerSafe (s : GpuLauncher) : Prop where
  absent : AbsentWhenSettled s true
  timely : Throughout Timely s.log
  removed : ∀ op t, step s op t → s.marker = true → t.marker = false →
    ∃ index presented deleted check, op = .check index presented deleted ∧
      s.checks[index]? = some check ∧ check.generation = s.history.generation

theorem removed_by_current {t : GpuLauncher} {op : MarkerOp} (moved : step s op t)
    (marked : s.marker = true) (gone : t.marker = false) :
    ∃ index presented deleted check, op = .check index presented deleted /\
      s.checks[index]? = some check /\ check.generation = s.history.generation := by
  obtain ⟨allowed, rfl⟩ := moved
  cases op with
  | launch encodedParams written =>
    simp only [next, launchGpuChild, noteGpuChildInDoubt] at gone
    split at gone
    · cases marked.symm.trans gone
    · dsimp only at gone
      split at gone
      · cases gone
      · cases marked.symm.trans gone
  | started started =>
    simp only [next] at gone
    split at gone
    · unfold childStarted at gone
      split at gone
      · cases marked.symm.trans gone
      · cases marked.symm.trans gone
    · cases marked.symm.trans gone
  | check index presented deleted =>
    obtain ⟨check, posted, -⟩ := allowed
    refine ⟨index, presented, deleted, check, rfl, Option.mem_def.mp posted, ?_⟩
    by_contra stale
    simp only [next, Option.mem_def.mp posted, clearGpuChildDoubtIfSettled] at gone
    rw [if_pos (.inl fun same => stale same.symm)] at gone
    cases marked.symm.trans gone
  | tick elapsed => cases marked.symm.trans gone

theorem marker_safe {profile phoneFork marker : Bool} {trace : List (GpuLauncher × MarkerOp)}
    {s : GpuLauncher} (run : Trace step (start profile phoneFork marker) trace s) :
    MarkerSafe s := by
  have inv := run_inv run
  refine ⟨fun generation since last gone => ?_, inv.timely,
    fun op t moved marked gone => removed_by_current moved marked gone⟩
  obtain ⟨settled, withGl, working, -⟩ := inv.absent generation since last gone
  obtain ⟨⟨before, split⟩, -⟩ := last
  refine ⟨settled, fun mem => inv.withGl withGl ?_, fun failed mem => inv.working working failed ?_⟩
  · rw [split]
    exact List.mem_append_right _ (List.mem_cons_of_mem _ mem)
  · rw [split]
    exact List.mem_append_right _ (List.mem_cons_of_mem _ mem)

-- A phone whose first frame comes late: the first check posts another.
def lateFrameOps : List MarkerOp :=
  [.launch "--type=gpu-process" true, .started true, .tick 10000, .check 0 false true, .tick 1000,
    .check 0 true true]

theorem marker_safe_late_frame :
    ∃ s : GpuLauncher, s.marker = false ∧ s.log = [.launched 1 true, .started 1 0,
      .settled 1 11000, .cleared 1] ∧ MarkerSafe s := by
  have follows : Follows permitted next (start true true false) lateFrameOps :=
    ⟨rfl, rfl, trivial, by decide, trivial, by decide, trivial⟩
  obtain ⟨trace, run, -⟩ := follows.trace
  exact ⟨_, by decide, by decide, marker_safe run⟩

-- The marker could not be written: there is none, and nothing settled.
theorem unwritten_marker_absent :
    ¬ ∀ (trace : List (GpuLauncher × MarkerOp)) (s : GpuLauncher),
      Trace step (start true true false) trace s → ∀ noted, AbsentWhenSettled s noted := by
  intro every
  have follows : Follows permitted next (start true true false)
      [.launch "--type=gpu-process" false] := ⟨rfl, trivial⟩
  obtain ⟨trace, run, -⟩ := follows.trace
  have last : LastLaunch [.launched 1 false] 1 false [] := ⟨⟨[], rfl⟩, by simp⟩
  obtain ⟨⟨time, mem⟩, -⟩ := every trace _ run false 1 [] last rfl
  cases mem

end GpuLauncher

end ChromiumHmos.Ozone
