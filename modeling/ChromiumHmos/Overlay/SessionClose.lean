import ChromiumHmos.Overlay.SessionSubmit

set_option autoImplicit false

namespace ChromiumHmos.Overlay

open Std Transition OrderedMap

variable {log : List Effect}

variable {x : Effect} {more before after : List Effect}

theorem split_earlier (absent : x ∉ more) (split : log ++ more = before ++ x :: after) :
    ∃ rest, log = before ++ x :: rest /\ after = rest ++ more := by
  rcases List.append_eq_append_iff.mp split with ⟨extra, rfl, rest⟩ | ⟨extra, rfl, rest⟩
  · exact absurd (by simp [rest]) absent
  · cases extra with
    | nil =>
      have here : more = x :: after := rest.symm
      exact absurd (by simp [here]) absent
    | cons head tail =>
      obtain ⟨rfl, rfl⟩ := List.cons.inj rest
      exact ⟨tail, rfl, rfl⟩

theorem split_later (absent : x ∉ log) (split : log ++ more = before ++ x :: after) :
    ∃ first, before = log ++ first /\ more = first ++ x :: after := by
  rcases List.append_eq_append_iff.mp split with ⟨extra, rfl, rest⟩ | ⟨extra, rfl, rest⟩
  · exact ⟨extra, rfl, rest⟩
  · cases extra with
    | nil => exact ⟨[], by simp, by simpa using rest.symm⟩
    | cons head tail =>
      obtain ⟨rfl, rfl⟩ := List.cons.inj rest
      exact absurd (by simp) absent

theorem mem_of_split
    (split : log = before ++ x :: after) : x ∈ log := by
  simp [split]

structure Quiet (effects : List Effect) : Prop where
  accepted : acceptances effects = []
  requested : Effect.closeRequested ∉ effects
  begun : Effect.beginDrain ∉ effects
  destroyed : Effect.destroyLayers ∉ effects

theorem Quiet.append {first second : List Effect} (left : Quiet first) (right : Quiet second) :
    Quiet (first ++ second) := by
  refine ⟨?_, ?_, ?_, ?_⟩
  · rw [acceptances_append, left.accepted, right.accepted]
    rfl
  · exact List.not_mem_append left.requested right.requested
  · exact List.not_mem_append left.begun right.begun
  · exact List.not_mem_append left.destroyed right.destroyed

theorem destroyed_quiet (leases : List ReadLease) : Quiet (leases.map .destroyed) :=
  ⟨acceptances_eq_nil (destroyed_objects leases).2, by simp, by simp, by simp⟩

theorem released_quiet (events : List Release) : Quiet (events.map .released) :=
  ⟨acceptances_eq_nil (released_neutral events).1, by simp, by simp, by simp⟩

theorem ready_quiet (leases : List ReadLease) : Quiet (leases.map .ready) :=
  ⟨acceptances_eq_nil (ready_neutral leases).1, by simp, by simp, by simp⟩

structure CloseInv (s : Session) (log : List Effect) : Prop where
  requested : Effect.closeRequested ∈ log → s.state ≠ .running
  refused : ∀ before after : List Effect, log = before ++ .closeRequested :: after →
    acceptances after = []
  fresh : s.lastSubmission = 0 → acceptances log = []
  last : s.lastSubmission ≠ 0 → ∃ entry ∈ acceptances log, entry.1 = s.lastSubmission
  latest : ∀ entry ∈ acceptances log, entry.1 ≤ s.lastSubmission
  begun : log.count .beginDrain = if 2 ≤ s.state.rank then 1 else 0
  processed : ∀ before after : List Effect, log = before ++ .beginDrain :: after →
    acceptances log = [] ∨ ∃ entry ∈ acceptances before,
      Effect.commandsProcessed entry.1 ∈ before ∧ ∀ other ∈ acceptances log, other.1 ≤ entry.1
  destroyed : log.count .destroyLayers = if s.state = .closed then 1 else 0
  empty : ∀ before after : List Effect, log = before ++ .destroyLayers :: after →
    Effect.beginDrain ∈ before ∧ Effect.drainProcessed ∈ before ∧
      ∀ (lease : ReadLease) (submission plane : Nat),
        Effect.accepted lease submission plane false ∈ log → Returned before lease submission plane

theorem CloseInv.quiet {s t : Session} {effects : List Effect} (inv : CloseInv s log)
    (quiet : Quiet effects) (state : t.state = s.state)
    (last : t.lastSubmission = s.lastSubmission) : CloseInv t (log ++ effects) := by
  have acceptances_same : acceptances (log ++ effects) = acceptances log := by
    rw [acceptances_append, quiet.accepted, List.append_nil]
  refine ⟨?_, ?_, ?_, ?_, ?_, ?_, ?_, ?_, ?_⟩
  · rw [state]
    intro mem
    exact inv.requested ((List.mem_append.mp mem).resolve_right quiet.requested)
  · intro before after split
    obtain ⟨rest, earlier, rfl⟩ := split_earlier quiet.requested split
    rw [acceptances_append, quiet.accepted, inv.refused before rest earlier, List.append_nil]
  · rw [last, acceptances_same]
    exact inv.fresh
  · rw [last, acceptances_same]
    exact inv.last
  · rw [last, acceptances_same]
    exact inv.latest
  · rw [List.count_append, List.count_eq_zero.mpr quiet.begun, state]
    exact inv.begun
  · rw [acceptances_same]
    intro before after split
    obtain ⟨rest, earlier, -⟩ := split_earlier quiet.begun split
    exact inv.processed before rest earlier
  · rw [List.count_append, List.count_eq_zero.mpr quiet.destroyed, state]
    exact inv.destroyed
  · intro before after split
    obtain ⟨rest, earlier, -⟩ := split_earlier quiet.destroyed split
    obtain ⟨begun, drained, returned⟩ := inv.empty before rest earlier
    refine ⟨begun, drained, fun lease submission plane mem => returned lease submission plane ?_⟩
    refine (List.mem_append.mp mem).resolve_right fun mem => ?_
    have entry : (submission, plane) ∈ acceptances effects := List.mem_filterMap.mpr ⟨_, mem, rfl⟩
    rw [quiet.accepted] at entry
    contradiction

section

variable {W P : Type} (backend : Backend W P)

variable {s : Session} {log : List Effect}

theorem startDrain_close (inv : CloseInv s log) (w : W) :
    CloseInv (s.startDrain backend w).session (log ++ (s.startDrain backend w).effects) := by
  unfold Session.startDrain
  split
  · rename_i waiting
    obtain ⟨waiting, processed⟩ := waiting
    have notBegun : Effect.beginDrain ∉ log := by
      have none := inv.begun
      rw [waiting] at none
      exact List.count_eq_zero.mp none
    have notDestroyed : Effect.destroyLayers ∉ log := by
      have none := inv.destroyed
      rw [waiting] at none
      exact List.count_eq_zero.mp none
    dsimp only
    generalize reported : (if s.lastSubmission = 0 then []
      else [Effect.commandsProcessed s.lastSubmission]) = report
    have quiet : Quiet report := by
      subst reported
      split <;> exact ⟨rfl, by simp, by simp, by simp⟩
    rw [<- List.append_assoc]
    have noted : CloseInv s (log ++ report) := inv.quiet quiet rfl rfl
    have same : acceptances (log ++ report ++ [.beginDrain]) = acceptances (log ++ report) := by
      rw [acceptances_append]
      exact List.append_nil _
    refine ⟨fun _ => by simp, ?_, ?_, ?_, ?_, ?_, ?_, ?_, ?_⟩
    · intro before after split
      obtain ⟨rest, earlier, rfl⟩ := split_earlier (by simp) split
      rw [acceptances_append, noted.refused before rest earlier]
      rfl
    · rw [same]
      exact noted.fresh
    · rw [same]
      exact noted.last
    · rw [same]
      exact noted.latest
    · rw [List.count_append, List.count_append, List.count_eq_zero.mpr notBegun,
        List.count_eq_zero.mpr quiet.begun]
      rfl
    · intro before after split
      obtain ⟨first, rfl, only⟩ := split_later (List.not_mem_append notBegun quiet.begun) split
      have first_nil : first = [] := by
        cases first with
        | nil => rfl
        | cons head tail => simp at only
      rw [first_nil, List.append_nil, same]
      by_cases none : s.lastSubmission = 0
      · exact .inl (noted.fresh none)
      · obtain ⟨entry, mem, last⟩ := noted.last none
        refine .inr ⟨entry, mem, ?_, fun other mem => last ▸ noted.latest other mem⟩
        rw [last, <- reported, if_neg none]
        simp
    · rw [List.count_append, List.count_append, List.count_eq_zero.mpr notDestroyed,
        List.count_eq_zero.mpr quiet.destroyed]
      rfl
    · intro before after split
      have absent : Effect.destroyLayers ∉ log ++ report ++ [.beginDrain] :=
        List.not_mem_append (List.not_mem_append notDestroyed quiet.destroyed) (by simp)
      exact absurd (mem_of_split split) absent
  · rw [List.append_nil]
    exact inv

theorem finishDrain_close {limbo : List ReadLease}
    (inv : CloseInv s log) (leases : LeaseInv s limbo log) (w : W) :
    CloseInv (s.finishDrain backend w).session (log ++ (s.finishDrain backend w).effects) := by
  unfold Session.finishDrain
  split
  · rename_i drained
    obtain ⟨draining, empty, -⟩ := drained
    have begun : Effect.beginDrain ∈ log := by
      have one := inv.begun
      rw [draining] at one
      exact List.count_pos_iff.mp (by rw [one]; decide)
    have notDestroyed : Effect.destroyLayers ∉ log := by
      have none := inv.destroyed
      rw [draining] at none
      exact List.count_eq_zero.mp none
    have none : ∀ id : Nat, s.leases[id]? = none := by
      intro id
      rw [ExtTreeMap.isEmpty_iff.mp empty]
      simp
    dsimp only
    have same : acceptances (log ++ [.drainProcessed, .destroyLayers]) = acceptances log := by
      rw [acceptances_append]
      exact List.append_nil _
    refine ⟨fun _ => by simp, ?_, ?_, ?_, ?_, ?_, ?_, ?_, ?_⟩
    · intro before after split
      obtain ⟨rest, earlier, rfl⟩ := split_earlier (by simp) split
      rw [acceptances_append, inv.refused before rest earlier]
      rfl
    · rw [same]
      exact inv.fresh
    · rw [same]
      exact inv.last
    · rw [same]
      exact inv.latest
    · rw [List.count_append, inv.begun, draining]
      rfl
    · rw [same]
      intro before after split
      obtain ⟨rest, earlier, -⟩ := split_earlier (by simp) split
      exact inv.processed before rest earlier
    · rw [List.count_append, List.count_eq_zero.mpr notDestroyed]
      rfl
    · intro before after split
      obtain ⟨first, rfl, only⟩ := split_later notDestroyed split
      have first_one : first = [.drainProcessed] := by
        match first with
        | [] => simp at only
        | [head] =>
          have both : head = .drainProcessed /\ after = [] := by simpa using only.symm
          rw [both.1]
        | head :: next :: tail => simp at only
      rw [first_one]
      refine ⟨List.mem_append_left _ begun, by simp, fun lease submission plane mem => ?_⟩
      have accepted : Effect.accepted lease submission plane false ∈ log := by simpa using mem
      exact (leases.all_returned none accepted).append _
  · rw [List.append_nil]
    exact inv

theorem retiring_quiet (s : Session) (w : W) : Quiet (s.retiring backend w).effects :=
  ((destroyed_quiet _).append (released_quiet _)).append (ready_quiet _)

theorem poll_close (inv : CloseInv s log) (leases : LeaseInv s [] log) (w : W) :
    CloseInv (s.poll backend w).session (log ++ (s.poll backend w).effects) := by
  by_cases closed : s.state = .closed
  · rw [poll_closed backend s w closed]
    exact inv.quiet (destroyed_quiet _) rfl rfl
  · rw [poll_open backend s w closed]
    have retired := retiring_inv backend leases w
    have stage : CloseInv (s.retiring backend w).session (log ++ (s.retiring backend w).effects) :=
      inv.quiet (retiring_quiet backend s w) rfl rfl
    generalize s.retiring backend w = retiring at retired stage ⊢
    obtain ⟨quiet, same, redundant⟩ := startDrain_quiet backend retiring.session retiring.world
    have started := retired.neutral quiet same redundant
    have start := startDrain_close backend stage retiring.world
    dsimp only
    generalize Session.startDrain backend retiring.session retiring.world = begun at started start ⊢
    have finish := finishDrain_close backend start started begun.world
    have all := finish.quiet (destroyed_quiet (s.limbo backend w)) rfl rfl
    simpa only [List.append_assoc] using all

theorem CloseInv.untouched (inv : CloseInv s log) (open_ : s.state.rank <= 1) :
    Effect.beginDrain ∉ log /\ Effect.destroyLayers ∉ log := by
  have begun := inv.begun
  have destroyed := inv.destroyed
  have notClosed : s.state ≠ .closed := by
    intro closed
    rw [closed] at open_
    contradiction
  rw [if_neg (by omega)] at begun
  rw [if_neg notClosed] at destroyed
  exact ⟨List.count_eq_zero.mp begun, List.count_eq_zero.mp destroyed⟩

theorem request_close (inv : CloseInv s log) :
    CloseInv (if s.state = .running then { s with state := .waitingForCommands } else s)
      (log ++ [.closeRequested]) := by
  have same : acceptances (log ++ [.closeRequested]) = acceptances log := by
    rw [acceptances_append]
    exact List.append_nil _
  have later : ∀ before after : List Effect, log ++ [.closeRequested] =
      before ++ .closeRequested :: after -> acceptances after = [] := by
    intro before after split
    rcases List.append_eq_append_iff.mp split with ⟨extra, -, rest⟩ | ⟨extra, rfl, rest⟩
    · cases extra with
      | nil =>
        obtain ⟨-, rfl⟩ := List.cons.inj rest
        rfl
      | cons head tail => simp at rest
    · cases extra with
      | nil =>
        obtain ⟨-, rfl⟩ := List.cons.inj rest
        rfl
      | cons head tail =>
        obtain ⟨rfl, rfl⟩ := List.cons.inj rest
        exact (acceptances_append tail _).trans (by rw [inv.refused before tail rfl]; rfl)
  have begun : ∀ before after : List Effect, log ++ [.closeRequested] =
      before ++ .beginDrain :: after -> acceptances log = [] \/ ∃ entry ∈ acceptances before,
        Effect.commandsProcessed entry.1 ∈ before /\ ∀ other ∈ acceptances log, other.1 <= entry.1 := by
    intro before after split
    obtain ⟨rest, earlier, -⟩ := split_earlier (by simp) split
    exact inv.processed before rest earlier
  have emptied : ∀ before after : List Effect, log ++ [.closeRequested] =
      before ++ .destroyLayers :: after -> Effect.beginDrain ∈ before /\
        Effect.drainProcessed ∈ before /\ ∀ (lease : ReadLease) (submission plane : Nat),
          Effect.accepted lease submission plane false ∈ log ++ [.closeRequested] ->
            Returned before lease submission plane := by
    intro before after split
    obtain ⟨rest, earlier, -⟩ := split_earlier (by simp) split
    obtain ⟨begun, drained, returned⟩ := inv.empty before rest earlier
    exact ⟨begun, drained, fun lease submission plane mem => returned _ _ _ (by simpa using mem)⟩
  have beginDrains : (log ++ [Effect.closeRequested]).count .beginDrain =
      log.count .beginDrain := by
    simp
  have destroys : (log ++ [Effect.closeRequested]).count .destroyLayers =
      log.count .destroyLayers := by
    simp
  split
  · rename_i running
    obtain ⟨notBegun, notDestroyed⟩ := inv.untouched (by rw [running]; decide)
    refine ⟨by simp, later, ?_, ?_, ?_, ?_, ?_, ?_, emptied⟩
    · rw [same]
      exact inv.fresh
    · rw [same]
      exact inv.last
    · rw [same]
      exact inv.latest
    · rw [beginDrains]
      exact List.count_eq_zero.mpr notBegun
    · rw [same]
      exact begun
    · rw [destroys]
      exact List.count_eq_zero.mpr notDestroyed
  · rename_i stopped
    refine ⟨fun _ => stopped, later, ?_, ?_, ?_, ?_, ?_, ?_, emptied⟩
    · rw [same]
      exact inv.fresh
    · rw [same]
      exact inv.last
    · rw [same]
      exact inv.latest
    · rw [beginDrains]
      exact inv.begun
    · rw [same]
      exact begun
    · rw [destroys]
      exact inv.destroyed

theorem close_close (inv : CloseInv s log) (leases : LeaseInv s [] log) (w : W) :
    CloseInv (s.close backend w).session (log ++ (s.close backend w).effects) := by
  have requested : LeaseInv
      (if s.state = .running then { s with state := .waitingForCommands } else s) []
      (log ++ [.closeRequested]) := by
    split <;> exact leases.neutral ⟨rfl, rfl⟩ rfl rfl
  have polled := poll_close backend (request_close inv) requested w
  unfold Session.close
  simpa only [List.append_assoc, List.singleton_append] using polled

structure Calm (s t : Session) (effects : List Effect) : Prop where
  state : t.state = s.state
  requested : Effect.closeRequested ∉ effects
  begun : Effect.beginDrain ∉ effects
  destroyed : Effect.destroyLayers ∉ effects

theorem holdPlane_calm (s : Session) (p : Plane) (sequence plane : Nat) :
    Calm s (s.holdPlane p sequence plane).1 (s.holdPlane p sequence plane).2 := by
  unfold Session.holdPlane
  cases p.lease with
  | none => exact ⟨rfl, by simp, by simp, by simp⟩
  | some lease =>
    unfold Session.hold
    dsimp only
    split
    · exact ⟨rfl, by simp, by simp, by simp⟩
    · split <;> exact ⟨rfl, by simp, by simp, by simp⟩

theorem holdVideo_calm (s : Session) (video : Option Plane) (sequence : Nat) :
    Calm s (s.holdVideo video sequence).1 (s.holdVideo video sequence).2 := by
  cases video with
  | none => exact ⟨rfl, by simp [Session.holdVideo], by simp [Session.holdVideo],
      by simp [Session.holdVideo]⟩
  | some video => exact holdPlane_calm s video sequence 1

theorem accept_close {effects : List Effect} (inv : CloseInv s (log ++ effects))
    (running : s.state = .running) (w : W) (f : Frame) (batch : P)
    (primary : f.primary.lease.isSome) :
    CloseInv (s.accept backend w f batch (s.lastSubmission + 1) effects).step.session
      (log ++ (s.accept backend w f batch (s.lastSubmission + 1) effects).step.effects) := by
  obtain ⟨notBegun, notDestroyed⟩ := inv.untouched (by rw [running]; decide)
  have notRequested : Effect.closeRequested ∉ log ++ effects := fun mem => inv.requested mem running
  obtain ⟨-, first⟩ := holdPlane_holds s f.primary (s.lastSubmission + 1) 0
  obtain ⟨-, -, -, -, second⟩ := holdVideo_holds
    (s.holdPlane f.primary (s.lastSubmission + 1) 0).1 f.video (s.lastSubmission + 1)
  have one := holdPlane_calm s f.primary (s.lastSubmission + 1) 0
  have two := holdVideo_calm (s.holdPlane f.primary (s.lastSubmission + 1) 0).1 f.video
    (s.lastSubmission + 1)
  unfold Session.accept
  dsimp only
  generalize s.holdPlane f.primary (s.lastSubmission + 1) 0 = taken at first second one two ⊢
  generalize taken.1.holdVideo f.video (s.lastSubmission + 1) = both at second two ⊢
  rw [<- List.append_assoc, <- List.append_assoc]
  have requested := List.not_mem_append (List.not_mem_append notRequested one.requested) two.requested
  have begun := List.not_mem_append (List.not_mem_append notBegun one.begun) two.begun
  have destroyed := List.not_mem_append (List.not_mem_append notDestroyed one.destroyed) two.destroyed
  have state : both.1.state = .running := two.state.trans (one.state.trans running)
  have entries : acceptances (log ++ effects ++ taken.2 ++ both.2) =
      acceptances (log ++ effects) ++
        (f.primary.lease.toList.map fun _ => (s.lastSubmission + 1, 0)) ++
        (f.video.bind Plane.lease).toList.map fun _ => (s.lastSubmission + 1, 1) := by
    rw [acceptances_append, acceptances_append _ taken.2, first, second]
  refine ⟨fun mem => absurd mem requested, fun before after split => ?_, by simp, ?_, ?_, ?_,
    fun before after split => ?_, ?_, fun before after split => ?_⟩
  · exact absurd (mem_of_split split) requested
  · intro _
    obtain ⟨lease, taken⟩ := Option.isSome_iff_exists.mp primary
    refine ⟨(s.lastSubmission + 1, 0), ?_, rfl⟩
    rw [entries, taken]
    simp
  · intro entry mem
    rw [entries] at mem
    rcases List.mem_append.mp mem with mem | mem
    · rcases List.mem_append.mp mem with mem | mem
      · exact (inv.latest entry mem).trans (Nat.le_succ _)
      · obtain ⟨-, -, rfl⟩ := List.mem_map.mp mem
        exact le_rfl
    · obtain ⟨-, -, rfl⟩ := List.mem_map.mp mem
      exact le_rfl
  · rw [List.count_eq_zero.mpr begun, state]
    rfl
  · exact absurd (mem_of_split split) begun
  · rw [List.count_eq_zero.mpr destroyed, state]
    rfl
  · exact absurd (mem_of_split split) destroyed

theorem poll_running (s : Session) (w : W) (running : s.state = .running) :
    (s.poll backend w).session.state = .running := by
  have state : (s.retiring backend w).session.state = .running := running
  have notDraining : ∀ (t : Session) (v : W), t.state = .running ->
      (Session.startDrain backend t v).session = t := by
    intro t v state
    unfold Session.startDrain
    rw [if_neg (by simp [state])]
  have notClosed : ∀ (t : Session) (v : W), t.state = .running ->
      (Session.finishDrain backend t v).session = t := by
    intro t v state
    unfold Session.finishDrain
    rw [if_neg (by simp [state])]
  rw [poll_open backend s w (by simp [running])]
  dsimp only
  rw [notDraining _ _ state, notClosed _ _ state]
  exact state

theorem submit_close (inv : CloseInv s log) (leases : LeaseInv s [] log) (w : W) (f : Frame) :
    CloseInv (s.submit backend w f).step.session (log ++ (s.submit backend w f).step.effects) := by
  unfold Session.submit
  split
  · simpa using inv
  split
  · simpa using inv
  rename_i running refused
  dsimp only
  have polled := poll_close backend inv leases w
  split
  · exact polled
  · split
    · exact polled
    · have valid : f.Valid = true := not_not.mp fun invalid => refused (.inl invalid)
      have primary : f.primary.lease.isSome := by
        cases taken : f.primary.lease with
        | none => simp [Frame.Valid, ValidPlane, taken] at valid
        | some lease => rfl
      exact accept_close backend polled (poll_running backend s w (not_not.mp running)) _ f _ primary

theorem next_close (h : Host W) (op : HostOp W) (inv : CloseInv h.session h.log)
    (leases : LeaseInv h.session [] h.log) :
    CloseInv (h.next backend op).session (h.next backend op).log := by
  cases op with
  | submit frame => exact submit_close backend inv leases h.world frame
  | poll => exact poll_close backend inv leases h.world
  | close => exact close_close backend inv leases h.world
  | world after => exact inv

theorem poll_forward (s : Session) (w : W) :
    s.state.rank <= (s.poll backend w).session.state.rank := by
  have start (t : Session) (v : W) :
      t.state.rank <= (Session.startDrain backend t v).session.state.rank := by
    unfold Session.startDrain
    split
    · rename_i waiting
      rw [waiting.1]
      simp [State.rank]
    · exact le_rfl
  have finish (t : Session) (v : W) :
      t.state.rank <= (Session.finishDrain backend t v).session.state.rank := by
    unfold Session.finishDrain
    split
    · rename_i draining
      rw [draining.1]
      simp [State.rank]
    · exact le_rfl
  by_cases closed : s.state = .closed
  · rw [poll_closed backend s w closed]
  · rw [poll_open backend s w closed]
    exact (start (s.retiring backend w).session _).trans (finish _ _)

theorem next_forward (h : Host W) (op : HostOp W) :
    h.session.state.rank <= (h.next backend op).session.state.rank := by
  cases op with
  | submit frame =>
    show _ <= (h.session.submit backend h.world frame).step.session.state.rank
    unfold Session.submit
    split
    · exact le_rfl
    split
    · exact le_rfl
    dsimp only
    split
    · exact poll_forward backend h.session h.world
    · split
      · exact poll_forward backend h.session h.world
      · unfold Session.accept
        dsimp only
        rw [(holdVideo_calm _ _ _).state, (holdPlane_calm _ _ _ _).state]
        exact poll_forward backend h.session h.world
  | poll => exact poll_forward backend h.session h.world
  | close =>
    have requested : h.session.state.rank <=
        (if h.session.state = .running then { h.session with state := .waitingForCommands }
          else h.session).state.rank := by
      split
      · rename_i running
        rw [running]
        simp [State.rank]
      · exact le_rfl
    exact requested.trans (poll_forward backend _ h.world)
  | world after => exact le_rfl

structure CloseSafe (h : Host W) : Prop where
  forward : ∀ op, h.session.state.rank ≤ (h.next backend op).session.state.rank
  begun : h.log.count .beginDrain = if 2 ≤ h.session.state.rank then 1 else 0
  processed : ∀ before after : List Effect, h.log = before ++ .beginDrain :: after →
    acceptances h.log = [] ∨ ∃ entry ∈ acceptances before,
      Effect.commandsProcessed entry.1 ∈ before ∧ ∀ other ∈ acceptances h.log, other.1 ≤ entry.1
  destroyed : h.log.count .destroyLayers = if h.session.state = .closed then 1 else 0
  empty : ∀ before after : List Effect, h.log = before ++ .destroyLayers :: after →
    Effect.beginDrain ∈ before ∧ Effect.drainProcessed ∈ before ∧
      ∀ (lease : ReadLease) (submission plane : Nat),
        Effect.accepted lease submission plane false ∈ h.log →
          Returned before lease submission plane
  refused : ∀ before after : List Effect, h.log = before ++ .closeRequested :: after →
    acceptances after = []

theorem start_close (maxAllocationsPerPlane : Nat) (world : W) :
    CloseInv (Host.start maxAllocationsPerPlane world).session
      (Host.start maxAllocationsPerPlane world).log :=
  ⟨by simp [Host.start], by simp [Host.start], fun _ => rfl, by simp [Host.start],
    by simp [Host.start, acceptances], rfl, by simp [Host.start], rfl, by simp [Host.start]⟩

variable {maxAllocationsPerPlane : Nat} {world : W} {trace : List (Host W × HostOp W)} {h : Host W}

theorem run_close (run : Trace (Host.step backend) (Host.start maxAllocationsPerPlane world) trace h) :
    CloseInv h.session h.log /\ LeaseInv h.session [] h.log := by
  have preserved : ∀ (h : Host W) (op : HostOp W) (t : Host W),
      CloseInv h.session h.log /\ LeaseInv h.session [] h.log -> Host.step backend h op t ->
      CloseInv t.session t.log /\ LeaseInv t.session [] t.log := by
    rintro h op t ⟨inv, leases⟩ ⟨allowed, rfl⟩
    exact ⟨next_close backend h op inv leases, next_inv backend h op leases allowed⟩
  exact run.preserves preserved ⟨start_close _ world, start_inv _ world⟩

theorem close_safe (run : Trace (Host.step backend) (Host.start maxAllocationsPerPlane world) trace h) :
    CloseSafe backend h := by
  obtain ⟨inv, -⟩ := run_close backend run
  exact ⟨next_forward backend h, inv.begun, inv.processed, inv.destroyed, inv.empty, inv.refused⟩

end

end ChromiumHmos.Overlay
