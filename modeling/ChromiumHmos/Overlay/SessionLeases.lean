import ChromiumHmos.Overlay.Session

set_option autoImplicit false

namespace ChromiumHmos.Overlay

open Std Transition OrderedMap

def Release.names (event : Release) (lease : ReadLease) (submission plane : Nat) : Prop :=
  event.submission = submission ∧ event.allocation = lease.allocationId ∧ event.plane = plane

/-- The server and the fence gave this use of the lease back, by one event about it alone. -/
def Returned (log : List Effect) (lease : ReadLease) (submission plane : Nat) : Prop :=
  ∃ first rest : List Effect, log = first ++ .accepted lease submission plane false :: rest ∧
    (∃ event, Effect.released event ∈ rest ∧ event.names lease submission plane ∧
      event.serverReturned ∧ event.releaseFenceSignaled) ∧
    Effect.ready lease ∈ rest

def Backed (log : List Effect) (held : Held) : Prop :=
  ∃ first rest : List Effect,
    log = first ++ .accepted held.lease held.submission held.plane false :: rest ∧
    (held.released → ∃ event, Effect.released event ∈ rest ∧
      event.names held.lease held.submission held.plane ∧ event.serverReturned) ∧
    (held.fenceReady → ∃ event, Effect.released event ∈ rest ∧
      event.names held.lease held.submission held.plane ∧
      event.serverReturned ∧ event.releaseFenceSignaled)

variable {log : List Effect}

variable {lease : ReadLease} {submission plane : Nat}

theorem Returned.append
    (returned : Returned log lease submission plane) (more : List Effect) :
    Returned (log ++ more) lease submission plane := by
  obtain ⟨first, rest, rfl, ⟨event, seen, facts⟩, ready⟩ := returned
  exact ⟨first, rest ++ more, by simp, ⟨event, List.mem_append_left _ seen, facts⟩,
    List.mem_append_left _ ready⟩

theorem Returned.accepted
    (returned : Returned log lease submission plane) :
    Effect.accepted lease submission plane false ∈ log := by
  obtain ⟨first, rest, rfl, -⟩ := returned
  simp

theorem Backed.append {held : Held} (backed : Backed log held)
    (more : List Effect) : Backed (log ++ more) held := by
  obtain ⟨first, rest, rfl, released, fence⟩ := backed
  refine ⟨first, rest ++ more, by simp, fun flag => ?_, fun flag => ?_⟩
  · obtain ⟨event, seen, facts⟩ := released flag
    exact ⟨event, List.mem_append_left _ seen, facts⟩
  · obtain ⟨event, seen, facts⟩ := fence flag
    exact ⟨event, List.mem_append_left _ seen, facts⟩

theorem Backed.accepted {held : Held} (backed : Backed log held) :
    Effect.accepted held.lease held.submission held.plane false ∈ log := by
  obtain ⟨first, rest, rfl, -⟩ := backed
  simp

def LogSafe (log : List Effect) : Prop :=
  ∀ (before after : List Effect) (lease : ReadLease), log = before ++ .destroyed lease :: after →
    (∃ submission plane, Effect.accepted lease submission plane true ∈ before) ∨
      ∃ submission plane, Returned before lease submission plane

theorem LogSafe.append {more : List Effect} (safe : LogSafe log)
    (new : ∀ (before after : List Effect) (lease : ReadLease),
      more = before ++ .destroyed lease :: after ->
      (∃ submission plane, Effect.accepted lease submission plane true ∈ log) \/
        ∃ submission plane, Returned log lease submission plane) : LogSafe (log ++ more) := by
  intro before after lease split
  rcases List.append_eq_append_iff.mp split with ⟨extra, rfl, rest⟩ | ⟨extra, rfl, rest⟩
  · rcases new extra after lease rest with ⟨submission, plane, mem⟩ | ⟨submission, plane, returned⟩
    · exact .inl ⟨submission, plane, List.mem_append_left _ mem⟩
    · exact .inr ⟨submission, plane, returned.append extra⟩
  · cases extra with
    | nil =>
      simpa using new [] after lease rest.symm
    | cons head tail =>
      obtain ⟨rfl, rfl⟩ := List.cons.inj rest
      exact safe before tail lease rfl

def destroyedObjects (log : List Effect) : List Nat :=
  log.filterMap fun effect => match effect with
    | .destroyed lease => some lease.object
    | _ => none

@[simp] theorem destroyedObjects_append (log more : List Effect) :
    destroyedObjects (log ++ more) = destroyedObjects log ++ destroyedObjects more :=
  List.filterMap_append

@[simp] theorem acceptedObjects_append (log more : List Effect) :
    Host.acceptedObjects (log ++ more) = Host.acceptedObjects log ++ Host.acceptedObjects more :=
  List.filterMap_append

def Neutral (effects : List Effect) : Prop :=
  Host.acceptedObjects effects = [] ∧ destroyedObjects effects = []

theorem mem_destroyedObjects
    (mem : Effect.destroyed lease ∈ log) : lease.object ∈ destroyedObjects log :=
  List.mem_filterMap.mpr ⟨_, mem, rfl⟩

theorem LogSafe.quiet {effects : List Effect} (safe : LogSafe log)
    (none : destroyedObjects effects = []) : LogSafe (log ++ effects) := by
  refine safe.append fun before after lease split => ?_
  have mem : Effect.destroyed lease ∈ effects := by simp [split]
  have found := mem_destroyedObjects mem
  rw [none] at found
  contradiction

theorem destroyed_objects (leases : List ReadLease) :
    destroyedObjects (leases.map .destroyed) = leases.map ReadLease.object /\
      Host.acceptedObjects (leases.map .destroyed) = [] := by
  induction leases with
  | nil => exact ⟨rfl, rfl⟩
  | cons lease rest ih =>
    simp only [destroyedObjects, Host.acceptedObjects] at ih
    simp [destroyedObjects, Host.acceptedObjects, ih.1, ih.2]

def heldCount (leases : ExtTreeMap Nat Held) (object : Nat) : Nat :=
  total (fun _ held => if held.lease.object = object then 1 else 0) leases

/-- `limbo`: the leases of the local `retired`, out of the routing and not yet destroyed. -/
structure LeaseInv (s : Session) (limbo : List ReadLease) (log : List Effect) : Prop where
  keyed : ∀ (id : Nat) (held : Held), s.leases[id]? = some held → held.lease.allocationId = id
  backed : ∀ (id : Nat) (held : Held), s.leases[id]? = some held → Backed log held
  repeated : ∀ lease ∈ s.redundant, ∃ submission plane,
    Effect.accepted lease submission plane true ∈ log
  returned : ∀ lease ∈ limbo, ∃ submission plane, Returned log lease submission plane
  ledger : ∀ object, (Host.acceptedObjects log).count object =
    heldCount s.leases object + (s.redundant.map ReadLease.object).count object +
      (limbo.map ReadLease.object).count object + (destroyedObjects log).count object
  distinct : (Host.acceptedObjects log).Nodup
  safe : LogSafe log

variable {s : Session}

theorem LeaseInv.neutral {t : Session} {limbo : List ReadLease} {effects : List Effect}
    (inv : LeaseInv s limbo log) (neutral : Neutral effects) (leases : t.leases = s.leases)
    (redundant : t.redundant = s.redundant) : LeaseInv t limbo (log ++ effects) where
  keyed := by
    rw [leases]
    exact inv.keyed
  backed := by
    rw [leases]
    exact fun id held found => (inv.backed id held found).append effects
  repeated := by
    rw [redundant]
    intro lease mem
    obtain ⟨submission, plane, accepted⟩ := inv.repeated lease mem
    exact ⟨submission, plane, List.mem_append_left _ accepted⟩
  returned := by
    intro lease mem
    obtain ⟨submission, plane, returned⟩ := inv.returned lease mem
    exact ⟨submission, plane, returned.append effects⟩
  ledger := by
    intro object
    rw [acceptedObjects_append, destroyedObjects_append, neutral.1, neutral.2, List.append_nil,
      List.append_nil, leases, redundant]
    exact inv.ledger object
  distinct := by
    rw [acceptedObjects_append, neutral.1, List.append_nil]
    exact inv.distinct
  safe := inv.safe.quiet neutral.2

theorem heldCount_rewrite (leases : ExtTreeMap Nat Held) (id object : Nat) (old new : Held)
    (found : leases[id]? = some old) (same : new.lease = old.lease) :
    heldCount (leases.insert id new) object = heldCount leases object := by
  have moved := total_insert_found (fun _ held : _ => if held.lease.object = object then 1 else 0)
    leases id old new found
  simp only [same] at moved
  simpa [heldCount] using moved

theorem drop_inv (inv : LeaseInv s [] log) :
    LeaseInv { s with redundant := [] } [] (log ++ s.redundant.map .destroyed) where
  keyed := inv.keyed
  backed := fun id held found => (inv.backed id held found).append _
  repeated := by simp
  returned := by simp
  ledger := by
    intro object
    obtain ⟨destroyed, accepted⟩ := destroyed_objects s.redundant
    have before := inv.ledger object
    simp only [acceptedObjects_append, destroyedObjects_append, destroyed, accepted,
      List.count_append, List.map_nil, List.count_nil] at before ⊢
    omega
  distinct := by
    rw [acceptedObjects_append, (destroyed_objects s.redundant).2, List.append_nil]
    exact inv.distinct
  safe := by
    refine inv.safe.append fun before after lease split => .inl ?_
    have mem : Effect.destroyed lease ∈ s.redundant.map Effect.destroyed := by simp [split]
    obtain ⟨other, inside, same⟩ := List.mem_map.mp mem
    obtain rfl := Effect.destroyed.inj same
    exact inv.repeated other inside

theorem noteRelease_inv (inv : LeaseInv s [] log) (event : Release) :
    LeaseInv { s with leases := Session.noteRelease s.leases event } []
      (log ++ [.released event]) := by
  have noted : LeaseInv s [] (log ++ [.released event]) := inv.neutral ⟨rfl, rfl⟩ rfl rfl
  cases found : s.leases[event.allocation]? with
  | none => simpa only [Session.noteRelease, found] using noted
  | some held =>
    by_cases other : held.submission ≠ event.submission \/ held.plane ≠ event.plane
    · simpa only [Session.noteRelease, found, if_pos other] using noted
    · simp only [Session.noteRelease, found, if_neg other]
      have names : event.names held.lease held.submission held.plane := by
        simp only [not_or, not_not] at other
        exact ⟨other.1.symm, (inv.keyed _ _ found).symm, other.2.symm⟩
      have known := inv.keyed _ held found
      refine ⟨?_, ?_, noted.repeated, noted.returned, ?_, noted.distinct, noted.safe⟩
      · intro id entry present
        rcases (getElem?_insert_some _ _ _ _ _).mp present with ⟨rfl, rfl⟩ | ⟨-, old⟩
        · exact known
        · exact inv.keyed _ _ old
      · intro id entry present
        rcases (getElem?_insert_some _ _ _ _ _).mp present with ⟨rfl, rfl⟩ | ⟨-, old⟩
        · -- Each flag was up before, or this event puts it up.
          obtain ⟨first, rest, rfl, released, fence⟩ := inv.backed _ _ found
          refine ⟨first, rest ++ [.released event], by simp, fun flag => ?_, fun flag => ?_⟩
          · rcases Bool.or_eq_true_iff.mp flag with flag | flag
            · obtain ⟨earlier, seen, facts⟩ := released flag
              exact ⟨earlier, List.mem_append_left _ seen, facts⟩
            · exact ⟨event, by simp, names, flag⟩
          · rcases Bool.or_eq_true_iff.mp flag with flag | flag
            · obtain ⟨earlier, seen, facts⟩ := fence flag
              exact ⟨earlier, List.mem_append_left _ seen, facts⟩
            · exact ⟨event, by simp, names, Bool.and_eq_true_iff.mp flag⟩
        · exact noted.backed id entry old
      · intro object
        have same := heldCount_rewrite s.leases event.allocation object held
          { held with
            released := held.released || event.serverReturned
            fenceReady := held.fenceReady ||
              (event.serverReturned && event.releaseFenceSignaled) } found rfl
        rw [same]
        exact noted.ledger object

theorem noteReleases_inv (events : List Release) (inv : LeaseInv s [] log) :
    LeaseInv { s with leases := events.foldl Session.noteRelease s.leases } []
      (log ++ events.map .released) := by
  induction events generalizing s log with
  | nil => simpa using inv
  | cons event rest ih =>
    have next := ih (noteRelease_inv inv event)
    simpa using next

section

variable {W P : Type} (backend : Backend W P)

theorem heldCount_retire (leases : ExtTreeMap Nat Held) (w : W) (object : Nat) :
    heldCount (leases.filter fun _ held => !Session.retires backend w held) object +
      ((Session.retiredLeases backend w leases).map ReadLease.object).count object =
        heldCount leases object := by
  have split := total_filter (fun _ held : _ => if held.lease.object = object then 1 else 0) leases
    fun _ held => !Session.retires backend w held
  simp only [Bool.not_not] at split
  rw [heldCount, heldCount, <- split, Session.retiredLeases]
  congr 1
  induction leases.toList.filter fun entry => Session.retires backend w entry.2 with
  | nil => rfl
  | cons head rest ih =>
    simp only [List.map_cons, List.count_cons, List.sum_cons, beq_iff_eq, ih]
    omega

theorem ready_neutral (leases : List ReadLease) : Neutral (leases.map .ready) := by
  induction leases with
  | nil => exact ⟨rfl, rfl⟩
  | cons lease rest ih =>
    simp only [Neutral, Host.acceptedObjects, destroyedObjects] at ih
    simp [Neutral, Host.acceptedObjects, destroyedObjects, ih.1, ih.2]

variable {s : Session} {log : List Effect}

theorem retire_inv (inv : LeaseInv s [] log) (w : W) :
    LeaseInv { s with leases := s.leases.filter fun _ held => !Session.retires backend w held }
      (Session.retiredLeases backend w s.leases)
      (log ++ (Session.retiredLeases backend w s.leases).map .ready) := by
  have neutral := ready_neutral (Session.retiredLeases backend w s.leases)
  have noted := inv.neutral (t := s) neutral rfl rfl
  have kept : ∀ (id : Nat) (held : Held),
      (s.leases.filter fun _ held => !Session.retires backend w held)[id]? = some held ->
      s.leases[id]? = some held := by
    intro id held found
    rw [ExtTreeMap.getElem?_filter'] at found
    exact (Option.filter_eq_some_iff.mp found).1
  refine ⟨fun id held found => inv.keyed id held (kept id held found),
    fun id held found => noted.backed id held (kept id held found), noted.repeated, ?_, ?_,
    noted.distinct, noted.safe⟩
  · intro lease mem
    obtain ⟨⟨id, held⟩, entry, rfl⟩ := List.mem_map.mp mem
    obtain ⟨present, retires⟩ := List.mem_filter.mp entry
    have found := ExtTreeMap.mem_toList_iff_getElem?_eq_some.mp present
    simp only [Session.retires, Bool.and_eq_true] at retires
    obtain ⟨first, rest, rfl, -, fence⟩ := inv.backed id held found
    obtain ⟨event, seen, facts⟩ := fence retires.1.2
    refine ⟨held.submission, held.plane, first,
      rest ++ (Session.retiredLeases backend w s.leases).map .ready, by simp,
      ⟨event, List.mem_append_left _ seen, facts⟩, List.mem_append_right _ ?_⟩
    exact List.mem_map_of_mem mem
  · intro object
    have moved := heldCount_retire backend s.leases w object
    have before := noted.ledger object
    simp only [List.map_nil, List.count_nil] at before
    dsimp only
    omega

theorem destroy_inv {limbo : List ReadLease}
    (inv : LeaseInv s limbo log) : LeaseInv s [] (log ++ limbo.map .destroyed) where
  keyed := inv.keyed
  backed := fun id held found => (inv.backed id held found).append _
  repeated := by
    intro lease mem
    obtain ⟨submission, plane, accepted⟩ := inv.repeated lease mem
    exact ⟨submission, plane, List.mem_append_left _ accepted⟩
  returned := by simp
  ledger := by
    intro object
    obtain ⟨destroyed, accepted⟩ := destroyed_objects limbo
    have before := inv.ledger object
    simp only [acceptedObjects_append, destroyedObjects_append, destroyed, accepted,
      List.count_append, List.map_nil, List.count_nil] at before ⊢
    omega
  distinct := by
    rw [acceptedObjects_append, (destroyed_objects limbo).2, List.append_nil]
    exact inv.distinct
  safe := by
    refine inv.safe.append fun before after lease split => .inr ?_
    have mem : Effect.destroyed lease ∈ limbo.map Effect.destroyed := by simp [split]
    obtain ⟨other, inside, same⟩ := List.mem_map.mp mem
    obtain rfl := Effect.destroyed.inj same
    exact inv.returned other inside

theorem startDrain_quiet (s : Session) (w : W) :
    Neutral (Session.startDrain backend s w).effects /\
      (Session.startDrain backend s w).session.leases = s.leases /\
      (Session.startDrain backend s w).session.redundant = s.redundant := by
  unfold Session.startDrain
  split
  · refine ⟨?_, rfl, rfl⟩
    split <;> exact ⟨rfl, rfl⟩
  · exact ⟨⟨rfl, rfl⟩, rfl, rfl⟩

theorem finishDrain_quiet (s : Session) (w : W) :
    Neutral (Session.finishDrain backend s w).effects /\
      (Session.finishDrain backend s w).session.leases = s.leases /\
      (Session.finishDrain backend s w).session.redundant = s.redundant := by
  unfold Session.finishDrain
  split <;> exact ⟨⟨rfl, rfl⟩, rfl, rfl⟩

-- What a poll of an open session does before the handshake.
def Session.retiring (s : Session) (w : W) : Session.Step W :=
  let after := (backend.pollReleases w).1
  let events := (backend.pollReleases w).2
  let leases := events.foldl Session.noteRelease s.leases
  ⟨{ s with
      leases := leases.filter fun _ held => !Session.retires backend after held
      redundant := [] }, after,
    s.redundant.map .destroyed ++ events.map .released ++
      (Session.retiredLeases backend after leases).map .ready⟩

-- The leases a poll of an open session takes out of the routing.
def Session.limbo (s : Session) (w : W) : List ReadLease :=
  Session.retiredLeases backend (backend.pollReleases w).1
    ((backend.pollReleases w).2.foldl Session.noteRelease s.leases)

theorem poll_closed (s : Session) (w : W) (closed : s.state = .closed) :
    s.poll backend w = ⟨{ s with redundant := [] }, w, s.redundant.map .destroyed⟩ := by
  unfold Session.poll
  exact if_pos closed

theorem poll_open (s : Session) (w : W) (unfinished : s.state ≠ .closed) :
    s.poll backend w =
      let retired := s.retiring backend w
      let start := Session.startDrain backend retired.session retired.world
      let finish := Session.finishDrain backend start.session start.world
      ⟨finish.session, finish.world,
        retired.effects ++ start.effects ++ finish.effects ++
          (s.limbo backend w).map .destroyed⟩ := by
  unfold Session.poll
  exact if_neg unfinished

theorem retiring_inv (inv : LeaseInv s [] log) (w : W) :
    LeaseInv (s.retiring backend w).session (s.limbo backend w)
      (log ++ (s.retiring backend w).effects) := by
  have noted := noteReleases_inv (backend.pollReleases w).2 (drop_inv inv)
  have retired := retire_inv backend noted (backend.pollReleases w).1
  unfold Session.retiring Session.limbo
  simpa only [List.append_assoc] using retired

theorem poll_inv (inv : LeaseInv s [] log) (w : W) :
    LeaseInv (s.poll backend w).session [] (log ++ (s.poll backend w).effects) := by
  by_cases closed : s.state = .closed
  · rw [poll_closed backend s w closed]
    exact drop_inv inv
  · rw [poll_open backend s w closed]
    have retired := retiring_inv backend inv w
    generalize s.retiring backend w = stage at retired ⊢
    obtain ⟨quiet, leases, redundant⟩ := startDrain_quiet backend stage.session stage.world
    have started := retired.neutral quiet leases redundant
    dsimp only
    generalize Session.startDrain backend stage.session stage.world = start at started ⊢
    obtain ⟨quiet, leases, redundant⟩ := finishDrain_quiet backend start.session start.world
    have destroyed := destroy_inv (started.neutral quiet leases redundant)
    simpa only [List.append_assoc] using destroyed

theorem released_neutral (events : List Release) : Neutral (events.map .released) := by
  induction events with
  | nil => exact ⟨rfl, rfl⟩
  | cons event rest ih =>
    simp only [Neutral, Host.acceptedObjects, destroyedObjects] at ih
    simp [Neutral, Host.acceptedObjects, destroyedObjects, ih.1, ih.2]

theorem poll_accepts (s : Session) (w : W) :
    Host.acceptedObjects (s.poll backend w).effects = [] := by
  unfold Session.poll
  dsimp only
  split
  · exact (destroyed_objects s.redundant).2
  · simp only [acceptedObjects_append, (destroyed_objects _).2, (released_neutral _).1,
      (ready_neutral _).1, (startDrain_quiet backend _ _).1.1,
      (finishDrain_quiet backend _ _).1.1, List.append_nil]

theorem close_accepts (s : Session) (w : W) :
    Host.acceptedObjects (s.close backend w).effects = [] :=
  poll_accepts backend _ w

theorem close_inv (inv : LeaseInv s [] log) (w : W) :
    LeaseInv (s.close backend w).session [] (log ++ (s.close backend w).effects) := by
  unfold Session.close
  dsimp only
  have requested : LeaseInv
      (if s.state = .running then { s with state := .waitingForCommands } else s) []
      (log ++ [.closeRequested]) := by
    split <;> exact inv.neutral ⟨rfl, rfl⟩ rfl rfl
  have polled := poll_inv backend requested w
  simpa only [List.append_assoc, List.singleton_append] using polled

end

theorem hold_inv (inv : LeaseInv s [] log) (p : Plane) (lease : ReadLease) (sequence plane : Nat)
    (new : lease.object ∉ Host.acceptedObjects log)
    (room : p.reuse = false -> s.leases[lease.allocationId]? = none) :
    LeaseInv (s.hold p lease sequence plane).1 [] (log ++ (s.hold p lease sequence plane).2) := by
  unfold Session.hold
  dsimp only
  have distinct : (Host.acceptedObjects log ++ [lease.object]).Nodup :=
    List.nodup_append.mpr ⟨inv.distinct, List.nodup_singleton _, by
      rintro object mem _ only rfl
      exact new (List.mem_singleton.mp only ▸ mem)⟩
  split
  · refine ⟨inv.keyed, fun id held found => (inv.backed id held found).append _, ?_, by simp, ?_,
      ?_, ?_⟩
    · intro other mem
      rcases List.mem_append.mp mem with mem | mem
      · obtain ⟨submission, plane, accepted⟩ := inv.repeated other mem
        exact ⟨submission, plane, List.mem_append_left _ accepted⟩
      · rw [List.mem_singleton.mp mem]
        exact ⟨sequence, plane, by simp⟩
    · intro object
      have before := inv.ledger object
      simp only [acceptedObjects_append, destroyedObjects_append, List.map_append,
        List.count_append, List.map_nil, List.count_nil] at before ⊢
      simp only [Host.acceptedObjects, destroyedObjects, List.filterMap_cons, List.filterMap_nil,
        List.map_cons, List.map_nil, List.count_nil] at before ⊢
      omega
    · rw [acceptedObjects_append]
      exact distinct
    · exact inv.safe.quiet rfl
  · rename_i fresh
    have absent := room (by simpa using fresh)
    rw [absent, insertIfNew_fresh _ _ _ absent]
    refine ⟨?_, ?_, fun other mem => ?_, by simp, ?_, ?_, ?_⟩
    · intro id held found
      rcases (getElem?_insert_some _ _ _ _ _).mp found with ⟨rfl, rfl⟩ | ⟨-, old⟩
      · rfl
      · exact inv.keyed id held old
    · intro id held found
      rcases (getElem?_insert_some _ _ _ _ _).mp found with ⟨rfl, rfl⟩ | ⟨-, old⟩
      · exact ⟨log, [], rfl, fun flag => absurd flag (by simp), fun flag => absurd flag (by simp)⟩
      · exact (inv.backed id held old).append _
    · obtain ⟨submission, plane, accepted⟩ := inv.repeated other mem
      exact ⟨submission, plane, List.mem_append_left _ accepted⟩
    · intro object
      have before := inv.ledger object
      have moved := total_insert_fresh
        (fun _ held : _ => if held.lease.object = object then 1 else 0) s.leases lease.allocationId
        { submission := sequence, plane, lease, format := p.format, width := p.width
          height := p.height, color := p.color } absent
      simp only [acceptedObjects_append, destroyedObjects_append, List.count_append, List.map_nil,
        List.count_nil] at before ⊢
      simp only [heldCount] at before ⊢
      rw [moved]
      simp [Host.acceptedObjects, destroyedObjects, List.count_cons] at before ⊢
      omega
    · rw [acceptedObjects_append]
      exact distinct
    · exact inv.safe.quiet rfl

theorem holdPlane_inv (inv : LeaseInv s [] log) (p : Plane) (sequence plane : Nat)
    (new : ∀ lease ∈ p.lease, lease.object ∉ Host.acceptedObjects log)
    (room : ∀ lease ∈ p.lease, p.reuse = false -> s.leases[lease.allocationId]? = none) :
    LeaseInv (s.holdPlane p sequence plane).1 [] (log ++ (s.holdPlane p sequence plane).2) := by
  unfold Session.holdPlane
  cases taken : p.lease with
  | none => simpa using inv
  | some lease => exact hold_inv inv p lease sequence plane (new lease taken) (room lease taken)

theorem holdVideo_inv (inv : LeaseInv s [] log) (video : Option Plane) (sequence : Nat)
    (new : ∀ lease ∈ video.bind Plane.lease, lease.object ∉ Host.acceptedObjects log)
    (room : ∀ plane ∈ video, ∀ lease ∈ plane.lease, plane.reuse = false ->
      s.leases[lease.allocationId]? = none) :
    LeaseInv (s.holdVideo video sequence).1 [] (log ++ (s.holdVideo video sequence).2) := by
  unfold Session.holdVideo
  cases video with
  | none =>
    have same : LeaseInv { s with current := Function.update s.current 1 0 } [] (log ++ []) :=
      inv.neutral ⟨rfl, rfl⟩ rfl rfl
    exact same
  | some plane => exact holdPlane_inv inv plane sequence 1 new (room plane rfl)

theorem holdPlane_else (s : Session) (p : Plane) (sequence plane : Nat) :
    (∀ id, (∀ lease ∈ p.lease, lease.allocationId ≠ id) ->
      (s.holdPlane p sequence plane).1.leases[id]? = s.leases[id]?) /\
    Host.acceptedObjects (s.holdPlane p sequence plane).2 =
      p.lease.toList.map ReadLease.object := by
  unfold Session.holdPlane
  cases p.lease with
  | none => exact ⟨fun _ _ => rfl, rfl⟩
  | some lease =>
    unfold Session.hold
    dsimp only
    split
    · exact ⟨fun _ _ => rfl, rfl⟩
    · refine ⟨fun id other => ?_, by split <;> rfl⟩
      have distinct : ¬ compare lease.allocationId id = .eq := fun equal =>
        other lease rfl (LawfulEqCmp.eq_of_compare equal)
      rw [ExtTreeMap.getElem?_insertIfNew, if_neg fun both => distinct both.1]

section

variable {W P : Type} (backend : Backend W P)

theorem refusal_none {s : Session} {w : W} {f : Frame} (passed : s.refusal backend w f = none) :
    s.blocked f.primary 0 = false /\ (∀ video ∈ f.video, s.blocked video 1 = false) /\
      s.reusable f.primary 0 = true /\ (∀ video ∈ f.video, s.reusable video 1 = true) /\
      s.lastSubmission ≠ UInt64.size - 1 := by
  unfold Session.refusal at passed
  split at passed
  · contradiction
  split at passed
  · contradiction
  split at passed
  · contradiction
  split at passed
  · contradiction
  rename_i reusable blocked last
  simp only [not_or, Bool.not_eq_true, Option.any_eq_false, decide_eq_false_iff_not,
    Bool.not_eq_false] at reusable blocked
  exact ⟨blocked.1, blocked.2, reusable.1, reusable.2, last⟩

theorem blocked_fresh {s : Session} {p : Plane} {plane : Nat} (free : s.blocked p plane = false)
    (lease : ReadLease) (taken : lease ∈ p.lease) (new : p.reuse = false) :
    s.leases[lease.allocationId]? = none := by
  have taken : p.lease = some lease := taken
  simp only [Session.blocked, new, taken, Bool.not_false, Bool.true_and, Bool.or_eq_false_iff,
    Option.isSome_eq_false_iff, Option.isNone_iff_eq_none] at free
  exact free.2

theorem valid_apart {f : Frame} (valid : f.Valid = true) (video : Plane) (present : f.video = some video)
    (first second : ReadLease) (primary : f.primary.lease = some first)
    (taken : video.lease = some second) : first.allocationId ≠ second.allocationId := by
  intro same
  simp [Frame.Valid, present, primary, taken, same] at valid

theorem submit_inv {s : Session} {log : List Effect} (inv : LeaseInv s [] log) (w : W) (f : Frame)
    (distinct : ((Host.frameLeases f).map ReadLease.object).Nodup)
    (new : ∀ lease ∈ Host.frameLeases f, lease.object ∉ Host.acceptedObjects log) :
    LeaseInv (s.submit backend w f).step.session []
      (log ++ (s.submit backend w f).step.effects) := by
  unfold Session.submit
  split
  · simpa using inv
  split
  · simpa using inv
  rename_i refused
  dsimp only
  have polled := poll_inv backend inv w
  split
  · exact polled
  · rename_i passed
    split
    · exact polled
    · rename_i after batch _
      have valid : f.Valid = true := not_not.mp fun invalid => refused (.inl invalid)
      obtain ⟨primaryFree, videoFree, -⟩ := refusal_none backend passed
      have fresh : ∀ lease ∈ Host.frameLeases f,
          lease.object ∉ Host.acceptedObjects (log ++ (s.poll backend w).effects) := by
        rw [acceptedObjects_append, poll_accepts, List.append_nil]
        exact new
      simp only [Host.frameLeases, List.mem_append, Option.mem_toList] at fresh
      obtain ⟨others, objects⟩ := holdPlane_else (s.poll backend w).session f.primary
        ((s.poll backend w).session.lastSubmission + 1) 0
      have first := holdPlane_inv polled f.primary
        ((s.poll backend w).session.lastSubmission + 1) 0
        (fun lease taken => fresh lease (.inl taken))
        fun lease taken => blocked_fresh primaryFree lease taken
      have second := holdVideo_inv first f.video
        ((s.poll backend w).session.lastSubmission + 1)
        (fun lease taken => by
          rw [acceptedObjects_append, objects, List.mem_append, not_or]
          refine ⟨fresh lease (.inr taken), fun mem => ?_⟩
          rw [Host.frameLeases, List.map_append, List.nodup_append] at distinct
          exact distinct.2.2 _ mem lease.object
            (List.mem_map_of_mem (Option.mem_toList.mpr taken)) rfl)
        fun video present lease taken renewed => by
          rw [others]
          · exact blocked_fresh (videoFree video present) lease taken renewed
          · exact fun other primary => valid_apart valid video present other lease primary taken
      have accepted : LeaseInv ((s.poll backend w).session.accept backend after f batch
          ((s.poll backend w).session.lastSubmission + 1) (s.poll backend w).effects).step.session
          [] (_ ++ []) := second.neutral ⟨rfl, rfl⟩ rfl rfl
      simpa only [Session.accept, List.append_assoc, List.append_nil] using accepted

theorem next_inv (h : Host W) (op : HostOp W) (inv : LeaseInv h.session [] h.log)
    (allowed : h.permitted op) : LeaseInv (h.next backend op).session [] (h.next backend op).log := by
  cases op with
  | submit frame => exact submit_inv backend inv h.world frame allowed.1 allowed.2
  | poll => exact poll_inv backend inv h.world
  | close => exact close_inv backend inv h.world
  | world after => exact inv

theorem start_inv (maxAllocationsPerPlane : Nat) (world : W) :
    LeaseInv (Host.start maxAllocationsPerPlane world).session []
      (Host.start maxAllocationsPerPlane world).log :=
  ⟨by simp [Host.start], by simp [Host.start], by simp [Host.start], by simp,
    by simp [Host.start, Host.acceptedObjects, destroyedObjects, heldCount],
    by simp [Host.start, Host.acceptedObjects], by simp [Host.start, LogSafe]⟩

theorem run_inv {maxAllocationsPerPlane : Nat} {world : W} {trace : List (Host W × HostOp W)}
    {h : Host W} (run : Trace (Host.step backend) (Host.start maxAllocationsPerPlane world) trace h) :
    LeaseInv h.session [] h.log := by
  have preserved : ∀ (h : Host W) (op : HostOp W) (t : Host W), LeaseInv h.session [] h.log ->
      Host.step backend h op t -> LeaseInv t.session [] t.log := by
    rintro h op t inv ⟨allowed, rfl⟩
    exact next_inv backend h op inv allowed
  exact run.preserves preserved (start_inv _ world)

end

theorem accepted_unique (distinct : (Host.acceptedObjects log).Nodup)
    {first second : ReadLease} {submission' plane' : Nat} {reuse reuse' : Bool}
    (one : Effect.accepted first submission plane reuse ∈ log)
    (other : Effect.accepted second submission' plane' reuse' ∈ log)
    (same : first.object = second.object) :
    Effect.accepted first submission plane reuse = .accepted second submission' plane' reuse' := by
  induction log with
  | nil => contradiction
  | cons head rest ih =>
    have later : (Host.acceptedObjects rest).Nodup := by
      cases head <;> first | exact distinct | exact (List.nodup_cons.mp distinct).2
    have absent : ∀ lease submission plane reuse,
        head = .accepted lease submission plane reuse ->
        ∀ other submission' plane' reuse', Effect.accepted other submission' plane' reuse' ∈ rest ->
          lease.object ≠ other.object := by
      rintro lease submission plane reuse rfl other submission' plane' reuse' mem same
      refine (List.nodup_cons.mp distinct).1 (same ▸ ?_)
      exact List.mem_filterMap.mpr ⟨_, mem, rfl⟩
    rcases List.mem_cons.mp one with here | one <;> rcases List.mem_cons.mp other with there | other
    · exact here.trans there.symm
    · exact absurd same (absent _ _ _ _ here.symm _ _ _ _ other)
    · exact absurd same.symm (absent _ _ _ _ there.symm _ _ _ _ one)
    · exact ih later one other

namespace LeaseInv

variable {s : Session} {limbo : List ReadLease} {log : List Effect}

theorem destroyed_accepted (inv : LeaseInv s limbo log) (lease : ReadLease)
    (destroyed : Effect.destroyed lease ∈ log) :
    ∃ submission plane reuse, Effect.accepted lease submission plane reuse ∈ log := by
  obtain ⟨before, after, split⟩ := List.append_of_mem destroyed
  rw [split]
  rcases inv.safe before after lease split with ⟨submission, plane, mem⟩ |
    ⟨submission, plane, returned⟩
  · exact ⟨submission, plane, true, List.mem_append_left _ mem⟩
  · exact ⟨submission, plane, false, List.mem_append_left _ returned.accepted⟩

variable {lease : ReadLease} {submission plane : Nat}

theorem same_use (inv : LeaseInv s limbo log) {part : List Effect} {submission' plane' : Nat}
    (accepted : Effect.accepted lease submission plane false ∈ log)
    (returned : Returned part lease submission' plane') (inside : ∀ effect ∈ part, effect ∈ log) :
    Returned part lease submission plane := by
  have same := accepted_unique inv.distinct accepted (inside _ returned.accepted) rfl
  simp only [Effect.accepted.injEq, true_and, and_true] at same
  rw [same.1, same.2]
  exact returned

theorem destroyed_returned (inv : LeaseInv s limbo log) {before after : List Effect} (split : log = before ++ .destroyed lease :: after)
    (accepted : Effect.accepted lease submission plane false ∈ log) :
    Returned before lease submission plane := by
  have inside : ∀ effect ∈ before, effect ∈ log := by
    intro effect mem
    rw [split]
    exact List.mem_append_left _ mem
  rcases inv.safe before after lease split with ⟨submission', plane', mem⟩ |
    ⟨submission', plane', returned⟩
  · exact absurd (accepted_unique inv.distinct accepted (inside _ mem) rfl) (by simp)
  · exact inv.same_use accepted returned inside

theorem place (inv : LeaseInv s limbo log)
    (accepted : Effect.accepted lease submission plane false ∈ log) :
    (∃ held, s.leases[lease.allocationId]? = some held /\ held.lease = lease /\
      held.submission = submission /\ held.plane = plane) \/
      lease ∈ limbo \/ Effect.destroyed lease ∈ log := by
  by_contra elsewhere
  obtain ⟨notHeld, notLimbo, kept⟩ : _ /\ _ /\ _ := by
    simpa only [not_or] using elsewhere
  have present : lease.object ∈ Host.acceptedObjects log :=
    List.mem_filterMap.mpr ⟨_, accepted, rfl⟩
  have taken := List.count_pos_iff.mpr present
  have ledger := inv.ledger lease.object
  have gone : (destroyedObjects log).count lease.object = 0 := by
    refine List.count_eq_zero.mpr fun mem => ?_
    obtain ⟨effect, inside, object⟩ := List.mem_filterMap.mp mem
    cases effect with
    | destroyed other =>
      obtain ⟨submission', plane', reuse, found⟩ := inv.destroyed_accepted other inside
      have same := accepted_unique inv.distinct accepted found (Option.some.inj object).symm
      simp only [Effect.accepted.injEq] at same
      exact kept (same.1 ▸ inside)
    | _ => contradiction
  have single : (s.redundant.map ReadLease.object).count lease.object = 0 := by
    refine List.count_eq_zero.mpr fun mem => ?_
    obtain ⟨other, inside, object⟩ := List.mem_map.mp mem
    obtain ⟨submission', plane', found⟩ := inv.repeated other inside
    exact absurd (accepted_unique inv.distinct accepted found object.symm) (by simp)
  have staying : (limbo.map ReadLease.object).count lease.object = 0 := by
    refine List.count_eq_zero.mpr fun mem => ?_
    obtain ⟨other, inside, object⟩ := List.mem_map.mp mem
    obtain ⟨submission', plane', returned⟩ := inv.returned other inside
    have same := accepted_unique inv.distinct accepted returned.accepted object.symm
    simp only [Effect.accepted.injEq, and_true] at same
    exact notLimbo (same.1 ▸ inside)
  have positive : heldCount s.leases lease.object ≠ 0 := by omega
  rw [heldCount, Ne, total_eq_zero] at positive
  push Not at positive
  obtain ⟨id, held, found, object⟩ := positive
  have object : held.lease.object = lease.object := by
    by_contra other
    simp [other] at object
  have same := accepted_unique inv.distinct accepted (inv.backed id held found).accepted object.symm
  simp only [Effect.accepted.injEq, and_true] at same
  obtain ⟨lease_, submission_, plane_⟩ := same
  refine notHeld ⟨held, ?_, lease_.symm, submission_.symm, plane_.symm⟩
  rw [lease_, inv.keyed id held found]
  exact found

theorem all_returned (inv : LeaseInv s limbo log)
    (empty : ∀ id : Nat, s.leases[id]? = none) (accepted : Effect.accepted lease submission plane false ∈ log) :
    Returned log lease submission plane := by
  rcases inv.place accepted with ⟨held, found, -⟩ | limbo | destroyed
  · rw [empty] at found
    contradiction
  · obtain ⟨submission', plane', returned⟩ := inv.returned lease limbo
    exact inv.same_use accepted returned fun _ mem => mem
  · obtain ⟨before, after, split⟩ := List.append_of_mem destroyed
    have returned := inv.destroyed_returned split accepted
    rw [split]
    exact returned.append _

end LeaseInv

structure LeasesSafe {W : Type} (h : Host W) : Prop where
  /-- No buffer goes back to its producer before the server and the fence gave this use back. -/
  returned : ∀ (before after : List Effect) (lease : ReadLease) (submission plane : Nat),
    h.log = before ++ .destroyed lease :: after →
    Effect.accepted lease submission plane false ∈ h.log → Returned before lease submission plane
  /-- A lease that was taken stays under its own key until then. -/
  stored : ∀ (lease : ReadLease) (submission plane : Nat),
    Effect.accepted lease submission plane false ∈ h.log → Effect.destroyed lease ∉ h.log →
    ∃ held, h.session.leases[lease.allocationId]? = some held ∧ held.lease = lease ∧
      held.submission = submission ∧ held.plane = plane
  once : ∀ object, (destroyedObjects h.log).count object ≤ 1

theorem LeaseInv.uses_safe {W : Type} {h : Host W} (inv : LeaseInv h.session [] h.log) :
    LeasesSafe h where
  returned := fun _ _ _ _ _ split accepted => inv.destroyed_returned split accepted
  stored := by
    intro lease submission plane accepted kept
    rcases inv.place accepted with held | limbo | destroyed
    · exact held
    · contradiction
    · exact absurd destroyed kept
  once := by
    intro object
    have bound := List.nodup_iff_count_le_one.mp inv.distinct object
    have ledger := inv.ledger object
    omega

/-- A backend that answers as its world says. -/
structure Script where
  events : List Release := []
  processed : Nat := 0
  drained : Bool := true
  prepares : Bool := true
  layers : Nat := 0

def scripted : Backend Script Unit where
  supports _ _ := true
  readyForFrame _ := true
  prepare w _ _ := (w, if w.prepares then some () else none)
  commit w _ := { w with layers := w.layers + 1 }
  pollReleases w := ({ w with events := [] }, w.events)
  commandsProcessed w submission := decide (submission ≤ w.processed)
  beginDrain w := w
  drainCommandsProcessed w := w.drained
  destroyLayers w := { w with layers := 0 }
  producerReady _ _ := true

def webLease (object allocationId : Nat) : ReadLease :=
  { object, allocationId, nativeBuffer := 1, acquireFence := -1 }

def webPlane (object allocationId : Nat) : Plane :=
  { lease := some (webLease object allocationId), width := 16, height := 16
    source := { width := .finite 16, height := .finite 16 }
    destination := { width := .finite 16, height := .finite 16 } }

def webFrame (object allocationId : Nat) : Frame := { primary := webPlane object allocationId }

-- An event for another submission of the same buffer comes before the one that frees it.
def returning : List (HostOp Script) :=
  [.submit (webFrame 1 10), .world { events := [⟨7, 10, 0, true, true⟩] }, .poll,
    .world { events := [⟨1, 10, 0, true, true⟩] }, .poll]

end ChromiumHmos.Overlay
