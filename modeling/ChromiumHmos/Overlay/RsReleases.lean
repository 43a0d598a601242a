import ChromiumHmos.Overlay.RsCoupling

set_option autoImplicit false

namespace ChromiumHmos.Overlay

open Std Transition OrderedMap

-- Submission, allocation and plane.
def Release.key (event : Release) : Nat × Nat × Nat :=
  (event.submission, event.allocation, event.plane)

def Slot.key (slot : Slot) : Nat × Nat × Nat := (slot.submission, slot.allocation, slot.plane)

def releasedKeys (log : List Effect) : List (Nat × Nat × Nat) :=
  log.filterMap fun effect => match effect with
    | .released event => some event.key
    | _ => none

def acceptedKeys (log : List Effect) : List (Nat × Nat × Nat) :=
  log.filterMap fun effect => match effect with
    | .accepted lease submission plane false => some (submission, lease.allocationId, plane)
    | _ => none

@[simp] theorem releasedKeys_append (log more : List Effect) :
    releasedKeys (log ++ more) = releasedKeys log ++ releasedKeys more :=
  List.filterMap_append

@[simp] theorem acceptedKeys_append (log more : List Effect) :
    acceptedKeys (log ++ more) = acceptedKeys log ++ acceptedKeys more :=
  List.filterMap_append

variable {log : List Effect}

theorem acceptedKeys_eq_nil (none : Host.acceptedObjects log = []) : acceptedKeys log = [] := by
  refine List.filterMap_eq_nil_iff.mpr fun effect mem => ?_
  have objects := List.filterMap_eq_nil_iff.mp none effect mem
  cases effect with
  | accepted => contradiction
  | _ => rfl

theorem acceptedKeys_nodup (increasing : (acceptances log).Pairwise Before) :
    (acceptedKeys log).Nodup := by
  have sub : ((acceptedKeys log).map fun key => (key.1, key.2.2)).Sublist (acceptances log) := by
    clear increasing
    induction log with
    | nil => exact .slnil
    | cons effect rest ih =>
      cases effect with
      | accepted lease submission plane reuse =>
        cases reuse with
        | true => exact ih.cons _
        | false => exact ih.cons_cons _
      | _ => exact ih
  have apart : ((acceptedKeys log).map fun key => (key.1, key.2.2)).Nodup := by
    refine (increasing.sublist sub).imp ?_
    rintro first second before rfl
    rcases before with less | ⟨-, zero, one⟩
    · exact absurd less (lt_irrefl _)
    · omega
  exact apart.of_map _

theorem releasedKeys_map (events : List Release) :
    releasedKeys (events.map .released) = events.map Release.key := by
  induction events with
  | nil => rfl
  | cons event rest ih => exact congrArg (event.key :: ·) ih

theorem releasedKeys_eq_nil (none : ∀ event, Effect.released event ∉ log) :
    releasedKeys log = [] := by
  refine List.filterMap_eq_nil_iff.mpr fun effect mem => ?_
  cases effect with
  | released event => exact absurd mem (none event)
  | _ => rfl

theorem destroyed_keys (leases : List ReadLease) : releasedKeys (leases.map .destroyed) = [] :=
  releasedKeys_eq_nil (by simp)

theorem ready_keys (leases : List ReadLease) : releasedKeys (leases.map .ready) = [] :=
  releasedKeys_eq_nil (by simp)

/-- Every use that was taken is still in a slot or was released, and only once. -/
def Balanced (w : RsWorld) (log : List Effect) : Prop :=
  (releasedKeys log ++ w.slots.map Slot.key).Perm (acceptedKeys log)

section

variable (fits : Rect → Rect → Rect → Nat → Nat → Bool)

theorem startDrain_slots (s : Session) (w : RsWorld) :
    (s.startDrain (RsWorld.backend fits) w).world.slots = w.slots /\
      releasedKeys (s.startDrain (RsWorld.backend fits) w).effects = [] := by
  unfold Session.startDrain
  split
  · refine ⟨?_, ?_⟩
    · show w.beginDrain.slots = w.slots
      unfold RsWorld.beginDrain
      split
      · rfl
      · exact ((background_unmoved { w with draining := true, attached := false }).trans
          ((background_unmoved _).trans (confirmedFlush_unmoved _))).slots
    · dsimp only
      split <;> rfl
  · exact ⟨rfl, rfl⟩

theorem finishDrain_slots (s : Session) (w : RsWorld) :
    (s.finishDrain (RsWorld.backend fits) w).world.slots = w.slots /\
      releasedKeys (s.finishDrain (RsWorld.backend fits) w).effects = [] := by
  unfold Session.finishDrain
  split
  · refine ⟨?_, rfl⟩
    show w.destroyLayers.slots = w.slots
    unfold RsWorld.destroyLayers
    split <;> rfl
  · exact ⟨rfl, rfl⟩

variable {s : Session} {w : RsWorld} {log : List Effect}

theorem poll_balanced (balanced : Balanced w log) :
    Balanced (s.poll (RsWorld.backend fits) w).world
      (log ++ (s.poll (RsWorld.backend fits) w).effects) := by
  have accepted := acceptedKeys_eq_nil (poll_accepts (RsWorld.backend fits) s w)
  unfold Balanced
  rw [acceptedKeys_append, accepted, List.append_nil]
  refine List.Perm.trans ?_ balanced
  by_cases closed : s.state = .closed
  · rw [poll_closed _ s w closed, releasedKeys_append]
    dsimp only
    rw [destroyed_keys, List.append_nil]
  · rw [poll_open _ s w closed]
    dsimp only
    obtain ⟨events, unmoved⟩ := pollReleases_emits w
    have slots : (s.retiring (RsWorld.backend fits) w).world.slots =
        w.slots.filter fun slot => !w.isReturned slot := unmoved.slots
    have released : releasedKeys (s.retiring (RsWorld.backend fits) w).effects =
        (w.slots.filter w.isReturned).map Slot.key := by
      have polled : (RsWorld.backend fits).pollReleases w = w.pollReleases := rfl
      simp only [Session.retiring, polled, releasedKeys_append, events, releasedKeys_map]
      rw [destroyed_keys, ready_keys]
      simp [RsWorld.emitReleases, Slot.key, Release.key, Slot.release, Function.comp_def]
    obtain ⟨started, noStart⟩ := startDrain_slots fits (s.retiring (RsWorld.backend fits) w).session
      (s.retiring (RsWorld.backend fits) w).world
    generalize Session.startDrain (RsWorld.backend fits) (s.retiring (RsWorld.backend fits) w).session
      (s.retiring (RsWorld.backend fits) w).world = start at started noStart ⊢
    obtain ⟨finished, noFinish⟩ := finishDrain_slots fits start.session start.world
    rw [finished, started, slots]
    simp only [releasedKeys_append, released, noStart, noFinish, List.append_nil]
    rw [destroyed_keys, List.append_nil, List.append_assoc, <- List.map_append]
    refine List.Perm.append_left _ (List.Perm.map _ ?_)
    exact List.filter_append_perm _ _

omit fits in
theorem holdPlane_keys (s : Session) (u : RsWorld) (p : Plane) (sequence plane : Nat) :
    releasedKeys (s.holdPlane p sequence plane).2 = [] /\
      acceptedKeys (s.holdPlane p sequence plane).2 =
        (planeSlots u sequence p plane).map Slot.key := by
  unfold Session.holdPlane planeSlots
  cases p.lease with
  | none =>
    refine ⟨rfl, ?_⟩
    cases p.reuse <;> rfl
  | some lease =>
    unfold Session.hold
    dsimp only
    split
    · exact ⟨rfl, rfl⟩
    · split <;> exact ⟨rfl, rfl⟩

omit fits in
theorem holdVideo_keys (s : Session) (u : RsWorld) (video : Option Plane) (sequence : Nat) :
    releasedKeys (s.holdVideo video sequence).2 = [] /\
      acceptedKeys (s.holdVideo video sequence).2 =
        (video.toList.flatMap fun video => planeSlots u sequence video 1).map Slot.key := by
  cases video with
  | none => exact ⟨rfl, rfl⟩
  | some video =>
    simp only [Option.toList_some, List.flatMap_cons, List.flatMap_nil, List.append_nil]
    exact holdPlane_keys s u video sequence 1

variable {v : RsWorld} {f : Frame} {batch : Batch} {effects : List Effect}

theorem accept_balanced (balanced : Balanced w (log ++ effects))
    (prepared : w.prepare fits (s.lastSubmission + 1) f = (v, some batch)) :
    Balanced (s.accept (RsWorld.backend fits) v f batch (s.lastSubmission + 1) effects).step.world
      (log ++
        (s.accept (RsWorld.backend fits) v f batch (s.lastSubmission + 1) effects).step.effects) := by
  obtain ⟨rfl, -, slots, unrouted, distinct⟩ := prepare_spec fits w v _ f batch prepared
  have unmoved := commit_unmoved v batch (by rw [slots]; exact unrouted) (by rw [slots]; exact distinct)
  rw [slots] at unmoved
  obtain ⟨noPrimary, primary⟩ := holdPlane_keys s v f.primary (s.lastSubmission + 1) 0
  obtain ⟨noVideo, video⟩ := holdVideo_keys (s.holdPlane f.primary (s.lastSubmission + 1) 0).1 v
    f.video (s.lastSubmission + 1)
  have after : (s.accept (RsWorld.backend fits) v f batch (s.lastSubmission + 1)
      effects).step.world.slots = v.slots ++ frameSlots v (s.lastSubmission + 1) f := unmoved.slots
  unfold Balanced at balanced ⊢
  rw [after]
  unfold Session.accept
  dsimp only
  rw [<- List.append_assoc, <- List.append_assoc]
  simp only [releasedKeys_append, acceptedKeys_append, noPrimary, noVideo, primary, video,
    List.append_nil, List.append_assoc, frameSlots, List.map_append] at balanced ⊢
  simpa only [List.append_assoc] using balanced.append_right _

theorem submit_balanced (balanced : Balanced w log) (f : Frame) :
    Balanced (s.submit (RsWorld.backend fits) w f).step.world
      (log ++ (s.submit (RsWorld.backend fits) w f).step.effects) := by
  have polled := poll_balanced fits (s := s) balanced
  unfold Session.submit
  split
  · simpa using balanced
  split
  · simpa using balanced
  dsimp only
  split
  · exact polled
  · split
    · rename_i after prepared
      rw [prepared_world fits prepared]
      exact polled
    · rename_i after batch prepared
      exact accept_balanced fits polled prepared

omit fits in
theorem holdPlane_new (s : Session) (p : Plane) (sequence plane id : Nat) (held : Held)
    (found : (s.holdPlane p sequence plane).1.leases[id]? = some held) :
    s.leases[id]? = some held \/ (p.reuse = false /\ held.plane = plane) := by
  unfold Session.holdPlane at found
  cases taken : p.lease with
  | none =>
    rw [taken] at found
    exact .inl found
  | some lease =>
    rw [taken] at found
    unfold Session.hold at found
    dsimp only at found
    split at found
    · exact .inl found
    · rename_i new
      rw [ExtTreeMap.getElem?_insertIfNew] at found
      split at found
      · exact .inr ⟨Bool.eq_false_iff.mpr new, Option.some.inj found ▸ rfl⟩
      · exact .inl found

-- No slot and no lease of the latest submission on this plane.
def NothingNew (step : Session.Step RsWorld) (plane : Nat) : Prop :=
  (∀ slot ∈ step.world.slots, slot.submission = step.session.lastSubmission → slot.plane ≠ plane) ∧
    ∀ (id : Nat) (held : Held), step.session.leases[id]? = some held →
      held.submission = step.session.lastSubmission → held.plane ≠ plane

theorem accept_reuse
    (slotsOld : ∀ slot ∈ w.slots, slot.submission <= s.lastSubmission)
    (leasesOld : ∀ (id : Nat) (held : Held), s.leases[id]? = some held ->
      held.submission <= s.lastSubmission)
    (prepared : w.prepare fits (s.lastSubmission + 1) f = (v, some batch)) :
    (f.primary.reuse -> NothingNew
      (s.accept (RsWorld.backend fits) v f batch (s.lastSubmission + 1) effects).step 0) /\
    ∀ video ∈ f.video, video.reuse -> NothingNew
      (s.accept (RsWorld.backend fits) v f batch (s.lastSubmission + 1) effects).step 1 := by
  obtain ⟨rfl, -, slots, unrouted, distinct⟩ := prepare_spec fits w v _ f batch prepared
  have unmoved := commit_unmoved v batch (by rw [slots]; exact unrouted) (by rw [slots]; exact distinct)
  rw [slots] at unmoved
  have after : (s.accept (RsWorld.backend fits) v f batch (s.lastSubmission + 1)
      effects).step.world.slots = v.slots ++ frameSlots v (s.lastSubmission + 1) f := unmoved.slots
  have newSlot : ∀ slot ∈ v.slots ++ frameSlots v (s.lastSubmission + 1) f,
      slot.submission = s.lastSubmission + 1 ->
        (slot.plane = 0 /\ f.primary.reuse = false) \/
          (slot.plane = 1 /\ ∃ video ∈ f.video, video.reuse = false) := by
    intro slot mem latest
    rcases List.mem_append.mp mem with old | new
    · have bound := slotsOld slot old
      omega
    · rcases List.mem_append.mp new with primary | video
      · refine .inl ⟨(planeSlots_plane v _ _ _ slot primary).2, ?_⟩
        by_contra reuse
        simp [planeSlots, reuse] at primary
      · obtain ⟨video, present, inside⟩ := List.mem_flatMap.mp video
        refine .inr ⟨(planeSlots_plane v _ _ _ slot inside).2, video, Option.mem_toList.mp present, ?_⟩
        by_contra reuse
        simp [planeSlots, reuse] at inside
  have newLease : ∀ (id : Nat) (held : Held),
      ((s.holdPlane f.primary (s.lastSubmission + 1) 0).1.holdVideo f.video
        (s.lastSubmission + 1)).1.leases[id]? = some held ->
      held.submission = s.lastSubmission + 1 ->
        (held.plane = 0 /\ f.primary.reuse = false) \/
          (held.plane = 1 /\ ∃ video ∈ f.video, video.reuse = false) := by
    intro id held found latest
    have first : (s.holdPlane f.primary (s.lastSubmission + 1) 0).1.leases[id]? = some held ->
        held.plane = 0 /\ f.primary.reuse = false := by
      intro found
      rcases holdPlane_new s f.primary _ 0 id held found with old | ⟨new, plane⟩
      · have bound := leasesOld id held old
        omega
      · exact ⟨plane, new⟩
    cases present : f.video with
    | none =>
      rw [present] at found
      exact .inl (first found)
    | some video =>
      rw [present] at found
      rcases holdPlane_new _ video _ 1 id held found with old | ⟨new, plane⟩
      · exact .inl (first old)
      · exact .inr ⟨plane, video, rfl, new⟩
  constructor
  · intro reuse
    refine ⟨fun slot mem latest => ?_, fun id held found latest => ?_⟩
    · rw [after] at mem
      rcases newSlot slot mem latest with ⟨-, new⟩ | ⟨plane, -⟩
      · rw [reuse] at new
        contradiction
      · omega
    · rcases newLease id held found latest with ⟨-, new⟩ | ⟨plane, -⟩
      · rw [reuse] at new
        contradiction
      · omega
  · intro video present reuse
    refine ⟨fun slot mem latest => ?_, fun id held found latest => ?_⟩
    · rw [after] at mem
      rcases newSlot slot mem latest with ⟨plane, -⟩ | ⟨-, other, there, new⟩
      · omega
      · obtain rfl := Option.some.inj (Option.mem_def.mp present ▸ Option.mem_def.mp there)
        rw [reuse] at new
        contradiction
    · rcases newLease id held found latest with ⟨plane, -⟩ | ⟨-, other, there, new⟩
      · omega
      · obtain rfl := Option.some.inj (Option.mem_def.mp present ▸ Option.mem_def.mp there)
        rw [reuse] at new
        contradiction

variable {maxAllocationsPerPlane : Nat}

theorem submit_reuse
    (c : Coupled s w) (p : Phased s w) (leases : LeaseInv s [] log)
    (submits : SubmitInv maxAllocationsPerPlane s log) (f : Frame)
    (accepted : (s.submit (RsWorld.backend fits) w f).result = .accepted) :
    (f.primary.reuse -> NothingNew (s.submit (RsWorld.backend fits) w f).step 0) /\
    ∀ video ∈ f.video, video.reuse ->
      NothingNew (s.submit (RsWorld.backend fits) w f).step 1 := by
  obtain ⟨c', -⟩ := poll_coupled fits c p
  have leases' := poll_inv (RsWorld.backend fits) leases w
  have submits' := submits.shrinks (poll_shrinks (RsWorld.backend fits) s w)
    (poll_accepts (RsWorld.backend fits) s w)
  have old : ∀ (id : Nat) (held : Held),
      (s.poll (RsWorld.backend fits) w).session.leases[id]? = some held ->
      held.submission <= (s.poll (RsWorld.backend fits) w).session.lastSubmission := by
    intro id held found
    have entry : (held.submission, held.plane) ∈
        acceptances (log ++ (s.poll (RsWorld.backend fits) w).effects) :=
      List.mem_filterMap.mpr ⟨_, (leases'.backed id held found).accepted, rfl⟩
    exact submits'.latest _ entry
  unfold Session.submit at accepted ⊢
  split at accepted
  · contradiction
  split at accepted
  · contradiction
  rename_i running refused
  rw [if_neg running, if_neg refused]
  dsimp only at accepted ⊢
  split at accepted
  · rename_i result refusal
    have bad : result = .accepted := accepted
    rw [bad] at refusal
    unfold Session.refusal at refusal
    split at refusal
    · contradiction
    split at refusal
    · contradiction
    split at refusal
    · contradiction
    split at refusal <;> contradiction
  · rename_i passed
    split at accepted
    · contradiction
    · rename_i after batch prepared
      exact accept_reuse fits c'.bound old prepared

omit fits in
theorem react_keys (w : RsWorld) (event : RsWorld.RsEvent) :
    (w.react event).slots.map Slot.key = w.slots.map Slot.key := by
  have modified (submission plane : Nat) (f : Slot -> Slot) (same : ∀ slot, (f slot).key = slot.key) :
      (w.modifySlot submission plane f).slots.map Slot.key = w.slots.map Slot.key := by
    unfold RsWorld.modifySlot
    rw [List.map_map]
    refine List.map_congr_left fun slot _ => ?_
    dsimp only [Function.comp_apply]
    split
    · exact same slot
    · rfl
  cases event with
  | record sequence node rc =>
    show (w.onRecord sequence node rc).slots.map Slot.key = _
    rcases onRecord_eq w sequence node rc with same | ⟨submission, plane, changed⟩
    · rw [same]
    · rw [changed]
      refine modified submission plane _ fun slot => ?_
      split <;> rfl
  | callback submission plane fence =>
    refine modified submission plane _ fun slot => ?_
    split <;> rfl
  | acknowledge timestamp => rfl
  | install sequence =>
    unfold RsWorld.react
    dsimp only
    split <;> rfl
  | drop sequence =>
    unfold RsWorld.react
    dsimp only
    split <;> rfl
  | answers platform => rfl

structure RsInv (maxAllocationsPerPlane : Nat) (h : Host RsWorld) : Prop where
  tables : Coupled h.session h.world
  phase : Phased h.session h.world
  balanced : Balanced h.world h.log
  leases : LeaseInv h.session [] h.log
  submits : SubmitInv maxAllocationsPerPlane h.session h.log

theorem next_rsInv (h : Host RsWorld) (op : HostOp RsWorld)
    (inv : RsInv maxAllocationsPerPlane h) (allowed : RsHost.permitted h op) :
    RsInv maxAllocationsPerPlane (RsHost.next fits h op) := by
  have leases := next_inv (RsWorld.backend fits) h op inv.leases allowed.1
  have submits := next_submitInv (RsWorld.backend fits) h op inv.submits
  cases op with
  | submit frame =>
    obtain ⟨tables, phase⟩ := submit_coupled fits inv.tables inv.phase frame
    exact ⟨tables, phase, submit_balanced fits inv.balanced frame, leases, submits⟩
  | poll =>
    obtain ⟨tables, phase⟩ := poll_coupled fits inv.tables inv.phase
    exact ⟨tables, phase, poll_balanced fits inv.balanced, leases, submits⟩
  | close =>
    obtain ⟨tables, phase⟩ := close_coupled fits inv.tables inv.phase
    refine ⟨tables, phase, ?_, leases, submits⟩
    have requested : Balanced h.world (h.log ++ [.closeRequested]) := by
      have none : releasedKeys [.closeRequested] = [] /\ acceptedKeys [.closeRequested] = [] :=
        ⟨rfl, rfl⟩
      unfold Balanced
      rw [releasedKeys_append, acceptedKeys_append, none.1, none.2, List.append_nil,
        List.append_nil]
      exact inv.balanced
    have polled := poll_balanced fits
      (s := if h.session.state = .running then { h.session with state := .waitingForCommands }
        else h.session) requested
    rw [List.append_assoc] at polled
    exact polled
  | world after =>
    obtain ⟨event, rfl⟩ := allowed.2 after rfl
    obtain ⟨tables, phase⟩ := react_coupled inv.tables inv.phase event
    refine ⟨tables, phase, ?_, leases, submits⟩
    have keys : (h.world.react event).slots.map Slot.key = h.world.slots.map Slot.key :=
      react_keys h.world event
    show Balanced (h.world.react event) h.log
    unfold Balanced
    rw [keys]
    exact inv.balanced

theorem start_rsInv (maxAllocationsPerPlane : Nat) (platform : Platform)
    (others : ExtTreeMap Nat Unit) :
    RsInv maxAllocationsPerPlane (RsHost.start maxAllocationsPerPlane platform others) := by
  have unmoved := confirmedFlush_unmoved { routes := others.map fun _ _ => .foreign, platform }
  have slots : (RsWorld.initialized platform others).slots = [] := unmoved.slots
  have foreign : ∀ (sequence submission plane : Nat),
      (RsWorld.initialized platform others).routes[sequence]? ≠ some (.own submission plane) := by
    intro sequence submission plane route
    have routes : (RsWorld.initialized platform others).routes = others.map fun _ _ => .foreign :=
      unmoved.routes
    rw [routes, ExtTreeMap.getElem?_map, Option.map_eq_some_iff] at route
    obtain ⟨-, -, same⟩ := route
    contradiction
  refine ⟨⟨?_, ?_, ?_, ?_, ?_, ?_⟩, ⟨unmoved.draining, ?_, unmoved.destroyed, unmoved.aborted⟩, ?_,
    start_inv _ _, ?_⟩
  · simp [RsHost.start, Host.start, slots]
  · simp [RsHost.start, Host.start, slots]
  · simp [RsHost.start, Host.start]
  · simp [RsHost.start, Host.start, slots]
  · simp [RsHost.start, Host.start, slots]
  · intro sequence submission plane route
    exact absurd route (foreign sequence submission plane)
  · show (RsWorld.initialized platform others).attached = !(RsWorld.initialized platform others).draining
    rw [show (RsWorld.initialized platform others).attached = true from unmoved.attached,
      show (RsWorld.initialized platform others).draining = false from unmoved.draining]
    rfl
  · simp [Balanced, RsHost.start, Host.start, slots, releasedKeys, acceptedKeys]
  · exact ⟨rfl, by simp [RsHost.start, Host.start], by
      simp [RsHost.start, Host.start, Session.allocations], .nil,
      by simp [RsHost.start, Host.start, acceptances], by simp [RsHost.start, Host.start]⟩

structure RsSafe (h : Host RsWorld) : Prop where
  held : ∀ slot ∈ h.world.slots, ∃ held, h.session.leases[slot.allocation]? = some held ∧
    held.submission = slot.submission ∧ held.plane = slot.plane ∧ held.released = false
  routed : ∀ slot ∈ h.world.slots, h.world.routes[slot.sequence]? = some slot.route
  owned : ∀ (sequence submission plane : Nat),
    h.world.routes[sequence]? = some (.own submission plane) →
      ∃ slot ∈ h.world.slots, slot.sequence = sequence ∧ slot.route = .own submission plane
  distinct : (h.world.slots.map Slot.route).Nodup
  /-- Every event finds an unreleased lease of its own, and releases it. -/
  matched : ∀ event ∈ h.world.pollReleases.2, ∃ held,
    h.session.leases[event.allocation]? = some held ∧ held.submission = event.submission ∧
      held.plane = event.plane ∧ held.released = false ∧
      (h.world.pollReleases.2.foldl Session.noteRelease h.session.leases)[event.allocation]? =
        some { held with released := true, fenceReady := true }
  reuse : ∀ f, (h.session.submit (RsWorld.backend fits) h.world f).result = .accepted →
    (f.primary.reuse →
      NothingNew (h.session.submit (RsWorld.backend fits) h.world f).step 0) ∧
    ∀ video ∈ f.video, video.reuse →
      NothingNew (h.session.submit (RsWorld.backend fits) h.world f).step 1
  /-- A use that was taken is still in its slot or got its one release. -/
  once : ∀ (lease : ReadLease) (submission plane : Nat),
    Effect.accepted lease submission plane false ∈ h.log →
      (releasedKeys h.log).count (submission, lease.allocationId, plane) +
        (h.world.slots.map Slot.key).count (submission, lease.allocationId, plane) = 1
  taken : ∀ key ∈ releasedKeys h.log, key ∈ acceptedKeys h.log
  alive : h.world.aborted = false

theorem RsInv.safe {h : Host RsWorld}
    (inv : RsInv maxAllocationsPerPlane h) : RsSafe fits h where
  held := inv.tables.held
  routed := inv.tables.routed
  owned := inv.tables.owned
  distinct := inv.tables.distinct
  matched := by
    rw [(pollReleases_emits h.world).1]
    exact emitted_held inv.tables
  reuse := fun f accepted =>
    submit_reuse fits inv.tables inv.phase inv.leases inv.submits f accepted
  once := by
    intro lease submission plane accepted
    have taken : (submission, lease.allocationId, plane) ∈ acceptedKeys h.log :=
      List.mem_filterMap.mpr ⟨_, accepted, rfl⟩
    have one := List.count_eq_one_of_mem (acceptedKeys_nodup inv.submits.increasing) taken
    have same := inv.balanced.count_eq (submission, lease.allocationId, plane)
    rw [List.count_append, one] at same
    exact same
  taken := fun key mem => inv.balanced.subset (List.mem_append_left _ mem)
  alive := inv.phase.aborted

theorem rs_safe {maxAllocationsPerPlane : Nat} {platform : Platform} {others : ExtTreeMap Nat Unit}
    {trace : List (Host RsWorld × HostOp RsWorld)} {h : Host RsWorld}
    (run : Trace (RsHost.step fits) (RsHost.start maxAllocationsPerPlane platform others) trace h) :
    RsSafe fits h := by
  have preserved : ∀ (h : Host RsWorld) (op : HostOp RsWorld) (t : Host RsWorld),
      RsInv maxAllocationsPerPlane h → RsHost.step fits h op t → RsInv maxAllocationsPerPlane t := by
    rintro h op t inv ⟨allowed, rfl⟩
    exact next_rsInv fits h op inv allowed
  exact (run.preserves preserved (start_rsInv maxAllocationsPerPlane platform others)).safe fits

end

abbrev RsCall := RsWorld.RsEvent ⊕ HostOp RsWorld

def RsCall.op (h : Host RsWorld) : RsCall → HostOp RsWorld
  | .inl event => .world (h.world.react event)
  | .inr op => op

theorem event_permitted (h : Host RsWorld) (event : RsWorld.RsEvent) :
    RsHost.permitted h (RsCall.op h (.inl event)) :=
  ⟨trivial, fun _ same => ⟨event, (HostOp.world.inj same).symm⟩⟩

theorem calls_run (fits : Rect -> Rect -> Rect -> Nat -> Nat -> Bool) (calls : List RsCall)
    (h : Host RsWorld) (follows : Follows (fun h call => RsHost.permitted h (RsCall.op h call))
      (fun h call => RsHost.next fits h (RsCall.op h call)) h calls) :
    ∃ trace, Trace (RsHost.step fits) h trace
      (calls.foldl (fun h call => RsHost.next fits h (RsCall.op h call)) h) := by
  induction calls generalizing h with
  | nil => exact ⟨[], .nil h⟩
  | cons call rest ih =>
    obtain ⟨trace, run⟩ := ih _ follows.2
    exact ⟨_, .cons ⟨follows.1, rfl⟩ run⟩

-- The system acknowledges the start, takes a frame, and gives its buffer back with no fence.
def returnedCalls : List RsCall :=
  [.inl (.acknowledge 1), .inr (.submit (webFrame 1 10)), .inl (.record 1 0 0),
    .inl (.callback 1 0 (-1)), .inr .poll]

def returnedHost : Host RsWorld :=
  returnedCalls.foldl (fun h call => RsHost.next (fun _ _ _ _ _ => true) h (RsCall.op h call))
    (RsHost.start 4 { config := fun _ => ⟨16, 16, .rgba8⟩ } ∅)

theorem rs_safe_returned :
    RsSafe (fun _ _ _ _ _ => true) returnedHost ∧
      Effect.destroyed (webLease 1 10) ∈ returnedHost.log := by
  obtain ⟨trace, run⟩ := calls_run (fun _ _ _ _ _ => true) returnedCalls
    (RsHost.start 4 { config := fun _ => ⟨16, 16, .rgba8⟩ } ∅)
    ⟨event_permitted _ _, ⟨⟨by decide, fun _ _ => List.not_mem_nil⟩, fun _ same => nomatch same⟩,
      event_permitted _ _, event_permitted _ _, ⟨trivial, fun _ same => nomatch same⟩, trivial⟩
  exact ⟨rs_safe (fun _ _ _ _ _ => true) run, by decide +kernel⟩

end ChromiumHmos.Overlay
