import ChromiumHmos.Overlay.SessionClose
import ChromiumHmos.Overlay.RsBackend

set_option autoImplicit false

namespace ChromiumHmos.Overlay

open Std Transition OrderedMap

/-- The slots of the backend are the unreleased leases of the session, and the routes that are the
backend's own lead to exactly its slots. -/
structure Coupled (s : Session) (w : RsWorld) : Prop where
  bound : ∀ slot ∈ w.slots, slot.submission ≤ s.lastSubmission
  held : ∀ slot ∈ w.slots, ∃ held, s.leases[slot.allocation]? = some held ∧
    held.submission = slot.submission ∧ held.plane = slot.plane ∧ held.released = false
  slot : ∀ (id : Nat) (held : Held), s.leases[id]? = some held → held.released = false →
    ∃ slot ∈ w.slots, slot.allocation = id ∧ slot.submission = held.submission ∧
      slot.plane = held.plane
  distinct : (w.slots.map Slot.route).Nodup
  routed : ∀ slot ∈ w.slots, w.routes[slot.sequence]? = some slot.route
  owned : ∀ (sequence submission plane : Nat), w.routes[sequence]? = some (.own submission plane) →
    ∃ slot ∈ w.slots, slot.sequence = sequence ∧ slot.route = .own submission plane

namespace Coupled

variable {s t : Session} {w v : RsWorld}

theorem framed (c : Coupled s w) (leases : t.leases = s.leases)
    (last : s.lastSubmission <= t.lastSubmission) (slots : v.slots = w.slots)
    (routes : v.routes = w.routes) : Coupled t v := by
  refine ⟨?_, ?_, ?_, ?_, ?_, ?_⟩
  · rw [slots]
    exact fun slot mem => (c.bound slot mem).trans last
  · rw [slots, leases]
    exact c.held
  · rw [slots, leases]
    exact c.slot
  · rw [slots]
    exact c.distinct
  · rw [slots, routes]
    exact c.routed
  · rw [slots, routes]
    exact c.owned

theorem same_slot (c : Coupled s w) {first second : Slot} (one : first ∈ w.slots)
    (other : second ∈ w.slots) (same : first.route = second.route) : first = second :=
  List.inj_on_of_nodup_map c.distinct one other same

theorem same_sequence (c : Coupled s w) {first second : Slot} (one : first ∈ w.slots)
    (other : second ∈ w.slots) (same : first.sequence = second.sequence) : first = second := by
  refine c.same_slot one other (Option.some.inj ?_)
  rw [<- c.routed first one, <- c.routed second other, same]

theorem same_allocation (c : Coupled s w) {first second : Slot} (one : first ∈ w.slots)
    (other : second ∈ w.slots) (same : first.allocation = second.allocation) : first = second := by
  obtain ⟨held, found, submission, plane, -⟩ := c.held first one
  obtain ⟨held', found', submission', plane', -⟩ := c.held second other
  rw [same, found'] at found
  obtain rfl := Option.some.inj found
  refine c.same_slot one other ?_
  rw [Slot.route, Slot.route, <- submission, <- plane, <- submission', <- plane']

theorem allocations_nodup (c : Coupled s w) : (w.slots.map Slot.allocation).Nodup := by
  have apart := List.pairwise_map.mp c.distinct
  refine List.pairwise_map.mpr (apart.imp_of_mem ?_)
  intro first second one other different same
  exact different (congrArg Slot.route (c.same_allocation one other same))

end Coupled

theorem Coupled.add {s t : Session} {w v : RsWorld} (c : Coupled s w) (slot : Slot) (held : Held)
    (submission : held.submission = slot.submission) (plane : held.plane = slot.plane)
    (flag : held.released = false) (room : s.leases[slot.allocation]? = none)
    (unrouted : w.routes[slot.sequence]? = none) (fresh : slot.route ∉ w.slots.map Slot.route)
    (leases : t.leases = s.leases.insert slot.allocation held)
    (last : s.lastSubmission <= t.lastSubmission) (bound : slot.submission <= t.lastSubmission)
    (slots : v.slots = w.slots ++ [slot])
    (routes : v.routes = w.routes.insert slot.sequence slot.route) : Coupled t v := by
  have member : ∀ other, other ∈ v.slots ↔ other ∈ w.slots \/ other = slot := by
    intro other
    rw [slots, List.mem_append, List.mem_singleton]
  refine ⟨?_, ?_, ?_, ?_, ?_, ?_⟩
  · intro other mem
    rcases (member other).mp mem with mem | rfl
    · exact (c.bound other mem).trans last
    · exact bound
  · intro other mem
    rw [leases]
    rcases (member other).mp mem with mem | rfl
    · obtain ⟨entry, found, facts⟩ := c.held other mem
      refine ⟨entry, ?_, facts⟩
      rw [getElem?_insert_of_ne _ _ _ _ (by rintro same; rw [same, room] at found; contradiction)]
      exact found
    · exact ⟨held, ExtTreeMap.getElem?_insert_self, submission, plane, flag⟩
  · intro id entry found unreleased
    rw [leases] at found
    rcases (getElem?_insert_some _ _ _ _ _).mp found with ⟨rfl, rfl⟩ | ⟨-, old⟩
    · exact ⟨slot, (member slot).mpr (.inr rfl), rfl, submission.symm, plane.symm⟩
    · obtain ⟨other, mem, facts⟩ := c.slot id entry old unreleased
      exact ⟨other, (member other).mpr (.inl mem), facts⟩
  · rw [slots, List.map_append]
    exact List.nodup_append.mpr ⟨c.distinct, List.nodup_singleton _, fun route mem other only same =>
      fresh (List.mem_singleton.mp only ▸ same ▸ mem)⟩
  · intro other mem
    rw [routes]
    rcases (member other).mp mem with mem | rfl
    · have present := c.routed other mem
      rw [getElem?_insert_of_ne _ _ _ _ (by rintro same; rw [same, unrouted] at present; contradiction)]
      exact present
    · exact ExtTreeMap.getElem?_insert_self
  · intro sequence submission plane route
    rw [routes] at route
    rcases (getElem?_insert_some _ _ _ _ _).mp route with ⟨rfl, leads⟩ | ⟨-, old⟩
    · exact ⟨slot, (member slot).mpr (.inr rfl), rfl, leads.symm⟩
    · obtain ⟨other, mem, facts⟩ := c.owned sequence submission plane old
      exact ⟨other, (member other).mpr (.inl mem), facts⟩

theorem noteRelease_other (leases : ExtTreeMap Nat Held) (slot : Slot) (id : Nat)
    (other : id ≠ slot.allocation) :
    (Session.noteRelease leases slot.release)[id]? = leases[id]? := by
  unfold Session.noteRelease
  cases found : leases[slot.release.allocation]? with
  | none => rfl
  | some held =>
    dsimp only
    split
    · rfl
    · exact getElem?_insert_of_ne _ _ _ _ other

theorem noteRelease_own (leases : ExtTreeMap Nat Held) (slot : Slot) (held : Held)
    (found : leases[slot.allocation]? = some held) (submission : held.submission = slot.submission)
    (plane : held.plane = slot.plane) :
    (Session.noteRelease leases slot.release)[slot.allocation]? =
      some { held with released := true, fenceReady := true } := by
  unfold Session.noteRelease
  have found : leases[slot.release.allocation]? = some held := found
  rw [found]
  dsimp only
  rw [if_neg (by simp [Slot.release, submission, plane])]
  simp [Slot.release]

theorem noteRelease_congr (leases leases' : ExtTreeMap Nat Held) (slot : Slot)
    (same : leases[slot.allocation]? = leases'[slot.allocation]?) :
    (Session.noteRelease leases slot.release)[slot.allocation]? =
      (Session.noteRelease leases' slot.release)[slot.allocation]? := by
  have key : slot.release.allocation = slot.allocation := rfl
  unfold Session.noteRelease
  rw [key, <- same]
  cases found : leases[slot.allocation]? with
  | none =>
    dsimp only
    rw [<- same]
  | some held =>
    dsimp only
    split
    · exact same
    · simp

section

variable {s : Session} {w : RsWorld}

theorem noteEmitted (c : Coupled s w) :
    (∀ slot ∈ w.slots, w.isReturned slot -> ∃ held, s.leases[slot.allocation]? = some held /\
      held.submission = slot.submission /\ held.plane = slot.plane /\ held.released = false /\
      (w.emitReleases.2.foldl Session.noteRelease s.leases)[slot.allocation]? =
        some { held with released := true, fenceReady := true }) /\
    ∀ id : Nat, (¬ ∃ slot ∈ w.slots, w.isReturned slot /\ slot.allocation = id) ->
      (w.emitReleases.2.foldl Session.noteRelease s.leases)[id]? = s.leases[id]? := by
  have events : w.emitReleases.2.foldl Session.noteRelease s.leases =
      (w.slots.filter w.isReturned).foldl
        (fun leases slot => Session.noteRelease leases slot.release) s.leases := by
    simp only [RsWorld.emitReleases, List.foldl_map]
  have others : ∀ slot ∈ w.slots.filter w.isReturned, ∀ (entries : ExtTreeMap Nat Held) (other : Nat),
      other ≠ slot.allocation ->
      (Session.noteRelease entries slot.release)[other]? = entries[other]? :=
    fun slot _ entries other different => noteRelease_other entries slot other different
  rw [events]
  constructor
  · intro slot mem returned
    have done : slot ∈ w.slots.filter w.isReturned := List.mem_filter.mpr ⟨mem, returned⟩
    obtain ⟨held, found, submission, plane, flag⟩ := c.held slot mem
    have own := foldl_own (fun leases slot => Session.noteRelease leases slot.release)
      Slot.allocation _ others (fun slot _ entries entries' => noteRelease_congr entries entries' slot)
      (c.allocations_nodup.sublist (List.filter_sublist.map _)) s.leases slot done
    refine ⟨held, found, submission, plane, flag, ?_⟩
    rw [own, noteRelease_own s.leases slot held found submission plane]
  · intro id none
    refine foldl_other (fun leases slot => Session.noteRelease leases slot.release) Slot.allocation
      _ others s.leases id fun slot mem same => none ?_
    obtain ⟨inside, returned⟩ := List.mem_filter.mp mem
    exact ⟨slot, inside, returned, same⟩

theorem retire_coupled (c : Coupled s w) (kept : Held -> Bool)
    (unreleased : ∀ held, held.released = false -> kept held) :
    Coupled { s with
      redundant := []
      leases := (w.emitReleases.2.foldl Session.noteRelease s.leases).filter fun _ held => kept held }
      w.emitReleases.1 := by
  have inside : ∀ slot, slot ∈ w.emitReleases.1.slots ↔ slot ∈ w.slots /\ w.isReturned slot = false := by
    intro slot
    simp [RsWorld.emitReleases, List.mem_filter]
  have waiting : ∀ slot ∈ w.slots, w.isReturned slot = false ->
      ¬ ∃ other ∈ w.slots, w.isReturned other /\ other.allocation = slot.allocation := by
    rintro slot mem out ⟨other, present, returned, same⟩
    rw [c.same_allocation present mem same, out] at returned
    contradiction
  have routes : ∀ (sequence : Nat) (route : Route),
      w.emitReleases.1.routes[sequence]? = some route ↔
        sequence ∉ (w.slots.filter w.isReturned).map Slot.sequence /\
          w.routes[sequence]? = some route := by
    intro sequence route
    rw [<- getElem?_foldl_erase, List.foldl_map]
    rfl
  refine ⟨?_, ?_, ?_, ?_, ?_, ?_⟩
  · intro slot mem
    exact c.bound slot ((inside slot).mp mem).1
  · intro slot mem
    obtain ⟨mem, out⟩ := (inside slot).mp mem
    obtain ⟨held, found, submission, plane, flag⟩ := c.held slot mem
    refine ⟨held, ?_, submission, plane, flag⟩
    dsimp only
    rw [ExtTreeMap.getElem?_filter', (noteEmitted c).2 slot.allocation (waiting slot mem out), found]
    simp [unreleased held flag]
  · intro id held found flag
    dsimp only at found
    rw [ExtTreeMap.getElem?_filter'] at found
    obtain ⟨noted, -⟩ := Option.filter_eq_some_iff.mp found
    have out : ¬ ∃ slot ∈ w.slots, w.isReturned slot /\ slot.allocation = id := by
      rintro ⟨slot, mem, returned, rfl⟩
      obtain ⟨old, -, -, -, -, marked⟩ := (noteEmitted c).1 slot mem returned
      rw [marked] at noted
      rw [<- Option.some.inj noted] at flag
      contradiction
    rw [(noteEmitted c).2 id out] at noted
    obtain ⟨slot, mem, allocation, submission, plane⟩ := c.slot id held noted flag
    refine ⟨slot, (inside slot).mpr ⟨mem, ?_⟩, allocation, submission, plane⟩
    exact Bool.eq_false_iff.mpr fun returned => out ⟨slot, mem, returned, allocation⟩
  · exact c.distinct.sublist (List.filter_sublist.map _)
  · intro slot mem
    obtain ⟨mem, out⟩ := (inside slot).mp mem
    refine (routes _ _).mpr ⟨fun erased => ?_, c.routed slot mem⟩
    obtain ⟨other, done, same⟩ := List.mem_map.mp erased
    obtain ⟨present, returned⟩ := List.mem_filter.mp done
    rw [c.same_sequence present mem same, out] at returned
    contradiction
  · intro sequence submission plane route
    obtain ⟨remains, present⟩ := (routes _ _).mp route
    obtain ⟨slot, mem, rfl, leads⟩ := c.owned sequence submission plane present
    refine ⟨slot, (inside slot).mpr ⟨mem, Bool.eq_false_iff.mpr fun returned => remains ?_⟩, rfl,
      leads⟩
    exact List.mem_map_of_mem (List.mem_filter.mpr ⟨mem, returned⟩)

theorem emitted_held (c : Coupled s w) (event : Release) (mem : event ∈ w.emitReleases.2) :
    ∃ held, s.leases[event.allocation]? = some held /\ held.submission = event.submission /\
      held.plane = event.plane /\ held.released = false /\
      (w.emitReleases.2.foldl Session.noteRelease s.leases)[event.allocation]? =
        some { held with released := true, fenceReady := true } := by
  obtain ⟨slot, done, rfl⟩ := List.mem_map.mp mem
  obtain ⟨inside, returned⟩ := List.mem_filter.mp done
  exact (noteEmitted c).1 slot inside returned

end

structure Unmoved (w v : RsWorld) : Prop where
  slots : v.slots = w.slots
  routes : v.routes = w.routes
  attached : v.attached = w.attached
  draining : v.draining = w.draining
  destroyed : v.destroyed = w.destroyed
  aborted : v.aborted = w.aborted

theorem Unmoved.refl (w : RsWorld) : Unmoved w w := ⟨rfl, rfl, rfl, rfl, rfl, rfl⟩

theorem Unmoved.trans {w v u : RsWorld} (first : Unmoved w v) (second : Unmoved v u) :
    Unmoved w u :=
  ⟨second.slots.trans first.slots, second.routes.trans first.routes,
    second.attached.trans first.attached, second.draining.trans first.draining,
    second.destroyed.trans first.destroyed, second.aborted.trans first.aborted⟩

theorem confirmedFlush_unmoved (w : RsWorld) : Unmoved w w.confirmedFlush := by
  unfold RsWorld.confirmedFlush
  cases w.platform.now with
  | none => exact ⟨rfl, rfl, rfl, rfl, rfl, rfl⟩
  | some now =>
    dsimp only
    split
    · exact ⟨rfl, rfl, rfl, rfl, rfl, rfl⟩
    · split <;> exact ⟨rfl, rfl, rfl, rfl, rfl, rfl⟩

theorem background_unmoved (w : RsWorld) : Unmoved w w.background := by
  unfold RsWorld.background
  split
  · exact .refl w
  · exact ⟨rfl, rfl, rfl, rfl, rfl, rfl⟩

theorem cleanVideo_unmoved (w : RsWorld) : Unmoved w w.cleanVideo := by
  unfold RsWorld.cleanVideo
  split
  · have flushed := (background_unmoved w).trans (confirmedFlush_unmoved w.background)
    exact ⟨flushed.slots, flushed.routes, flushed.attached, flushed.draining, flushed.destroyed,
      flushed.aborted⟩
  · exact .refl w

theorem replaceVideo_unmoved (w : RsWorld) : Unmoved w w.replaceVideo := by
  unfold RsWorld.replaceVideo
  split
  · split
    · have flushed := confirmedFlush_unmoved
        { w with nodes := Function.update w.nodes 1 w.nextNode, nextNode := w.nextNode + 1 }
      exact ⟨flushed.slots, flushed.routes, flushed.attached, flushed.draining, flushed.destroyed,
        flushed.aborted⟩
    · exact ⟨rfl, rfl, rfl, rfl, rfl, rfl⟩
  · exact .refl w

theorem finishVideo_unmoved (w : RsWorld) : Unmoved w w.finishVideo := by
  unfold RsWorld.finishVideo
  split <;> exact ⟨rfl, rfl, rfl, rfl, rfl, rfl⟩

theorem pollReleases_emits (w : RsWorld) :
    w.pollReleases.2 = w.emitReleases.2 /\ Unmoved w.emitReleases.1 w.pollReleases.1 := by
  unfold RsWorld.pollReleases
  dsimp only
  have video (v : RsWorld) : Unmoved v v.cleanVideo.replaceVideo.finishVideo :=
    (cleanVideo_unmoved v).trans ((replaceVideo_unmoved _).trans (finishVideo_unmoved _))
  split
  · have started : Unmoved w.emitReleases.1 { w with startupPending := false }.emitReleases.1 :=
      ⟨rfl, rfl, rfl, rfl, rfl, rfl⟩
    exact ⟨rfl, started.trans (video _)⟩
  · exact ⟨rfl, video _⟩

/-- The layers are where the state of the session says, and nothing ever aborted. -/
structure Phased (s : Session) (w : RsWorld) : Prop where
  draining : w.draining = decide (2 ≤ s.state.rank)
  attached : w.attached = !w.draining
  destroyed : w.destroyed = decide (s.state = .closed)
  aborted : w.aborted = false

theorem Phased.framed {s t : Session} {w v : RsWorld} (p : Phased s w) (unmoved : Unmoved w v)
    (draining : decide (2 <= t.state.rank) = decide (2 <= s.state.rank))
    (closed : decide (t.state = .closed) = decide (s.state = .closed)) : Phased t v := by
  refine ⟨?_, ?_, ?_, ?_⟩
  · rw [unmoved.draining, draining]
    exact p.draining
  · rw [unmoved.attached, unmoved.draining]
    exact p.attached
  · rw [unmoved.destroyed, closed]
    exact p.destroyed
  · rw [unmoved.aborted]
    exact p.aborted

section

variable (fits : Rect → Rect → Rect → Nat → Nat → Bool)

variable {s : Session} {w : RsWorld}

theorem startDrain_coupled (c : Coupled s w) (p : Phased s w) :
    Coupled (s.startDrain (RsWorld.backend fits) w).session
      (s.startDrain (RsWorld.backend fits) w).world /\
    Phased (s.startDrain (RsWorld.backend fits) w).session
      (s.startDrain (RsWorld.backend fits) w).world := by
  unfold Session.startDrain
  split
  · rename_i waiting
    have notDraining : w.draining = false := by
      rw [p.draining, waiting.1]
      rfl
    have begun : w.beginDrain =
        { w with draining := true, attached := false }.background.background.confirmedFlush := by
      unfold RsWorld.beginDrain
      rw [if_neg (by simp [notDraining])]
    have flushed := (background_unmoved { w with draining := true, attached := false }).trans
      ((background_unmoved _).trans (confirmedFlush_unmoved _))
    rw [<- begun] at flushed
    refine ⟨c.framed rfl le_rfl flushed.slots flushed.routes, ?_⟩
    refine ⟨flushed.draining, ?_, ?_, flushed.aborted.trans p.aborted⟩
    · show w.beginDrain.attached = !w.beginDrain.draining
      rw [flushed.attached, flushed.draining]
      rfl
    · show w.beginDrain.destroyed = _
      rw [flushed.destroyed]
      show w.destroyed = _
      rw [p.destroyed, waiting.1]
      rfl
  · exact ⟨c, p⟩

theorem finishDrain_coupled (c : Coupled s w) (p : Phased s w) :
    Coupled (s.finishDrain (RsWorld.backend fits) w).session
      (s.finishDrain (RsWorld.backend fits) w).world /\
    Phased (s.finishDrain (RsWorld.backend fits) w).session
      (s.finishDrain (RsWorld.backend fits) w).world := by
  unfold Session.finishDrain
  split
  · rename_i drained
    obtain ⟨draining, empty, -⟩ := drained
    have draining_ : w.draining = true := by
      rw [p.draining, draining]
      rfl
    have detached : w.attached = false := by
      rw [p.attached, draining_]
      rfl
    have noSlots : w.slots = [] := by
      refine List.eq_nil_iff_forall_not_mem.mpr fun slot mem => ?_
      obtain ⟨held, found, -⟩ := c.held slot mem
      rw [ExtTreeMap.isEmpty_iff.mp empty] at found
      simp at found
    have gone : w.destroyLayers = { w with destroyed := true } := by
      unfold RsWorld.destroyLayers
      rw [if_neg (by simp [detached, noSlots])]
    dsimp only [RsWorld.backend]
    rw [gone]
    refine ⟨c.framed rfl le_rfl rfl rfl, ?_, p.attached, rfl, p.aborted⟩
    exact draining_
  · exact ⟨c, p⟩

theorem poll_coupled (c : Coupled s w) (p : Phased s w) :
    Coupled (s.poll (RsWorld.backend fits) w).session (s.poll (RsWorld.backend fits) w).world /\
      Phased (s.poll (RsWorld.backend fits) w).session
        (s.poll (RsWorld.backend fits) w).world := by
  by_cases closed : s.state = .closed
  · rw [poll_closed _ s w closed]
    exact ⟨c.framed rfl le_rfl rfl rfl, p.draining, p.attached, p.destroyed, p.aborted⟩
  · rw [poll_open _ s w closed]
    dsimp only
    obtain ⟨events, unmoved⟩ := pollReleases_emits w
    have tables : Coupled (s.retiring (RsWorld.backend fits) w).session
        (s.retiring (RsWorld.backend fits) w).world := by
      have kept := retire_coupled c
        (fun held => !Session.retires (RsWorld.backend fits) w.pollReleases.1 held) fun held flag => by
          simp [Session.retires, flag]
      rw [<- events] at kept
      exact kept.framed rfl le_rfl unmoved.slots unmoved.routes
    have phase : Phased (s.retiring (RsWorld.backend fits) w).session
        (s.retiring (RsWorld.backend fits) w).world := by
      refine ⟨unmoved.draining.trans p.draining, ?_, unmoved.destroyed.trans p.destroyed,
        unmoved.aborted.trans p.aborted⟩
      show w.pollReleases.1.attached = !w.pollReleases.1.draining
      rw [unmoved.attached, unmoved.draining]
      exact p.attached
    obtain ⟨tables, phase⟩ := startDrain_coupled fits tables phase
    exact finishDrain_coupled fits tables phase

-- The slot `Prepare` makes for a plane, if any.
def planeSlots (w : RsWorld) (submission : Nat) (p : Plane) (i : Nat) : List Slot :=
  if p.reuse then []
  else p.lease.toList.map fun lease =>
    { submission, allocation := lease.allocationId, plane := i
      sequence := w.platform.seqNum lease.nativeBuffer, node := w.nodes i }

def frameSlots (w : RsWorld) (submission : Nat) (f : Frame) : List Slot :=
  planeSlots w submission f.primary 0 ++
    f.video.toList.flatMap fun video => planeSlots w submission video 1

theorem prepareItem_spec (w : RsWorld) (submission : Nat) (f : Frame) (p : Plane) (i : Nat)
    (first : Option Slot) (item : Option Slot)
    (prepared : w.prepareItem fits submission f p i first = some item) :
    item.toList = planeSlots w submission p i /\ p.lease.isSome /\
      ∀ slot ∈ item, w.routes[slot.sequence]? = none /\
        ∀ other ∈ first, other.sequence ≠ slot.sequence := by
  unfold RsWorld.prepareItem at prepared
  unfold planeSlots
  cases taken : p.lease with
  | none =>
    rw [taken] at prepared
    contradiction
  | some lease =>
    rw [taken] at prepared
    dsimp only at prepared
    split at prepared
    · contradiction
    split at prepared
    · contradiction
    split at prepared
    · contradiction
    split at prepared
    · rename_i reuse
      obtain rfl := Option.some.inj prepared
      rw [if_pos reuse]
      exact ⟨rfl, rfl, by simp⟩
    · rename_i new
      split at prepared
      · contradiction
      · rename_i available
        obtain rfl := Option.some.inj prepared
        simp only [not_or, Bool.not_eq_true, Option.isSome_eq_false_iff, Option.isNone_iff_eq_none,
          Option.any_eq_false, decide_eq_false_iff_not] at available
        rw [if_neg new]
        refine ⟨rfl, rfl, ?_⟩
        rintro slot only
        obtain rfl := Option.some.inj only
        exact available

theorem prepare_world (w : RsWorld) (submission : Nat) (f : Frame) :
    (w.prepare fits submission f).1 = w := by
  unfold RsWorld.prepare
  split
  · rfl
  split
  · rfl
  split
  · rfl
  split <;> rfl

theorem prepared_world {w after : RsWorld} {submission : Nat} {f : Frame} {batch : Option Batch}
    (prepared : w.prepare fits submission f = (after, batch)) : after = w :=
  (congrArg Prod.fst prepared).symm.trans (prepare_world fits w submission f)

theorem prepare_spec (w v : RsWorld) (submission : Nat) (f : Frame) (batch : Batch)
    (prepared : w.prepare fits submission f = (v, some batch)) :
    v = w /\ batch.submission = submission /\
      batch.items.filterMap id = frameSlots w submission f /\
      (∀ slot ∈ frameSlots w submission f, w.routes[slot.sequence]? = none) /\
      ((frameSlots w submission f).map Slot.sequence).Nodup := by
  unfold RsWorld.prepare at prepared
  split at prepared
  · simp at prepared
  · cases one : w.prepareItem fits submission f f.primary 0 none with
    | none => simp [one] at prepared
    | some first =>
      obtain ⟨primary, -, facts⟩ := prepareItem_spec fits w submission f f.primary 0 none first one
      have firstSlots : [first].filterMap id = planeSlots w submission f.primary 0 := by
        rw [<- primary]
        cases first <;> rfl
      cases video : f.video with
      | none =>
        simp only [one, video, Prod.mk.injEq, Option.some.injEq] at prepared
        obtain ⟨rfl, rfl⟩ := prepared
        have all : frameSlots w submission f = planeSlots w submission f.primary 0 := by
          simp [frameSlots, video]
        rw [all, <- primary]
        refine ⟨rfl, rfl, firstSlots.trans primary.symm, ?_, ?_⟩
        · intro slot mem
          exact (facts slot (Option.mem_toList.mp mem)).1
        · cases first <;> simp
      | some plane =>
        simp only [one, video] at prepared
        cases two : w.prepareItem fits submission f plane 1 first with
        | none => simp [two] at prepared
        | some second =>
          obtain ⟨overlay, -, facts'⟩ :=
            prepareItem_spec fits w submission f plane 1 first second two
          simp only [two, Prod.mk.injEq, Option.some.injEq] at prepared
          obtain ⟨rfl, rfl⟩ := prepared
          have all : frameSlots w submission f = first.toList ++ second.toList := by
            rw [primary, overlay]
            simp [frameSlots, video]
          rw [all]
          refine ⟨rfl, rfl, by cases first <;> cases second <;> rfl, ?_, ?_⟩
          · intro slot mem
            rcases List.mem_append.mp mem with mem | mem
            · exact (facts slot (Option.mem_toList.mp mem)).1
            · exact (facts' slot (Option.mem_toList.mp mem)).1
          · cases first with
            | none => cases second <;> simp
            | some a =>
              cases second with
              | none => simp
              | some b => simpa using (facts' b rfl).2 a rfl

omit fits in
theorem foldl_installRoute (slots : List Slot) (w : RsWorld)
    (unrouted : ∀ slot ∈ slots, w.routes[slot.sequence]? = none)
    (distinct : (slots.map Slot.sequence).Nodup) :
    slots.foldl RsWorld.installRoute w = { w with
      routes := slots.foldl (fun routes slot => routes.insert slot.sequence slot.route) w.routes } := by
  induction slots generalizing w with
  | nil => rfl
  | cons slot rest ih =>
    obtain ⟨absent, distinct⟩ := List.nodup_cons.mp distinct
    have installed : w.installRoute slot =
        { w with routes := w.routes.insert slot.sequence slot.route } := by
      unfold RsWorld.installRoute
      rw [unrouted slot List.mem_cons_self]
      rfl
    rw [List.foldl_cons, installed, ih _ _ distinct]
    · rfl
    · intro other mem
      have different : other.sequence ≠ slot.sequence := by
        intro same
        exact absent (same ▸ List.mem_map_of_mem mem)
      dsimp only
      rw [getElem?_insert_of_ne _ _ _ _ different]
      exact unrouted other (List.mem_cons_of_mem _ mem)

-- The tables once these slots are in.
def withSlots (w : RsWorld) (slots : List Slot) : RsWorld :=
  { w with
    slots := w.slots ++ slots
    routes := slots.foldl (fun routes slot => routes.insert slot.sequence slot.route) w.routes }

omit fits in
theorem commit_unmoved (w : RsWorld) (batch : Batch)
    (unrouted : ∀ slot ∈ batch.items.filterMap id, w.routes[slot.sequence]? = none)
    (distinct : ((batch.items.filterMap id).map Slot.sequence).Nodup) :
    Unmoved (withSlots w (batch.items.filterMap id)) (w.commit batch) := by
  unfold RsWorld.commit
  dsimp only
  rw [foldl_installRoute _ w unrouted distinct]
  refine Unmoved.trans ?_ (confirmedFlush_unmoved _)
  split <;> exact ⟨rfl, rfl, rfl, rfl, rfl, rfl⟩

omit fits in
theorem holdPlane_coupled (c : Coupled s w) (u : RsWorld) (p : Plane) (sequence plane : Nat)
    (room : ∀ lease ∈ p.lease, p.reuse = false -> s.leases[lease.allocationId]? = none)
    (unrouted : ∀ slot ∈ planeSlots u sequence p plane, w.routes[slot.sequence]? = none)
    (fresh : ∀ slot ∈ w.slots, slot.submission = sequence -> slot.plane ≠ plane)
    (bound : sequence <= s.lastSubmission) :
    Coupled (s.holdPlane p sequence plane).1 (withSlots w (planeSlots u sequence p plane)) := by
  unfold Session.holdPlane
  cases taken : p.lease with
  | none =>
    have none : planeSlots u sequence p plane = [] := by
      simp [planeSlots, taken]
    rw [none]
    exact c.framed rfl le_rfl (List.append_nil _) rfl
  | some lease =>
    unfold Session.hold
    dsimp only
    cases reuse : p.reuse with
    | true =>
      have none : planeSlots u sequence p plane = [] := by
        simp [planeSlots, reuse]
      rw [none]
      exact c.framed rfl le_rfl (List.append_nil _) rfl
    | false =>
      have one : planeSlots u sequence p plane =
          [{ submission := sequence, allocation := lease.allocationId, plane
             sequence := u.platform.seqNum lease.nativeBuffer, node := u.nodes plane }] := by
        simp [planeSlots, reuse, taken]
      rw [one] at unrouted ⊢
      have absent := room lease taken reuse
      rw [if_neg Bool.false_ne_true]
      refine c.add _ _ rfl rfl rfl absent (unrouted _ (List.mem_singleton_self _)) ?_
        (insertIfNew_fresh _ _ _ absent) le_rfl bound rfl rfl
      intro mem
      obtain ⟨slot, inside, same⟩ := List.mem_map.mp mem
      simp only [Slot.route, Route.own.injEq] at same
      exact fresh slot inside same.1 same.2

omit fits in
theorem holdPlane_last (s : Session) (p : Plane) (sequence plane last : Nat) :
    ({ s with lastSubmission := last }.holdPlane p sequence plane).1 =
      { (s.holdPlane p sequence plane).1 with lastSubmission := last } := by
  unfold Session.holdPlane
  cases p.lease with
  | none => rfl
  | some lease =>
    unfold Session.hold
    dsimp only
    split <;> rfl

omit fits in
theorem holdVideo_last (s : Session) (video : Option Plane) (sequence last : Nat) :
    ({ s with lastSubmission := last }.holdVideo video sequence).1 =
      { (s.holdVideo video sequence).1 with lastSubmission := last } := by
  cases video with
  | none => rfl
  | some plane => exact holdPlane_last s plane sequence 1 last

omit fits in
theorem withSlots_append (w : RsWorld) (first second : List Slot) :
    withSlots (withSlots w first) second = withSlots w (first ++ second) := by
  simp [withSlots, List.foldl_append]

omit fits in
theorem withSlots_routes (w : RsWorld) (slots : List Slot) (sequence : Nat)
    (other : ∀ slot ∈ slots, slot.sequence ≠ sequence) :
    (withSlots w slots).routes[sequence]? = w.routes[sequence]? := by
  have kept := foldl_other
    (fun (routes : ExtTreeMap Nat Route) (slot : Slot) => routes.insert slot.sequence slot.route)
    Slot.sequence slots (fun slot _ entries id different =>
      getElem?_insert_of_ne entries slot.sequence id slot.route different) w.routes sequence other
  exact kept

omit fits in
theorem planeSlots_plane (w : RsWorld) (submission : Nat) (p : Plane) (i : Nat) (slot : Slot)
    (mem : slot ∈ planeSlots w submission p i) : slot.submission = submission /\ slot.plane = i := by
  unfold planeSlots at mem
  split at mem
  · contradiction
  · obtain ⟨lease, -, rfl⟩ := List.mem_map.mp mem
    exact ⟨rfl, rfl⟩

theorem holdVideo_coupled (c : Coupled s w) (f : Frame)
    (valid : f.Valid = true) (primary : s.blocked f.primary 0 = false)
    (video : ∀ video ∈ f.video, s.blocked video 1 = false)
    (unrouted : ∀ slot ∈ frameSlots w (s.lastSubmission + 1) f, w.routes[slot.sequence]? = none)
    (distinct : ((frameSlots w (s.lastSubmission + 1) f).map Slot.sequence).Nodup) :
    Coupled (({ s with lastSubmission := s.lastSubmission + 1 }.holdPlane f.primary
      (s.lastSubmission + 1) 0).1.holdVideo f.video (s.lastSubmission + 1)).1
      (withSlots w (frameSlots w (s.lastSubmission + 1) f)) := by
  have older : ∀ slot ∈ w.slots, slot.submission ≠ s.lastSubmission + 1 := by
    intro slot mem same
    have bound := c.bound slot mem
    omega
  have counted : Coupled { s with lastSubmission := s.lastSubmission + 1 } w :=
    c.framed rfl (Nat.le_succ _) rfl rfl
  have first := holdPlane_coupled counted w f.primary (s.lastSubmission + 1) 0
    (fun lease taken new => blocked_fresh primary lease taken new)
    (fun slot mem => unrouted slot (List.mem_append_left _ mem))
    (fun slot mem same => absurd same (older slot mem)) le_rfl
  cases present : f.video with
  | none =>
    have all : frameSlots w (s.lastSubmission + 1) f =
        planeSlots w (s.lastSubmission + 1) f.primary 0 := by
      simp [frameSlots, present]
    rw [all]
    exact first.framed rfl le_rfl rfl rfl
  | some plane =>
    have all : frameSlots w (s.lastSubmission + 1) f =
        planeSlots w (s.lastSubmission + 1) f.primary 0 ++
          planeSlots w (s.lastSubmission + 1) plane 1 := by
      simp [frameSlots, present]
    rw [all] at unrouted distinct ⊢
    rw [<- withSlots_append]
    obtain ⟨others, -⟩ := holdPlane_else { s with lastSubmission := s.lastSubmission + 1 }
      f.primary (s.lastSubmission + 1) 0
    refine holdPlane_coupled first w plane (s.lastSubmission + 1) 1 ?_ ?_ ?_ ?_
    · intro lease taken new
      rw [others]
      · exact blocked_fresh (video plane present) lease taken new
      · exact fun other primary => valid_apart valid plane present other lease primary taken
    · intro slot mem
      rw [withSlots_routes]
      · exact unrouted slot (List.mem_append_right _ mem)
      · intro other inside same
        rw [List.map_append, List.nodup_append] at distinct
        exact distinct.2.2 _ (List.mem_map_of_mem inside) _ (List.mem_map_of_mem mem) same
    · intro slot mem same onVideo
      rcases List.mem_append.mp mem with old | new
      · exact older slot old same
      · rw [(planeSlots_plane w _ _ _ slot new).2] at onVideo
        contradiction
    · rw [holdPlane_last]

theorem accept_coupled {v : RsWorld} {f : Frame} {batch : Batch}
    {effects : List Effect} (c : Coupled s w) (p : Phased s w)
    (prepared : w.prepare fits (s.lastSubmission + 1) f = (v, some batch))
    (valid : f.Valid = true) (primary : s.blocked f.primary 0 = false)
    (video : ∀ video ∈ f.video, s.blocked video 1 = false) :
    Coupled (s.accept (RsWorld.backend fits) v f batch (s.lastSubmission + 1) effects).step.session
      (s.accept (RsWorld.backend fits) v f batch (s.lastSubmission + 1) effects).step.world /\
    Phased (s.accept (RsWorld.backend fits) v f batch (s.lastSubmission + 1) effects).step.session
      (s.accept (RsWorld.backend fits) v f batch (s.lastSubmission + 1) effects).step.world := by
  obtain ⟨rfl, -, slots, unrouted, distinct⟩ := prepare_spec fits w v _ f batch prepared
  have both := holdVideo_coupled c f valid primary video unrouted distinct
  rw [holdPlane_last, holdVideo_last] at both
  have unmoved := commit_unmoved v batch (by rw [slots]; exact unrouted) (by rw [slots]; exact distinct)
  rw [slots] at unmoved
  refine ⟨both.framed rfl le_rfl unmoved.slots unmoved.routes, ?_⟩
  have state : (s.accept (RsWorld.backend fits) v f batch (s.lastSubmission + 1)
      effects).step.session.state = s.state :=
    (holdVideo_calm _ _ _).state.trans (holdPlane_calm _ _ _ _).state
  refine Phased.framed (w := withSlots v (frameSlots v (s.lastSubmission + 1) f))
    ⟨p.draining, p.attached, p.destroyed, p.aborted⟩ unmoved ?_ ?_
  · rw [state]
  · rw [state]

theorem submit_coupled (c : Coupled s w) (p : Phased s w) (f : Frame) :
    Coupled (s.submit (RsWorld.backend fits) w f).step.session
      (s.submit (RsWorld.backend fits) w f).step.world /\
    Phased (s.submit (RsWorld.backend fits) w f).step.session
      (s.submit (RsWorld.backend fits) w f).step.world := by
  obtain ⟨c', p'⟩ := poll_coupled fits c p
  unfold Session.submit
  split
  · exact ⟨c, p⟩
  split
  · exact ⟨c, p⟩
  rename_i refused
  dsimp only
  split
  · exact ⟨c', p'⟩
  · rename_i passed
    obtain ⟨primary, video, -⟩ := refusal_none (RsWorld.backend fits) passed
    split
    · rename_i after prepared
      rw [prepared_world fits prepared]
      exact ⟨c', p'⟩
    · rename_i after batch prepared
      exact accept_coupled fits c' p' prepared (not_not.mp fun invalid => refused (.inl invalid))
        primary video

theorem close_coupled (c : Coupled s w) (p : Phased s w) :
    Coupled (s.close (RsWorld.backend fits) w).session (s.close (RsWorld.backend fits) w).world /\
      Phased (s.close (RsWorld.backend fits) w).session
        (s.close (RsWorld.backend fits) w).world := by
  unfold Session.close
  dsimp only
  split
  · rename_i running
    refine poll_coupled fits (c.framed rfl le_rfl rfl rfl) (p.framed (.refl w) ?_ ?_)
    · rw [running]
      rfl
    · rw [running]
      rfl
  · exact poll_coupled fits c p

omit fits in
theorem modifySlot_coupled (c : Coupled s w) (submission plane : Nat)
    (f : Slot -> Slot) (same : ∀ slot, (f slot).submission = slot.submission /\
      (f slot).allocation = slot.allocation /\ (f slot).plane = slot.plane /\
      (f slot).sequence = slot.sequence) : Coupled s (w.modifySlot submission plane f) := by
  have kept : ∀ slot, ∃ moved, (if slot.submission = submission /\ slot.plane = plane then f slot
      else slot) = moved /\ moved.submission = slot.submission /\
      moved.allocation = slot.allocation /\ moved.plane = slot.plane /\
      moved.sequence = slot.sequence := by
    intro slot
    split
    · exact ⟨_, rfl, same slot⟩
    · exact ⟨_, rfl, rfl, rfl, rfl, rfl⟩
  have routes : (w.modifySlot submission plane f).slots.map Slot.route = w.slots.map Slot.route := by
    unfold RsWorld.modifySlot
    rw [List.map_map]
    refine List.map_congr_left fun slot _ => ?_
    obtain ⟨moved, changed, submission, -, plane, -⟩ := kept slot
    simp only [Function.comp_apply, changed, Slot.route, submission, plane]
  have image : ∀ slot ∈ (w.modifySlot submission plane f).slots, ∃ old ∈ w.slots,
      slot.submission = old.submission /\ slot.allocation = old.allocation /\
        slot.plane = old.plane /\ slot.sequence = old.sequence := by
    intro slot mem
    obtain ⟨old, inside, rfl⟩ := List.mem_map.mp mem
    obtain ⟨moved, changed, facts⟩ := kept old
    exact ⟨old, inside, changed ▸ facts⟩
  have preimage : ∀ old ∈ w.slots, ∃ slot ∈ (w.modifySlot submission plane f).slots,
      slot.submission = old.submission /\ slot.allocation = old.allocation /\
        slot.plane = old.plane /\ slot.sequence = old.sequence := by
    intro old inside
    obtain ⟨moved, changed, facts⟩ := kept old
    exact ⟨moved, changed ▸ List.mem_map_of_mem inside, facts⟩
  refine ⟨?_, ?_, ?_, ?_, ?_, ?_⟩
  · intro slot mem
    obtain ⟨old, inside, submission, -⟩ := image slot mem
    rw [submission]
    exact c.bound old inside
  · intro slot mem
    obtain ⟨old, inside, submission, allocation, plane, -⟩ := image slot mem
    rw [submission, allocation, plane]
    exact c.held old inside
  · intro id held found flag
    obtain ⟨old, inside, allocation, submission, plane⟩ := c.slot id held found flag
    obtain ⟨slot, mem, submission', allocation', plane', -⟩ := preimage old inside
    exact ⟨slot, mem, allocation'.trans allocation, submission'.trans submission, plane'.trans plane⟩
  · rw [routes]
    exact c.distinct
  · intro slot mem
    obtain ⟨old, inside, submission, -, plane, sequence⟩ := image slot mem
    rw [sequence, Slot.route, submission, plane]
    exact c.routed old inside
  · intro sequence submission' plane' route
    obtain ⟨old, inside, sequence', leads⟩ := c.owned sequence submission' plane' route
    obtain ⟨slot, mem, submission, -, plane, same⟩ := preimage old inside
    refine ⟨slot, mem, same.trans sequence', ?_⟩
    rw [Slot.route, submission, plane]
    exact leads

omit fits in
theorem onRecord_eq (w : RsWorld) (sequence node : Nat) (rc : Int) :
    w.onRecord sequence node rc = w \/
      ∃ submission plane, w.onRecord sequence node rc = w.modifySlot submission plane fun slot =>
        if slot.node = node /\ ¬ slot.serverReturned then { slot with serverReturned := rc = 0 }
        else slot := by
  unfold RsWorld.onRecord
  split
  · exact .inr ⟨_, _, rfl⟩
  · exact .inl rfl

omit fits in
theorem react_coupled (c : Coupled s w) (p : Phased s w)
    (event : RsWorld.RsEvent) : Coupled s (w.react event) /\ Phased s (w.react event) := by
  cases event with
  | record sequence node rc =>
    show Coupled s (w.onRecord sequence node rc) /\ Phased s (w.onRecord sequence node rc)
    rcases onRecord_eq w sequence node rc with same | ⟨submission, plane, changed⟩
    · rw [same]
      exact ⟨c, p⟩
    · rw [changed]
      refine ⟨modifySlot_coupled c submission plane _ fun slot => ?_, p.draining, p.attached,
        p.destroyed, p.aborted⟩
      split <;> exact ⟨rfl, rfl, rfl, rfl⟩
  | callback submission plane fence =>
    refine ⟨modifySlot_coupled c submission plane _ fun slot => ?_, p.draining, p.attached,
      p.destroyed, p.aborted⟩
    split <;> exact ⟨rfl, rfl, rfl, rfl⟩
  | acknowledge timestamp =>
    exact ⟨c.framed rfl le_rfl rfl rfl, p.draining, p.attached, p.destroyed, p.aborted⟩
  | install sequence =>
    unfold RsWorld.react
    dsimp only
    split
    · exact ⟨c, p⟩
    · rename_i absent
      rw [Bool.not_eq_true, Option.isSome_eq_false_iff, Option.isNone_iff_eq_none] at absent
      refine ⟨⟨c.bound, c.held, c.slot, c.distinct, ?_, ?_⟩, p.draining, p.attached, p.destroyed,
        p.aborted⟩
      · intro slot mem
        have present := c.routed slot mem
        dsimp only
        rw [getElem?_insert_of_ne _ _ _ _ (by
          rintro same; rw [same, absent] at present; contradiction)]
        exact present
      · intro other submission plane route
        rcases (getElem?_insert_some _ _ _ _ _).mp route with ⟨-, foreign⟩ | ⟨-, old⟩
        · contradiction
        · exact c.owned other submission plane old
  | drop sequence =>
    unfold RsWorld.react
    dsimp only
    split
    · rename_i foreign
      refine ⟨⟨c.bound, c.held, c.slot, c.distinct, ?_, ?_⟩, p.draining, p.attached, p.destroyed,
        p.aborted⟩
      · intro slot mem
        have present := c.routed slot mem
        refine (getElem?_erase_some _ _ _ _).mpr ⟨?_, present⟩
        intro same
        rw [same, foreign] at present
        exact Route.noConfusion (Option.some.inj present)
      · intro other submission plane route
        exact c.owned other submission plane ((getElem?_erase_some _ _ _ _).mp route).2
    · exact ⟨c, p⟩
  | answers platform =>
    exact ⟨c.framed rfl le_rfl rfl rfl, p.draining, p.attached, p.destroyed, p.aborted⟩

end

end ChromiumHmos.Overlay
