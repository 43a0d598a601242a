import ChromiumHmos.Ozone.GpuChildChannel

set_option autoImplicit false

namespace ChromiumHmos.Ozone

open Std Transition OrderedMap

/-- The record a child keeps of a state it was told in full. -/
def mirrorOf (state : OhosGpuChildWidgetState) : MirrorRecord :=
  { surface := ⟨state.window, state.bounds, state.density⟩
    browserWindow := state.window
    anchored := state.anchored
    expected := state.expected
    applicationWindowId := state.applicationWindowId }

theorem sameState_mirrorOf (a b : OhosGpuChildWidgetState) (same : sameState a b) :
    mirrorOf a = mirrorOf b := by
  simp only [sameState, decide_eq_true_eq] at same
  obtain ⟨window, bounds, density, anchored, expected, id⟩ := same
  simp [mirrorOf, window, bounds, density, anchored, expected, id]

/-- Every request of a forward is handled by the child, which can read the window in it. -/
def Delivered (deliver : AcceleratedWidget → Delivery) : Prop :=
  ∀ widget : AcceleratedWidget, (deliver widget).handled ∧ (deliver widget).readable

variable (mirror : Mirror)

theorem handleWidgetState_other (message : WidgetMessage) (readable : Bool)
    (other : AcceleratedWidget) (distinct : other ≠ message.state.widget) :
    (handleWidgetState mirror message readable)[other]? = mirror[other]? := by
  unfold handleWidgetState
  split
  · exact getElem?_erase_of_ne _ _ _ distinct
  · exact getElem?_insert_of_ne _ _ _ _ distinct

theorem handleWidgetState_own (mirror mirror' : Mirror) (message : WidgetMessage) (readable : Bool)
    (same : mirror[message.state.widget]? = mirror'[message.state.widget]?) :
    (handleWidgetState mirror message readable)[message.state.widget]? =
      (handleWidgetState mirror' message readable)[message.state.widget]? := by
  unfold handleWidgetState
  split
  · simp
  · simp [same]

theorem sendWidgetState_other (state : OhosGpuChildWidgetState)
    (present windowChanged : Bool) (delivery : Delivery) (other : AcceleratedWidget)
    (distinct : other ≠ state.widget) :
    (sendWidgetState mirror state present windowChanged delivery)[other]? = mirror[other]? := by
  unfold sendWidgetState
  split
  · exact handleWidgetState_other _ _ _ _ distinct
  · rfl

theorem sendWidgetState_own (mirror mirror' : Mirror) (state : OhosGpuChildWidgetState)
    (present windowChanged : Bool) (delivery : Delivery)
    (same : mirror[state.widget]? = mirror'[state.widget]?) :
    (sendWidgetState mirror state present windowChanged delivery)[state.widget]? =
      (sendWidgetState mirror' state present windowChanged delivery)[state.widget]? := by
  unfold sendWidgetState
  split
  · exact handleWidgetState_own mirror mirror' (writeWidgetState state present windowChanged) _ same
  · exact same

theorem sendWidgetState_present (state : OhosGpuChildWidgetState)
    (windowChanged : Bool) (delivery : Delivery) (handled : delivery.handled)
    (readable : delivery.readable)
    (known : windowChanged = false ->
      ∃ record : MirrorRecord, mirror[state.widget]? = some record /\
        record.surface.window = state.window) :
    (sendWidgetState mirror state true windowChanged delivery)[state.widget]? =
      some (mirrorOf state) := by
  simp only [sendWidgetState, handled, if_true, handleWidgetState, writeWidgetState, readable,
    not_true_eq_false, if_false, Bool.true_and, ExtTreeMap.getElem?_insert_self, mirrorOf]
  by_cases gone : state.window = 0
  · simp [gone]
  · cases changed : windowChanged with
    | true => simp [gone]
    | false =>
      obtain ⟨record, found, window⟩ := known changed
      simp only [found, Option.getD_some, window]
      split
      · simp_all
      · simp

theorem sendWidgetState_absent (state : OhosGpuChildWidgetState)
    (delivery : Delivery) (handled : delivery.handled) :
    (sendWidgetState mirror state false false delivery)[state.widget]? = none := by
  simp [sendWidgetState, handled, handleWidgetState, writeWidgetState]

namespace GpuChannel

variable (sent : ExtTreeMap AcceleratedWidget OhosGpuChildWidgetState)

theorem forwardPresent_other
    (deliver : AcceleratedWidget -> Delivery) (mirror : Mirror) (state : OhosGpuChildWidgetState)
    (other : AcceleratedWidget) (distinct : other ≠ state.widget) :
    (forwardPresent sent deliver mirror state)[other]? = mirror[other]? := by
  unfold forwardPresent
  split
  · exact sendWidgetState_other _ _ _ _ _ _ distinct
  · split
    · rfl
    · exact sendWidgetState_other _ _ _ _ _ _ distinct

theorem forwardPresent_own
    (deliver : AcceleratedWidget -> Delivery) (mirror mirror' : Mirror)
    (state : OhosGpuChildWidgetState) (same : mirror[state.widget]? = mirror'[state.widget]?) :
    (forwardPresent sent deliver mirror state)[state.widget]? =
      (forwardPresent sent deliver mirror' state)[state.widget]? := by
  unfold forwardPresent
  split
  · exact sendWidgetState_own _ _ _ _ _ _ same
  · split
    · exact same
    · exact sendWidgetState_own _ _ _ _ _ _ same

theorem forwardPresent_told
    (deliver : AcceleratedWidget -> Delivery) (mirror : Mirror) (state : OhosGpuChildWidgetState)
    (delivered : Delivered deliver)
    (synced : mirror[state.widget]? = (sent[state.widget]?).map mirrorOf) :
    (forwardPresent sent deliver mirror state)[state.widget]? = some (mirrorOf state) := by
  obtain ⟨handled, readable⟩ := delivered state.widget
  cases old : sent[state.widget]? with
  | none =>
    simp only [forwardPresent, old]
    exact sendWidgetState_present mirror state true _ handled readable (by simp)
  | some before =>
    rw [old, Option.map_some] at synced
    by_cases same : sameState before state
    · simp only [forwardPresent, old, same, if_true]
      rw [synced, sameState_mirrorOf before state same]
    · simp only [forwardPresent, old, same]
      refine sendWidgetState_present mirror state _ _ handled readable ?_
      intro unchanged
      exact ⟨mirrorOf before, synced, by simpa [mirrorOf] using unchanged⟩

theorem forwardAbsent_other (now : ExtTreeMap AcceleratedWidget OhosGpuChildWidgetState)
    (deliver : AcceleratedWidget -> Delivery) (mirror : Mirror)
    (entry : AcceleratedWidget × OhosGpuChildWidgetState) (named : entry.2.widget = entry.1)
    (other : AcceleratedWidget) (distinct : other ≠ entry.1) :
    (forwardAbsent now deliver mirror entry)[other]? = mirror[other]? := by
  unfold forwardAbsent
  split
  · rfl
  · exact sendWidgetState_other _ _ _ _ _ _ (by rwa [named])

end GpuChannel

variable (r : NativeWindowRegistry)

theorem snapshot_keys :
    r.snapshotForGpuChild.map OhosGpuChildWidgetState.widget = r.snapshotWidgets.toList := by
  simp [NativeWindowRegistry.snapshotForGpuChild, NativeWindowRegistry.gpuChildWidgetState,
    Function.comp_def]

theorem snapshot_distinct : (r.snapshotForGpuChild.map OhosGpuChildWidgetState.widget).Nodup := by
  rw [snapshot_keys]
  refine (ExtTreeSet.distinct_toList (t := r.snapshotWidgets)).imp ?_
  rintro a b distinct rfl
  exact distinct ReflCmp.compare_self

def snapshotMap (r : NativeWindowRegistry) : ExtTreeMap AcceleratedWidget OhosGpuChildWidgetState :=
  r.snapshotForGpuChild.foldl (fun map state => map.insert state.widget state) ∅

theorem snapshotMap_lookup (widget : AcceleratedWidget) :
    (snapshotMap r)[widget]? =
      if widget ∈ r.snapshotWidgets then some (r.gpuChildWidgetState widget) else none := by
  have others : ∀ item ∈ r.snapshotForGpuChild,
      ∀ (entries : ExtTreeMap AcceleratedWidget OhosGpuChildWidgetState) other,
      other ≠ item.widget -> (entries.insert item.widget item)[other]? = entries[other]? :=
    fun item _ entries other distinct => getElem?_insert_of_ne _ _ _ _ distinct
  split
  case isTrue known =>
    have mem : r.gpuChildWidgetState widget ∈ r.snapshotForGpuChild :=
      List.mem_map_of_mem (ExtTreeSet.mem_toList.mpr known)
    have found := foldl_own (fun map state => map.insert state.widget state)
      OhosGpuChildWidgetState.widget r.snapshotForGpuChild others (by simp) (snapshot_distinct r) ∅
      (r.gpuChildWidgetState widget) mem
    simpa [snapshotMap, NativeWindowRegistry.gpuChildWidgetState] using found
  case isFalse unknown =>
    rw [snapshotMap, foldl_other _ OhosGpuChildWidgetState.widget _ others]
    · simp
    · rintro item mem rfl
      refine unknown (ExtTreeSet.mem_toList.mp ?_)
      rw [<- snapshot_keys]
      exact List.mem_map_of_mem mem

/-- The child behind the proxy holds exactly what the browser marked as sent to it. -/
structure Synced (sent : ExtTreeMap AcceleratedWidget OhosGpuChildWidgetState) (mirror : Mirror) :
    Prop where
  named : ∀ (widget : AcceleratedWidget) (state : OhosGpuChildWidgetState),
    sent[widget]? = some state → state.widget = widget
  equal : ∀ widget : AcceleratedWidget, mirror[widget]? = (sent[widget]?).map mirrorOf

namespace GpuChannel

def forwardedMirror (c : GpuChannel) (deliver : AcceleratedWidget → Delivery) (mirror : Mirror) :
    Mirror :=
  c.side.sent.toList.foldl (forwardAbsent (snapshotMap c.registry) deliver)
    (c.registry.snapshotForGpuChild.foldl (forwardPresent c.side.sent deliver) mirror)

variable (c : GpuChannel)

theorem forward_connected (deliver : AcceleratedWidget -> Delivery)
    (child : ChildId) (connected : c.side.proxy = some child) :
    c.forwardOhosSurfacesToGpuChild deliver =
      { c.updateMirror child (c.forwardedMirror deliver (c.children child).mirror) with
        side := { c.side with sent := snapshotMap c.registry } } := by
  simp only [forwardOhosSurfacesToGpuChild, connected, forwardedMirror, snapshotMap, updateMirror]

theorem forwardedMirror_told (deliver : AcceleratedWidget -> Delivery)
    (mirror : Mirror) (synced : Synced c.side.sent mirror) (delivered : Delivered deliver)
    (widget : AcceleratedWidget) :
    (c.forwardedMirror deliver mirror)[widget]? =
      ((snapshotMap c.registry)[widget]?).map mirrorOf := by
  have keyed : (c.side.sent.toList.map Prod.fst).Nodup := by
    refine List.pairwise_map.mpr (ExtTreeMap.distinct_keys_toList.imp ?_)
    rintro a b distinct same
    rw [same] at distinct
    exact distinct ReflCmp.compare_self
  have named : ∀ entry ∈ c.side.sent.toList, entry.2.widget = entry.1 := fun entry mem =>
    synced.named entry.1 entry.2 (ExtTreeMap.mem_toList_iff_getElem?_eq_some.mp mem)
  have others : ∀ entry ∈ c.side.sent.toList, ∀ (entries : Mirror) other, other ≠ entry.1 ->
      (forwardAbsent (snapshotMap c.registry) deliver entries entry)[other]? = entries[other]? :=
    fun entry mem entries other distinct =>
      forwardAbsent_other _ deliver entries entry (named entry mem) other distinct
  have own : ∀ entry ∈ c.side.sent.toList, ∀ entries entries' : Mirror,
      entries[entry.1]? = entries'[entry.1]? ->
      (forwardAbsent (snapshotMap c.registry) deliver entries entry)[entry.1]? =
        (forwardAbsent (snapshotMap c.registry) deliver entries' entry)[entry.1]? := by
    intro entry mem entries entries' same
    unfold forwardAbsent
    split
    · exact same
    · rw [<- named entry mem] at same ⊢
      exact sendWidgetState_own _ _ _ _ _ _ same
  have present : (c.registry.snapshotForGpuChild.foldl (forwardPresent c.side.sent deliver)
      mirror)[widget]? =
        if widget ∈ c.registry.snapshotWidgets then
          some (mirrorOf (c.registry.gpuChildWidgetState widget))
        else mirror[widget]? := by
    have others := fun (state : OhosGpuChildWidgetState)
        (_ : state ∈ c.registry.snapshotForGpuChild) (entries : Mirror) other =>
      forwardPresent_other c.side.sent deliver entries state other
    split
    case isTrue known =>
      have mem : c.registry.gpuChildWidgetState widget ∈ c.registry.snapshotForGpuChild :=
        List.mem_map_of_mem (ExtTreeSet.mem_toList.mpr known)
      have told := foldl_own (forwardPresent c.side.sent deliver) OhosGpuChildWidgetState.widget _
        others (fun state _ entries entries' => forwardPresent_own _ _ entries entries' state)
        (snapshot_distinct c.registry) mirror _ mem
      exact told.trans (forwardPresent_told _ _ _ _ delivered (synced.equal _))
    case isFalse unknown =>
      refine foldl_other _ OhosGpuChildWidgetState.widget _ others mirror widget ?_
      rintro state mem rfl
      refine unknown (ExtTreeSet.mem_toList.mp ?_)
      rw [<- snapshot_keys]
      exact List.mem_map_of_mem mem
  rw [snapshotMap_lookup]
  unfold forwardedMirror
  by_cases old : ∃ state, c.side.sent[widget]? = some state
  · obtain ⟨state, sent⟩ := old
    have mem := ExtTreeMap.mem_toList_iff_getElem?_eq_some.mpr sent
    have last := foldl_own (forwardAbsent (snapshotMap c.registry) deliver) Prod.fst _ others own
      keyed (c.registry.snapshotForGpuChild.foldl (forwardPresent c.side.sent deliver) mirror)
      (widget, state) mem
    have now : widget ∈ snapshotMap c.registry ↔ widget ∈ c.registry.snapshotWidgets := by
      rw [ExtTreeMap.mem_iff_isSome_getElem?, snapshotMap_lookup]
      split <;> simp_all
    refine last.trans ?_
    simp only [forwardAbsent, now]
    split
    · simpa only [Option.map_some, if_pos ‹_›] using present
    · have name := synced.named widget state sent
      have gone := sendWidgetState_absent
        (c.registry.snapshotForGpuChild.foldl (forwardPresent c.side.sent deliver) mirror) state
        (deliver widget) (delivered widget).1
      rw [name] at gone
      exact gone
  · have unsent : c.side.sent[widget]? = none := by
      cases found : c.side.sent[widget]? with
      | none => rfl
      | some state => exact absurd ⟨state, found⟩ old
    rw [foldl_other _ Prod.fst _ others, present]
    · split
      · rfl
      · rw [synced.equal, unsent]
    · rintro entry mem rfl
      exact old ⟨entry.2, ExtTreeMap.mem_toList_iff_getElem?_eq_some.mp mem⟩

/-- A launched child is a new process: nothing has been sent to it before its installation. -/
structure LaunchInv (c : GpuChannel) : Prop where
  connected : ∀ child : ChildId, c.side.proxy = some child → child < c.nextChild
  fresh : ∀ child : ChildId,
    (∃ generation wantsVulkan, c.launch = .bootstrapped child generation wantsVulkan) ∨
      (∃ recipient, c.launch = .observed child recipient) →
    child < c.nextChild ∧ c.side.proxy ≠ some child ∧ (c.children child).mirror = ∅

def SyncedInv (c : GpuChannel) : Prop :=
  ∀ child : ChildId, c.side.proxy = some child → Synced c.side.sent (c.children child).mirror

structure MirrorFrame (c t : GpuChannel) : Prop where
  proxy : t.side.proxy = c.side.proxy
  sent : t.side.sent = c.side.sent
  mirrors : ∀ child : ChildId, (t.children child).mirror = (c.children child).mirror

theorem SyncedInv.framed {c t : GpuChannel} (synced : SyncedInv c) (frame : MirrorFrame c t) :
    SyncedInv t := by
  intro child connected
  rw [frame.sent, frame.mirrors]
  exact synced child (frame.proxy ▸ connected)

theorem LaunchInv.framed {c t : GpuChannel} (inv : LaunchInv c) (frame : MirrorFrame c t)
    (next : t.nextChild = c.nextChild) (launch : t.launch = c.launch \/ t.launch = .idle \/
      ∃ generation wantsVulkan, t.launch = .starting generation wantsVulkan) : LaunchInv t where
  connected := by
    rw [frame.proxy, next]
    exact inv.connected
  fresh := by
    intro child launched
    rw [frame.proxy, frame.mirrors, next]
    rcases launch with same | idle | ⟨generation, wantsVulkan, starting⟩
    · rw [same] at launched
      exact inv.fresh child launched
    · simp [idle] at launched
    · simp [starting] at launched

theorem onGpuOutputDied_frame (generation : Nat) :
    MirrorFrame c (c.onGpuOutputDied generation) /\
      (c.onGpuOutputDied generation).nextChild = c.nextChild /\
      (c.onGpuOutputDied generation).launch = c.launch := by
  unfold onGpuOutputDied
  split
  · exact ⟨⟨rfl, rfl, fun _ => rfl⟩, rfl, rfl⟩
  · exact ⟨⟨rfl, rfl, fun _ => rfl⟩, rfl, rfl⟩

theorem setOhosVerifiedWsiOutput_frame (widget : AcceleratedWidget) (hdr p3 : Bool)
    (reporter : ChildId) :
    MirrorFrame c (c.setOhosVerifiedWsiOutput widget hdr p3 reporter) /\
      (c.setOhosVerifiedWsiOutput widget hdr p3 reporter).nextChild = c.nextChild /\
      (c.setOhosVerifiedWsiOutput widget hdr p3 reporter).launch = c.launch := by
  unfold setOhosVerifiedWsiOutput
  split
  · exact ⟨⟨rfl, rfl, fun _ => rfl⟩, rfl, rfl⟩
  · exact ⟨⟨rfl, rfl, fun _ => rfl⟩, rfl, rfl⟩

theorem onOutputCapabilities_frame (reporter : ChildId) (generation widget hdr p3 : Int) :
    MirrorFrame c (c.onOutputCapabilities reporter generation widget hdr p3).1 /\
      (c.onOutputCapabilities reporter generation widget hdr p3).1.nextChild = c.nextChild /\
      (c.onOutputCapabilities reporter generation widget hdr p3).1.launch = c.launch := by
  have same : MirrorFrame c c /\ c.nextChild = c.nextChild /\ c.launch = c.launch :=
    ⟨⟨rfl, rfl, fun _ => rfl⟩, rfl, rfl⟩
  unfold onOutputCapabilities
  split
  · exact same
  split
  · exact same
  split
  · exact ⟨⟨rfl, rfl, fun _ => rfl⟩, rfl, rfl⟩
  dsimp only
  split
  · exact same
  · exact setOhosVerifiedWsiOutput_frame c _ _ _ reporter

theorem forward_launch (deliver : AcceleratedWidget -> Delivery)
    (inv : LaunchInv c) : LaunchInv (c.forwardOhosSurfacesToGpuChild deliver) := by
  cases connected : c.side.proxy with
  | none => simpa only [forwardOhosSurfacesToGpuChild, connected] using inv
  | some proxied =>
    rw [forward_connected c deliver proxied connected]
    refine ⟨inv.connected, ?_⟩
    intro child launched
    obtain ⟨bound, other, empty⟩ := inv.fresh child launched
    refine ⟨bound, other, ?_⟩
    have distinct : child ≠ proxied := by
      rintro rfl
      exact other connected
    simp only [updateMirror, Function.update_of_ne distinct]
    exact empty

theorem forward_synced (deliver : AcceleratedWidget -> Delivery)
    (synced : SyncedInv c) (delivered : Delivered deliver) :
    SyncedInv (c.forwardOhosSurfacesToGpuChild deliver) := by
  intro child connected
  cases old : c.side.proxy with
  | none =>
    simp only [forwardOhosSurfacesToGpuChild, old] at connected
    contradiction
  | some proxied =>
    rw [forward_connected c deliver proxied old] at connected ⊢
    obtain rfl : proxied = child := Option.some.inj (old.symm.trans connected)
    simp only [updateMirror, Function.update_self]
    refine ⟨?_, forwardedMirror_told c deliver _ (synced proxied old) delivered⟩
    intro widget state found
    rw [snapshotMap_lookup] at found
    split at found
    · cases found
      rfl
    · contradiction

theorem next_launch (event : ChannelEvent) (inv : LaunchInv c)
    (allowed : c.permitted event) : LaunchInv (c.next event) := by
  cases event with
  | registry call => exact inv.framed ⟨rfl, rfl, fun _ => rfl⟩ rfl (.inl rfl)
  | forward deliver => exact forward_launch c deliver inv
  | start wantsVulkan =>
    exact inv.framed ⟨rfl, rfl, fun _ => rfl⟩ rfl (.inr (.inr ⟨_, _, rfl⟩))
  | startFailed => exact inv.framed ⟨rfl, rfl, fun _ => rfl⟩ rfl (.inr (.inl rfl))
  | bootstrap handled answered =>
    obtain ⟨generation, wantsVulkan, starting⟩ := allowed
    simp only [next, sendBootstrap, starting]
    refine ⟨fun child connected => (inv.connected child connected).trans (Nat.lt_succ_self _), ?_⟩
    intro child launched
    have born : child = c.nextChild := by
      dsimp only at launched
      split at launched <;> simp_all
    subst born
    refine ⟨Nat.lt_succ_self _, ?_, by simp⟩
    intro connected
    exact absurd (inv.connected _ connected) (lt_irrefl _)
  | observe added =>
    obtain ⟨child, generation, wantsVulkan, booted⟩ := allowed
    have born := inv.fresh child (.inl ⟨_, _, booted⟩)
    simp only [next, observeDeath, booted]
    split
    all_goals
      refine ⟨inv.connected, ?_⟩
      rintro other (⟨_, _, launched⟩ | ⟨_, launched⟩)
      · cases launched
      · cases launched
        exact born
  | install =>
    obtain ⟨child, recipient, observed⟩ := allowed
    have born := inv.fresh child (.inr ⟨_, observed⟩)
    simp only [next, installChild, observed]
    refine ⟨?_, by simp⟩
    rintro other connected
    obtain rfl := Option.some.inj connected
    exact born.1
  | retire =>
    obtain ⟨oldProxy, oldRecipient, installed⟩ := allowed
    simp only [next, retireChild, installed]
    split
    · exact inv.framed ⟨rfl, rfl, fun _ => rfl⟩ rfl (.inr (.inl rfl))
    · exact inv.framed ⟨rfl, rfl, fun _ => rfl⟩ rfl (.inr (.inl rfl))
    · exact inv
  | report child widget hdr p3 =>
    simp only [next]
    split
    · exact inv
    · obtain ⟨frame, nextChild, launch⟩ :=
        onOutputCapabilities_frame c child _ widget hdr p3
      exact inv.framed frame nextChild (.inl launch)
  | die child => exact inv.framed ⟨rfl, rfl, fun _ => rfl⟩ rfl (.inl rfl)
  | notify recipient =>
    obtain ⟨frame, nextChild, launch⟩ := onGpuOutputDied_frame
      { c with observers := c.observers.erase recipient } recipient.generation
    exact inv.framed ⟨frame.proxy, frame.sent, frame.mirrors⟩ nextChild (.inl launch)

-- The new child starts from nothing, whatever was lost on the way to the old one.
theorem install_synced (inv : LaunchInv c) (allowed : c.permitted .install) :
    SyncedInv (c.next .install) := by
  obtain ⟨child, recipient, observed⟩ := allowed
  have born := inv.fresh child (.inr ⟨_, observed⟩)
  simp only [next, installChild, observed]
  rintro other connected
  obtain rfl := Option.some.inj connected
  dsimp only
  rw [born.2.2]
  exact ⟨by simp, by simp⟩

theorem next_synced (event : ChannelEvent) (inv : LaunchInv c)
    (synced : SyncedInv c) (allowed : c.permitted event)
    (delivered : ∀ deliver, event = .forward deliver -> Delivered deliver) :
    SyncedInv (c.next event) := by
  cases event with
  | forward deliver => exact forward_synced c deliver synced (delivered deliver rfl)
  | bootstrap handled answered =>
    obtain ⟨generation, wantsVulkan, starting⟩ := allowed
    intro child connected
    simp only [next, sendBootstrap, starting] at connected ⊢
    have distinct : child ≠ c.nextChild := (inv.connected child connected).ne
    simpa only [Function.update_of_ne distinct] using synced child connected
  | observe added =>
    obtain ⟨child, generation, wantsVulkan, booted⟩ := allowed
    simp only [next, observeDeath, booted]
    split
    · exact synced.framed ⟨rfl, rfl, fun _ => rfl⟩
    · exact synced.framed ⟨rfl, rfl, fun _ => rfl⟩
  | install => exact install_synced c inv allowed
  | retire =>
    simp only [next, retireChild]
    split
    · exact synced.framed ⟨rfl, rfl, fun _ => rfl⟩
    · exact synced.framed ⟨rfl, rfl, fun _ => rfl⟩
    · exact synced
  | report child widget hdr p3 =>
    simp only [next]
    split
    · exact synced
    · exact synced.framed (onOutputCapabilities_frame c child _ widget hdr p3).1
  | notify recipient =>
    obtain ⟨frame, -⟩ := onGpuOutputDied_frame
      { c with observers := c.observers.erase recipient } recipient.generation
    exact synced.framed ⟨frame.proxy, frame.sent, frame.mirrors⟩
  | registry | start | startFailed | die => exact synced.framed ⟨rfl, rfl, fun _ => rfl⟩

/-- No request to the child now connected was lost: failures before its installation do not count. -/
def NothingLost (trace : List (GpuChannel × ChannelEvent)) : Prop :=
  ∀ (before after : List (GpuChannel × ChannelEvent)) (s : GpuChannel)
    (deliver : AcceleratedWidget → Delivery),
    trace = before ++ (s, .forward deliver) :: after →
    (∀ entry ∈ after, entry.2 ≠ .install) → Delivered deliver

def Converged (c : GpuChannel) (child : ChildId) : Prop :=
  ∀ widget : AcceleratedWidget, (c.children child).mirror[widget]? =
    if widget ∈ c.registry.snapshotWidgets then
      some (mirrorOf (c.registry.gpuChildWidgetState widget))
    else none

theorem NothingLost.snoc {trace : List (GpuChannel × ChannelEvent)} {s : GpuChannel}
    {event : ChannelEvent} (nothing : NothingLost (trace ++ [(s, event)])) :
    (event = .install \/ NothingLost trace) /\
      ∀ deliver, event = .forward deliver -> Delivered deliver := by
  refine ⟨?_, ?_⟩
  · by_cases installs : event = .install
    · exact .inl installs
    · refine .inr fun before after first deliver split later => ?_
      refine nothing before (after ++ [(s, event)]) first deliver (by simp [split]) ?_
      intro entry mem
      rcases List.mem_append.mp mem with mem | mem
      · exact later entry mem
      · rw [List.mem_singleton.mp mem]
        exact installs
  · rintro deliver rfl
    exact nothing trace [] s deliver rfl (by simp)

theorem run_synced {trace : List (GpuChannel × ChannelEvent)} {c : GpuChannel}
    (run : Trace step {} trace c) : LaunchInv c /\ (NothingLost trace -> SyncedInv c) := by
  have initial : LaunchInv {} := ⟨by simp, by simp⟩
  have extended : ∀ (trace : List (GpuChannel × ChannelEvent)) (s : GpuChannel)
      (event : ChannelEvent) (t : GpuChannel), LaunchInv s /\ (NothingLost trace -> SyncedInv s) ->
      step s event t -> LaunchInv t /\ (NothingLost (trace ++ [(s, event)]) -> SyncedInv t) := by
    rintro trace s event t ⟨inv, synced⟩ ⟨allowed, rfl⟩
    refine ⟨next_launch s event inv allowed, fun nothing => ?_⟩
    obtain ⟨earlier, delivered⟩ := nothing.snoc
    rcases earlier with rfl | earlier
    · exact install_synced s inv allowed
    · exact next_synced s event inv (synced earlier) allowed delivered
  exact run.history extended ⟨initial, fun _ child connected => by simp at connected⟩

theorem mirror_converges {trace : List (GpuChannel × ChannelEvent)} {c : GpuChannel}
    {child : ChildId} {deliver : AcceleratedWidget → Delivery} (run : Trace step {} trace c)
    (nothing : NothingLost trace) (connected : c.side.proxy = some child)
    (delivered : Delivered deliver) :
    Converged (c.forwardOhosSurfacesToGpuChild deliver) child := by
  have synced := forward_synced c deliver ((run_synced run).2 nothing) delivered
  intro widget
  have registry : (c.forwardOhosSurfacesToGpuChild deliver).registry = c.registry := by
    rw [forward_connected c deliver child connected]
    rfl
  have told := (synced child (by rw [forward_connected c deliver child connected]; exact connected)).equal
    widget
  rw [registry, told]
  rw [forward_connected c deliver child connected]
  dsimp only
  rw [snapshotMap_lookup]
  split <;> rfl

def launched : List ChannelEvent :=
  [.start false, .bootstrap true true, .observe false, .install,
    .registry (.registerLogicalWindow 1 {} false)]

theorem launched_follows : Follows permitted next {} launched :=
  ⟨rfl, ⟨_, _, rfl⟩, ⟨_, _, _, rfl⟩, ⟨_, _, rfl⟩, trivial, trivial⟩

theorem mirror_converges_launched :
    Converged ((run launched).forwardOhosSurfacesToGpuChild fun _ => ⟨true, true, true⟩) 1 := by
  obtain ⟨trace, run, labels⟩ := launched_follows.trace
  refine mirror_converges run ?_ rfl fun _ => ⟨rfl, rfl⟩
  rintro before after s deliver rfl
  have mem : ChannelEvent.forward deliver ∈ launched := by simp [← labels]
  simp [launched] at mem

-- The forward whose request is lost still marks the widget as sent.
theorem lost_request_not_repeated :
    ¬ ∀ (trace : List (GpuChannel × ChannelEvent)) (c : GpuChannel) (child : ChildId)
      (deliver : AcceleratedWidget → Delivery), Trace step {} trace c →
      c.side.proxy = some child → Delivered deliver →
      Converged (c.forwardOhosSurfacesToGpuChild deliver) child := by
  intro every
  have lost : Follows permitted next {} (launched ++ [.forward fun _ => ⟨false, false, false⟩]) :=
    ⟨rfl, ⟨_, _, rfl⟩, ⟨_, _, _, rfl⟩, ⟨_, _, rfl⟩, trivial, trivial, trivial⟩
  obtain ⟨trace, run, -⟩ := lost.trace
  have equal := every _ _ 1 (fun _ => ⟨true, true, true⟩) run (by decide) (fun _ => ⟨rfl, rfl⟩) 1
  exact absurd equal (by decide)

end GpuChannel

end ChromiumHmos.Ozone
