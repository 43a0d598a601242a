import ChromiumHmos.Services.SystemServices
import ChromiumHmos.Services.UsbBridge

set_option autoImplicit false

/-!
# Requests over the bridges

Both bridges keep their requests the same way. They differ in what becomes of the pending ones when what
carries them goes.
-/

namespace ChromiumHmos.Services

open Transition Base Lib

namespace SystemServices

def Failed (reply : Reply) : Prop := reply.ok = false

structure Sane (s : SystemServices) : Prop where
  requests : s.requests.Sound Failed
  deliveries : s.deliveries.Sound
  counted : s.deliveries.events = s.events.length
  subscribed : forall subscriber, subscriber ∈ s.subscribers -> (subscriber.id, subscriber.service) ∈ s.subscriptions
  numbered : (s.subscribers.map (·.id)).Nodup
  known : forall subscriber, subscriber ∈ s.subscribers -> subscriber.id <= s.nextSubscriberId
  meant : forall target, target ∈ s.deliveries.targets ->
    exists event, s.events[target.1]? = some event ∧ (target.2, event.service) ∈ s.subscriptions

theorem sane_initial : Sane {} where
  requests := Requests.sound_initial
  deliveries := Deliveries.sound_initial
  counted := rfl
  subscribed := fun _ member => absurd member List.not_mem_nil
  numbered := List.nodup_nil
  known := fun _ member => absurd member List.not_mem_nil
  meant := fun _ member => absurd member List.not_mem_nil

variable {s : SystemServices}

theorem Sane.withRequests {t : SystemServices} (sane : Sane s) (requests : t.requests.Sound Failed)
    (deliveries : t.deliveries = s.deliveries) (events : t.events = s.events)
    (subscribers : t.subscribers = s.subscribers) (subscriptions : t.subscriptions = s.subscriptions)
    (next : t.nextSubscriberId = s.nextSubscriberId) : Sane t where
  requests := requests
  deliveries := deliveries ▸ sane.deliveries
  counted := by rw [deliveries, events]; exact sane.counted
  subscribed := by rw [subscribers, subscriptions]; exact sane.subscribed
  numbered := subscribers ▸ sane.numbered
  known := by rw [subscribers, next]; exact sane.known
  meant := by rw [deliveries, events, subscriptions]; exact sane.meant

theorem send_sane (sane : Sane s) (index : Nat) (encodes : Bool) : Sane (s.send index encodes) := by
  unfold send
  split
  next => exact sane
  next sending _ =>
    split
    next => exact sane.withRequests sane.requests rfl rfl rfl rfl rfl
    next => exact sane.withRequests (sane.requests.complete sending.id (by simp) fun _ => rfl) rfl rfl rfl rfl rfl

theorem announce_sane (sane : Sane s) (service event : String) (data : DictValue) :
    Sane { s with
      events := s.events ++ [{ service, event, data }]
      deliveries := s.deliveries.announce (s.targetsOf service) } := by
  have distinct : (s.targetsOf service).Nodup := sane.numbered.sublist (List.filter_sublist.map _)
  refine ⟨sane.requests, sane.deliveries.announce distinct, ?_, sane.subscribed, sane.numbered, sane.known, ?_⟩
  · simp [Deliveries.announce, sane.counted]
  · intro target member
    rcases List.mem_append.mp member with before | new
    · obtain ⟨told, at_event, subscribed⟩ := sane.meant target before
      refine ⟨told, ?_, subscribed⟩
      obtain ⟨inside, -⟩ := List.getElem?_eq_some_iff.mp at_event
      exact (List.getElem?_append_left inside).trans at_event
    · obtain ⟨subscription, there, rfl⟩ := List.mem_map.mp new
      obtain ⟨subscriber, inside, rfl⟩ := List.mem_map.mp there
      obtain ⟨present, of_service⟩ := List.mem_filter.mp inside
      have same : subscriber.service = service := by simpa using of_service
      refine ⟨{ service, event, data }, ?_, same ▸ sane.subscribed subscriber present⟩
      simp [sane.counted]

theorem deliverMessage_sane (sane : Sane s) (parsed : Option Value) :
    Sane (s.deliverMessage parsed) := by
  unfold deliverMessage
  split
  next entries =>
    dsimp only
    split
    next id _ =>
      exact sane.withRequests (sane.requests.complete id (fun _ is => (Option.some.inj is).symm) (by simp))
        rfl rfl rfl rfl rfl
    next =>
      split
      next service event _ _ => exact announce_sane sane service event _
      next => exact sane
  next => exact sane

theorem addSubscriber_sane (sane : Sane s) (service : String) (runner : Nat) :
    Sane (s.addSubscriber service runner) := by
  refine ⟨sane.requests, sane.deliveries, sane.counted, ?_, ?_, ?_, ?_⟩
  · intro subscriber member
    rcases List.mem_append.mp member with before | new
    · exact List.mem_append_left _ (sane.subscribed subscriber before)
    · obtain rfl := List.mem_singleton.mp new
      exact List.mem_append_right _ (List.mem_singleton_self _)
  · simp only [addSubscriber, List.map_append, List.map_cons, List.map_nil]
    refine List.nodup_append.mpr ⟨sane.numbered, List.nodup_singleton _, fun id before other new same => ?_⟩
    obtain ⟨subscriber, inside, rfl⟩ := List.mem_map.mp before
    have late : subscriber.id = s.nextSubscriberId + 1 := same.trans (List.mem_singleton.mp new)
    exact absurd (sane.known subscriber inside) (by omega)
  · intro subscriber member
    rcases List.mem_append.mp member with before | new
    · exact (sane.known subscriber before).trans (Nat.le_succ _)
    · obtain rfl := List.mem_singleton.mp new
      exact le_refl _
  · intro target member
    obtain ⟨event, at_event, subscribed⟩ := sane.meant target member
    exact ⟨event, at_event, List.mem_append_left _ subscribed⟩

theorem next_sane (sane : Sane s) (step : Step) : Sane (s.next step) := by
  cases step with
  | setDispatcher installs =>
    cases installs with
    | true => exact sane.withRequests sane.requests rfl rfl rfl rfl rfl
    | false => exact sane.withRequests (sane.requests.failAll rfl) rfl rfl rfl rfl rfl
  | call caller service method args =>
    simp only [next, call]
    split
    next => exact sane.withRequests (sane.requests.refuse caller rfl) rfl rfl rfl rfl rfl
    next dispatcher _ => exact sane.withRequests (sane.requests.register caller dispatcher) rfl rfl rfl rfl rfl
  | send index encodes => exact send_sane sane index encodes
  | cancel id =>
    simp only [next, cancel]
    split
    · exact sane.withRequests (sane.requests.complete id (by simp) fun _ => rfl) rfl rfl rfl rfl rfl
    · exact sane
  | deliverMessage parsed => exact deliverMessage_sane sane parsed
  | post index => exact sane.withRequests (sane.requests.post index) rfl rfl rfl rfl rfl
  | addSubscriber service runner => exact addSubscriber_sane sane service runner
  | removeSubscriber id =>
    refine ⟨sane.requests, sane.deliveries, sane.counted, ?_, ?_, ?_, sane.meant⟩
    · exact fun subscriber member => sane.subscribed subscriber (List.mem_of_mem_filter member)
    · exact sane.numbered.sublist (List.filter_sublist.map _)
    · exact fun subscriber member => sane.known subscriber (List.mem_of_mem_filter member)
  | runSubscriber index =>
    have same : (s.deliveries.run index s.alive).targets = s.deliveries.targets /\
        (s.deliveries.run index s.alive).events = s.deliveries.events := by
      unfold Deliveries.run
      split <;> exact ⟨rfl, rfl⟩
    refine ⟨sane.requests, sane.deliveries.run index s.alive, same.2.trans sane.counted, sane.subscribed, sane.numbered,
      sane.known, fun target member => sane.meant target ?_⟩
    exact same.1 ▸ member

theorem sane_run (steps : List Step) (sane : Sane s) : Sane (steps.foldl next s) := by
  induction steps generalizing s with
  | nil => exact sane
  | cons step rest ih => exact ih (next_sane sane step)

def Carried (s : SystemServices) : Prop :=
  forall entry, entry ∈ s.requests.pending -> s.dispatcher = some entry.2.carrier

theorem Carried.fewer {t : SystemServices} (carried : Carried s) (fewer : t.requests.pending.Sublist s.requests.pending)
    (dispatcher : t.dispatcher = s.dispatcher) : Carried t :=
  fun entry member => dispatcher.trans (carried entry (fewer.subset member))

theorem next_carried (carried : Carried s) (step : Step) (careful : Careful s step) :
    Carried (s.next step) := by
  cases step with
  | setDispatcher installs =>
    cases installs with
    | true =>
      have idle : s.requests.pending = [] := List.isEmpty_iff.mp careful
      intro entry member
      have inside : entry ∈ s.requests.pending := member
      rw [idle] at inside
      exact absurd inside List.not_mem_nil
    | false => exact fun entry member => absurd member List.not_mem_nil
  | call caller service method args =>
    simp only [next, call]
    split
    next none_there => exact carried.fewer (.refl _) rfl
    next dispatcher there =>
      intro entry member
      rcases List.mem_append.mp member with before | new
      · exact carried entry before
      · obtain rfl := List.mem_singleton.mp new
        exact there
  | send index encodes =>
    simp only [next, send]
    split
    next => exact carried
    next =>
      split
      next => exact carried.fewer (.refl _) rfl
      next => exact carried.fewer (Requests.complete_fewer _ _ _) rfl
  | cancel id =>
    simp only [next, cancel]
    split
    next => exact carried.fewer (Requests.complete_fewer _ _ _) rfl
    next => exact carried
  | deliverMessage parsed =>
    simp only [next, deliverMessage]
    split
    next =>
      split
      next => exact carried.fewer (Requests.complete_fewer _ _ _) rfl
      next => split <;> exact carried.fewer (.refl _) rfl
    next => exact carried
  | post index =>
    have same : (s.requests.post index).pending = s.requests.pending := by
      unfold Requests.post
      split <;> rfl
    exact carried.fewer (by simp only [next, same]; exact .refl _) rfl
  | addSubscriber service runner => exact carried.fewer (.refl _) rfl
  | removeSubscriber id => exact carried.fewer (.refl _) rfl
  | runSubscriber index => exact carried.fewer (.refl _) rfl

theorem carried_run (steps : List Step) (carried : Carried s)
    (careful : Follows Careful next s steps) : Carried (steps.foldl next s) :=
  careful.preserves (fun t step before keeps => next_carried (s := t) before step keeps) carried

end SystemServices

namespace UsbBridge

def Failed (response : DictValue) : Prop := response.findBool "ok" = some false

theorem failure_failed (id : Nat) (message : String) : Failed (failure id message) := rfl

structure Sane (s : UsbBridge) : Prop where
  requests : s.requests.Sound Failed
  deliveries : s.deliveries.Sound
  counted : s.deliveries.events = s.events.length
  numbered : s.subscriptions.map Prod.fst = List.range s.subscriptions.length
  usb : forall target, s.usbTarget = some target -> (target, .usb) ∈ s.subscriptions
  hid : forall target, s.hidTarget = some target -> (target, .hid) ∈ s.subscriptions
  serial : forall target, s.serialTarget = some target -> (target, .serial) ∈ s.subscriptions
  meant : forall target, target ∈ s.deliveries.targets ->
    exists event kind, s.events[target.1]? = some event ∧ (target.2, kind) ∈ s.subscriptions ∧
      (event.1 = true -> kind = .hid)

theorem sane_initial : Sane {} where
  requests := Requests.sound_initial
  deliveries := Deliveries.sound_initial
  counted := rfl
  numbered := rfl
  usb := fun _ is => absurd is (by simp)
  hid := fun _ is => absurd is (by simp)
  serial := fun _ is => absurd is (by simp)
  meant := fun _ member => absurd member List.not_mem_nil

variable {s : UsbBridge}

theorem Sane.one_kind (sane : Sane s) {number : Nat} {kind other : UsbServiceKind}
    (first : (number, kind) ∈ s.subscriptions) (second : (number, other) ∈ s.subscriptions) : kind = other := by
  have distinct : (s.subscriptions.map Prod.fst).Nodup := sane.numbered ▸ List.nodup_range
  have same := List.inj_on_of_nodup_map distinct first second rfl
  exact (Prod.mk.inj same).2

theorem Sane.targets_distinct (sane : Sane s) (hidOnly : Bool) : (s.targetsOf hidOnly).Nodup := by
  have single (target : Option Nat) : target.toList.Nodup := by
    cases target
    · exact List.nodup_nil
    · exact List.nodup_singleton _
  cases hidOnly with
  | true => exact single _
  | false =>
    simp only [targetsOf, Bool.false_eq_true, if_false]
    refine List.nodup_append.mpr ⟨List.nodup_append.mpr ⟨single _, single _, ?_⟩, single _, ?_⟩
    · intro first usb second hid same
      subst same
      have kinds := sane.one_kind (sane.usb first (Option.mem_toList.mp usb)) (sane.hid first (Option.mem_toList.mp hid))
      exact absurd kinds (by decide)
    · intro first earlier second serial same
      subst same
      have last := sane.serial first (Option.mem_toList.mp serial)
      rcases List.mem_append.mp earlier with usb | hid
      · exact absurd (sane.one_kind (sane.usb first (Option.mem_toList.mp usb)) last) (by decide)
      · exact absurd (sane.one_kind (sane.hid first (Option.mem_toList.mp hid)) last) (by decide)

theorem Sane.target_kind (sane : Sane s) {hidOnly : Bool} {target : Nat}
    (member : target ∈ s.targetsOf hidOnly) :
    ∃ kind, (target, kind) ∈ s.subscriptions /\ (hidOnly = true -> kind = .hid) := by
  cases hidOnly with
  | true => exact ⟨.hid, sane.hid target (Option.mem_toList.mp member), fun _ => rfl⟩
  | false =>
    simp only [targetsOf, Bool.false_eq_true, if_false] at member
    rcases List.mem_append.mp member with earlier | serial
    · rcases List.mem_append.mp earlier with usb | hid
      · exact ⟨.usb, sane.usb target (Option.mem_toList.mp usb), fun no => absurd no Bool.false_ne_true⟩
      · exact ⟨.hid, sane.hid target (Option.mem_toList.mp hid), fun _ => rfl⟩
    · exact ⟨.serial, sane.serial target (Option.mem_toList.mp serial), fun no => absurd no Bool.false_ne_true⟩

theorem Sane.withRequests {t : UsbBridge} (sane : Sane s) (requests : t.requests.Sound Failed)
    (deliveries : t.deliveries = s.deliveries) (events : t.events = s.events)
    (subscriptions : t.subscriptions = s.subscriptions) (usb : t.usbTarget = s.usbTarget)
    (hid : t.hidTarget = s.hidTarget) (serial : t.serialTarget = s.serialTarget) : Sane t where
  requests := requests
  deliveries := deliveries ▸ sane.deliveries
  counted := by rw [deliveries, events]; exact sane.counted
  numbered := subscriptions ▸ sane.numbered
  usb := by rw [usb, subscriptions]; exact sane.usb
  hid := by rw [hid, subscriptions]; exact sane.hid
  serial := by rw [serial, subscriptions]; exact sane.serial
  meant := by rw [deliveries, events, subscriptions]; exact sane.meant

theorem announce_sane (sane : Sane s) (hidOnly : Bool) (message : DictValue) :
    Sane { s with
      events := s.events ++ [(hidOnly, message)]
      deliveries := s.deliveries.announce (s.targetsOf hidOnly) } := by
  refine ⟨sane.requests, sane.deliveries.announce (sane.targets_distinct hidOnly), ?_, sane.numbered, sane.usb,
    sane.hid, sane.serial, ?_⟩
  · simp [Deliveries.announce, sane.counted]
  · intro target member
    rcases List.mem_append.mp member with before | new
    · obtain ⟨event, kind, at_event, rest⟩ := sane.meant target before
      obtain ⟨inside, -⟩ := List.getElem?_eq_some_iff.mp at_event
      exact ⟨event, kind, (List.getElem?_append_left inside).trans at_event, rest⟩
    · obtain ⟨subscription, there, rfl⟩ := List.mem_map.mp new
      obtain ⟨kind, subscribed, only⟩ := sane.target_kind there
      exact ⟨(hidOnly, message), kind, by simp [sane.counted], subscribed, only⟩

theorem setEventCallback_sane (sane : Sane s) (kind : UsbServiceKind) (bound : Bool) :
    Sane (s.setEventCallback kind bound) := by
  have meant (more : List (Nat × UsbServiceKind)) : ∀ target ∈ s.deliveries.targets,
      ∃ event kind, s.events[target.1]? = some event /\ (target.2, kind) ∈ s.subscriptions ++ more /\
        (event.1 = true -> kind = .hid) := by
    intro target member
    obtain ⟨event, kind, at_event, subscribed, only⟩ := sane.meant target member
    exact ⟨event, kind, at_event, List.mem_append_left _ subscribed, only⟩
  have numbered (new : UsbServiceKind) : (s.subscriptions ++ [(s.subscriptions.length, new)]).map Prod.fst =
      List.range (s.subscriptions ++ [(s.subscriptions.length, new)]).length := by
    rw [List.map_append, sane.numbered, List.length_append, List.length_singleton, List.range_succ]
    rfl
  have grown {target : Option Nat} {own : UsbServiceKind} (new : UsbServiceKind)
      (before : ∀ number, target = some number -> (number, own) ∈ s.subscriptions) :
      ∀ number, target = some number ->
        (number, own) ∈ s.subscriptions ++ [(s.subscriptions.length, new)] :=
    fun number is => List.mem_append_left _ (before number is)
  have fresh (new : UsbServiceKind) : ∀ number, some s.subscriptions.length = some number ->
      (number, new) ∈ s.subscriptions ++ [(s.subscriptions.length, new)] := by
    intro number is
    obtain rfl := Option.some.inj is
    exact List.mem_append_right _ (List.mem_singleton_self _)
  have none_left (own : UsbServiceKind) : ∀ number, (none : Option Nat) = some number ->
      (number, own) ∈ s.subscriptions := fun _ is => absurd is (by simp)
  cases bound with
  | false =>
    cases kind with
    | usb =>
      exact ⟨sane.requests, sane.deliveries, sane.counted, sane.numbered, none_left _, sane.hid, sane.serial, sane.meant⟩
    | hid =>
      exact ⟨sane.requests, sane.deliveries, sane.counted, sane.numbered, sane.usb, none_left _, sane.serial, sane.meant⟩
    | serial =>
      exact ⟨sane.requests, sane.deliveries, sane.counted, sane.numbered, sane.usb, sane.hid, none_left _, sane.meant⟩
  | true =>
    cases kind with
    | usb =>
      exact ⟨sane.requests, sane.deliveries, sane.counted, numbered _, fresh _, grown _ sane.hid, grown _ sane.serial, meant _⟩
    | hid =>
      exact ⟨sane.requests, sane.deliveries, sane.counted, numbered _, grown _ sane.usb, fresh _, grown _ sane.serial, meant _⟩
    | serial =>
      exact ⟨sane.requests, sane.deliveries, sane.counted, numbered _, grown _ sane.usb, grown _ sane.hid, fresh _, meant _⟩

theorem send_sane (sane : Sane s) (index : Nat) (encodes : Bool) : Sane (s.send index encodes) := by
  have failing (id : Nat) (message : String) : s.requests.complete id none (failure id message) |>.Sound Failed :=
    sane.requests.complete id (by simp) fun _ => failure_failed id message
  unfold send
  split
  next => exact sane
  next =>
    dsimp only
    split
    next => exact sane.withRequests (failing _ _) rfl rfl rfl rfl rfl rfl
    next =>
      split
      next => exact sane.withRequests (failing _ _) rfl rfl rfl rfl rfl rfl
      next => exact sane.withRequests sane.requests rfl rfl rfl rfl rfl rfl

theorem next_sane (sane : Sane s) (step : Step) : Sane (s.next step) := by
  cases step with
  | setCommandCallback installs =>
    cases installs <;> exact sane.withRequests sane.requests rfl rfl rfl rfl rfl rfl
  | sendCommand caller command => exact sane.withRequests (sane.requests.register caller _) rfl rfl rfl rfl rfl rfl
  | send index encodes => exact send_sane sane index encodes
  | dispatchMessage parsed =>
    simp only [next, dispatchMessage]
    split
    next =>
      split
      next id _ =>
        exact sane.withRequests (sane.requests.complete id (fun _ is => (Option.some.inj is).symm) (by simp))
          rfl rfl rfl rfl rfl rfl
      next => exact announce_sane sane _ _
    next => exact sane
  | post index => exact sane.withRequests (sane.requests.post index) rfl rfl rfl rfl rfl rfl
  | setEventCallback kind bound => exact setEventCallback_sane sane kind bound
  | ownerDestroyed subscription => exact sane.withRequests sane.requests rfl rfl rfl rfl rfl rfl
  | runEvent index =>
    have same : (s.deliveries.run index s.alive).targets = s.deliveries.targets /\
        (s.deliveries.run index s.alive).events = s.deliveries.events := by
      unfold Deliveries.run
      split <;> exact ⟨rfl, rfl⟩
    refine ⟨sane.requests, sane.deliveries.run index s.alive, same.2.trans sane.counted, sane.numbered, sane.usb,
      sane.hid, sane.serial, fun target member => sane.meant target ?_⟩
    exact same.1 ▸ member

theorem sane_run (steps : List Step) (sane : Sane s) : Sane (steps.foldl next s) := by
  induction steps generalizing s with
  | nil => exact sane
  | cons step rest ih => exact ih (next_sane sane step)

def Carried (s : UsbBridge) : Prop :=
  forall entry, entry ∈ s.requests.pending ->
    (exists carrier, entry.2.carrier = some carrier ∧ s.commandCallback = some carrier) ∨
      entry.2.carrier = none ∧
        exists sending, sending ∈ s.sending ∧ sending.id = entry.1 ∧ sending.dispatcher = none

theorem Carried.fewer {t : UsbBridge} (carried : Carried s) (fewer : t.requests.pending.Sublist s.requests.pending)
    (callback : t.commandCallback = s.commandCallback) (sending : t.sending = s.sending) : Carried t := by
  intro entry member
  rw [callback, sending]
  exact carried entry (fewer.subset member)

theorem failed_carried (sane : Sane s) (carried : Carried s) {index : Nat} {sending : SendingCommand}
    (found : s.sending[index]? = some sending) (message : String) :
    Carried ({ s with sending := s.sending.eraseIdx index }.failRequest sending.id message) := by
  have gone : (s.requests.complete sending.id none (failure sending.id message)).pending.lookup sending.id = none :=
    Requests.complete_pending sane.requests sending.id none _
  have fewer : (s.requests.complete sending.id none (failure sending.id message)).pending.Sublist s.requests.pending :=
    Requests.complete_fewer _ _ _
  have distinct : ((s.requests.complete sending.id none (failure sending.id message)).pending.map Prod.fst).Nodup :=
    sane.requests.distinct.sublist (fewer.map _)
  intro entry member
  rcases carried entry (fewer.subset member) with installed | ⟨none_there, other, inside, own, lost⟩
  · exact .inl installed
  · refine .inr ⟨none_there, other, ?_, own, lost⟩
    have apart : other ≠ sending := by
      rintro rfl
      have there := Mailbox.lookup_of_mem distinct (show (entry.1, entry.2) ∈ _ from member)
      rw [<- own] at there
      exact absurd (gone.symm.trans there) (by simp)
    obtain ⟨place, bound, at_place⟩ := List.getElem_of_mem inside
    have elsewhere : place ≠ index := by
      rintro rfl
      rw [List.getElem?_eq_getElem bound, at_place] at found
      exact apart (Option.some.inj found)
    exact List.mem_eraseIdx_iff_getElem.mpr ⟨place, bound, elsewhere, at_place⟩

theorem sent_carried (carried : Carried s) {index dispatcher : Nat} {sending : SendingCommand}
    (found : s.sending[index]? = some sending) (there : sending.dispatcher = some dispatcher)
    (sent : List (Nat × DictValue)) : Carried { s with sending := s.sending.eraseIdx index, sent } := by
  intro entry member
  rcases carried entry member with installed | ⟨none_there, other, inside, own, lost⟩
  · exact .inl installed
  · refine .inr ⟨none_there, other, ?_, own, lost⟩
    obtain ⟨place, bound, at_place⟩ := List.getElem_of_mem inside
    have elsewhere : place ≠ index := by
      rintro rfl
      rw [List.getElem?_eq_getElem bound, at_place] at found
      have same := Option.some.inj found
      exact absurd (there.symm.trans (same ▸ lost)) (by simp)
    exact List.mem_eraseIdx_iff_getElem.mpr ⟨place, bound, elsewhere, at_place⟩

theorem next_carried (sane : Sane s) (carried : Carried s) (step : Step) (careful : Careful s step) :
    Carried (s.next step) := by
  cases step with
  | setCommandCallback installs =>
    intro entry member
    have inside : entry ∈ s.requests.pending := by cases installs <;> exact member
    have kept : (s.next (.setCommandCallback installs)).sending = s.sending := by cases installs <;> rfl
    rcases carried entry inside with ⟨carrier, is, -⟩ | failing
    · exact absurd ((careful entry inside).symm.trans is) (by simp)
    · exact .inr (kept ▸ failing)
  | sendCommand caller command =>
    intro entry member
    rcases List.mem_append.mp member with before | new
    · refine (carried entry before).imp id fun failing => ?_
      obtain ⟨none_there, other, inside, rest⟩ := failing
      exact ⟨none_there, other, List.mem_append_left _ inside, rest⟩
    · obtain rfl := List.mem_singleton.mp new
      rcases there : s.commandCallback with _ | carrier
      · refine .inr ⟨rfl, _, List.mem_append_right _ (List.mem_singleton_self _), rfl, there⟩
      · exact .inl ⟨carrier, rfl, there⟩
  | send index encodes =>
    simp only [next, send]
    split
    next => exact carried
    next sending found =>
      split
      next => exact failed_carried sane carried found _
      next =>
        split
        next => exact failed_carried sane carried found _
        next there => exact sent_carried carried found there _
  | dispatchMessage parsed =>
    simp only [next, dispatchMessage]
    split
    next =>
      split
      next => exact carried.fewer (Requests.complete_fewer _ _ _) rfl rfl
      next => exact carried.fewer (.refl _) rfl rfl
    next => exact carried
  | post index =>
    have same : (s.requests.post index).pending = s.requests.pending := by
      unfold Requests.post
      split <;> rfl
    exact carried.fewer (by simp only [next, same]; exact .refl _) rfl rfl
  | setEventCallback kind bound => cases kind <;> cases bound <;> exact carried.fewer (.refl _) rfl rfl
  | ownerDestroyed subscription => exact carried.fewer (.refl _) rfl rfl
  | runEvent index => exact carried.fewer (.refl _) rfl rfl

theorem carried_run (steps : List Step) (sane : Sane s) (carried : Carried s)
    (careful : Follows Careful next s steps) : Carried (steps.foldl next s) := by
  induction steps generalizing s with
  | nil => exact carried
  | cons step rest ih => exact ih (next_sane sane step) (next_carried sane carried step careful.1) careful.2

end UsbBridge

/-- What holds of the requests of either bridge: each callback is pending, on its way or posted, once; it is
posted to its caller, with the reply to its own request or with a failure. -/
def AnsweredOnce {κ R : Type} (failed : R -> Prop) (s : Requests κ R) : Prop :=
  Accounted s.held (s.posted.map fun answer => answer.callback) s.calls.length ∧
    forall answer, answer ∈ s.posted -> s.calls[answer.callback]? = some answer.caller ∧
      (forall id, answer.replyTo = some id ->
        exists carrier, (id, ⟨answer.caller, answer.callback, carrier⟩) ∈ s.registered) ∧
      (answer.replyTo = none -> failed answer.reply)

theorem answeredOnce {κ R : Type} {failed : R -> Prop} {s : Requests κ R} (sound : s.Sound failed) :
    AnsweredOnce failed s :=
  ⟨sound.accounted, fun answer member =>
    ⟨(sound.posted answer member).caller, (sound.posted answer member).own, (sound.posted answer member).failed⟩⟩

namespace SystemServices

theorem ends {s : SystemServices} (sane : Sane s) :
    (∀ message id, replyId message = some id ->
      (s.next (.deliverMessage (some (.dict message)))).requests.pending.lookup id = none) /\
      (∀ id, 0 < id -> (s.next (.cancel id)).requests.pending.lookup id = none) /\
      (s.next (.setDispatcher false)).requests.pending = [] := by
  refine ⟨fun message id is => ?_, fun id positive => ?_, rfl⟩
  · simp only [next, deliverMessage, is]
    exact Requests.complete_pending sane.requests id _ _
  · simp only [next, cancel, positive, if_true]
    exact Requests.complete_pending sane.requests id _ _

end SystemServices

theorem SystemServices.reaches {s : SystemServices} (sane : SystemServices.Sane s) {message : DictValue}
    {service event : String} (no_reply : SystemServices.replyId message = none)
    (of_service : message.findString "service" = some service) (named : message.findString "event" = some event)
    {subscriber : Subscriber} (member : subscriber ∈ s.subscribers) (same : subscriber.service = service) :
    (s.events.length, subscriber.id) ∈ (s.next (.deliverMessage (some (.dict message)))).deliveries.tasks := by
  have meant : subscriber.id ∈ s.targetsOf service :=
    List.mem_map_of_mem (List.mem_filter.mpr ⟨member, by simpa using same⟩)
  simp only [SystemServices.next, SystemServices.deliverMessage, no_reply, of_service, named, Deliveries.announce, sane.counted]
  exact List.mem_append_right _ (List.mem_map_of_mem meant)

theorem UsbBridge.reaches {s : UsbBridge} (sane : UsbBridge.Sane s) {message : DictValue}
    (no_response : UsbBridge.responseId message = none) {number : Nat}
    (target : s.hidTarget = some number \/
      UsbBridge.hidOnly message = false /\ (s.usbTarget = some number \/ s.serialTarget = some number)) :
    (s.events.length, number) ∈ (s.next (.dispatchMessage (some (.dict message)))).deliveries.tasks := by
  have meant : number ∈ s.targetsOf (UsbBridge.hidOnly message) := by
    unfold UsbBridge.targetsOf
    rcases target with hid | ⟨every, usb | serial⟩
    · split <;> simp [hid]
    · simp [every, usb]
    · simp [every, serial]
  simp only [UsbBridge.next, UsbBridge.dispatchMessage, no_response, Deliveries.announce, sane.counted]
  exact List.mem_append_right _ (List.mem_map_of_mem meant)

structure SystemServices.Ended (steps : List SystemServices.Step) (s : SystemServices) : Prop where
  once : AnsweredOnce SystemServices.Failed s.requests
  replied : forall message id, SystemServices.replyId message = some id ->
    (s.next (.deliverMessage (some (.dict message)))).requests.pending.lookup id = none
  cancelled : forall id, 0 < id -> (s.next (.cancel id)).requests.pending.lookup id = none
  removed : (s.next (.setDispatcher false)).requests.pending = []
  delivered : (s.deliveries.tasks ++ s.deliveries.ran.map Prod.fst).Perm s.deliveries.targets
  distinct : s.deliveries.targets.Nodup
  meant : forall target, target ∈ s.deliveries.targets ->
    exists event, s.events[target.1]? = some event ∧ (target.2, event.service) ∈ s.subscriptions
  reached : forall message service event, SystemServices.replyId message = none ->
    message.findString "service" = some service -> message.findString "event" = some event ->
      forall subscriber, subscriber ∈ s.subscribers -> subscriber.service = service ->
        (s.events.length, subscriber.id) ∈ (s.next (.deliverMessage (some (.dict message)))).deliveries.tasks
  carried : Follows SystemServices.Careful SystemServices.next {} steps ->
    forall entry, entry ∈ s.requests.pending -> s.dispatcher = some entry.2.carrier

structure UsbBridge.Ended (steps : List UsbBridge.Step) (s : UsbBridge) : Prop where
  once : AnsweredOnce UsbBridge.Failed s.requests
  replied : forall message id, UsbBridge.responseId message = some id ->
    (s.next (.dispatchMessage (some (.dict message)))).requests.pending.lookup id = none
  delivered : (s.deliveries.tasks ++ s.deliveries.ran.map Prod.fst).Perm s.deliveries.targets
  distinct : s.deliveries.targets.Nodup
  meant : forall target, target ∈ s.deliveries.targets ->
    exists event kind, s.events[target.1]? = some event ∧ (target.2, kind) ∈ s.subscriptions ∧
      (event.1 = true -> kind = .hid)
  reached : forall message, UsbBridge.responseId message = none ->
    forall number, s.hidTarget = some number ∨
      UsbBridge.hidOnly message = false ∧ (s.usbTarget = some number ∨ s.serialTarget = some number) ->
      (s.events.length, number) ∈ (s.next (.dispatchMessage (some (.dict message)))).deliveries.tasks
  carried : Follows UsbBridge.Careful UsbBridge.next {} steps ->
    forall entry, entry ∈ s.requests.pending ->
      (exists carrier, entry.2.carrier = some carrier ∧ s.commandCallback = some carrier) ∨
        entry.2.carrier = none ∧
          exists sending, sending ∈ s.sending ∧ sending.id = entry.1 ∧ sending.dispatcher = none

namespace UsbBridge

/-- A command is sent, and the app's side goes without an answer. -/
def abandonedCommand : List Step :=
  [.setCommandCallback true, .sendCommand 0 [("method", .string "enumerate")], .send 0 true, .setCommandCallback false]

end UsbBridge

end ChromiumHmos.Services
