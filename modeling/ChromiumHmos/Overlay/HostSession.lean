import ChromiumHmos.Overlay.SessionSubmit
import ChromiumHmos.Overlay.WireHost

set_option autoImplicit false

namespace ChromiumHmos.Overlay

open Std Transition OrderedMap

theorem holdPlane_destroys (s : Session) (p : Plane) (sequence plane : Nat)
    (room : ∀ lease ∈ p.lease, p.reuse = false -> s.leases[lease.allocationId]? = none) :
    destroyedObjects (s.holdPlane p sequence plane).2 = [] := by
  unfold Session.holdPlane
  cases taken : p.lease with
  | none => rfl
  | some lease =>
    unfold Session.hold
    dsimp only
    split
    · rfl
    next fresh =>
      rw [room lease taken (by simpa using fresh)]
      rfl

theorem holdVideo_destroys (s : Session) (video : Option Plane) (sequence : Nat)
    (room : ∀ plane ∈ video, ∀ lease ∈ plane.lease, plane.reuse = false ->
      s.leases[lease.allocationId]? = none) :
    destroyedObjects (s.holdVideo video sequence).2 = [] := by
  cases video with
  | none => rfl
  | some plane => exact holdPlane_destroys s plane sequence 1 (room plane rfl)

theorem holdVideo_accepts (s : Session) (video : Option Plane) (sequence : Nat) :
    Host.acceptedObjects (s.holdVideo video sequence).2 =
      (video.bind Plane.lease).toList.map ReadLease.object := by
  cases video with
  | none => rfl
  | some plane => exact (holdPlane_else s plane sequence 1).2

theorem holdPlane_redundant (s : Session) (p : Plane) (sequence plane : Nat) :
    (s.holdPlane p sequence plane).1.redundant.length <= s.redundant.length + 1 := by
  unfold Session.holdPlane
  cases p.lease with
  | none => exact Nat.le_succ _
  | some lease =>
    unfold Session.hold
    dsimp only
    split
    · simp
    · exact Nat.le_succ _

theorem holdVideo_redundant (s : Session) (video : Option Plane) (sequence : Nat) :
    (s.holdVideo video sequence).1.redundant.length <= s.redundant.length + 1 := by
  cases video with
  | none => exact Nat.le_succ _
  | some plane => exact holdPlane_redundant s plane sequence 1

section

variable {W P : Type} (backend : Backend W P)

theorem poll_redundant (s : Session) (w : W) : (s.poll backend w).session.redundant = [] := by
  by_cases closed : s.state = .closed
  · rw [poll_closed backend s w closed]
  · rw [poll_open backend s w closed]
    dsimp only
    rw [(finishDrain_quiet backend _ _).2.2, (startDrain_quiet backend _ _).2.2]
    rfl

theorem close_redundant (s : Session) (w : W) : (s.close backend w).session.redundant = [] :=
  poll_redundant backend _ w

structure Offered (s : Session) (f : Frame) (polled : List Effect) (out : Session.Submitted W) :
    Prop where
  destroyed : destroyedObjects out.step.effects = [] ∨
    destroyedObjects out.step.effects = destroyedObjects polled
  taken : out.result = .accepted →
    Host.acceptedObjects out.step.effects = (Host.frameLeases f).map ReadLease.object
  untaken : out.result ≠ .accepted → Host.acceptedObjects out.step.effects = []
  redundant : out.step.session.redundant.length ≤ max s.redundant.length 2

theorem accept_offered (s t : Session) (w : W) (f : Frame) (batch : P) (sequence : Nat)
    (polled : List Effect) (accepts : Host.acceptedObjects polled = []) (empty : t.redundant = [])
    (valid : f.Valid = true) (primary : t.blocked f.primary 0 = false)
    (video : ∀ video ∈ f.video, t.blocked video 1 = false) :
    Offered s f polled (t.accept backend w f batch sequence polled) := by
  have primaryRoom : ∀ lease ∈ f.primary.lease, f.primary.reuse = false ->
      t.leases[lease.allocationId]? = none := fun lease => blocked_fresh primary lease
  obtain ⟨others, objects⟩ := holdPlane_else t f.primary sequence 0
  have videoRoom : ∀ plane ∈ f.video, ∀ lease ∈ plane.lease, plane.reuse = false ->
      (t.holdPlane f.primary sequence 0).1.leases[lease.allocationId]? = none := by
    intro plane present lease taken renewed
    rw [others]
    · exact blocked_fresh (video plane present) lease taken renewed
    · exact fun other primary => valid_apart valid plane present other lease primary taken
  have first := holdPlane_destroys t f.primary sequence 0 primaryRoom
  have second := holdVideo_destroys (t.holdPlane f.primary sequence 0).1 f.video sequence videoRoom
  have one := holdPlane_redundant t f.primary sequence 0
  have two := holdVideo_redundant (t.holdPlane f.primary sequence 0).1 f.video sequence
  refine ⟨.inr ?_, fun _ => ?_, fun refused => absurd rfl refused, ?_⟩
  · simp only [Session.accept, destroyedObjects_append, first, second, List.append_nil]
  · simp only [Session.accept, acceptedObjects_append, accepts, objects, holdVideo_accepts,
      Host.frameLeases, List.map_append, List.nil_append]
  · rw [empty] at one
    exact two.trans (Nat.le_trans (Nat.succ_le_succ one) (le_max_right _ _))

theorem refusal_refuses {s : Session} {w : W} {f : Frame} {result : SubmitResult}
    (refused : s.refusal backend w f = some result) : result ≠ .accepted := by
  unfold Session.refusal at refused
  split at refused
  · exact Option.some.inj refused ▸ by decide
  split at refused
  · exact Option.some.inj refused ▸ by decide
  split at refused
  · exact Option.some.inj refused ▸ by decide
  split at refused
  · exact Option.some.inj refused ▸ by decide
  · cases refused

theorem submit_offered (s : Session) (w : W) (f : Frame) :
    Offered s f (s.poll backend w).effects (s.submit backend w f) := by
  have accepts := poll_accepts backend s w
  have redundant := poll_redundant backend s w
  have polled : (s.poll backend w).session.redundant.length <= max s.redundant.length 2 := by
    simp [redundant]
  unfold Session.submit
  split
  · exact ⟨.inl rfl, by simp, fun _ => rfl, le_max_left _ _⟩
  split
  · exact ⟨.inl rfl, by simp, fun _ => rfl, le_max_left _ _⟩
  next supported =>
    dsimp only
    split
    next result refused =>
      exact ⟨.inr rfl, fun taken => absurd taken (refusal_refuses backend refused),
        fun _ => accepts, polled⟩
    next passed =>
      split
      · exact ⟨.inr rfl, by simp, fun _ => accepts, polled⟩
      next after batch _ =>
        obtain ⟨primary, video, -⟩ := refusal_none backend passed
        have valid : f.Valid = true := not_not.mp fun invalid => supported (.inl invalid)
        exact accept_offered backend s _ after f batch _ _ accepts redundant valid primary video

end

def heldObjects (leases : ExtTreeMap Nat Held) : List Nat :=
  leases.toList.map fun entry => entry.2.lease.object

theorem heldCount_eq (leases : ExtTreeMap Nat Held) (object : Nat) :
    heldCount leases object = (heldObjects leases).count object := by
  unfold heldCount total heldObjects
  induction leases.toList with
  | nil => rfl
  | cons entry rest ih =>
    by_cases same : entry.2.lease.object = object
    · simp only [List.map_cons, List.sum_cons, same, if_true, List.count_cons_self, ih]
      omega
    · simp only [List.map_cons, List.sum_cons, same, if_false, Nat.zero_add,
        List.count_cons_of_ne same, ih]

theorem LeaseInv.perm {s : Session} {log : List Effect} (inv : LeaseInv s [] log) :
    (Host.acceptedObjects log).Perm
      (heldObjects s.leases ++ s.redundant.map ReadLease.object ++ destroyedObjects log) := by
  refine List.perm_iff_count.mpr fun object => ?_
  have ledger := inv.ledger object
  rw [heldCount_eq] at ledger
  simpa only [List.map_nil, List.count_nil, List.count_append, Nat.add_zero] using ledger

namespace WireHost

variable {W P : Type}

def LogGrows (kind : HostEvent → Bool) (s t : WireHost W) : Prop :=
  ∃ more, t.log = s.log ++ more ∧ ∀ event ∈ more, kind event

theorem LogGrows.refl (kind : HostEvent -> Bool) (s : WireHost W) : LogGrows kind s s :=
  ⟨[], (List.append_nil _).symm, by simp⟩

variable {s t : WireHost W}

variable {kind : HostEvent → Bool} {u : WireHost W}

theorem LogGrows.trans (first : LogGrows kind s t)
    (second : LogGrows kind t u) : LogGrows kind s u := by
  obtain ⟨more, log, of⟩ := first
  obtain ⟨rest, log', of'⟩ := second
  refine ⟨more ++ rest, by rw [log', log, List.append_assoc], fun event mem => ?_⟩
  rcases List.mem_append.mp mem with mem | mem
  · exact of event mem
  · exact of' event mem

theorem LogGrows.one (event : HostEvent)
    (log : t.log = s.log ++ [event]) (of : kind event) : LogGrows kind s t := by
  refine ⟨[event], log, fun other mem => ?_⟩
  rw [List.mem_singleton.mp mem]
  exact of

theorem LogGrows.dropped
    (log : t.log = s.dropPending.log) (of : ∀ fds, kind (.dropped fds)) : LogGrows kind s t := by
  refine ⟨_, log, fun event mem => ?_⟩
  obtain ⟨arrival, -, rfl⟩ := List.mem_map.mp mem
  exact of _

def plain : HostEvent → Bool
  | .connected _ | .took _ | .dropped _ | .received _ | .queued _ => true
  | .activated _ | .wrote .. | .destroyed _ | .freed => false

structure Replied (s t : WireHost W) : Prop where
  host : t.host = s.host
  leases : t.leases = s.leases
  registered : t.registered = s.registered
  detached : t.detached = s.detached
  processed : t.processed = s.processed
  sequence : t.sequence = s.sequence
  origin : t.origin = s.origin
  phase : t.phase = s.phase
  waiting : t.channel.pending = s.channel.pending
  log : LogGrows plain s t

theorem Replied.refl (s : WireHost W) : Replied s s :=
  ⟨rfl, rfl, rfl, rfl, rfl, rfl, rfl, rfl, rfl, .refl _ s⟩

theorem Replied.trans (first : Replied s t) (second : Replied t u) :
    Replied s u where
  host := second.host.trans first.host
  leases := second.leases.trans first.leases
  registered := second.registered.trans first.registered
  detached := second.detached.trans first.detached
  processed := second.processed.trans first.processed
  sequence := second.sequence.trans first.sequence
  origin := second.origin.trans first.origin
  phase := second.phase.trans first.phase
  waiting := second.waiting.trans first.waiting
  log := first.log.trans second.log

theorem disconnect_replied (s : WireHost W) : Replied s s.disconnect :=
  ⟨rfl, rfl, rfl, rfl, rfl, rfl, rfl, rfl, rfl, .dropped rfl fun _ => rfl⟩

theorem reply_replied (s : WireHost W) (operation : WireOp) (channel sequence plane result : Nat) :
    Replied s (s.reply operation channel sequence plane result) :=
  reply_keeps (.refl s) operation channel sequence plane result (disconnect_replied s)
    fun _ _ _ => ⟨rfl, rfl, rfl, rfl, rfl, rfl, rfl, rfl, rfl, .one _ rfl rfl⟩

theorem release_replied (s : WireHost W) (object : Nat) : Replied s (s.release object) := by
  unfold release
  split
  · exact .refl s
  · exact reply_replied s _ _ _ _ _

theorem releases_replied (objects : List Nat) (s : WireHost W) :
    Replied s (objects.foldl release s) := by
  induction objects generalizing s with
  | nil => exact .refl s
  | cons object rest ih => exact (release_replied s object).trans (ih _)

theorem runSession_replied (s : WireHost W) (step : Session.Step W) :
    Replied { s with host := s.host.apply step } (s.runSession step) :=
  releases_replied _ _

structure SessionInv (s : WireHost W) : Prop where
  leases : LeaseInv s.host.session [] s.host.log
  budget : SubmitInv 4 s.host.session s.host.log
  redundant : s.host.session.redundant.length ≤ 2
  known : ∀ object ∈ Host.acceptedObjects s.host.log, object < s.leases.length

theorem SessionInv.congr (inv : SessionInv s) (host : t.host = s.host)
    (leases : t.leases = s.leases) : SessionInv t where
  leases := host ▸ inv.leases
  budget := host ▸ inv.budget
  redundant := host ▸ inv.redundant
  known := by
    rw [host, leases]
    exact inv.known

theorem SessionInv.called {step : Session.Step W} (inv : SessionInv s)
    (leases : LeaseInv step.session [] (s.host.log ++ step.effects))
    (shrinks : Shrinks s.host.session step.session)
    (accepts : Host.acceptedObjects step.effects = []) (redundant : step.session.redundant = []) :
    SessionInv (s.runSession step) := by
  refine SessionInv.congr (s := { s with host := s.host.apply step }) ?_
    (runSession_replied s step).host (runSession_replied s step).leases
  refine ⟨leases, inv.budget.shrinks shrinks accepts, ?_, ?_⟩
  · simp [Host.apply, redundant]
  · simp only [Host.apply, acceptedObjects_append, accepts, List.append_nil]
    exact inv.known

variable (backend : Backend W P)

theorem poll_session (inv : SessionInv s) :
    SessionInv (s.runSession (s.host.session.poll backend s.host.world)) :=
  inv.called (poll_inv backend inv.leases _) (poll_shrinks backend _ _) (poll_accepts backend _ _)
    (poll_redundant backend _ _)

theorem close_session (inv : SessionInv s) :
    SessionInv (s.runSession (s.host.session.close backend s.host.world)) :=
  inv.called (close_inv backend inv.leases _) (close_shrinks backend _ _) (close_accepts backend _ _)
    (close_redundant backend _ _)

theorem bridgeFrame_objects {a : SubmitAnswers} {m : WireMessage} {primary : HostBuffer}
    {video : Option HostBuffer} {object : Nat} {frame : Frame}
    (bridged : bridgeFrame a m primary video object = some frame) :
    (Host.frameLeases frame).map ReadLease.object =
      object :: (video.map fun _ => object + 1).toList := by
  unfold bridgeFrame at bridged
  split at bridged
  · cases bridged
  next plane converted =>
    have first : plane.lease.toList.map ReadLease.object = [object] := by
      obtain ⟨c, -, rfl⟩ := Option.map_eq_some_iff.mp converted
      rfl
    cases video with
    | none =>
      obtain rfl := Option.some.inj bridged
      rw [Host.frameLeases, List.map_append, first]
      rfl
    | some buffer =>
      obtain ⟨second, converted, rfl⟩ := Option.map_eq_some_iff.mp bridged
      obtain ⟨c, -, rfl⟩ := Option.map_eq_some_iff.mp converted
      rw [Host.frameLeases, List.map_append, first]
      rfl

theorem offer_session (inv : SessionInv s) (a : SubmitAnswers) (arrival : Arrival)
    (primary : HostBuffer) (video : Option HostBuffer) :
    SessionInv (s.offer backend a arrival primary video).1 := by
  have grown : ∀ object < s.leases.length, object < (s.newLeases arrival video).leases.length := by
    intro object old
    simp only [newLeases, List.length_append, List.length_cons]
    omega
  have made : SessionInv (s.newLeases arrival video) :=
    ⟨inv.leases, inv.budget, inv.redundant, fun object mem => grown object (inv.known object mem)⟩
  unfold offer
  split
  · exact made
  next frame bridged =>
    have objects := bridgeFrame_objects bridged
    obtain ⟨-, taken, untaken, redundant⟩ :=
      submit_offered backend s.host.session s.host.world frame
    have distinct : ((Host.frameLeases frame).map ReadLease.object).Nodup := by
      rw [objects]
      cases video <;> simp
    have new : ∀ lease ∈ Host.frameLeases frame,
        lease.object ∉ Host.acceptedObjects s.host.log := by
      intro lease mem old
      have present := List.mem_map_of_mem (f := ReadLease.object) mem
      have bound := inv.known _ old
      rw [objects] at present
      cases video <;> simp at present <;> omega
    have leases := submit_inv backend inv.leases s.host.world frame distinct new
    have budget := submit_submitInv backend inv.budget s.host.world frame
    refine SessionInv.congr (s := { s.newLeases arrival video with
      host := s.host.apply (s.host.session.submit backend s.host.world frame).step }) ?_
      (runSession_replied _ _).host (runSession_replied _ _).leases
    refine ⟨leases, budget, redundant.trans (max_le inv.redundant le_rfl), ?_⟩
    intro object mem
    simp only [Host.apply, acceptedObjects_append, List.mem_append] at mem
    rcases mem with old | fresh
    · exact grown object (inv.known object old)
    · by_cases accepted :
          (s.host.session.submit backend s.host.world frame).result = .accepted
      · rw [taken accepted, objects] at fresh
        simp only [newLeases, List.length_append, List.length_cons]
        cases video <;> simp at fresh ⊢ <;> omega
      · rw [untaken accepted] at fresh
        cases fresh

theorem takeFrame_replied (s : WireHost W) (arrival : Arrival) (primary : HostBuffer)
    (video : Option HostBuffer) : (s.takeFrame arrival primary video).host = s.host /\
      (s.takeFrame arrival primary video).leases = s.leases := by
  unfold takeFrame
  exact ⟨(reply_replied _ _ _ _ _ _).host, (reply_replied _ _ _ _ _ _).leases⟩

theorem submit_session (inv : SessionInv s) (a : SubmitAnswers) :
    SessionInv (s.submit backend a) := by
  have refused : ∀ (t : WireHost W) (arrival : Arrival) (result : SubmitResult), SessionInv t ->
      SessionInv (t.refuseFrame arrival result).dropPending := fun t arrival result inv =>
    inv.congr (reply_replied t _ _ _ _ _).host (reply_replied t _ _ _ _ _).leases
  have submitted : ∀ arrival, SessionInv (s.submitArrival backend a arrival) := by
    intro arrival
    unfold submitArrival
    dsimp only
    split
    · exact refused s arrival _ inv
    next primary _ =>
      split
      · exact refused s arrival _ inv
      · have next := offer_session backend inv a arrival primary (s.videoBuffer a arrival.message)
        split
        · obtain ⟨host, leases⟩ := takeFrame_replied
            (s.offer backend a arrival primary (s.videoBuffer a arrival.message)).1 arrival primary
            (s.videoBuffer a arrival.message)
          exact next.congr host leases
        · exact next
        · exact refused _ arrival _ next
  unfold submit
  split
  · exact inv.congr rfl rfl
  · exact (submitted _).congr rfl rfl

theorem pollSession_session (inv : SessionInv s) : SessionInv (s.pollSession backend) := by
  have closed : SessionInv (s.closeSession backend) := by
    unfold closeSession
    split
    · exact close_session backend (inv.congr rfl rfl)
    · exact inv
  have polled := poll_session backend closed
  have noted : ∀ t : WireHost W, SessionInv t -> SessionInv (t.noteProcessed backend) := by
    intro t inv
    unfold noteProcessed
    split
    · exact inv.congr (reply_replied t _ _ _ _ _).host (reply_replied t _ _ _ _ _).leases
    · exact inv
  unfold pollSession
  dsimp only
  split <;> exact (noted _ polled).congr rfl rfl

theorem start_session (world : W) (s : WireHost W) (fresh : s.host = .start 4 world) :
    SessionInv s := by
  refine ⟨fresh ▸ start_inv 4 world, fresh ▸ ?_, by simp [fresh, Host.start], ?_⟩
  · exact ⟨rfl, by simp [Host.start], by simp [Host.start, Session.allocations], .nil,
      by simp [Host.start, acceptances], by simp [Host.start]⟩
  · simp [fresh, Host.start, Host.acceptedObjects]

theorem takeMessage_host (s : WireHost W) (socket : Nat) (m : WireMessage) :
    (s.takeMessage socket m).host = s.host /\ (s.takeMessage socket m).leases = s.leases := by
  unfold takeMessage
  split
  · exact ⟨rfl, rfl⟩
  · dsimp only
    split <;> exact ⟨rfl, rfl⟩

theorem receive_host (s : WireHost W) (answer : ReceiveAnswer) :
    (s.receive answer).host = s.host /\ (s.receive answer).leases = s.leases := by
  unfold receive
  cases s.channel.active with
  | none => exact ⟨rfl, rfl⟩
  | some socket =>
    dsimp only
    cases (ReceiveWireMessage {} answer).error with
    | none => exact takeMessage_host _ socket _
    | some code =>
      cases code with
      | again | invalid | connectionReset | protocol | io => exact ⟨rfl, rfl⟩

theorem next_session (inv : SessionInv s) (op : WireHostOp W) : SessionInv (s.next backend op) := by
  cases op with
  | connect lost made =>
    simp only [next, connect]
    split
    · exact inv
    · exact inv.congr rfl rfl
  | detach =>
    simp only [next, detach]
    split
    · exact inv.congr rfl rfl
    · exact inv
  | world after => exact ⟨inv.leases, inv.budget, inv.redundant, inv.known⟩
  | enter =>
    simp only [next, enter]
    split <;> exact inv.congr rfl rfl
  | losePeer lost =>
    simp only [next, losePeer]
    split <;> exact inv.congr rfl rfl
  | pollSession => exact pollSession_session backend inv
  | retire => exact inv.congr rfl rfl
  | recreate created =>
    simp only [next, recreate]
    split
    · exact inv.congr rfl rfl
    · split
      · exact inv.congr rfl rfl
      next world => exact start_session world _ rfl
  | activate =>
    simp only [next, activate]
    split <;> exact inv.congr rfl rfl
  | send answer =>
    simp only [next, send]
    split
    · exact inv.congr rfl rfl
    · exact inv.congr rfl rfl
    · split <;> exact inv.congr rfl rfl
  | receive answer => exact inv.congr (receive_host s answer).1 (receive_host s answer).2
  | submit answers => exact submit_session backend inv answers
  | free => exact inv.congr rfl rfl

end WireHost

end ChromiumHmos.Overlay
