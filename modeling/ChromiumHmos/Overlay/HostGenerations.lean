import ChromiumHmos.Overlay.HostSession

set_option autoImplicit false

namespace ChromiumHmos.Overlay

open Transition

def owner (log : List HostEvent) : Option Nat :=
  log.foldl (fun owner event => match event with
    | .activated channel => some channel
    | .destroyed _ => none
    | _ => owner) none

@[simp] theorem owner_append_activated (log : List HostEvent) (channel : Nat) :
    owner (log ++ [.activated channel]) = some channel := by
  simp [owner]

@[simp] theorem owner_append_destroyed (log : List HostEvent) (state : State) :
    owner (log ++ [.destroyed state]) = none := by
  simp [owner]

theorem owner_append_other (log : List HostEvent) (event : HostEvent)
    (activated : ∀ channel, event ≠ .activated channel) (destroyed : ∀ state, event ≠ .destroyed state) :
    owner (log ++ [event]) = owner log := by
  cases event with
  | activated channel => exact absurd rfl (activated channel)
  | destroyed state => exact absurd rfl (destroyed state)
  | _ => simp [owner]

theorem owner_append_plain (log more : List HostEvent)
    (plain : ∀ event ∈ more, WireHost.plain event) : owner (log ++ more) = owner log := by
  induction more generalizing log with
  | nil => rw [List.append_nil]
  | cons event rest ih =>
    have first : owner (log ++ [event]) = owner log :=
      owner_append_other log event (fun _ same => by simp [same, WireHost.plain] at plain)
        (fun _ same => by simp [same, WireHost.plain] at plain)
    have later := ih (log ++ [event]) fun other mem => plain other (List.mem_cons_of_mem _ mem)
    rw [List.append_assoc, List.singleton_append] at later
    rw [later, first]

variable {log : List HostEvent}

theorem owner_none (none : owner log = none) (before after : List HostEvent)
    (channel : Nat) (split : log = before ++ .activated channel :: after) :
    ∃ state, .destroyed state ∈ after := by
  induction after using List.reverseRecOn generalizing log with
  | nil =>
    rw [split, owner_append_activated] at none
    cases none
  | append_singleton after event ih =>
    by_cases destroyed : ∃ state, event = .destroyed state
    · obtain ⟨state, rfl⟩ := destroyed
      exact ⟨state, by simp⟩
    · by_cases activated : ∃ other, event = .activated other
      · obtain ⟨other, rfl⟩ := activated
        rw [split, <- List.cons_append, <- List.append_assoc, owner_append_activated] at none
        cases none
      · push Not at destroyed activated
        have earlier : owner (before ++ .activated channel :: after) = .none := by
          rw [split, <- List.cons_append, <- List.append_assoc,
            owner_append_other _ event activated destroyed] at none
          exact none
        obtain ⟨state, mem⟩ := ih earlier rfl
        exact ⟨state, List.mem_append_left _ mem⟩

/-- A frame of this number came on this channel. -/
def About (log : List HostEvent) (channel sequence : Nat) : Prop :=
  ∃ arrival : Arrival, .received arrival ∈ log ∧ arrival.channel = channel ∧
    arrival.message.packet.sequence = sequence

theorem About.append {channel sequence : Nat}
    (about : About log channel sequence) (more : List HostEvent) :
    About (log ++ more) channel sequence := by
  obtain ⟨arrival, mem, facts⟩ := about
  exact ⟨arrival, List.mem_append_left _ mem, facts⟩

/-- Every reply is written on the channel of its frame. -/
def RepliesOwn (log : List HostEvent) : Prop :=
  ∀ before channel reply after, log = before ++ .wrote channel reply :: after →
    reply.channel = channel ∧ About before channel reply.packet.sequence

/-- Between two activations the session of the first is destroyed, closed. -/
def Separated (log : List HostEvent) : Prop :=
  ∀ before first between second after,
    log = before ++ .activated first :: (between ++ .activated second :: after) →
    .destroyed .closed ∈ between

theorem RepliesOwn.snoc (own : RepliesOwn log) (event : HostEvent)
    (new : ∀ channel reply, event = .wrote channel reply ->
      reply.channel = channel /\ About log channel reply.packet.sequence) :
    RepliesOwn (log ++ [event]) := by
  intro before channel reply after split
  rcases List.append_eq_append_iff.mp split with ⟨extra, rfl, rest⟩ | ⟨extra, rfl, rest⟩
  · cases extra with
    | nil =>
      obtain ⟨rfl, -⟩ := List.cons.inj rest
      simpa using new channel reply rfl
    | cons head tail => simp at rest
  · cases extra with
    | nil =>
      obtain ⟨rfl, -⟩ := List.cons.inj rest
      simpa using new channel reply rfl
    | cons head tail =>
      obtain ⟨rfl, rfl⟩ := List.cons.inj rest
      exact own before channel reply tail rfl

theorem Separated.snoc (separated : Separated log) (event : HostEvent)
    (new : ∀ channel, event = .activated channel ->
      ∀ before first between, log = before ++ .activated first :: between ->
        .destroyed .closed ∈ between) : Separated (log ++ [event]) := by
  intro before first between second after split
  rcases List.eq_nil_or_concat after with rfl | ⟨rest, last, rfl⟩
  · have parts : log ++ [event] = (before ++ .activated first :: between) ++ [.activated second] := by
      rw [split]
      simp
    obtain ⟨whole, same⟩ := List.append_inj' parts rfl
    exact new second (List.singleton_inj.mp same) before first between whole
  · have parts : log ++ [event] =
        (before ++ .activated first :: (between ++ .activated second :: rest)) ++ [last] := by
      rw [split]
      simp
    obtain ⟨whole, -⟩ := List.append_inj' parts rfl
    exact separated before first between second rest whole

theorem safe_append_plain {more : List HostEvent} (own : RepliesOwn log)
    (separated : Separated log) (plain : ∀ event ∈ more, WireHost.plain event) :
    RepliesOwn (log ++ more) /\ Separated (log ++ more) := by
  induction more generalizing log with
  | nil => exact ⟨by rwa [List.append_nil], by rwa [List.append_nil]⟩
  | cons event rest ih =>
    have of := plain event List.mem_cons_self
    have next := ih (own.snoc event fun _ _ same => by simp [same, WireHost.plain] at of)
      (separated.snoc event fun _ same => by simp [same, WireHost.plain] at of)
      fun other mem => plain other (List.mem_cons_of_mem _ mem)
    rwa [List.append_assoc, List.singleton_append] at next

namespace WireHost

variable {W P : Type}

structure GenInv (s : WireHost W) : Prop where
  closing : s.closing = true → s.channel.active = none ∧ s.pending = none
  active : s.closing = false → s.channel.active = owner s.log
  leases : ∀ channel, owner s.log = some channel →
    ∀ object ∈ Host.acceptedObjects s.host.log, ∃ lease, s.leases[object]? = some lease ∧
      lease.channel = channel ∧ About s.log channel lease.sequence
  fresh : s.closing = false → owner s.log = none →
    Host.acceptedObjects s.host.log = [] ∧ s.processed = true
  unprocessed : ∀ channel, owner s.log = some channel → s.processed = false →
    s.origin = channel ∧ About s.log channel s.sequence
  pending : ∀ arrival ∈ s.pending, .received arrival ∈ s.log ∧ owner s.log = some arrival.channel ∧
    arrival.channel = s.origin ∧ arrival.message.packet.sequence = s.sequence
  outgoing : ∀ reply ∈ s.outgoing, s.channel.active = some reply.channel ∧
    About s.log reply.channel reply.packet.sequence
  own : RepliesOwn s.log
  separated : Separated s.log
  destroyed : ∀ state, .destroyed state ∈ s.log → state = .closed

variable {s t : WireHost W}

theorem GenInv.open (inv : GenInv s) {socket : Nat}
    (active : s.channel.active = some socket) : s.closing = false /\ owner s.log = some socket := by
  have running : s.closing = false := by
    by_contra closing
    have gone := (inv.closing (by simpa using closing)).1
    rw [active] at gone
    cases gone
  exact ⟨running, (inv.active running).symm.trans active⟩

theorem GenInv.grown (inv : GenInv s) (log : LogGrows plain s t)
    (channel : t.channel.active = s.channel.active) (closing : t.closing = s.closing)
    (accepted : Host.acceptedObjects t.host.log = Host.acceptedObjects s.host.log)
    (leases : t.leases = s.leases) (processed : t.processed = s.processed)
    (sequence : t.sequence = s.sequence) (origin : t.origin = s.origin)
    (pending : t.pending = s.pending) (outgoing : t.outgoing = s.outgoing) : GenInv t := by
  obtain ⟨more, same, of⟩ := log
  have owned : owner t.log = owner s.log := by rw [same, owner_append_plain _ _ of]
  have safe := safe_append_plain inv.own inv.separated of
  refine ⟨?_, ?_, ?_, ?_, ?_, ?_, ?_, ?_, ?_, ?_⟩
  · rw [closing, channel, pending]
    exact inv.closing
  · rw [closing, channel, owned]
    exact inv.active
  · rw [owned, accepted, leases, same]
    intro channel of object mem
    obtain ⟨lease, found, own, about⟩ := inv.leases channel of object mem
    exact ⟨lease, found, own, about.append _⟩
  · rw [closing, owned, accepted, processed]
    exact inv.fresh
  · rw [owned, processed, origin, sequence, same]
    intro channel of waiting
    exact ⟨(inv.unprocessed channel of waiting).1, (inv.unprocessed channel of waiting).2.append _⟩
  · rw [pending, owned, origin, sequence, same]
    intro arrival held
    obtain ⟨mem, rest⟩ := inv.pending arrival held
    exact ⟨List.mem_append_left _ mem, rest⟩
  · rw [outgoing, channel, same]
    intro reply mem
    exact ⟨(inv.outgoing reply mem).1, (inv.outgoing reply mem).2.append _⟩
  · rw [same]
    exact safe.1
  · rw [same]
    exact safe.2
  · rw [same]
    intro state mem
    rcases List.mem_append.mp mem with mem | mem
    · exact inv.destroyed state mem
    · have := of _ mem
      simp [plain] at this

theorem GenInv.dropPending (inv : GenInv s) : GenInv s.dropPending := by
  have grown : GenInv { s with log := s.dropPending.log } :=
    inv.grown (.dropped rfl fun _ => rfl) rfl rfl rfl rfl rfl rfl rfl rfl rfl
  exact
    { grown with
      closing := fun closing => ⟨(inv.closing closing).1, rfl⟩
      pending := fun arrival held => by cases held }

theorem GenInv.disconnect (inv : GenInv s) : GenInv s.disconnect := by
  exact
    { inv.dropPending with
      closing := fun _ => ⟨rfl, rfl⟩
      active := fun running => absurd running (by simp [WireHost.disconnect])
      fresh := fun running => absurd running (by simp [WireHost.disconnect])
      outgoing := fun reply mem => by cases mem }

theorem GenInv.reply (inv : GenInv s) (operation : WireOp)
    {channel sequence : Nat} (plane result : Nat) (owned : owner s.log = some channel)
    (about : About s.log channel sequence) :
    GenInv (s.reply operation channel sequence plane result) := by
  refine reply_keeps inv operation channel sequence plane result inv.disconnect
    fun socket active room => ?_
  let queued : Reply := ⟨{ operation, sequence, plane, result }, channel⟩
  have same : s.channel.active = some channel := by
    rw [active, <- (inv.open active).2, owned]
  have grown : GenInv { s with log := s.log ++ [.queued queued] } :=
    inv.grown (.one _ rfl rfl) rfl rfl rfl rfl rfl rfl rfl rfl rfl
  exact
    { grown with
      outgoing := fun reply mem => by
        rcases List.mem_append.mp mem with mem | mem
        · exact grown.outgoing reply mem
        · rw [List.mem_singleton.mp mem]
          exact ⟨same, about.append _⟩ }

theorem GenInv.release (inv : GenInv s) {object : Nat}
    (taken : object ∈ Host.acceptedObjects s.host.log) : GenInv (s.release object) := by
  cases owned : owner s.log with
  | none =>
    have silent : s.channel.active = none := by
      cases closing : s.closing with
      | true => exact (inv.closing closing).1
      | false => rw [inv.active closing, owned]
    have same : s.release object = s := by
      unfold WireHost.release
      split
      · rfl
      · exact if_pos silent
    rw [same]
    exact inv
  | some channel =>
    obtain ⟨lease, found, rfl, about⟩ := inv.leases channel owned object taken
    simp only [WireHost.release, found]
    exact inv.reply .released lease.plane 0 owned about

theorem GenInv.releases (inv : GenInv s) (objects : List Nat)
    (taken : ∀ object ∈ objects, object ∈ Host.acceptedObjects s.host.log) :
    GenInv (objects.foldl WireHost.release s) := by
  induction objects generalizing s with
  | nil => exact inv
  | cons object rest ih =>
    refine ih (inv.release (taken object List.mem_cons_self)) fun other mem => ?_
    rw [(release_replied s object).host]
    exact taken other (List.mem_cons_of_mem _ mem)

theorem GenInv.runSession {step : Session.Step W}
    (inv : GenInv { s with host := s.host.apply step }) (session : SessionInv (s.runSession step)) :
    GenInv (s.runSession step) := by
  refine inv.releases _ fun object mem => ?_
  have leases := session.leases
  rw [(runSession_replied s step).host] at leases
  refine leases.perm.mem_iff.mpr (List.mem_append_right _ ?_)
  simp only [Host.apply, destroyedObjects_append]
  exact List.mem_append_right _ mem

theorem GenInv.called {step : Session.Step W} (inv : GenInv s)
    (accepts : Host.acceptedObjects step.effects = []) (session : SessionInv (s.runSession step)) :
    GenInv (s.runSession step) := by
  have accepted : Host.acceptedObjects (s.host.apply step).log =
      Host.acceptedObjects s.host.log := by
    simp only [Host.apply, acceptedObjects_append, accepts, List.append_nil]
  have same : GenInv { s with host := s.host.apply step } :=
    inv.grown (.refl _ _) rfl rfl accepted rfl rfl rfl rfl rfl rfl
  exact same.runSession session

variable (backend : Backend W P)

theorem closeSession_gen (inv : GenInv s) (session : SessionInv s) :
    GenInv (s.closeSession backend) /\ SessionInv (s.closeSession backend) /\
      Replied { s with host := (s.closeSession backend).host } (s.closeSession backend) := by
  unfold closeSession
  split
  next closing =>
    let dropped : WireHost W := { s.dropPending with current := fun _ => none }
    have empty : GenInv dropped := { inv.dropPending with }
    have closed := close_session backend (session.congr rfl rfl : SessionInv dropped)
    refine ⟨empty.called (close_accepts backend _ _) closed, closed, ?_⟩
    have replied := runSession_replied dropped (dropped.host.session.close backend dropped.host.world)
    have first : LogGrows plain s dropped := .dropped rfl fun _ => rfl
    exact { replied with host := rfl, log := first.trans replied.log }
  · exact ⟨inv, session, .refl _⟩

theorem noteProcessed_gen (inv : GenInv s) : GenInv (s.noteProcessed backend) := by
  unfold noteProcessed
  split
  next waiting =>
    have unprocessed : s.processed = false := by simpa using waiting.1
    have replied := reply_replied s .processed s.origin s.sequence 0 0
    have after : GenInv (s.reply .processed s.origin s.sequence 0 0) := by
      cases owned : owner s.log with
      | none =>
        cases closing : s.closing with
        | true =>
          have same : s.reply .processed s.origin s.sequence 0 0 = s :=
            if_pos (inv.closing closing).1
          rw [same]
          exact inv
        | false =>
          have := (inv.fresh closing owned).2
          rw [unprocessed] at this
          cases this
      | some channel =>
        obtain ⟨rfl, about⟩ := inv.unprocessed channel owned unprocessed
        exact inv.reply .processed 0 0 owned about
    exact
      { after with
        fresh := fun running owned => ⟨(after.fresh running owned).1, rfl⟩
        unprocessed := fun _ _ waiting => by simp at waiting }
  · exact inv

theorem noteProcessed_grows (s : WireHost W) : LogGrows plain s (s.noteProcessed backend) := by
  unfold noteProcessed
  split
  · exact (reply_replied s .processed s.origin s.sequence 0 0).log
  · exact .refl _ s

theorem pollSession_gen (inv : GenInv s) (session : SessionInv s) :
    GenInv (s.pollSession backend) /\ LogGrows plain s (s.pollSession backend) := by
  obtain ⟨closed, held, replied⟩ := closeSession_gen backend inv session
  let step := (s.closeSession backend).host.session.poll backend (s.closeSession backend).host.world
  have polled : GenInv ((s.closeSession backend).runSession step) :=
    closed.called (poll_accepts backend _ _) (poll_session backend held)
  have noted := noteProcessed_gen backend polled
  have first : LogGrows plain s (s.closeSession backend) := replied.log
  have second : LogGrows plain (s.closeSession backend) ((s.closeSession backend).runSession step) :=
    (runSession_replied (s.closeSession backend) step).log
  have grows := (first.trans second).trans (noteProcessed_grows backend _)
  unfold pollSession
  dsimp only
  split
  · exact ⟨{ noted with }, grows⟩
  · exact ⟨{ noted with }, grows⟩

theorem retire_gen (inv : GenInv s) (closing : s.closing = true)
    (closed : s.host.session.state = .closed) : GenInv s.retire := by
  obtain ⟨silent, empty⟩ := inv.closing closing
  have owned : owner s.retire.log = none := owner_append_destroyed _ _
  refine ⟨fun _ => ⟨rfl, empty⟩, fun running => ?_, ?_, fun running => ?_, ?_, ?_, ?_, ?_, ?_, ?_⟩
  · exact absurd (running.symm.trans closing) (by decide)
  · intro channel of
    rw [owned] at of
    cases of
  · exact absurd (running.symm.trans closing) (by decide)
  · intro channel of
    rw [owned] at of
    cases of
  · intro arrival held
    have : s.pending = some arrival := held
    rw [empty] at this
    cases this
  · intro reply mem
    have := (inv.outgoing reply mem).1
    rw [silent] at this
    cases this
  · exact inv.own.snoc _ fun _ _ same => by cases same
  · exact inv.separated.snoc _ fun _ same => by cases same
  · intro state mem
    rcases List.mem_append.mp mem with mem | mem
    · exact inv.destroyed state mem
    · obtain rfl := HostEvent.destroyed.inj (List.mem_singleton.mp mem)
      exact closed

theorem recreate_gen (inv : GenInv s) (created : Option W)
    (closing : s.closing = true) (owned : owner s.log = none) : GenInv (s.recreate created) := by
  have left : GenInv s.leave := inv.grown (.refl _ _) rfl rfl rfl rfl rfl rfl rfl rfl rfl
  obtain ⟨silent, empty⟩ := inv.closing closing
  unfold recreate
  split
  · exact left
  · split
    · exact left
    next world =>
      exact
        { inv with
          closing := fun closing => by cases closing
          active := fun _ => silent.trans owned.symm
          leases := fun channel of => by cases owned.symm.trans of
          fresh := fun _ _ => ⟨rfl, rfl⟩
          unprocessed := fun channel of => by cases owned.symm.trans of
          pending := fun arrival held => by cases empty.symm.trans held
          outgoing := fun reply mem => by cases mem }

theorem activate_gen (inv : GenInv s) (running : s.closing = false) : GenInv s.activate := by
  have same : ∀ channel : HostChannel, channel.active = s.channel.active ->
      GenInv { s with channel } := fun channel active =>
    inv.grown (.refl _ _) active rfl rfl rfl rfl rfl rfl rfl rfl
  -- A socket that was not active: the generation is its from here.
  have taken : ∀ socket, s.channel.active = none ->
      GenInv ({ s with channel := { s.channel with active := some socket, pending := none } }.note
        (.activated socket)) := by
    intro socket silent
    have owned : owner s.log = none := by rw [<- inv.active running, silent]
    obtain ⟨accepted, processed⟩ := inv.fresh running owned
    refine ⟨fun closing => ?_, fun _ => (owner_append_activated _ _).symm, ?_, ?_, ?_, ?_, ?_, ?_,
      ?_, ?_⟩
    · exact absurd (closing.symm.trans running) (by decide)
    · intro channel _ object mem
      have : object ∈ Host.acceptedObjects s.host.log := mem
      rw [accepted] at this
      cases this
    · intro _ of
      have := (owner_append_activated s.log socket).symm.trans of
      cases this
    · intro _ _ waiting
      exact absurd (processed.symm.trans waiting) (by decide)
    · intro arrival held
      have := (inv.pending arrival held).2.1
      rw [owned] at this
      cases this
    · intro reply mem
      have := (inv.outgoing reply mem).1
      rw [silent] at this
      cases this
    · exact inv.own.snoc _ fun _ _ same => by cases same
    · refine inv.separated.snoc _ fun _ _ before first between split => ?_
      obtain ⟨state, mem⟩ := owner_none owned before between first split
      obtain rfl := inv.destroyed state (by simp [split, mem])
      exact mem
    · intro state mem
      rcases List.mem_append.mp mem with mem | mem
      · exact inv.destroyed state mem
      · cases List.mem_singleton.mp mem
  have activated : GenInv { s.activate with phase := s.phase } := by
    unfold activate HostChannel.activate
    by_cases stays : s.channel.stopped \/ s.channel.active.isSome
    · simp only [if_pos stays]
      cases active : s.channel.active <;> exact same s.channel rfl
    · simp only [if_neg stays]
      have silent : s.channel.active = none := by
        simpa using (not_or.mp stays).2
      cases waiting : s.channel.pending with
      | none =>
        simp only [silent]
        exact same _ silent.symm
      | some socket =>
        simp only [silent]
        exact { taken socket silent with }
  exact { activated with }

theorem send_gen (inv : GenInv s) (answer : SendAnswer) : GenInv (s.send answer) := by
  unfold send
  split
  · exact { inv with }
  · exact { inv with }
  next reply rest socket outgoing active =>
    split
    · have mem : reply ∈ s.outgoing := by simp [outgoing]
      obtain ⟨own, about⟩ := inv.outgoing reply mem
      have same : reply.channel = socket := Option.some.inj (own.symm.trans active)
      have owned : owner (s.log ++ [.wrote socket reply]) = owner s.log :=
        owner_append_other _ _ (by simp) (by simp)
      refine ⟨inv.closing, fun running => (inv.active running).trans owned.symm, ?_, ?_, ?_, ?_, ?_,
        ?_, ?_, ?_⟩
      · intro channel of object taken
        obtain ⟨lease, found, facts, about⟩ :=
          inv.leases channel (owned.symm.trans of) object taken
        exact ⟨lease, found, facts, about.append _⟩
      · exact fun running of => inv.fresh running (owned.symm.trans of)
      · intro channel of waiting
        obtain ⟨origin, about⟩ := inv.unprocessed channel (owned.symm.trans of) waiting
        exact ⟨origin, about.append _⟩
      · intro arrival held
        obtain ⟨received, of, facts⟩ := inv.pending arrival held
        exact ⟨List.mem_append_left _ received, owned.trans of, facts⟩
      · intro other later
        have before : other ∈ s.outgoing := by
          rw [outgoing]
          exact List.mem_cons_of_mem _ later
        exact ⟨(inv.outgoing other before).1, (inv.outgoing other before).2.append _⟩
      · refine inv.own.snoc _ fun channel written wrote => ?_
        obtain ⟨rfl, rfl⟩ := HostEvent.wrote.inj wrote
        exact ⟨same, same ▸ about⟩
      · exact inv.separated.snoc _ fun _ wrote => by cases wrote
      · intro state mem
        rcases List.mem_append.mp mem with mem | mem
        · exact inv.destroyed state mem
        · cases List.mem_singleton.mp mem
    · exact { inv with }
    · exact { inv.disconnect with }

theorem discard_gen (inv : GenInv s) (m : WireMessage) : GenInv (s.discard m) := by
  have noted : GenInv (s.disconnect.note (.dropped m.fds)) :=
    inv.disconnect.grown (.one _ rfl rfl) rfl rfl rfl rfl rfl rfl rfl rfl rfl
  exact { noted with }

theorem takeMessage_gen (inv : GenInv s) {socket : Nat}
    (active : s.channel.active = some socket) (processed : s.processed = true)
    (empty : s.pending = none) (m : WireMessage) : GenInv (s.takeMessage socket m) := by
  have moved : GenInv { s with sequence := m.packet.sequence, origin := socket } :=
    { inv with
      unprocessed := fun _ _ waiting => absurd (processed.symm.trans waiting) (by decide)
      pending := fun arrival held => by cases empty.symm.trans held }
  obtain ⟨running, owned⟩ := inv.open active
  unfold takeMessage
  split
  · exact discard_gen inv m
  · dsimp only
    split
    · let arrival : Arrival := ⟨m, socket⟩
      let t : WireHost W := { s with sequence := m.packet.sequence, origin := socket }
      have noted : GenInv (t.note (.received arrival)) :=
        moved.grown (.one _ rfl rfl) rfl rfl rfl rfl rfl rfl rfl rfl rfl
      have kept : owner (s.log ++ [.received arrival]) = some socket :=
        (owner_append_other _ _ (by simp) (by simp)).trans owned
      exact
        { noted with
          closing := fun closing => absurd (running.symm.trans closing) (by decide)
          pending := fun other held => by
            obtain rfl := Option.some.inj held
            exact ⟨by simp [note], kept, rfl, rfl⟩ }
    · exact discard_gen moved m

theorem receive_gen (inv : GenInv s) (processed : s.processed = true)
    (empty : s.pending = none) (answer : ReceiveAnswer) : GenInv (s.receive answer) := by
  have noted : ∀ (t : WireHost W) (event : HostEvent), GenInv t -> plain event -> GenInv (t.note event) :=
    fun t event inv of => inv.grown (.one event rfl of) rfl rfl rfl rfl rfl rfl rfl rfl rfl
  unfold receive
  split
  · exact { inv with }
  next socket active =>
    have both := noted _ (.dropped (ReceiveWireMessage {} answer).closed)
      (noted s (.took (brought answer)) inv rfl) rfl
    dsimp only
    cases (ReceiveWireMessage {} answer).error with
    | none => exact takeMessage_gen both active processed empty _
    | some code =>
      cases code with
      | again => exact { both with }
      | invalid | connectionReset | protocol | io => exact { both.disconnect with }

theorem newLeases_gen (inv : GenInv s) (arrival : Arrival)
    (video : Option HostBuffer) : GenInv (s.newLeases arrival video) := by
  exact
    { inv with
      leases := fun channel of object mem => by
        obtain ⟨lease, found, facts⟩ := inv.leases channel of object mem
        have bound : object < s.leases.length := (List.getElem?_eq_some_iff.mp found).1
        refine ⟨lease, ?_, facts⟩
        rw [newLeases, List.getElem?_append_left bound]
        exact found }

variable {arrival : Arrival}

theorem offer_gen (inv : GenInv s) (session : SessionInv s) (a : SubmitAnswers) (held : s.pending = some arrival) (primary : HostBuffer)
    (video : Option HostBuffer) :
    GenInv (s.offer backend a arrival primary video).1 /\
      Replied { s with
        host := (s.offer backend a arrival primary video).1.host
        leases := (s.newLeases arrival video).leases }
        (s.offer backend a arrival primary video).1 := by
  have after := offer_session backend session a arrival primary video
  have made := newLeases_gen inv arrival video
  obtain ⟨received, owned, -, -⟩ := inv.pending arrival held
  unfold offer at after ⊢
  split
  · exact ⟨made, .refl _⟩
  next frame bridged =>
    simp only [bridged] at after
    let step := (s.host.session.submit backend s.host.world frame).step
    obtain ⟨-, taken, untaken, -⟩ := submit_offered backend s.host.session s.host.world frame
    have objects := bridgeFrame_objects bridged
    have new : ∀ object ∈ Host.acceptedObjects step.effects,
        ∃ lease, (s.newLeases arrival video).leases[object]? = some lease /\
          lease.channel = arrival.channel /\ About s.log arrival.channel lease.sequence := by
      intro object mem
      have about : About s.log arrival.channel arrival.message.packet.sequence :=
        ⟨arrival, received, rfl, rfl⟩
      by_cases accepted : (s.host.session.submit backend s.host.world frame).result = .accepted
      · rw [taken accepted, objects] at mem
        cases video with
        | none =>
          obtain rfl : object = s.leases.length := by simpa using mem
          exact ⟨⟨arrival.message.packet.sequence, 0, arrival.channel⟩, by simp [newLeases], rfl,
            about⟩
        | some buffer =>
          rcases List.mem_cons.mp mem with rfl | mem
          · exact ⟨⟨arrival.message.packet.sequence, 0, arrival.channel⟩, by simp [newLeases], rfl,
              about⟩
          · obtain rfl : object = s.leases.length + 1 := by simpa using mem
            exact ⟨⟨arrival.message.packet.sequence, 1, arrival.channel⟩, by simp [newLeases], rfl,
              about⟩
      · rw [untaken accepted] at mem
        cases mem
    have called : GenInv { s.newLeases arrival video with host := s.host.apply step } :=
      { made with
        leases := fun channel of object mem => by
          rcases List.mem_append.mp ((acceptedObjects_append _ _) ▸ mem) with old | fresh
          · exact made.leases channel of object old
          · obtain rfl := Option.some.inj (owned.symm.trans of)
            exact new object fresh
        fresh := fun running of => by cases owned.symm.trans of }
    have replied := runSession_replied (s.newLeases arrival video) step
    exact ⟨called.runSession after, { replied with host := rfl }⟩

theorem refuseFrame_gen (inv : GenInv t)
    (grows : LogGrows plain s t) (owned : owner t.log = some arrival.channel)
    (about : About t.log arrival.channel arrival.message.packet.sequence) (result : SubmitResult) :
    GenInv (t.refuseFrame arrival result).dropPending /\
      LogGrows plain s (t.refuseFrame arrival result).dropPending := by
  have replied : GenInv (t.refuseFrame arrival result) := inv.reply .rejected 0 result.code owned about
  have log : LogGrows plain t (t.refuseFrame arrival result) := (reply_replied t _ _ _ _ _).log
  exact ⟨replied.dropPending, (grows.trans log).trans (.dropped rfl fun _ => rfl)⟩

theorem takeFrame_gen (inv : GenInv t)
    (grows : LogGrows plain s t) (owned : owner t.log = some arrival.channel)
    (about : About t.log arrival.channel arrival.message.packet.sequence)
    (origin : arrival.channel = t.origin) (sequence : arrival.message.packet.sequence = t.sequence)
    (primary : HostBuffer) (video : Option HostBuffer) :
    GenInv (t.takeFrame arrival primary video).dropPending /\
      LogGrows plain s (t.takeFrame arrival primary video).dropPending := by
  let taken : WireHost W :=
    { t with
      current := Function.update (Function.update t.current 0 (some primary)) 1 video
      videoToken := arrival.message.packet.videoToken
      processed := false }
  have holding : GenInv taken :=
    { inv with
      fresh := fun _ of => by cases owned.symm.trans of
      unprocessed := fun channel of _ => by
        obtain rfl := Option.some.inj (owned.symm.trans of)
        exact ⟨origin.symm, sequence ▸ about⟩ }
  have replied : GenInv (t.takeFrame arrival primary video) :=
    holding.reply .accepted 0 0 owned about
  have log : LogGrows plain t (t.takeFrame arrival primary video) :=
    (reply_replied taken _ _ _ _ _).log
  exact ⟨replied.dropPending, (grows.trans log).trans (.dropped rfl fun _ => rfl)⟩

theorem submitArrival_gen (inv : GenInv s) (session : SessionInv s)
    (a : SubmitAnswers) (held : s.pending = some arrival) :
    GenInv (s.submitArrival backend a arrival) /\
      LogGrows plain s (s.submitArrival backend a arrival) := by
  obtain ⟨received, owned, origin, sequence⟩ := inv.pending arrival held
  have about : About s.log arrival.channel arrival.message.packet.sequence :=
    ⟨arrival, received, rfl, rfl⟩
  unfold submitArrival
  dsimp only
  split
  · exact refuseFrame_gen inv (.refl _ s) owned about _
  next primary _ =>
    split
    · exact refuseFrame_gen inv (.refl _ s) owned about _
    · obtain ⟨after, replied⟩ :=
        offer_gen backend inv session a held primary (s.videoBuffer a arrival.message)
      have grows : LogGrows plain s _ := replied.log
      have origin' := origin.trans replied.origin.symm
      have sequence' := sequence.trans replied.sequence.symm
      generalize s.offer backend a arrival primary (s.videoBuffer a arrival.message) = out at *
      obtain ⟨more, log, of⟩ := grows
      have owned' : owner out.1.log = some arrival.channel := by
        rw [log, owner_append_plain _ _ of, owned]
      have about' : About out.1.log arrival.channel arrival.message.packet.sequence := by
        rw [log]
        exact about.append more
      split
      · exact takeFrame_gen after ⟨more, log, of⟩ owned' about' origin' sequence' primary _
      · exact ⟨after, more, log, of⟩
      · exact refuseFrame_gen after ⟨more, log, of⟩ owned' about' _

theorem submit_gen (inv : GenInv s) (session : SessionInv s) (a : SubmitAnswers) :
    GenInv (s.submit backend a) /\ LogGrows plain s (s.submit backend a) := by
  unfold submit
  split
  · exact ⟨{ inv with }, .refl _ s⟩
  next arrival held =>
    obtain ⟨after, grows⟩ := submitArrival_gen backend inv session a held
    exact ⟨{ after with }, grows⟩

theorem free_gen (inv : GenInv s) (closing : s.closing = true)
    (owned : owner s.log = none) : GenInv s.free := by
  obtain ⟨silent, empty⟩ := inv.closing closing
  have dropped := inv.dropPending
  have kept : owner s.free.log = none := by
    have same : s.free.log = s.dropPending.log ++ [.freed] := rfl
    rw [same, owner_append_other _ _ (by simp) (by simp)]
    simpa [dropPending, empty] using owned
  refine ⟨fun _ => ⟨rfl, rfl⟩, fun running => absurd (running.symm.trans closing) (by decide), ?_,
    fun running => absurd (running.symm.trans closing) (by decide), ?_, ?_, ?_, ?_, ?_, ?_⟩
  · intro channel of
    cases kept.symm.trans of
  · intro channel of
    cases kept.symm.trans of
  · intro arrival held
    cases held
  · intro reply mem
    cases mem
  · exact dropped.own.snoc _ fun _ _ same => by cases same
  · exact dropped.separated.snoc _ fun _ same => by cases same
  · intro state mem
    rcases List.mem_append.mp mem with mem | mem
    · exact dropped.destroyed state mem
    · cases List.mem_singleton.mp mem

structure PhaseInv (s : WireHost W) : Prop where
  activating : s.phase = .activate → s.closing = false
  receiving : s.phase = .receiving → s.processed = true ∧ s.pending = none
  retiring : s.phase = .retire → s.closing = true ∧ s.host.session.state = .closed
  torn : s.phase = .recreate ∨ s.phase = .uvClosing ∨ s.phase = .freed →
    s.closing = true ∧ owner s.log = none ∧ ∃ state, .destroyed state ∈ s.log
  left : s.phase = .uvClosing ∨ s.phase = .freed →
    s.registered = false ∧ s.channel.pending = none
  unfreed : s.phase ≠ .freed → .freed ∉ s.log
  freed : s.phase = .freed → ∃ before, s.log = before ++ [.freed] ∧ .freed ∉ before ∧
    owner before = none ∧ ∃ state, .destroyed state ∈ before

theorem LogGrows.unfreed (grows : LogGrows plain s t)
    (unfreed : .freed ∉ s.log) : .freed ∉ t.log := by
  obtain ⟨more, log, of⟩ := grows
  rw [log]
  refine List.not_mem_append unfreed fun mem => ?_
  have := of _ mem
  simp [plain] at this

def freePhase : TickPhase → Bool
  | .idle | .peer | .session | .sending | .submitting => true
  | _ => false

theorem PhaseInv.of_free (free : freePhase s.phase = true)
    (unfreed : .freed ∉ s.log) : PhaseInv s where
  activating := fun at_ => absurd (at_ ▸ free) (by decide)
  receiving := fun at_ => absurd (at_ ▸ free) (by decide)
  retiring := fun at_ => absurd (at_ ▸ free) (by decide)
  torn := fun at_ => by rcases at_ with at_ | at_ | at_ <;> exact absurd (at_ ▸ free) (by decide)
  left := fun at_ => by rcases at_ with at_ | at_ <;> exact absurd (at_ ▸ free) (by decide)
  unfreed := fun _ => unfreed
  freed := fun at_ => absurd (at_ ▸ free) (by decide)

structure HostInv (s : WireHost W) : Prop where
  gen : GenInv s
  session : SessionInv s
  phase : PhaseInv s

theorem receive_grows (s : WireHost W) (answer : ReceiveAnswer) :
    LogGrows plain s (s.receive answer) := by
  have dropped : ∀ t : WireHost W, LogGrows plain t t.disconnect := fun t =>
    .dropped rfl fun _ => rfl
  have noted : ∀ (t : WireHost W) (event : HostEvent), plain event ->
      LogGrows plain t (t.note event) := fun t event of => .one event rfl of
  have discarded : ∀ (t : WireHost W) (m : WireMessage), LogGrows plain t (t.discard m) :=
    fun t m => (dropped t).trans (noted _ (.dropped m.fds) rfl)
  unfold receive
  split
  · exact .refl _ s
  next socket active =>
    have both := (noted s (.took (brought answer)) rfl).trans
      (noted _ (.dropped (ReceiveWireMessage {} answer).closed) rfl)
    dsimp only
    cases (ReceiveWireMessage {} answer).error with
    | none =>
      refine both.trans ?_
      dsimp only
      unfold takeMessage
      split
      · exact discarded _ _
      · dsimp only
        split
        · exact .one _ rfl rfl
        · exact (LogGrows.refl plain _).trans (discarded _ _)
    | some code =>
      cases code with
      | again => exact both
      | invalid | connectionReset | protocol | io => exact both.trans (dropped _)

theorem next_phase {op : WireHostOp W} (inv : HostInv s)
    (moved : WireHost.step backend s op t) : PhaseInv t := by
  obtain ⟨allowed, rfl⟩ := moved
  obtain ⟨gen, session, phase⟩ := inv
  have unfreed : ∀ at_ : TickPhase, s.phase = at_ -> at_ ≠ .freed -> .freed ∉ s.log :=
    fun at_ same other => phase.unfreed (same ▸ other)
  cases op with
  | connect lost made =>
    simp only [next, connect]
    split
    · exact phase
    next open_ =>
      simp only [not_or, not_not] at open_
      have owned : owner (s.log ++ [.connected s.sockets]) = owner s.log :=
        owner_append_other _ _ (by simp) (by simp)
      have stays : ∀ at_ : Prop, (at_ -> s.registered = false) -> ¬ at_ := by
        intro at_ gone now
        have := gone now
        rw [open_.1] at this
        cases this
      refine ⟨phase.activating, phase.receiving, phase.retiring, fun at_ => ?_, fun at_ => ?_,
        fun other mem => ?_, fun at_ => ?_⟩
      · obtain ⟨closing, none, state, mem⟩ := phase.torn at_
        exact ⟨closing, owned.trans none, state, List.mem_append_left _ mem⟩
      · exact absurd at_ (stays _ fun at_ => (phase.left at_).1)
      · rcases List.mem_append.mp mem with mem | mem
        · exact phase.unfreed other mem
        · cases List.mem_singleton.mp mem
      · exact absurd (.inr at_) (stays _ fun at_ => (phase.left at_).1)
  | detach =>
    simp only [next, detach]
    split
    · exact { phase with }
    · exact phase
  | world after => exact { phase with }
  | enter =>
    have idle := unfreed _ allowed (by decide)
    simp only [next, enter]
    split
    · exact .of_free rfl (LogGrows.unfreed (.dropped rfl fun _ => rfl) idle)
    · exact .of_free rfl idle
  | losePeer lost =>
    have idle := unfreed _ allowed (by decide)
    simp only [next, losePeer]
    split
    · exact .of_free rfl (LogGrows.unfreed (.dropped rfl fun _ => rfl) idle)
    · exact .of_free rfl idle
  | pollSession =>
    have after := (pollSession_gen backend gen session).2.unfreed (unfreed _ allowed (by decide))
    simp only [next]
    unfold pollSession at after ⊢
    dsimp only at after ⊢
    split
    next closing =>
      split
      next closed =>
        exact ⟨(by rintro ⟨⟩), (by rintro ⟨⟩), fun _ => ⟨closing, closed⟩,
          (by rintro (at_ | at_ | at_) <;> cases at_),
          (by rintro (at_ | at_) <;> cases at_),
          fun _ => by simpa [closing] using after, (by rintro ⟨⟩)⟩
      · exact .of_free rfl (by simpa [closing] using after)
    next running =>
      exact ⟨fun _ => by simpa using running, (by rintro ⟨⟩), (by rintro ⟨⟩),
        (by rintro (at_ | at_ | at_) <;> cases at_),
        (by rintro (at_ | at_) <;> cases at_),
        fun _ => by simpa [running] using after, (by rintro ⟨⟩)⟩
  | retire =>
    obtain ⟨closing, closed⟩ := phase.retiring allowed
    have old := unfreed _ allowed (by decide)
    refine ⟨(by rintro ⟨⟩), (by rintro ⟨⟩), (by rintro ⟨⟩),
      fun _ => ⟨closing, owner_append_destroyed _ _, s.host.session.state,
        List.mem_append_right _ (List.mem_singleton.mpr rfl)⟩,
      (by rintro (at_ | at_) <;> cases at_), fun _ mem => ?_,
      (by rintro ⟨⟩)⟩
    rcases List.mem_append.mp mem with mem | mem
    · exact old mem
    · cases List.mem_singleton.mp mem
  | recreate created =>
    have torn := phase.torn (.inl allowed)
    have old := unfreed _ allowed (by decide)
    have left : PhaseInv s.leave :=
      ⟨(by rintro ⟨⟩), (by rintro ⟨⟩), (by rintro ⟨⟩), fun _ => torn,
        fun _ => ⟨rfl, rfl⟩, fun _ => old, (by rintro ⟨⟩)⟩
    simp only [next, recreate]
    split
    · exact left
    · split
      · exact left
      · exact .of_free rfl old
  | activate =>
    have old := unfreed _ allowed (by decide)
    have log : .freed ∉ (s.activate).log := by
      unfold activate
      dsimp only
      split
      · exact List.not_mem_append old (by simp)
      · exact old
    refine .of_free ?_ log
    simp only [next, activate]
    split <;> rfl
  | send answer =>
    have old := unfreed _ allowed (by decide)
    simp only [next, send]
    split
    · by_cases processed : s.processed = true
      · cases pending : s.pending with
        | none =>
          refine ⟨?_, fun _ => ⟨processed, rfl⟩, ?_, ?_, ?_, fun _ => old, ?_⟩ <;>
            simp [processed]
        | some arrival => exact .of_free (by simp [processed, freePhase]) old
      · exact .of_free (by simp [processed, freePhase]) old
    · exact .of_free rfl old
    · split
      · refine .of_free (s := note _ _) ?_ (List.not_mem_append old (by simp))
        have sending : s.phase = .sending := allowed
        simp [note, sending, freePhase]
      · exact .of_free rfl old
      · exact .of_free rfl (LogGrows.unfreed (s := s) (.dropped rfl fun _ => rfl) old)
  | receive answer =>
    have old := unfreed _ allowed (by decide)
    have grows := receive_grows s answer
    refine .of_free ?_ (grows.unfreed old)
    rcases receive_phase s answer with idle | submitting
    · simp only [next, idle, freePhase]
    · simp only [next, submitting, freePhase]
  | submit answers =>
    refine .of_free ?_ ((submit_gen backend gen session answers).2.unfreed
      (unfreed _ allowed (by decide)))
    simp only [next, submit_phase, freePhase]
  | free =>
    obtain ⟨closing, owned, state, mem⟩ := phase.torn (.inr (.inl allowed))
    have empty := (gen.closing closing).2
    have old := unfreed _ allowed (by decide)
    have log : s.free.log = s.log ++ [.freed] := by
      simp [free, note, dropPending, empty]
    have kept : owner s.free.log = none := by
      rw [log, owner_append_other _ _ (by simp) (by simp)]
      exact owned
    refine ⟨(by rintro ⟨⟩), (by rintro ⟨⟩), (by rintro ⟨⟩),
      fun _ => ⟨closing, kept, state, ?_⟩, fun _ => ⟨(phase.left (.inl allowed)).1, rfl⟩,
      fun other => absurd rfl other, fun _ => ⟨s.log, log, old, owned, state, mem⟩⟩
    have same : (s.next backend .free).log = s.log ++ [.freed] := log
    rw [same]
    exact List.mem_append_left _ mem

theorem next_gen {op : WireHostOp W} (inv : HostInv s)
    (moved : WireHost.step backend s op t) : GenInv t := by
  obtain ⟨allowed, rfl⟩ := moved
  obtain ⟨gen, session, phase⟩ := inv
  cases op with
  | connect lost made =>
    simp only [next, connect]
    split
    · exact gen
    · exact gen.grown (.one _ rfl rfl) rfl rfl rfl rfl rfl rfl rfl rfl rfl
  | detach =>
    simp only [next, detach]
    split
    · exact { gen with }
    · exact gen
  | world after => exact { gen with }
  | enter =>
    simp only [next, enter]
    split
    · have stopped : GenInv { s with channel := s.channel.stop } := { gen with }
      exact { stopped.disconnect with }
    · exact { gen with }
  | losePeer lost =>
    simp only [next, losePeer]
    split
    · exact { gen.disconnect with }
    · exact { gen with }
  | pollSession => exact (pollSession_gen backend gen session).1
  | retire =>
    obtain ⟨closing, closed⟩ := phase.retiring allowed
    exact retire_gen gen closing closed
  | recreate created =>
    obtain ⟨closing, owned, -⟩ := phase.torn (.inl allowed)
    exact recreate_gen gen created closing owned
  | activate => exact activate_gen gen (phase.activating allowed)
  | send answer => exact send_gen gen answer
  | receive answer =>
    obtain ⟨processed, empty⟩ := phase.receiving allowed
    exact receive_gen gen processed empty answer
  | submit answers => exact (submit_gen backend gen session answers).1
  | free =>
    obtain ⟨closing, owned, -⟩ := phase.torn (.inr (.inl allowed))
    exact free_gen gen closing owned

theorem next_host {op : WireHostOp W} (inv : HostInv s)
    (moved : WireHost.step backend s op t) : HostInv t := by
  refine ⟨next_gen backend inv moved, ?_, next_phase backend inv moved⟩
  obtain ⟨-, rfl⟩ := moved
  exact next_session backend inv.session op

theorem start_host (world : W) : HostInv (start world) where
  gen :=
    { closing := fun closing => by cases closing
      active := fun _ => rfl
      leases := fun _ of => by cases of
      fresh := fun _ _ => ⟨rfl, rfl⟩
      unprocessed := fun _ of => by cases of
      pending := fun _ held => by cases held
      outgoing := fun _ mem => by cases mem
      own := fun before channel reply after split => by simp [start] at split
      separated := fun before first between second after split => by simp [start] at split
      destroyed := fun _ mem => by cases mem }
  session := start_session world _ rfl
  phase := .of_free rfl (by simp [start])

theorem run_host {world : W} {trace : List (WireHost W × WireHostOp W)}
    (run : Trace (WireHost.step backend) (start world) trace s) : HostInv s :=
  run.preserves (fun _ _ _ inv moved => next_host backend inv moved) (start_host world)

structure GenerationsSafe (s : WireHost W) : Prop where
  replies : RepliesOwn s.log
  activations : Separated s.log
  destroyed : ∀ state, .destroyed state ∈ s.log → state = .closed
  /-- Nothing comes after, and no channel was taken up since a session was destroyed, closed. -/
  freed : ∀ before after, s.log = before ++ .freed :: after → after = [] ∧ .freed ∉ before ∧
    ∃ first between, before = first ++ .destroyed .closed :: between ∧
      ∀ channel, .activated channel ∉ between
  detached : s.phase = .uvClosing ∨ s.phase = .freed →
    s.registered = false ∧ s.channel.active = none ∧ s.channel.pending = none ∧ s.pending = none

theorem owner_none_since {log : List HostEvent} (none : owner log = none) {state : State}
    (mem : .destroyed state ∈ log) : ∃ first last between,
      log = first ++ .destroyed last :: between /\ ∀ channel, .activated channel ∉ between := by
  induction log using List.reverseRecOn with
  | nil => cases mem
  | append_singleton log event ih =>
    by_cases destroyed : ∃ last, event = .destroyed last
    · obtain ⟨last, rfl⟩ := destroyed
      exact ⟨log, last, [], rfl, by simp⟩
    · by_cases activated : ∃ channel, event = .activated channel
      · obtain ⟨channel, rfl⟩ := activated
        rw [owner_append_activated] at none
        cases none
      · push Not at destroyed activated
        rw [owner_append_other _ event activated destroyed] at none
        have old : .destroyed state ∈ log := by
          rcases List.mem_append.mp mem with old | new
          · exact old
          · exact absurd (List.mem_singleton.mp new).symm (destroyed state)
        obtain ⟨first, last, between, split, clear⟩ := ih none old
        refine ⟨first, last, between ++ [event], by rw [split]; simp, fun channel mem => ?_⟩
        rcases List.mem_append.mp mem with mem | mem
        · exact clear channel mem
        · exact activated channel (List.mem_singleton.mp mem).symm

theorem HostInv.safe (inv : HostInv s) : GenerationsSafe s where
  replies := inv.gen.own
  activations := inv.gen.separated
  destroyed := inv.gen.destroyed
  freed := by
    intro before after split
    by_cases at_ : s.phase = .freed
    · obtain ⟨whole, log, unfreed, owned, state, mem⟩ := inv.phase.freed at_
      have parts : before ++ .freed :: after = whole ++ [.freed] := split.symm.trans log
      have last : after = [] := by
        rcases List.eq_nil_or_concat after with rfl | ⟨rest, event, rfl⟩
        · rfl
        · rw [List.concat_eq_append, <- List.cons_append, <- List.append_assoc] at parts
          obtain ⟨same, -⟩ := List.append_inj' parts rfl
          exact absurd (same ▸ by simp) unfreed
      subst last
      obtain ⟨rfl, -⟩ := List.append_inj' parts rfl
      obtain ⟨first, last, between, rfl, clear⟩ := owner_none_since owned mem
      obtain rfl := inv.gen.destroyed last (by simp [log])
      exact ⟨rfl, unfreed, first, between, rfl, clear⟩
    · exact absurd (by simp [split]) (inv.phase.unfreed at_)
  detached := by
    intro at_
    obtain ⟨closing, -⟩ := inv.phase.torn (.inr at_)
    obtain ⟨registered, waiting⟩ := inv.phase.left at_
    exact ⟨registered, (inv.gen.closing closing).1, waiting, (inv.gen.closing closing).2⟩

end WireHost

end ChromiumHmos.Overlay
