import ChromiumHmos.Passwords.AuthenticationGate

set_option autoImplicit false

/-!
# Runs of the device authentication

A step touches one authenticator and the call it answers, so a request comes to its end as soon as
its calls are answered.
-/

namespace ChromiumHmos.Passwords

open Base Std Transition History Progress OrderedMap

-- The replies that are still to come.
def ReplyCallback.rest : ReplyCallback → Nat
  | .onAvailability .. => 2
  | _ => 1

namespace DeviceAuth

structure Frame (id : Nat) (s t : DeviceAuth) : Prop where
  others : ∀ other, other ≠ id → t.authenticators[other]? = s.authenticators[other]?
  calls : ∀ call, call < s.nextId → t.calls[call]? = s.calls[call]?
  ids : s.nextId ≤ t.nextId

section Frame

variable {s t u : DeviceAuth} {id : Nat} {a : Authenticator}

theorem Frame.refl (id : Nat) (s : DeviceAuth) : Frame id s s := ⟨fun _ _ => rfl, fun _ _ => rfl, le_rfl⟩

theorem Frame.trans (first : Frame id s t) (second : Frame id t u) : Frame id s u :=
  ⟨fun other apart => (second.others other apart).trans (first.others other apart),
    fun call old => (second.calls call (old.trans_le first.ids)).trans (first.calls call old),
    first.ids.trans second.ids⟩

theorem insert_frame (a : Authenticator) (log : List AuthEvent) (requests : Nat) :
    Frame id s { s with authenticators := s.authenticators.insert id a, log, requests } :=
  ⟨fun _ apart => getElem?_insert_of_ne _ _ _ _ apart, fun _ _ => rfl, le_rfl⟩

theorem call_frame (id : Nat) (s : DeviceAuth) (call : ServiceCall) : Frame id s (s.call call) :=
  ⟨fun _ _ => rfl, fun _ old => getElem?_insert_of_ne _ _ _ _ old.ne, Nat.le_succ _⟩

theorem runPending_frame (s : DeviceAuth) (a : Authenticator) (result : Bool) :
    Frame id s (s.runPending id a result) := by
  unfold runPending
  split
  · exact Frame.refl id s
  · exact insert_frame _ _ _

theorem verifyOrAllow_frame (s : DeviceAuth) (a : Authenticator) (message : String) (request : Nat) :
    Frame id s (s.verifyOrAllow id a message request) := by
  unfold verifyOrAllow
  split
  · exact runPending_frame s a true
  · have called := call_frame id s
      ⟨"verify", [("title", .string message)], .onVerified id a.generation request⟩
    exact ⟨called.others, called.calls, called.ids⟩

theorem authenticate_frame (s : DeviceAuth) (a : Authenticator) (message : String) :
    Frame id s (s.authenticateWithMessage id a message) := by
  unfold authenticateWithMessage
  dsimp only
  split
  · exact ⟨fun _ _ => rfl, fun _ _ => rfl, le_rfl⟩
  · split
    · exact ⟨fun _ _ => rfl, fun _ _ => rfl, le_rfl⟩
    · have asked := @insert_frame s id { a with pending := some s.requests } (s.log ++ [.asked s.requests])
        (s.requests + 1)
      split
      · exact asked.trans (call_frame _ _ _)
      · exact asked.trans (verifyOrAllow_frame _ _ _ _)

theorem cancel_frame (s : DeviceAuth) (a : Authenticator) : Frame id s (s.cancel id a) := by
  unfold cancel
  split
  · exact Frame.refl id s
  · next request _ =>
    dsimp only
    have dropped := @insert_frame s id { a with pending := none, generation := a.generation + 1 }
      (s.log ++ [.cancelled request]) s.requests
    split
    · exact dropped.trans (call_frame _ _ _)
    · exact dropped

theorem onAvailability_frame (s : DeviceAuth) (a : Authenticator) (message : String) (request : Nat)
    (reply : Reply) : Frame id s (s.onAvailability id a message request reply) := by
  have told : Frame id s (s.answerAvailability reply) := ⟨fun _ _ => rfl, fun _ _ => rfl, le_rfl⟩
  unfold onAvailability
  dsimp only
  split
  · exact told.trans (runPending_frame _ _ _)
  · exact told.trans (verifyOrAllow_frame _ _ _ _)

theorem onVerified_frame (s : DeviceAuth) (a : Authenticator) (request : Nat) (reply : Reply) :
    Frame id s (s.onVerified id a request reply) := by
  unfold onVerified
  dsimp only
  split
  · have good : Frame id s (({ s with
        lastGoodAuth := some s.now
        shellGrantValidity := kMaxShellGrant }.rememberAvailability (some true)).note
          (.verified request s.now)) := ⟨fun _ _ => rfl, fun _ _ => rfl, le_rfl⟩
    exact good.trans (runPending_frame _ _ _)
  · exact runPending_frame s a _

end Frame

def Settled (request : Nat) (s : DeviceAuth) : Prop := 0 < s.log.countP (AuthEvent.settles request)

def Waits (request : Nat) (stage : Nat × Nat) (s : DeviceAuth) : Prop :=
  ∃ asked id a, s.calls[stage.2]? = some asked ∧ s.authenticators[id]? = some a ∧
    asked.reply.bound = some (id, a.generation, request) ∧ asked.reply.rest = stage.1

section Step

variable {s : DeviceAuth} {request : Nat}

theorem runPending_settled {id : Nat} {a : Authenticator} (pending : a.pending = some request)
    (result : Bool) : Settled request (s.runPending id a result) := by
  unfold runPending Settled
  rw [pending]
  change 0 < (s.log ++ [_]).countP _
  rw [List.countP_append, List.countP_singleton]
  simp [AuthEvent.settles, AuthEvent.isRan]

theorem reply_progress (inv : GateInv none s) {stage : Nat × Nat} (waits : Waits request stage s)
    (reply : Reply) : Settled request (s.answer stage.2 reply) \/
      ∃ stage', stage'.1 < stage.1 /\ Waits request stage' (s.answer stage.2 reply) := by
  obtain ⟨⟨method, args, callback⟩, id, a, found, there, binds, rest⟩ := waits
  have pending := ((inv.bound _ _ _ _ _ found binds).2 a there).2 rfl |>.2
  unfold answer
  rw [found]
  dsimp only at binds rest ⊢
  have live : lock { s with calls := s.calls.erase stage.2 } id a.generation = some a := by
    simp [lock, there]
  cases callback with
  | onAvailability other generation message r =>
    cases binds
    rw [runReply, live]
    dsimp only [onAvailability]
    split
    · exact .inl (runPending_settled pending false)
    · unfold verifyOrAllow
      split
      · exact .inl (runPending_settled pending true)
      · refine .inr ⟨(1, s.nextId), rest ▸ Nat.lt_succ_self 1, ?_⟩
        refine ⟨⟨"verify", [("title", .string message)], .onVerified id a.generation request⟩, id, a, ?_,
          there, rfl, rfl⟩
        simp [DeviceAuth.call, note, answerAvailability, rememberAvailability]
  | onVerified other generation r =>
    cases binds
    rw [runReply, live]
    exact .inl (runPending_settled pending _)
  | rememberAvailability => cases binds
  | doNothing => cases binds

theorem other_step (inv : GateInv none s) {stage : Nat × Nat} (waits : Waits request stage s)
    {op : AuthOp} (meets : s.Meets op) (other : ∀ reply, op ≠ .answer stage.2 reply) :
    Settled request (s.next op) \/ Waits request stage (s.next op) := by
  obtain ⟨asked, id, a, found, there, binds, rest⟩ := waits
  have pending := ((inv.bound _ _ _ _ _ found binds).2 a there).2 rfl |>.2
  have old := inv.ids _ _ found
  have framed (id' : Nat) (t : DeviceAuth) (apart : id ≠ id') (frame : Frame id' s t) :
      Waits request stage t :=
    ⟨asked, id, a, (frame.calls _ old).trans found, (frame.others id apart).trans there, binds, rest⟩
  have kept (t : DeviceAuth) (calls : t.calls[stage.2]? = s.calls[stage.2]?)
      (same : t.authenticators[id]? = s.authenticators[id]?) : Waits request stage t :=
    ⟨asked, id, a, calls.trans found, same.trans there, binds, rest⟩
  cases op with
  | make validity =>
    right
    dsimp only [next, makeOhosDeviceAuthenticator]
    split
    · exact kept s rfl rfl
    · exact kept _ rfl (getElem?_insert_of_ne _ _ _ _ (inv.made id a there).ne)
  | destroy key =>
    dsimp only [next, onAuthenticator]
    by_cases same : id = key
    · subst same
      rw [there]
      dsimp only [destroy]
      rw [pending]
      left
      change 0 < (s.log ++ [_]).countP _
      rw [List.countP_append, List.countP_singleton]
      simp [AuthEvent.settles, AuthEvent.isDropped]
    · right
      cases at_key : s.authenticators[key]? with
      | none => exact kept s rfl rfl
      | some d =>
        dsimp only [destroy]
        split <;> exact kept _ rfl (getElem?_erase_of_ne _ _ _ same)
  | authenticate key message =>
    right
    dsimp only [next, onAuthenticator]
    by_cases same : id = key
    · subst same
      rw [there]
      -- it runs at once, since the request that waits keeps its place
      rcases (meets a there).2 with idle | within | gone
      · rw [pending] at idle
        cases idle
      · dsimp only [authenticateWithMessage]
        split
        · exact kept _ rfl rfl
        next apart => exact absurd within apart
      · dsimp only [authenticateWithMessage]
        split
        · exact kept _ rfl rfl
        · rw [if_pos (by simpa [note] using gone)]
          exact kept _ rfl rfl
    · cases s.authenticators[key]? with
      | none => exact kept s rfl rfl
      | some d => exact framed key _ same (authenticate_frame s d message)
  | cancel key =>
    dsimp only [next, onAuthenticator]
    by_cases same : id = key
    · subst same
      rw [there]
      left
      dsimp only [cancel]
      rw [pending]
      dsimp only
      split <;>
      · change 0 < (s.log ++ [_]).countP _
        rw [List.countP_append, List.countP_singleton]
        simp [AuthEvent.settles, AuthEvent.isCancelled]
    · right
      cases s.authenticators[key]? with
      | none => exact kept s rfl rfl
      | some d => exact framed key _ same (cancel_frame s d)
  | answer call reply =>
    right
    have apart : stage.2 ≠ call := fun same => other reply (by rw [same])
    dsimp only [next, answer]
    cases at_call : s.calls[call]? with
    | none => exact kept s rfl rfl
    | some replied =>
      obtain ⟨method, args, callback⟩ := replied
      have erased : Waits request stage { s with calls := s.calls.erase call } :=
        kept _ (getElem?_erase_of_ne _ _ _ apart) rfl
      -- a reply for this authenticator would be the one waited for
      have elsewhere (key generation r : Nat) (d : Authenticator)
          (binds' : callback.bound = some (key, generation, r))
          (live : s.lock key generation = some d) : id ≠ key := by
        rintro rfl
        obtain ⟨at_id, rfl⟩ := lock_some live
        obtain rfl := Option.some.inj (there.symm.trans at_id)
        exact apart (inv.one _ _ _ _ _ _ _ _ found at_call binds binds')
      have framed' (key : Nat) (t : DeviceAuth) (away : id ≠ key)
          (frame : Frame key { s with calls := s.calls.erase call } t) : Waits request stage t :=
        ⟨asked, id, a, (frame.calls _ old).trans ((getElem?_erase_of_ne _ _ _ apart).trans found),
          (frame.others id away).trans there, binds, rest⟩
      cases callback with
      | onAvailability key generation message r =>
        dsimp only [runReply]
        split
        · next d live =>
          exact framed' key _ (elsewhere key generation r d rfl live)
            (onAvailability_frame _ d message r reply)
        · exact erased
      | onVerified key generation r =>
        dsimp only [runReply]
        split
        · next d live =>
          exact framed' key _ (elsewhere key generation r d rfl live)
            (onVerified_frame _ d r reply)
        · exact erased
      | rememberAvailability => exact erased
      | doNothing => exact erased
  | refresh =>
    right
    dsimp only [next, refreshAuthenticationAvailability]
    split
    · exact kept _ rfl rfl
    · exact kept _ ((call_frame 0 s _).calls _ old) rfl
  | grant valid => exact .inr (kept _ rfl rfl)
  | forget => exact .inr (kept _ rfl rfl)
  | attach available => exact .inr (kept _ rfl rfl)
  | tick elapsed => exact .inr (kept _ rfl rfl)

end Step

def carefulStep : DeviceAuth → AuthOp → DeviceAuth → Prop :=
  guarded (fun s op => s.permitted op ∧ s.Meets op) next

structure AuthRun where
  state : ℕ → DeviceAuth
  op : ℕ → AuthOp
  moved : ∀ n, carefulStep (state n) (op n) (state (n + 1))

def AuthRun.Fair (run : AuthRun) : Prop :=
  ∀ n call, call ∈ (run.state n).calls → ∃ m, n ≤ m ∧ ∃ reply, run.op m = .answer call reply

namespace AuthRun

variable (run : AuthRun) {request : Nat}

theorem inv (initial : GateInv none (run.state 0)) (n : ℕ) : GateInv none (run.state n) := by
  induction n with
  | zero => exact initial
  | succ n ih =>
    obtain ⟨⟨-, meets⟩, moved⟩ := run.moved n
    rw [moved]
    exact next_inv ih meets

theorem turns (initial : GateInv none (run.state 0)) (fair : run.Fair) (request : Nat) :
    Turns run.state run.op (Settled request) (Waits request) Prod.fst
      (fun stage op => ∃ reply, op = .answer stage.2 reply) := by
  constructor
  · intro n stage waits
    obtain ⟨⟨-, meets⟩, moved⟩ := run.moved n
    have inv := run.inv initial n
    rw [moved]
    by_cases turn : ∃ reply, run.op n = .answer stage.2 reply
    · obtain ⟨reply, is⟩ := turn
      rw [is]
      exact (reply_progress inv waits reply).imp_right .inl
    · rcases other_step inv waits meets (fun reply is => turn ⟨reply, is⟩) with settled | still
      · exact .inl settled
      · exact .inr (.inr ⟨still, turn⟩)
  · rintro n stage ⟨asked, id, a, found, -⟩
    exact fair n stage.2 (ExtTreeMap.mem_iff_isSome_getElem?.mpr (by rw [found]; rfl))

theorem waits_of_asked {s : DeviceAuth} (inv : GateInv none s) (asked : request < s.requests) :
    Settled request s \/ ∃ stage, Waits request stage s := by
  by_cases settled : Settled request s
  · exact .inl settled
  · right
    have balance := inv.balance request
    rw [if_pos asked, Nat.eq_zero_of_not_pos settled, Nat.zero_add] at balance
    have some : ∃ id : Nat, ∃ a : Authenticator, s.authenticators[id]? = some a /\ a.pending = some request := by
      by_contra none
      have empty : s.waiting request = 0 := by
        rw [waiting, total_eq_zero]
        intro id a there
        exact if_neg fun pending => none ⟨id, a, there, pending⟩
      omega
    obtain ⟨id, a, there, pending⟩ := some
    rcases inv.waits id a request there pending with served | ⟨call, asked, found, binds⟩
    · cases served
    · exact ⟨(asked.reply.rest, call), asked, id, a, found, there, binds, rfl⟩

end AuthRun

structure Gated (s : DeviceAuth) : Prop where
  judged : Throughout GateEvent s.log
  once : ∀ request < s.requests, s.log.countP (AuthEvent.isRan request) +
    s.log.countP (AuthEvent.isCancelled request) + s.log.countP (AuthEvent.isDropped request) +
      s.waiting request = 1
  fresh : s.isAuthenticationFresh → ∃ event last valid, event.success = some (last, valid) ∧
    Latest Uneventful s.log event ∧ s.now - last < valid
  ends : ∀ run : AuthRun, run.state 0 = s → run.Fair → ∀ n request, request < (run.state n).requests →
    ∃ m, n ≤ m ∧ (run.state m).log.countP (AuthEvent.isRan request) +
      (run.state m).log.countP (AuthEvent.isCancelled request) +
        (run.state m).log.countP (AuthEvent.isDropped request) = 1

theorem settles_count (log : List AuthEvent) (request : Nat) :
    log.countP (AuthEvent.settles request) = log.countP (AuthEvent.isRan request) +
      log.countP (AuthEvent.isCancelled request) + log.countP (AuthEvent.isDropped request) := by
  induction log with
  | nil => rfl
  | cons event rest ih =>
    rw [List.countP_cons, List.countP_cons, List.countP_cons, List.countP_cons, ih]
    cases event <;>
      simp only [AuthEvent.settles, AuthEvent.isRan, AuthEvent.isCancelled, AuthEvent.isDropped,
        Bool.or_false, Bool.false_or, Bool.false_eq_true, decide_eq_true_eq, if_false] <;> omega

theorem initial_inv : GateInv none {} := by
  refine ⟨.nil _, (fun _ is => nomatch is), (fun known => nomatch known), fun request => ?_, ?_, ?_, ?_,
    ?_, ?_, ?_⟩
  · simp [waiting]
  · intro id call is
    simp at is
  · intro id a is
    simp at is
  · intro call asked id generation request is
    simp at is
  · intro id a request is
    simp at is
  · intro call call' asked asked' id generation request request' is
    simp at is
  · intro call asked id generation request is
    simp at is

theorem gated_of_inv {s : DeviceAuth} (inv : GateInv none s) : Gated s := by
  refine ⟨inv.judged, fun request asked => ?_, fun fresh => ?_, ?_⟩
  · have balance := inv.balance request
    rw [if_pos asked, settles_count] at balance
    exact balance
  · obtain ⟨last, is, recent⟩ : ∃ last, s.lastGoodAuth = some last /\
        s.now - last < s.shellGrantValidity := by
      simpa [isAuthenticationFresh, Option.any_eq_true] using fresh
    obtain ⟨event, counts, latest⟩ := inv.good last is
    exact ⟨event, last, s.shellGrantValidity, counts, latest, recent⟩
  · rintro run rfl fair n request asked
    have ends : ∃ m, n <= m /\ Settled request (run.state m) := by
      rcases AuthRun.waits_of_asked (run.inv inv n) asked with settled | ⟨stage, waits⟩
      · exact ⟨n, le_rfl, settled⟩
      · exact (run.turns inv fair request).reaches waits
    obtain ⟨m, later, settled⟩ := ends
    refine ⟨m, later, ?_⟩
    have balance := (run.inv inv m).balance request
    unfold Settled at settled
    rw [settles_count] at balance settled
    split at balance <;> omega

/-- Where no request takes another's place, no success is reused past its own validity and no
verification outlives a revocation, each request runs once and only as it may. -/
theorem authentication_gated (trace : List (DeviceAuth × AuthOp)) (s : DeviceAuth)
    (run : Trace carefulStep {} trace s) : Gated s := by
  have preserved (t : DeviceAuth) (op : AuthOp) (u : DeviceAuth) (inv : GateInv none t)
      (moved : carefulStep t op u) : GateInv none u := by
    obtain ⟨⟨-, meets⟩, rfl⟩ := moved
    exact next_inv inv meets
  exact gated_of_inv (run.preserves preserved initial_inv)

def enrolled : Reply := ⟨true, [("available", .bool true)]⟩

def userVerified : Reply := ⟨true, [("ok", .bool true)]⟩

-- A prompt that succeeds, and a second request that it still covers.
theorem authentication_gated_prompt :
    ∃ s : DeviceAuth, s.log.countP (AuthEvent.isRan 1) = 1 ∧ s.isAuthenticationFresh = true ∧ Gated s := by
  have follows : Follows (fun s op => s.permitted op ∧ s.Meets op) next {}
      [.make (seconds 60), .authenticate 0 "reveal", .answer 0 enrolled, .answer 1 userVerified,
        .tick 5000000, .authenticate 0 "copy"] := by
    refine ⟨⟨trivial, trivial⟩, ⟨by decide, ?_⟩, ⟨by decide, ?_⟩, ⟨by decide, ?_⟩,
      ⟨trivial, trivial⟩, ⟨by decide, ?_⟩, trivial⟩
    · intro a found
      obtain rfl := Option.some.inj found
      exact ⟨fun within => absurd within (by decide), .inl rfl⟩
    · intro asked id generation request found is
      obtain rfl := Option.some.inj found
      cases is
    · intro asked id generation request found is live ok
      obtain rfl := Option.some.inj found
      cases is
      left
      rintro ⟨front, since, split, event, mem, forgets⟩
      have all : ∀ event ∈ [AuthEvent.asked 0, .told (some true), .verifying 0],
          event.forgets = false := by decide
      have inside : event ∈ [AuthEvent.asked 0, .told (some true), .verifying 0] := by
        have same : [AuthEvent.asked 0, .told (some true), .verifying 0] = front ++ .verifying 0 :: since :=
          split
        rw [same]
        simp [mem]
      rw [all event inside] at forgets
      cases forgets
    · intro a found
      obtain rfl := Option.some.inj found
      exact ⟨fun _ => .inl (by decide), .inl rfl⟩
  obtain ⟨trace, run, -⟩ := follows.trace
  exact ⟨_, by decide, by decide, authentication_gated trace _ run⟩

-- The shell's grant of five seconds lets a request through after thirty.
theorem short_grant_reused :
    ¬ ∀ (trace : List (DeviceAuth × AuthOp)) (s : DeviceAuth), Trace step {} trace s →
      Throughout GateEvent s.log := by
  intro every
  have follows : Follows permitted next {}
      [.make (seconds 60), .grant (seconds 5), .tick 30000000, .authenticate 0 "fill"] :=
    ⟨trivial, trivial, trivial, by decide, trivial⟩
  obtain ⟨trace, run, -⟩ := follows.trace
  have judged := every trace _ run [.granted 0 (seconds 5), .asked 0]
    (.ran 0 true (seconds 60) 30000000) [] rfl
  rcases judged with ⟨-, now, mem⟩ | ⟨-, front, event, since, last, valid, split, counts, -, -, covers, -⟩ |
      nothing
  · simp at mem
  · have mem : event ∈ [AuthEvent.granted 0 (seconds 5), .asked 0] := by
      rw [split]
      simp
    rcases List.mem_pair.mp mem with rfl | rfl
    · obtain ⟨rfl, rfl⟩ : (0 : TimeTicks) = last ∧ seconds 5 = valid := by
        simpa [AuthEvent.success] using counts
      exact absurd covers (by decide)
    · cases counts
  · have mem := Latest.mem nothing
    simp at mem

end DeviceAuth

end ChromiumHmos.Passwords
