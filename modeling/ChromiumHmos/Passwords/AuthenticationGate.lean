import ChromiumHmos.Lib.History
import ChromiumHmos.Lib.OrderedMap
import ChromiumHmos.Lib.Progress
import ChromiumHmos.Passwords.DeviceAuthenticator

set_option autoImplicit false

/-!
# The device authentication gate

A request that waits has one call under way, so its callback runs once. What lets it through is a
verification of its own, a success that still counts, or that there is nothing to verify against.
-/

namespace ChromiumHmos.Passwords

open Base Std Transition History Progress OrderedMap

-- When the user proved who they are, and for how long that counts.
def AuthEvent.success : AuthEvent → Option (TimeTicks × TimeDelta)
  | .verified _ now => some (now, kMaxShellGrant)
  | .granted now valid => some (now, valid)
  | _ => none

def AuthEvent.isRan (request : Nat) : AuthEvent → Bool
  | .ran other _ _ _ => other = request
  | _ => false

def AuthEvent.isCancelled (request : Nat) : AuthEvent → Bool
  | .cancelled other => other = request
  | _ => false

def AuthEvent.isDropped (request : Nat) : AuthEvent → Bool
  | .dropped other => other = request
  | _ => false

def AuthEvent.settles (request : Nat) (event : AuthEvent) : Bool :=
  event.isRan request || event.isCancelled request || event.isDropped request

def AuthEvent.tells : AuthEvent → Bool
  | .told _ => true
  | _ => false

def AuthEvent.forgets : AuthEvent → Bool
  | .forgotten => true
  | _ => false

/-- A verification started for the request succeeded, and nothing was revoked since it was started. -/
def VerifiedFor (before : List AuthEvent) (request : Nat) : Prop :=
  Latest (fun event => event.forgets = false) before (.verifying request) ∧
    ∃ now, .verified request now ∈ before

/-- A success from before the request, not revoked since, counts by its own validity and by the
request's window. -/
def Covered (before : List AuthEvent) (request : Nat) (window : TimeDelta) (now : TimeTicks) : Prop :=
  window ≠ 0 ∧ ∃ front event since last valid, before = front ++ event :: since ∧
    event.success = some (last, valid) ∧ (∀ later ∈ since, later.forgets = false) ∧
      .asked request ∈ since ∧ now - last < valid ∧ now - last < window

/-- The latest answer of the shell is that nothing is enrolled. -/
def NothingEnrolled (before : List AuthEvent) : Prop :=
  Latest (fun event => event.tells = false) before (.told (some false))

def GateEvent (before : List AuthEvent) : AuthEvent → Prop
  | .ran request true window now =>
    VerifiedFor before request ∨ Covered before request window now ∨ NothingEnrolled before
  | _ => True

/-- The verification for the request was started, and something was revoked since. -/
def Revoked (log : List AuthEvent) (request : Nat) : Prop :=
  ∃ front since, log = front ++ .verifying request :: since ∧ ∃ event ∈ since, event.forgets = true

-- Success and revocation apart.
def Uneventful (event : AuthEvent) : Prop := event.success = none ∧ event.forgets = false

def ReplyCallback.bound : ReplyCallback → Option (Nat × Nat × Nat)
  | .onAvailability id generation _ request => some (id, generation, request)
  | .onVerified id generation request => some (id, generation, request)
  | _ => none

namespace DeviceAuth

def waiting (s : DeviceAuth) (request : Nat) : Nat :=
  total (fun _ a => if a.pending = some request then 1 else 0) s.authenticators

/-- The condition on a step: a request takes no other's place, no success is reused past its own
validity, and no verification succeeds that was started before a revocation. -/
def Meets (s : DeviceAuth) : AuthOp → Prop
  | .authenticate id _ => ∀ a : Authenticator, s.authenticators[id]? = some a →
      (s.withinReuseWindow a → s.isAuthenticationFresh ∨ s.knownAvailability = some false) ∧
        (a.pending = none ∨ s.withinReuseWindow a ∨ s.isAvailable = false)
  | .answer call reply => ∀ (asked : ServiceCall) id generation request, s.calls[call]? = some asked →
      asked.reply = .onVerified id generation request → (s.lock id generation).isSome →
        verifies reply → ¬ Revoked s.log request ∨ s.knownAvailability = some false
  | _ => True

/-- `owed`: the authenticator whose request is being served, with no call under way. -/
structure GateInv (owed : Option Nat) (s : DeviceAuth) : Prop where
  judged : Throughout GateEvent s.log
  good : ∀ last, s.lastGoodAuth = some last →
    ∃ event, event.success = some (last, s.shellGrantValidity) ∧ Latest Uneventful s.log event
  known : s.knownAvailability = some false → NothingEnrolled s.log
  balance : ∀ request, s.log.countP (AuthEvent.settles request) + s.waiting request =
    if request < s.requests then 1 else 0
  ids : ∀ (id : Nat) (call : ServiceCall), s.calls[id]? = some call → id < s.nextId
  made : ∀ (id : Nat) (a : Authenticator), s.authenticators[id]? = some a → id < s.nextAuthenticator
  bound : ∀ (call : Nat) (asked : ServiceCall) id generation request, s.calls[call]? = some asked →
    asked.reply.bound = some (id, generation, request) → id < s.nextAuthenticator ∧
      ∀ a : Authenticator, s.authenticators[id]? = some a → generation ≤ a.generation ∧
        (generation = a.generation → owed ≠ some id ∧ a.pending = some request)
  waits : ∀ (id : Nat) (a : Authenticator) request, s.authenticators[id]? = some a → a.pending = some request →
    owed = some id ∨ ∃ call : Nat, ∃ asked : ServiceCall, s.calls[call]? = some asked ∧
      asked.reply.bound = some (id, a.generation, request)
  one : ∀ (call call' : Nat) (asked asked' : ServiceCall) id generation request request',
    s.calls[call]? = some asked →
    s.calls[call']? = some asked' → asked.reply.bound = some (id, generation, request) →
      asked'.reply.bound = some (id, generation, request') → call = call'
  verifying : ∀ (call : Nat) (asked : ServiceCall) id generation request, s.calls[call]? = some asked →
    asked.reply = .onVerified id generation request → .verifying request ∈ s.log

section Inv

variable {s : DeviceAuth} {owed : Option Nat} {id : Nat} {a : Authenticator} {request : Nat}

theorem countP_note (log : List AuthEvent) (event : AuthEvent) (request : Nat)
    (silent : event.settles request = false) :
    (log ++ [event]).countP (AuthEvent.settles request) = log.countP (AuthEvent.settles request) := by
  simp [List.countP_append, silent]

theorem GateInv.still (inv : GateInv owed s) {event : AuthEvent} (idle : Uneventful event) :
    ∀ last, s.lastGoodAuth = some last -> ∃ success, success.success = some (last, s.shellGrantValidity) /\
      Latest Uneventful (s.log ++ [event]) success := by
  intro last is
  obtain ⟨success, counts, latest⟩ := inv.good last is
  exact ⟨success, counts, latest.snoc idle⟩

theorem GateInv.noted (inv : GateInv owed s) {event : AuthEvent} {last : Option TimeTicks} {validity : TimeDelta}
    {known : Option Bool} (judged : GateEvent s.log event) (silent : ∀ request, event.settles request = false)
    (good : ∀ time, last = some time -> ∃ success, success.success = some (time, validity) /\
      Latest Uneventful (s.log ++ [event]) success)
    (none : known = some false -> NothingEnrolled (s.log ++ [event])) :
    GateInv owed ({ s with
      lastGoodAuth := last, shellGrantValidity := validity, knownAvailability := known }.note event) := by
  refine { inv with
    judged := inv.judged.snoc judged
    good := good
    known := none
    balance := fun request => ?_
    verifying := fun call asked id generation request found is => ?_ }
  · change (s.log ++ [event]).countP _ + s.waiting request = _
    rw [countP_note _ _ _ (silent request)]
    exact inv.balance request
  · exact List.mem_append_left _ (inv.verifying call asked id generation request found is)

theorem GateInv.quiet (inv : GateInv owed s) {event : AuthEvent} (idle : Uneventful event)
    (untold : event.tells = false) (silent : ∀ request, event.settles request = false) :
    GateInv owed (s.note event) := by
  have judged : GateEvent s.log event := by
    cases event with
    | ran other result window now =>
      have ran := silent other
      simp [AuthEvent.settles, AuthEvent.isRan] at ran
    | _ => exact trivial
  exact inv.noted judged silent (inv.still idle) fun none => (inv.known none).snoc untold

theorem GateInv.updated {owed' : Option Nat} (inv : GateInv owed s) (found : s.authenticators[id]? = some a)
    {a' : Authenticator} {event : AuthEvent} {requests : Nat}
    (judged : GateEvent s.log event) (idle : Uneventful event) (untold : event.tells = false)
    (balance : ∀ r, (if event.settles r then 1 else 0) + (if a'.pending = some r then 1 else 0) +
      (if r < s.requests then 1 else 0) = (if a.pending = some r then 1 else 0) + if r < requests then 1 else 0)
    (elsewhere : ∀ key, key ≠ id -> (owed' = some key ↔ owed = some key))
    (binds : ∀ generation r, generation <= a.generation ->
      (generation = a.generation -> owed ≠ some id /\ a.pending = some r) ->
      generation <= a'.generation /\ (generation = a'.generation -> owed' ≠ some id /\ a'.pending = some r))
    (waits : ∀ r, a'.pending = some r -> owed' = some id) :
    GateInv owed' ({ s with requests, authenticators := s.authenticators.insert id a' }.note event) := by
  have other (key : Nat) (d : Authenticator) (is : (s.authenticators.insert id a')[key]? = some d) :
      (key = id /\ d = a') \/ (key ≠ id /\ s.authenticators[key]? = some d) :=
    (getElem?_insert_some _ _ _ _ _).mp is
  refine ⟨inv.judged.snoc judged, inv.still idle, fun none => (inv.known none).snoc untold, ?_, inv.ids,
    ?_, ?_, ?_, inv.one, ?_⟩
  · intro r
    have before := inv.balance r
    have moved := total_insert_found (fun _ (a : Authenticator) => if a.pending = some r then 1 else 0)
      s.authenticators id a a' found
    have change := balance r
    change (s.log ++ [_]).countP _ + total _ (s.authenticators.insert id _) = if r < requests then 1 else 0
    change _ + total _ s.authenticators = _ at before
    rw [List.countP_append, List.countP_singleton]
    omega
  · intro key d is
    rcases other key d is with ⟨rfl, -⟩ | ⟨-, old⟩
    · exact inv.made _ a found
    · exact inv.made key d old
  · intro call asked key generation r there bound
    obtain ⟨bounded, live⟩ := inv.bound call asked key generation r there bound
    refine ⟨bounded, fun d is => ?_⟩
    rcases other key d is with ⟨rfl, rfl⟩ | ⟨apart, old⟩
    · exact binds generation r (live a found).1 (live a found).2
    · obtain ⟨le, current⟩ := live d old
      exact ⟨le, fun same => ⟨fun served => (current same).1 ((elsewhere key apart).mp served), (current same).2⟩⟩
  · intro key d r is waiting
    rcases other key d is with ⟨rfl, rfl⟩ | ⟨apart, old⟩
    · exact .inl (waits r waiting)
    · exact (inv.waits key d r old waiting).imp_left (elsewhere key apart).mpr
  · intro call asked key generation r there is
    exact List.mem_append_left _ (inv.verifying call asked key generation r there is)

theorem GateInv.runPending (inv : GateInv (some id) s) (found : s.authenticators[id]? = some a)
    (pending : a.pending = some request) {result : Bool}
    (judged : GateEvent s.log (.ran request result a.validity s.now)) :
    GateInv none (s.runPending id a result) := by
  unfold DeviceAuth.runPending
  rw [pending]
  refine inv.updated found judged ⟨rfl, rfl⟩ rfl ?_ ?_ ?_ ?_
  · intro r
    simp [AuthEvent.settles, AuthEvent.isRan, AuthEvent.isCancelled, AuthEvent.isDropped, pending]
  · exact fun key apart => by simp [Ne.symm apart]
  · exact fun generation r le live => ⟨le, fun same => absurd rfl (live same).1⟩
  · exact fun r none => by cases none

theorem GateInv.call (inv : GateInv (some id) s) (found : s.authenticators[id]? = some a)
    (pending : a.pending = some request) {call : ServiceCall}
    (binds : call.reply.bound = some (id, a.generation, request))
    (verifying : ∀ key generation r, call.reply = .onVerified key generation r ->
      .verifying r ∈ s.log) : GateInv none (s.call call) := by
  have fresh : s.calls[s.nextId]? = none := by
    cases there : s.calls[s.nextId]? with
    | none => rfl
    | some other => exact absurd (inv.ids _ _ there) (lt_irrefl _)
  have other (key : Nat) (asked : ServiceCall)
      (is : (s.calls.insert s.nextId call)[key]? = some asked) :
      (key = s.nextId /\ asked = call) \/ (key ≠ s.nextId /\ s.calls[key]? = some asked) :=
    (getElem?_insert_some _ _ _ _ _).mp is
  -- no other call is bound to what this one is bound to
  have alone (key : Nat) (asked : ServiceCall) (r : Nat) (is : s.calls[key]? = some asked) :
      asked.reply.bound ≠ some (id, a.generation, r) := fun same =>
    ((inv.bound key asked id a.generation r is same).2 a found).2 rfl |>.1 rfl
  refine { inv with ids := ?_, bound := ?_, waits := ?_, one := ?_, verifying := ?_ }
  · intro key asked is
    change key < s.nextId + 1
    rcases other key asked is with ⟨rfl, -⟩ | ⟨-, old⟩
    · exact Nat.lt_succ_self _
    · exact Nat.lt_succ_of_lt (inv.ids key asked old)
  · intro key asked owner generation r is same
    rcases other key asked is with ⟨-, rfl⟩ | ⟨-, old⟩
    · obtain ⟨rfl, rfl, rfl⟩ : id = owner /\ a.generation = generation /\ request = r := by
        simpa using binds.symm.trans same
      refine ⟨inv.made id a found, fun d there => ?_⟩
      obtain rfl := Option.some.inj (found.symm.trans there)
      exact ⟨le_rfl, fun _ => ⟨by simp, pending⟩⟩
    · obtain ⟨bounded, live⟩ := inv.bound key asked owner generation r old same
      exact ⟨bounded, fun d there => ⟨(live d there).1, fun current =>
        ⟨by simp, ((live d there).2 current).2⟩⟩⟩
  · intro owner d r there waits
    right
    by_cases same : owner = id
    · subst same
      obtain rfl := Option.some.inj (found.symm.trans there)
      obtain rfl := Option.some.inj (pending.symm.trans waits)
      exact ⟨s.nextId, call, by simp [DeviceAuth.call], binds⟩
    · rcases inv.waits owner d r there waits with served | ⟨key, asked, old, bound⟩
      · exact absurd (Option.some.inj served).symm same
      · exact ⟨key, asked, (getElem?_insert_some _ _ _ _ _).mpr
          (.inr ⟨(inv.ids key asked old).ne, old⟩), bound⟩
  · intro key key' asked asked' owner generation r r' is is' same same'
    rcases other key asked is with ⟨rfl, rfl⟩ | ⟨-, old⟩ <;>
      rcases other key' asked' is' with ⟨rfl, rfl⟩ | ⟨-, old'⟩
    · rfl
    · obtain ⟨rfl, rfl, -⟩ : id = owner /\ a.generation = generation /\ request = r := by
        simpa using binds.symm.trans same
      exact absurd same' (alone key' asked' r' old')
    · obtain ⟨rfl, rfl, -⟩ : id = owner /\ a.generation = generation /\ request = r' := by
        simpa using binds.symm.trans same'
      exact absurd same (alone key asked r old)
    · exact inv.one key key' asked asked' owner generation r r' old old' same same'
  · intro key asked owner generation r is same
    rcases other key asked is with ⟨-, rfl⟩ | ⟨-, old⟩
    · exact verifying owner generation r same
    · exact inv.verifying key asked owner generation r old same

theorem GateInv.verifyOrAllow (inv : GateInv (some id) s) (found : s.authenticators[id]? = some a)
    (pending : a.pending = some request) (message : String) :
    GateInv none (s.verifyOrAllow id a message request) := by
  unfold DeviceAuth.verifyOrAllow
  split
  next none => exact inv.runPending found pending (.inr (.inr (inv.known none)))
  · have started : GateInv (some id) (s.note (.verifying request)) :=
      inv.quiet ⟨rfl, rfl⟩ rfl fun _ => rfl
    refine started.call found pending rfl ?_
    intro key generation r same
    cases same
    exact List.mem_append_right _ (List.mem_singleton_self _)

theorem GateInv.told (inv : GateInv owed s) (available : Option Bool) :
    GateInv owed ((s.rememberAvailability available).note (.told available)) := by
  refine inv.noted trivial (fun _ => rfl) (inv.still ⟨rfl, rfl⟩) fun none => ?_
  rw [none]
  exact latest_snoc _ _ _

theorem GateInv.succeed (inv : GateInv owed s) {event : AuthEvent} {valid : TimeDelta}
    (counts : event.success = some (s.now, valid)) {known : Option Bool}
    (same : known = some false -> s.knownAvailability = some false) :
    GateInv owed ({ s with
      lastGoodAuth := some s.now, shellGrantValidity := valid, knownAvailability := known }.note event) := by
  have plain : event.tells = false /\ (∀ request, event.settles request = false) /\
      GateEvent s.log event := by
    cases event with
    | verified | granted => exact ⟨rfl, fun _ => rfl, trivial⟩
    | _ => simp [AuthEvent.success] at counts
  obtain ⟨untold, silent, judged⟩ := plain
  refine inv.noted judged silent (fun last is => ?_) fun none => (inv.known (same none)).snoc untold
  obtain rfl : s.now = last := Option.some.inj is
  exact ⟨event, counts, latest_snoc _ _ _⟩

theorem GateInv.forget (inv : GateInv owed s) : GateInv owed s.forgetRecentAuthentication :=
  inv.noted trivial (fun _ => rfl) (fun _ is => by cases is) fun none => (inv.known none).snoc rfl

theorem GateInv.callUnbound (inv : GateInv none s) {call : ServiceCall}
    (unbound : call.reply.bound = none) : GateInv none (s.call call) := by
  have other (key : Nat) (asked : ServiceCall) (id generation request : Nat)
      (is : (s.calls.insert s.nextId call)[key]? = some asked)
      (binds : asked.reply.bound = some (id, generation, request)) : s.calls[key]? = some asked := by
    rcases (getElem?_insert_some _ _ _ _ _).mp is with ⟨-, rfl⟩ | ⟨-, old⟩
    · rw [unbound] at binds
      cases binds
    · exact old
  refine { inv with ids := ?_, bound := ?_, waits := ?_, one := ?_, verifying := ?_ }
  · intro key asked is
    change key < s.nextId + 1
    rcases (getElem?_insert_some _ _ _ _ _).mp is with ⟨rfl, -⟩ | ⟨-, old⟩
    · exact Nat.lt_succ_self _
    · exact Nat.lt_succ_of_lt (inv.ids key asked old)
  · intro key asked id generation request is binds
    exact inv.bound key asked id generation request (other _ _ _ _ _ is binds) binds
  · intro id a request there waits
    rcases inv.waits id a request there waits with served | ⟨key, asked, old, bound⟩
    · cases served
    · exact .inr ⟨key, asked, (getElem?_insert_some _ _ _ _ _).mpr
        (.inr ⟨(inv.ids key asked old).ne, old⟩), bound⟩
  · intro key key' asked asked' id generation request request' is is' binds binds'
    exact inv.one key key' asked asked' id generation request request' (other _ _ _ _ _ is binds)
      (other _ _ _ _ _ is' binds') binds binds'
  · intro key asked id generation request is same
    exact inv.verifying key asked id generation request
      (other _ _ id generation request is (by rw [same]; rfl)) same

theorem GateInv.replied (inv : GateInv none s) {call : Nat} {asked : ServiceCall}
    (found : s.calls[call]? = some asked)
    (serves : ∀ id a request, s.authenticators[id]? = some a ->
      asked.reply.bound = some (id, a.generation, request) -> owed = some id)
    (served : ∀ id, owed = some id -> ∃ a request, s.authenticators[id]? = some a /\
      asked.reply.bound = some (id, a.generation, request)) :
    GateInv owed { s with calls := s.calls.erase call } := by
  refine { inv with ids := ?_, bound := ?_, waits := ?_, one := ?_, verifying := ?_ }
  · exact fun key other is => inv.ids key other ((getElem?_erase_some _ _ _ _).mp is).2
  · intro key other id generation request is binds
    obtain ⟨apart, old⟩ := (getElem?_erase_some _ _ _ _).mp is
    obtain ⟨bounded, live⟩ := inv.bound key other id generation request old binds
    refine ⟨bounded, fun a there => ⟨(live a there).1, fun current => ⟨fun is => ?_, ?_⟩⟩⟩
    · obtain ⟨a', request', there', binds'⟩ := served id is
      obtain rfl := Option.some.inj (there.symm.trans there')
      exact apart (inv.one key call other asked id generation request request' old found binds
        (current ▸ binds'))
    · exact ((live a there).2 current).2
  · intro id a request there waits
    rcases inv.waits id a request there waits with none | ⟨key, other, old, binds⟩
    · cases none
    · by_cases same : key = call
      · subst same
        obtain rfl := Option.some.inj (found.symm.trans old)
        exact .inl (serves id a request there binds)
      · exact .inr ⟨key, other, (getElem?_erase_some _ _ _ _).mpr ⟨same, old⟩, binds⟩
  · intro key key' other other' id generation request request' is is'
    exact inv.one key key' other other' id generation request request'
      ((getElem?_erase_some _ _ _ _).mp is).2 ((getElem?_erase_some _ _ _ _).mp is').2
  · intro key other id generation request is
    exact inv.verifying key other id generation request ((getElem?_erase_some _ _ _ _).mp is).2

theorem GateInv.ranAtOnce (inv : GateInv none s) {result : Bool} {window : TimeDelta}
    (judged : GateEvent (s.log ++ [.asked s.requests]) (.ran s.requests result window s.now)) :
    GateInv none (({ s with requests := s.requests + 1 }.note (.asked s.requests)).note
      (.ran s.requests result window s.now)) := by
  refine { inv with
    judged := (inv.judged.snoc (show GateEvent s.log (.asked s.requests) from trivial)).snoc judged
    good := fun last is => ?_
    known := fun none => ((inv.known none).snoc rfl).snoc rfl
    balance := fun request => ?_
    verifying := fun call asked id generation request found is => ?_ }
  · obtain ⟨success, counts, latest⟩ := inv.good last is
    exact ⟨success, counts, (latest.snoc ⟨rfl, rfl⟩).snoc ⟨rfl, rfl⟩⟩
  · have before := inv.balance request
    change ((s.log ++ [_]) ++ [_]).countP _ + s.waiting request =
      if request < s.requests + 1 then 1 else 0
    rw [List.countP_append, countP_note _ _ _ (by rfl), List.countP_singleton]
    simp only [AuthEvent.settles, AuthEvent.isRan, AuthEvent.isCancelled, AuthEvent.isDropped,
      Bool.or_false, decide_eq_true_eq]
    split at before <;> split <;> split <;> omega
  · exact List.mem_append_left _ (List.mem_append_left _
      (inv.verifying call asked id generation request found is))

theorem GateInv.asks (inv : GateInv none s) (found : s.authenticators[id]? = some a)
    (idle : a.pending = none) :
    GateInv (some id) { { s with requests := s.requests + 1 }.note (.asked s.requests) with
      authenticators := s.authenticators.insert id { a with pending := some s.requests } } := by
  refine inv.updated found trivial ⟨rfl, rfl⟩ rfl ?_ ?_ ?_ ?_
  · intro r
    simp only [note, AuthEvent.settles, AuthEvent.isRan, AuthEvent.isCancelled, AuthEvent.isDropped, idle,
      Option.some.injEq, reduceCtorEq, Bool.or_false, Bool.false_eq_true, if_false, Nat.lt_succ_iff]
    split <;> split <;> split <;> omega
  · exact fun key apart => by simp [Ne.symm apart]
  · intro generation r le live
    refine ⟨le, fun same => ?_⟩
    rw [idle] at live
    cases (live same).2
  · exact fun _ _ => rfl

theorem GateInv.authenticate (inv : GateInv none s) (found : s.authenticators[id]? = some a)
    {message : String} (meets : s.Meets (.authenticate id message)) :
    GateInv none (s.authenticateWithMessage id a message) := by
  obtain ⟨reuses, free⟩ := meets a found
  unfold DeviceAuth.authenticateWithMessage
  dsimp only
  split
  · next counts =>
    have within : s.withinReuseWindow a = true := counts
    refine inv.ranAtOnce ?_
    rcases reuses within with fresh | none
    · obtain ⟨window, last, good, recent⟩ : a.validity ≠ 0 /\
          ∃ last, s.lastGoodAuth = some last /\ s.now - last < a.validity := by
        simpa [withinReuseWindow, Option.any_eq_true] using within
      obtain ⟨event, counts, before, since, split, silent⟩ := inv.good last good
      have valid : s.now - last < s.shellGrantValidity := by
        simpa [isAuthenticationFresh, good] using fresh
      refine .inr (.inl ⟨window, before, event, since ++ [.asked s.requests], last,
        s.shellGrantValidity, by simp [split], counts, ?_, by simp, valid, recent⟩)
      intro later mem
      rcases List.mem_append.mp mem with mem | mem
      · exact (silent later mem).2
      · exact List.mem_singleton.mp mem ▸ rfl
    · exact .inr (.inr ((inv.known none).snoc rfl))
  · next apart =>
    split
    · exact inv.ranAtOnce trivial
    · next attached =>
      have idle : a.pending = none := by
        rcases free with idle | within | gone
        · exact idle
        · exact absurd within apart
        · exact absurd (show ¬ s.isAvailable from by simp [gone]) attached
      have asked := inv.asks found idle
      split
      · refine asked.call (a := { a with pending := some s.requests }) (by simp) rfl rfl ?_
        intro key generation r same
        cases same
      · exact asked.verifyOrAllow (by simp) rfl message

theorem GateInv.cancel (inv : GateInv none s) (found : s.authenticators[id]? = some a) :
    GateInv none (s.cancel id a) := by
  unfold DeviceAuth.cancel
  cases pending : a.pending with
  | none => exact inv
  | some request =>
    dsimp only
    have dropped : GateInv none ({ s with
        authenticators := s.authenticators.insert id
          { a with pending := none, generation := a.generation + 1 } }.note (.cancelled request)) := by
      refine inv.updated found trivial ⟨rfl, rfl⟩
        rfl ?_ (fun _ _ => Iff.rfl) ?_ ?_
      · intro r
        simp [AuthEvent.settles, AuthEvent.isRan, AuthEvent.isCancelled, AuthEvent.isDropped, pending]
      · -- what was bound before is dead now
        exact fun generation r le _ => ⟨Nat.le_succ_of_le le, fun same => absurd same (by simp only; omega)⟩
      · exact fun r none => by cases none
    split
    · exact dropped.callUnbound rfl
    · exact dropped

theorem GateInv.destroy (inv : GateInv none s) (found : s.authenticators[id]? = some a) :
    GateInv none (s.destroy id a) := by
  have gone (log : List AuthEvent) (quiet : Throughout GateEvent log) (mem : s.log ⊆ log)
      (good : ∀ event, Latest Uneventful s.log event -> Latest Uneventful log event)
      (known : NothingEnrolled s.log -> NothingEnrolled log)
      (balance : ∀ request, log.countP (AuthEvent.settles request) =
        s.log.countP (AuthEvent.settles request) + if a.pending = some request then 1 else 0) :
      GateInv none { s with authenticators := s.authenticators.erase id, log } := by
    refine ⟨quiet, fun last is => ?_, fun none => known (inv.known none), ?_, inv.ids, ?_, ?_, ?_,
      inv.one, ?_⟩
    · obtain ⟨success, counts, latest⟩ := inv.good last is
      exact ⟨success, counts, good success latest⟩
    · intro r
      have before := inv.balance r
      have moved := total_erase (fun _ (a : Authenticator) => if a.pending = some r then 1 else 0)
        s.authenticators id a found
      have more := balance r
      change log.countP _ + total _ (s.authenticators.erase id) = if r < s.requests then 1 else 0
      change _ + total _ s.authenticators = _ at before
      omega
    · exact fun key d is => inv.made key d ((getElem?_erase_some _ _ _ _).mp is).2
    · intro call asked key generation r there binds
      obtain ⟨bounded, live⟩ := inv.bound call asked key generation r there binds
      exact ⟨bounded, fun d is => live d ((getElem?_erase_some _ _ _ _).mp is).2⟩
    · exact fun key d r is => inv.waits key d r ((getElem?_erase_some _ _ _ _).mp is).2
    · exact fun call asked key generation r there is =>
        mem (inv.verifying call asked key generation r there is)
  unfold DeviceAuth.destroy
  cases pending : a.pending with
  | none =>
    refine gone s.log inv.judged (List.Subset.refl _) (fun _ latest => latest) (fun known => known) fun r => ?_
    simp [pending]
  | some request =>
    have judged : GateEvent s.log (.dropped request) := trivial
    refine gone (s.log ++ [.dropped request]) (inv.judged.snoc judged)
      (List.subset_append_left _ _) (fun event latest => latest.snoc ⟨rfl, rfl⟩)
      (fun known => Latest.snoc known rfl) fun r => ?_
    rw [List.countP_append, List.countP_singleton]
    simp [pending, AuthEvent.settles, AuthEvent.isRan, AuthEvent.isCancelled, AuthEvent.isDropped]

theorem GateInv.make (inv : GateInv none s) (validity : TimeDelta) :
    GateInv none (s.makeOhosDeviceAuthenticator validity) := by
  unfold makeOhosDeviceAuthenticator
  split
  · exact inv
  · have fresh : s.authenticators[s.nextAuthenticator]? = none := by
      cases there : s.authenticators[s.nextAuthenticator]? with
      | none => rfl
      | some other => exact absurd (inv.made _ _ there) (lt_irrefl _)
    refine { inv with balance := ?_, made := ?_, bound := ?_, waits := ?_ }
    · intro r
      have before := inv.balance r
      have moved := total_insert_fresh (fun _ (a : Authenticator) => if a.pending = some r then 1 else 0)
        s.authenticators s.nextAuthenticator { validity } fresh
      change s.log.countP _ + total _ (s.authenticators.insert s.nextAuthenticator _) =
        if r < s.requests then 1 else 0
      change _ + total _ s.authenticators = _ at before
      simp only [reduceCtorEq, if_false] at moved
      omega
    · intro key d is
      change key < s.nextAuthenticator + 1
      rcases (getElem?_insert_some _ _ _ _ _).mp is with ⟨rfl, -⟩ | ⟨-, old⟩
      · exact Nat.lt_succ_self _
      · exact Nat.lt_succ_of_lt (inv.made key d old)
    · intro call asked key generation r there binds
      obtain ⟨bounded, live⟩ := inv.bound call asked key generation r there binds
      refine ⟨Nat.lt_succ_of_lt bounded, fun d is => ?_⟩
      rcases (getElem?_insert_some _ _ _ _ _).mp is with ⟨rfl, -⟩ | ⟨-, old⟩
      · exact absurd bounded (lt_irrefl _)
      · exact live d old
    · intro key d r is waits
      rcases (getElem?_insert_some _ _ _ _ _).mp is with ⟨-, rfl⟩ | ⟨-, old⟩
      · cases waits
      · exact inv.waits key d r old waits

theorem lock_some {generation : Nat} (live : s.lock id generation = some a) :
    s.authenticators[id]? = some a /\ a.generation = generation := by
  simpa [lock, Option.filter_eq_some_iff] using live

theorem GateInv.onAvailability (inv : GateInv (some id) s) (found : s.authenticators[id]? = some a)
    (pending : a.pending = some request) (message : String) (reply : Reply) :
    GateInv none (s.onAvailability id a message request reply) := by
  have told := inv.told (readAvailability reply)
  unfold DeviceAuth.onAvailability
  dsimp only
  split
  · exact told.runPending found pending trivial
  · exact told.verifyOrAllow found pending message

theorem GateInv.onVerified (inv : GateInv (some id) s) (found : s.authenticators[id]? = some a)
    (pending : a.pending = some request) (started : .verifying request ∈ s.log) {reply : Reply}
    (current : verifies reply -> ¬ Revoked s.log request \/ s.knownAvailability = some false) :
    GateInv none (s.onVerified id a request reply) := by
  unfold DeviceAuth.onVerified
  cases ok : verifies reply with
  | false => exact inv.runPending found pending trivial
  | true =>
    rw [if_pos rfl]
    have good : GateInv (some id) (({ s with
        lastGoodAuth := some s.now
        shellGrantValidity := kMaxShellGrant }.rememberAvailability (some true)).note
          (.verified request s.now)) :=
      @GateInv.succeed s _ inv (.verified request s.now) kMaxShellGrant rfl (some true)
        fun same => absurd same (by simp)
    refine good.runPending found pending ?_
    rcases current ok with still | none
    · left
      obtain ⟨front, since, split⟩ := List.append_of_mem started
      refine ⟨⟨front, since ++ [.verified request s.now], ?_, ?_⟩, s.now, ?_⟩
      · simp [note, rememberAvailability, split]
      · intro later mem
        rcases List.mem_append.mp mem with mem | mem
        · by_contra forgets
          exact still ⟨front, since, split, later, mem, by simpa using forgets⟩
        · exact List.mem_singleton.mp mem ▸ rfl
      · simp [note]
    · exact .inr (.inr ((inv.known none).snoc rfl))

theorem GateInv.answer (inv : GateInv none s) {call : Nat} {reply : Reply}
    (meets : s.Meets (.answer call reply)) : GateInv none (s.answer call reply) := by
  unfold DeviceAuth.answer
  cases found : s.calls[call]? with
  | none => exact inv
  | some asked =>
    obtain ⟨method, args, callback⟩ := asked
    -- whether the reply is for an authenticator that waits
    have live (id generation request : Nat) (binds : callback.bound = some (id, generation, request))
        (a : Authenticator) (there : s.lock id generation = some a) :
        GateInv (some id) { s with calls := s.calls.erase call } /\
          s.authenticators[id]? = some a /\ a.pending = some request := by
      obtain ⟨at_id, rfl⟩ := lock_some there
      refine ⟨inv.replied found ?_ ?_, at_id, ?_⟩
      · intro other d r _ same
        obtain ⟨rfl, -, -⟩ : id = other /\ a.generation = d.generation /\ request = r := by
          simpa using binds.symm.trans same
        rfl
      · intro other same
        obtain rfl := Option.some.inj same
        exact ⟨a, request, at_id, binds⟩
      · exact ((inv.bound call _ id a.generation request found binds).2 a at_id).2 rfl |>.2
    have dead (absent : ∀ id generation request, callback.bound = some (id, generation, request) ->
        s.lock id generation = none) : GateInv none { s with calls := s.calls.erase call } := by
      refine inv.replied found (fun id a request there binds => ?_) fun id same => by cases same
      have gone := absent id a.generation request binds
      simp [lock, there] at gone
    cases callback with
    | onAvailability id generation message request =>
      dsimp only [runReply]
      cases there : s.lock id generation with
      | none =>
        have same : lock { s with calls := s.calls.erase call } id generation = none := there
        rw [same]
        refine dead fun _ _ _ binds => ?_
        cases binds
        exact there
      | some a =>
        have same : lock { s with calls := s.calls.erase call } id generation = some a := there
        rw [same]
        obtain ⟨serves, at_id, pending⟩ := live id generation request rfl a there
        exact serves.onAvailability at_id pending message reply
    | onVerified id generation request =>
      dsimp only [runReply]
      cases there : s.lock id generation with
      | none =>
        have same : lock { s with calls := s.calls.erase call } id generation = none := there
        rw [same]
        refine dead fun _ _ _ binds => ?_
        cases binds
        exact there
      | some a =>
        have same : lock { s with calls := s.calls.erase call } id generation = some a := there
        rw [same]
        obtain ⟨serves, at_id, pending⟩ := live id generation request rfl a there
        exact serves.onVerified at_id pending (inv.verifying call _ id generation request found rfl)
          (meets _ id generation request found rfl (by simp [there]))
    | rememberAvailability =>
      exact (dead fun _ _ _ binds => by cases binds).told (readAvailability reply)
    | doNothing => exact dead fun _ _ _ binds => by cases binds

theorem next_inv (inv : GateInv none s) {op : AuthOp} (meets : s.Meets op) :
    GateInv none (s.next op) := by
  cases op with
  | make validity => exact inv.make validity
  | destroy id =>
    dsimp only [next, onAuthenticator]
    cases found : s.authenticators[id]? with
    | none => exact inv
    | some a => exact inv.destroy found
  | authenticate id message =>
    dsimp only [next, onAuthenticator]
    cases found : s.authenticators[id]? with
    | none => exact inv
    | some a => exact inv.authenticate found meets
  | cancel id =>
    dsimp only [next, onAuthenticator]
    cases found : s.authenticators[id]? with
    | none => exact inv
    | some a => exact inv.cancel found
  | answer call reply => exact inv.answer meets
  | refresh =>
    dsimp only [next, refreshAuthenticationAvailability]
    split
    · exact inv.told none
    · exact inv.callUnbound rfl
  | grant valid => exact inv.succeed rfl id
  | forget => exact inv.forget
  | attach available => exact { inv with }
  | tick elapsed => exact { inv with }

end Inv

end DeviceAuth

end ChromiumHmos.Passwords
