import ChromiumHmos.Base.Value
import ChromiumHmos.Lib.Transition

set_option autoImplicit false

/-!
# Device authentication

The user proves who they are to the shell, and that counts for a while. Each authenticator has one
request at a time; what it asks of the shell is answered later.
-/

namespace ChromiumHmos.Passwords

open Base Std Transition

def kMaxShellGrant : TimeDelta := seconds 60

structure Authenticator where
  validity : TimeDelta
  -- The request whose callback waits.
  pending : Option Nat := none
  -- Callbacks bound to a weak pointer of an earlier one are dead.
  generation : Nat := 0

structure Reply where
  ok : Bool
  result : DictValue := []

/-- What the reply to a call is bound to, and for which request the call was made. -/
inductive ReplyCallback
  | onAvailability (authenticator generation : Nat) (message : String) (request : Nat)
  | onVerified (authenticator generation request : Nat)
  | rememberAvailability
  | doNothing

structure ServiceCall where
  method : String
  args : DictValue := []
  reply : ReplyCallback

inductive AuthEvent
  | asked (request : Nat)
  -- The shell is asked to verify the user, for the request.
  | verifying (request : Nat)
  | verified (request : Nat) (now : TimeTicks)
  | granted (now : TimeTicks) (valid : TimeDelta)
  | forgotten
  -- Whether anything is enrolled, or that the shell did not say.
  | told (available : Option Bool)
  | ran (request : Nat) (result : Bool) (window : TimeDelta) (now : TimeTicks)
  | cancelled (request : Nat)
  -- The authenticator is gone, and its callback with it.
  | dropped (request : Nat)

structure DeviceAuth where
  now : TimeTicks := 0
  -- `ohos_system_service::IsAvailable()`.
  isAvailable : Bool := true
  lastGoodAuth : Option TimeTicks := none
  shellGrantValidity : TimeDelta := kMaxShellGrant
  knownAvailability : Option Bool := none
  authenticators : ExtTreeMap Nat Authenticator := ∅
  nextAuthenticator : Nat := 0
  calls : ExtTreeMap Nat ServiceCall := ∅
  nextId : Nat := 0
  requests : Nat := 0
  log : List AuthEvent := []

namespace DeviceAuth

def note (s : DeviceAuth) (event : AuthEvent) : DeviceAuth := { s with log := s.log ++ [event] }

-- A call that no dispatcher takes is replied to as well, with an error.
def call (s : DeviceAuth) (call : ServiceCall) : DeviceAuth :=
  { s with calls := s.calls.insert s.nextId call, nextId := s.nextId + 1 }

def readAvailability (reply : Reply) : Option Bool :=
  if ¬ reply.ok then none else reply.result.findBool "available"

def rememberAvailability (s : DeviceAuth) (available : Option Bool) : DeviceAuth :=
  { s with knownAvailability := available }

-- What the shell said is remembered.
def answerAvailability (s : DeviceAuth) (reply : Reply) : DeviceAuth :=
  (s.rememberAvailability (readAvailability reply)).note (.told (readAvailability reply))

def withinReuseWindow (s : DeviceAuth) (a : Authenticator) : Bool :=
  a.validity ≠ 0 ∧ s.lastGoodAuth.any fun last => s.now - last < a.validity

def isAuthenticationFresh (s : DeviceAuth) : Bool :=
  s.lastGoodAuth.any fun last => s.now - last < s.shellGrantValidity

-- `if (pending_) std::move(pending_).Run(result)`. Nothing of a caller comes after it.
def runPending (s : DeviceAuth) (id : Nat) (a : Authenticator) (result : Bool) : DeviceAuth :=
  match a.pending with
  | none => s
  | some request =>
    { s with authenticators := s.authenticators.insert id { a with pending := none } }.note
      (.ran request result a.validity s.now)

def verifyOrAllow (s : DeviceAuth) (id : Nat) (a : Authenticator) (message : String) (request : Nat) :
    DeviceAuth :=
  if s.knownAvailability = some false then s.runPending id a true
  else
    (s.call ⟨"verify", [("title", .string message)], .onVerified id a.generation request⟩).note
      (.verifying request)

def authenticateWithMessage (s : DeviceAuth) (id : Nat) (a : Authenticator) (message : String) :
    DeviceAuth :=
  let request := s.requests
  let s := { s with requests := s.requests + 1 }.note (.asked request)
  if s.withinReuseWindow a then s.note (.ran request true a.validity s.now)
  else if ¬ s.isAvailable then s.note (.ran request false a.validity s.now)
  else
    let a := { a with pending := some request }
    let s := { s with authenticators := s.authenticators.insert id a }
    if s.knownAvailability.isNone then
      s.call ⟨"available", [], .onAvailability id a.generation message request⟩
    else s.verifyOrAllow id a message request

def cancel (s : DeviceAuth) (id : Nat) (a : Authenticator) : DeviceAuth :=
  match a.pending with
  | none => s
  | some request =>
    let a := { a with pending := none, generation := a.generation + 1 }
    let s := { s with authenticators := s.authenticators.insert id a }.note (.cancelled request)
    if s.isAvailable then s.call ⟨"cancel", [], .doNothing⟩ else s

def onAvailability (s : DeviceAuth) (id : Nat) (a : Authenticator) (message : String) (request : Nat)
    (reply : Reply) : DeviceAuth :=
  let s := s.answerAvailability reply
  if s.knownAvailability.isNone then s.runPending id a false
  else s.verifyOrAllow id a message request

-- The reply says that the user was verified.
def verifies (reply : Reply) : Bool := reply.ok ∧ (reply.result.findBool "ok").getD false

def onVerified (s : DeviceAuth) (id : Nat) (a : Authenticator) (request : Nat) (reply : Reply) :
    DeviceAuth :=
  let s := if verifies reply then
      ({ s with lastGoodAuth := some s.now, shellGrantValidity := kMaxShellGrant }.rememberAvailability
        (some true)).note (.verified request s.now)
    else s
  s.runPending id a (verifies reply)

-- The object the weak pointer leads to, if it still does.
def lock (s : DeviceAuth) (id generation : Nat) : Option Authenticator :=
  s.authenticators[id]?.filter fun a => a.generation = generation

def runReply (s : DeviceAuth) (reply : Reply) : ReplyCallback → DeviceAuth
  | .onAvailability id generation message request =>
    match s.lock id generation with
    | some a => s.onAvailability id a message request reply
    | none => s
  | .onVerified id generation request =>
    match s.lock id generation with
    | some a => s.onVerified id a request reply
    | none => s
  | .rememberAvailability => s.answerAvailability reply
  | .doNothing => s

def refreshAuthenticationAvailability (s : DeviceAuth) : DeviceAuth :=
  if ¬ s.isAvailable then (s.rememberAvailability none).note (.told none)
  else s.call ⟨"available", [], .rememberAvailability⟩

def grantAuthenticationFromShell (s : DeviceAuth) (valid : TimeDelta) : DeviceAuth :=
  let validity := max 0 (min valid kMaxShellGrant)
  { s with lastGoodAuth := some s.now, shellGrantValidity := validity }.note (.granted s.now validity)

def forgetRecentAuthentication (s : DeviceAuth) : DeviceAuth :=
  { s with lastGoodAuth := none }.note .forgotten

-- Null without a shell.
def makeOhosDeviceAuthenticator (s : DeviceAuth) (validity : TimeDelta) : DeviceAuth :=
  if ¬ s.isAvailable then s
  else
    { s with
      authenticators := s.authenticators.insert s.nextAuthenticator { validity }
      nextAuthenticator := s.nextAuthenticator + 1 }

def destroy (s : DeviceAuth) (id : Nat) (a : Authenticator) : DeviceAuth :=
  let s := { s with authenticators := s.authenticators.erase id }
  match a.pending with
  | none => s
  | some request => s.note (.dropped request)

inductive AuthOp
  | make (validity : TimeDelta)
  | destroy (id : Nat)
  | authenticate (id : Nat) (message : String)
  | cancel (id : Nat)
  | answer (call : Nat) (reply : Reply)
  | refresh
  | grant (valid : TimeDelta)
  | forget
  -- The shell is attached, or goes away.
  | attach (available : Bool)
  | tick (elapsed : Nat)

-- `op` on an authenticator that lives.
def onAuthenticator (s : DeviceAuth) (id : Nat) (op : Authenticator → DeviceAuth) : DeviceAuth :=
  match s.authenticators[id]? with
  | some a => op a
  | none => s

def answer (s : DeviceAuth) (id : Nat) (reply : Reply) : DeviceAuth :=
  match s.calls[id]? with
  | some call => { s with calls := s.calls.erase id }.runReply reply call.reply
  | none => s

def next (s : DeviceAuth) : AuthOp → DeviceAuth
  | .make validity => s.makeOhosDeviceAuthenticator validity
  | .destroy id => s.onAuthenticator id (s.destroy id)
  | .authenticate id message => s.onAuthenticator id fun a => s.authenticateWithMessage id a message
  | .cancel id => s.onAuthenticator id (s.cancel id)
  | .answer id reply => s.answer id reply
  | .refresh => s.refreshAuthenticationAvailability
  | .grant valid => s.grantAuthenticationFromShell valid
  | .forget => s.forgetRecentAuthentication
  | .attach available => { s with isAvailable := available }
  | .tick elapsed => { s with now := s.now + elapsed }

def permitted (s : DeviceAuth) : AuthOp → Prop
  | .destroy id | .authenticate id _ | .cancel id => id ∈ s.authenticators
  | .answer id _ => id ∈ s.calls
  | _ => True

instance (s : DeviceAuth) : (op : AuthOp) → Decidable (s.permitted op)
  | .destroy _ | .authenticate _ _ | .cancel _ | .answer _ _ => inferInstanceAs (Decidable (_ ∈ _))
  | .make _ | .refresh | .grant _ | .forget | .attach _ | .tick _ => .isTrue trivial

def step : DeviceAuth → AuthOp → DeviceAuth → Prop := guarded permitted next

end DeviceAuth

end ChromiumHmos.Passwords
