import ChromiumHmos.Lib.Transition
import ChromiumHmos.Lib.Requests
import ChromiumHmos.Lib.Deliveries
import ChromiumHmos.Base.Value

set_option autoImplicit false

/-!
# Calls of system services

Chromium asks the app's side over a dispatcher it installs. A call is registered under the lock and sent
after it, from any sequence; the answers and events come back as messages.
-/

namespace ChromiumHmos.Services

open Transition Base Lib

structure Reply where
  ok : Bool := false
  error : String := ""
  result : Value := .none

def makeError (message : String) : Reply := { error := message }

structure Subscriber where
  id : Nat
  service : String
  runner : Nat

/-- A call between its registration and `dispatcher.Run`. -/
structure Sending where
  id : Nat
  dispatcher : Nat
  request : DictValue

structure Event where
  service : String
  event : String
  data : DictValue

structure SystemServices where
  -- each dispatcher installed is a new one
  dispatcher : Option Nat := none
  installed : Nat := 0
  requests : Requests Nat Reply := {}
  sending : List Sending := []
  sent : List (Nat × DictValue) := []
  subscribers : List Subscriber := []
  nextSubscriberId : Nat := 0
  -- every subscription there has been, with its service
  subscriptions : List (Nat × String) := []
  events : List Event := []
  deliveries : Deliveries := {}

namespace SystemServices

def setDispatcher (s : SystemServices) (installs : Bool) : SystemServices :=
  if installs then { s with dispatcher := some s.installed, installed := s.installed + 1 }
  else
    -- Nobody is left to answer these.
    { s with
      dispatcher := none
      requests := s.requests.failAll (makeError "HarmonyOS system services went away") }

/-- Up to the end of the lock. -/
def call (s : SystemServices) (caller : Nat) (service method : String) (args : DictValue) : SystemServices :=
  match s.dispatcher with
  | none =>
    { s with
      requests := s.requests.refuse caller (makeError "HarmonyOS system services are unavailable here") }
  | some dispatcher =>
    let id := s.requests.nextId + 1
    { s with
      requests := s.requests.register caller dispatcher
      sending := s.sending ++ [{
        id, dispatcher
        request := [("id", .int id), ("service", .string service), ("method", .string method),
          ("args", .dict args)] }] }

/-- The rest of a call; `encodes` is whether the request could be written as JSON. -/
def send (s : SystemServices) (index : Nat) (encodes : Bool) : SystemServices :=
  match s.sending[index]? with
  | none => s
  | some sending =>
    if encodes then
      { s with
        sending := s.sending.eraseIdx index
        sent := s.sent ++ [(sending.dispatcher, sending.request)] }
    else
      { s with
        sending := s.sending.eraseIdx index
        requests := s.requests.complete sending.id none (makeError "Could not encode the request") }

/-- `Cancel`, which a timeout calls too. -/
def cancel (s : SystemServices) (id : Nat) : SystemServices :=
  if 0 < id then
    { s with
      requests := s.requests.complete id none (makeError "HarmonyOS service call cancelled or timed out") }
  else s

def replyIn (message : DictValue) : Reply :=
  let ok := (message.findBool "ok").getD false
  let error := (message.findString "error").getD ""
  { ok
    error := if !ok && error = "" then "The HarmonyOS service reported a failure" else error
    result := (message.find "result").getD .none }

/-- The id of a message that is a reply. -/
def replyId (message : DictValue) : Option Nat :=
  match message.findInt "id" with
  | some (.ofNat (id + 1)) => some (id + 1)
  | _ => none

def targetsOf (s : SystemServices) (service : String) : List Nat :=
  (s.subscribers.filter fun subscriber => subscriber.service = service).map (·.id)

/-- `DeliverMessage`, of a text the reader made `parsed` of. -/
def deliverMessage (s : SystemServices) (parsed : Option Value) : SystemServices :=
  match parsed with
  | some (.dict entries) =>
    let message : DictValue := entries
    match replyId message with
    | some id => { s with requests := s.requests.complete id (some id) (replyIn message) }
    | none =>
      match message.findString "service", message.findString "event" with
      | some service, some event =>
        { s with
          events := s.events ++ [{ service, event, data := (message.findDict "data").getD [] }]
          deliveries := s.deliveries.announce (s.targetsOf service) }
      | _, _ => s
  | _ => s

def addSubscriber (s : SystemServices) (service : String) (runner : Nat) : SystemServices :=
  { s with
    nextSubscriberId := s.nextSubscriberId + 1
    subscribers := s.subscribers ++ [{ id := s.nextSubscriberId + 1, service, runner }]
    subscriptions := s.subscriptions ++ [(s.nextSubscriberId + 1, service)] }

def removeSubscriber (s : SystemServices) (id : Nat) : SystemServices :=
  { s with subscribers := s.subscribers.filter fun subscriber => subscriber.id ≠ id }

def alive (s : SystemServices) (id : Nat) : Bool := s.subscribers.any fun subscriber => subscriber.id = id

/-- A subscription destroyed while the event was in flight is not called. -/
def runSubscriber (s : SystemServices) (index : Nat) : SystemServices :=
  { s with deliveries := s.deliveries.run index s.alive }

inductive Step
  | setDispatcher (installs : Bool)
  | call (caller : Nat) (service method : String) (args : DictValue)
  | send (index : Nat) (encodes : Bool)
  | cancel (id : Nat)
  | deliverMessage (parsed : Option Value)
  -- a reply taken out of the pending ones is posted
  | post (index : Nat)
  | addSubscriber (service : String) (runner : Nat)
  | removeSubscriber (id : Nat)
  | runSubscriber (index : Nat)

def next (s : SystemServices) : Step -> SystemServices
  | .setDispatcher installs => s.setDispatcher installs
  | .call caller service method args => s.call caller service method args
  | .send index encodes => s.send index encodes
  | .cancel id => s.cancel id
  | .deliverMessage parsed => s.deliverMessage parsed
  | .post index => { s with requests := s.requests.post index }
  | .addSubscriber service runner => s.addSubscriber service runner
  | .removeSubscriber id => s.removeSubscriber id
  | .runSubscriber index => s.runSubscriber index

/-- No dispatcher is put in another's place while that one's requests are pending. -/
def Careful (s : SystemServices) : Step -> Prop
  | .setDispatcher true => s.requests.pending.isEmpty
  | _ => True

end SystemServices

end ChromiumHmos.Services
