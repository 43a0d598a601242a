import ChromiumHmos.Lib.Transition
import ChromiumHmos.Lib.Requests
import ChromiumHmos.Lib.Deliveries
import ChromiumHmos.Base.Value

set_option autoImplicit false

/-!
# The USB bridge

The USB, HID and serial services send their commands over one callback and have a place each for the
callback of their events.
-/

namespace ChromiumHmos.Services

open Transition Base Lib

inductive UsbServiceKind
  | usb
  | hid
  | serial
deriving DecidableEq

/-- A command between its registration and `dispatcher.Run`. -/
structure SendingCommand where
  id : Nat
  dispatcher : Option Nat
  command : DictValue

structure UsbBridge where
  -- each callback installed is a new one
  commandCallback : Option Nat := none
  installed : Nat := 0
  requests : Requests (Option Nat) DictValue := {}
  sending : List SendingCommand := []
  sent : List (Nat × DictValue) := []
  usbTarget : Option Nat := none
  hidTarget : Option Nat := none
  serialTarget : Option Nat := none
  -- every event callback there has been, with its service, and those whose owner is gone
  subscriptions : List (Nat × UsbServiceKind) := []
  gone : List Nat := []
  -- whether each event was one of HID alone, and what it said
  events : List (Bool × DictValue) := []
  deliveries : Deliveries := {}

namespace UsbBridge

def setCommandCallback (s : UsbBridge) (installs : Bool) : UsbBridge :=
  if installs then { s with commandCallback := some s.installed, installed := s.installed + 1 }
  else { s with commandCallback := none }

/-- Up to the end of the lock. -/
def sendCommand (s : UsbBridge) (caller : Nat) (command : DictValue) : UsbBridge :=
  let id := s.requests.nextId + 1
  { s with
    requests := s.requests.register caller s.commandCallback
    sending := s.sending ++ [{ id, dispatcher := s.commandCallback, command := command.set "id" (.int id) }] }

def failure (id : Nat) (message : String) : DictValue :=
  [("id", .int id), ("ok", .bool false), ("error", .string message)]

def failRequest (s : UsbBridge) (id : Nat) (message : String) : UsbBridge :=
  { s with requests := s.requests.complete id none (failure id message) }

/-- The rest of `SendCommand`; `encodes` is whether the command could be written as JSON. -/
def send (s : UsbBridge) (index : Nat) (encodes : Bool) : UsbBridge :=
  match s.sending[index]? with
  | none => s
  | some sending =>
    let rest := { s with sending := s.sending.eraseIdx index }
    if !encodes then rest.failRequest sending.id "Could not encode USB command"
    else
      match sending.dispatcher with
      | none => rest.failRequest sending.id "HarmonyOS USB bridge is unavailable"
      | some dispatcher => { rest with sent := s.sent ++ [(dispatcher, sending.command)] }

/-- The id of a message that is a response. -/
def responseId (message : DictValue) : Option Nat :=
  match message.findInt "id" with
  | some (.ofNat (id + 1)) => some (id + 1)
  | _ => none

def hidOnly (event : DictValue) : Bool :=
  match event.findString "event" with
  | none => false
  | some name => "hid".toList.isPrefixOf name.toList

def targetsOf (s : UsbBridge) (hidOnly : Bool) : List Nat :=
  if hidOnly then s.hidTarget.toList
  else s.usbTarget.toList ++ s.hidTarget.toList ++ s.serialTarget.toList

/-- `DispatchMessage`, of a text the reader made `parsed` of. -/
def dispatchMessage (s : UsbBridge) (parsed : Option Value) : UsbBridge :=
  match parsed with
  | some (.dict entries) =>
    let message : DictValue := entries
    match responseId message with
    | some id => { s with requests := s.requests.complete id (some id) message }
    | none =>
      { s with
        events := s.events ++ [(hidOnly message, message)]
        deliveries := s.deliveries.announce (s.targetsOf (hidOnly message)) }
  | _ => s

/-- What `BindToCurrentSequence` makes of a callback: a target only where both it and a sequence are there. -/
def setEventCallback (s : UsbBridge) (kind : UsbServiceKind) (bound : Bool) : UsbBridge :=
  let target := if bound then some s.subscriptions.length else none
  let registered := if bound then { s with subscriptions := s.subscriptions ++ [(s.subscriptions.length, kind)] } else s
  match kind with
  | .usb => { registered with usbTarget := target }
  | .hid => { registered with hidTarget := target }
  | .serial => { registered with serialTarget := target }

def alive (s : UsbBridge) (subscription : Nat) : Bool := !s.gone.contains subscription

inductive Step
  | setCommandCallback (installs : Bool)
  | sendCommand (caller : Nat) (command : DictValue)
  | send (index : Nat) (encodes : Bool)
  | dispatchMessage (parsed : Option Value)
  -- a response taken out of the pending ones is posted
  | post (index : Nat)
  | setEventCallback (kind : UsbServiceKind) (bound : Bool)
  -- the service goes, and the weak pointer its callback is bound to
  | ownerDestroyed (subscription : Nat)
  | runEvent (index : Nat)

def next (s : UsbBridge) : Step -> UsbBridge
  | .setCommandCallback installs => s.setCommandCallback installs
  | .sendCommand caller command => s.sendCommand caller command
  | .send index encodes => s.send index encodes
  | .dispatchMessage parsed => s.dispatchMessage parsed
  | .post index => { s with requests := s.requests.post index }
  | .setEventCallback kind bound => s.setEventCallback kind bound
  | .ownerDestroyed subscription => { s with gone := subscription :: s.gone }
  | .runEvent index => { s with deliveries := s.deliveries.run index s.alive }

/-- The callback for commands changes only while no request it carries is pending. -/
def Careful (s : UsbBridge) : Step -> Prop
  | .setCommandCallback _ => forall entry, entry ∈ s.requests.pending -> entry.2.carrier = none
  | _ => True

end UsbBridge

end ChromiumHmos.Services
