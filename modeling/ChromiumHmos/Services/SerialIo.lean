import ChromiumHmos.Lib.Ledger
import ChromiumHmos.Lib.Transition
import ChromiumHmos.Base.Value

set_option autoImplicit false

/-!
# The serial port

A serial port is opened, read, written and closed by commands over the USB bridge. A command cannot be
recalled, so a read that is cancelled goes on at the device.
-/

namespace ChromiumHmos.Services

open Transition Base Lib

inductive SerialError
  | noError
  | disconnected
  | systemError
  -- why it was cancelled
  | other (reason : Nat)

/-- A read or a write, by its number, with the buffer of the client. -/
structure Transfer where
  id : Nat
  buffer : List Nat
deriving DecidableEq

/-- What a read gave the client, or how much of a write is reported as sent. -/
structure Completed where
  id : Nat
  bytes : List Nat := []
  count : Nat := 0
  error : SerialError

/-- The reads of a port, or its writes. -/
structure Transfers where
  generation : Nat := 0
  pending : Option Transfer := none
  given : Nat := 0
  completed : List Completed := []

namespace Transfers

def begin (s : Transfers) (buffer : List Nat) : Transfers :=
  { s with pending := some ⟨s.given, buffer⟩, given := s.given + 1 }

/-- `ReadCompleted` and `WriteCompleted`. -/
def complete (s : Transfers) (bytes : List Nat) (count : Nat) (error : SerialError) : Transfers :=
  match s.pending with
  | none => s
  | some transfer =>
    { s with pending := none, completed := s.completed ++ [{ id := transfer.id, bytes, count, error }] }

def turn (s : Transfers) : Transfers := { s with generation := s.generation + 1 }

/-- `CancelReadImpl` and `CancelWriteImpl`, which the base class calls of one that is pending. -/
def cancel (s : Transfers) (error : SerialError) : Transfers :=
  if s.pending.isSome then s.turn.complete [] 0 error else s

end Transfers

inductive SerialCommand
  | serialOpen
  | serialClose
  | serialConfigure
  | serialRead (generation id size : Nat)
  | serialWrite (generation id : Nat) (data : List Nat)
deriving DecidableEq

structure SerialIoHandler where
  portId : Int
  isOpen : Bool := false
  opening : Bool := false
  reads : Transfers := {}
  writes : Transfers := {}

/-- The handler, with its commands that have no reply yet and the number of closes before each. -/
structure SerialPort where
  handler : SerialIoHandler
  closes : Nat := 0
  commands : List (Nat × SerialCommand) := []
  -- the buffers of all writes, and what was sent of each
  buffers : List (List Nat) := []
  sent : List (Nat × List Nat) := []
  -- the bytes the platform returned while a read of the open port was pending
  returned : List Nat := []
  -- how much of each write the platform accepted
  accepted : List (Nat × Nat) := []

namespace SerialPort

def post (s : SerialPort) (command : SerialCommand) : SerialPort :=
  { s with commands := s.commands ++ [(s.closes, command)] }

def openImpl (s : SerialPort) (ctsFlowControl : Bool) : SerialPort :=
  if s.handler.portId < 0 || s.handler.isOpen || ctsFlowControl then s
  else ({ s with handler := { s.handler with opening := true } } : SerialPort).post .serialOpen

/-- `Read` of the base class, and `ReadImpl`. -/
def read (s : SerialPort) (buffer : List Nat) : SerialPort :=
  let reads := s.handler.reads.begin buffer
  if s.handler.isOpen then
    ({ s with handler := { s.handler with reads := reads.turn } } : SerialPort).post
      (.serialRead (reads.generation + 1) s.handler.reads.given (min buffer.length 8192))
  else { s with handler := { s.handler with reads := reads.complete [] 0 .disconnected } }

/-- `Write` of the base class, and `WriteImpl`. -/
def write (s : SerialPort) (buffer : List Nat) : SerialPort :=
  let writes := s.handler.writes.begin buffer
  let given := { s with buffers := s.buffers ++ [buffer] }
  if s.handler.isOpen then
    ({ given with
      handler := { s.handler with writes := writes.turn }
      sent := s.sent ++ [(s.handler.writes.given, buffer.take 4096)] } : SerialPort).post
      (.serialWrite (writes.generation + 1) s.handler.writes.given (buffer.take 4096))
  else { given with handler := { s.handler with writes := writes.complete [] 0 .disconnected } }

def cancelRead (s : SerialPort) (error : SerialError) : SerialPort :=
  { s with handler := { s.handler with reads := s.handler.reads.cancel error } }

def cancelWrite (s : SerialPort) (error : SerialError) : SerialPort :=
  { s with handler := { s.handler with writes := s.handler.writes.cancel error } }

def closeImpl (s : SerialPort) : SerialPort :=
  ({ s with
    handler := { s.handler with
      isOpen := false, reads := s.handler.reads.turn, writes := s.handler.writes.turn } } : SerialPort).post .serialClose

/-- `Close` of the base class. -/
def close (s : SerialPort) : SerialPort :=
  let closed := { s with closes := s.closes + 1 }
  if s.handler.isOpen then ((closed.cancelRead .disconnected).cancelWrite .disconnected).closeImpl else closed

def configurePortImpl (s : SerialPort) (ctsFlowControl : Bool) : SerialPort :=
  if ctsFlowControl || !s.handler.isOpen then s else s.post .serialConfigure

def ok (response : DictValue) : Bool := (response.findBool "ok").getD false

def clampByte (value : Int) : Nat := (max 0 (min value 255)).toNat

/-- An item of `data` into its place of the buffer. -/
def copyByte (before : Nat) : Value -> Nat
  | .int value => clampByte value
  | _ => before

def dataOf (response : DictValue) : List Value := (response.findList "data").getD []

def onReadComplete (s : SerialIoHandler) (generation : Nat) (response : DictValue) : SerialIoHandler :=
  match s.reads.pending with
  | none => s
  | some transfer =>
    if generation ≠ s.reads.generation then s
    else if ok response then
      -- as many as both have
      { s with reads := s.reads.complete (List.zipWith copyByte transfer.buffer (dataOf response)) 0 .noError }
    else { s with reads := s.reads.complete [] 0 .systemError }

def transferred (response : DictValue) : Nat := (max 0 ((response.findInt "bytesTransferred").getD 0)).toNat

def onWriteComplete (s : SerialIoHandler) (generation : Nat) (response : DictValue) : SerialIoHandler :=
  match s.writes.pending with
  | none => s
  | some transfer =>
    if generation ≠ s.writes.generation then s
    else if ok response then
      { s with writes := s.writes.complete [] (min (transferred response) transfer.buffer.length) .noError }
    else { s with writes := s.writes.complete [] 0 .systemError }

def onReply (s : SerialIoHandler) (response : DictValue) : SerialCommand -> SerialIoHandler
  | .serialOpen => { s with isOpen := ok response, opening := false }
  | .serialClose => s
  | .serialConfigure => s
  | .serialRead generation _ _ => onReadComplete s generation response
  | .serialWrite generation _ _ => onWriteComplete s generation response

/-- The bytes a reply to a read brings. -/
def bytesOf (response : DictValue) : List Nat :=
  if ok response then (dataOf response).map (copyByte 0) else []

/-- What the platform may answer: a read brings bytes, and no more than it was asked for. -/
def fits (response : DictValue) : SerialCommand -> Bool
  | .serialRead _ _ size =>
    (dataOf response).length ≤ size &&
      (dataOf response).all fun item => match item with | .int value => 0 ≤ value && value ≤ 255 | _ => false
  | _ => true

def reply (s : SerialPort) (index : Nat) (response : DictValue) : SerialPort :=
  match s.commands[index]? with
  | none => s
  | some (closes, command) =>
    if fits response command then
      let answered := { s with
        commands := s.commands.eraseIdx index
        handler := onReply s.handler response command }
      match command with
      | .serialRead _ _ _ =>
        if closes = s.closes && s.handler.reads.pending.isSome then
          { answered with returned := s.returned ++ bytesOf response }
        else answered
      | .serialWrite _ id data =>
        if ok response then { answered with accepted := s.accepted ++ [(id, min (transferred response) data.length)] }
        else answered
      | _ => answered
    else s

inductive Step
  | openPort (ctsFlowControl : Bool)
  | closePort
  | configurePort (ctsFlowControl : Bool)
  | read (buffer : List Nat)
  | write (buffer : List Nat)
  | cancelRead (reason : Nat)
  | cancelWrite (reason : Nat)
  | reply (index : Nat) (response : DictValue)

/-- The base class opens, reads and writes one at a time. -/
def next (s : SerialPort) : Step -> SerialPort
  | .openPort ctsFlowControl => if s.handler.opening then s else s.openImpl ctsFlowControl
  | .closePort => s.close
  | .configurePort ctsFlowControl => s.configurePortImpl ctsFlowControl
  | .read buffer => if s.handler.reads.pending.isSome then s else s.read buffer
  | .write buffer => if s.handler.writes.pending.isSome then s else s.write buffer
  | .cancelRead reason => s.cancelRead (.other reason)
  | .cancelWrite reason => s.cancelWrite (.other reason)
  | .reply index response => s.reply index response

/-- No bytes come for a cancelled read while another one is pending, no write is reported as more than was sent,
and the port is not closed while it is being opened. -/
def careful (s : SerialPort) : Step -> Bool
  | .closePort => !s.handler.opening
  | .reply index response =>
    match s.commands[index]? with
    | some (closes, .serialRead generation _ _) =>
      closes ≠ s.closes || s.handler.reads.pending.isNone || generation = s.handler.reads.generation ||
        (bytesOf response).isEmpty
    | some (_, .serialWrite generation _ data) =>
      s.handler.writes.pending.isNone || generation ≠ s.handler.writes.generation || !ok response ||
        transferred response ≤ data.length
    | _ => true
  | _ => true

end SerialPort

end ChromiumHmos.Services
