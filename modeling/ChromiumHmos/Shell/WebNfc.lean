import ChromiumHmos.Lib.Transition
import ChromiumHmos.Lib.Base64
import ChromiumHmos.Base.Value

set_option autoImplicit false

/-!
# Web NFC

What one document asks of the shell's NFC: scans, writes and making a tag read-only. The shell answers under
the id of the document's session.
-/

namespace ChromiumHmos.Shell

open Transition Base Lib

inductive NdefCategory
  | standardized
  | external
  | local

inductive NdefRecord
  | record (recordType : String) (category : NdefCategory) (mediaType id encoding lang : Option String)
      (data : Bytes) (payloadMessage : Option (List NdefRecord))

inductive NdefErrorType
  | notAllowed
  | notSupported
  | notReadable
  | invalidMessage
  | operationCancelled
  | ioError
deriving DecidableEq

structure NdefError where
  errorType : NdefErrorType
  message : String
deriving DecidableEq

def kMaxNdefNesting : Nat := 4

def ndefCategoryOf (recordType : String) : NdefCategory :=
  if recordType.toList.head? = some ':' then .local
  else if recordType.toList.contains ':' then .external
  else .standardized

/-- `inner` reads the message a record holds. -/
def ndefRecordFromShell (inner : List Value -> Option (List NdefRecord)) : Value -> Option NdefRecord
  | .dict entries => do
      let dict : DictValue := entries
      let recordType <- (dict.findString "recordType").filter (· ≠ "")
      let data <- match dict.findString "data" with
        | none => some []
        | some text => base64Decode text
      let payloadMessage <- match dict.findList "records" with
        | none => some none
        | some records => (inner records).map some
      some (.record recordType (ndefCategoryOf recordType) (dict.findString "mediaType") (dict.findString "id")
        (dict.findString "encoding") (dict.findString "lang") data payloadMessage)
  | _ => none

/-- With so many levels of messages left within this one. -/
def ndefMessageFromShell : Nat -> List Value -> Option (List NdefRecord)
  | 0, list => list.mapM (ndefRecordFromShell fun _ => none)
  | levels + 1, list => list.mapM (ndefRecordFromShell (ndefMessageFromShell levels))

def ndefErrorTypes : List (String × NdefErrorType) :=
  [("notAllowed", .notAllowed), ("notSupported", .notSupported), ("notReadable", .notReadable),
   ("invalidMessage", .invalidMessage), ("operationCancelled", .operationCancelled), ("ioError", .ioError)]

def ndefErrorFromShell (command : DictValue) : NdefError where
  errorType := ((command.findString "errorType").bind fun name => ndefErrorTypes.lookup name).getD .ioError
  message := (command.findString "message").getD ""

/-- What the shell answers each with one result. -/
inductive NfcOperation
  | push
  | makeReadOnly
  | scan
deriving DecidableEq

inductive NfcEvent
  | nfcWrite (operation : Nat) (records : List NdefRecord) (overwrite : Bool)
  | nfcMakeReadOnly (operation : Nat)
  | nfcScanStart (operation : Nat)
  | nfcWriteCancel
  | nfcScanStop
  -- a callback is called without an answer of the shell
  | ran (callback : Nat) (error : Option NdefError)
  -- a callback of the operation `own` is called with what the shell says of `operation`
  | answered (callback own operation : Nat) (error : Option NdefError)
  | watch (id : Nat)
  | cancelWatch (id : Nat)
  | onWatch (ids : List Nat) (serialNumber : Option String) (message : List NdefRecord)
  | onError (error : NdefError)

def NfcEvent.ended : NfcEvent -> Option Nat
  | .ran callback _ | .answered callback _ _ _ => some callback
  | _ => none

structure ShellNfc where
  client : Bool := false
  watchIds : List Nat := []
  scanStarted : Bool := false
  -- each with the scan it waits for
  pendingWatches : List (Nat × Nat) := []
  pushCallback : Option Nat := none
  readOnlyCallback : Option Nat := none
  -- the document is gone, and its session with it
  gone : Bool := false
  -- how many callbacks the page has given
  given : Nat := 0
  -- what the shell has still to answer
  owed : List (NfcOperation × Nat) := []
  -- the scan asked for last, and the one started and neither stopped nor refused
  lastScan : Nat := 0
  scanning : Option Nat := none
  log : List NfcEvent := []

namespace ShellNfc

def cancelled : NdefError := ⟨.operationCancelled, "The NFC operation was cancelled."⟩

def newPush : NdefError := ⟨.operationCancelled, "Push is cancelled due to a new push request."⟩

def newMakeReadOnly : NdefError := ⟨.operationCancelled, "Make read-only is cancelled due to a new request."⟩

def dispatch (s : ShellNfc) (event : NfcEvent) : ShellNfc := { s with log := s.log ++ [event] }

/-- `FinishWatches`, with what is told to the callback of each scan. -/
def finishWatches (s : ShellNfc) (told : Nat -> Nat -> NfcEvent) : ShellNfc :=
  { s with
    pendingWatches := []
    log := s.log ++ s.pendingWatches.map fun watch => told watch.1 watch.2 }

def finishWrite (s : ShellNfc) (told : Nat -> NfcEvent) : ShellNfc :=
  { s with pushCallback := none, log := s.log ++ (s.pushCallback.map told).toList }

def finishReadOnly (s : ShellNfc) (told : Nat -> NfcEvent) : ShellNfc :=
  { s with readOnlyCallback := none, log := s.log ++ (s.readOnlyCallback.map told).toList }

def setClient (s : ShellNfc) : ShellNfc := { s with client := true }

def push (s : ShellNfc) (message : List NdefRecord) (overwrite : Bool) : ShellNfc :=
  let finished := s.finishWrite fun callback => .ran callback (some newPush)
  { finished with
    pushCallback := some s.given
    given := s.given + 1
    owed := s.owed ++ [(.push, s.given)]
    log := finished.log ++ [.nfcWrite s.given message overwrite] }

def cancelPush (s : ShellNfc) : ShellNfc :=
  if s.pushCallback.isNone then s
  else (s.finishWrite fun callback => .ran callback (some cancelled)).dispatch .nfcWriteCancel

def makeReadOnly (s : ShellNfc) : ShellNfc :=
  let finished := s.finishReadOnly fun callback => .ran callback (some newMakeReadOnly)
  { finished with
    readOnlyCallback := some s.given
    given := s.given + 1
    owed := s.owed ++ [(.makeReadOnly, s.given)]
    log := finished.log ++ [.nfcMakeReadOnly s.given] }

def cancelMakeReadOnly (s : ShellNfc) : ShellNfc :=
  if s.readOnlyCallback.isNone then s
  else (s.finishReadOnly fun callback => .ran callback (some cancelled)).dispatch .nfcWriteCancel

-- A `std::set`: each id once, in order.
def insertId (id : Nat) (ids : List Nat) : List Nat :=
  if id ∈ ids then ids else ids.orderedInsert (· <= ·) id

def watch (s : ShellNfc) (id : Nat) : ShellNfc :=
  let watching : ShellNfc := { s with watchIds := insertId id s.watchIds, given := s.given + 1, log := s.log ++ [.watch id] }
  if s.scanStarted then watching.dispatch (.ran s.given none)
  else if s.watchIds = [] then
    { watching with
      pendingWatches := s.pendingWatches ++ [(s.given, s.given)]
      owed := s.owed ++ [(.scan, s.given)]
      lastScan := s.given
      scanning := some s.given
      log := watching.log ++ [.nfcScanStart s.given] }
  else { watching with pendingWatches := s.pendingWatches ++ [(s.given, s.lastScan)] }

def cancelWatch (s : ShellNfc) (id : Nat) : ShellNfc :=
  if id ∉ s.watchIds then s
  else
    let left : ShellNfc := { s with watchIds := s.watchIds.filter (· ≠ id), log := s.log ++ [.cancelWatch id] }
    if left.watchIds = [] then
      ({ left with scanStarted := false, scanning := none }.finishWatches fun callback _ =>
        .ran callback (some cancelled)).dispatch .nfcScanStop
    else left

/-- The operation of a kind that the shell answers next. -/
def nextOwed (s : ShellNfc) (kind : NfcOperation) : Option Nat :=
  (s.owed.find? fun entry => entry.1 = kind).map Prod.snd

/-- The shell has answered that operation. -/
def settle (s : ShellNfc) (kind : NfcOperation) : ShellNfc :=
  { s with owed := s.owed.eraseP fun entry => entry.1 = kind }

def errorIn (command : DictValue) : Option NdefError :=
  (command.findString "errorType").map fun _ => ndefErrorFromShell command

def onScanStarted (s : ShellNfc) (operation : Nat) (command : DictValue) : ShellNfc :=
  if s.pendingWatches = [] then s
  else
    match errorIn command with
    | some error =>
      { s with watchIds := [] }.finishWatches fun callback own => .answered callback own operation (some error)
    | none =>
      { s with scanStarted := true }.finishWatches fun callback own => .answered callback own operation none

def onTagRead (s : ShellNfc) (command : DictValue) : ShellNfc :=
  if s.watchIds = [] ∨ s.client = false then s
  else
    match (match command.findList "ndefRecords" with
      | none => some []
      | some records => ndefMessageFromShell kMaxNdefNesting records) with
    | none => s.dispatch (.onError ⟨.invalidMessage, "The tag's NDEF message could not be read."⟩)
    | some message => s.dispatch (.onWatch s.watchIds (command.findString "serialNumber") message)

def resultKind (command : DictValue) : NfcOperation :=
  if command.findString "nfcOperation" = some "makeReadOnly" then .makeReadOnly else .push

def onWriteResult (s : ShellNfc) (operation : Nat) (command : DictValue) : ShellNfc :=
  match resultKind command with
  | .makeReadOnly => s.finishReadOnly fun callback => .answered callback callback operation (errorIn command)
  | _ => s.finishWrite fun callback => .answered callback callback operation (errorIn command)

def onError (s : ShellNfc) (command : DictValue) : ShellNfc :=
  if s.client then s.dispatch (.onError (ndefErrorFromShell command)) else s

/-- `~ShellNfc`. -/
def destroy (s : ShellNfc) : ShellNfc :=
  let stopped := if s.watchIds = [] then s else { s.dispatch .nfcScanStop with scanning := none }
  let watches := stopped.finishWatches fun callback _ => .ran callback (some cancelled)
  let write := watches.finishWrite fun callback => .ran callback (some cancelled)
  let readOnly := write.finishReadOnly fun callback => .ran callback (some cancelled)
  { readOnly with watchIds := [], scanStarted := false, gone := true }

/-- What the shell says in a scan's result: a refused scan does not run. -/
def scanResult (s : ShellNfc) (operation : Nat) (command : DictValue) : ShellNfc :=
  if (errorIn command).isSome ∧ s.scanning = some operation then { s with scanning := none } else s

inductive Step
  | setClient
  | push (message : List NdefRecord) (overwrite : Bool)
  | cancelPush
  | makeReadOnly
  | cancelMakeReadOnly
  | watch (id : Nat)
  | cancelWatch (id : Nat)
  | destroy
  | nfcScanStarted (command : DictValue)
  | nfcWriteResult (command : DictValue)
  | nfcTagRead (command : DictValue)
  | nfcError (command : DictValue)

/-- A result goes to the session while that is there. -/
def next (s : ShellNfc) : Step -> ShellNfc
  | .setClient => s.setClient
  | .push message overwrite => s.push message overwrite
  | .cancelPush => s.cancelPush
  | .makeReadOnly => s.makeReadOnly
  | .cancelMakeReadOnly => s.cancelMakeReadOnly
  | .watch id => s.watch id
  | .cancelWatch id => s.cancelWatch id
  | .destroy => s.destroy
  | .nfcScanStarted command =>
    match s.nextOwed .scan with
    | none => s
    | some operation =>
      let told := (s.settle .scan).scanResult operation command
      if s.gone then told else told.onScanStarted operation command
  | .nfcWriteResult command =>
    match s.nextOwed (resultKind command) with
    | none => s
    | some operation =>
      let told := s.settle (resultKind command)
      if s.gone then told else told.onWriteResult operation command
  | .nfcTagRead command => if s.gone then s else s.onTagRead command
  | .nfcError command => if s.gone then s else s.onError command

/-- The page calls while its document is there; the shell answers each operation once. -/
def Allowed (s : ShellNfc) : Step -> Prop
  | .nfcScanStarted _ => (s.nextOwed .scan).isSome
  | .nfcWriteResult command => (s.nextOwed (resultKind command)).isSome
  | .nfcTagRead _ | .nfcError _ => True
  | _ => s.gone = false

/-- No operation is begun while the shell has one of its kind still to answer. -/
def Careful (s : ShellNfc) : Step -> Prop
  | .push _ _ => s.nextOwed .push = none
  | .makeReadOnly => s.nextOwed .makeReadOnly = none
  | .watch _ => s.watchIds = [] -> s.nextOwed .scan = none
  | _ => True

def held (s : ShellNfc) : List Nat :=
  s.pendingWatches.map Prod.fst ++ s.pushCallback.toList ++ s.readOnlyCallback.toList

def endedBy (log : List NfcEvent) : List Nat := log.filterMap NfcEvent.ended

/-- The watches the page has asked for and not cancelled. -/
def activeIn (log : List NfcEvent) : List Nat :=
  log.foldl (fun ids event =>
    match event with
    | .watch id => id :: ids
    | .cancelWatch id => ids.filter (· ≠ id)
    | _ => ids) []

end ShellNfc

/-- Every document that uses NFC, by the id of its session. -/
abbrev NfcSessions := Nat -> Option ShellNfc

namespace NfcSessions

inductive Step
  | bindAuraShellNfc (session : Nat)
  | atSession (session : Nat) (step : ShellNfc.Step)

def next (sessions : NfcSessions) : Step -> NfcSessions
  | .bindAuraShellNfc session => Function.update sessions session (some {})
  | .atSession session step =>
    match sessions session with
    | none => sessions
    | some s => Function.update sessions session (some (s.next step))

-- `NextShellPickerRequestId` gives each session an id of its own.
def Allowed (sessions : NfcSessions) : Step -> Prop
  | .bindAuraShellNfc session => (sessions session).isNone
  | .atSession session step => exists s, sessions session = some s ∧ s.Allowed step

def Careful (sessions : NfcSessions) : Step -> Prop
  | .bindAuraShellNfc _ => True
  | .atSession session step => forall s, sessions session = some s -> s.Careful step

end NfcSessions

end ChromiumHmos.Shell
