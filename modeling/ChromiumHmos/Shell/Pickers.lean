import ChromiumHmos.Lib.Transition
import ChromiumHmos.Lib.Mailbox
import ChromiumHmos.Base.Value

set_option autoImplicit false

/-!
# The shell's pickers

A page's date input, `<select>` or contacts request is shown by the shell. The three kinds share one counter,
which keeps losses of focus from the pages while it is not zero, and one sequence of request ids.
-/

namespace ChromiumHmos.Shell

open Transition Base Mailbox

inductive TextInputType
  | date
  | dateTime
  | dateTimeLocal
  | month
  | time
  | week
  | other

def dateTimeTypeName : TextInputType -> Option String
  | .date => some "date"
  | .dateTime | .dateTimeLocal => some "datetime-local"
  | .month => some "month"
  | .time => some "time"
  | .week => some "week"
  | .other => none

/-- What the shell says of one contact; an address is one line of text. -/
structure ContactInfo where
  name : Option (List String)
  email : Option (List String)
  tel : Option (List String)
  address : Option (List String)
deriving DecidableEq

/-- What a page's callback, or its menu client, is called with; a date of `none` is NaN. -/
inductive PickerAnswer
  | dateTime (success : Bool) (value : Option Int)
  | cancelled
  | indices (chosen : List Int)
  | contacts (found : Option (List ContactInfo))
deriving DecidableEq

/-- One `ShellDateTimeChooser`; a request id of 0 is none. -/
structure DateTimeChooser where
  document : Nat
  inputType : TextInputType := .other
  requestId : Nat := 0
  callback : Option Nat := none

structure ContactsRequest where
  document : Nat
  done : Nat

inductive PickerEvent
  -- the shell is asked to show a picker, for the page's callback
  | requested (callback requestId : Nat)
  -- the callback is called without the shell
  | ran (callback : Nat) (answer : PickerAnswer)
  -- the callback is called with what the shell says of a request
  | answered (callback requestId : Nat) (answer : PickerAnswer)
  -- the page took its menu back
  | takenBack (callback requestId : Nat)
  -- the shell is told that the page closed its picker
  | dateTimePickerClosed (requestId : Nat)
deriving DecidableEq

/-- The callback an event ends. -/
def PickerEvent.ended : PickerEvent -> Option Nat
  | .ran callback _ | .answered callback _ _ | .takenBack callback _ => some callback
  | _ => none

structure Pickers where
  choosers : List (Nat × DateTimeChooser) := []
  dateTimePickerRequests : List (Nat × Nat) := []
  selectPopupRequests : List (Nat × Nat) := []
  contactsPickerRequests : List (Nat × ContactsRequest) := []
  nextRequestId : Nat := 1
  openShellPickers : Int := 0
  nextChooser : Nat := 0
  -- how many callbacks pages have given so far
  asked : Nat := 0
  -- the documents that are gone
  destroyed : List Nat := []
  log : List PickerEvent := []

namespace Pickers

/-- `Finish`: what it tells the page is `ended` of the callback. -/
def finish (s : Pickers) (chooser : Nat) (ended : Nat -> PickerEvent) : Pickers :=
  match s.choosers.lookup chooser with
  | none => s
  | some c =>
    { s with
      choosers := take s.choosers chooser ++ [(chooser, { c with requestId := 0, callback := none })]
      dateTimePickerRequests :=
        if c.requestId = 0 then s.dateTimePickerRequests else take s.dateTimePickerRequests c.requestId
      openShellPickers := if c.requestId = 0 then s.openShellPickers else s.openShellPickers - 1
      log := s.log ++ (c.callback.map ended).toList }

def failed (callback : Nat) : PickerEvent := .ran callback (.dateTime false (some 0))

def bindAuraShellDateTimeChooser (s : Pickers) (document : Nat) : Pickers :=
  { s with choosers := s.choosers ++ [(s.nextChooser, { document })], nextChooser := s.nextChooser + 1 }

/-- The part of `OpenDateTimeDialog` after it has finished what was open. -/
def showDateTimePicker (s : Pickers) (chooser : Nat) (dialogType : TextInputType) (browser : Bool) : Pickers :=
  match s.choosers.lookup chooser with
  | none => s
  | some c =>
    if (dateTimeTypeName dialogType).isNone ∨ browser = false then
      { s with log := s.log ++ [failed s.asked], asked := s.asked + 1 }
    else
      { s with
        choosers := take s.choosers chooser ++
          [(chooser, { c with inputType := dialogType, requestId := s.nextRequestId, callback := some s.asked })]
        dateTimePickerRequests := s.dateTimePickerRequests ++ [(s.nextRequestId, chooser)]
        nextRequestId := s.nextRequestId + 1
        openShellPickers := s.openShellPickers + 1
        asked := s.asked + 1
        log := s.log ++ [.requested s.asked s.nextRequestId] }

def openDateTimeDialog (s : Pickers) (chooser : Nat) (dialogType : TextInputType) (browser : Bool) : Pickers :=
  (s.finish chooser failed).showDateTimePicker chooser dialogType browser

def closeDateTimeDialog (s : Pickers) (chooser : Nat) : Pickers :=
  match s.choosers.lookup chooser with
  | none => s
  | some c =>
    let finished := s.finish chooser failed
    if c.requestId = 0 then finished
    else { finished with log := finished.log ++ [.dateTimePickerClosed c.requestId] }

section Complete

-- `DateTimeFromShell`; `none` is NaN
variable (dateTimeFromShell : TextInputType -> String -> Option Int)

/-- What `Complete` makes of the shell's result. -/
def dateTimeAnswer (inputType : TextInputType) (command : DictValue) : PickerAnswer :=
  if (command.findBool "canceled").getD false then .dateTime false (some 0)
  else
    match command.findString "value" with
    | none => .dateTime false (some 0)
    | some text =>
      if text = "" then .dateTime true none
      else
        match dateTimeFromShell inputType text with
        | none => .dateTime false (some 0)
        | some value => .dateTime true (some value)

def completeShellDateTimePicker (s : Pickers) (command : DictValue) : Pickers :=
  match command.findInt "requestId" with
  | none => s
  | some (.negSucc _) => s
  | some (.ofNat requestId) =>
    match s.dateTimePickerRequests.lookup requestId with
    | none => s
    | some chooser =>
      match s.choosers.lookup chooser with
      | none => s
      | some c =>
        s.finish chooser fun callback =>
          .answered callback requestId (dateTimeAnswer dateTimeFromShell c.inputType command)

end Complete

def showShellSelectPopup (s : Pickers) (browser : Bool) : Pickers :=
  if browser = false then { s with log := s.log ++ [.ran s.asked .cancelled], asked := s.asked + 1 }
  else
    { s with
      selectPopupRequests := s.selectPopupRequests ++ [(s.nextRequestId, s.asked)]
      nextRequestId := s.nextRequestId + 1
      openShellPickers := s.openShellPickers + 1
      asked := s.asked + 1
      log := s.log ++ [.requested s.asked s.nextRequestId] }

/-- The disconnect handler of a menu's client: the page took the menu back, or went away. -/
def selectPopupDisconnected (s : Pickers) (requestId : Nat) : Pickers :=
  match s.selectPopupRequests.lookup requestId with
  | none => s
  | some client =>
    { s with
      selectPopupRequests := take s.selectPopupRequests requestId
      openShellPickers := s.openShellPickers - 1
      log := s.log ++ [.takenBack client requestId] }

def selectAnswer (command : DictValue) : PickerAnswer :=
  match command.findList "indices" with
  | none => .cancelled
  | some indices =>
    if (command.findBool "canceled").getD false then .cancelled
    else .indices (indices.filterMap fun index =>
      match index with
      | .int chosen => some chosen
      | _ => none)

def completeShellSelectPopup (s : Pickers) (command : DictValue) : Pickers :=
  match command.findInt "requestId" with
  | none => s
  | some (.negSucc _) => s
  | some (.ofNat requestId) =>
    match s.selectPopupRequests.lookup requestId with
    | none => s
    | some client =>
      { s with
        selectPopupRequests := take s.selectPopupRequests requestId
        openShellPickers := s.openShellPickers - 1
        log := s.log ++ [.answered client requestId (selectAnswer command)] }

def showShellContactsPicker (s : Pickers) (document : Nat) (browser : Bool) : Pickers :=
  if browser = false then { s with log := s.log ++ [.ran s.asked (.contacts none)], asked := s.asked + 1 }
  else
    { s with
      contactsPickerRequests := s.contactsPickerRequests ++ [(s.nextRequestId, ⟨document, s.asked⟩)]
      nextRequestId := s.nextRequestId + 1
      openShellPickers := s.openShellPickers + 1
      asked := s.asked + 1
      log := s.log ++ [.requested s.asked s.nextRequestId] }

def readStrings (dict : DictValue) (key : String) : Option (List String) :=
  (dict.findList key).map fun list => list.filterMap fun value =>
    match value with
    | .string text => if text = "" then none else some text
    | _ => none

def contactsAnswer (command : DictValue) : PickerAnswer :=
  .contacts (some (((command.findList "contacts").getD []).filterMap fun value =>
    match value with
    | .dict entry =>
      some { name := readStrings entry "name", email := readStrings entry "email",
             tel := readStrings entry "tel", address := readStrings entry "address" }
    | _ => none))

def completeShellContactsPicker (s : Pickers) (command : DictValue) : Pickers :=
  match command.findInt "requestId" with
  | none => s
  | some (.negSucc _) => s
  | some (.ofNat requestId) =>
    match s.contactsPickerRequests.lookup requestId with
    | none => s
    | some request =>
      { s with
        contactsPickerRequests := take s.contactsPickerRequests requestId
        openShellPickers := s.openShellPickers - 1
        log := s.log ++ [.answered request.done requestId (contactsAnswer command)] }

/-- `~ShellDateTimeChooser`. -/
def destroyChooser (s : Pickers) (chooser : Nat) : Pickers :=
  let finished := s.finish chooser failed
  { finished with choosers := take finished.choosers chooser }

def choosersOf (s : Pickers) (document : Nat) : List Nat :=
  (s.choosers.filter fun entry => entry.2.document = document).map Prod.fst

/-- A document goes, with the choosers that belong to it. -/
def destroyDocument (s : Pickers) (document : Nat) : Pickers :=
  (s.choosersOf document).foldl destroyChooser { s with destroyed := document :: s.destroyed }

inductive Step
  | bindAuraShellDateTimeChooser (document : Nat)
  | openDateTimeDialog (chooser : Nat) (dialogType : TextInputType) (browser : Bool)
  | closeDateTimeDialog (chooser : Nat)
  | chooserDisconnected (chooser : Nat)
  | dateTimePickerResult (command : DictValue)
  | showSelectPopup (document : Nat) (browser : Bool)
  | selectPopupDisconnected (requestId : Nat)
  | selectPopupResult (command : DictValue)
  | showContactsPicker (document : Nat) (browser : Bool)
  | contactsPickerResult (command : DictValue)
  | destroyDocument (document : Nat)

def next (dateTimeFromShell : TextInputType -> String -> Option Int) (s : Pickers) : Step -> Pickers
  | .bindAuraShellDateTimeChooser document => s.bindAuraShellDateTimeChooser document
  | .openDateTimeDialog chooser dialogType browser => s.openDateTimeDialog chooser dialogType browser
  | .closeDateTimeDialog chooser => s.closeDateTimeDialog chooser
  | .chooserDisconnected chooser => s.destroyChooser chooser
  | .dateTimePickerResult command => s.completeShellDateTimePicker dateTimeFromShell command
  | .showSelectPopup _ browser => s.showShellSelectPopup browser
  | .selectPopupDisconnected requestId => s.selectPopupDisconnected requestId
  | .selectPopupResult command => s.completeShellSelectPopup command
  | .showContactsPicker document browser => s.showShellContactsPicker document browser
  | .contactsPickerResult command => s.completeShellContactsPicker command
  | .destroyDocument document => s.destroyDocument document

/-- A document asks only while it is there, through a chooser only while that is connected. -/
def Allowed (s : Pickers) : Step -> Prop
  | .bindAuraShellDateTimeChooser document | .showSelectPopup document _ | .showContactsPicker document _ =>
    document ∉ s.destroyed
  | .openDateTimeDialog chooser _ _ => (s.choosers.lookup chooser).isSome
  | _ => True

/-- The callbacks not called yet: of choosers, menus and contacts requests. -/
def held (s : Pickers) : List Nat :=
  s.choosers.filterMap (fun entry => entry.2.callback) ++ s.selectPopupRequests.map Prod.snd ++
    s.contactsPickerRequests.map fun entry => entry.2.done

def endedBy (log : List PickerEvent) : List Nat := log.filterMap PickerEvent.ended

/-- The contacts requests of documents that are gone. -/
def orphans (s : Pickers) : List (Nat × ContactsRequest) :=
  s.contactsPickerRequests.filter fun entry => entry.2.document ∈ s.destroyed

/-- How many pickers there are whose page waits. -/
def waiting (s : Pickers) : Nat :=
  (s.choosers.filterMap fun entry => entry.2.callback).length + s.selectPopupRequests.length +
    (s.contactsPickerRequests.filter fun entry => entry.2.document ∉ s.destroyed).length

end Pickers

end ChromiumHmos.Shell
