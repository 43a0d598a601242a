import ChromiumHmos.Lib.Transition
import ChromiumHmos.Lib.OrderedMap
import ChromiumHmos.Base.Value

set_option autoImplicit false

/-!
# The startup handoff of one window

The shell asks whether its probe page is up, and later whether the page that is to be shown has been
presented. Each answer goes back to the shell under the token of the transaction.
-/

namespace ChromiumHmos.Shell

open Std Transition Base

inductive Phase
  | unset
  | ready
  | frame
deriving DecidableEq

inductive StartupStatus
  | waiting
  | ready
  | presented
deriving DecidableEq

/-- One tab's contents, with the document in its primary main frame. -/
structure Contents where
  document : Nat
  url : String
  visible : Bool := true
  pendingEntry : Bool := false
  frameLive : Bool := true

inductive Awaited
  | script
  | visualState
  | presentation
  | retry
deriving DecidableEq

/-- A callback that holds a weak pointer to the handoff. -/
structure Callback where
  awaited : Awaited
  weak : Nat
  work : Nat

-- What a callback is called with.
inductive Answer
  | script (value : Value)
  | visualState (success hasCompositor : Bool)
  | presentation
  | retry

/-- What happened. An answer to the shell says which work it is about, and what was in front then. -/
inductive HandoffEvent
  | began (token : String)
  | cancelled
  | requested (token : String) (phase : Phase) (requestId : Int)
  | accepted (work : Nat) (token : String) (phase : Phase) (contents document : Nat) (url probeUrl : String)
  | carried (work : Nat) (text : Option String) (url : String)
  | submitted (work : Nat) (success : Bool)
  | presentation (work : Nat)
  | switched (contents : Option Nat)
  | navigated (contents : Nat)
  | resumed (url : String)
  | ack (token : String) (phase : Phase) (status : StartupStatus) (requestId : Int) (work : Option Nat)
      (shown : Option Nat)
deriving DecidableEq

structure StartupHandoff where
  -- The tab strip, and the contents that are watched.
  active : Option Nat := none
  watched : Option Nat := none
  contents : ExtTreeMap Nat Contents := ∅
  -- The widget of the strip's window, where there is a browser for it.
  window : Option Nat := none
  now : TimeTicks := 0
  widget : Nat := 0
  token : String := ""
  phase : Phase := .unset
  probeUrl : String := ""
  document : Option Nat := none
  requestId : Int := 0
  workId : Nat := 0
  pending : Bool := false
  retryAfterSameDocument : Bool := false
  started : TimeTicks := 0
  weak : Nat := 0
  callbacks : ExtTreeMap Nat Callback := ∅
  nextCallback : Nat := 0
  log : List HandoffEvent := []

namespace StartupHandoff

def activeContents (s : StartupHandoff) : Option Contents := s.active.bind fun contents => s.contents[contents]?

-- The URL last committed there.
def frontUrl (s : StartupHandoff) : String := (s.activeContents.map Contents.url).getD ""

-- The document that is active and visible.
def shown (s : StartupHandoff) : Option Nat :=
  (s.activeContents.filter Contents.visible).map Contents.document

def await (s : StartupHandoff) (awaited : Awaited) : StartupHandoff :=
  { s with callbacks := s.callbacks.insert s.nextCallback ⟨awaited, s.weak, s.workId⟩
           nextCallback := s.nextCallback + 1 }

def invalidate (s : StartupHandoff) : StartupHandoff :=
  { s with weak := s.weak + 1, pending := false, retryAfterSameDocument := false }

def note (s : StartupHandoff) (event : HandoffEvent) : StartupHandoff := { s with log := s.log ++ [event] }

def reply (s : StartupHandoff) (status : StartupStatus) (work : Option Nat) : StartupHandoff :=
  s.note (.ack s.token s.phase status s.requestId work s.shown)

def sameDocumentNavigationStarted (s : StartupHandoff) : StartupHandoff :=
  { s.invalidate with retryAfterSameDocument := s.retryAfterSameDocument || (s.pending && s.phase = .frame) }

def sameDocumentNavigationFinished (s : StartupHandoff) : StartupHandoff :=
  if s.retryAfterSameDocument || (s.pending && s.phase = .frame)
  then { s.invalidate with retryAfterSameDocument := true }.await .retry
  else s.invalidate

section Platform

-- The spec of `GURL(text)`, where it is valid.
variable (parse : String → Option String)

-- The URL that the request brings along, where the probe's page is still in front.
def resume (s : StartupHandoff) (command : DictValue) : StartupHandoff :=
  match (command.findString "url").bind parse with
  | some destination => if destination = s.probeUrl then s else s.note (.resumed destination)
  | none => s

def accept (s : StartupHandoff) (contents : Nat) (page : Contents) (awaited : Awaited) : StartupHandoff :=
  ({ s with pending := true, started := s.now, workId := s.workId + 1 }.note
    (.accepted (s.workId + 1) s.token s.phase contents page.document page.url s.probeUrl)).await awaited

-- After the command's own fields have been taken.
def prepare (s : StartupHandoff) (phase : Phase) (command : DictValue) : StartupHandoff :=
  let s := { s.invalidate with phase }
  match s.active, s.activeContents with
  | some contents, some page =>
    if page.visible = false ∨ page.pendingEntry = true ∨ page.frameLive = false then s.reply .waiting none
    else
      let s := { s with document := some page.document }
      if phase = .frame then
        if s.probeUrl = "" then s.reply .waiting none
        else if page.url = s.probeUrl then (s.resume parse command).reply .waiting none
        else s.accept contents page .visualState
      else s.accept contents page .script
  | _, _ => s.reply .waiting none

def take (s : StartupHandoff) (widget : Nat) (phase : Phase) (command : DictValue) : StartupHandoff :=
  let s := { s with widget, requestId := (command.findInt "requestId").getD 0 }
  if s.requestId ≤ 0 then s
  else
    let s := s.note (.requested s.token phase s.requestId)
    if s.pending = true ∧ s.phase = phase ∧ s.now - s.started < seconds 4 then s
    else s.prepare parse phase command

def phaseOf (phase : String) : Option Phase :=
  if phase = "ready" then some .ready else if phase = "frame" then some .frame else none

def cancel (s : StartupHandoff) : StartupHandoff :=
  { s.invalidate with token := "", probeUrl := "" }.note .cancelled

def beginTransaction (s : StartupHandoff) (token : String) : StartupHandoff :=
  { s.invalidate with token, probeUrl := "" }.note (.began token)

def request (s : StartupHandoff) (widget : Nat) (command : DictValue) : StartupHandoff :=
  match command.findString "startupToken", command.findString "startupPhase" with
  | some token, some text =>
    if token = "" ∨ 128 < token.utf8ByteSize ∨ widget = 0 then s
    else if text = "cancel" then if token = s.token then s.cancel else s
    else match phaseOf text with
      | none => s
      | some phase =>
        if token = s.token then s.take parse widget phase command
        else if phase = .ready then (s.beginTransaction token).take parse widget phase command
        else s
  | _, _ => s

def phaseText : Phase → String
  | .ready => "ready"
  | .frame => "frame"
  | .unset => ""

def retryAfterSameDocumentNavigation (s : StartupHandoff) : StartupHandoff :=
  let s := { s with retryAfterSameDocument := false }
  if s.phase ≠ .frame ∨ s.token = "" ∨ s.requestId ≤ 0 then s
  else s.request parse s.widget
    [("startupToken", .string s.token), ("startupPhase", .string (phaseText s.phase)), ("requestId", .int s.requestId)]

def matchesNow (s : StartupHandoff) : Bool :=
  decide (s.window = some s.widget) &&
    match s.activeContents with
    | some page => decide (s.document = some page.document) && page.visible && !page.pendingEntry
    | none => false

def textOf : Value → Option String
  | .string text => some text
  | _ => none

def onReady (s : StartupHandoff) (work : Nat) (value : Value) : StartupHandoff :=
  let s := { s with pending := false }.note (.carried work (textOf value) s.frontUrl)
  if s.matchesNow = true ∧ textOf value = some s.token
  then { s with probeUrl := s.frontUrl }.reply .ready (some work)
  else s.reply .waiting (some work)

def onSubmitted (s : StartupHandoff) (work : Nat) (success hasCompositor : Bool) : StartupHandoff :=
  let s := s.note (.submitted work success)
  if success = false ∨ s.matchesNow = false ∨ hasCompositor = false
  then { s with pending := false }.reply .waiting (some work)
  else s.await .presentation

def onPresented (s : StartupHandoff) (work : Nat) : StartupHandoff :=
  let s := { s with pending := false }.note (.presentation work)
  s.reply (if s.matchesNow then .presented else .waiting) (some work)

def follow (s : StartupHandoff) (contents : Option Nat) : StartupHandoff :=
  if contents = s.watched then s
  else { s.invalidate with watched := contents }.note (.switched contents)

def mainFrameNavigated (s : StartupHandoff) (contents : Nat) (sameDocument finished : Bool) : StartupHandoff :=
  let s := s.note (.navigated contents)
  if s.watched ≠ some contents then s
  else if sameDocument = false then s.invalidate
  else if finished then s.sameDocumentNavigationFinished
  else s.sameDocumentNavigationStarted

inductive HandoffOp
  | probe (widget : Nat) (command : DictValue)
  -- `page` is what the contents are from then on.
  | startNavigation (contents : Nat) (sameDocument : Bool) (page : Contents)
  | finishNavigation (contents : Nat) (sameDocument : Bool) (page : Contents)
  | primaryPageChanged (contents : Nat)
  -- Visibility, the pending entry, or the life of the frame.
  | change (contents : Nat) (visible pendingEntry frameLive : Bool)
  | add (contents : Nat) (page : Contents)
  | activate (contents : Option Nat)
  | destroy (contents : Nat)
  | setWindow (window : Option Nat)
  | answer (callback : Nat) (answer : Answer)
  | tick (d : Nat)

def run (s : StartupHandoff) (callback : Callback) : Answer → StartupHandoff
  | .script value => s.onReady callback.work value
  | .visualState success hasCompositor => s.onSubmitted callback.work success hasCompositor
  | .presentation => s.onPresented callback.work
  | .retry => s.retryAfterSameDocumentNavigation parse

def next (s : StartupHandoff) : HandoffOp → StartupHandoff
  | .probe widget command => s.request parse widget command
  | .startNavigation contents sameDocument page =>
    { s with contents := s.contents.insert contents page }.mainFrameNavigated contents sameDocument false
  | .finishNavigation contents sameDocument page =>
    { s with contents := s.contents.insert contents page }.mainFrameNavigated contents sameDocument true
  | .primaryPageChanged contents => if s.watched = some contents then s.invalidate else s
  | .change contents visible pendingEntry frameLive =>
    { s with contents := s.contents.modify contents fun page => { page with visible, pendingEntry, frameLive } }
  | .add contents page => { s with contents := s.contents.insert contents page }
  | .activate contents => { s with active := contents }.follow contents
  | .destroy contents =>
    let s := { s with contents := s.contents.erase contents
                      active := s.active.filter fun active => active ≠ contents }
    if s.watched = some contents then { s.invalidate with watched := none } else s
  | .setWindow window => { s with window }
  | .answer callback answer =>
    match s.callbacks[callback]? with
    | some held =>
      let s := { s with callbacks := s.callbacks.erase callback }
      if held.weak = s.weak then s.run parse held answer else s
    | none => s
  | .tick d => { s with now := s.now + d }

def Awaited.takes : Awaited → Answer → Bool
  | .script, .script _ | .visualState, .visualState _ _ | .presentation, .presentation | .retry, .retry => true
  | _, _ => false

-- A callback is called once, with what it waits for.
def permitted (s : StartupHandoff) : HandoffOp → Prop
  | .startNavigation contents _ page =>
    ∃ before, s.contents[contents]? = some before ∧ page.document = before.document ∧ page.url = before.url
  | .finishNavigation contents _ _ => s.contents.contains contents = true
  | .add contents _ => s.contents.contains contents = false
  | .activate contents => contents.all (s.contents.contains ·) = true
  | .answer callback answer => ∃ held, s.callbacks[callback]? = some held ∧ Awaited.takes held.awaited answer = true
  | _ => True

instance (s : StartupHandoff) : (op : HandoffOp) → Decidable (s.permitted op)
  | .startNavigation contents _ page => inferInstanceAs (Decidable (∃ before, s.contents[contents]? = some before ∧
      page.document = before.document ∧ page.url = before.url))
  | .finishNavigation contents _ _ => inferInstanceAs (Decidable (s.contents.contains contents = true))
  | .add contents _ => inferInstanceAs (Decidable (s.contents.contains contents = false))
  | .activate contents => inferInstanceAs (Decidable (contents.all (s.contents.contains ·) = true))
  | .answer callback answer => inferInstanceAs (Decidable (∃ held, s.callbacks[callback]? = some held ∧
      Awaited.takes held.awaited answer = true))
  | .probe _ _ | .primaryPageChanged _ | .change _ _ _ _ | .destroy _ | .setWindow _ | .tick _ => isTrue trivial

def step : StartupHandoff → HandoffOp → StartupHandoff → Prop := guarded permitted (next parse)

end Platform

end StartupHandoff

end ChromiumHmos.Shell
