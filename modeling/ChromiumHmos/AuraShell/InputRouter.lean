import ChromiumHmos.Base.Value
import ChromiumHmos.Lib.Waiting

set_option autoImplicit false

/-!
# The input router

`aura_shell/ohos_aura_input_router.cc`: an event may reach the router from two sources, and only one
of its copies is passed on. A position is the number its `double` stands for.
-/

namespace ChromiumHmos.AuraShell

open Base Lib

def kSameSourceDuplicateEventWindow : TimeDelta := milliseconds 16
def kCrossSourceDuplicateEventWindow : TimeDelta := milliseconds 250
def kCrossSourcePointerSlop : Rat := 4

structure PointerReport where
  pointerType : String
  dispatchSource : String
  action : Int
  pointerId : Int
  button : Int
  x : Rat
  y : Rat
  deltaX : Option Rat := none
  deltaY : Option Rat := none

structure KeyReport where
  dispatchSource : String
  action : Int
  keyCode : Int

structure PointerDispatchRecord where
  report : PointerReport
  time : TimeTicks
  isMatched : Bool

structure KeyDispatchRecord where
  report : KeyReport
  time : TimeTicks
  isMatched : Bool

structure OhosAuraInputRouter where
  focused : Bool := false
  lastPointerType : String := ""
  lastPointerDispatchSource : String := ""
  lastPointerAction : Int := -1
  lastPointerId : Int := -1
  lastPointerButton : Int := -1
  lastPointerX : Rat := 0
  lastPointerY : Rat := 0
  -- A null time is none.
  lastPointerTime : Option TimeTicks := none
  recentPointerEvents : List PointerDispatchRecord := []
  recentKeyEvents : List KeyDispatchRecord := []
  suppressedPointerEvents : Nat := 0
  suppressedKeyEvents : Nat := 0

def mouseButtonsMatch (action first second : Int) : Bool :=
  first == second || (action == 1 && (first < 0 || second < 0))

def discreteMouseEvent (report : PointerReport) : Bool :=
  report.pointerType == "mouse" && (report.action == 0 || report.action == 1 || report.action == 13)

def sameEvent (router : OhosAuraInputRouter) (report : PointerReport) : Bool :=
  report.pointerType == router.lastPointerType && report.action == router.lastPointerAction &&
    report.pointerId == router.lastPointerId &&
    (if report.pointerType = "mouse" then
      mouseButtonsMatch report.action report.button router.lastPointerButton
    else report.button == router.lastPointerButton)

def sameSourceDuplicate (router : OhosAuraInputRouter) (now : TimeTicks) (report : PointerReport) :
    Bool :=
  discreteMouseEvent report && sameEvent router report &&
    report.dispatchSource == router.lastPointerDispatchSource &&
    router.lastPointerTime.any (fun last => now - last <= kSameSourceDuplicateEventWindow) &&
    |report.x - router.lastPointerX| <= 1 && |report.y - router.lastPointerY| <= 1

-- A record and a report of the same event, by all that is recorded of the two.
def pointerAgrees (record report : PointerReport) : Bool :=
  record.pointerType == report.pointerType && record.action == report.action &&
    record.pointerId == report.pointerId &&
    mouseButtonsMatch report.action record.button report.button &&
    |record.x - report.x| <= kCrossSourcePointerSlop &&
    |record.y - report.y| <= kCrossSourcePointerSlop

def pointerFits (report : PointerReport) (record : PointerDispatchRecord) : Bool :=
  !record.isMatched && record.report.dispatchSource != report.dispatchSource &&
    record.report.dispatchSource != "unknown" && pointerAgrees record.report report

def keyAgrees (record report : KeyReport) : Bool :=
  record.action == report.action && record.keyCode == report.keyCode

def keyFits (report : KeyReport) (record : KeyDispatchRecord) : Bool :=
  !record.isMatched && record.report.dispatchSource != report.dispatchSource &&
    record.report.dispatchSource != "unknown" && keyAgrees record.report report

def expired (now time : TimeTicks) : Bool := kCrossSourceDuplicateEventWindow < now - time

def isDuplicatePointerEvent (router : OhosAuraInputRouter) (now : TimeTicks)
    (report : PointerReport) : Bool × OhosAuraInputRouter :=
  let sameSource := sameSourceDuplicate router now report
  let recent := router.recentPointerEvents.dropWhile fun record => expired now record.time
  let (crossSource, recent) :=
    if !sameSource && discreteMouseEvent report && report.dispatchSource != "unknown" then
      match takeNewest (pointerFits report) (fun record => { record with isMatched := true })
        recent with
      | (found, marked) =>
        (found, marked ++ [{ report := report, time := now, isMatched := found }])
    else (false, recent)
  let duplicate := sameSource || crossSource
  (duplicate, { router with
    recentPointerEvents := recent
    lastPointerType := report.pointerType
    lastPointerDispatchSource := report.dispatchSource
    lastPointerAction := report.action
    lastPointerId := report.pointerId
    lastPointerButton := report.button
    lastPointerX := report.x
    lastPointerY := report.y
    lastPointerTime := some now
    suppressedPointerEvents := router.suppressedPointerEvents + (if duplicate then 1 else 0) })

def isDuplicateKeyEvent (router : OhosAuraInputRouter) (now : TimeTicks) (report : KeyReport) :
    Bool × OhosAuraInputRouter :=
  let recent := router.recentKeyEvents.dropWhile fun record => expired now record.time
  let (duplicate, recent) :=
    if report.dispatchSource != "unknown" then
      match takeNewest (keyFits report) (fun record => { record with isMatched := true })
        recent with
      | (found, marked) =>
        (found, marked ++ [{ report := report, time := now, isMatched := found }])
    else (false, recent)
  (duplicate, { router with
    recentKeyEvents := recent
    suppressedKeyEvents := router.suppressedKeyEvents + (if duplicate then 1 else 0) })

def resetPointerState (router : OhosAuraInputRouter) : OhosAuraInputRouter :=
  { router with
    lastPointerType := ""
    lastPointerDispatchSource := ""
    lastPointerAction := -1
    lastPointerId := -1
    lastPointerButton := -1
    lastPointerTime := none
    recentPointerEvents := []
    recentKeyEvents := [] }

/-- What becomes of a report. -/
inductive Outcome
  | malformed
  | suppressed
  | posted
  | reset
  | ignored
deriving DecidableEq

-- `ToTouchEventType`
def isTouchEventType (action : Int) : Bool :=
  action == 0 || action == 1 || action == 2 || action == 3

def pointerOutcome (report : PointerReport) : Outcome :=
  if report.pointerType = "touch" then
    if isTouchEventType report.action then .posted else .ignored
  else if report.pointerType = "wheel" then
    match report.deltaX, report.deltaY with
    | some deltaX, some deltaY => if deltaX = 0 ∧ deltaY = 0 then .ignored else .posted
    | _, _ => .ignored
  else if report.pointerType ≠ "mouse" then .ignored
  else if report.action = 0 ∨ report.action = 1 ∨ report.action = 2 ∨ report.action = 3 then .posted
  else if report.action = 13 then .reset
  else .ignored

def dispatchPointer (router : OhosAuraInputRouter) (now : TimeTicks) (report : PointerReport) :
    Outcome × OhosAuraInputRouter :=
  match isDuplicatePointerEvent router now report with
  | (true, router) => (.suppressed, router)
  | (false, router) =>
    let router :=
      if report.action = 0 ∧ (report.pointerType = "mouse" ∨ report.pointerType = "touch") then
        { router with focused := true }
      else router
    (pointerOutcome report,
      if pointerOutcome report = .reset then resetPointerState router else router)

def dispatchKey (router : OhosAuraInputRouter) (now : TimeTicks) (report : KeyReport) :
    Outcome × OhosAuraInputRouter :=
  match isDuplicateKeyEvent router now report with
  | (true, router) => (.suppressed, router)
  | (false, router) => (.posted, { router with focused := true })

def findNumber (dict : DictValue) (key : String) : Option Rat :=
  match dict.findDouble key with
  | some (.finite value) => some value
  | _ => none

def readPointerReport (density : Rat) (event : DictValue) : Option PointerReport := do
  let action ← event.findInt "action"
  let x ← findNumber event "x"
  let y ← findNumber event "y"
  let pointerType ← event.findString "pointerType"
  let physicalPixels := (event.findBool "physicalPixels").getD false
  let coordinateScale := if !physicalPixels && 0 < density then density else 1
  return {
    pointerType := pointerType
    dispatchSource := (event.findString "dispatchSource").getD "unknown"
    action := action
    pointerId := (event.findInt "pointerId").getD 0
    button := (event.findInt "button").getD (-1)
    x := x * coordinateScale
    y := y * coordinateScale
    deltaX := findNumber event "deltaX"
    deltaY := findNumber event "deltaY" }

def readKeyReport (event : DictValue) : Option KeyReport := do
  let action ← event.findInt "action"
  let keyCode ← event.findInt "keyCode"
  return {
    dispatchSource := (event.findString "dispatchSource").getD "unknown"
    action := action
    keyCode := keyCode }

-- `event` is what the JSON reads as, if it does.
def dispatchPointerEvent (density : Rat) (router : OhosAuraInputRouter) (now : TimeTicks)
    (event : Option DictValue) : Outcome × OhosAuraInputRouter :=
  match event.bind (readPointerReport density) with
  | none => (.malformed, router)
  | some report => dispatchPointer router now report

def dispatchKeyEvent (router : OhosAuraInputRouter) (now : TimeTicks) (event : Option DictValue) :
    Outcome × OhosAuraInputRouter :=
  match event.bind readKeyReport with
  | none => (.malformed, router)
  | some report => dispatchKey router now report

end ChromiumHmos.AuraShell
