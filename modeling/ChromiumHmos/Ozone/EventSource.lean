import ChromiumHmos.Ozone.NativeWindowRegistry

set_option autoImplicit false

/-!
# Input events and the window they are for

Events are posted on the shell's thread and dispatched on the browser's, one at a time.
-/

namespace ChromiumHmos.Ozone

structure Point where
  x : Int := 0
  y : Int := 0

structure PointF where
  x : Rat := 0
  y : Rat := 0
deriving DecidableEq

def roundHalfAway (value : Rat) : Int :=
  if 0 ≤ value then ⌊value + 1 / 2⌋ else ⌈value - 1 / 2⌉

def toRoundedPoint (point : PointF) : Point := ⟨roundHalfAway point.x, roundHalfAway point.y⟩

namespace Rect

def isEmpty (rect : Rect) : Bool := rect.width ≤ 0 ∨ rect.height ≤ 0

def contains (rect : Rect) (point : Point) : Bool :=
  point.x ≥ rect.x ∧ point.x < rect.x + rect.width ∧ point.y ≥ rect.y ∧
    point.y < rect.y + rect.height

end Rect

namespace NativeWindowRegistry

def getLogicalWindowBounds (r : NativeWindowRegistry) (widget : AcceleratedWidget) : Option Rect :=
  (r.logicalWindows[widget]?).map LogicalWindowRecord.bounds

def isPrimaryLogicalWindow (r : NativeWindowRegistry) (widget : AcceleratedWidget) : Bool :=
  match r.widgetBindings[widget]? with
  | none => false
  | some componentId =>
    (r.surfaces[componentId]?).any fun record => record.surface.window ≠ 0 ∧
      (parseAuxiliarySurfaceWidget componentId).isNone

def awaitsOwnSurface (r : NativeWindowRegistry) (widget : AcceleratedWidget)
    (record : LogicalWindowRecord) : Bool :=
  ¬ record.anchored ∧ widget ∈ r.expectedNativeSurfaces ∧ (r.widgetBindings[widget]?).isNone

-- An auxiliary window ranks above the others, then the stacking order counts.
def ranksOver (record target : LogicalWindowRecord) : Bool :=
  if record.auxiliary = target.auxiliary then record.stackingOrder ≥ target.stackingOrder
  else record.auxiliary

def getWidgetAtScreenPoint (r : NativeWindowRegistry) (point : Point) : AcceleratedWidget :=
  let best := r.logicalWindows.toList.foldl (fun best entry =>
    let (widget, record) := entry
    if ¬ record.visible ∨ record.bounds.isEmpty ∨ ¬ record.bounds.contains point ∨
        r.awaitsOwnSurface widget record ∨ ¬ ranksOver record best.2 then best
    else (widget, record)) (kNullAcceleratedWidget, ({} : LogicalWindowRecord))
  if best.1 ≠ kNullAcceleratedWidget then best.1
  else
    let found := r.surfaces.toList.find? fun entry =>
      entry.2.widget ≠ kNullAcceleratedWidget ∧ entry.2.surface.bounds.contains point
    (found.map fun entry => entry.2.widget).getD kNullAcceleratedWidget

end NativeWindowRegistry

inductive EventType
  | mousePressed
  | mouseDragged
  | mouseReleased
  | mouseMoved
  | mouseEntered
  | mouseExited
  | mouseWheel
  | mouseCaptureChanged
  | touchPressed
  | touchMoved
  | touchReleased
  | touchCancelled
  | keyPressed
  | keyReleased
deriving DecidableEq

inductive MouseButton
  | left
  | middle
  | right
  | back
  | forward
deriving DecidableEq

structure Event where
  type : EventType
  -- `pointer_details().id` of a touch.
  pointerId : Int := 0
  location : PointF := {}
  rootLocation : PointF := {}
  -- `button_flags()` and `changed_button_flags()` of a mouse event.
  buttonFlags : Finset MouseButton := ∅
  changedButtonFlags : Finset MouseButton := ∅
  timeStamp : Nat := 0
deriving DecidableEq

namespace Event

def isTouchEvent (event : Event) : Bool :=
  match event.type with
  | .touchPressed | .touchMoved | .touchReleased | .touchCancelled => true
  | _ => false

def isMouseEvent (event : Event) : Bool :=
  match event.type with
  | .mousePressed | .mouseDragged | .mouseReleased | .mouseMoved | .mouseEntered | .mouseExited
  | .mouseWheel | .mouseCaptureChanged => true
  | _ => false

def isLocatedEvent (event : Event) : Bool := event.isTouchEvent || event.isMouseEvent

end Event

structure OhosEventSource where
  dispatchTarget : AcceleratedWidget := kNullAcceleratedWidget
  mouseCapture : AcceleratedWidget := kNullAcceleratedWidget
  -- `touch_captures_`, by pointer id.
  touchCaptures : Int → Option AcceleratedWidget := fun _ => none

namespace OhosEventSource

def targetAtPoint (r : NativeWindowRegistry) (point : Point) (targetHint : AcceleratedWidget) :
    AcceleratedWidget :=
  if targetHint = kNullAcceleratedWidget then r.getWidgetAtScreenPoint point
  else
    match r.getLogicalWindowBounds targetHint with
    | none => r.getWidgetAtScreenPoint point
    | some hintedBounds =>
      let topmost := r.getWidgetAtScreenPoint point
      if hintedBounds.contains point ∧ topmost ≠ kNullAcceleratedWidget ∧
          (topmost = targetHint ∨ ¬ r.isPrimaryLogicalWindow topmost) then topmost
      else targetHint

def keyTarget (r : NativeWindowRegistry) (targetHint : AcceleratedWidget) : AcceleratedWidget :=
  let focused := r.focusedWidget
  if targetHint ≠ kNullAcceleratedWidget ∧ (r.getLogicalWindowBounds targetHint).isSome then
    if focused ≠ kNullAcceleratedWidget ∧ focused ≠ targetHint ∧ ¬ r.isPrimaryLogicalWindow focused
    then focused else targetHint
  else focused

def setTouchCapture (s : OhosEventSource) (pointer : Int) (capture : Option AcceleratedWidget) :
    OhosEventSource :=
  { s with touchCaptures := Function.update s.touchCaptures pointer capture }

-- The capture in force when the event comes, unless its window is gone.
def touchCapture (s : OhosEventSource) (r : NativeWindowRegistry) (event : Event) :
    Option AcceleratedWidget :=
  if event.type = .touchPressed then none
  else (s.touchCaptures event.pointerId).filter fun capture =>
    (r.getLogicalWindowBounds capture).isSome

def resolveTouch (s : OhosEventSource) (r : NativeWindowRegistry) (event : Event)
    (target : AcceleratedWidget) : OhosEventSource × AcceleratedWidget :=
  match s.touchCapture r event with
  | some capture => (s, capture)
  | none =>
    (s.setTouchCapture event.pointerId
      (if event.type = .touchPressed ∧ target ≠ kNullAcceleratedWidget then some target else none),
      target)

def startsNewSequence (event : Event) : Bool :=
  event.type = .mousePressed ∧ event.buttonFlags \ event.changedButtonFlags = ∅

def hasNoActiveButtons (event : Event) : Bool :=
  event.buttonFlags = ∅ ∧ event.type ≠ .mouseReleased

def mouseCaptureAt (s : OhosEventSource) (r : NativeWindowRegistry) (event : Event) :
    AcceleratedWidget :=
  if startsNewSequence event ∨ hasNoActiveButtons event then kNullAcceleratedWidget
  else if s.mouseCapture ≠ kNullAcceleratedWidget ∧
      (r.getLogicalWindowBounds s.mouseCapture).isSome then s.mouseCapture
  else kNullAcceleratedWidget

def resolveMouse (s : OhosEventSource) (r : NativeWindowRegistry) (event : Event)
    (target : AcceleratedWidget) : OhosEventSource × AcceleratedWidget :=
  let capture := s.mouseCaptureAt r event
  if capture ≠ kNullAcceleratedWidget then (s, capture)
  else if event.type = .mousePressed ∧ target ≠ kNullAcceleratedWidget then
    ({ s with mouseCapture := target }, target)
  else ({ s with mouseCapture := kNullAcceleratedWidget }, target)

def resolveDispatchTarget (s : OhosEventSource) (r : NativeWindowRegistry) (event : Event)
    (targetHint : AcceleratedWidget) : OhosEventSource × AcceleratedWidget :=
  let target := targetAtPoint r (toRoundedPoint event.rootLocation) targetHint
  if ¬ event.isLocatedEvent then (s, keyTarget r targetHint)
  else if event.isTouchEvent then s.resolveTouch r event target
  else s.resolveMouse r event target

def releasePointerCaptureAfterDispatch (s : OhosEventSource) (event : Event) : OhosEventSource :=
  match event.type with
  | .touchReleased | .touchCancelled => s.setTouchCapture event.pointerId none
  | .mouseReleased | .mouseCaptureChanged => { s with mouseCapture := kNullAcceleratedWidget }
  | _ => s

-- `ResetPointerCapturesOnEventThread`.
def resetPointerCaptures (s : OhosEventSource) (widget : AcceleratedWidget) : OhosEventSource :=
  if widget = kNullAcceleratedWidget then {}
  else
    { dispatchTarget := if s.dispatchTarget = widget then kNullAcceleratedWidget else s.dispatchTarget
      mouseCapture := if s.mouseCapture = widget then kNullAcceleratedWidget else s.mouseCapture
      touchCaptures := fun pointer =>
        (s.touchCaptures pointer).filter fun capture => capture ≠ widget }

-- The event as its window sees it.
def localized (r : NativeWindowRegistry) (event : Event) (target targetHint : AcceleratedWidget) :
    Event :=
  if ¬ event.isLocatedEvent ∨ target = kNullAcceleratedWidget then event
  else
    match r.getLogicalWindowBounds target with
    | none => event
    | some bounds =>
      let explicit := targetHint ≠ kNullAcceleratedWidget ∧ target = targetHint
      let point : PointF := if r.isPrimaryLogicalWindow target ∨ explicit then event.location
        else ⟨event.rootLocation.x - bounds.x, event.rootLocation.y - bounds.y⟩
      { event with location := point, rootLocation := point }

structure Delivery where
  event : Event
  target : AcceleratedWidget

-- The target is that of the event only while it is dispatched.
def dispatchOwnedEvent (s : OhosEventSource) (r : NativeWindowRegistry) (event : Event)
    (targetHint : AcceleratedWidget) : OhosEventSource × Delivery :=
  let (resolved, target) := s.resolveDispatchTarget r event targetHint
  (resolved.releasePointerCaptureAfterDispatch event,
    ⟨localized r event target targetHint, target⟩)

end OhosEventSource

end ChromiumHmos.Ozone
