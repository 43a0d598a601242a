import ChromiumHmos.Lib.OrderedMap
import ChromiumHmos.Lib.Transition

set_option autoImplicit false

namespace ChromiumHmos.Ozone

open Std

abbrev AcceleratedWidget := UInt32

def kNullAcceleratedWidget : AcceleratedWidget := 0

-- A native window pointer: `0` is `nullptr`.
abbrev Window := Nat

structure Rect where
  x : Int := 0
  y : Int := 0
  width : Int := 0
  height : Int := 0
deriving DecidableEq

structure OhosNativeSurface where
  window : Window := 0
  bounds : Rect := {}
  density : Rat := 1
deriving DecidableEq

structure OhosLogicalWindowState where
  widget : AcceleratedWidget := kNullAcceleratedWidget
  bounds : Rect := {}
  visible : Bool := false
  auxiliary : Bool := false
  anchored : Bool := false
  destroyed : Bool := false
  stackingOrder : UInt64 := 0

/-! ## Surfaces the shell makes for one widget -/

def kAuxiliarySurfacePrefix : String := "aura_aux_"
def kPwaSurfacePrefix : String := "aura_pwa_"
def kBrowserSurfacePrefix : String := "aura_win_"

-- Digits only after an optional plus sign, and no overflow.
def stringToUint64 (text : List Char) : Option Nat :=
  let digits := match text with
    | '+' :: rest => rest
    | rest => rest
  if digits = [] ∨ ¬ digits.all Char.isDigit then none
  else
    let value := digits.foldl (fun total digit => total * 10 + (digit.toNat - 48)) 0
    if value < 2 ^ 64 then some value else none

def parseTargetedSurfaceWidget (componentId target : String) : Option AcceleratedWidget :=
  if ¬ target.toList.isPrefixOf componentId.toList then none
  else
    match stringToUint64 (componentId.toList.drop target.toList.length) with
    | none => none
    | some value =>
      if value = 0 ∨ value > UInt32.size - 1 then none else some (UInt32.ofNat value)

def parseAuxiliarySurfaceWidget (componentId : String) : Option AcceleratedWidget :=
  parseTargetedSurfaceWidget componentId kAuxiliarySurfacePrefix

def parsePwaSurfaceWidget (componentId : String) : Option AcceleratedWidget :=
  parseTargetedSurfaceWidget componentId kPwaSurfacePrefix

def parseBrowserSurfaceWidget (componentId : String) : Option AcceleratedWidget :=
  parseTargetedSurfaceWidget componentId kBrowserSurfacePrefix

def ownSurfaceWidget (componentId : String) : Option AcceleratedWidget :=
  match parsePwaSurfaceWidget componentId with
  | some widget => some widget
  | none => parseBrowserSurfaceWidget componentId

def requestedWidget (componentId : String) : Option AcceleratedWidget :=
  match ownSurfaceWidget componentId with
  | some widget => some widget
  | none => parseAuxiliarySurfaceWidget componentId

structure SurfaceRecord where
  surface : OhosNativeSurface := {}
  widget : AcceleratedWidget := kNullAcceleratedWidget
deriving DecidableEq

def SurfaceRecord.free (record : SurfaceRecord) : Bool :=
  record.widget = kNullAcceleratedWidget ∧ record.surface.window ≠ 0

structure LogicalWindowRecord where
  bounds : Rect := {}
  visible : Bool := false
  auxiliary : Bool := false
  anchored : Bool := false
  stackingOrder : UInt64 := 0
  announced : Bool := false
deriving DecidableEq

def makeLogicalWindowState (widget : AcceleratedWidget) (record : LogicalWindowRecord)
    (destroyed : Bool) : OhosLogicalWindowState :=
  { widget, bounds := record.bounds, visible := record.visible, auxiliary := record.auxiliary
    anchored := record.anchored, destroyed, stackingOrder := record.stackingOrder }

structure NativeWindowRegistry where
  surfaces : ExtTreeMap String SurfaceRecord := ∅
  widgetBindings : ExtTreeMap AcceleratedWidget String := ∅
  pendingWidgets : List AcceleratedWidget := []
  expectedNativeSurfaces : ExtTreeSet AcceleratedWidget := ∅
  -- The widgets with a bounds callback.
  boundsCallbacks : ExtTreeSet AcceleratedWidget := ∅
  logicalWindows : ExtTreeMap AcceleratedWidget LogicalWindowRecord := ∅
  focusedWidget : AcceleratedWidget := kNullAcceleratedWidget
  nextStackingOrder : UInt64 := 0
  applicationWindowId : Int := 0
  applicationWindowIds : ExtTreeMap String Int := ∅

-- A bounds callback to run once the lock is released.
structure BoundsRun where
  widget : AcceleratedWidget
  bounds : Rect
  density : Rat

namespace NativeWindowRegistry

def boundsRun (r : NativeWindowRegistry) (record : SurfaceRecord) : Option BoundsRun :=
  if record.widget ≠ kNullAcceleratedWidget ∧ record.widget ∈ r.boundsCallbacks then
    some ⟨record.widget, record.surface.bounds, record.surface.density⟩
  else none

def store (r : NativeWindowRegistry) (componentId : String) (record : SurfaceRecord) :
    NativeWindowRegistry :=
  { r with surfaces := r.surfaces.insert componentId record }

def assign (r : NativeWindowRegistry) (componentId : String) (record : SurfaceRecord)
    (widget : AcceleratedWidget) : NativeWindowRegistry :=
  { r with
    surfaces := r.surfaces.insert componentId { record with widget := widget }
    widgetBindings := r.widgetBindings.insert widget componentId }

def registerFree (r : NativeWindowRegistry) (componentId : String) (record : SurfaceRecord) :
    NativeWindowRegistry :=
  match requestedWidget componentId with
  | some requested =>
    match r.logicalWindows[requested]? with
    | none => r.store componentId record
    | some logical =>
      if requested ∈ r.pendingWidgets ∧ logical.auxiliary then
        let r := { r with pendingWidgets := r.pendingWidgets.erase requested }
        let r := r.assign componentId record requested
        if (ownSurfaceWidget componentId).isSome then
          let logical := { logical with auxiliary := false, announced := true }
          { r with logicalWindows := r.logicalWindows.insert requested logical }
        else r
      else r.store componentId record
  | none =>
    match r.pendingWidgets with
    | [] => r.store componentId record
    | front :: rest => { r with pendingWidgets := rest }.assign componentId record front

def register (r : NativeWindowRegistry) (componentId : String) (window : Window) (bounds : Rect)
    (density : Rat) : NativeWindowRegistry × Option BoundsRun :=
  let found := (r.surfaces[componentId]?).getD {}
  let record := { found with surface := ⟨window, bounds, density⟩ }
  let r := if record.widget ≠ kNullAcceleratedWidget then r.store componentId record
    else r.registerFree componentId record
  (r, (r.surfaces[componentId]?).bind r.boundsRun)

def update (r : NativeWindowRegistry) (componentId : String) (window : Window) (bounds : Rect)
    (density : Rat) : NativeWindowRegistry × Option BoundsRun :=
  match r.surfaces[componentId]? with
  | none => (r, none)
  | some record =>
    if window ≠ 0 ∧ record.surface.window ≠ window then (r, none)
    else
      let record := { record with surface := ⟨record.surface.window, bounds, density⟩ }
      (r.store componentId record,
        if record.widget ∈ r.boundsCallbacks then some ⟨record.widget, bounds, density⟩ else none)

-- A bound record outlives its window, so that a waiting popup cannot take the replacement.
def unregister (r : NativeWindowRegistry) (componentId : String) (window : Window) :
    NativeWindowRegistry :=
  match r.surfaces[componentId]? with
  | none => r
  | some record =>
    if window ≠ 0 ∧ record.surface.window ≠ window then r
    else if record.widget ≠ kNullAcceleratedWidget then
      let surface := { record.surface with window := 0, bounds := {} }
      r.store componentId { record with surface := surface }
    else { r with surfaces := r.surfaces.erase componentId }

def boundSurface (r : NativeWindowRegistry) (widget : AcceleratedWidget) : Option SurfaceRecord :=
  match r.widgetBindings[widget]? with
  | none => none
  | some componentId => r.surfaces[componentId]?

def bind (r : NativeWindowRegistry) (widget : AcceleratedWidget) :
    NativeWindowRegistry × Option OhosNativeSurface :=
  match r.boundSurface widget with
  | some record => (r, some record.surface)
  | none =>
    match r.surfaces.toList.find? fun entry => SurfaceRecord.free entry.2 with
    | some (componentId, record) => (r.assign componentId record widget, some record.surface)
    | none =>
      (if widget ∈ r.pendingWidgets then r
        else { r with pendingWidgets := r.pendingWidgets ++ [widget] }, none)

def releaseSurface (r : NativeWindowRegistry) (componentId : String) : NativeWindowRegistry :=
  match r.surfaces[componentId]? with
  | none => r
  | some record =>
    if record.surface.window = 0 then { r with surfaces := r.surfaces.erase componentId }
    else r.store componentId { record with widget := kNullAcceleratedWidget }

def unbindSurface (r : NativeWindowRegistry) (widget : AcceleratedWidget) : NativeWindowRegistry :=
  match r.widgetBindings[widget]? with
  | none => r
  | some componentId =>
    { r.releaseSurface componentId with widgetBindings := r.widgetBindings.erase widget }

def unbind (r : NativeWindowRegistry) (widget : AcceleratedWidget) : NativeWindowRegistry :=
  let r := r.unbindSurface widget
  { r with
    pendingWidgets := r.pendingWidgets.filter fun pending => pending ≠ widget
    expectedNativeSurfaces := r.expectedNativeSurfaces.erase widget
    boundsCallbacks := r.boundsCallbacks.erase widget }

def get (r : NativeWindowRegistry) (widget : AcceleratedWidget) : Option OhosNativeSurface :=
  (r.boundSurface widget).map SurfaceRecord.surface

def expectSurface (r : NativeWindowRegistry) (widget : AcceleratedWidget) : NativeWindowRegistry :=
  if widget = kNullAcceleratedWidget then r
  else { r with expectedNativeSurfaces := r.expectedNativeSurfaces.insert widget }

def isAnchored (r : NativeWindowRegistry) (widget : AcceleratedWidget) : Bool :=
  ((r.logicalWindows[widget]?).map LogicalWindowRecord.anchored).getD false

def registerLogicalWindow (r : NativeWindowRegistry) (widget : AcceleratedWidget) (bounds : Rect)
    (anchored : Bool) : NativeWindowRegistry :=
  if widget = kNullAcceleratedWidget then r
  else
    let order := r.nextStackingOrder + 1
    let unbound := (r.widgetBindings[widget]?).isNone
    { r with
      nextStackingOrder := order
      logicalWindows := r.logicalWindows.insert widget
        { bounds, visible := false, auxiliary := unbound, anchored, stackingOrder := order
          announced := unbound } }

def unregisterLogicalWindow (r : NativeWindowRegistry) (widget : AcceleratedWidget) :
    NativeWindowRegistry × Option OhosLogicalWindowState :=
  let state := match r.logicalWindows[widget]? with
    | some record => if record.announced then some (makeLogicalWindowState widget record true) else none
    | none => none
  ({ r with
      logicalWindows := r.logicalWindows.erase widget
      focusedWidget := if r.focusedWidget = widget then kNullAcceleratedWidget else r.focusedWidget },
    state)

def setBoundsCallback (r : NativeWindowRegistry) (widget : AcceleratedWidget) (present : Bool) :
    NativeWindowRegistry × Option BoundsRun :=
  if present then
    ({ r with boundsCallbacks := r.boundsCallbacks.insert widget },
      (r.boundSurface widget).map fun record =>
        ⟨widget, record.surface.bounds, record.surface.density⟩)
  else ({ r with boundsCallbacks := r.boundsCallbacks.erase widget }, none)

def setApplicationWindowId (r : NativeWindowRegistry) (windowId : Int) : NativeWindowRegistry :=
  if windowId ≤ 0 then r else { r with applicationWindowId := windowId }

def setApplicationWindowIdForComponent (r : NativeWindowRegistry) (componentId : String)
    (windowId : Int) : NativeWindowRegistry :=
  if componentId = "" ∨ windowId ≤ 0 then r
  else
    { r with
      applicationWindowIds := r.applicationWindowIds.insert componentId windowId
      applicationWindowId :=
        if componentId = "aura_shell" ∨ r.applicationWindowId ≤ 0 then windowId
        else r.applicationWindowId }

end NativeWindowRegistry

inductive RegistryCall
  | register (componentId : String) (window : Window) (bounds : Rect) (density : Rat)
  | update (componentId : String) (window : Window) (bounds : Rect) (density : Rat)
  | unregister (componentId : String) (window : Window)
  | bind (widget : AcceleratedWidget)
  | unbind (widget : AcceleratedWidget)
  | expectSurface (widget : AcceleratedWidget)
  | registerLogicalWindow (widget : AcceleratedWidget) (bounds : Rect) (anchored : Bool)
  | unregisterLogicalWindow (widget : AcceleratedWidget)
  | setBoundsCallback (widget : AcceleratedWidget) (present : Bool)
  | setApplicationWindowId (windowId : Int)
  | setApplicationWindowIdForComponent (componentId : String) (windowId : Int)

namespace NativeWindowRegistry

def next (r : NativeWindowRegistry) : RegistryCall → NativeWindowRegistry
  | .register componentId window bounds density => (r.register componentId window bounds density).1
  | .update componentId window bounds density => (r.update componentId window bounds density).1
  | .unregister componentId window => r.unregister componentId window
  | .bind widget => (r.bind widget).1
  | .unbind widget => r.unbind widget
  | .expectSurface widget => r.expectSurface widget
  | .registerLogicalWindow widget bounds anchored => r.registerLogicalWindow widget bounds anchored
  | .unregisterLogicalWindow widget => (r.unregisterLogicalWindow widget).1
  | .setBoundsCallback widget present => (r.setBoundsCallback widget present).1
  | .setApplicationWindowId windowId => r.setApplicationWindowId windowId
  | .setApplicationWindowIdForComponent componentId windowId =>
    r.setApplicationWindowIdForComponent componentId windowId

def run (calls : List RegistryCall) : NativeWindowRegistry := calls.foldl next {}

end NativeWindowRegistry

end ChromiumHmos.Ozone
