import ChromiumHmos.Ozone.NativeWindowRegistry

set_option autoImplicit false

/-!
# The GPU process as a native child

The browser's side of the channel to the GPU child, the child's mirror of the window registry,
and the launch that replaces one child by the next.
-/

namespace ChromiumHmos.Ozone

open Std

structure OhosGpuChildWidgetState where
  widget : AcceleratedWidget := kNullAcceleratedWidget
  window : Window := 0
  bounds : Rect := {}
  density : Rat := 1
  anchored : Bool := false
  expected : Bool := false
  applicationWindowId : Int := 0

namespace NativeWindowRegistry

def snapshotWidgets (r : NativeWindowRegistry) : ExtTreeSet AcceleratedWidget :=
  (r.expectedNativeSurfaces.insertMany r.widgetBindings.keys).insertMany r.logicalWindows.keys

def applicationWindowIdFor (r : NativeWindowRegistry) (componentId : String) : Int :=
  (r.applicationWindowIds[componentId]?).getD r.applicationWindowId

def gpuChildWidgetState (r : NativeWindowRegistry) (widget : AcceleratedWidget) :
    OhosGpuChildWidgetState :=
  let surface := ((r.boundSurface widget).map SurfaceRecord.surface).getD {}
  { widget
    window := surface.window
    bounds := surface.bounds
    density := surface.density
    anchored := r.isAnchored widget
    expected := widget ∈ r.expectedNativeSurfaces
    applicationWindowId :=
      match r.widgetBindings[widget]? with
      | some componentId => r.applicationWindowIdFor componentId
      | none => r.applicationWindowId }

def snapshotForGpuChild (r : NativeWindowRegistry) : List OhosGpuChildWidgetState :=
  r.snapshotWidgets.toList.map r.gpuChildWidgetState

end NativeWindowRegistry

def sameState (a b : OhosGpuChildWidgetState) : Bool :=
  a.window = b.window ∧ a.bounds = b.bounds ∧ a.density = b.density ∧ a.anchored = b.anchored ∧
    a.expected = b.expected ∧ a.applicationWindowId = b.applicationWindowId

structure MirrorRecord where
  -- `surface.window` is the child's window, named by the browser window it was read from.
  surface : OhosNativeSurface := {}
  browserWindow : Window := 0
  anchored : Bool := false
  expected : Bool := false
  applicationWindowId : Int := 0
deriving DecidableEq

abbrev Mirror := ExtTreeMap AcceleratedWidget MirrorRecord

structure ChildSide where
  -- The generation of the bootstrap, of a child that may report capabilities.
  outputGeneration : Option Nat := none
  mirror : Mirror := ∅

structure WidgetMessage where
  state : OhosGpuChildWidgetState
  present : Bool
  hasWindow : Bool

def writeWidgetState (state : OhosGpuChildWidgetState) (present windowChanged : Bool) :
    WidgetMessage :=
  { state, present, hasWindow := present && windowChanged && state.window ≠ 0 }

-- `readable`: whether the parcel yields a window where it carries one.
def handleWidgetState (mirror : Mirror) (message : WidgetMessage) (readable : Bool) : Mirror :=
  let state := message.state
  if ¬ message.present then mirror.erase state.widget
  else
    let record := (mirror[state.widget]?).getD {}
    let window := if state.window = 0 then 0
      else if message.hasWindow && readable then state.window
      else record.surface.window
    mirror.insert state.widget
      { surface := ⟨window, state.bounds, state.density⟩
        browserWindow := state.window
        anchored := state.anchored
        expected := state.expected
        applicationWindowId := state.applicationWindowId }

/-- What becomes of one request: whether the child handles it, reads its window, and answers. -/
structure Delivery where
  handled : Bool
  readable : Bool
  answered : Bool

-- A parcel that cannot be written and a request that fails are logged, and nothing else.
def sendWidgetState (mirror : Mirror) (state : OhosGpuChildWidgetState)
    (present windowChanged : Bool) (delivery : Delivery) : Mirror :=
  if delivery.handled then
    handleWidgetState mirror (writeWidgetState state present windowChanged) delivery.readable
  else mirror

abbrev ChildId := Nat

structure DeathRecipient where
  child : ChildId
  generation : Nat
deriving DecidableEq

structure Output where
  hdr : Bool
  p3 : Bool
  -- Who reported it, which the browser does not keep.
  reporter : ChildId
deriving DecidableEq

structure BrowserSide where
  outputGeneration : Nat := 0
  outputFailed : Bool := false
  deathRecipient : Option DeathRecipient := none
  proxy : Option ChildId := none
  sent : ExtTreeMap AcceleratedWidget OhosGpuChildWidgetState := ∅

/-- The local variables of `StartGpuChild`, from one wait to the next. -/
inductive Launch
  | idle
  | starting (generation : Nat) (wantsVulkan : Bool)
  | bootstrapped (child : ChildId) (generation : Nat) (wantsVulkan : Bool)
  | observed (child : ChildId) (recipient : Option DeathRecipient)
  | installed (oldProxy : Option ChildId) (oldRecipient : Option DeathRecipient)

structure GpuChannel where
  registry : NativeWindowRegistry := {}
  side : BrowserSide := {}
  -- `wsi_outputs`: the capabilities in force.
  outputs : ExtTreeMap AcceleratedWidget Output := ∅
  launch : Launch := .idle
  children : ChildId → ChildSide := fun _ => {}
  nextChild : ChildId := 1
  dead : ChildId → Bool := fun _ => false
  -- The recipients the system will call when their child dies.
  observers : List DeathRecipient := []

namespace GpuChannel

def resetOhosVerifiedWsiOutputs (c : GpuChannel) : GpuChannel := { c with outputs := ∅ }

def setOhosVerifiedWsiOutput (c : GpuChannel) (widget : AcceleratedWidget) (hdr p3 : Bool)
    (reporter : ChildId) : GpuChannel :=
  if hdr || p3 then { c with outputs := c.outputs.insert widget ⟨hdr, p3, reporter⟩ }
  else { c with outputs := c.outputs.erase widget }

-- The values are those of the parcel; `reporter` is not in it.
def onOutputCapabilities (c : GpuChannel) (reporter : ChildId) (generation widget hdr p3 : Int) :
    GpuChannel × Bool :=
  if (hdr ≠ 0 ∧ hdr ≠ 1) ∨ (p3 ≠ 0 ∧ p3 ≠ 1) then (c, false)
  else if generation ≤ 0 ∨ generation ≠ c.side.outputGeneration then (c, false)
  else if widget = 0 ∧ hdr = 0 ∧ p3 = 0 then
    ({ c with side := { c.side with outputFailed := true } }.resetOhosVerifiedWsiOutputs, true)
  else
    let key := UInt32.ofInt widget
    if (hdr ≠ 0 ∨ p3 ≠ 0) ∧ (c.side.outputFailed ∨ c.side.deathRecipient = none ∨
        c.registry.get key = none ∨ c.registry.isAnchored key) then (c, false)
    else (c.setOhosVerifiedWsiOutput key (hdr ≠ 0) (p3 ≠ 0) reporter, true)

def onGpuOutputDied (c : GpuChannel) (generation : Nat) : GpuChannel :=
  if generation = c.side.outputGeneration then
    let side := { c.side with
      outputGeneration := c.side.outputGeneration + 1, outputFailed := true }
    { c with side }.resetOhosVerifiedWsiOutputs
  else c

def updateMirror (c : GpuChannel) (child : ChildId) (mirror : Mirror) : GpuChannel :=
  let record := { c.children child with mirror }
  { c with children := Function.update c.children child record }

def forwardPresent (sent : ExtTreeMap AcceleratedWidget OhosGpuChildWidgetState)
    (deliver : AcceleratedWidget → Delivery) (mirror : Mirror) (state : OhosGpuChildWidgetState) :
    Mirror :=
  match sent[state.widget]? with
  | none => sendWidgetState mirror state true true (deliver state.widget)
  | some old =>
    if sameState old state then mirror
    else sendWidgetState mirror state true (old.window ≠ state.window) (deliver state.widget)

def forwardAbsent (now : ExtTreeMap AcceleratedWidget OhosGpuChildWidgetState)
    (deliver : AcceleratedWidget → Delivery) (mirror : Mirror)
    (entry : AcceleratedWidget × OhosGpuChildWidgetState) : Mirror :=
  if entry.1 ∈ now then mirror
  else sendWidgetState mirror entry.2 false false (deliver entry.1)

-- One request a widget at most, so the outcome of a forward is one delivery for each widget.
def forwardOhosSurfacesToGpuChild (c : GpuChannel) (deliver : AcceleratedWidget → Delivery) :
    GpuChannel :=
  match c.side.proxy with
  | none => c
  | some child =>
    let states := c.registry.snapshotForGpuChild
    let now := states.foldl (fun map state => map.insert state.widget state) ∅
    let mirror := states.foldl (forwardPresent c.side.sent deliver) (c.children child).mirror
    let mirror := c.side.sent.toList.foldl (forwardAbsent now deliver) mirror
    let c := c.updateMirror child mirror
    { c with side := { c.side with sent := now } }

def startGpuChild (c : GpuChannel) (wantsVulkan : Bool) : GpuChannel :=
  let generation := c.side.outputGeneration + 1
  let side := { c.side with outputGeneration := generation, outputFailed := false }
  { c with side, launch := .starting generation wantsVulkan }.resetOhosVerifiedWsiOutputs

-- Refused by the system, no answer, or an error.
def startFailed (c : GpuChannel) : GpuChannel := { c with launch := .idle }

-- `handled`: whether the new child gets its bootstrap. `answered`: whether its pid comes back.
def sendBootstrap (c : GpuChannel) (handled answered : Bool) : GpuChannel :=
  match c.launch with
  | .starting generation wantsVulkan =>
    let child := c.nextChild
    let record : ChildSide :=
      { outputGeneration := if handled && wantsVulkan then some generation else none }
    { c with
      nextChild := child + 1
      children := Function.update c.children child record
      launch := if handled && answered then .bootstrapped child generation wantsVulkan else .idle }
  | _ => c

def observeDeath (c : GpuChannel) (added : Bool) : GpuChannel :=
  match c.launch with
  | .bootstrapped child generation wantsVulkan =>
    if wantsVulkan && added then
      let recipient : DeathRecipient := ⟨child, generation⟩
      { c with observers := recipient :: c.observers, launch := .observed child (some recipient) }
    else { c with launch := .observed child none }
  | _ => c

def installChild (c : GpuChannel) : GpuChannel :=
  match c.launch with
  | .observed child recipient =>
    let side := { c.side with proxy := some child, deathRecipient := recipient, sent := ∅ }
    { c with side, launch := .installed c.side.proxy c.side.deathRecipient }
  | _ => c

def retireChild (c : GpuChannel) : GpuChannel :=
  match c.launch with
  | .installed (some _) (some recipient) =>
    { c with observers := c.observers.erase recipient, launch := .idle }
  | .installed _ _ => { c with launch := .idle }
  | _ => c

end GpuChannel

inductive ChannelEvent
  | registry (call : RegistryCall)
  | forward (deliver : AcceleratedWidget → Delivery)
  | start (wantsVulkan : Bool)
  | startFailed
  | bootstrap (handled answered : Bool)
  | observe (added : Bool)
  | install
  | retire
  | report (child : ChildId) (widget hdr p3 : Int)
  | die (child : ChildId)
  | notify (recipient : DeathRecipient)

namespace GpuChannel

def next (c : GpuChannel) : ChannelEvent → GpuChannel
  | .registry call => { c with registry := c.registry.next call }
  | .forward deliver => c.forwardOhosSurfacesToGpuChild deliver
  | .start wantsVulkan => c.startGpuChild wantsVulkan
  | .startFailed => c.startFailed
  | .bootstrap handled answered => c.sendBootstrap handled answered
  | .observe added => c.observeDeath added
  | .install => c.installChild
  | .retire => c.retireChild
  | .report child widget hdr p3 =>
    match (c.children child).outputGeneration with
    | none => c
    | some generation => (c.onOutputCapabilities child generation widget hdr p3).1
  | .die child => { c with dead := Function.update c.dead child true }
  | .notify recipient =>
    { c with observers := c.observers.erase recipient }.onGpuOutputDied recipient.generation

/-- One launch at a time, in its own order; a recipient is called once, after its child died. -/
def permitted (c : GpuChannel) : ChannelEvent → Prop
  | .start _ => c.launch = .idle
  | .startFailed | .bootstrap _ _ =>
    ∃ generation wantsVulkan, c.launch = .starting generation wantsVulkan
  | .observe _ => ∃ child generation wantsVulkan, c.launch = .bootstrapped child generation wantsVulkan
  | .install => ∃ child recipient, c.launch = .observed child recipient
  | .retire => ∃ oldProxy oldRecipient, c.launch = .installed oldProxy oldRecipient
  | .notify recipient => recipient ∈ c.observers ∧ c.dead recipient.child
  | .registry _ | .forward _ | .report _ _ _ _ | .die _ => True

def step : GpuChannel → ChannelEvent → GpuChannel → Prop := Transition.guarded permitted next

def run (events : List ChannelEvent) : GpuChannel := events.foldl next {}

end GpuChannel

end ChromiumHmos.Ozone
