import ChromiumHmos.Ozone.NativeWindowRegistry
import ChromiumHmos.Ozone.PhoneGpuPacket

set_option autoImplicit false

/-!
# Colours of shared buffers

`SharedBufferColorState` of `ui/ozone/platform/ohos/ohos_phone_gpu_shared_buffer.cc`: the windows with
HDR buffers in their queue, each kept until its queue is clean.
-/

namespace ChromiumHmos.Ozone.SharedBufferColors

open PhoneGpu (OhosOutputColor OhosOutputMode)

/-- What is asked of the native windows. -/
inductive WindowCall
  | reference (window : Window)
  | unreference (window : Window)
  | cleanCache (window : Window) (done : Bool)
deriving DecidableEq

structure HdrPrepared where
  prepared : Bool
  dirty : Bool
  -- Whether the cache was to be cleaned.
  asked : Bool

-- `OhosHdrBufferState::Prepare`.
def hdrPrepare (dirty : Bool) (color : OhosOutputColor) (idle cleaned : Bool) : HdrPrepared :=
  if color.mode = .hdr10 then { prepared := true, dirty := true, asked := false }
  else if !dirty then { prepared := true, dirty := false, asked := false }
  else if !idle then { prepared := false, dirty := true, asked := false }
  else if !cleaned then { prepared := false, dirty := true, asked := true }
  else { prepared := true, dirty := false, asked := true }

structure WindowState where
  widget : Nat
  dirty : Bool := false

-- `ready` is the allocator's, set once before the fork. The order of `windows` plays no part.
structure SharedBufferColorState where
  windows : List (Window × WindowState) := []
  ready : Bool := true

-- A widget is 64 bits here and 32 in the registry; `referenced` is what a window answers.
def acquireOhosNativeSurfaceForPhoneGpu (registry : NativeWindowRegistry)
    (referenced : Window -> Bool) (widget : Nat) : Option OhosNativeSurface :=
  (registry.get (UInt32.ofNat widget)).filter fun surface =>
    surface.window = 0 || referenced surface.window

-- The reference that came with the surface, given back at once.
def glance (surface : Option OhosNativeSurface) : List WindowCall :=
  match surface with
  | some surface =>
    if surface.window = 0 then [] else [.reference surface.window, .unreference surface.window]
  | none => []

def isCurrent (registry : NativeWindowRegistry) (referenced : Window -> Bool)
    (held : Window × WindowState) : Bool :=
  (acquireOhosNativeSurfaceForPhoneGpu registry referenced held.2.widget).any fun surface =>
    surface.window = held.1

def prune (registry : NativeWindowRegistry) (referenced : Window -> Bool) :
    List (Window × WindowState) -> List (Window × WindowState) × List WindowCall
  | [] => ([], [])
  | held :: rest =>
    let (kept, calls) := prune registry referenced rest
    let glanced :=
      glance (acquireOhosNativeSurfaceForPhoneGpu registry referenced held.2.widget)
    if isCurrent registry referenced held then (held :: kept, glanced ++ calls)
    else (kept, glanced ++ .unreference held.1 :: calls)

def setWindow (target : Window) (state : WindowState) (windows : List (Window × WindowState)) :
    List (Window × WindowState) :=
  windows.map fun held => if held.1 = target then (target, state) else held

def dropWindow (target : Window) (windows : List (Window × WindowState)) :
    List (Window × WindowState) :=
  windows.filter fun held => held.1 ≠ target

structure Prepared where
  prepared : Bool
  colors : SharedBufferColorState
  calls : List WindowCall

-- From where the window's state is found, new or old. `cleaned` is what `CleanCache` answers.
def prepareFound (colors : SharedBufferColorState) (target : Window) (state : WindowState)
    (color : OhosOutputColor) (idle cleaned : Bool) : Prepared :=
  let outcome := hdrPrepare state.dirty color idle cleaned
  let ready := colors.ready && (!outcome.asked || cleaned)
  let asked := if outcome.asked then [WindowCall.cleanCache target cleaned] else []
  if outcome.prepared && !outcome.dirty then
    { prepared := outcome.prepared
      colors := { windows := dropWindow target colors.windows, ready := ready }
      calls := asked ++ [.unreference target] }
  else
    { prepared := outcome.prepared
      colors :=
        { windows := setWindow target { state with dirty := outcome.dirty } colors.windows
          ready := ready }
      calls := asked }

def prepare (colors : SharedBufferColorState) (registry : NativeWindowRegistry)
    (referenced : Window -> Bool) (target : Window) (widget : Nat) (color : OhosOutputColor)
    (idle cleaned : Bool) : Prepared :=
  if target = 0 then { prepared := false, colors := colors, calls := [] }
  else
    match colors.windows.lookup target with
    | some state => prepareFound colors target state color idle cleaned
    | none =>
      if color.mode ≠ .hdr10 then { prepared := true, colors := colors, calls := [] }
      else
        let (kept, calls) := prune registry referenced colors.windows
        let state : WindowState := { widget := widget }
        let outcome := prepareFound { colors with windows := kept ++ [(target, state)] } target
          state color idle cleaned
        { outcome with calls := calls ++ .reference target :: outcome.calls }

def reset (colors : SharedBufferColorState) (registry : NativeWindowRegistry)
    (referenced cleaned : Window -> Bool) : SharedBufferColorState × List WindowCall :=
  let (kept, calls) := prune registry referenced colors.windows
  ({ windows := [], ready := colors.ready && kept.all fun held => cleaned held.1 },
    calls ++ kept.flatMap fun held =>
      [.cleanCache held.1 (cleaned held.1), .unreference held.1])

inductive Event
  | created (window : Window)
  -- By its owner: the object goes once its last reference does.
  | destroyed (window : Window)
  | registry (call : RegistryCall)
  | prepare (target : Window) (widget : Nat) (color : OhosOutputColor) (idle cleaned : Bool)
  | prune
  | reset (cleaned : Window -> Bool)

/-- `referenced` is what the windows answer in this step. -/
structure Label where
  event : Event
  referenced : Window -> Bool

/-- `tainted` are the windows an HDR frame was prepared for since they were made or last cleaned. -/
structure World where
  registry : NativeWindowRegistry := {}
  colors : SharedBufferColorState := {}
  alive : List Window := []
  tainted : Window -> Bool := fun _ => false
  calls : List WindowCall := []

def cleanedIn (calls : List WindowCall) (window : Window) : Bool :=
  calls.any fun call => call = .cleanCache window true

def next (world : World) (label : Label) : World :=
  match label.event with
  | .created window =>
    { world with
      alive := window :: world.alive
      tainted := Function.update world.tainted window false }
  | .destroyed window => { world with alive := world.alive.filter fun other => other ≠ window }
  | .registry call => { world with registry := world.registry.next call }
  | .prepare target widget color idle cleaned =>
    let outcome := prepare world.colors world.registry label.referenced target widget color idle
      cleaned
    { world with
      colors := outcome.colors
      calls := world.calls ++ outcome.calls
      tainted := fun window =>
        if window = target ∧ color.mode = .hdr10 ∧ outcome.prepared then true
        else world.tainted window && !cleanedIn outcome.calls window }
  | .prune =>
    let (kept, calls) := prune world.registry label.referenced world.colors.windows
    { world with
      colors := { world.colors with windows := kept }
      calls := world.calls ++ calls }
  | .reset cleaned =>
    let (colors, calls) := reset world.colors world.registry label.referenced cleaned
    { world with
      colors := colors
      calls := world.calls ++ calls
      tainted := fun window => world.tainted window && !cleanedIn calls window }

/-- A window is prepared while it lives and the allocator is ready, as the channel checks; and a
window referenced here is not made anew. -/
def Allowed (world : World) (label : Label) : Prop :=
  match label.event with
  | .created window =>
    window ∉ world.alive ∧ window ∉ world.colors.windows.map Prod.fst
  | .prepare target _ _ _ _ =>
    world.colors.ready = true ∧ (target = 0 ∨ target ∈ world.alive)
  | _ => True

/-- Whether the step prunes. -/
def Event.prunes (world : World) : Event -> Prop
  | .prune => True
  | .reset _ => True
  | .prepare target _ color _ _ =>
    target ≠ 0 ∧ world.colors.windows.lookup target = none ∧ color.mode = .hdr10
  | _ => False

/-- No living window is pruned: each is still the surface of the widget it was kept under. -/
def Unmoved (world : World) (label : Label) : Prop :=
  label.event.prunes world ->
    forall held, held ∈ world.colors.windows -> held.1 ∈ world.alive ->
      isCurrent world.registry label.referenced held = true

end ChromiumHmos.Ozone.SharedBufferColors
