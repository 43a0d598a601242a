import ChromiumHmos.Ozone.NativeWindowRegistry
import ChromiumHmos.Ozone.PhoneGpuPacket

set_option autoImplicit false

/-!
# The browser's end of the phone GPU channel

Each GPU generation has a connection with a receiver thread. A request is one step: it is handled
under the lock that serializes presentation with the replacement of a generation.
-/

namespace ChromiumHmos.Ozone.PhoneGpu

open Base

/-- What a native buffer writes to a parcel, and its configuration. -/
structure NativeParcel where
  header : ParcelHeader
  width : Int
  height : Int
  format : Int
  -- The descriptors that can be read.
  fds : List Nat
  tail : Bytes

-- A lease that was granted: the reply that carried it, and its window.
structure Pending where
  packet : SharedPacket
  window : Window
deriving DecidableEq

structure ColorState where
  color : OhosOutputColor
  generation : Nat
  window : Window
deriving DecidableEq

def encode (p : SharedPacket) (parcel : Option NativeParcel) : Option SharedMessage :=
  let nativeFormat :=
    if p.operation = .image then getElem p.header 8 lt8 else OhosOutputNativeFormat p.color
  match parcel with
  | none => none
  | some parcel =>
    let v := parcel.header
    if getElem v 1 lt1 ≠ 1 ∨ getElem v 2 lt2 ≥ kSharedMaxFds - 1 ∨ getElem v 3 lt3 > 256 ∨
        parcel.width ≠ p.width ∨ parcel.height ≠ p.height ∨ parcel.format ≠ nativeFormat ∨
        getElem v 4 lt4 ≠ p.width ∨ getElem v 6 lt6 ≠ p.height ∨ getElem v 8 lt8 ≠ nativeFormat ∨
        getElem v 13 lt13 ≠ 1 ∨ parcel.fds.length < getElem v 2 lt2 + 1 ∨
        parcel.tail.length > sharedTailSize ∨
        (parcel.tail.length ≠ getElem v 3 lt3 * 4 ∧ parcel.tail.length ≠ getElem v 3 lt3 * 4 + 20) then none
    else
      let p := { p with
        header := v, fdCount := getElem v 2 lt2 + 1, tailBytes := parcel.tail.length, tail := parcel.tail }
      let fds := parcel.fds.take (getElem v 2 lt2 + 1)
      if ValidSharedPacket p fds.length then some ⟨p, fds⟩ else none

-- `AllocateSharedImage`: `parcel` of the buffer it allocates.
def allocateSharedImage (ready : Bool) (request : SharedPacket) (parcel : Option NativeParcel) :
    Option SharedMessage :=
  if ¬ ready ∨ ¬ IsSharedImageFormat (getElem request.header 8 lt8) then none
  else
    let image : SharedPacket :=
      { operation := .allocateImage, sequence := request.sequence, widget := request.widget
        width := request.width, height := request.height
        header := Vector.set (Vector.replicate 14 0) 8 (getElem request.header 8 lt8) lt8 }
    if ¬ ValidSharedPacket image 0 then none else encode { image with operation := .image } parcel

inductive RequestBuffer
  | noBuffer
  | failed
  | buffer (fence : Option Nat)

structure AcquireAnswers where
  -- Format, usage, geometry and timeout are set.
  options : Bool := true
  request : RequestBuffer
  parcel : Option NativeParcel
  -- `SetOhosBufferOutputColor`.
  colored : Bool := true

inductive AcquireResult
  | acquired (message : SharedMessage)
  | unavailable
  | failed (requested : Bool)

-- `requested`: a buffer was taken and is given back.
def acquireBuffer (ready : Bool) (p : SharedPacket) (a : AcquireAnswers) : AcquireResult :=
  if ¬ ready ∨ ¬ a.options then .failed false
  else
    match a.request with
    | .noBuffer => .unavailable
    | .failed => .failed false
    | .buffer fence =>
      match (encode p a.parcel).filter fun _ => a.colored with
      | none => .failed true
      | some m =>
        match fence with
        | none => .acquired m
        | some fence => .acquired ⟨{ m.packet with hasFence := 1 }, m.fds ++ [fence]⟩

inductive ReceiverPhase
  | waiting
  | serving
  -- Out of the loop, not yet retired.
  | leaving
  | retired
deriving DecidableEq

structure Connection where
  predecessor : Option Nat := none
  active : Bool := true
  presented : Bool := false
  vulkanRequested : Bool := false
  graphiteRequested : Bool := false
  colorRetry : Bool := false
  glColorRequested : Bool := false
  phase : ReceiverPhase := .waiting
  lastSequence : Nat := 0
  -- In the order of their ids.
  leases : List Pending := []
  overlayWidgets : List Nat := []
  -- The windows with HDR buffers in their queues, and the widget each was seen under.
  hdrWindows : List (Window × Nat) := []
  colors : Nat → Option ColorState := fun _ => none

inductive Resolution
  | presented
  | cancelled
  | discarded
  | aborted
deriving DecidableEq

inductive Touch
  | requestBuffer (window : Window)
  -- What the registry knew of the widget, and the request it was flushed for.
  | flush (lease : Pending) (request : SharedPacket) (surface : OhosNativeSurface)
      (color : Option ColorState)
  | abort (window : Window)
  | draw (window : Window)
  -- The lease is given back without being shown.
  | detach (lease : Pending)
deriving DecidableEq

inductive ChannelEvent
  | started (connection : Nat)
  -- A use of a window's buffers, and the connection that was current.
  | touched (connection : Nat) (current : Option Nat) (touch : Touch)
  | granted (connection : Nat) (lease : Pending) (surface : OhosNativeSurface)
  | resolved (connection lease : Nat) (how : Resolution)
  | replied (connection : Nat) (request reply : SharedPacket) (count : Nat)
  | retired (connection : Nat)
deriving DecidableEq

structure Browser where
  connections : List Connection := []
  current : Option Nat := none
  vulkanFailed : Bool := false
  graphiteFailed : Bool := false
  allocatorReady : Bool := true
  outputColorFailed : Bool := false
  registry : NativeWindowRegistry := {}
  log : List ChannelEvent := []

/-- What the system answers while a request is handled. -/
structure RequestAnswers where
  -- `api->connect` of the overlay host, where it gives a descriptor.
  overlayFd : Option Nat := none
  allocation : Option NativeParcel := none
  -- A reference of the window was taken.
  referenced : Bool := true
  -- The registry after the wait for a surface, where there is one.
  waited : Option NativeWindowRegistry := none
  hdrDisplay : Bool := false
  displayId : Nat := 0
  p3Display : Bool := false
  acquire : AcquireAnswers := { request := .failed, parcel := none }
  cleaned : Bool := true
  flushed : Bool := true
  aborted : Bool := true
  detached : Nat → Bool := fun _ => true
  timing : Option (Int × Int) := none

namespace Connection

def lease (conn : Connection) (id : Nat) : Option Pending :=
  conn.leases.find? fun pending => pending.packet.lease = id

def erase (conn : Connection) (id : Nat) : Connection :=
  { conn with leases := conn.leases.filter fun pending => pending.packet.lease ≠ id }

def noPending (conn : Connection) (widget : Nat) : Bool :=
  conn.leases.all fun pending => pending.packet.widget ≠ widget

def setColor (conn : Connection) (widget : Nat) (state : ColorState) : Connection :=
  { conn with colors := Function.update conn.colors widget (some state) }

end Connection

namespace Browser

-- A widget is 64 bits on the channel and 32 in the registry.
def surface (s : Browser) (widget : Nat) : Option OhosNativeSurface :=
  s.registry.get (UInt32.ofNat widget)

-- `AcquireOhosNativeSurfaceForPhoneGpu`.
def acquireSurface (s : Browser) (widget : Nat) (referenced : Bool) : Option OhosNativeSurface :=
  (s.surface widget).filter fun surface => surface.window = 0 ∨ referenced

def note (s : Browser) (event : ChannelEvent) : Browser := { s with log := s.log ++ [event] }

def touch (s : Browser) (connection : Nat) (touch : Touch) : Browser :=
  s.note (.touched connection s.current touch)

def setConnection (s : Browser) (c : Nat) (conn : Connection) : Browser :=
  { s with connections := s.connections.set c conn }

-- `~SharedBufferLease` of a lease that was not resolved.
def detachLease (s : Browser) (c : Nat) (lease : Pending) (detached : Bool) : Browser :=
  { s with allocatorReady := s.allocatorReady && detached }.touch c (.detach lease)

def prune (s : Browser) (windows : List (Window × Nat)) : List (Window × Nat) :=
  windows.filter fun entry => (s.surface entry.2).any fun surface => surface.window = entry.1

-- `SharedBufferColorState::Prepare`: the windows kept, whether it succeeds, whether the allocator
-- is still ready.
def prepare (s : Browser) (conn : Connection) (window : Window) (widget : Nat)
    (color : OhosOutputColor) (idle cleaned : Bool) : List (Window × Nat) × Bool × Bool :=
  if window = 0 then (conn.hdrWindows, false, true)
  else if conn.hdrWindows.any fun entry => entry.1 = window then
    if color.mode = .hdr10 then (conn.hdrWindows, true, true)
    else if ¬ idle then (conn.hdrWindows, false, true)
    else if cleaned then (conn.hdrWindows.filter fun entry => entry.1 ≠ window, true, true)
    else (conn.hdrWindows, false, false)
  else if color.mode = .hdr10 then (s.prune conn.hdrWindows ++ [(window, widget)], true, true)
  else (conn.hdrWindows, true, true)

structure Handled where
  browser : Browser
  connection : Connection
  response : SharedMessage

-- The reply every request starts with.
def startReply (p : SharedPacket) : SharedPacket :=
  { sequence := p.sequence, widget := p.widget, lease := p.lease, operation := .reply
    result := Result.failed.code }

-- A reply made anew, for an allocation that failed.
def unavailableReply (p : SharedPacket) (result : Result) : SharedPacket :=
  { sequence := p.sequence, widget := p.widget, operation := .unavailable, result := result.code }

def answer (s : Browser) (conn : Connection) (p : SharedPacket) (result : Result) : Handled :=
  ⟨s, conn, ⟨{ startReply p with result := result.code }, []⟩⟩

def openOverlayChannel (s : Browser) (conn : Connection) (p : SharedPacket) (a : RequestAnswers) :
    Handled :=
  match (s.registry.widgetBindings[UInt32.ofNat p.widget]?).bind fun _ => a.overlayFd with
  | none => ⟨s, conn, ⟨{ startReply p with operation := .unavailable }, []⟩⟩
  | some fd =>
    ⟨s, { conn with overlayWidgets := p.widget :: conn.overlayWidgets },
      ⟨{ startReply p with operation := .overlayChannel, fdCount := 1 }, [fd]⟩⟩

def allocateImage (s : Browser) (conn : Connection) (p : SharedPacket) (a : RequestAnswers) :
    Handled :=
  match allocateSharedImage s.allocatorReady p a.allocation with
  | some m => ⟨s, conn, m⟩
  | none => ⟨s, conn, ⟨unavailableReply p .failed, []⟩⟩

def colorValid (conn : Connection) (p : SharedPacket) (surface : OhosNativeSurface) (probe : Bool) :
    Bool :=
  if probe then conn.noPending p.widget
  else
    match conn.colors p.widget with
    | none => p.colorGeneration = 0
    | some active =>
      p.colorGeneration ≠ 0 ∧ active.generation = p.colorGeneration ∧
        (active.color = p.color ∨ (conn.noPending p.widget ∧ active.color.mode = .hdr10 ∧
          p.color.mode = .hdr10)) ∧
        active.window = surface.window

def hdrValid (s : Browser) (p : SharedPacket) (probe : Bool) (a : RequestAnswers) : Bool :=
  p.color.mode = .sdr8 ∨ ¬ probe ∨
    (¬ s.outputColorFailed ∧ (p.color.mode ≠ .hdr10 ∨ a.hdrDisplay))

def gamutValid (p : SharedPacket) (probe : Bool) (a : RequestAnswers) : Bool :=
  ¬ probe ∨ p.color.mode ≠ .p3Sdr10 ∨ a.p3Display

def allocates (s : Browser) (conn : Connection) (p : SharedPacket) (surface : OhosNativeSurface)
    (probe : Bool) : Bool :=
  let w := surface.bounds.width
  let h := surface.bounds.height
  conn.leases.length < 4 ∧ s.allocatorReady ∧ w > 0 ∧ h > 0 ∧ w ≤ 8192 ∧ h ≤ 8192 ∧
    w * h * 4 ≤ kMaxFrameBytes ∧ (probe ∨ (w = p.width ∧ h = p.height))

-- The packet of the buffer, before its parcel is known.
def bufferReply (p : SharedPacket) (surface : OhosNativeSurface) (probe : Bool) : SharedPacket :=
  { startReply p with
    operation := .buffer
    result := Result.dropped.code
    width := if probe then surface.bounds.width.toNat else p.width
    height := if probe then surface.bounds.height.toNat else p.height
    color := p.color
    colorGeneration := if probe then p.sequence else p.colorGeneration
    lease := p.sequence }

-- What is left of a failed acquisition: the buffer is given back, then there is no lease.
def giveBack (s : Browser) (c : Nat) (p : SharedPacket) (window : Window) (a : RequestAnswers) :
    Browser :=
  let s := s.touch c (.abort window)
  let s := if a.aborted then s
    else s.detachLease c ⟨p, window⟩ (a.detached p.lease)
  { s with allocatorReady := s.allocatorReady && p.color.mode ≠ .sdr8 }

def refuseBuffer (s : Browser) (conn : Connection) (p : SharedPacket) (retry : Bool) : Handled :=
  let failed := ¬ retry ∧ p.color.mode ≠ .sdr8 ∧ p.color.mode ≠ .p3Sdr10
  let s := { s with outputColorFailed := s.outputColorFailed || failed }
  let result : Result := if retry then .dropped
    else if p.color.mode ≠ .sdr8 ∨ ¬ s.allocatorReady then .failed else .dropped
  ⟨s, conn, ⟨unavailableReply p result, []⟩⟩

def takeBuffer (s : Browser) (c : Nat) (conn : Connection) (p : SharedPacket)
    (surface : OhosNativeSurface) (probe : Bool) (a : RequestAnswers) : Handled :=
  let window := surface.window
  let reply := bufferReply p surface probe
  let (hdrWindows, prepared, clean) :=
    s.prepare conn window p.widget p.color (conn.noPending p.widget) a.cleaned
  let s := { s with allocatorReady := s.allocatorReady && clean }
  let conn := { conn with hdrWindows }
  if ¬ prepared then s.refuseBuffer conn p false
  else
    let requested := s.allocatorReady ∧ a.acquire.options
    let result := acquireBuffer s.allocatorReady reply a.acquire
    let s := if requested then s.touch c (.requestBuffer window) else s
    match result with
    | .acquired m =>
      let conn := if probe ∨ p.colorGeneration ≠ 0 then
          conn.setColor p.widget ⟨p.color, reply.colorGeneration, window⟩ else conn
      let lease : Pending := ⟨m.packet, window⟩
      ⟨s.note (.granted c lease surface), { conn with leases := conn.leases ++ [lease] }, m⟩
    | .unavailable => s.refuseBuffer conn p (¬ probe)
    | .failed requested =>
      (if requested then s.giveBack c reply window a else s).refuseBuffer conn p false

-- A color probe waits once for a surface that is expected; the registry may change meanwhile.
def waitSurface (s : Browser) (p : SharedPacket) (a : RequestAnswers) : Browser :=
  let missing := (s.acquireSurface p.widget a.referenced).all fun surface => surface.window = 0
  if missing ∧ p.operation = .colorProbe ∧
      UInt32.ofNat p.widget ∈ s.registry.expectedNativeSurfaces then
    { s with registry := a.waited.getD s.registry }
  else s

def acquire (s : Browser) (c : Nat) (conn : Connection) (p : SharedPacket) (a : RequestAnswers) :
    Handled :=
  let probe := p.operation = .colorProbe
  let first : Result := if s.allocatorReady then .dropped else .failed
  let s := s.waitSurface p a
  let refuse (result : Result) : Handled :=
    ⟨s, conn, ⟨{ startReply p with operation := .unavailable, result := result.code }, []⟩⟩
  match (s.acquireSurface p.widget a.referenced).filter fun surface => surface.window ≠ 0 with
  | none => refuse first
  | some surface =>
    let sdrOnlyProbe := probe ∧ p.color.mode ≠ .sdr8 ∧ s.registry.isAnchored (UInt32.ofNat p.widget)
    let valid := colorValid conn p surface probe ∧ s.hdrValid p probe a ∧ gamutValid p probe a
    if sdrOnlyProbe then refuse first
    else if ¬ valid then refuse .failed
    else if ¬ s.allocates conn p surface probe then refuse first
    else s.takeBuffer c conn p surface probe a

-- Whether the lease is still what the registry and the color of the output say.
def leaseCurrent (conn : Connection) (p : SharedPacket) (lease : Pending)
    (surface : OhosNativeSurface) : Bool :=
  (p.colorGeneration = 0 ∨
      (conn.colors p.widget).any fun active => active.generation = p.colorGeneration) ∧
    p.color = lease.packet.color ∧ p.colorGeneration = lease.packet.colorGeneration ∧
    surface.window = lease.window ∧ surface.bounds.width = lease.packet.width ∧
    surface.bounds.height = lease.packet.height

-- The lease leaves the map; its destructor gives back what was not resolved.
def resolveLease (s : Browser) (c : Nat) (conn : Connection) (lease : Pending) (how : Resolution)
    (done : Bool) (a : RequestAnswers) : Browser × Connection :=
  let id := lease.packet.lease
  let s := if done then s else s.detachLease c lease (a.detached id)
  (s.note (.resolved c id how), conn.erase id)

def presentLease (s : Browser) (c : Nat) (conn : Connection) (p : SharedPacket) (lease : Pending)
    (a : RequestAnswers) : Handled :=
  match (s.acquireSurface p.widget a.referenced).filter fun surface =>
      leaseCurrent conn p lease surface with
  | none =>
    let (s, conn) := s.resolveLease c conn lease .discarded false a
    s.answer conn p .dropped
  | some surface =>
    let s := s.touch c (.flush lease p surface (conn.colors p.widget))
    if a.flushed then
      let (s, conn) := s.resolveLease c conn lease .presented true a
      s.answer { conn with presented := true } p .presented
    else
      let (s, conn) := s.resolveLease c conn lease .discarded false a
      s.answer conn p .failed

def resolve (s : Browser) (c : Nat) (conn : Connection) (p : SharedPacket) (a : RequestAnswers) :
    Option Handled :=
  match (conn.lease p.lease).filter fun lease => lease.packet.widget = p.widget with
  | none => none
  | some lease =>
    if p.operation = .cancel then
      let s := s.touch c (.abort lease.window)
      let (s, conn) := s.resolveLease c conn lease .cancelled a.aborted a
      some (s.answer conn p .dropped)
    else if p.operation = .discard then
      let (s, conn) := s.resolveLease c conn lease .discarded false a
      some (s.answer conn p .dropped)
    else some (s.presentLease c conn p lease a)

def colorReady (s : Browser) (conn : Connection) (p : SharedPacket) : Handled :=
  let ready := (conn.glColorRequested ∨
      ((conn.vulkanRequested ∨ conn.graphiteRequested) ∧ ¬ s.vulkanFailed)) ∧
    ¬ s.outputColorFailed ∧
    (conn.colors p.widget).any fun found =>
      found.generation = p.colorGeneration ∧ found.color = p.color
  s.answer conn p (if ready then .presented else .failed)

-- None where the loop is left.
def handle (s : Browser) (c : Nat) (conn : Connection) (p : SharedPacket) (a : RequestAnswers) :
    Option Handled :=
  match p.operation with
  | .openOverlayChannel => some (s.openOverlayChannel conn p a)
  | .overlayPresented =>
    if p.widget ∈ conn.overlayWidgets then
      some (s.answer { conn with presented := true } p .presented)
    else none
  | .allocateImage => some (s.allocateImage conn p a)
  | .acquire | .colorProbe => some (s.acquire c conn p a)
  | .present | .cancel | .discard => s.resolve c conn p a
  | .colorReady => some (s.colorReady conn p)
  | .hdrDisplayQuery =>
    some ⟨s, conn, ⟨{ startReply p with
      operation := .hdrDisplayState
      displayId := a.displayId
      result := (if a.hdrDisplay then Result.presented else .dropped).code }, []⟩⟩
  | .glColorState =>
    if ¬ s.outputColorFailed ∧ s.allocatorReady then
      some (s.answer { conn with glColorRequested := true } p .presented)
    else some (s.answer conn p .dropped)
  | .graphiteState =>
    if ¬ s.graphiteFailed ∧ ¬ s.vulkanFailed ∧ s.allocatorReady then
      some (s.answer { conn with graphiteRequested := true } p .presented)
    else some (s.answer conn p .dropped)
  | .vulkanState =>
    if ¬ s.vulkanFailed ∧ s.allocatorReady then
      some (s.answer { conn with vulkanRequested := true } p .presented)
    else some (s.answer conn p .dropped)
  | .colorFailed =>
    some ({ s with outputColorFailed := true }.answer { conn with colorRetry := true } p .dropped)
  | .vulkanFailed => some ({ s with vulkanFailed := true }.answer conn p .dropped)
  | .timing => some (s.answer conn p .dropped)
  | .buffer | .reply | .unavailable | .hdrDisplayState | .image | .overlayChannel | .other _ => none

def timed (p : SharedPacket) (timing : Option (Int × Int)) : SharedPacket :=
  match timing with
  | none => p
  | some (timebase, interval) => { p with timebaseUs := timebase, intervalUs := interval }

def leave (s : Browser) (c : Nat) (conn : Connection) : Browser :=
  s.setConnection c { conn with phase := .leaving }

-- `sent`: the socket takes the reply.
def receiveRequest (s : Browser) (c : Nat) (conn : Connection) (m : SharedMessage)
    (a : RequestAnswers) (sent : Bool) : Browser :=
  let p := m.packet
  if ¬ ValidSharedPacket p m.fds.length ∨ p.sequence ≤ conn.lastSequence then s.leave c conn
  else
    let conn := { conn with lastSequence := p.sequence }
    if s.current ≠ some c ∨ ¬ conn.active then s.leave c conn
    else
      match s.handle c conn p a with
      | none => s.leave c conn
      | some h =>
        let reply := timed h.response.packet a.timing
        let count := h.response.fds.length
        let s := h.browser.note (.replied c p reply count)
        if ValidSharedPacket reply count ∧ sent then s.setConnection c h.connection
        else s.leave c h.connection

structure Frame where
  width : Nat
  height : Nat
  widget : Nat
  sequence : Nat

-- A frame read back: `read` its pixels, `presented` whether the window took them.
def receiveFrame (s : Browser) (c : Nat) (conn : Connection) (frame : Frame)
    (referenced read presented sent : Bool) : Browser :=
  if frame.sequence ≤ conn.lastSequence then s.leave c conn
  else
    let conn := { conn with lastSequence := frame.sequence }
    if s.current ≠ some c ∨ ¬ conn.active then s.leave c conn
    else
      let drawn := (s.acquireSurface frame.widget referenced).filter fun surface =>
        decide (surface.window ≠ 0 ∧ surface.bounds.width = (frame.width : Int) ∧
          surface.bounds.height = (frame.height : Int)) && read
      let s := match drawn with
        | none => s
        | some surface => s.touch c (.draw surface.window)
      let conn := { conn with presented := conn.presented || (drawn.isSome && presented) }
      if sent then s.setConnection c conn else s.leave c conn

-- After the loop, under the lock.
def retire (s : Browser) (c : Nat) (conn : Connection) (detached : Nat → Bool) (cleaned : Bool) :
    Browser :=
  let s := { s with
    graphiteFailed := s.graphiteFailed || conn.graphiteRequested
    vulkanFailed := s.vulkanFailed ||
      (!conn.graphiteRequested && conn.vulkanRequested && !conn.colorRetry)
    outputColorFailed := s.outputColorFailed || (conn.glColorRequested && !conn.colorRetry) }
  let s := conn.leases.foldl (fun s lease =>
    (s.detachLease c lease (detached lease.packet.lease)).note
      (.resolved c lease.packet.lease .aborted)) s
  let s := { s with
    allocatorReady := s.allocatorReady && (cleaned || (s.prune conn.hdrWindows).isEmpty) }
  (s.setConnection c
    { conn with leases := [], hdrWindows := [], active := false, phase := .retired }).note
    (.retired c)

def launch (s : Browser) : Browser :=
  let fresh := s.connections.length
  match s.current.bind fun c => (s.connections[c]?).map fun conn => (c, conn) with
  | none => { s with connections := s.connections ++ [{}], current := some fresh }
  | some (c, conn) =>
    { s with
      connections := s.connections.set c { conn with active := false } ++
        [{ predecessor := some c }]
      current := some fresh
      graphiteFailed := s.graphiteFailed || conn.graphiteRequested
      vulkanFailed := s.vulkanFailed ||
        (!conn.graphiteRequested && conn.vulkanRequested && !conn.colorRetry)
      outputColorFailed := s.outputColorFailed || (conn.glColorRequested && !conn.colorRetry) }

end Browser

inductive ChannelOp
  | launch
  | start (connection : Nat)
  | request (connection : Nat) (message : SharedMessage) (answers : RequestAnswers) (sent : Bool)
  | frame (connection : Nat) (frame : Browser.Frame) (referenced read presented sent : Bool)
  | prune (connection : Nat)
  -- The socket is lost, or the loop finds its connection inactive.
  | leave (connection : Nat)
  | retire (connection : Nat) (detached : Nat → Bool) (cleaned : Bool)
  | registry (after : NativeWindowRegistry)
  | outputColorFailed

namespace Browser

def next (s : Browser) : ChannelOp → Browser
  | .launch => s.launch
  | .start c =>
    match s.connections[c]? with
    | none => s
    | some conn => (s.setConnection c { conn with phase := .serving }).note (.started c)
  | .request c message answers sent =>
    match s.connections[c]? with
    | none => s
    | some conn => s.receiveRequest c conn message answers sent
  | .frame c frame referenced read presented sent =>
    match s.connections[c]? with
    | none => s
    | some conn => s.receiveFrame c conn frame referenced read presented sent
  | .prune c =>
    match s.connections[c]? with
    | none => s
    | some conn => s.setConnection c { conn with hdrWindows := s.prune conn.hdrWindows }
  | .leave c =>
    match s.connections[c]? with
    | none => s
    | some conn => s.leave c conn
  | .retire c detached cleaned =>
    match s.connections[c]? with
    | none => s
    | some conn => s.retire c conn detached cleaned
  | .registry after => { s with registry := after }
  | .outputColorFailed => { s with outputColorFailed := true }

def inPhase (s : Browser) (c : Nat) (phase : ReceiverPhase) : Prop :=
  ∃ conn, s.connections[c]? = some conn ∧ conn.phase = phase

/-- A receiver waits for its predecessor to retire, serves, leaves its loop and retires. -/
def permitted (s : Browser) : ChannelOp → Prop
  | .launch | .registry _ | .outputColorFailed => True
  | .start c => ∃ conn, s.connections[c]? = some conn ∧ conn.phase = .waiting ∧
      ∀ older, conn.predecessor = some older → s.inPhase older .retired
  | .request c .. | .frame c .. | .prune c | .leave c => s.inPhase c .serving
  | .retire c .. => s.inPhase c .leaving

def step : Browser → ChannelOp → Browser → Prop := Transition.guarded permitted next

end Browser

end ChromiumHmos.Ozone.PhoneGpu
