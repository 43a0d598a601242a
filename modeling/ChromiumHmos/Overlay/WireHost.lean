import ChromiumHmos.Overlay.SessionLeases
import ChromiumHmos.Overlay.Transport

set_option autoImplicit false

/-!
# Overlay host

The browser side of the channel, with the bridge to its session. A tick is cut wherever it reads or
writes what the IPC thread or the kernel shares with it, so that a connection or a reply of the
other side can fall between any two of its steps.
-/

namespace ChromiumHmos.Overlay

open Base

structure HostChannel where
  active : Option Nat := none
  pending : Option Nat := none
  stopped : Bool := false

namespace HostChannel

-- `lost` is what `poll` says of a socket.
def connects (c : HostChannel) (lost : Nat → Bool) : Bool :=
  !(c.stopped || (c.active.any fun socket => !lost socket) ||
    (c.pending.any fun socket => !lost socket))

-- `socket` is the end `socketpair` leaves here.
def connect (c : HostChannel) (socket : Nat) : HostChannel := { c with pending := some socket }

def activate (c : HostChannel) : HostChannel :=
  if c.stopped ∨ c.active.isSome then c
  else { c with active := c.pending, pending := none }

def peerLost (c : HostChannel) (lost : Nat → Bool) : Bool := c.active.any lost

def disconnect (c : HostChannel) : HostChannel := { c with active := none }

def stop (c : HostChannel) : HostChannel := { c with stopped := true, pending := none }

end HostChannel

structure Parcel where
  header : ParcelHeader
  fds : List Nat
  tail : Bytes

structure NativeImport where
  native : Nat
  width : Nat
  height : Nat
  format : Nat
  -- `OH_NativeBuffer_SetColorSpace` succeeds.
  colored : Bool := true

-- A decoder buffer the browser registered under a token.
structure RegisteredVideo where
  native : Nat
  flags : Nat
  -- `OH_NativeBuffer_Reference` succeeds.
  referenced : Bool := true

structure Converted where
  allocationId : Nat
  -- The duplicate of the acquire fence, where there is one.
  fence : Nat := 0
  format : Format
  width : Nat
  height : Nat
  color : Color := {}

/-- What the system libraries answer while a frame is submitted. -/
structure SubmitAnswers where
  readParcel : Parcel → Option NativeImport
  videos : Nat → Option RegisteredVideo
  -- What the bridge reads of a buffer, from its flags and its fence; none where it refuses.
  convert : Nat → Nat → Option Nat → Option Converted

structure HostBuffer where
  native : Nat
  content : Nat
  color : Nat
  videoFlags : Option Nat := none

structure Lease where
  sequence : Nat
  plane : Nat
  -- Not in the source: the channel its frame came on.
  channel : Nat

-- A reply, with the channel of the frame it is about.
structure Reply where
  packet : WirePacket
  channel : Nat

structure Arrival where
  message : WireMessage
  channel : Nat

inductive HostEvent
  | connected (channel : Nat)
  | activated (channel : Nat)
  -- The descriptors the kernel handed over, and those closed.
  | took (fds : List Nat)
  | dropped (fds : List Nat)
  | received (arrival : Arrival)
  | queued (reply : Reply)
  | wrote (channel : Nat) (reply : Reply)
  | destroyed (state : State)
  | freed

inductive TickPhase
  | idle
  | peer
  | session
  | retire
  | recreate
  | activate
  | sending
  | receiving
  | submitting
  -- `uv_close` was called: its callback deletes the host.
  | uvClosing
  | freed
deriving DecidableEq

structure WireHost (W : Type) where
  host : Host W
  channel : HostChannel := {}
  -- In the map of the hosts, where the IPC thread finds it.
  registered : Bool := true
  detached : Bool := false
  closing : Bool := false
  processed : Bool := true
  sequence : Nat := 0
  pending : Option Arrival := none
  outgoing : List Reply := []
  current : Nat → Option HostBuffer := fun _ => none
  videoToken : Nat := 0
  -- The lease contexts made so far; a read lease names its own by its place.
  leases : List Lease := []
  phase : TickPhase := .idle
  -- Not in the source: how many sockets there have been, and the channel of the last frame.
  sockets : Nat := 0
  origin : Nat := 0
  log : List HostEvent := []

def maxReplies : Nat := 64

def SubmitResult.code : SubmitResult → Nat
  | .accepted => 0
  | .unsupported => 1
  | .busy => 2
  | .prepareFailed => 3
  | .closed => 4

namespace WireMessage

def parcel (m : WireMessage) (isVideo : Bool) : Parcel :=
  let p := m.packet
  if isVideo then
    ⟨p.videoHeader, (m.fds.drop p.fdCount).take p.videoFdCount, p.videoTail.take p.videoTailBytes⟩
  else ⟨p.header, m.fds.take p.fdCount, p.tail.take p.tailBytes⟩

-- The fences follow the parcels, each there if its plane says so.
def primaryFence (m : WireMessage) : Option Nat :=
  if m.packet.primary.hasFence ≠ 0 then m.fds[m.packet.fdCount + m.packet.videoFdCount]? else none

def videoFence (m : WireMessage) : Option Nat :=
  let fd := m.packet.fdCount + m.packet.videoFdCount
  let fd := if m.packet.primary.hasFence ≠ 0 then fd + 1 else fd
  if m.packet.video.hasFence ≠ 0 then m.fds[fd]? else none

end WireMessage

namespace WireHost

variable {W P : Type} (backend : Backend W P)

def note (s : WireHost W) (event : HostEvent) : WireHost W := { s with log := s.log ++ [event] }

-- The message goes with its descriptors.
def dropPending (s : WireHost W) : WireHost W :=
  { s with
    pending := none
    log := s.log ++ s.pending.toList.map fun arrival => .dropped arrival.message.fds }

def disconnect (s : WireHost W) : WireHost W :=
  { s.dropPending with
    channel := s.channel.disconnect
    closing := true
    outgoing := []
    current := fun _ => none }

def push (s : WireHost W) (reply : Reply) : WireHost W :=
  { s with outgoing := s.outgoing ++ [reply] }.note (.queued reply)

def reply (s : WireHost W) (operation : WireOp) (channel sequence plane result : Nat) :
    WireHost W :=
  if s.channel.active = none then s
  else if s.outgoing.length ≥ maxReplies then s.disconnect
  else s.push ⟨{ operation, sequence, plane, result }, channel⟩

-- `Release`: the read lease of this context is gone.
def release (s : WireHost W) (object : Nat) : WireHost W :=
  match s.leases[object]? with
  | none => s
  | some lease => s.reply .released lease.channel lease.sequence lease.plane 0

theorem reply_keeps {inv : WireHost W -> Prop} {s : WireHost W} (holds : inv s)
    (operation : WireOp) (channel sequence plane result : Nat) (overflows : inv s.disconnect)
    (queues : ∀ socket, s.channel.active = some socket -> s.outgoing.length < maxReplies ->
      inv (s.push ⟨{ operation, sequence, plane, result }, channel⟩)) :
    inv (s.reply operation channel sequence plane result) := by
  unfold reply
  split
  · exact holds
  next open_ =>
    split
    · exact overflows
    next room =>
      obtain ⟨socket, active⟩ := Option.ne_none_iff_exists'.mp open_
      exact queues socket active (Nat.lt_of_not_le room)

/-- A call of the session, and then the releases of the leases it destroyed. -/
def runSession (s : WireHost W) (step : Session.Step W) : WireHost W :=
  (destroyedObjects step.effects).foldl release { s with host := s.host.apply step }

def importParcel (s : WireHost W) (a : SubmitAnswers) (m : WireMessage) (isVideo : Bool) :
    Option HostBuffer :=
  let plane := if isVideo then m.packet.video else m.packet.primary
  let color := if isVideo then m.packet.videoColor else 1
  if plane.reuse ≠ 0 then
    (s.current (if isVideo then 1 else 0)).filter fun previous =>
      previous.content = plane.content ∧ previous.color = color
  else
    let parcel := m.parcel isVideo
    match a.readParcel parcel with
    | none => none
    | some result =>
      if result.native = 0 ∨ result.width ≠ getElem parcel.header 4 lt4 ∨
          result.height ≠ getElem parcel.header 6 lt6 ∨ result.format ≠ getElem parcel.header 8 lt8 ∨
          ¬ result.colored then none
      else some { native := result.native, content := plane.content, color }

def getVideo (s : WireHost W) (a : SubmitAnswers) (p : WirePacket) : Option HostBuffer :=
  if p.video.reuse ≠ 0 then
    if s.videoToken = p.videoToken then
      (s.current 1).filter fun buffer => buffer.content = p.video.content
    else none
  else
    match a.videos p.videoToken with
    | none => none
    | some video =>
      if ¬ video.referenced then none
      else some
        { native := video.native, content := p.video.content, color := 0
          videoFlags := some video.flags }

def primaryBuffer (s : WireHost W) (a : SubmitAnswers) (m : WireMessage) : Option HostBuffer :=
  s.importParcel a m false

def videoBuffer (s : WireHost W) (a : SubmitAnswers) (m : WireMessage) : Option HostBuffer :=
  if m.packet.hasVideo = 0 then none
  else if m.packet.videoColor ≠ 0 then s.importParcel a m true
  else s.getVideo a m.packet

-- `OHOS_OVERLAY_REUSE_CONTENT` is 2, `OHOS_OVERLAY_SDR_TAGS_PRISTINE` is 1.
def bridgeFlags (buffer : HostBuffer) (wire : WirePlane) : Nat :=
  (if wire.reuse ≠ 0 then 2 else 0) ||| buffer.videoFlags.getD 1

-- The host's conversion of a plane and the bridge's.
def convert (a : SubmitAnswers) (buffer : HostBuffer) (wire : WirePlane) (fence : Option Nat)
    (object : Nat) : Option Plane :=
  (a.convert buffer.native (bridgeFlags buffer wire) fence).map fun c =>
    { lease := some
        { object, allocationId := c.allocationId, nativeBuffer := buffer.native
          acquireFence := if fence.isSome then c.fence else -1 }
      reuse := wire.reuse ≠ 0
      format := c.format
      width := c.width
      height := c.height
      source := wire.source
      destination := wire.destination
      color := c.color }

-- The frame of `OhosOverlaySubmit`, once both its planes are converted.
def bridgeFrame (a : SubmitAnswers) (m : WireMessage) (primary : HostBuffer)
    (video : Option HostBuffer) (object : Nat) : Option Frame :=
  match convert a primary m.packet.primary m.primaryFence object with
  | none => none
  | some primary =>
    let hole := decide (m.packet.hasVideo ≠ 0)
    match video with
    | none => some { primary, primaryHasVideoHole := hole }
    | some video =>
      (convert a video m.packet.video m.videoFence (object + 1)).map fun video =>
        { primary, video := some video, primaryHasVideoHole := hole }

-- A lease context for each plane of the frame.
def newLeases (s : WireHost W) (arrival : Arrival) (video : Option HostBuffer) : WireHost W :=
  let sequence := arrival.message.packet.sequence
  let first : Lease := ⟨sequence, 0, arrival.channel⟩
  let second : Option Lease := video.map fun _ => ⟨sequence, 1, arrival.channel⟩
  { s with leases := s.leases ++ first :: second.toList }

-- A session never destroys a lease in the call that takes it, so none of the releases is of these.
def offer (s : WireHost W) (a : SubmitAnswers) (arrival : Arrival) (primary : HostBuffer)
    (video : Option HostBuffer) : WireHost W × SubmitResult :=
  match bridgeFrame a arrival.message primary video s.leases.length with
  | none => (s.newLeases arrival video, .unsupported)
  | some frame =>
    let submitted := s.host.session.submit backend s.host.world frame
    ((s.newLeases arrival video).runSession submitted.step, submitted.result)

def takeFrame (s : WireHost W) (arrival : Arrival) (primary : HostBuffer)
    (video : Option HostBuffer) : WireHost W :=
  let p := arrival.message.packet
  { s with
    current := Function.update (Function.update s.current 0 (some primary)) 1 video
    videoToken := p.videoToken
    processed := false }.reply .accepted arrival.channel p.sequence 0 0

def refuseFrame (s : WireHost W) (arrival : Arrival) (result : SubmitResult) : WireHost W :=
  s.reply .rejected arrival.channel arrival.message.packet.sequence 0 result.code

-- A busy session leaves the frame pending, for the next tick.
def submitArrival (s : WireHost W) (a : SubmitAnswers) (arrival : Arrival) : WireHost W :=
  let video := s.videoBuffer a arrival.message
  match s.primaryBuffer a arrival.message with
  | none => (s.refuseFrame arrival .unsupported).dropPending
  | some primary =>
    if arrival.message.packet.hasVideo ≠ 0 ∧ video = none then
      (s.refuseFrame arrival .unsupported).dropPending
    else
      let (s, result) := s.offer backend a arrival primary video
      match result with
      | .accepted => (s.takeFrame arrival primary video).dropPending
      | .busy => s
      | result => (s.refuseFrame arrival result).dropPending

def submit (s : WireHost W) (a : SubmitAnswers) : WireHost W :=
  match s.pending with
  | none => { s with phase := .idle }
  | some arrival => { s.submitArrival backend a arrival with phase := .idle }

-- The flag is read under the mutex `Connect` is refused under, so none falls behind the read.
def enter (s : WireHost W) : WireHost W :=
  if s.detached then { { s with channel := s.channel.stop }.disconnect with phase := .peer }
  else { s with phase := .peer }

def losePeer (s : WireHost W) (lost : Nat → Bool) : WireHost W :=
  if s.channel.peerLost lost then { s.disconnect with phase := .session }
  else { s with phase := .session }

def closeSession (s : WireHost W) : WireHost W :=
  if s.closing then
    let s : WireHost W := { s.dropPending with current := fun _ => none }
    s.runSession (s.host.session.close backend s.host.world)
  else s

def noteProcessed (s : WireHost W) : WireHost W :=
  if ¬ s.processed ∧ backend.commandsProcessed s.host.world s.host.session.lastSubmission then
    { s.reply .processed s.origin s.sequence 0 0 with processed := true }
  else s

def pollSession (s : WireHost W) : WireHost W :=
  let s := s.closeSession backend
  let s := s.runSession (s.host.session.poll backend s.host.world)
  let s := s.noteProcessed backend
  if s.closing then
    { s with phase := if s.host.session.state = .closed then .retire else .idle }
  else { s with phase := .activate }

def retire (s : WireHost W) : WireHost W :=
  { s with channel := s.channel.disconnect, phase := .recreate }.note
    (.destroyed s.host.session.state)

-- Off the map; what is left is torn down when the timer's handle has closed.
def leave (s : WireHost W) : WireHost W :=
  { s with channel := s.channel.stop, registered := false, phase := .uvClosing }

-- Under the mutex of the map.
def recreate (s : WireHost W) (created : Option W) : WireHost W :=
  if s.detached then s.leave
  else
    match created with
    | none => s.leave
    | some world =>
      { s with
        host := .start 4 world
        closing := false
        processed := true
        sequence := 0
        videoToken := 0
        outgoing := []
        phase := .idle }

def activate (s : WireHost W) : WireHost W :=
  let channel := s.channel.activate
  let s : WireHost W :=
    match s.channel.active, channel.active with
    | none, some socket => { s with channel }.note (.activated socket)
    | _, _ => { s with channel }
  { s with phase := if channel.active = none then .idle else .sending }

def send (s : WireHost W) (answer : SendAnswer) : WireHost W :=
  match s.outgoing, s.channel.active with
  | [], _ =>
    { s with
      phase := if ¬ s.processed then .idle
        else if s.pending.isSome then .submitting else .receiving }
  | _ :: _, none => { s with phase := .idle }
  | reply :: rest, some socket =>
    match SendWireMessage ⟨reply.packet, []⟩ answer with
    | none => { s with outgoing := rest }.note (.wrote socket reply)
    | some .again => { s with phase := .idle }
    | some _ => { s.disconnect with phase := .idle }

-- A message the host keeps no longer: its descriptors are closed with it.
def discard (s : WireHost W) (m : WireMessage) : WireHost W :=
  { s.disconnect.note (.dropped m.fds) with phase := .idle }

def takeMessage (s : WireHost W) (socket : Nat) (m : WireMessage) : WireHost W :=
  if m.packet.sequence ≤ s.sequence then s.discard m
  else
    let s := { s with sequence := m.packet.sequence, origin := socket }
    match m.packet.operation with
    | .frame =>
      { s with pending := some ⟨m, socket⟩, phase := .submitting }.note (.received ⟨m, socket⟩)
    | _ => s.discard m

-- The descriptors `recvmsg` brought.
def brought : ReceiveAnswer → List Nat
  | .datagram d => d.received
  | _ => []

def receive (s : WireHost W) (answer : ReceiveAnswer) : WireHost W :=
  match s.channel.active with
  | none => { s with phase := .idle }
  | some socket =>
    let got := ReceiveWireMessage {} answer
    let s := (s.note (.took (brought answer))).note (.dropped got.closed)
    match got.error with
    | some .again => { s with phase := .idle }
    | some _ => { s.disconnect with phase := .idle }
    | none => s.takeMessage socket got.message

-- `~Host`.
def free (s : WireHost W) : WireHost W :=
  { s.dropPending with channel := s.channel.stop.disconnect, outgoing := [], phase := .freed }.note
    .freed

-- `made`: whether `socketpair` succeeds.
def connect (s : WireHost W) (lost : Nat → Bool) (made : Bool) : WireHost W :=
  if ¬ s.registered ∨ s.detached ∨ ¬ s.channel.connects lost ∨ ¬ made then s
  else
    { s with channel := s.channel.connect s.sockets, sockets := s.sockets + 1 }.note
      (.connected s.sockets)

def detach (s : WireHost W) : WireHost W :=
  if s.registered then { s with detached := true } else s

end WireHost

inductive WireHostOp (W : Type)
  | connect (lost : Nat → Bool) (made : Bool)
  | detach
  -- What the render service, the fences and the producers do.
  | world (after : W)
  | enter
  | losePeer (lost : Nat → Bool)
  | pollSession
  | retire
  | recreate (created : Option W)
  | activate
  | send (answer : SendAnswer)
  | receive (answer : ReceiveAnswer)
  | submit (answers : SubmitAnswers)
  | free

namespace WireHost

variable {W P : Type} (backend : Backend W P)

def next (s : WireHost W) : WireHostOp W → WireHost W
  | .connect lost made => s.connect lost made
  | .detach => s.detach
  | .world after => { s with host := { s.host with world := after } }
  | .enter => s.enter
  | .losePeer lost => s.losePeer lost
  | .pollSession => s.pollSession backend
  | .retire => s.retire
  | .recreate created => s.recreate created
  | .activate => s.activate
  | .send answer => s.send answer
  | .receive answer => s.receive answer
  | .submit answers => s.submit backend answers
  | .free => s.free

/-- The steps of the UI thread come in the order of the tick; the others come at any time. -/
def permitted (s : WireHost W) : WireHostOp W → Prop
  | .connect .. | .detach | .world _ => True
  | .enter => s.phase = .idle
  | .losePeer _ => s.phase = .peer
  | .pollSession => s.phase = .session
  | .retire => s.phase = .retire
  | .recreate _ => s.phase = .recreate
  | .activate => s.phase = .activate
  | .send _ => s.phase = .sending
  | .receive _ => s.phase = .receiving
  | .submit _ => s.phase = .submitting
  | .free => s.phase = .uvClosing

def step : WireHost W → WireHostOp W → WireHost W → Prop :=
  Transition.guarded permitted (next backend)

def start (world : W) : WireHost W := { host := .start 4 world }

variable (s : WireHost W)

theorem takeMessage_phase (socket : Nat) (m : WireMessage) :
    (s.takeMessage socket m).phase = .idle \/ (s.takeMessage socket m).phase = .submitting := by
  unfold takeMessage
  split
  · exact .inl rfl
  · dsimp only
    split
    · exact .inr rfl
    · exact .inl rfl

theorem receive_phase (answer : ReceiveAnswer) :
    (s.receive answer).phase = .idle \/ (s.receive answer).phase = .submitting := by
  unfold receive
  cases s.channel.active with
  | none => exact .inl rfl
  | some socket =>
    dsimp only
    cases (ReceiveWireMessage {} answer).error with
    | none => exact takeMessage_phase _ socket _
    | some code =>
      cases code with
      | again | invalid | connectionReset | protocol | io => exact .inl rfl

theorem submit_phase (a : SubmitAnswers) : (s.submit backend a).phase = .idle := by
  unfold submit
  split <;> rfl

end WireHost

end ChromiumHmos.Overlay
