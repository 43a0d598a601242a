import ChromiumHmos.Overlay.Transport

set_option autoImplicit false

/-!
# Overlay presenter

The GPU side of the channel. A poll is cut at each of its system calls, so that what the other side
does can fall between any two of them.
-/

namespace ChromiumHmos.Overlay

open Base

structure Box where
  x : Rat
  y : Rat
  width : Rat
  height : Rat
deriving DecidableEq

def Box.rect (b : Box) : Rect := ⟨.finite b.x, .finite b.y, .finite b.width, .finite b.height⟩

def Rect.box : Rect → Option Box
  | ⟨.finite x, .finite y, .finite width, .finite height⟩ => some ⟨x, y, width, height⟩
  | _ => none

-- `FiniteOverlayRect`, with the numbers it lets through.
def finiteBox (r : Rect) : Option Box :=
  r.box.filter fun b => b.width > 0 ∧ b.height > 0 ∧ |b.x| ≤ 16384 ∧ |b.y| ≤ 16384 ∧
    b.width ≤ 16384 ∧ b.height ≤ 16384

def FiniteOverlayRect (r : Rect) : Bool := (finiteBox r).isSome

structure ClippedVideoGeometry where
  destination : Rect
  source : Rect

def ClipVideoGeometry (primary destination source : Rect) (clip : Option Rect) :
    Option ClippedVideoGeometry := do
  let p ← finiteBox primary
  let d ← finiteBox destination
  let s ← finiteBox source
  let c ← match clip with
    | none => some none
    | some clip => (finiteBox clip).map some
  if p.x < 0 ∨ p.y < 0 ∨ s.x < 0 ∨ s.y < 0 ∨ p.x + p.width > 16384 ∨ p.y + p.height > 16384 ∨
      s.x + s.width > 16384 ∨ s.y + s.height > 16384 then none
  else
    let left := (c.map Box.x).elim (max p.x d.x) (max (max p.x d.x))
    let top := (c.map Box.y).elim (max p.y d.y) (max (max p.y d.y))
    let right := min (p.x + p.width) (d.x + d.width)
    let right := (c.map fun b => b.x + b.width).elim right (min right)
    let bottom := min (p.y + p.height) (d.y + d.height)
    let bottom := (c.map fun b => b.y + b.height).elim bottom (min bottom)
    if left ≥ right ∨ top ≥ bottom then none
    else
      let scaleX := s.width / d.width
      let scaleY := s.height / d.height
      let x := s.x + (left - d.x) * scaleX
      let y := s.y + (top - d.y) * scaleY
      let visible : Rect := Box.rect ⟨left, top, right - left, bottom - top⟩
      let crop : Rect := Box.rect ⟨x, y, min ((right - left) * scaleX) (s.x + s.width - x),
        min ((bottom - top) * scaleY) (s.y + s.height - y)⟩
      if FiniteOverlayRect visible ∧ FiniteOverlayRect crop then some ⟨visible, crop⟩ else none

def Integral (r : Rect) : Bool :=
  r.box.any fun b => b.width > 0 ∧ b.height > 0 ∧ b.x ≥ 0 ∧ b.y ≥ 0 ∧ b.x + b.width ≤ 16384 ∧
    b.y + b.height ≤ 16384 ∧ b.x.den = 1 ∧ b.y.den = 1 ∧ b.width.den = 1 ∧ b.height.den = 1

def scaleRect (r : Rect) (width height : Nat) : Rect :=
  (r.box.map fun b => Box.rect ⟨b.x * width, b.y * height, b.width * width, b.height * height⟩).getD r

inductive ColorSpace
  | srgb
  | rec709FullRange
  | hdr
  | other
deriving DecidableEq

def SoftwareVideoColor : ColorSpace → Nat
  | .srgb => 1
  | .rec709FullRange => 2
  | .hdr | .other => 0

-- What `ExportHandle` gives.
structure BufferHandle where
  header : List Nat := []
  fds : List Nat := []
  tail : Bytes := []
deriving DecidableEq

/-- What the functions over an image answer at the moment. -/
structure Image where
  videoFormat : Bool := false
  token : Nat := 0
  softwareVideo : Bool := false
  softwareFrame : Nat := 0
  width : Nat := 1
  height : Nat := 1
  handle : BufferHandle := {}

def EligibleVideo (image : Image) (color : ColorSpace) : Bool :=
  image.token ≠ 0 ∨
    (image.softwareVideo ∧ image.softwareFrame ≠ 0 ∧ SoftwareVideoColor color ≠ 0)

structure PlaneData where
  zOrder : Int := 0
  identity : Bool := true
  displayBounds : Rect
  cropRect : Rect
  clipRect : Option Rect := none
  opacity : Double := .finite 1
  roundedCorners : Bool := false
  isSolidColor : Bool := false
  hasColor : Bool := false
  colorSpace : ColorSpace := .srgb

structure Scheduled where
  image : Nat
  fence : Option Nat := none
  data : PlaneData

structure Last where
  image : Nat
  content : Nat

inductive SwapResult
  | ack
  | failed
deriving DecidableEq

structure Flight where
  sequence : Nat
  content : Nat → Nat := fun _ => 0
  queuedAt : TimeTicks
  processedAt : TimeTicks := 0
  released : Nat → Bool := fun _ => false
  sent : Bool := false
  accepted : Bool := false
  processed : Bool := false
  softwareVideoRead : Bool := false
  images : Nat → Option Nat := fun _ => none
  message : WireMessage
  -- Whether the callback is still to run; the feedback runs with it.
  complete : Bool := true

inductive PresenterEvent
  | presented (sequence content : Nat)
  | exported (sequence plane : Nat) (handle : BufferHandle)
  | fenced (sequence plane fd : Nat)
  | sent (message : WireMessage)
  | read (reply : WirePacket)
  | softwareVideoReleased (image : Nat)
  | completed (sequence : Nat) (result : SwapResult)
deriving DecidableEq

inductive PollPhase
  | idle
  | sending
  | receiving (left : Nat)
  | finishing
deriving DecidableEq

def PollPhase.receives : PollPhase → Bool
  | .receiving _ => true
  | _ => false

structure Presenter where
  socket : Bool := true
  timer : Bool := true
  size : Nat × Nat := (0, 0)
  sequence : Nat := 0
  invalid : Bool := false
  reported : Bool := false
  scheduled : Nat → Option Scheduled := fun _ => none
  last : Nat → Option Last := fun _ => none
  -- In the order of their sequences, which is the order of the map.
  flights : List Flight := []
  phase : PollPhase := .idle
  log : List PresenterEvent := []

namespace Presenter

def resize (p : Presenter) (width height : Nat) (color : ColorSpace) : Presenter :=
  if ¬ p.socket ∨ width = 0 ∨ height = 0 ∨ width > 8192 ∨ height > 8192 ∨ color ≠ .srgb then p
  else { p with size := (width, height) }

def scheduleOverlayPlane (p : Presenter) (images : Nat → Image) (image : Option Nat)
    (fence : Option Nat) (data : PlaneData) : Presenter :=
  let plane := if data.zOrder = -1 then 1 else 0
  match image with
  | none => { p with invalid := true }
  | some image =>
    if (data.zOrder ≠ 0 ∧ data.zOrder ≠ -1) ∨ (p.scheduled plane).isSome ∨ ¬ data.identity ∨
        ¬ (if plane = 1 then FiniteOverlayRect data.displayBounds
          else Integral data.displayBounds) ∨
        data.opacity ≠ .finite 1 ∨ data.roundedCorners ∨ data.isSolidColor ∨ data.hasColor ∨
        (plane = 0 ∧ data.clipRect.any fun clip => ¬ inside data.displayBounds clip) ∨
        (plane = 1 ∧ (¬ (images image).videoFormat ∨
          ¬ EligibleVideo (images image) data.colorSpace)) then
      { p with invalid := true }
    else
      { p with scheduled := Function.update p.scheduled plane (some ⟨image, fence, data⟩) }

structure PresentAnswers where
  now : TimeTicks
  images : Nat → Image
  -- `Clone` of the handle of a fence, none when it is null.
  cloneFence : Nat → Option Nat := some
  hdrGuard : Bool := true
  retainSoftwareVideoRead : Nat → Bool := fun _ => true

end Presenter

namespace WirePacket

def wirePlane (p : WirePacket) (plane : Nat) : WirePlane := if plane = 0 then p.primary else p.video

def withPlane (p : WirePacket) (plane : Nat) (value : WirePlane) : WirePacket :=
  if plane = 0 then { p with primary := value } else { p with video := value }

def withParcel (p : WirePacket) (plane : Nat) (header : ParcelHeader) (tail : Bytes)
    (fdCount : Nat) : WirePacket :=
  if plane = 0 then { p with header, tail, tailBytes := tail.length, fdCount }
  else
    { p with videoHeader := header, videoTail := tail, videoTailBytes := tail.length
             videoFdCount := fdCount }

end WirePacket

/-- The flight `Present` is filling, with what it has changed so far. -/
structure Draft where
  packet : WirePacket
  fds : List Nat := []
  content : Nat → Nat := fun _ => 0
  released : Nat → Bool := fun _ => false
  images : Nat → Option Nat := fun _ => none
  fences : Nat → Option Nat
  last : Nat → Option Last
  invalid : Bool := false
  log : List PresenterEvent := []

namespace Draft

variable (a : Presenter.PresentAnswers)

-- `reuse` and `content`; a fence the retained read already waited on is dropped.
def fillContent (d : Draft) (i : Nat) (item : Scheduled) : Draft :=
  let image := a.images item.image
  let token := if i = 0 then 0 else image.token
  let videoContent := if token ≠ 0 then token else if i = 0 then 0 else image.softwareFrame
  let reused := (d.last i).filter fun last =>
    if i = 0 then (d.fences 0).isNone ∧ last.image = item.image else last.content = videoContent
  let content :=
    if i = 0 then (reused.map Last.content).getD d.packet.sequence else videoContent
  let plane := { d.packet.wirePlane i with content, reuse := if reused.isSome then 1 else 0 }
  let packet := d.packet.withPlane i plane
  { d with
    packet := if i = 0 then packet
      else { packet with
        videoToken := token
        videoColor := if token ≠ 0 then 0 else SoftwareVideoColor item.data.colorSpace }
    fences := if reused.isSome then Function.update d.fences i none else d.fences
    content := Function.update d.content i content
    images := Function.update d.images i (some item.image) }

-- The video is clipped to the primary; nothing is left of it: the frame is given up.
def fillGeometry (d : Draft) (i : Nat) (item : Scheduled) (primaryBounds : Rect) : Draft :=
  let image := a.images item.image
  let source := scaleRect item.data.cropRect image.width image.height
  let put (d : Draft) (source destination : Rect) : Draft :=
    { d with packet := d.packet.withPlane i { d.packet.wirePlane i with source, destination } }
  if i = 0 then put d source item.data.displayBounds
  else
    match ClipVideoGeometry primaryBounds item.data.displayBounds source item.data.clipRect with
    | none => { put d source item.data.displayBounds with invalid := true }
    | some clipped => put d clipped.source clipped.destination

-- A decoder token and a reused buffer come without a parcel.
def fillParcel (d : Draft) (i : Nat) (item : Scheduled) : Draft :=
  if (i = 0 ∨ d.packet.videoToken = 0) ∧ (d.packet.wirePlane i).reuse = 0 then
    let handle := (a.images item.image).handle
    if fits : handle.header.length = 14 ∧ handle.tail.length ≤ wireTailSize then
      { d with
        packet := d.packet.withParcel i ⟨handle.header.toArray, fits.1⟩ handle.tail
          (handle.fds.length % UInt32.size)
        fds := d.fds ++ handle.fds
        log := d.log ++ [.exported d.packet.sequence i handle] }
    else { d with invalid := true }
  else d

def keepLast (d : Draft) (i : Nat) (item : Scheduled) : Draft :=
  { d with last := Function.update d.last i (some ⟨item.image, (d.packet.wirePlane i).content⟩) }

-- One turn of the loop over the planes; a `break` of the source leaves the draft invalid.
def addPlane (d : Draft) (i : Nat) (item : Option Scheduled) (primaryBounds : Rect) : Draft :=
  match item with
  | none => { d with released := Function.update d.released i true }
  | some item =>
    let d := (d.fillContent a i item).fillGeometry a i item primaryBounds
    if d.invalid then d
    else
      let d := d.fillParcel a i item
      if d.invalid then d else d.keepLast i item

def addFence (d : Draft) (i : Nat) : Draft :=
  match (d.fences i).bind a.cloneFence with
  | none => d
  | some fd =>
    { d with
      packet := d.packet.withPlane i { d.packet.wirePlane i with hasFence := 1 }
      fds := d.fds ++ [fd]
      log := d.log ++ [.fenced d.packet.sequence i fd] }

end Draft

namespace Presenter

def draft (p : Presenter) (a : PresentAnswers) (primary : Scheduled) : Draft :=
  let video := p.scheduled 1
  let d : Draft :=
    { packet := { sequence := p.sequence + 1, hasVideo := if video.isSome then 1 else 0 }
      fences := fun i => (p.scheduled i).bind Scheduled.fence
      last := p.last }
  let d := d.addPlane a 0 (some primary) primary.data.displayBounds
  let d := if d.invalid then d else d.addPlane a 1 video primary.data.displayBounds
  let d := if video.isSome then d else { d with last := Function.update d.last 1 none }
  (d.addFence a 0).addFence a 1

-- A frame that cannot be sent is queued all the same, to be failed by the next poll.
def refuse (p : Presenter) (a : PresentAnswers) : Presenter :=
  let sequence := p.sequence + 1
  let packet : WirePacket :=
    { sequence, hasVideo := if (p.scheduled 1).isSome then 1 else 0 }
  { p with
    sequence
    invalid := true
    flights := p.flights ++ [{ sequence, queuedAt := a.now, message := { packet } }]
    log := p.log ++ [.presented sequence 0] }

def queue (p : Presenter) (a : PresentAnswers) (primary : Scheduled) : Presenter :=
  let d := p.draft a primary
  let flight : Flight :=
    { sequence := p.sequence + 1, content := d.content, queuedAt := a.now, released := d.released
      images := d.images, message := ⟨d.packet, d.fds⟩
      softwareVideoRead := (d.images 1).any a.retainSoftwareVideoRead }
  let flights := p.flights ++ [flight]
  { p with
    sequence := p.sequence + 1
    invalid := d.invalid ∨ ¬ ValidWirePacket d.packet d.fds.length ∨ flights.length > 12
    scheduled := fun _ => none
    last := d.last
    flights
    log := p.log ++ d.log ++ [.presented (p.sequence + 1) (d.content 0)] }

def present (p : Presenter) (a : PresentAnswers) : Presenter :=
  let hdr := (p.scheduled 1).any fun item => item.data.colorSpace = .hdr
  let p := if hdr ∧ ¬ a.hdrGuard then { p with invalid := true } else p
  match p.scheduled 0 with
  | none => p.refuse a
  | some primary =>
    if p.invalid ∨ ¬ p.socket ∨ p.size.1 = 0 ∨ p.size.2 = 0 then p.refuse a
    else p.queue a primary

def fail (p : Presenter) : Presenter :=
  { p with
    timer := false
    socket := false
    scheduled := fun _ => none
    last := fun _ => none
    flights := []
    phase := .idle
    log := p.log ++ (p.flights.filter Flight.complete).map fun f => .completed f.sequence .failed }

def overdue (p : Presenter) (now : TimeTicks) : Bool :=
  p.flights.any fun f => f.complete ∧ now - f.queuedAt > seconds 10

def poll (p : Presenter) (now : TimeTicks) : Presenter :=
  if p.invalid then p.fail
  else if ¬ p.socket then p
  else if p.overdue now then p.fail
  else { p with phase := .sending }

def send (p : Presenter) (answer : SendAnswer) : Presenter :=
  match p.flights.find? fun f => !f.sent with
  | none => { p with phase := .receiving 64 }
  | some f =>
    match SendWireMessage f.message answer with
    | none =>
      { p with
        flights := p.flights.map fun g =>
          if g.sequence = f.sequence then { g with sent := true, message := {} } else g
        log := p.log ++ [.sent f.message] }
    | some .again => { p with phase := .idle }
    | some _ => p.fail

end Presenter

-- What a reply does to its flight; none where the source calls it unexpected.
def Flight.reply (f : Flight) (now : TimeTicks) (r : WirePacket) : Option Flight :=
  if r.operation = .accepted ∧ ¬ f.accepted then some { f with accepted := true }
  else if r.operation = .processed ∧ f.accepted ∧ ¬ f.processed then
    some { f with processed := true, processedAt := now }
  else if r.operation = .released ∧ f.accepted ∧ ¬ f.released r.plane then
    some { f with
      released := Function.update f.released r.plane true
      softwareVideoRead := f.softwareVideoRead && r.plane ≠ 1
      images := Function.update f.images r.plane none }
  else none

-- The read of a software video that a reply ends.
def Flight.releasedRead (f : Flight) (r : WirePacket) : List PresenterEvent :=
  if r.operation = .released ∧ r.plane = 1 ∧ f.softwareVideoRead then
    (f.images 1).toList.map .softwareVideoReleased
  else []

namespace Presenter

def flight (p : Presenter) (sequence : Nat) : Option Flight :=
  p.flights.find? fun f => f.sequence = sequence

def onReply (p : Presenter) (now : TimeTicks) (r : WirePacket) : Presenter :=
  let p : Presenter := { p with log := p.log ++ [.read r] }
  match p.flight r.sequence with
  | none => p.fail
  | some f =>
    match f.reply now r with
    | none => p.fail
    | some f' =>
      { p with
        flights := p.flights.map fun g => if g.sequence = r.sequence then f' else g
        log := p.log ++ f.releasedRead r }

def receive (p : Presenter) (left : Nat) (now : TimeTicks) (answer : ReceiveAnswer) : Presenter :=
  let received := ReceiveWireMessage {} answer
  match received.error with
  | some .again => { p with phase := .finishing }
  | some _ => p.fail
  | none =>
    { p with phase := if left ≤ 1 then .finishing else .receiving (left - 1) }.onReply now
      received.message.packet

def ready (older : List Flight) (f : Flight) : Bool :=
  older.all fun prior => prior.released 0 || prior.content 0 = f.content 0

/-- The loop over the flights, with those before the one it is at: which swaps it acknowledges. -/
def acknowledge (older : List Flight) : List Flight → List Flight × List Nat
  | [] => ([], [])
  | f :: rest =>
    if ¬ f.complete then
      let (rest, acked) := acknowledge (older ++ [f]) rest
      (f :: rest, acked)
    else if ¬ f.processed ∨ ¬ ready older f then (f :: rest, [])
    else
      let (rest, acked) := acknowledge (older ++ [f]) rest
      ({ f with complete := false } :: rest, f.sequence :: acked)

def retired (f : Flight) : Bool := !f.complete && f.released 0 && f.released 1

-- `told`: whether the browser took the report of the first presentation.
def finish (p : Presenter) (told : Bool) : Presenter :=
  let reports := ¬ p.reported ∧ p.flights.any Flight.processed
  if reports ∧ ¬ told then p.fail
  else
    let (flights, acked) := acknowledge [] p.flights
    { p with
      reported := p.reported || p.flights.any Flight.processed
      flights := flights.filter fun f => !retired f
      phase := .idle
      log := p.log ++ acked.map fun sequence => .completed sequence .ack }

end Presenter

inductive PresenterOp
  | resize (width height : Nat) (color : ColorSpace)
  | schedule (images : Nat → Image) (image fence : Option Nat) (data : PlaneData)
  | present (answers : Presenter.PresentAnswers)
  | poll (now : TimeTicks)
  | send (answer : SendAnswer)
  | receive (now : TimeTicks) (answer : ReceiveAnswer)
  | finish (told : Bool)

namespace Presenter

def next (p : Presenter) : PresenterOp → Presenter
  | .resize width height color => p.resize width height color
  | .schedule images image fence data => p.scheduleOverlayPlane images image fence data
  | .present answers => p.present answers
  | .poll now => p.poll now
  | .send answer => p.send answer
  | .receive now answer =>
    match p.phase with
    | .receiving left => p.receive left now answer
    | _ => p
  | .finish told => p.finish told

/-- All calls come on one thread, and the timer polls while it runs. -/
def permitted (p : Presenter) : PresenterOp → Prop
  | .resize .. | .schedule .. | .present _ => p.phase = .idle
  | .poll _ => p.phase = .idle ∧ p.timer
  | .send _ => p.phase = .sending
  | .receive .. => p.phase.receives
  | .finish _ => p.phase = .finishing

instance (p : Presenter) (op : PresenterOp) : Decidable (p.permitted op) :=
  match op with
  | .resize .. | .schedule .. | .present _ => inferInstanceAs (Decidable (p.phase = .idle))
  | .poll _ => inferInstanceAs (Decidable (p.phase = .idle ∧ p.timer))
  | .send _ => inferInstanceAs (Decidable (p.phase = .sending))
  | .receive .. => inferInstanceAs (Decidable (p.phase.receives))
  | .finish _ => inferInstanceAs (Decidable (p.phase = .finishing))

def step : Presenter → PresenterOp → Presenter → Prop := Transition.guarded permitted next

end Presenter

end ChromiumHmos.Overlay
