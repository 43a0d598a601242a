import ChromiumHmos.Overlay.Session

set_option autoImplicit false

/-!
# Overlay backend of the render service

One `RsBackend` and the routes its slots share with the other backends of the process. A call of
`abort` only raises a flag, so that it can be shown never to happen.
-/

namespace ChromiumHmos.Overlay

open Std Base

structure Slot where
  submission : Nat
  allocation : Nat
  plane : Nat
  sequence : Nat
  node : Nat
  fence : Int := -2
  serverReturned : Bool := false

-- Where a route points: a slot of this backend, by what it was made for, or of another one.
inductive Route
  | own (submission plane : Nat)
  | foreign
deriving DecidableEq

namespace Slot

def route (slot : Slot) : Route := .own slot.submission slot.plane

def release (slot : Slot) : Release :=
  { submission := slot.submission, allocation := slot.allocation, plane := slot.plane
    serverReturned := true, releaseFenceSignaled := true }

end Slot

structure BufferConfig where
  width : Nat := 0
  height : Nat := 0
  format : Format := .rgba8
deriving DecidableEq

/-- What the system libraries answer at the moment. -/
structure Platform where
  config : Nat → BufferConfig := fun _ => {}
  seqNum : Nat → Nat := fun buffer => buffer
  dups : Int → Bool := fun _ => true
  signaled : Int → Bool := fun _ => false
  producerReady : ReadLease → Bool := fun _ => true
  createsLayer : Bool := true
  backgrounds : Bool := true
  -- `none`: `clock_gettime` fails.
  now : Option Nat := some 0
  handlerTimestamp : Nat := 0
  registersCallback : Bool := true

structure RsWorld where
  slots : List Slot := []
  routes : ExtTreeMap Nat Route := ∅
  nodes : Nat → Nat := fun plane => plane
  nextNode : Nat := 2
  attached : Bool := true
  startupPending : Bool := true
  draining : Bool := false
  destroyed : Bool := false
  drainFailed : Bool := false
  videoVisible : Bool := false
  videoCleanup : Nat := 0
  lastSubmission : Nat := 0
  expected : Nat := 0
  acknowledged : Nat := 0
  aborted : Bool := false
  platform : Platform := {}

structure Batch where
  submission : Nat
  -- `none`: same content, a geometry-only transaction.
  items : List (Option Slot)

namespace RsWorld

def nextCompletionTimestamp (now handler previous : Nat) : Nat :=
  let floor := max handler previous
  if floor = UInt64.size - 1 then 0 else max now (floor + 1)

def complete (w : RsWorld) : Bool := w.expected ≠ 0 ∧ w.acknowledged = w.expected

def isAcknowledged (w : RsWorld) : Bool := !w.drainFailed && w.complete

def confirmedFlush (w : RsWorld) : RsWorld :=
  match w.platform.now with
  | none => { w with drainFailed := true }
  | some now =>
    let timestamp := nextCompletionTimestamp now w.platform.handlerTimestamp w.expected
    if timestamp = 0 then { w with drainFailed := true }
    else if w.platform.registersCallback then { w with expected := timestamp }
    else { w with expected := timestamp, drainFailed := true }

def background (w : RsWorld) : RsWorld :=
  if w.platform.backgrounds then w else { w with drainFailed := true }

def supports (w : RsWorld) (f : Frame) : Bool :=
  !w.draining && !w.destroyed && !w.drainFailed &&
    (f.primary.lease.all fun lease => lease.acquireFence ≥ -1) &&
    f.video.all fun video => video.lease.all fun lease => lease.acquireFence ≥ -1

def readyForFrame (w : RsWorld) : Bool := !w.startupPending && w.videoCleanup = 0

-- The pixel format a buffer of this format has: all but three are plain RGBA.
def bufferFormat (format : Format) : Format := if format = .rgb10A2 then .rgba8 else format

-- The geometry check of an RGB video plane, in floating point.
variable (rgbVideoFitsPrimary : Rect → Rect → Rect → Nat → Nat → Bool)

def prepareItem (w : RsWorld) (submission : Nat) (f : Frame) (p : Plane) (i : Nat)
    (first : Option Slot) : Option (Option Slot) :=
  match p.lease with
  | none => none
  | some lease =>
    if w.platform.config lease.nativeBuffer ≠ ⟨p.width, p.height, bufferFormat p.format⟩ then none
    else if lease.acquireFence ≥ 0 ∧ ¬ w.platform.dups lease.acquireFence then none
    else if i ≠ 0 ∧ (p.format = .rgba8 ∨ p.format = .bgra8) ∧
        ¬ rgbVideoFitsPrimary f.primary.destination p.destination p.source p.width p.height then
      none
    else if p.reuse then some none
    else
      let sequence := w.platform.seqNum lease.nativeBuffer
      if (w.routes[sequence]?).isSome ∨ first.any (fun slot => slot.sequence = sequence) then none
      else some (some { submission, allocation := lease.allocationId, plane := i, sequence
                        node := w.nodes i })

def prepare (w : RsWorld) (submission : Nat) (f : Frame) : RsWorld × Option Batch :=
  if ¬ w.supports f then (w, none)
  else
    match w.prepareItem rgbVideoFitsPrimary submission f f.primary 0 none with
    | none => (w, none)
    | some first =>
      match f.video with
      | none => (w, some ⟨submission, [first]⟩)
      | some video =>
        match w.prepareItem rgbVideoFitsPrimary submission f video 1 first with
        | none => (w, none)
        | some second => (w, some ⟨submission, [first, second]⟩)

def installRoute (w : RsWorld) (slot : Slot) : RsWorld :=
  if (w.routes[slot.sequence]?).isSome then { w with aborted := true }
  else { w with routes := w.routes.insert slot.sequence slot.route }

def commit (w : RsWorld) (batch : Batch) : RsWorld :=
  let slots := batch.items.filterMap id
  let w := slots.foldl installRoute w
  let w := { w with slots := w.slots ++ slots }
  let w := if batch.items.length = 1 ∧ w.videoVisible then { w with videoCleanup := 1 } else w
  confirmedFlush { w with
    videoVisible := batch.items.length = 2
    lastSubmission := batch.submission }

def fenceReady (w : RsWorld) (fence : Int) : Bool :=
  fence = -1 || (fence ≥ 0 && w.platform.signaled fence)

def isReturned (w : RsWorld) (slot : Slot) : Bool := slot.serverReturned && w.fenceReady slot.fence

def emitReleases (w : RsWorld) : RsWorld × List Release :=
  let done := w.slots.filter w.isReturned
  ({ w with
      slots := w.slots.filter fun slot => !w.isReturned slot
      routes := done.foldl (fun routes slot => routes.erase slot.sequence) w.routes },
    done.map Slot.release)

def cleanVideo (w : RsWorld) : RsWorld :=
  if ¬ w.draining ∧ w.videoCleanup = 1 ∧ w.isAcknowledged then
    { w.background.confirmedFlush with videoCleanup := 2 }
  else w

-- The node is replaced once every old read of it is retired.
def replaceVideo (w : RsWorld) : RsWorld :=
  if ¬ w.draining ∧ w.videoCleanup = 2 ∧ ¬ w.drainFailed ∧ w.isAcknowledged ∧
      ¬ (w.slots.any fun slot => slot.plane = 1) then
    if w.platform.createsLayer then
      let w := { w with nodes := Function.update w.nodes 1 w.nextNode, nextNode := w.nextNode + 1 }
      { w.confirmedFlush with videoCleanup := 3 }
    else { w with drainFailed := true }
  else w

def finishVideo (w : RsWorld) : RsWorld :=
  if ¬ w.draining ∧ w.videoCleanup = 3 ∧ w.isAcknowledged then { w with videoCleanup := 0 } else w

def pollReleases (w : RsWorld) : RsWorld × List Release :=
  let w := if w.startupPending ∧ w.isAcknowledged then { w with startupPending := false } else w
  let (w, events) := w.emitReleases
  (w.cleanVideo.replaceVideo.finishVideo, events)

def commandsProcessed (w : RsWorld) (submission : Nat) : Bool :=
  submission = w.lastSubmission && w.isAcknowledged

def beginDrain (w : RsWorld) : RsWorld :=
  if w.draining then { w with aborted := true }
  else
    let w := { w with draining := true, attached := false }
    w.background.background.confirmedFlush

def drainCommandsProcessed (w : RsWorld) : Bool := w.draining && !w.drainFailed && w.isAcknowledged

def destroyLayers (w : RsWorld) : RsWorld :=
  if w.attached ∨ ¬ w.slots.isEmpty then { w with aborted := true } else { w with destroyed := true }

def backend : Backend RsWorld Batch where
  supports := supports
  readyForFrame := readyForFrame
  prepare := prepare rgbVideoFitsPrimary
  commit := commit
  pollReleases := pollReleases
  commandsProcessed := commandsProcessed
  beginDrain := beginDrain
  drainCommandsProcessed := drainCommandsProcessed
  destroyLayers := destroyLayers
  producerReady w lease := w.platform.producerReady lease

inductive RsEvent
  -- A release record: the node its id names, and what `ReleaseBuffer` returns for it.
  | record (sequence node : Nat) (rc : Int)
  -- The callback given to `SetBuffer`.
  | callback (submission plane : Nat) (fence : Int)
  | acknowledge (timestamp : Nat)
  -- Another backend of the process installs or drops one of its routes.
  | install (sequence : Nat)
  | drop (sequence : Nat)
  | answers (platform : Platform)

def modifySlot (w : RsWorld) (submission plane : Nat) (f : Slot → Slot) : RsWorld :=
  { w with slots := w.slots.map fun slot =>
      if slot.submission = submission ∧ slot.plane = plane then f slot else slot }

def onRecord (w : RsWorld) (sequence node : Nat) (rc : Int) : RsWorld :=
  match w.routes[sequence]? with
  | some (.own submission plane) =>
    w.modifySlot submission plane fun slot =>
      if slot.node = node ∧ ¬ slot.serverReturned then { slot with serverReturned := rc = 0 }
      else slot
  | _ => w

def react (w : RsWorld) : RsEvent → RsWorld
  | .record sequence node rc => w.onRecord sequence node rc
  | .callback submission plane fence =>
    w.modifySlot submission plane fun slot =>
      if slot.fence = -2 then { slot with fence } else slot
  | .acknowledge timestamp => { w with acknowledged := max w.acknowledged timestamp }
  | .install sequence =>
    if (w.routes[sequence]?).isSome then w
    else { w with routes := w.routes.insert sequence .foreign }
  | .drop sequence =>
    if w.routes[sequence]? = some .foreign then { w with routes := w.routes.erase sequence } else w
  | .answers platform => { w with platform }

-- `Initialize`, in a process where other backends may have routes already.
def initialized (platform : Platform) (others : ExtTreeMap Nat Unit) : RsWorld :=
  confirmedFlush { routes := others.map fun _ _ => .foreign, platform }

end RsWorld

namespace RsHost

variable (rgbVideoFitsPrimary : Rect → Rect → Rect → Nat → Nat → Bool)

def next (h : Host RsWorld) (op : HostOp RsWorld) : Host RsWorld :=
  h.next (RsWorld.backend rgbVideoFitsPrimary) op

def permitted (h : Host RsWorld) (op : HostOp RsWorld) : Prop :=
  h.permitted op ∧ ∀ after, op = .world after → ∃ event, after = h.world.react event

def step : Host RsWorld → HostOp RsWorld → Host RsWorld → Prop :=
  Transition.guarded permitted (next rgbVideoFitsPrimary)

def start (maxAllocationsPerPlane : Nat) (platform : Platform) (others : ExtTreeMap Nat Unit) :
    Host RsWorld :=
  .start maxAllocationsPerPlane (RsWorld.initialized platform others)

end RsHost

end ChromiumHmos.Overlay
