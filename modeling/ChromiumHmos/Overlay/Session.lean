import ChromiumHmos.Base.Value
import ChromiumHmos.Lib.OrderedMap
import ChromiumHmos.Lib.Transition

set_option autoImplicit false

/-!
# Overlay session

`Session` over any `Backend`. What a call does outside the session, the backend calls and the
leases it destroys, is the list of its effects in their order.
-/

namespace ChromiumHmos.Overlay

open Std Base

structure Rect where
  x : Double := .finite 0
  y : Double := .finite 0
  width : Double := .finite 0
  height : Double := .finite 0
deriving DecidableEq

inductive Format
  | rgba8
  | bgra8
  | rgb10A2
  | nv12
  | p010
deriving DecidableEq

inductive Transfer
  | sdr
  | pq
  | hlg
deriving DecidableEq

structure Color where
  transfer : Transfer := .sdr
  nativeSpace : UInt32 := 0
  hdrType : Bytes := []
  hdrStatic : Bytes := []
deriving DecidableEq

structure ReadLease where
  -- Which object it is: a `unique_ptr` has one owner.
  object : Nat
  allocationId : Nat
  -- `0` is `nullptr`.
  nativeBuffer : Nat
  acquireFence : Int
deriving DecidableEq

structure Plane where
  lease : Option ReadLease := none
  reuse : Bool := false
  format : Format := .rgba8
  width : Nat := 0
  height : Nat := 0
  source : Rect := {}
  destination : Rect := {}
  color : Color := {}

structure Frame where
  primary : Plane
  video : Option Plane := none
  primaryHasVideoHole : Bool := false

structure Release where
  submission : Nat
  allocation : Nat
  plane : Nat
  serverReturned : Bool := false
  releaseFenceSignaled : Bool := false
deriving DecidableEq

/-- The virtual calls a session makes, over the world `W` they read and change. -/
structure Backend (W P : Type) where
  supports : W → Frame → Bool
  readyForFrame : W → Bool
  prepare : W → Nat → Frame → W × Option P
  commit : W → P → W
  pollReleases : W → W × List Release
  commandsProcessed : W → Nat → Bool
  beginDrain : W → W
  drainCommandsProcessed : W → Bool
  destroyLayers : W → W
  producerReady : W → ReadLease → Bool

inductive SubmitResult
  | accepted
  | unsupported
  | busy
  | prepareFailed
  | closed
deriving DecidableEq

inductive State
  | running
  | waitingForCommands
  | draining
  | closed
deriving DecidableEq

def State.rank : State → Nat
  | .running => 0
  | .waitingForCommands => 1
  | .draining => 2
  | .closed => 3

structure Held where
  submission : Nat
  plane : Nat
  released : Bool := false
  fenceReady : Bool := false
  lease : ReadLease
  format : Format
  width : Nat
  height : Nat
  color : Color

structure Session where
  maxAllocationsPerPlane : Nat := 4
  state : State := .running
  lastSubmission : Nat := 0
  leases : ExtTreeMap Nat Held := ∅
  current : Nat → Nat := fun _ => 0
  redundant : List ReadLease := []

inductive Effect
  | accepted (lease : ReadLease) (submission plane : Nat) (reuse : Bool)
  | released (event : Release)
  | ready (lease : ReadLease)
  | closeRequested
  | commandsProcessed (submission : Nat)
  | beginDrain
  | drainProcessed
  | destroyLayers
  | destroyed (lease : ReadLease)
deriving DecidableEq

def ValidRect : Rect → Bool
  | ⟨.finite _, .finite _, .finite width, .finite height⟩ => width > 0 ∧ height > 0
  | _ => false

-- Whether `inner`, at its place, ends inside an area of `width` by `height` from the origin.
def fits : Rect → Nat → Nat → Bool
  | ⟨.finite x, .finite y, .finite w, .finite h⟩, width, height =>
    x ≥ 0 ∧ y ≥ 0 ∧ x + w ≤ width ∧ y + h ≤ height
  | _, _, _ => false

def inside : Rect → Rect → Bool
  | ⟨.finite x, .finite y, .finite w, .finite h⟩, ⟨.finite x', .finite y', .finite w', .finite h'⟩ =>
    x ≥ x' ∧ y ≥ y' ∧ x + w ≤ x' + w' ∧ y + h ≤ y' + h'
  | _, _ => false

def validPrimary (p : Plane) : Bool :=
  (p.format = .rgba8 ∨ p.format = .bgra8) ∧ p.color.transfer = .sdr ∧ p.color.hdrType = [] ∧
    p.color.hdrStatic = []

def validVideo (p : Plane) : Bool :=
  (p.format = .nv12 ∨ p.format = .p010 ∨ p.format = .rgba8 ∨ p.format = .bgra8) ∧
    (p.color.transfer = .sdr ∨ p.color.transfer = .pq) ∧
    (p.color.transfer = .pq →
      p.format = .p010 ∧ p.color.nativeSpace ≠ 0 ∧ p.color.hdrType ≠ []) ∧
    (p.color.transfer = .sdr → p.color.hdrType = [] ∧ p.color.hdrStatic = [])

def ValidPlane (p : Plane) (primary : Bool) : Bool :=
  match p.lease with
  | none => false
  | some lease =>
    lease.nativeBuffer ≠ 0 ∧ p.width ≠ 0 ∧ p.height ≠ 0 ∧ p.width ≤ 16384 ∧ p.height ≤ 16384 ∧
      ValidRect p.source ∧ ValidRect p.destination ∧ fits p.source p.width p.height ∧
      p.color.hdrType.length ≤ 64 ∧ p.color.hdrStatic.length ≤ 4096 ∧
      (if primary then validPrimary p else validVideo p)

def Frame.Valid (f : Frame) : Bool :=
  ValidPlane f.primary true && f.primaryHasVideoHole == f.video.isSome &&
    match f.video with
    | none => true
    | some video => ValidPlane video false ∧
        f.primary.lease.map ReadLease.allocationId ≠ video.lease.map ReadLease.allocationId ∧
        inside video.destination f.primary.destination

namespace Session

-- A late callback of a previous use is not a release.
def noteRelease (leases : ExtTreeMap Nat Held) (event : Release) : ExtTreeMap Nat Held :=
  match leases[event.allocation]? with
  | none => leases
  | some held =>
    if held.submission ≠ event.submission ∨ held.plane ≠ event.plane then leases
    else leases.insert event.allocation { held with
      released := held.released || event.serverReturned
      fenceReady := held.fenceReady || (event.serverReturned && event.releaseFenceSignaled) }

variable {W P : Type} (backend : Backend W P)

def retires (w : W) (held : Held) : Bool :=
  held.released && held.fenceReady && backend.producerReady w held.lease

def retiredLeases (w : W) (leases : ExtTreeMap Nat Held) : List ReadLease :=
  (leases.toList.filter fun entry => retires backend w entry.2).map fun entry => entry.2.lease

structure Step (W : Type) where
  session : Session
  world : W
  effects : List Effect

def startDrain (s : Session) (w : W) : Step W :=
  if s.state = .waitingForCommands ∧
      (s.lastSubmission = 0 ∨ backend.commandsProcessed w s.lastSubmission) then
    ⟨{ s with state := .draining }, backend.beginDrain w,
      (if s.lastSubmission = 0 then [] else [.commandsProcessed s.lastSubmission]) ++ [.beginDrain]⟩
  else ⟨s, w, []⟩

def finishDrain (s : Session) (w : W) : Step W :=
  if s.state = .draining ∧ s.leases.isEmpty ∧ backend.drainCommandsProcessed w then
    ⟨{ s with state := .closed }, backend.destroyLayers w, [.drainProcessed, .destroyLayers]⟩
  else ⟨s, w, []⟩

-- The retired leases leave the routing first and are destroyed last.
def poll (s : Session) (w : W) : Step W :=
  let dropped := s.redundant.map Effect.destroyed
  let s := { s with redundant := [] }
  if s.state = .closed then ⟨s, w, dropped⟩
  else
    let (w, events) := backend.pollReleases w
    let leases := events.foldl noteRelease s.leases
    let retired := retiredLeases backend w leases
    let s := { s with leases := leases.filter fun _ held => !retires backend w held }
    let start := startDrain backend s w
    let finish := finishDrain backend start.session start.world
    ⟨finish.session, finish.world,
      dropped ++ events.map .released ++ retired.map .ready ++ start.effects ++ finish.effects ++
        retired.map .destroyed⟩

def close (s : Session) (w : W) : Step W :=
  let s := if s.state = .running then { s with state := .waitingForCommands } else s
  let step := poll backend s w
  { step with effects := .closeRequested :: step.effects }

def reusable (s : Session) (p : Plane) (plane : Nat) : Bool :=
  match p.lease with
  | none => false
  | some lease =>
    !p.reuse ||
      (match s.leases[lease.allocationId]? with
      | none => false
      | some held =>
        s.current plane = lease.allocationId ∧ held.plane = plane ∧ ¬ held.released ∧
          lease.acquireFence = -1 ∧ held.format = p.format ∧ held.width = p.width ∧
          held.height = p.height ∧ held.color = p.color)

def allocations (s : Session) (plane : Nat) : Nat :=
  OrderedMap.total (fun _ held => if held.plane = plane then 1 else 0) s.leases

-- A new buffer needs room on its plane and an allocation that is not already out.
def blocked (s : Session) (p : Plane) (plane : Nat) : Bool :=
  !p.reuse && (s.allocations plane ≥ s.maxAllocationsPerPlane ||
    match p.lease with
    | none => false
    | some lease => (s.leases[lease.allocationId]?).isSome)

-- `emplace` keeps what is there: a second lease under the same key would be destroyed.
def hold (s : Session) (p : Plane) (lease : ReadLease) (sequence plane : Nat) :
    Session × List Effect :=
  let id := lease.allocationId
  let s := { s with current := Function.update s.current plane id }
  if p.reuse then
    ({ s with redundant := s.redundant ++ [lease] }, [.accepted lease sequence plane true])
  else
    let held : Held :=
      { submission := sequence, plane, lease, format := p.format, width := p.width
        height := p.height, color := p.color }
    ({ s with leases := s.leases.insertIfNew id held },
      .accepted lease sequence plane false ::
        if (s.leases[id]?).isSome then [.destroyed lease] else [])

def holdPlane (s : Session) (p : Plane) (sequence plane : Nat) : Session × List Effect :=
  match p.lease with
  | none => (s, [])
  | some lease => hold s p lease sequence plane

def holdVideo (s : Session) (video : Option Plane) (sequence : Nat) : Session × List Effect :=
  match video with
  | some video => holdPlane s video sequence 1
  | none => ({ s with current := Function.update s.current 1 0 }, [])

def takeLeases (f : Frame) : Frame :=
  { f with
    primary := { f.primary with lease := none }
    video := f.video.map fun video => { video with lease := none } }

structure Submitted (W : Type) where
  result : SubmitResult
  frame : Frame
  step : Step W

-- Past the poll: what refuses the frame, if anything does before the backend is asked.
def refusal (s : Session) (w : W) (f : Frame) : Option SubmitResult :=
  if ¬ backend.readyForFrame w then some .busy
  else if ¬ s.reusable f.primary 0 ∨ (f.video.any fun video => ¬ s.reusable video 1) then
    some .unsupported
  else if s.blocked f.primary 0 ∨ (f.video.any fun video => s.blocked video 1) then some .busy
  else if s.lastSubmission = UInt64.size - 1 then some .closed
  else none

def accept (s : Session) (w : W) (f : Frame) (batch : P) (sequence : Nat) (effects : List Effect) :
    Submitted W :=
  let (s, primary) := holdPlane s f.primary sequence 0
  let (s, video) := holdVideo s f.video sequence
  let s := { s with lastSubmission := sequence }
  ⟨.accepted, takeLeases f, ⟨s, backend.commit w batch, effects ++ primary ++ video⟩⟩

def submit (s : Session) (w : W) (f : Frame) : Submitted W :=
  if s.state ≠ .running then ⟨.closed, f, ⟨s, w, []⟩⟩
  else if ¬ f.Valid ∨ ¬ backend.supports w f then ⟨.unsupported, f, ⟨s, w, []⟩⟩
  else
    let polled := poll backend s w
    match refusal backend polled.session polled.world f with
    | some result => ⟨result, f, polled⟩
    | none =>
      let sequence := polled.session.lastSubmission + 1
      match backend.prepare polled.world sequence f with
      | (w, none) => ⟨.prepareFailed, f, { polled with world := w }⟩
      | (w, some batch) => accept backend polled.session w f batch sequence polled.effects

end Session

structure Host (W : Type) where
  session : Session
  world : W
  log : List Effect := []

inductive HostOp (W : Type)
  | submit (frame : Frame)
  | poll
  | close
  -- What the render service, the fences and the producers do between two calls.
  | world (after : W)

namespace Host

variable {W P : Type} (backend : Backend W P)

def apply (h : Host W) (step : Session.Step W) : Host W :=
  { session := step.session, world := step.world, log := h.log ++ step.effects }

def next (h : Host W) : HostOp W → Host W
  | .submit frame => h.apply (h.session.submit backend h.world frame).step
  | .poll => h.apply (h.session.poll backend h.world)
  | .close => h.apply (h.session.close backend h.world)
  | .world after => { h with world := after }

def frameLeases (f : Frame) : List ReadLease :=
  f.primary.lease.toList ++ (f.video.bind Plane.lease).toList

def acceptedObjects (log : List Effect) : List Nat :=
  log.filterMap fun effect => match effect with
    | .accepted lease _ _ _ => some lease.object
    | _ => none

/-- The caller owns the leases of its frame: they are distinct and the session has none of them. -/
def permitted (h : Host W) : HostOp W → Prop
  | .submit frame => ((frameLeases frame).map ReadLease.object).Nodup ∧
      ∀ lease ∈ frameLeases frame, lease.object ∉ acceptedObjects h.log
  | _ => True

def step : Host W → HostOp W → Host W → Prop := Transition.guarded permitted (next backend)

def start (maxAllocationsPerPlane : Nat) (world : W) : Host W :=
  { session := { maxAllocationsPerPlane }, world }

end Host

end ChromiumHmos.Overlay
