import ChromiumHmos.Lib.Custody
import ChromiumHmos.Lib.History
import ChromiumHmos.Lib.Transition

set_option autoImplicit false

/-!
# Buffers of a video surface

The decoder acquires a buffer on its own sequence. The closure that it gets owns the buffer, and is run or
dropped on any thread; the buffer goes back on the release sequence. `Retire` may fall anywhere between.
-/

namespace ChromiumHmos.Media

open Lib Transition History

/-- A buffer comes with a reference, and the surface takes another. -/
inductive Reference
  | acquired
  | extra
deriving DecidableEq

/-- The fence of the producer, and the copy of it that stays with the lease. -/
inductive Fence
  | acquire
  | producer
deriving DecidableEq

inductive AcquireResult
  | kAcquired
  | kEmpty
  | kError
deriving DecidableEq

inductive GraphicError
  | ok
  | noBuffer
  | other
deriving DecidableEq

-- The buffer is named by the call of `Acquire` that it came with.
inductive SurfaceEvent
  | took (id : Nat)
  | referenced (id : Nat)
  | opened (id : Nat) (fence : Fence)
  -- To the queue with the buffer, or to the caller.
  | handed (id : Nat) (fence : Fence)
  | closed (id : Nat) (fence : Fence)
  | returned (id : Nat)
  | unreferenced (id : Nat) (reference : Reference)
  | told (id : Nat) (result : AcquireResult)
  | noticed (id : Nat)
  | retired
deriving DecidableEq

/-- `BufferToRelease`, and whether `on_released` comes with it. -/
structure Release where
  id : Nat
  producerFence : Option Fence
  onReleased : Bool
deriving DecidableEq

/-- How far a call of `Acquire` is. -/
inductive Acquiring
  | checked (id : Nat)
  | took (id : Nat) (fence : Bool)
  | referenced (id : Nat) (fence : Bool)
  -- Waits for `release_lock_`: the fence could not be copied.
  | giving (id : Nat)

structure VideoSurface where
  -- `release_task_runner_` is not the task runner of the surface.
  releaseOnWorker : Bool
  retired : Bool := false
  calls : Nat := 0
  acquiring : Option Acquiring := none
  -- Closures that were neither run nor dropped.
  leases : List Release := []
  posted : List Release := []
  -- Has given up `release_lock_`.
  leaving : Option Release := none
  log : List SurfaceEvent := []

namespace VideoSurface

def note (s : VideoSurface) (events : List SurfaceEvent) : VideoSurface := { s with log := s.log ++ events }

def withFence (fence : Bool) (event : SurfaceEvent) : List SurfaceEvent := if fence then [event] else []

def tell (s : VideoSurface) (id : Nat) (result : AcquireResult) : VideoSurface :=
  { s with acquiring := none }.note [.told id result]

def acquire (s : VideoSurface) : VideoSurface :=
  let id := s.calls
  let s := { s with calls := s.calls + 1 }
  if s.retired then s.tell id .kError else { s with acquiring := some (.checked id) }

-- `acquire_fence` is the caller's, also where nothing was acquired.
def acquireNativeWindowBuffer (s : VideoSurface) (id : Nat) (result : GraphicError) (buffer fence : Bool) :
    VideoSurface :=
  if result = .ok ∧ buffer then
    { s with acquiring := some (.took id fence) }.note (.took id :: withFence fence (.opened id .acquire))
  else
    (s.note (withFence fence (.opened id .acquire) ++ withFence fence (.handed id .acquire))).tell id
      (if result = .noBuffer then .kEmpty else .kError)

-- A buffer the queue does not take is dropped.
def releaseNativeWindowBuffer (id : Nat) (returned : Bool) : SurfaceEvent :=
  if returned then .returned id else .unreferenced id .acquired

def nativeObjectReference (s : VideoSurface) (id : Nat) (fence ok returned : Bool) : VideoSurface :=
  if ok then { s with acquiring := some (.referenced id fence) }.note [.referenced id]
  else
    (s.note (withFence fence (.handed id .acquire) ++ [releaseNativeWindowBuffer id returned])).tell id
      .kError

def lease (s : VideoSurface) (id : Nat) (fence : Option Fence) : VideoSurface :=
  ({ s with leases := ⟨id, fence, true⟩ :: s.leases }.note
    (withFence fence.isSome (.handed id .acquire))).tell id .kAcquired

def dup (s : VideoSurface) (id : Nat) (fence ok : Bool) : VideoSurface :=
  if ¬ fence then s.lease id none
  else if ok then (s.note [.opened id .producer]).lease id (some .producer)
  else { s with acquiring := some (.giving id) }

/-- `ReleaseBuffer` under `release_lock_`, and what is left to do without it. -/
def releaseBuffer (s : VideoSurface) (acquired : Release) (returned : Bool) : VideoSurface × Release :=
  if s.retired then
    (s.note [.unreferenced acquired.id .acquired, .unreferenced acquired.id .extra], acquired)
  else
    (s.note ((acquired.producerFence.map (.handed acquired.id)).toList ++
        [releaseNativeWindowBuffer acquired.id returned, .unreferenced acquired.id .extra]),
      { acquired with producerFence := none })

def leave (s : VideoSurface) (acquired : Release) : VideoSurface :=
  s.note (withFence acquired.onReleased (.noticed acquired.id) ++
    (acquired.producerFence.map (.closed acquired.id)).toList)

inductive SurfaceOp
  | acquire
  | acquireNativeWindowBuffer (result : GraphicError) (buffer fence : Bool)
  | nativeObjectReference (ok returned : Bool)
  | dup (ok : Bool)
  | giveBack (returned : Bool)
  | retire
  -- The closure is run, or destroyed without having run.
  | run (release : Release)
  | drop (release : Release)
  | releaseBuffer (returned : Bool)
  | leave

-- `ScopedClosureRunner` runs what it is destroyed with.
def post (s : VideoSurface) (release : Release) : VideoSurface :=
  { s with leases := s.leases.erase release, posted := s.posted ++ [release] }

def continueAcquire (s : VideoSurface) : SurfaceOp → Acquiring → VideoSurface
  | .acquireNativeWindowBuffer result buffer fence, .checked id =>
    s.acquireNativeWindowBuffer id result buffer fence
  | .nativeObjectReference ok returned, .took id fence => s.nativeObjectReference id fence ok returned
  | .dup ok, .referenced id fence => s.dup id fence ok
  | .giveBack returned, .giving id =>
    let (s, left) := s.releaseBuffer ⟨id, some .acquire, false⟩ returned
    (s.leave left).tell id .kError
  | _, _ => s

def next (s : VideoSurface) : SurfaceOp → VideoSurface
  | .acquire => s.acquire
  | .retire => { s with retired := true }.note [.retired]
  | .run release | .drop release => s.post release
  | .releaseBuffer returned =>
    match s.posted with
    | [] => s
    | release :: rest =>
      let (s, left) := { s with posted := rest }.releaseBuffer release returned
      { s with leaving := some left }
  | .leave =>
    match s.leaving with
    | none => s
    | some release => { s with leaving := none }.leave release
  | op =>
    match s.acquiring with
    | none => s
    | some acquiring => s.continueAcquire op acquiring

/-- No task is running on the surface's own sequence. -/
def sequenceFree (s : VideoSurface) : Prop :=
  s.acquiring = none ∧ (s.releaseOnWorker ∨ s.leaving = none)

instance decidableSequenceFree (s : VideoSurface) : Decidable s.sequenceFree :=
  inferInstanceAs (Decidable (_ ∧ _))

def awaits : Acquiring → SurfaceOp → Bool
  | .checked _, .acquireNativeWindowBuffer .. => true
  | .took .., .nativeObjectReference .. => true
  | .referenced .., .dup _ => true
  | .giving _, .giveBack _ => true
  | _, _ => false

def permitted (s : VideoSurface) : SurfaceOp → Prop
  | .acquire | .retire => s.sequenceFree
  | .run release | .drop release => release ∈ s.leases
  | .releaseBuffer _ => s.posted ≠ [] ∧ s.leaving = none ∧ (s.releaseOnWorker ∨ s.acquiring = none)
  | .leave => s.leaving ≠ none
  | op => s.acquiring.any fun acquiring => awaits acquiring op

instance decidablePermitted (s : VideoSurface) : (op : SurfaceOp) → Decidable (s.permitted op)
  | .acquire | .retire => inferInstanceAs (Decidable s.sequenceFree)
  | .run _ | .drop _ => inferInstanceAs (Decidable (_ ∈ _))
  | .releaseBuffer _ => inferInstanceAs (Decidable (_ ∧ _))
  | .leave => inferInstanceAs (Decidable (_ ≠ _))
  | .acquireNativeWindowBuffer .. | .nativeObjectReference .. | .dup _ | .giveBack _ =>
    inferInstanceAs (Decidable (_ = true))

def step : VideoSurface → SurfaceOp → VideoSurface → Prop := guarded permitted next

end VideoSurface

end ChromiumHmos.Media
