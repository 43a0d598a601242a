import ChromiumHmos.Lib.Transition

set_option autoImplicit false

/-!
# Exits of native children

The system spawns the children, and may give a process id again once its owner is gone. What is known of
their exits is kept by process id. It comes from the system's exit callback, from a pidfd, and from the
launch itself.
-/

namespace ChromiumHmos.Launch

open Transition

/-- The process behind a descriptor: a child, by its number, or one that was not launched here. -/
inductive Pidfd
  | child (id : Nat)
  | foreign
deriving DecidableEq

-- Times are in microseconds; zero is `TimeTicks()`.
structure NativeChildExitInfo where
  signal : Option Int := none
  signalTime : Nat := 0
  pidfd : Option Pidfd := none
  exited : Bool := false

inductive PidfdOpen
  | opened (pidfd : Pidfd)
  -- `ESRCH`
  | missing
  | failed
deriving DecidableEq

inductive Poll
  | failed
  | quiet
  | ready

structure NativeChild where
  id : Nat
  pid : Nat
  launchStarted : Nat
  -- the signal it ended with, and when its exit callback ran
  ended : Option Int := none
  delivered : Option Nat := none
  -- what `pidfd_open` gave its launch
  opening : Option PidfdOpen := none
  tracked : Bool := false

structure NativeChildren where
  now : Nat := 1
  -- `launch_started` of each launch that has no child yet
  launches : List Nat := []
  -- the newest first
  children : List NativeChild := []
  registry : Nat -> Option NativeChildExitInfo := fun _ => none
  -- the children of which a query was answered true
  seen : List Nat := []

namespace NativeChildren

def find (s : NativeChildren) (id : Nat) : Option NativeChild := s.children.find? fun child => child.id = id

/-- The child most recently launched under a process id. -/
def newest (s : NativeChildren) (pid : Nat) : Option NativeChild := s.children.find? fun child => child.pid = pid

def gone (s : NativeChildren) : Pidfd -> Bool
  | .child id => (s.find id).any fun child => child.ended.isSome
  | .foreign => true

/-- No descriptor is ready before its process is gone. -/
def polled (s : NativeChildren) (pidfd : Pidfd) : Poll -> Poll
  | .ready => if s.gone pidfd then .ready else .quiet
  | poll => poll

def pollNativeChildExit (s : NativeChildren) (child : NativeChildExitInfo) (poll : Poll) :
    NativeChildExitInfo × Option Bool :=
  if child.exited then (child, some true)
  else
    match child.pidfd with
    | none => (child, none)
    | some pidfd =>
      match s.polled pidfd poll with
      | .failed => ({ child with pidfd := none }, none)
      | .ready => ({ child with exited := true, pidfd := none }, some true)
      | .quiet => (child, some false)

def onNativeChildProcessExit (s : NativeChildren) (pid : Nat) (signal : Int) : NativeChildren :=
  let child := (s.registry pid).getD {}
  { s with
    registry := Function.update s.registry pid
      (some { child with signal := some signal, signalTime := s.now, exited := true, pidfd := none }) }

def PidfdOpen.pidfd : PidfdOpen -> Option Pidfd
  | .opened pidfd => some pidfd
  | _ => none

/-- The entry of the child itself. -/
def trackedEntry (child : NativeChildExitInfo) (launchStarted : Nat) (opening : PidfdOpen) : NativeChildExitInfo :=
  -- Discard an old generation, while preserving a fast exit notification.
  let kept := if child.signalTime < launchStarted then {} else child
  if kept.exited then kept
  else { kept with pidfd := PidfdOpen.pidfd opening, exited := opening = .missing }

def trackNativeChild (s : NativeChildren) (pid launchStarted : Nat) (opening : PidfdOpen) (polls : Nat -> Poll) :
    NativeChildren :=
  { s with
    registry := fun trackedPid =>
      if trackedPid = pid then some (trackedEntry ((s.registry pid).getD {}) launchStarted opening)
      else
        (s.registry trackedPid).map fun child =>
          if child.pidfd.isSome then (s.pollNativeChildExit child (polls trackedPid)).1 else child }

/-- `GetOhosNativeChildExitSignal`. -/
def exitSignal (s : NativeChildren) (pid : Nat) : Option Int := (s.registry pid).bind fun child => child.signal

/-- `HasOhosNativeChildExited`. -/
def hasExited (s : NativeChildren) (pid : Nat) (poll : Poll) : Option Bool :=
  (s.registry pid).bind fun child => (s.pollNativeChildExit child poll).2

def change (s : NativeChildren) (id : Nat) (edit : NativeChild -> NativeChild) : NativeChildren :=
  { s with children := s.children.map fun child => if child.id = id then edit child else child }

/-- The system gives a process id again only once its owner is gone. -/
def free (s : NativeChildren) (pid : Nat) : Bool :=
  s.children.all fun child => child.pid ≠ pid || child.ended.isSome

/-- What `pidfd_open` may give: a process under the id, which is none of ours only after the newest child ended. -/
def fits (s : NativeChildren) (pid : Nat) : PidfdOpen -> Bool
  | .opened (.child id) => (s.newest pid).any fun child => child.id = id
  | .opened .foreign => (s.newest pid).any fun child => child.ended.isSome
  | .missing => (s.newest pid).any fun child => child.ended.isSome
  | .failed => true

inductive Step
  | tick (elapsed : Nat)
  -- a launch reads the clock, and the system starts its child or refuses
  | launch
  | refuse (index : Nat)
  | start (index pid : Nat)
  | exit (id : Nat) (signal : Int)
  -- the exit callback of a child
  | callback (id : Nat)
  | pidfdOpen (id : Nat) (opening : PidfdOpen)
  | track (id : Nat) (polls : Nat -> Poll)
  | query (pid : Nat) (poll : Poll)

def start (s : NativeChildren) (index pid : Nat) : NativeChildren :=
  match s.launches[index]? with
  | none => s
  | some launchStarted =>
    if s.free pid then
      { s with
        launches := s.launches.eraseIdx index
        children := { id := s.children.length, pid, launchStarted } :: s.children }
    else s

def exit (s : NativeChildren) (id : Nat) (signal : Int) : NativeChildren :=
  if (s.find id).any fun child => child.ended.isNone then
    s.change id fun child => { child with ended := some signal }
  else s

def callback (s : NativeChildren) (id : Nat) : NativeChildren :=
  match s.find id with
  | none => s
  | some child =>
    match child.ended, child.delivered with
    | some signal, none =>
      (s.onNativeChildProcessExit child.pid signal).change id fun child => { child with delivered := some s.now }
    | _, _ => s

def pidfdOpen (s : NativeChildren) (id : Nat) (opening : PidfdOpen) : NativeChildren :=
  if (s.find id).any fun child => child.opening.isNone && s.fits child.pid opening then
    s.change id fun child => { child with opening := some opening }
  else s

def track (s : NativeChildren) (id : Nat) (polls : Nat -> Poll) : NativeChildren :=
  match s.find id with
  | none => s
  | some child =>
    match child.opening with
    | none => s
    | some opening =>
      if child.tracked then s
      else
        (s.trackNativeChild child.pid child.launchStarted opening polls).change id fun child =>
          { child with tracked := true }

def query (s : NativeChildren) (pid : Nat) (poll : Poll) : NativeChildren :=
  { s with
    registry := Function.update s.registry pid
      ((s.registry pid).map fun child => (s.pollNativeChildExit child poll).1)
    seen := if s.hasExited pid poll = some true then (s.newest pid).toList.map (·.id) ++ s.seen else s.seen }

/-- A step that the system does not take changes nothing. -/
def next (s : NativeChildren) : Step -> NativeChildren
  | .tick elapsed => { s with now := s.now + elapsed }
  | .launch => { s with launches := s.launches ++ [s.now] }
  | .refuse index => { s with launches := s.launches.eraseIdx index }
  | .start index pid => s.start index pid
  | .exit id signal => s.exit id signal
  | .callback id => s.callback id
  | .pidfdOpen id opening => s.pidfdOpen id opening
  | .track id polls => s.track id polls
  | .query pid poll => s.query pid poll

/-- The newest child under a process id is tracked, or was told of, or the registry has nothing of the others. -/
def known (s : NativeChildren) (pid : Nat) : Bool :=
  (s.newest pid).all fun child => child.tracked || child.delivered.isSome || (s.registry pid).isNone

/-- No exit callback of an older child comes once a launch under its process id began, none is tracked after a newer
one, and no query comes while what the registry has is of an older one. -/
def careful (s : NativeChildren) : Step -> Bool
  | .start index pid =>
    (s.launches[index]?).all fun launchStarted =>
      s.children.all fun child => child.pid ≠ pid || child.delivered.all fun time => time < launchStarted
  | .callback id => (s.find id).all fun child => (s.newest child.pid).any fun newest => newest.id = id
  | .track id _ =>
    (s.find id).all fun child => (s.newest child.pid).all fun newest => newest.id = id || !newest.tracked
  | .query pid _ => s.known pid
  | _ => true

end NativeChildren

end ChromiumHmos.Launch
