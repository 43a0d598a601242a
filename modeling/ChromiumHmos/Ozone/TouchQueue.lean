import ChromiumHmos.Lib.Coalescing
import ChromiumHmos.Ozone.EventSource

set_option autoImplicit false

/-!
# The queue of touch events

While a source lives its thread takes every task posted to it. The shell posts one event after
another; between the bridge's lock and the task's posting the browser's thread may run tasks.
-/

namespace ChromiumHmos.Ozone

open Coalescing Transition

/-- A pointer id and a target hint. -/
abbrev TouchMoveKey := Int × AcceleratedWidget

structure PendingTouchMove where
  -- None once it was dispatched.
  event : Option Event
  targetHint : AcceleratedWidget
  key : TouchMoveKey

inductive EventTask
  -- A `shared_ptr` is the place of what it points to.
  | touchMove (slot : Nat)
  | event (event : Event) (targetHint : AcceleratedWidget)

structure EventSourceBridge where
  slots : List PendingTouchMove := []
  pendingTouchMoves : TouchMoveKey → Option Nat := fun _ => none
  touchMovesReceived : Nat := 0
  touchMovesDispatched : Nat := 0
  touchMovesCoalesced : Nat := 0
  queuedTouchMoveTasks : Nat := 0
  -- The task `PostEvent` has at hand.
  posting : Option EventTask := none
  tasks : List EventTask := []
  posted : List Event := []
  dispatched : List (Event × AcceleratedWidget) := []

namespace EventSourceBridge

def setSlot (b : EventSourceBridge) (slot : Nat) (event : Option Event) : EventSourceBridge :=
  { b with slots := b.slots.modify slot fun pending => { pending with event } }

def setPending (b : EventSourceBridge) (key : TouchMoveKey) (slot : Option Nat) :
    EventSourceBridge :=
  { b with pendingTouchMoves := Function.update b.pendingTouchMoves key slot }

def postTouchMove (b : EventSourceBridge) (event : Event) (targetHint : AcceleratedWidget) :
    EventSourceBridge :=
  let key := (event.pointerId, targetHint)
  let b := { b with touchMovesReceived := b.touchMovesReceived + 1 }
  match b.pendingTouchMoves key with
  | some slot =>
    { b.setSlot slot (some event) with touchMovesCoalesced := b.touchMovesCoalesced + 1 }
  | none =>
    { b.setPending key (some b.slots.length) with
      slots := b.slots ++ [⟨some event, targetHint, key⟩]
      queuedTouchMoveTasks := b.queuedTouchMoveTasks + 1
      posting := some (.touchMove b.slots.length) }

-- The part of `PostEvent` under the lock.
def postEvent (b : EventSourceBridge) (event : Event) (targetHint : AcceleratedWidget) :
    EventSourceBridge :=
  let b := { b with posted := b.posted ++ [event] }
  if event.isTouchEvent then
    if event.type = .touchMoved then b.postTouchMove event targetHint
    else
      { b with
        pendingTouchMoves := fun key =>
          if key.1 = event.pointerId then none else b.pendingTouchMoves key
        posting := some (.event event targetHint) }
  else { b with posting := some (.event event targetHint) }

def postTask (b : EventSourceBridge) : EventSourceBridge :=
  { b with posting := none, tasks := b.tasks ++ b.posting.toList }

def dispatch (b : EventSourceBridge) (event : Option Event) (targetHint : AcceleratedWidget) :
    EventSourceBridge :=
  { b with dispatched := b.dispatched ++ (event.map fun event => (event, targetHint)).toList }

-- Only while the key's entry is this slot.
def closeSlot (b : EventSourceBridge) (key : TouchMoveKey) (slot : Nat) : EventSourceBridge :=
  { b with
    pendingTouchMoves := fun other =>
      if other = key ∧ b.pendingTouchMoves other = some slot then none
      else b.pendingTouchMoves other }

def runTouchMove (b : EventSourceBridge) (slot : Nat) : EventSourceBridge :=
  match b.slots[slot]? with
  | none => b
  | some pending =>
    let b := (b.setSlot slot none).closeSlot pending.key slot
    { b with
      queuedTouchMoveTasks := b.queuedTouchMoveTasks - 1
      touchMovesDispatched := b.touchMovesDispatched + 1 }.dispatch pending.event
        pending.targetHint

def runTask (b : EventSourceBridge) : EventSourceBridge :=
  match b.tasks with
  | [] => b
  | .touchMove slot :: rest => { b with tasks := rest }.runTouchMove slot
  | .event event targetHint :: rest => { b with tasks := rest }.dispatch (some event) targetHint

end EventSourceBridge

inductive QueueOp
  | post (event : Event) (targetHint : AcceleratedWidget)
  | postTask
  | run
deriving DecidableEq

namespace EventSourceBridge

def next (b : EventSourceBridge) : QueueOp → EventSourceBridge
  | .post event targetHint => b.postEvent event targetHint
  | .postTask => b.postTask
  | .run => b.runTask

def permitted (b : EventSourceBridge) : QueueOp → Prop
  | .post .. => b.posting = none
  | .postTask => b.posting ≠ none
  | .run => b.tasks ≠ []

instance (b : EventSourceBridge) (op : QueueOp) : Decidable (b.permitted op) :=
  match op with
  | .post .. => inferInstanceAs (Decidable (b.posting = none))
  | .postTask => inferInstanceAs (Decidable (b.posting ≠ none))
  | .run => inferInstanceAs (Decidable (b.tasks ≠ []))

def step : EventSourceBridge → QueueOp → EventSourceBridge → Prop := guarded permitted next

def queue (b : EventSourceBridge) : List EventTask := b.tasks ++ b.posting.toList

def taskEvents (slots : List PendingTouchMove) : EventTask → List Event
  | .touchMove slot => ((slots[slot]?).bind PendingTouchMove.event).toList
  | .event event _ => [event]

def contents (b : EventSourceBridge) : List Event := b.queue.flatMap (taskEvents b.slots)

def dispatchedEvents (b : EventSourceBridge) : List Event := b.dispatched.map Prod.fst

end EventSourceBridge

def Event.isTouchOf (pointer : Int) (event : Event) : Bool :=
  event.isTouchEvent ∧ event.pointerId = pointer

def Event.isMove (event : Event) : Bool := event.type = .touchMoved

def touches (pointer : Int) (events : List Event) : List Event := events.filter (Event.isTouchOf pointer)

def discretes (events : List Event) : List Event := events.filter fun event => !event.isMove

namespace EventSourceBridge

def moveSlot : EventTask → Option Nat
  | .touchMove slot => some slot
  | .event .. => none

variable {slot : Nat}

variable {tasks front back rest : List EventTask}

theorem mem_moveSlots : slot ∈ tasks.filterMap moveSlot ↔ .touchMove slot ∈ tasks := by
  rw [List.mem_filterMap]
  constructor
  · rintro ⟨task, mem, is⟩
    cases task with
    | touchMove other =>
      obtain rfl := Option.some.inj is
      exact mem
    | event event targetHint => cases is
  · exact fun mem => ⟨_, mem, rfl⟩

theorem taskEvents_congr {slots slots' : List PendingTouchMove}
    (same : ∀ slot, .touchMove slot ∈ tasks -> slots'[slot]? = slots[slot]?) :
    tasks.flatMap (taskEvents slots') = tasks.flatMap (taskEvents slots) := by
  refine List.flatMap_congr fun task mem => ?_
  cases task with
  | touchMove slot => rw [taskEvents, taskEvents, same slot mem]
  | event event targetHint => rfl

theorem getElem?_setSlot_ne (b : EventSourceBridge) {slot other : Nat} (event : Option Event)
    (ne : other ≠ slot) : (b.setSlot slot event).slots[other]? = b.slots[other]? := by
  simp [setSlot, ne.symm]

theorem getElem?_setSlot_same (b : EventSourceBridge) {slot : Nat} {pending : PendingTouchMove}
    (event : Option Event) (found : b.slots[slot]? = some pending) :
    (b.setSlot slot event).slots[slot]? = some { pending with event } := by
  simp [setSlot, found]

structure HoldsMove (slots : List PendingTouchMove) (slot : Nat) (pending : PendingTouchMove)
    (event : Event) : Prop where
  found : slots[slot]? = some pending
  holds : pending.event = some event
  move : event.type = .touchMoved
  pointer : event.pointerId = pending.key.1

structure Open (b : EventSourceBridge) (key : TouchMoveKey) (slot : Nat)
    (front back : List EventTask) : Prop where
  queued : b.queue = front ++ .touchMove slot :: back
  keyed : ∀ pending, b.slots[slot]? = some pending → pending.key = key
  behind : ∀ event targetHint, .event event targetHint ∈ back → event.isTouchOf key.1 = false

structure QueueInv (b : EventSourceBridge) : Prop where
  distinct : (b.queue.filterMap moveSlot).Nodup
  held : ∀ slot, .touchMove slot ∈ b.queue → ∃ pending event, HoldsMove b.slots slot pending event
  discrete : ∀ event targetHint, .event event targetHint ∈ b.queue → event.isMove = false
  active : ∀ key slot, b.pendingTouchMoves key = some slot → ∃ front back, b.Open key slot front back
  queued : b.queuedTouchMoveTasks = (b.queue.filterMap moveSlot).length
  balance : b.touchMovesReceived =
    b.touchMovesDispatched + b.touchMovesCoalesced + b.queuedTouchMoveTasks

/-- The move a post would merge into has no other move of its pointer behind it. -/
def ClearBehind (b : EventSourceBridge) : QueueOp → Prop
  | .post event targetHint => event.type = .touchMoved → ∀ slot front back,
      b.pendingTouchMoves (event.pointerId, targetHint) = some slot →
      b.queue = front ++ .touchMove slot :: back →
      ∀ other pending, .touchMove other ∈ back → b.slots[other]? = some pending →
        pending.key.1 ≠ event.pointerId
  | _ => True

def order (b : EventSourceBridge) : List Event := b.dispatchedEvents ++ b.contents

def InOrder (b : EventSourceBridge) : Prop :=
  ∀ pointer, Coalesced Event.isMove (touches pointer b.posted) (touches pointer b.order)

theorem queue_of_posting {b : EventSourceBridge} (idle : b.posting = none) : b.queue = b.tasks := by
  rw [queue, idle]
  exact List.append_nil _

variable {after : EventSourceBridge}

variable {task : EventTask}

theorem queue_snoc {b : EventSourceBridge} (idle : b.posting = none)
    (tasks : after.tasks = b.tasks) (posting : after.posting = some task) :
    after.queue = b.queue ++ [task] := by
  rw [queue_of_posting idle, queue, tasks, posting]
  rfl

variable {key : TouchMoveKey}

theorem Open.snoc {b : EventSourceBridge} (is_open : b.Open key slot front back)
    (queue : after.queue = b.queue ++ [task])
    (same : ∀ pending, after.slots[slot]? = some pending -> pending.key = key)
    (clear : ∀ event targetHint, task = .event event targetHint -> event.isTouchOf key.1 = false) :
    after.Open key slot front (back ++ [task]) where
  queued := by rw [queue, is_open.queued, List.append_assoc, List.cons_append]
  keyed := same
  behind := by
    intro event targetHint mem
    rcases List.mem_append.mp mem with mem | mem
    · exact is_open.behind event targetHint mem
    · exact clear event targetHint (List.mem_singleton.mp mem).symm

theorem postEvent_inv {b : EventSourceBridge} (inv : QueueInv b) (idle : b.posting = none)
    {event : Event} {targetHint : AcceleratedWidget} (discrete : event.isMove = false)
    (tasks : after.tasks = b.tasks) (posting : after.posting = some (.event event targetHint))
    (slots : after.slots = b.slots)
    (pending : ∀ key slot, after.pendingTouchMoves key = some slot ->
      b.pendingTouchMoves key = some slot /\ event.isTouchOf key.1 = false)
    (counts : after.touchMovesReceived = b.touchMovesReceived /\
      after.touchMovesDispatched = b.touchMovesDispatched /\
      after.touchMovesCoalesced = b.touchMovesCoalesced /\
      after.queuedTouchMoveTasks = b.queuedTouchMoveTasks) : QueueInv after := by
  have queue := queue_snoc idle tasks posting
  have moves : after.queue.filterMap moveSlot = b.queue.filterMap moveSlot := by
    rw [queue, List.filterMap_append]
    exact List.append_nil _
  obtain ⟨received, dispatched, coalesced, queued⟩ := counts
  refine ⟨moves ▸ inv.distinct, ?_, ?_, ?_, ?_, ?_⟩
  · intro slot mem
    rw [<- mem_moveSlots, moves, mem_moveSlots] at mem
    exact slots ▸ inv.held slot mem
  · intro other hint mem
    rw [queue] at mem
    rcases List.mem_append.mp mem with mem | mem
    · exact inv.discrete other hint mem
    · obtain ⟨rfl, -⟩ := EventTask.event.inj (List.mem_singleton.mp mem)
      exact discrete
  · intro key slot is
    obtain ⟨active, clear⟩ := pending key slot is
    obtain ⟨front, back, is_open⟩ := inv.active key slot active
    refine ⟨front, _, is_open.snoc queue (slots ▸ is_open.keyed) fun other hint same => ?_⟩
    obtain ⟨rfl, -⟩ := EventTask.event.inj same
    exact clear
  · rw [queued, moves]
    exact inv.queued
  · rw [received, dispatched, coalesced, queued]
    exact inv.balance

theorem touch_of_move {event : Event} (move : event.type = .touchMoved) :
    event.isTouchEvent = true := by
  simp [Event.isTouchEvent, move]

variable {b : EventSourceBridge} {event : Event} {targetHint : AcceleratedWidget}

theorem QueueInv.held_lt (inv : QueueInv b) (mem : .touchMove slot ∈ b.queue) :
    slot < b.slots.length := by
  obtain ⟨pending, event, holds⟩ := inv.held slot mem
  exact (List.getElem?_eq_some_iff.mp holds.found).1

theorem newSlot_inv (inv : QueueInv b) (idle : b.posting = none) (move : event.type = .touchMoved)
    (fresh : b.pendingTouchMoves (event.pointerId, targetHint) = none) (posted : List Event) :
    QueueInv ({ b with posted := posted }.postTouchMove event targetHint) := by
  unfold postTouchMove
  simp only [fresh]
  generalize after_is : EventSourceBridge.mk _ _ _ _ _ _ _ _ _ _ = after
  have slots : after.slots = b.slots ++ [⟨some event, targetHint, (event.pointerId, targetHint)⟩] := by
    rw [<- after_is]
  have pendings : after.pendingTouchMoves =
      Function.update b.pendingTouchMoves (event.pointerId, targetHint) (some b.slots.length) := by
    rw [<- after_is]
    rfl
  have queue : after.queue = b.queue ++ [.touchMove b.slots.length] :=
    queue_snoc idle (by rw [<- after_is]; rfl) (by rw [<- after_is])
  have moves : after.queue.filterMap moveSlot = b.queue.filterMap moveSlot ++ [b.slots.length] := by
    rw [queue, List.filterMap_append]
    rfl
  have old : ∀ slot, slot < b.slots.length -> after.slots[slot]? = b.slots[slot]? :=
    fun slot inside => by rw [slots, List.getElem?_append_left inside]
  have new : after.slots[b.slots.length]? =
      some ⟨some event, targetHint, (event.pointerId, targetHint)⟩ := by
    rw [slots, List.getElem?_concat_length]
  refine ⟨?_, ?_, ?_, ?_, ?_, ?_⟩
  · rw [moves]
    refine List.nodup_append.mpr ⟨inv.distinct, List.nodup_singleton _, ?_⟩
    intro slot mem other is
    obtain rfl := List.mem_singleton.mp is
    exact (inv.held_lt (mem_moveSlots.mp mem)).ne
  · intro slot mem
    rw [queue] at mem
    rcases List.mem_append.mp mem with mem | mem
    · obtain ⟨pending, held, holds⟩ := inv.held slot mem
      exact ⟨pending, held, { holds with found := (old slot (inv.held_lt mem)).trans holds.found }⟩
    · obtain rfl := EventTask.touchMove.inj (List.mem_singleton.mp mem)
      exact ⟨_, event, new, rfl, move, rfl⟩
  · intro other hint mem
    rw [queue] at mem
    rcases List.mem_append.mp mem with mem | mem
    · exact inv.discrete other hint mem
    · cases List.mem_singleton.mp mem
  · intro key slot is
    rw [pendings] at is
    by_cases same : key = (event.pointerId, targetHint)
    · subst same
      rw [Function.update_self] at is
      obtain rfl := Option.some.inj is
      refine ⟨b.queue, [], queue, fun pending found => ?_, fun _ _ mem => by cases mem⟩
      rw [<- Option.some.inj (new.symm.trans found)]
    · rw [Function.update_of_ne same] at is
      obtain ⟨front, back, is_open⟩ := inv.active key slot is
      have inside : slot < b.slots.length := inv.held_lt (by rw [is_open.queued]; simp)
      exact ⟨front, _, is_open.snoc queue (old slot inside ▸ is_open.keyed)
        fun other hint same => by cases same⟩
  · rw [moves, List.length_append, <- inv.queued, <- after_is]
    rfl
  · have balance := inv.balance
    rw [<- after_is]
    simp only [setPending]
    omega

theorem merge_inv (inv : QueueInv b) (move : event.type = .touchMoved) (active : b.pendingTouchMoves (event.pointerId, targetHint) = some slot)
    (posted : List Event) :
    QueueInv ({ b with posted := posted }.postTouchMove event targetHint) := by
  unfold postTouchMove
  simp only [active]
  generalize after_is : EventSourceBridge.mk _ _ _ _ _ _ _ _ _ _ = after
  have queue : after.queue = b.queue := by
    rw [<- after_is]
    rfl
  have slots : after.slots = (b.setSlot slot (some event)).slots := by
    rw [<- after_is]
    rfl
  refine ⟨queue ▸ inv.distinct, ?_, queue ▸ inv.discrete, ?_, ?_, ?_⟩
  · intro other mem
    rw [queue] at mem
    obtain ⟨pending, held, holds⟩ := inv.held other mem
    by_cases same : other = slot
    · subst same
      obtain ⟨front, back, is_open⟩ := inv.active _ _ active
      refine ⟨_, event, slots ▸ b.getElem?_setSlot_same _ holds.found, rfl, move, ?_⟩
      rw [is_open.keyed pending holds.found]
    · exact ⟨pending, held, { holds with
        found := by rw [slots, b.getElem?_setSlot_ne _ same]; exact holds.found }⟩
  · intro key other is
    rw [<- after_is] at is
    obtain ⟨front, back, is_open⟩ := inv.active key other is
    refine ⟨front, back, queue.trans is_open.queued, fun pending found => ?_, is_open.behind⟩
    by_cases same : other = slot
    · subst same
      obtain ⟨old, held, holds⟩ := inv.held other (by rw [is_open.queued]; simp)
      rw [slots, b.getElem?_setSlot_same _ holds.found] at found
      rw [<- Option.some.inj found]
      exact is_open.keyed old holds.found
    · rw [slots, b.getElem?_setSlot_ne _ same] at found
      exact is_open.keyed pending found
  · rw [queue, <- inv.queued, <- after_is]
    rfl
  · have balance := inv.balance
    rw [<- after_is]
    simp only [setSlot]
    omega

theorem post_inv (inv : QueueInv b) (idle : b.posting = none) (event : Event)
    (targetHint : AcceleratedWidget) : QueueInv (b.postEvent event targetHint) := by
  unfold postEvent
  dsimp only
  split
  next touch =>
    split
    next move =>
      cases active : b.pendingTouchMoves (event.pointerId, targetHint) with
      | none => exact newSlot_inv inv idle move active _
      | some slot => exact merge_inv inv move active _
    next discrete =>
      refine postEvent_inv inv idle (by simpa [Event.isMove] using discrete) rfl rfl rfl ?_
        ⟨rfl, rfl, rfl, rfl⟩
      intro key slot is
      dsimp only at is
      split at is
      · cases is
      next apart => exact ⟨is, by simp [Event.isTouchOf, touch, Ne.symm apart]⟩
  next untouched =>
    have discrete : event.isMove = false := by
      by_contra move
      exact untouched (touch_of_move (by simpa [Event.isMove] using move))
    refine postEvent_inv inv idle discrete rfl rfl rfl ?_ ⟨rfl, rfl, rfl, rfl⟩
    exact fun key slot is => ⟨is, by simp [Event.isTouchOf, untouched]⟩

theorem postTask_inv (inv : QueueInv b) : QueueInv b.postTask := by
  have queue : b.postTask.queue = b.queue := List.append_nil _
  refine ⟨queue ▸ inv.distinct, queue ▸ inv.held, queue ▸ inv.discrete, ?_, queue ▸ inv.queued,
    inv.balance⟩
  intro key slot is
  obtain ⟨front, back, is_open⟩ := inv.active key slot is
  exact ⟨front, back, queue.trans is_open.queued, is_open.keyed, is_open.behind⟩

theorem Open.tail {b : EventSourceBridge} (is_open : b.Open key slot front back) {first : EventTask}
    (queue : b.queue = first :: after.queue) (other : first ≠ .touchMove slot)
    (keyed : ∀ pending, after.slots[slot]? = some pending -> pending.key = key) :
    ∃ front back, after.Open key slot front back := by
  have queued := is_open.queued
  rw [queue] at queued
  cases front with
  | nil => exact absurd (List.cons.inj queued).1 other
  | cons task front => exact ⟨front, back, (List.cons.inj queued).2, keyed, is_open.behind⟩

theorem run_event_inv (inv : QueueInv b) (tasks : b.tasks = .event event targetHint :: rest) :
    QueueInv ({ b with tasks := rest }.dispatch (some event) targetHint) := by
  generalize after_is : EventSourceBridge.dispatch _ _ _ = after
  have queue : b.queue = .event event targetHint :: after.queue := by
    rw [<- after_is, EventSourceBridge.queue, tasks]
    rfl
  have moves : b.queue.filterMap moveSlot = after.queue.filterMap moveSlot := by
    rw [queue]
    rfl
  have slots : after.slots = b.slots := by
    rw [<- after_is]
    rfl
  refine ⟨moves ▸ inv.distinct, ?_, ?_, ?_, ?_, ?_⟩
  · intro slot mem
    exact slots ▸ inv.held slot (queue ▸ List.mem_cons_of_mem _ mem)
  · exact fun other hint mem => inv.discrete other hint (queue ▸ List.mem_cons_of_mem _ mem)
  · intro key slot is
    rw [<- after_is] at is
    obtain ⟨front, back, is_open⟩ := inv.active key slot is
    exact is_open.tail queue (by simp) (slots ▸ is_open.keyed)
  · rw [<- moves, <- inv.queued, <- after_is]
    rfl
  · rw [<- after_is]
    exact inv.balance

theorem closeSlot_some {other : TouchMoveKey} {found : Nat}
    (is : (b.closeSlot key slot).pendingTouchMoves other = some found) :
    b.pendingTouchMoves other = some found /\ ¬ (other = key /\ found = slot) := by
  unfold closeSlot at is
  dsimp only at is
  split at is
  · cases is
  next stays =>
    refine ⟨is, ?_⟩
    rintro ⟨rfl, rfl⟩
    exact stays ⟨rfl, is⟩

theorem run_touchMove_inv (inv : QueueInv b) (tasks : b.tasks = .touchMove slot :: rest) :
    QueueInv ({ b with tasks := rest }.runTouchMove slot) := by
  obtain ⟨pending, event, holds⟩ := inv.held slot (by rw [EventSourceBridge.queue, tasks]; simp)
  unfold runTouchMove
  simp only [holds.found]
  generalize after_is : EventSourceBridge.dispatch _ _ _ = after
  have queue : b.queue = .touchMove slot :: after.queue := by
    rw [<- after_is, EventSourceBridge.queue, tasks]
    rfl
  have moves : b.queue.filterMap moveSlot = slot :: after.queue.filterMap moveSlot := by
    rw [queue]
    rfl
  have slots : after.slots = (b.setSlot slot none).slots := by
    rw [<- after_is]
    rfl
  have pendings : ∀ key other, after.pendingTouchMoves key = some other ->
      b.pendingTouchMoves key = some other /\ (other = slot -> key ≠ pending.key) := by
    intro key other is
    rw [<- after_is] at is
    obtain ⟨active, stays⟩ := closeSlot_some (b := b.setSlot slot none) is
    exact ⟨active, fun same keyed => stays ⟨keyed, same⟩⟩
  have unqueued : slot ∉ after.queue.filterMap moveSlot :=
    (List.nodup_cons.mp (moves ▸ inv.distinct)).1
  refine ⟨(List.nodup_cons.mp (moves ▸ inv.distinct)).2, ?_, ?_, ?_, ?_, ?_⟩
  · intro other mem
    have apart : other ≠ slot := by
      rintro rfl
      exact unqueued (mem_moveSlots.mpr mem)
    obtain ⟨held, event, holds⟩ := inv.held other (queue ▸ List.mem_cons_of_mem _ mem)
    exact ⟨held, event, { holds with
      found := by rw [slots, b.getElem?_setSlot_ne _ apart]; exact holds.found }⟩
  · exact fun other hint mem => inv.discrete other hint (queue ▸ List.mem_cons_of_mem _ mem)
  · intro key other is
    obtain ⟨active, keyed⟩ := pendings key other is
    obtain ⟨front, back, is_open⟩ := inv.active key other active
    have apart : other ≠ slot := by
      rintro rfl
      exact keyed rfl (is_open.keyed pending holds.found).symm
    refine is_open.tail queue (by simpa using apart.symm) fun found at_other => ?_
    rw [slots, b.getElem?_setSlot_ne _ apart] at at_other
    exact is_open.keyed found at_other
  · have queued := inv.queued
    rw [moves, List.length_cons] at queued
    have fewer : after.queuedTouchMoveTasks = b.queuedTouchMoveTasks - 1 := by
      rw [<- after_is]
      rfl
    omega
  · have balance := inv.balance
    have queued := inv.queued
    rw [moves, List.length_cons] at queued
    rw [<- after_is]
    simp only [dispatch, setSlot, closeSlot]
    omega

theorem next_queueInv (inv : QueueInv b) {op : QueueOp} (permitted : b.permitted op) :
    QueueInv (b.next op) := by
  cases op with
  | post event targetHint => exact post_inv inv permitted event targetHint
  | postTask => exact postTask_inv inv
  | run =>
    rw [next, runTask]
    split
    · exact inv
    next slot rest tasks => exact run_touchMove_inv inv tasks
    next event targetHint rest tasks => exact run_event_inv inv tasks

theorem empty_queueInv : QueueInv {} :=
  ⟨.nil, by simp [queue], by simp [queue], by simp, rfl, rfl⟩

end EventSourceBridge

end ChromiumHmos.Ozone
