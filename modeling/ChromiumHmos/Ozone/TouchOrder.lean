import ChromiumHmos.Ozone.TouchQueue

set_option autoImplicit false

/-!
# The order of touch events

What was dispatched of a pointer, then what is queued, is what was posted of it, coalesced.
-/

namespace ChromiumHmos.Ozone

open Coalescing Transition

namespace EventSourceBridge

variable {b : EventSourceBridge} {event : Event} {targetHint : AcceleratedWidget}

theorem touches_append (pointer : Int) (first second : List Event) :
    touches pointer (first ++ second) = touches pointer first ++ touches pointer second :=
  List.filter_append ..

theorem touches_nil (pointer : Int) : touches pointer [] = [] := rfl

variable {pointer : Int}

theorem touches_own {event : Event} (own : event.isTouchOf pointer = true)
    (rest : List Event) : touches pointer (event :: rest) = event :: touches pointer rest :=
  List.filter_cons_of_pos own

theorem touches_other {event : Event} (other : event.isTouchOf pointer = false)
    (rest : List Event) : touches pointer (event :: rest) = touches pointer rest :=
  List.filter_cons_of_neg (by simp [other])

theorem InOrder.post {b after : EventSourceBridge} (inOrder : b.InOrder) {event : Event}
    (posted : after.posted = b.posted ++ [event]) (order : after.order = b.order ++ [event]) :
    after.InOrder := by
  intro pointer
  rw [posted, order, touches_append, touches_append]
  by_cases own : event.isTouchOf pointer
  · rw [touches_own own]
    exact (inOrder pointer).post
  · rw [touches_other (by simpa using own), touches_nil, List.append_nil, List.append_nil]
    exact inOrder pointer

variable {after : EventSourceBridge} {task : EventTask}

theorem order_snoc {b : EventSourceBridge} (idle : b.posting = none)
    (tasks : after.tasks = b.tasks) (posting : after.posting = some task)
    (dispatched : after.dispatched = b.dispatched)
    (same : ∀ slot, .touchMove slot ∈ b.queue -> after.slots[slot]? = b.slots[slot]?) :
    after.order = b.order ++ taskEvents after.slots task := by
  rw [order, order, dispatchedEvents, dispatchedEvents, contents, contents,
    queue_snoc idle tasks posting, List.flatMap_append, taskEvents_congr same, dispatched,
    List.flatMap_singleton, List.append_assoc]

variable {slot tasks : Nat}

theorem back_others (inv : QueueInv b) {key : TouchMoveKey} {front back : List EventTask}
    (is_open : b.Open key slot front back)
    (clear : ∀ other pending, .touchMove other ∈ back -> b.slots[other]? = some pending ->
      pending.key.1 ≠ key.1) : touches key.1 (back.flatMap (taskEvents b.slots)) = [] := by
  refine List.filter_eq_nil_iff.mpr fun event mem own => ?_
  obtain ⟨task, queued, mem⟩ := List.mem_flatMap.mp mem
  cases task with
  | event other hint =>
    obtain rfl := List.mem_singleton.mp mem
    rw [is_open.behind event hint queued] at own
    cases own
  | touchMove other =>
    obtain ⟨pending, held, holds⟩ := inv.held other (by rw [is_open.queued]; simp [queued])
    simp only [taskEvents, holds.found, Option.bind_some, holds.holds, Option.toList_some,
      List.mem_singleton] at mem
    subst mem
    simp only [Event.isTouchOf, decide_eq_true_eq] at own
    exact clear other pending queued holds.found (holds.pointer.symm.trans own.2)

theorem merge_inOrder (inv : QueueInv b) (inOrder : b.InOrder) (move : event.type = .touchMoved) (active : b.pendingTouchMoves (event.pointerId, targetHint) = some slot)
    (clear : b.ClearBehind (.post event targetHint)) :
    ({ b with posted := b.posted ++ [event] }.postTouchMove event targetHint).InOrder := by
  obtain ⟨front, back, is_open⟩ := inv.active _ slot active
  have queued : .touchMove slot ∈ b.queue := by rw [is_open.queued]; simp
  obtain ⟨pending, old, holds⟩ := inv.held slot queued
  have key := is_open.keyed pending holds.found
  have others := back_others inv is_open fun other pending mem found =>
    clear move slot front back active is_open.queued other pending mem found
  -- the slot's event changes, and no other
  have distinct := inv.distinct
  rw [is_open.queued, List.filterMap_append, List.nodup_append] at distinct
  have elsewhere : ∀ tasks : List EventTask, .touchMove slot ∉ tasks ->
      tasks.flatMap (taskEvents (b.setSlot slot (some event)).slots) =
        tasks.flatMap (taskEvents b.slots) := by
    intro tasks absent
    refine taskEvents_congr fun other mem => b.getElem?_setSlot_ne _ ?_
    rintro rfl
    exact absent mem
  have front_apart : .touchMove slot ∉ front := fun mem =>
    distinct.2.2 slot (mem_moveSlots.mpr mem) slot (mem_moveSlots.mpr List.mem_cons_self) rfl
  have back_apart : .touchMove slot ∉ back := fun mem =>
    (List.nodup_cons.mp distinct.2.1).1 (mem_moveSlots.mpr mem)
  have before : b.order =
      (b.dispatchedEvents ++ front.flatMap (taskEvents b.slots)) ++
        old :: back.flatMap (taskEvents b.slots) := by
    rw [order, contents, is_open.queued, List.flatMap_append, List.flatMap_cons]
    simp [taskEvents, holds.found, holds.holds]
  have after : ({ b with posted := b.posted ++ [event] }.postTouchMove event targetHint).order =
      (b.dispatchedEvents ++ front.flatMap (taskEvents b.slots)) ++
        event :: back.flatMap (taskEvents b.slots) := by
    have same : ({ b with posted := b.posted ++ [event] }.postTouchMove event targetHint).order =
        b.dispatchedEvents ++ b.queue.flatMap (taskEvents (b.setSlot slot (some event)).slots) := by
      simp only [postTouchMove, active]
      rfl
    rw [same, is_open.queued, List.flatMap_append, List.flatMap_cons, elsewhere front front_apart,
      elsewhere back back_apart, taskEvents, b.getElem?_setSlot_same _ holds.found]
    simp
  have posted : ({ b with posted := b.posted ++ [event] }.postTouchMove event targetHint).posted =
      b.posted ++ [event] := by
    simp only [postTouchMove, active]
    rfl
  intro pointer
  have kept := inOrder pointer
  rw [posted, after, touches_append, touches_append]
  rw [before, touches_append] at kept
  by_cases own : pointer = event.pointerId
  · subst own
    have old_own : old.isTouchOf event.pointerId = true := by
      simp [Event.isTouchOf, touch_of_move holds.move, holds.pointer, key]
    have new_own : event.isTouchOf event.pointerId = true := by
      simp [Event.isTouchOf, touch_of_move move]
    rw [touches_own old_own, others] at kept
    rw [touches_own new_own, touches_own new_own, others]
    exact .merge (by simp [Event.isMove, holds.move]) (by simp [Event.isMove, move]) kept
  · have old_other : old.isTouchOf pointer = false := by
      simp [Event.isTouchOf, holds.pointer, key, Ne.symm own]
    have new_other : event.isTouchOf pointer = false := by
      simp [Event.isTouchOf, Ne.symm own]
    rw [touches_other old_other] at kept
    rw [touches_other new_other, touches_other new_other, touches_nil, List.append_nil]
    exact kept

theorem task_inOrder (inOrder : b.InOrder) (idle : b.posting = none) (tasks : after.tasks = b.tasks) (posting : after.posting = some task)
    (dispatched : after.dispatched = b.dispatched) (posted : after.posted = b.posted ++ [event])
    (same : ∀ slot, .touchMove slot ∈ b.queue -> after.slots[slot]? = b.slots[slot]?)
    (events : taskEvents after.slots task = [event]) : after.InOrder := by
  refine inOrder.post posted ?_
  rw [order_snoc idle tasks posting dispatched same, events]

theorem post_inOrder (inv : QueueInv b) (inOrder : b.InOrder) (idle : b.posting = none)
    (clear : b.ClearBehind (.post event targetHint)) : (b.postEvent event targetHint).InOrder := by
  unfold postEvent
  dsimp only
  split
  · split
    next move =>
      cases active : b.pendingTouchMoves (event.pointerId, targetHint) with
      | some slot => exact merge_inOrder inv inOrder move active clear
      | none =>
        have old : ∀ slot, .touchMove slot ∈ b.queue ->
            (b.slots ++ [⟨some event, targetHint, (event.pointerId, targetHint)⟩])[slot]? =
              b.slots[slot]? :=
          fun slot mem => List.getElem?_append_left (inv.held_lt mem)
        simp only [postTouchMove, active]
        exact task_inOrder inOrder idle rfl rfl rfl rfl old (by simp [taskEvents])
    · exact task_inOrder inOrder idle rfl rfl rfl rfl (fun _ _ => rfl) rfl
  · exact task_inOrder inOrder idle rfl rfl rfl rfl (fun _ _ => rfl) rfl

theorem run_order (inv : QueueInv b) : b.runTask.order = b.order := by
  rw [runTask]
  split
  · rfl
  next slot rest tasks =>
    have queue : b.queue = .touchMove slot :: (rest ++ b.posting.toList) := by
      rw [EventSourceBridge.queue, tasks]
      rfl
    obtain ⟨pending, event, holds⟩ := inv.held slot (by rw [queue]; exact List.mem_cons_self)
    have distinct := inv.distinct
    rw [queue] at distinct
    have unqueued : slot ∉ (rest ++ b.posting.toList).filterMap moveSlot :=
      (List.nodup_cons.mp distinct).1
    have same : (rest ++ b.posting.toList).flatMap (taskEvents (b.setSlot slot none).slots) =
        (rest ++ b.posting.toList).flatMap (taskEvents b.slots) := by
      refine taskEvents_congr fun other mem => b.getElem?_setSlot_ne _ ?_
      rintro rfl
      exact unqueued (mem_moveSlots.mpr mem)
    have after : ({ b with tasks := rest }.runTouchMove slot).order =
        (b.dispatchedEvents ++ [event]) ++
          (rest ++ b.posting.toList).flatMap (taskEvents (b.setSlot slot none).slots) := by
      simp only [runTouchMove, holds.found, holds.holds]
      rw [order, dispatchedEvents, dispatch, List.map_append]
      rfl
    rw [after, same, order, contents, queue, List.flatMap_cons]
    simp [taskEvents, holds.found, holds.holds]
  next event targetHint rest tasks =>
    rw [order, order, contents, contents, EventSourceBridge.queue, EventSourceBridge.queue, tasks,
      dispatchedEvents, dispatchedEvents, dispatch, List.map_append]
    simp [taskEvents]

theorem run_posted (b : EventSourceBridge) : b.runTask.posted = b.posted := by
  rw [runTask]
  split
  · rfl
  · rw [runTouchMove]
    split <;> rfl
  · rfl

variable {op : QueueOp}

theorem next_inOrder (inv : QueueInv b) (inOrder : b.InOrder)
    (permitted : b.permitted op) (clear : b.ClearBehind op) : (b.next op).InOrder := by
  cases op with
  | post event targetHint => exact post_inOrder inv inOrder permitted clear
  | postTask =>
    have queue : b.postTask.queue = b.queue := List.append_nil _
    have same : b.postTask.order = b.order := by
      rw [order, contents, queue]
      rfl
    intro pointer
    rw [next, same]
    exact inOrder pointer
  | run =>
    intro pointer
    rw [next, run_order inv, run_posted]
    exact inOrder pointer

def touchDiscretes (events : List Event) : List Event :=
  events.filter fun event => event.isTouchEvent && !event.isMove

def taskDiscretes : EventTask → List Event
  | .touchMove _ => []
  | .event event _ => touchDiscretes [event]

def Kept (b : EventSourceBridge) : Prop :=
  touchDiscretes b.posted = touchDiscretes b.dispatchedEvents ++ b.queue.flatMap taskDiscretes

theorem touchDiscretes_append (first second : List Event) :
    touchDiscretes (first ++ second) = touchDiscretes first ++ touchDiscretes second :=
  List.filter_append ..

theorem touchDiscretes_move (move : event.isMove = true) : touchDiscretes [event] = [] := by
  simp [touchDiscretes, move]

theorem post_queue (b : EventSourceBridge) (idle : b.posting = none) (event : Event)
    (targetHint : AcceleratedWidget) :
    (b.postEvent event targetHint).posted = b.posted ++ [event] /\
      (b.postEvent event targetHint).dispatched = b.dispatched /\
      ∃ more, (b.postEvent event targetHint).queue = b.queue ++ more /\
        more.flatMap taskDiscretes = touchDiscretes [event] := by
  unfold postEvent
  dsimp only
  split
  · split
    next move =>
      have nothing : touchDiscretes [event] = [] :=
        touchDiscretes_move (by simpa [Event.isMove] using move)
      cases active : b.pendingTouchMoves (event.pointerId, targetHint) with
      | none =>
        simp only [postTouchMove, active]
        exact ⟨rfl, rfl, [.touchMove b.slots.length], queue_snoc idle rfl rfl, nothing.symm⟩
      | some slot =>
        simp only [postTouchMove, active]
        exact ⟨rfl, rfl, [], (List.append_nil _).symm, nothing.symm⟩
    · exact ⟨rfl, rfl, [.event event targetHint], queue_snoc idle rfl rfl, List.append_nil _⟩
  · exact ⟨rfl, rfl, [.event event targetHint], queue_snoc idle rfl rfl, List.append_nil _⟩

theorem run_queue (inv : QueueInv b) (waiting : b.tasks ≠ []) :
    ∃ first, b.queue = first :: b.runTask.queue /\
      touchDiscretes b.runTask.dispatchedEvents =
        touchDiscretes b.dispatchedEvents ++ taskDiscretes first := by
  cases tasks : b.tasks with
  | nil => exact absurd tasks waiting
  | cons first rest =>
    have queue : b.queue = first :: (rest ++ b.posting.toList) := by
      rw [EventSourceBridge.queue, tasks]
      rfl
    rw [runTask, tasks]
    refine ⟨first, ?_⟩
    cases first with
    | touchMove slot =>
      obtain ⟨pending, event, holds⟩ :=
        inv.held slot (by rw [queue]; exact List.mem_cons_self)
      have nothing : touchDiscretes [event] = [] :=
        touchDiscretes_move (by simp [Event.isMove, holds.move])
      simp only [runTouchMove, holds.found, holds.holds]
      refine ⟨queue, ?_⟩
      rw [dispatchedEvents, dispatch, List.map_append, touchDiscretes_append]
      exact congrArg _ nothing
    | event event targetHint =>
      refine ⟨queue, ?_⟩
      show touchDiscretes ((b.dispatched ++ [(event, targetHint)]).map Prod.fst) = _
      rw [List.map_append, touchDiscretes_append]
      rfl

theorem next_kept (inv : QueueInv b) (kept : b.Kept) (permitted : b.permitted op) :
    (b.next op).Kept := by
  cases op with
  | post event targetHint =>
    obtain ⟨posted, dispatched, more, queue, events⟩ := post_queue b permitted event targetHint
    rw [next, Kept, posted, dispatchedEvents, dispatched, queue, touchDiscretes_append, kept,
      List.flatMap_append, events, List.append_assoc]
    rfl
  | postTask =>
    have queue : b.postTask.queue = b.queue := List.append_nil _
    rw [next, Kept, queue]
    exact kept
  | run =>
    obtain ⟨first, queue, dispatched⟩ := run_queue inv permitted
    rw [next, Kept, run_posted, kept, dispatched, queue, List.flatMap_cons, List.append_assoc]

structure QueueRun where
  state : ℕ → EventSourceBridge
  op : ℕ → QueueOp
  moved : ∀ n, step (state n) (op n) (state (n + 1))

def QueueRun.Fair (run : QueueRun) : Prop :=
  ∀ n, (run.state n).queue ≠ [] → ∃ m, n ≤ m ∧ run.op m = .run

def Awaited (events : List Event) (b : EventSourceBridge) (tasks : Nat) : Prop :=
  ∃ front back, b.queue = front ++ back ∧ front.length = tasks ∧
    events = touchDiscretes b.dispatchedEvents ++ front.flatMap taskDiscretes

variable {events : List Event}

theorem Awaited.other (awaited : Awaited events b tasks) (permitted : b.permitted op) (waits : op ≠ .run) :
    Awaited events (b.next op) tasks := by
  obtain ⟨front, back, queue, length, is⟩ := awaited
  cases op with
  | post event targetHint =>
    obtain ⟨-, dispatched, more, grown, -⟩ := post_queue b permitted event targetHint
    refine ⟨front, back ++ more, ?_, length, ?_⟩
    · rw [next, grown, queue, List.append_assoc]
    · rw [next, dispatchedEvents, dispatched]
      exact is
  | postTask => exact ⟨front, back, (List.append_nil _).trans queue, length, is⟩
  | run => exact absurd rfl waits

theorem Awaited.run (inv : QueueInv b)
    (awaited : Awaited events b (tasks + 1)) (waiting : b.tasks ≠ []) :
    Awaited events b.runTask tasks := by
  obtain ⟨front, back, queue, length, is⟩ := awaited
  obtain ⟨first, split, dispatched⟩ := run_queue inv waiting
  cases front with
  | nil => cases length
  | cons task front =>
    rw [queue, List.cons_append] at split
    obtain ⟨rfl, rest⟩ := List.cons.inj split
    refine ⟨front, back, rest.symm, Nat.succ.inj length, ?_⟩
    rw [is, dispatched, List.flatMap_cons, List.append_assoc]

namespace QueueRun

variable (run : QueueRun)

theorem inv (initial : QueueInv (run.state 0)) (n : ℕ) : QueueInv (run.state n) := by
  induction n with
  | zero => exact initial
  | succ n ih =>
    obtain ⟨permitted, moved⟩ := run.moved n
    exact moved ▸ next_queueInv ih permitted

theorem awaited_falls (initial : QueueInv (run.state 0)) (fair : run.Fair) {events : List Event}
    {tasks : Nat} (n : ℕ) (awaited : Awaited events (run.state n) (tasks + 1)) :
    ∃ m, n <= m /\ Awaited events (run.state m) tasks := by
  have busy : (run.state n).queue ≠ [] := by
    obtain ⟨front, back, queue, length, -⟩ := awaited
    rw [queue]
    rintro none
    rw [(List.append_eq_nil_iff.mp none).1] at length
    cases length
  obtain ⟨m, later, runs⟩ := fair n busy
  obtain ⟨gap, rfl⟩ := Nat.exists_eq_add_of_le later
  induction gap generalizing n with
  | zero =>
    obtain ⟨permitted, moved⟩ := run.moved n
    rw [Nat.add_zero] at runs
    rw [runs] at permitted moved
    exact ⟨n + 1, Nat.le_succ n, moved ▸ awaited.run (run.inv initial n) permitted⟩
  | succ gap ih =>
    obtain ⟨permitted, moved⟩ := run.moved n
    by_cases now : run.op n = .run
    · rw [now] at permitted moved
      exact ⟨n + 1, Nat.le_succ n, moved ▸ awaited.run (run.inv initial n) permitted⟩
    · have waits : Awaited events (run.state (n + 1)) (tasks + 1) :=
        moved ▸ awaited.other permitted now
      have still : (run.state (n + 1)).queue ≠ [] := by
        obtain ⟨front, back, queue, length, -⟩ := waits
        rw [queue]
        rintro none
        rw [(List.append_eq_nil_iff.mp none).1] at length
        cases length
      have runs' : run.op (n + 1 + gap) = .run := by
        rw [<- runs]
        congr 1
        omega
      obtain ⟨m, later, falls⟩ := ih (n + 1) waits still (by omega) runs'
      exact ⟨m, by omega, falls⟩

theorem drained (initial : QueueInv (run.state 0)) (fair : run.Fair) {n : ℕ}
    (kept : (run.state n).Kept) :
    ∃ m, n <= m /\ touchDiscretes (run.state m).dispatchedEvents = touchDiscretes (run.state n).posted := by
  have awaited : Awaited (touchDiscretes (run.state n).posted) (run.state n)
      (run.state n).queue.length := ⟨_, [], (List.append_nil _).symm, rfl, kept⟩
  obtain ⟨m, later, front, back, -, length, is⟩ := eventually_of_rank (fun n => n)
    (fun m => Awaited (touchDiscretes (run.state n).posted) (run.state m) 0)
    (fun m tasks => Awaited (touchDiscretes (run.state n).posted) (run.state m) tasks)
    (fun m tasks waits => by
      cases tasks with
      | zero => exact ⟨m, le_rfl, .inl waits⟩
      | succ tasks =>
        obtain ⟨k, later, falls⟩ := run.awaited_falls initial fair m waits
        exact ⟨k, later, .inr ⟨tasks, Nat.lt_succ_self _, falls⟩⟩) n _ awaited
  refine ⟨m, later, ?_⟩
  rw [is, List.eq_nil_of_length_eq_zero length]
  exact (List.append_nil _).symm

end QueueRun

theorem discretes_append (first second : List Event) :
    discretes (first ++ second) = discretes first ++ discretes second :=
  List.filter_append ..

theorem last_dispatched (inOrder : b.InOrder) {before after : List Event}
    {move next : Event} (posted : touches pointer b.posted = before ++ move :: next :: after)
    (moves : move.isMove = true) (discrete : next.isMove = false)
    (gone : (discretes before).length < (discretes (touches pointer b.dispatchedEvents)).length) :
    ∃ front back, touches pointer b.dispatchedEvents = front ++ move :: next :: back /\
      discretes front = discretes before := by
  obtain ⟨front, back, split, same⟩ := (inOrder pointer).last_before posted moves discrete
  replace same : discretes front = discretes before := same
  rw [order, touches_append] at split
  rcases List.append_eq_append_iff.mp split with ⟨rest, is, -⟩ | ⟨rest, is, tail⟩
  · -- no event of `rest`, so not the last of `before` either, was dispatched
    rw [<- same, is, discretes_append, List.length_append] at gone
    omega
  · cases rest with
    | nil =>
      rw [is, List.append_nil, same] at gone
      exact absurd gone (lt_irrefl _)
    | cons first rest =>
      rw [List.cons_append] at tail
      obtain ⟨rfl, following⟩ := List.cons.inj tail
      cases rest with
      | nil =>
        have nothing : discretes [move] = [] := by simp [discretes, moves]
        rw [is, discretes_append, nothing, List.append_nil, same] at gone
        exact absurd gone (lt_irrefl _)
      | cons second rest =>
        obtain ⟨rfl, -⟩ := List.cons.inj following
        exact ⟨front, rest, is, same⟩

structure TouchOrdered (b : EventSourceBridge) : Prop where
  subsequence : ∀ pointer,
    (touches pointer b.dispatchedEvents).Sublist (touches pointer b.posted)
  last : ∀ pointer before move next after,
    touches pointer b.posted = before ++ move :: next :: after →
    move.isMove = true → next.isMove = false →
    (discretes before).length < (discretes (touches pointer b.dispatchedEvents)).length →
    ∃ front back, touches pointer b.dispatchedEvents = front ++ move :: next :: back ∧
      discretes front = discretes before
  dispatched : ∀ run : QueueRun, run.state 0 = b → run.Fair →
    ∃ m, touchDiscretes (run.state m).dispatchedEvents = touchDiscretes b.posted
  balance : b.touchMovesReceived =
    b.touchMovesDispatched + b.touchMovesCoalesced + b.queuedTouchMoveTasks

/-- A step that merges no move into one with another move of its pointer behind it. -/
def clearStep : EventSourceBridge → QueueOp → EventSourceBridge → Prop :=
  guarded (fun b op => b.permitted op ∧ b.ClearBehind op) next

structure ClearInv (b : EventSourceBridge) : Prop where
  queue : QueueInv b
  kept : b.Kept
  inOrder : b.InOrder

theorem clearStep_inv (b : EventSourceBridge) (op : QueueOp) (after : EventSourceBridge)
    (inv : ClearInv b) (moved : clearStep b op after) : ClearInv after := by
  obtain ⟨⟨permitted, clear⟩, rfl⟩ := moved
  exact ⟨next_queueInv inv.queue permitted, next_kept inv.queue inv.kept permitted,
    next_inOrder inv.queue inv.inOrder permitted clear⟩

theorem clear_inv {trace : List (EventSourceBridge × QueueOp)} (run : Trace clearStep {} trace b) :
    ClearInv b :=
  run.preserves clearStep_inv ⟨empty_queueInv, rfl, fun _ => .nil⟩

theorem touches_ordered {trace : List (EventSourceBridge × QueueOp)}
    (run : Trace clearStep {} trace b) : TouchOrdered b := by
  obtain ⟨inv, kept, inOrder⟩ := clear_inv run
  refine ⟨fun pointer => ?_, fun pointer before move next after => last_dispatched inOrder, ?_,
    inv.balance⟩
  · have all := (inOrder pointer).sublist
    rw [order, touches_append] at all
    exact (List.sublist_append_left _ _).trans all
  · rintro later rfl fair
    obtain ⟨m, -, drained⟩ := later.drained inv fair kept
    exact ⟨m, drained⟩

def fingerMove (time : Nat) : Event := { type := .touchMoved, pointerId := 3, timeStamp := time }

def fingerUp (time : Nat) : Event := { type := .touchReleased, pointerId := 3, timeStamp := time }

-- The second move takes the place of the first.
theorem touches_ordered_merged :
    ∃ b : EventSourceBridge, b.dispatchedEvents = [fingerMove 2, fingerUp 3] ∧
      b.touchMovesCoalesced = 1 ∧ TouchOrdered b := by
  have alone : ∀ b : EventSourceBridge, b.queue.length = 1 → ∀ op, b.ClearBehind op := by
    intro b single op
    cases op with
    | post event targetHint =>
      intro move slot front back active queue other pending mem found
      rw [queue, List.length_append, List.length_cons] at single
      rw [List.eq_nil_of_length_eq_zero (by omega : back.length = 0)] at mem
      cases mem
    | postTask => trivial
    | run => trivial
  have follows : Follows (fun b op => EventSourceBridge.permitted b op ∧ b.ClearBehind op) next {}
      [.post (fingerMove 1) 5, .postTask, .post (fingerMove 2) 5, .post (fingerUp 3) 5, .postTask,
        .run, .run] :=
    ⟨⟨rfl, fun _ _ _ _ active => by cases active⟩, ⟨by decide, trivial⟩, ⟨rfl, alone _ (by decide) _⟩,
      ⟨rfl, fun move => by cases move⟩, ⟨by decide, trivial⟩, ⟨by decide, trivial⟩,
      ⟨by decide, trivial⟩, trivial⟩
  obtain ⟨trace, run, -⟩ := follows.trace
  exact ⟨_, by decide, by decide, touches_ordered run⟩

-- The third move takes the place of the first, ahead of the second.
theorem moves_swapped :
    ¬ ∀ (trace : List (EventSourceBridge × QueueOp)) (b : EventSourceBridge), Trace step {} trace b →
      ∀ pointer, (touches pointer b.dispatchedEvents).Sublist (touches pointer b.posted) := by
  intro every
  have follows : Follows permitted next {}
      [.post (fingerMove 1) 5, .postTask, .post (fingerMove 2) 6, .postTask, .post (fingerMove 3) 5,
        .run, .run] :=
    ⟨rfl, by decide, rfl, by decide, rfl, by decide, by decide, trivial⟩
  obtain ⟨trace, run, -⟩ := follows.trace
  have swapped : [fingerMove 3, fingerMove 2].Sublist [fingerMove 1, fingerMove 2, fingerMove 3] :=
    every _ _ run 3
  exact absurd swapped (by decide)

end EventSourceBridge

end ChromiumHmos.Ozone
