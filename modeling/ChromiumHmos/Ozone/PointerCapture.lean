import ChromiumHmos.Ozone.EventSource

set_option autoImplicit false

/-!
# Pointer captures

What the buttons and fingers that are down say a window is due, and what the source delivers.
Events are dispatched one after another; windows come and go between them.
-/

namespace ChromiumHmos.Ozone

open Transition

/-- The buttons held and the window they are held for, and the window of each finger's down. -/
structure Gestures where
  held : Finset MouseButton := ∅
  owner : Option AcceleratedWidget := none
  touchOwners : Int → Option AcceleratedWidget := fun _ => none

namespace Gestures

/-- Flags say what is held, and for a press or a release what changes. -/
def WellFormed (g : Gestures) (event : Event) : Prop :=
  match event.type with
  | .mousePressed => event.changedButtonFlags ≠ ∅ ∧ Disjoint event.changedButtonFlags g.held ∧
      event.buttonFlags = g.held ∪ event.changedButtonFlags
  | .mouseReleased => event.buttonFlags = g.held ∪ event.changedButtonFlags
  | .mouseDragged | .mouseMoved | .mouseEntered | .mouseExited | .mouseWheel
  | .mouseCaptureChanged => event.buttonFlags = g.held
  | .touchPressed | .touchMoved | .touchReleased | .touchCancelled | .keyPressed
  | .keyReleased => True

def heldAfter (g : Gestures) (event : Event) : Finset MouseButton :=
  match event.type with
  | .mousePressed => g.held ∪ event.changedButtonFlags
  | .mouseReleased => g.held \ event.changedButtonFlags
  | _ => g.held

/-- The window the event is due. -/
def due (g : Gestures) (event : Event) : Option AcceleratedWidget :=
  if event.isMouseEvent then g.owner
  else if event.isTouchEvent ∧ event.type ≠ .touchPressed then g.touchOwners event.pointerId
  else none

/-- A window that is registered becomes an owner by taking a press or a down. -/
def takes (r : NativeWindowRegistry) (target : AcceleratedWidget) : Option AcceleratedWidget :=
  if target ≠ kNullAcceleratedWidget ∧ (r.getLogicalWindowBounds target).isSome then some target
  else none

def observeMouse (g : Gestures) (r : NativeWindowRegistry) (event : Event)
    (target : AcceleratedWidget) : Gestures :=
  let held := g.heldAfter event
  let owner := if event.type = .mousePressed then g.owner.or (takes r target) else g.owner
  { g with held, owner := if held = ∅ then none else owner }

def observeTouch (g : Gestures) (r : NativeWindowRegistry) (event : Event)
    (target : AcceleratedWidget) : Gestures :=
  let owner := match event.type with
    | .touchPressed => takes r target
    | .touchReleased | .touchCancelled => none
    | _ => g.touchOwners event.pointerId
  { g with touchOwners := Function.update g.touchOwners event.pointerId owner }

def observe (g : Gestures) (r : NativeWindowRegistry) (event : Event) (target : AcceleratedWidget) :
    Gestures :=
  if event.isMouseEvent then g.observeMouse r event target
  else if event.isTouchEvent then g.observeTouch r event target
  else g

def retain (g : Gestures) (keeps : AcceleratedWidget → Bool) : Gestures :=
  { g with
    owner := g.owner.filter keeps
    touchOwners := fun pointer => (g.touchOwners pointer).filter keeps }

end Gestures

structure Dispatched where
  delivery : OhosEventSource.Delivery
  due : Option AcceleratedWidget

structure PointerInput where
  source : OhosEventSource := {}
  registry : NativeWindowRegistry := {}
  gestures : Gestures := {}
  log : List Dispatched := []

inductive PointerOp
  | dispatch (event : Event) (targetHint : AcceleratedWidget)
  -- Windows are made, moved, bound or destroyed.
  | registry (after : NativeWindowRegistry)
  -- `ResetPointerCaptures`: the shell says that a gesture is over.
  | reset (widget : AcceleratedWidget)

namespace PointerInput

def dispatch (s : PointerInput) (event : Event) (targetHint : AcceleratedWidget) : PointerInput :=
  let (source, delivery) := s.source.dispatchOwnedEvent s.registry event targetHint
  { s with
    source
    gestures := s.gestures.observe s.registry event delivery.target
    log := s.log ++ [⟨delivery, s.gestures.due event⟩] }

def next (s : PointerInput) : PointerOp → PointerInput
  | .dispatch event targetHint => s.dispatch event targetHint
  | .registry after =>
    { s with
      registry := after
      gestures := s.gestures.retain fun widget => (after.getLogicalWindowBounds widget).isSome }
  | .reset widget =>
    { s with
      source := s.source.resetPointerCaptures widget
      gestures := s.gestures.retain fun owner =>
        widget ≠ kNullAcceleratedWidget ∧ owner ≠ widget }

def permitted (s : PointerInput) : PointerOp → Prop
  | .dispatch event _ => s.gestures.WellFormed event
  | .registry _ | .reset _ => True

def step : PointerInput → PointerOp → PointerInput → Prop := guarded permitted next

/-- No button is released, and the mouse not taken away, while another button is held. -/
def LastReleased (s : PointerInput) : PointerOp → Prop
  | .dispatch event _ =>
    event.type = .mouseReleased ∨ event.type = .mouseCaptureChanged →
      s.gestures.heldAfter event = ∅
  | .registry _ | .reset _ => True

structure Captured (source : OhosEventSource) (r : NativeWindowRegistry) (g : Gestures) : Prop where
  mouse : ∀ widget, g.owner = some widget → source.mouseCapture = widget ∧
    widget ≠ kNullAcceleratedWidget ∧ (r.getLogicalWindowBounds widget).isSome
  ended : g.held = ∅ → source.mouseCapture = kNullAcceleratedWidget ∧ g.owner = none
  touch : ∀ pointer widget, g.touchOwners pointer = some widget →
    source.touchCaptures pointer = some widget ∧ (r.getLogicalWindowBounds widget).isSome

end PointerInput

namespace OhosEventSource

variable {s : OhosEventSource} {r : NativeWindowRegistry} {g : Gestures} {event : Event}

theorem resolve_mouse (mouse : event.isMouseEvent = true) (targetHint : AcceleratedWidget) :
    s.resolveDispatchTarget r event targetHint =
      s.resolveMouse r event (targetAtPoint r (toRoundedPoint event.rootLocation) targetHint) := by
  have touchless : event.isTouchEvent = false := by
    revert mouse
    unfold Event.isMouseEvent Event.isTouchEvent
    cases event.type <;> simp
  simp [resolveDispatchTarget, Event.isLocatedEvent, mouse, touchless]

theorem resolve_touch (touch : event.isTouchEvent = true) (targetHint : AcceleratedWidget) :
    s.resolveDispatchTarget r event targetHint =
      s.resolveTouch r event (targetAtPoint r (toRoundedPoint event.rootLocation) targetHint) := by
  simp [resolveDispatchTarget, Event.isLocatedEvent, touch]

theorem resolve_key (key : event.isLocatedEvent = false) (targetHint : AcceleratedWidget) :
    s.resolveDispatchTarget r event targetHint = (s, keyTarget r targetHint) := by
  simp [resolveDispatchTarget, key]

theorem resolveMouse_touchCaptures (s : OhosEventSource) (r : NativeWindowRegistry) (event : Event)
    (target : AcceleratedWidget) :
    (s.resolveMouse r event target).1.touchCaptures = s.touchCaptures := by
  unfold resolveMouse
  dsimp only
  split
  · rfl
  · split <;> rfl

theorem mouseCaptureAt_cases (s : OhosEventSource) (r : NativeWindowRegistry) (event : Event) :
    s.mouseCaptureAt r event = kNullAcceleratedWidget \/
      s.mouseCaptureAt r event = s.mouseCapture := by
  unfold mouseCaptureAt
  split
  · exact .inl rfl
  · split
    · exact .inr rfl
    · exact .inl rfl

theorem resolveMouse_pressed (pressed : event.type = .mousePressed) {target : AcceleratedWidget}
    (real : (s.resolveMouse r event target).2 ≠ kNullAcceleratedWidget) :
    (s.resolveMouse r event target).1.mouseCapture = (s.resolveMouse r event target).2 := by
  unfold resolveMouse at real ⊢
  dsimp only at real ⊢
  split at real
  next captured =>
    rw [if_pos captured]
    exact ((s.mouseCaptureAt_cases r event).resolve_left captured).symm
  next free =>
    rw [if_neg free]
    split at real
    next takes =>
      rw [if_pos takes]
    next other =>
      exact absurd ⟨pressed, real⟩ other

theorem resolveMouse_held {widget : AcceleratedWidget} (capture : s.mouseCapture = widget)
    (real : widget ≠ kNullAcceleratedWidget) (registered : (r.getLogicalWindowBounds widget).isSome)
    (wellFormed : g.WellFormed event) (mouse : event.isMouseEvent = true) (held : g.held ≠ ∅)
    (target : AcceleratedWidget) : s.resolveMouse r event target = (s, widget) := by
  have flags : event.buttonFlags ≠ ∅ := by
    obtain ⟨button, mem⟩ := Finset.nonempty_iff_ne_empty.mpr held
    have among : button ∈ event.buttonFlags := by
      revert wellFormed mouse
      unfold Gestures.WellFormed Event.isMouseEvent
      cases event.type <;> simp +contextual [mem]
    exact Finset.ne_empty_of_mem among
  have continues : startsNewSequence event = false := by
    by_contra starts
    simp only [startsNewSequence, Bool.not_eq_false, decide_eq_true_eq] at starts
    obtain ⟨pressed, only⟩ := starts
    simp only [Gestures.WellFormed, pressed] at wellFormed
    obtain ⟨-, apart, flags⟩ := wellFormed
    rw [flags, Finset.union_sdiff_cancel_right apart.symm] at only
    exact held only
  have active : hasNoActiveButtons event = false := by simp [hasNoActiveButtons, flags]
  have at_event : s.mouseCaptureAt r event = widget := by
    simp [mouseCaptureAt, continues, active, capture, real, registered]
  simp [resolveMouse, at_event, real]

theorem resolveMouse_idle (flags : event.buttonFlags = ∅) (unreleased : event.type ≠ .mouseReleased)
    (unpressed : event.type ≠ .mousePressed) (target : AcceleratedWidget) :
    (s.resolveMouse r event target).1.mouseCapture = kNullAcceleratedWidget := by
  have idle : hasNoActiveButtons event = true := by simp [hasNoActiveButtons, flags, unreleased]
  simp [resolveMouse, mouseCaptureAt, idle, unpressed]

theorem release_clears (s : OhosEventSource)
    (ends : event.type = .mouseReleased \/ event.type = .mouseCaptureChanged) :
    s.releasePointerCaptureAfterDispatch event =
      { s with mouseCapture := kNullAcceleratedWidget } := by
  rcases ends with is | is <;> simp [releasePointerCaptureAfterDispatch, is]

theorem release_keeps (s : OhosEventSource) (mouse : event.isMouseEvent = true)
    (goes_on : ¬ (event.type = .mouseReleased \/ event.type = .mouseCaptureChanged)) :
    s.releasePointerCaptureAfterDispatch event = s := by
  revert mouse goes_on
  unfold Event.isMouseEvent releasePointerCaptureAfterDispatch
  cases event.type <;> simp

end OhosEventSource

namespace PointerInput

open OhosEventSource

variable {s : OhosEventSource} {r : NativeWindowRegistry} {g : Gestures} {event : Event}

variable {widget : AcceleratedWidget}

theorem Captured.held (captured : Captured s r g) (owner : g.owner = some widget) : g.held ≠ ∅ := by
  intro nothing
  rw [(captured.ended nothing).2] at owner
  cases owner

theorem Captured.mouse_due (captured : Captured s r g) (wellFormed : g.WellFormed event)
    (mouse : event.isMouseEvent = true)
    (owner : g.owner = some widget) (target : AcceleratedWidget) :
    s.resolveMouse r event target = (s, widget) := by
  obtain ⟨capture, real, registered⟩ := captured.mouse widget owner
  exact resolveMouse_held capture real registered wellFormed mouse (captured.held owner) target

theorem takes_some {target : AcceleratedWidget} (takes : Gestures.takes r target = some widget) :
    target = widget /\ widget ≠ kNullAcceleratedWidget /\
      (r.getLogicalWindowBounds widget).isSome := by
  unfold Gestures.takes at takes
  split at takes
  next real =>
    obtain rfl := Option.some.inj takes
    exact ⟨rfl, real.1, real.2⟩
  · cases takes

theorem observeMouse_owner {target : AcceleratedWidget}
    (owner : (g.observeMouse r event target).owner = some widget) :
    g.heldAfter event ≠ ∅ /\ (g.owner = some widget \/
      (g.owner = none /\ event.type = .mousePressed /\ Gestures.takes r target = some widget)) := by
  simp only [Gestures.observeMouse] at owner
  split at owner
  · cases owner
  next held =>
    refine ⟨held, ?_⟩
    split at owner
    next pressed =>
      cases is : g.owner with
      | none =>
        rw [is, Option.none_or] at owner
        exact .inr ⟨rfl, pressed, owner⟩
      | some old =>
        rw [is, Option.some_or] at owner
        exact .inl owner
    · exact .inl owner

theorem mouse_captured (captured : Captured s r g) (wellFormed : g.WellFormed event)
    (mouse : event.isMouseEvent = true)
    (last : event.type = .mouseReleased \/ event.type = .mouseCaptureChanged ->
      g.heldAfter event = ∅) (target : AcceleratedWidget) :
    Captured ((s.resolveMouse r event target).1.releasePointerCaptureAfterDispatch event) r
      (g.observeMouse r event (s.resolveMouse r event target).2) := by
  have touch := captured.touch
  rw [<- resolveMouse_touchCaptures s r event target] at touch
  by_cases ends : event.type = .mouseReleased \/ event.type = .mouseCaptureChanged
  · rw [release_clears _ ends]
    have ended := last ends
    refine ⟨fun widget owner => absurd ended (observeMouse_owner owner).1, fun _ => ⟨rfl, ?_⟩, touch⟩
    simp [Gestures.observeMouse, ended]
  · rw [release_keeps _ mouse ends]
    simp only [not_or] at ends
    refine ⟨fun widget owner => ?_, fun ended => ?_, touch⟩
    · obtain ⟨-, owner | ⟨-, pressed, takes⟩⟩ := observeMouse_owner owner
      · rw [captured.mouse_due wellFormed mouse owner target]
        exact captured.mouse widget owner
      · obtain ⟨rfl, real, registered⟩ := takes_some takes
        exact ⟨resolveMouse_pressed pressed real, real, registered⟩
    · have unpressed : event.type ≠ .mousePressed := by
        intro pressed
        simp only [Gestures.observeMouse, Gestures.heldAfter, pressed] at ended
        simp only [Gestures.WellFormed, pressed] at wellFormed
        exact wellFormed.1 (Finset.union_eq_empty.mp ended).2
      have unheld : g.held = ∅ /\ event.buttonFlags = g.held := by
        revert ended wellFormed mouse ends unpressed
        simp only [Gestures.observeMouse, Gestures.heldAfter, Gestures.WellFormed, Event.isMouseEvent]
        cases event.type <;> simp +contextual
      refine ⟨resolveMouse_idle (unheld.2.trans unheld.1) ends.1 unpressed target, ?_⟩
      simp only [Gestures.observeMouse] at ended ⊢
      rw [if_pos ended]

theorem resolveTouch_mouseCapture (s : OhosEventSource) (r : NativeWindowRegistry) (event : Event)
    (target : AcceleratedWidget) :
    (s.resolveTouch r event target).1.mouseCapture = s.mouseCapture := by
  unfold resolveTouch
  split <;> rfl

theorem resolveTouch_other (s : OhosEventSource) (r : NativeWindowRegistry) (event : Event)
    (target : AcceleratedWidget) {pointer : Int} (other : pointer ≠ event.pointerId) :
    (s.resolveTouch r event target).1.touchCaptures pointer = s.touchCaptures pointer := by
  unfold resolveTouch
  split
  · rfl
  · exact Function.update_of_ne other _ _

theorem resolveTouch_pressed (pressed : event.type = .touchPressed) (target : AcceleratedWidget) :
    s.resolveTouch r event target = (s.setTouchCapture event.pointerId
      (if target ≠ kNullAcceleratedWidget then some target else none), target) := by
  simp [resolveTouch, touchCapture, pressed]

theorem resolveTouch_captured (unpressed : event.type ≠ .touchPressed)
    (capture : s.touchCaptures event.pointerId = some widget)
    (registered : (r.getLogicalWindowBounds widget).isSome) (target : AcceleratedWidget) :
    s.resolveTouch r event target = (s, widget) := by
  have kept : s.touchCapture r event = some widget := by
    rw [touchCapture, if_neg unpressed, capture]
    exact Option.filter_eq_some_iff.mpr ⟨rfl, registered⟩
  rw [resolveTouch, kept]

theorem release_touch (s : OhosEventSource) (touch : event.isTouchEvent = true) :
    s.releasePointerCaptureAfterDispatch event =
      if event.type = .touchReleased \/ event.type = .touchCancelled then
        s.setTouchCapture event.pointerId none
      else s := by
  revert touch
  unfold Event.isTouchEvent releasePointerCaptureAfterDispatch
  cases event.type <;> simp

theorem Captured.touch_due (captured : Captured s r g)
    (unpressed : event.type ≠ .touchPressed) (owner : g.touchOwners event.pointerId = some widget)
    (target : AcceleratedWidget) : s.resolveTouch r event target = (s, widget) := by
  obtain ⟨capture, registered⟩ := captured.touch _ widget owner
  exact resolveTouch_captured unpressed capture registered target

theorem touch_captured (captured : Captured s r g) (touch : event.isTouchEvent = true)
    (target : AcceleratedWidget) :
    Captured ((s.resolveTouch r event target).1.releasePointerCaptureAfterDispatch event) r
      (g.observeTouch r event (s.resolveTouch r event target).2) := by
  rw [release_touch _ touch]
  have mouse : ∀ ends : Prop, [Decidable ends] -> (if ends then
      (s.resolveTouch r event target).1.setTouchCapture event.pointerId none
      else (s.resolveTouch r event target).1).mouseCapture = s.mouseCapture := by
    intro ends _
    rw [<- resolveTouch_mouseCapture s r event target]
    split <;> rfl
  refine ⟨fun widget owner => ?_, fun held => ?_, fun pointer widget owner => ?_⟩
  · rw [mouse]
    exact captured.mouse widget owner
  · rw [mouse]
    exact captured.ended held
  · simp only [Gestures.observeTouch] at owner
    by_cases own : pointer = event.pointerId
    · subst own
      rw [Function.update_self] at owner
      split at owner
      next pressed =>
        rw [resolveTouch_pressed pressed] at owner ⊢
        obtain ⟨rfl, real, registered⟩ := takes_some owner
        rw [if_neg (by simp [pressed]), if_pos real]
        exact ⟨Function.update_self .., registered⟩
      · cases owner
      · cases owner
      next unpressed unreleased uncancelled =>
        rw [if_neg (by rintro (is | is); exacts [unreleased is, uncancelled is]),
          captured.touch_due unpressed owner]
        exact captured.touch _ widget owner
    · rw [Function.update_of_ne own] at owner
      have other : ∀ ends : Prop, [Decidable ends] -> (if ends then
          (s.resolveTouch r event target).1.setTouchCapture event.pointerId none
          else (s.resolveTouch r event target).1).touchCaptures pointer =
            s.touchCaptures pointer := by
        intro ends _
        rw [<- resolveTouch_other s r event target own]
        split
        · exact Function.update_of_ne own _ _
        · rfl
      rw [other]
      exact captured.touch pointer widget owner

theorem Captured.retain {after : NativeWindowRegistry} {source : OhosEventSource}
    (captured : Captured s r g) {keeps : AcceleratedWidget -> Bool}
    (mouse : ∀ widget, keeps widget = true -> s.mouseCapture = widget ->
      source.mouseCapture = widget)
    (ended : s.mouseCapture = kNullAcceleratedWidget -> source.mouseCapture = kNullAcceleratedWidget)
    (touch : ∀ pointer widget, keeps widget = true -> s.touchCaptures pointer = some widget ->
      source.touchCaptures pointer = some widget)
    (registered : ∀ widget, keeps widget = true -> (r.getLogicalWindowBounds widget).isSome ->
      (after.getLogicalWindowBounds widget).isSome) : Captured source after (g.retain keeps) := by
  refine ⟨fun widget owner => ?_, fun held => ?_, fun pointer widget owner => ?_⟩
  · obtain ⟨owner, kept⟩ := Option.filter_eq_some_iff.mp owner
    obtain ⟨capture, real, there⟩ := captured.mouse widget owner
    exact ⟨mouse widget kept capture, real, registered widget kept there⟩
  · obtain ⟨capture, owner⟩ := captured.ended held
    refine ⟨ended capture, ?_⟩
    show g.owner.filter keeps = none
    rw [owner]
    rfl
  · obtain ⟨owner, kept⟩ := Option.filter_eq_some_iff.mp owner
    obtain ⟨capture, there⟩ := captured.touch pointer widget owner
    exact ⟨touch pointer widget kept capture, registered widget kept there⟩

structure CaptureInv (s : PointerInput) : Prop where
  captured : Captured s.source s.registry s.gestures
  delivered : ∀ dispatched ∈ s.log, ∀ widget, dispatched.due = some widget →
    dispatched.delivery.target = widget

theorem dispatch_inv {s : PointerInput} (inv : CaptureInv s) {targetHint : AcceleratedWidget}
    (wellFormed : s.gestures.WellFormed event) (last : s.LastReleased (.dispatch event targetHint)) :
    CaptureInv (s.dispatch event targetHint) := by
  have captured := inv.captured
  have logged : ∀ target, (∀ widget, s.gestures.due event = some widget -> target = widget) ->
      ∀ delivered : Event, ∀ dispatched ∈ s.log ++ [⟨⟨delivered, target⟩, s.gestures.due event⟩],
        ∀ widget, dispatched.due = some widget -> dispatched.delivery.target = widget := by
    intro target due delivered dispatched mem
    rcases List.mem_append.mp mem with mem | mem
    · exact inv.delivered dispatched mem
    · rw [List.mem_singleton.mp mem]
      exact due
  unfold dispatch dispatchOwnedEvent
  dsimp only
  by_cases mouse : event.isMouseEvent
  · rw [resolve_mouse mouse]
    have observed : ∀ target, s.gestures.observe s.registry event target =
        s.gestures.observeMouse s.registry event target := fun target => by
      rw [Gestures.observe, if_pos mouse]
    refine ⟨?_, logged _ (fun widget due => ?_) _⟩
    · dsimp only
      rw [observed]
      exact mouse_captured captured wellFormed mouse last _
    · rw [Gestures.due, if_pos mouse] at due
      rw [captured.mouse_due wellFormed mouse due]
  · by_cases touch : event.isTouchEvent
    · rw [resolve_touch touch]
      have observed : ∀ target, s.gestures.observe s.registry event target =
          s.gestures.observeTouch s.registry event target := fun target => by
        rw [Gestures.observe, if_neg mouse, if_pos touch]
      refine ⟨?_, logged _ (fun widget due => ?_) _⟩
      · dsimp only
        rw [observed]
        exact touch_captured captured touch _
      · rw [Gestures.due, if_neg mouse] at due
        split at due
        next unpressed => rw [captured.touch_due unpressed.2 due]
        · cases due
    · rw [resolve_key (by simp [Event.isLocatedEvent, mouse, touch])]
      have kept : s.source.releasePointerCaptureAfterDispatch event = s.source := by
        revert mouse touch
        unfold Event.isMouseEvent Event.isTouchEvent releasePointerCaptureAfterDispatch
        cases event.type <;> simp
      refine ⟨?_, logged _ (fun widget due => ?_) _⟩
      · dsimp only
        rw [Gestures.observe, if_neg mouse, if_neg touch, kept]
        exact captured
      · rw [Gestures.due, if_neg mouse, if_neg (by simp [touch])] at due
        cases due

theorem next_captureInv {s : PointerInput} (inv : CaptureInv s) {op : PointerOp}
    (permitted : s.permitted op) (last : s.LastReleased op) : CaptureInv (s.next op) := by
  cases op with
  | dispatch event targetHint => exact dispatch_inv inv permitted last
  | registry after =>
    exact ⟨inv.captured.retain (fun _ _ same => same) id (fun _ _ _ same => same)
      (fun _ kept _ => kept), inv.delivered⟩
  | reset widget =>
    have retained : Captured (s.source.resetPointerCaptures widget) s.registry
        (s.gestures.retain fun owner => widget ≠ kNullAcceleratedWidget /\ owner ≠ widget) := by
      refine inv.captured.retain ?_ ?_ ?_ (fun _ _ there => there)
      · intro owner kept capture
        obtain ⟨real, other⟩ := of_decide_eq_true kept
        simp [resetPointerCaptures, real, capture, other]
      · intro nowhere
        unfold resetPointerCaptures
        split
        · rfl
        · simp [nowhere]
      · intro pointer owner kept capture
        obtain ⟨real, other⟩ := of_decide_eq_true kept
        simp only [resetPointerCaptures, if_neg real, capture]
        exact Option.filter_eq_some_iff.mpr ⟨rfl, decide_eq_true other⟩
    exact ⟨retained, inv.delivered⟩

structure CaptureSafe (s : PointerInput) : Prop where
  delivered : ∀ dispatched ∈ s.log, ∀ widget, dispatched.due = some widget →
    dispatched.delivery.target = widget
  captured : ∀ widget, s.gestures.owner = some widget → s.source.mouseCapture = widget
  ended : s.gestures.held = ∅ → s.source.mouseCapture = kNullAcceleratedWidget
  touched : ∀ pointer widget, s.gestures.touchOwners pointer = some widget →
    s.source.touchCaptures pointer = some widget

def releaseStep : PointerInput → PointerOp → PointerInput → Prop :=
  guarded (fun s op => s.permitted op ∧ s.LastReleased op) next

theorem releaseStep_inv (s : PointerInput) (op : PointerOp) (t : PointerInput) (inv : CaptureInv s)
    (moved : releaseStep s op t) : CaptureInv t := by
  obtain ⟨⟨permitted, last⟩, rfl⟩ := moved
  exact next_captureInv inv permitted last

-- Two windows side by side.
def twoWindows : NativeWindowRegistry where
  logicalWindows := ((∅ : Std.ExtTreeMap AcceleratedWidget LogicalWindowRecord).insert 1
    { bounds := { width := 100, height := 100 }, visible := true }).insert 2
    { bounds := { x := 100, width := 100, height := 100 }, visible := true }

def mouse (type : EventType) (x : Rat) (flags changed : Finset MouseButton) : PointerOp :=
  .dispatch { type, rootLocation := ⟨x, 10⟩, buttonFlags := flags, changedButtonFlags := changed }
    kNullAcceleratedWidget

-- A drag out of the first window, then a move without buttons.
def dragOut : List PointerOp :=
  [mouse .mousePressed 10 {.left} {.left}, mouse .mouseDragged 150 {.left} ∅,
    mouse .mouseReleased 150 {.left} {.left}, mouse .mouseMoved 150 ∅ ∅]

-- The right button goes up while the left one is held: the drag ends up in the other window.
def secondButton : List PointerOp :=
  [mouse .mousePressed 10 {.left} {.left}, mouse .mousePressed 10 {.left, .right} {.right},
    mouse .mouseReleased 10 {.left, .right} {.right}, mouse .mouseDragged 150 {.left} ∅]

end PointerInput

end ChromiumHmos.Ozone
