import ChromiumHmos.Ozone.EventSource

set_option autoImplicit false

/-!
# Input targets

Which window takes the input at a point of the screen, while windows come, go, move, are raised
and wait for their surfaces.
-/

namespace ChromiumHmos.Ozone

open Std

namespace NativeWindowRegistry

theorem ranksOver_iff (record other : LogicalWindowRecord) :
    ranksOver record other = true ↔ other.auxiliary.toNat < record.auxiliary.toNat \/
      (other.auxiliary.toNat = record.auxiliary.toNat /\
        other.stackingOrder.toNat <= record.stackingOrder.toNat) := by
  unfold ranksOver
  cases record.auxiliary <;> cases other.auxiliary <;> simp [UInt64.le_iff_toNat_le]

theorem ranksOver_refl (record : LogicalWindowRecord) : ranksOver record record = true := by
  rw [ranksOver_iff]
  exact Or.inr ⟨rfl, le_rfl⟩

theorem ranksOver_trans (first second third : LogicalWindowRecord)
    (above : ranksOver first second = true) (below : ranksOver second third = true) :
    ranksOver first third = true := by
  rw [ranksOver_iff] at *
  omega

theorem ranksOver_total (record other : LogicalWindowRecord)
    (lower : ranksOver record other = false) : ranksOver other record = true := by
  have notAbove : ¬ranksOver record other = true := by simp [lower]
  rw [ranksOver_iff] at *
  omega

def updateLogicalWindowBounds (r : NativeWindowRegistry) (widget : AcceleratedWidget)
    (bounds : Rect) : NativeWindowRegistry × Option OhosLogicalWindowState :=
  match r.logicalWindows[widget]? with
  | none => (r, none)
  | some record =>
    let moved := { record with bounds := bounds }
    ({ r with logicalWindows := r.logicalWindows.insert widget moved },
      if record.bounds ≠ bounds ∧ record.announced ∧ record.visible then
        some (makeLogicalWindowState widget moved false)
      else none)

def setLogicalWindowVisible (r : NativeWindowRegistry) (widget : AcceleratedWidget)
    (visible : Bool) : NativeWindowRegistry × Option OhosLogicalWindowState :=
  match r.logicalWindows[widget]? with
  | none => (r, none)
  | some record =>
    let order := r.nextStackingOrder + 1
    let shown :=
      if visible then { record with visible := true, stackingOrder := order }
      else { record with visible := false }
    ({ r with
        logicalWindows := r.logicalWindows.insert widget shown
        nextStackingOrder := if visible then order else r.nextStackingOrder
        focusedWidget :=
          if ¬visible ∧ r.focusedWidget = widget then kNullAcceleratedWidget
          else r.focusedWidget },
      if record.auxiliary then some (makeLogicalWindowState widget shown false) else none)

def activateLogicalWindow (r : NativeWindowRegistry) (widget : AcceleratedWidget) :
    NativeWindowRegistry × Option OhosLogicalWindowState :=
  match r.logicalWindows[widget]? with
  | none => (r, none)
  | some record =>
    let order := r.nextStackingOrder + 1
    let raised := { record with stackingOrder := order }
    ({ r with
        logicalWindows := r.logicalWindows.insert widget raised
        nextStackingOrder := order
        focusedWidget := if r.awaitsOwnSurface widget record then r.focusedWidget else widget },
      if record.auxiliary ∧ record.visible then some (makeLogicalWindowState widget raised false)
      else none)

def deactivateLogicalWindow (r : NativeWindowRegistry) (widget : AcceleratedWidget) :
    NativeWindowRegistry :=
  if r.focusedWidget = widget then { r with focusedWidget := kNullAcceleratedWidget } else r

def takesInputAt (r : NativeWindowRegistry) (point : Point)
    (entry : AcceleratedWidget × LogicalWindowRecord) : Bool :=
  entry.2.visible && !entry.2.bounds.isEmpty && entry.2.bounds.contains point &&
    !r.awaitsOwnSurface entry.1 entry.2

-- One turn of the loop over the logical windows.
def rankTarget (r : NativeWindowRegistry) (point : Point)
    (best entry : AcceleratedWidget × LogicalWindowRecord) :
    AcceleratedWidget × LogicalWindowRecord :=
  if r.takesInputAt point entry && ranksOver entry.2 best.2 then entry else best

end NativeWindowRegistry

/-- The calls that change windows, beside those of the surfaces. -/
inductive WindowCall
  | registry (call : RegistryCall)
  | updateLogicalWindowBounds (widget : AcceleratedWidget) (bounds : Rect)
  | setLogicalWindowVisible (widget : AcceleratedWidget) (visible : Bool)
  | activateLogicalWindow (widget : AcceleratedWidget)
  | deactivateLogicalWindow (widget : AcceleratedWidget)

namespace NativeWindowRegistry

def nextWindow (r : NativeWindowRegistry) : WindowCall → NativeWindowRegistry
  | .registry call => r.next call
  | .updateLogicalWindowBounds widget bounds => (r.updateLogicalWindowBounds widget bounds).1
  | .setLogicalWindowVisible widget visible => (r.setLogicalWindowVisible widget visible).1
  | .activateLogicalWindow widget => (r.activateLogicalWindow widget).1
  | .deactivateLogicalWindow widget => r.deactivateLogicalWindow widget

def runWindows (calls : List WindowCall) : NativeWindowRegistry := calls.foldl nextWindow {}

inductive Found (r : NativeWindowRegistry) (point : Point)
    (seen : List (AcceleratedWidget × LogicalWindowRecord))
    (best : AcceleratedWidget × LogicalWindowRecord) : Prop
  | nothing : best = (kNullAcceleratedWidget, {}) →
      (∀ entry ∈ seen, r.takesInputAt point entry = false) → Found r point seen best
  | window : best ∈ seen → r.takesInputAt point best = true →
      (∀ other ∈ seen, r.takesInputAt point other = true →
        ranksOver best.2 other.2 = true) → Found r point seen best

theorem ranksOver_lowest (record : LogicalWindowRecord) : ranksOver record {} = true := by
  rw [ranksOver_iff]
  cases record.auxiliary <;> simp

variable (r : NativeWindowRegistry)

theorem rankTarget_found (point : Point) (seen : List (AcceleratedWidget × LogicalWindowRecord))
    (best entry : AcceleratedWidget × LogicalWindowRecord) (found : Found r point seen best) :
    Found r point (seen ++ [entry]) (r.rankTarget point best entry) := by
  unfold rankTarget
  cases takes : r.takesInputAt point entry with
  | false =>
    rw [if_neg (by simp)]
    cases found with
    | nothing same none =>
      refine .nothing same fun other member => ?_
      rcases List.mem_append.mp member with before | new
      · exact none other before
      · rw [List.mem_singleton.mp new]
        exact takes
    | window member eligible highest =>
      refine .window (List.mem_append_left _ member) eligible ?_
      intro other inside can
      rcases List.mem_append.mp inside with before | new
      · exact highest other before can
      · rw [List.mem_singleton.mp new, takes] at can
        cases can
  | true =>
    cases found with
    | nothing same none =>
      subst same
      rw [if_pos (by simp [ranksOver_lowest])]
      refine .window (by simp) takes fun other inside can => ?_
      rcases List.mem_append.mp inside with before | new
      · exact absurd ((none other before).symm.trans can) (by simp)
      · rw [List.mem_singleton.mp new]
        exact ranksOver_refl _
    | window member eligible highest =>
      cases higher : ranksOver entry.2 best.2 with
      | true =>
        rw [if_pos (by simp)]
        refine .window (by simp) takes fun other inside can => ?_
        rcases List.mem_append.mp inside with before | new
        · exact ranksOver_trans _ _ _ higher (highest other before can)
        · rw [List.mem_singleton.mp new]
          exact ranksOver_refl _
      | false =>
        rw [if_neg (by simp)]
        refine .window (List.mem_append_left _ member) eligible fun other inside can => ?_
        rcases List.mem_append.mp inside with before | new
        · exact highest other before can
        · rw [List.mem_singleton.mp new]
          exact ranksOver_total _ _ higher

theorem rankTarget_fold (point : Point) (seen rest : List (AcceleratedWidget × LogicalWindowRecord))
    (best : AcceleratedWidget × LogicalWindowRecord) (found : Found r point seen best) :
    Found r point (seen ++ rest) (rest.foldl (r.rankTarget point) best) := by
  induction rest generalizing seen best with
  | nil => simpa using found
  | cons entry rest ih =>
    have next := ih (seen ++ [entry]) _ (rankTarget_found r point seen best entry found)
    simpa using next

/-- A registered, visible window over the point that does not wait for its own surface. -/
structure TakesInput (r : NativeWindowRegistry) (point : Point) (widget : AcceleratedWidget)
    (record : LogicalWindowRecord) : Prop where
  registered : r.logicalWindows[widget]? = some record
  visible : record.visible = true
  covers : record.bounds.contains point = true
  present : r.awaitsOwnSurface widget record = false

theorem contains_nonempty (bounds : Rect) (point : Point) (covers : bounds.contains point = true) :
    bounds.isEmpty = false := by
  simp only [Rect.contains, Rect.isEmpty, decide_eq_true_eq, decide_eq_false_iff_not] at covers ⊢
  omega

theorem takesInputAt_iff (point : Point) (widget : AcceleratedWidget)
    (record : LogicalWindowRecord) :
    ((widget, record) ∈ r.logicalWindows.toList /\ r.takesInputAt point (widget, record) = true) ↔
      TakesInput r point widget record := by
  rw [ExtTreeMap.mem_toList_iff_getElem?_eq_some]
  simp only [takesInputAt, Bool.and_eq_true, Bool.not_eq_true']
  constructor
  · rintro ⟨registered, ⟨⟨visible, -⟩, covers⟩, present⟩
    exact ⟨registered, visible, covers, present⟩
  · rintro ⟨registered, visible, covers, present⟩
    exact ⟨registered, ⟨⟨visible, contains_nonempty _ _ covers⟩, covers⟩, present⟩

theorem getWidgetAtScreenPoint_eq (point : Point) :
    r.getWidgetAtScreenPoint point =
      (let best := r.logicalWindows.toList.foldl (r.rankTarget point) (kNullAcceleratedWidget, {})
      if best.1 ≠ kNullAcceleratedWidget then best.1
      else
        ((r.surfaces.toList.find? fun entry =>
          entry.2.widget ≠ kNullAcceleratedWidget /\ entry.2.surface.bounds.contains point).map
            fun entry => entry.2.widget).getD kNullAcceleratedWidget) := by
  have turn : r.rankTarget point = fun best entry =>
      if ¬ entry.2.visible \/ entry.2.bounds.isEmpty \/ ¬ entry.2.bounds.contains point \/
          r.awaitsOwnSurface entry.1 entry.2 \/ ¬ ranksOver entry.2 best.2 then best else entry := by
    funext best entry
    unfold rankTarget takesInputAt
    cases entry.2.visible <;> cases entry.2.bounds.isEmpty <;>
      cases entry.2.bounds.contains point <;> cases r.awaitsOwnSurface entry.1 entry.2 <;>
      cases ranksOver entry.2 best.2 <;> rfl
  rw [turn]
  rfl

/-- Nothing is above the window returned; without one a bound surface over the point, if any. -/
structure TargetChosen (r : NativeWindowRegistry) (point : Point) (target : AcceleratedWidget) :
    Prop where
  window : (∃ widget record, TakesInput r point widget record) →
    ∃ record, TakesInput r point target record ∧ ∀ other otherRecord,
      TakesInput r point other otherRecord → ranksOver record otherRecord = true
  surface : (¬∃ widget record, TakesInput r point widget record) →
    (target = kNullAcceleratedWidget ∧ ∀ (componentId : String) (record : SurfaceRecord),
        r.surfaces[componentId]? = some record → record.widget ≠ kNullAcceleratedWidget →
        record.surface.bounds.contains point = false) ∨
      (target ≠ kNullAcceleratedWidget ∧ ∃ (componentId : String) (record : SurfaceRecord),
        r.surfaces[componentId]? = some record ∧ record.widget = target ∧
          record.surface.bounds.contains point = true)

theorem getWidgetAtScreenPoint_chosen (point : Point)
    (named : r.logicalWindows[kNullAcceleratedWidget]? = none) :
    TargetChosen r point (r.getWidgetAtScreenPoint point) := by
  have found := rankTarget_fold r point [] r.logicalWindows.toList
    (kNullAcceleratedWidget, {}) (.nothing rfl (by simp))
  rw [List.nil_append] at found
  rw [getWidgetAtScreenPoint_eq]
  dsimp only
  generalize r.logicalWindows.toList.foldl (r.rankTarget point) (kNullAcceleratedWidget, {}) = entry
    at found
  cases found with
  | window member takes highest =>
    have chosen := (takesInputAt_iff r point entry.1 entry.2).mp ⟨member, takes⟩
    have real : entry.1 ≠ kNullAcceleratedWidget := by
      intro null
      have registered := chosen.registered
      rw [null, named] at registered
      cases registered
    rw [if_pos real]
    refine ⟨fun _ => ⟨entry.2, chosen, fun other otherRecord can => ?_⟩,
      fun absent => absurd ⟨entry.1, entry.2, chosen⟩ absent⟩
    obtain ⟨inside, eligible⟩ := (takesInputAt_iff r point other otherRecord).mpr can
    exact highest _ inside eligible
  | nothing same absent =>
    have noWindow : ¬∃ widget record, TakesInput r point widget record := by
      rintro ⟨widget, record, can⟩
      obtain ⟨inside, eligible⟩ := (takesInputAt_iff r point widget record).mpr can
      exact absurd ((absent _ inside).symm.trans eligible) (by simp)
    rw [same, if_neg (by simp)]
    refine ⟨fun some => absurd some noWindow, fun _ => ?_⟩
    cases held : r.surfaces.toList.find? fun entry => decide
        (entry.2.widget ≠ kNullAcceleratedWidget /\ entry.2.surface.bounds.contains point = true) with
    | some entry =>
      have member := List.mem_of_find?_eq_some held
      have bound := List.find?_some held
      rw [decide_eq_true_eq] at bound
      exact Or.inr ⟨bound.1, entry.1, entry.2,
        (ExtTreeMap.mem_toList_iff_getElem?_eq_some).mp member, rfl, bound.2⟩
    | none =>
      refine Or.inl ⟨rfl, fun componentId record stored real => ?_⟩
      have refused := List.find?_eq_none.mp held (componentId, record)
        ((ExtTreeMap.mem_toList_iff_getElem?_eq_some).mpr stored)
      simpa [real] using refused

def orderOf (r : NativeWindowRegistry) (widget : AcceleratedWidget) : Option UInt64 :=
  (r.logicalWindows[widget]?).map LogicalWindowRecord.stackingOrder

/-- What a call does to the stacking orders, and to the counter they are taken from. -/
inductive OrderStep (r t : NativeWindowRegistry) : Prop
  | kept : (∀ widget, t.orderOf widget = r.orderOf widget) →
      t.nextStackingOrder = r.nextStackingOrder → OrderStep r t
  | raised (widget : AcceleratedWidget) : widget ≠ kNullAcceleratedWidget →
      t.nextStackingOrder = r.nextStackingOrder + 1 →
      t.orderOf widget = some t.nextStackingOrder →
      (∀ other, other ≠ widget → t.orderOf other = r.orderOf other) → OrderStep r t
  | erased (widget : AcceleratedWidget) : t.nextStackingOrder = r.nextStackingOrder →
      t.orderOf widget = none →
      (∀ other, other ≠ widget → t.orderOf other = r.orderOf other) → OrderStep r t

theorem orderOf_same (r t : NativeWindowRegistry) (same : t.logicalWindows = r.logicalWindows)
    (counter : t.nextStackingOrder = r.nextStackingOrder) : OrderStep r t :=
  .kept (fun widget => by rw [orderOf, orderOf, same]) counter

theorem orderOf_insert_kept (r t : NativeWindowRegistry) (widget : AcceleratedWidget)
    (record changed : LogicalWindowRecord) (held : r.logicalWindows[widget]? = some record)
    (same : changed.stackingOrder = record.stackingOrder)
    (windows : t.logicalWindows = r.logicalWindows.insert widget changed)
    (counter : t.nextStackingOrder = r.nextStackingOrder) : OrderStep r t := by
  refine .kept (fun other => ?_) counter
  rw [orderOf, orderOf, windows]
  by_cases here : other = widget
  · subst here
    simp [held, same]
  · rw [OrderedMap.getElem?_insert_of_ne _ _ _ _ here]

theorem orderOf_insert_raised (r t : NativeWindowRegistry) (widget : AcceleratedWidget)
    (record : LogicalWindowRecord) (real : widget ≠ kNullAcceleratedWidget)
    (order : record.stackingOrder = t.nextStackingOrder)
    (windows : t.logicalWindows = r.logicalWindows.insert widget record)
    (counter : t.nextStackingOrder = r.nextStackingOrder + 1) : OrderStep r t := by
  refine .raised widget real counter ?_ fun other apart => ?_
  · rw [orderOf, windows]
    simp [order]
  · rw [orderOf, orderOf, windows, OrderedMap.getElem?_insert_of_ne _ _ _ _ apart]

def FocusStep (r t : NativeWindowRegistry) : Prop :=
  (t.focusedWidget = r.focusedWidget ∧ ∀ widget, r.focusedWidget = widget →
      (r.orderOf widget).isSome = true → (t.orderOf widget).isSome = true) ∨
    t.focusedWidget = kNullAcceleratedWidget ∨ (t.orderOf t.focusedWidget).isSome = true

theorem focus_same (r t : NativeWindowRegistry) (windows : t.logicalWindows = r.logicalWindows)
    (focus : t.focusedWidget = r.focusedWidget) : FocusStep r t :=
  Or.inl ⟨focus, fun widget _ held => by rwa [orderOf, windows, <- orderOf]⟩

theorem focus_insert (r t : NativeWindowRegistry) (widget : AcceleratedWidget)
    (record : LogicalWindowRecord) (windows : t.logicalWindows = r.logicalWindows.insert widget record)
    (focus : t.focusedWidget = r.focusedWidget) : FocusStep r t := by
  refine Or.inl ⟨focus, fun other _ held => ?_⟩
  rw [orderOf, windows]
  by_cases here : other = widget
  · subst here
    simp
  · rwa [OrderedMap.getElem?_insert_of_ne _ _ _ _ here, <- orderOf]

def WindowStep (r t : NativeWindowRegistry) : Prop := OrderStep r t ∧ FocusStep r t

theorem windows_same (r t : NativeWindowRegistry) (windows : t.logicalWindows = r.logicalWindows)
    (counter : t.nextStackingOrder = r.nextStackingOrder)
    (focus : t.focusedWidget = r.focusedWidget) : WindowStep r t :=
  ⟨orderOf_same r t windows counter, focus_same r t windows focus⟩

theorem registerFree_windows (componentId : String)
    (record : SurfaceRecord) : WindowStep r (r.registerFree componentId record) := by
  unfold registerFree
  split
  next requested _ =>
    split
    next => exact windows_same r _ rfl rfl rfl
    next logical held =>
      split
      next =>
        dsimp only
        split
        next =>
          let changed := { logical with auxiliary := false, announced := true }
          exact ⟨orderOf_insert_kept r _ requested logical changed held rfl rfl rfl,
            focus_insert r _ requested changed rfl rfl⟩
        next => exact windows_same r _ rfl rfl rfl
      next => exact windows_same r _ rfl rfl rfl
  next =>
    split
    next => exact windows_same r _ rfl rfl rfl
    next => exact windows_same r _ rfl rfl rfl

theorem register_windows (componentId : String) (window : Window)
    (bounds : Rect) (density : Rat) : WindowStep r (r.register componentId window bounds density).1 := by
  unfold register
  dsimp only
  split
  next => exact windows_same r _ rfl rfl rfl
  next => exact registerFree_windows r componentId _

theorem releaseSurface_windows (componentId : String) :
    (r.releaseSurface componentId).logicalWindows = r.logicalWindows /\
      (r.releaseSurface componentId).nextStackingOrder = r.nextStackingOrder /\
      (r.releaseSurface componentId).focusedWidget = r.focusedWidget := by
  unfold releaseSurface
  split
  next => exact ⟨rfl, rfl, rfl⟩
  next =>
    split
    next => exact ⟨rfl, rfl, rfl⟩
    next => exact ⟨rfl, rfl, rfl⟩

theorem unbind_windows (widget : AcceleratedWidget) : WindowStep r (r.unbind widget) := by
  unfold unbind unbindSurface
  split
  next => exact windows_same r _ rfl rfl rfl
  next componentId _ =>
    obtain ⟨windows, counter, focus⟩ := releaseSurface_windows r componentId
    exact windows_same r _ windows counter focus

theorem registerLogicalWindow_windows (widget : AcceleratedWidget)
    (bounds : Rect) (anchored : Bool) : WindowStep r (r.registerLogicalWindow widget bounds anchored) := by
  unfold registerLogicalWindow
  split
  next => exact windows_same r _ rfl rfl rfl
  next real =>
    exact ⟨orderOf_insert_raised r _ widget _ real rfl rfl rfl, focus_insert r _ widget _ rfl rfl⟩

theorem unregisterLogicalWindow_windows (widget : AcceleratedWidget) :
    WindowStep r (r.unregisterLogicalWindow widget).1 := by
  have others (other : AcceleratedWidget) (apart : other ≠ widget) :
      (r.unregisterLogicalWindow widget).1.orderOf other = r.orderOf other := by
    simp only [unregisterLogicalWindow, orderOf]
    rw [OrderedMap.getElem?_erase_of_ne _ _ _ apart]
  refine ⟨.erased widget rfl (by simp [unregisterLogicalWindow, orderOf]) others, ?_⟩
  by_cases focused : r.focusedWidget = widget
  · exact Or.inr (Or.inl (by simp [unregisterLogicalWindow, focused]))
  · refine Or.inl ⟨by simp [unregisterLogicalWindow, focused], fun other same held => ?_⟩
    rw [others other (fun here => focused (same.trans here))]
    exact held

theorem next_windows (call : RegistryCall) : WindowStep r (r.next call) := by
  cases call with
  | register componentId window bounds density => exact register_windows r componentId window bounds density
  | update componentId window bounds density =>
    unfold next update
    dsimp only
    split
    next => exact windows_same r _ rfl rfl rfl
    next =>
      split
      next => exact windows_same r _ rfl rfl rfl
      next => exact windows_same r _ rfl rfl rfl
  | unregister componentId window =>
    unfold next unregister
    dsimp only
    split
    next => exact windows_same r _ rfl rfl rfl
    next =>
      split
      next => exact windows_same r _ rfl rfl rfl
      next =>
        split
        next => exact windows_same r _ rfl rfl rfl
        next => exact windows_same r _ rfl rfl rfl
  | bind widget =>
    unfold next NativeWindowRegistry.bind
    dsimp only
    split
    next => exact windows_same r _ rfl rfl rfl
    next =>
      split
      next => exact windows_same r _ rfl rfl rfl
      next =>
        dsimp only
        split
        next => exact windows_same r _ rfl rfl rfl
        next => exact windows_same r _ rfl rfl rfl
  | unbind widget => exact unbind_windows r widget
  | expectSurface widget =>
    unfold next expectSurface
    dsimp only
    split
    next => exact windows_same r _ rfl rfl rfl
    next => exact windows_same r _ rfl rfl rfl
  | registerLogicalWindow widget bounds anchored =>
    exact registerLogicalWindow_windows r widget bounds anchored
  | unregisterLogicalWindow widget => exact unregisterLogicalWindow_windows r widget
  | setBoundsCallback widget present =>
    cases present <;> exact windows_same r _ rfl rfl rfl
  | setApplicationWindowId windowId =>
    unfold next setApplicationWindowId
    dsimp only
    split
    next => exact windows_same r _ rfl rfl rfl
    next => exact windows_same r _ rfl rfl rfl
  | setApplicationWindowIdForComponent componentId windowId =>
    unfold next setApplicationWindowIdForComponent
    dsimp only
    split
    next => exact windows_same r _ rfl rfl rfl
    next => exact windows_same r _ rfl rfl rfl

theorem updateLogicalWindowBounds_windows (widget : AcceleratedWidget)
    (bounds : Rect) : WindowStep r (r.updateLogicalWindowBounds widget bounds).1 := by
  unfold updateLogicalWindowBounds
  split
  next => exact windows_same r _ rfl rfl rfl
  next record held =>
    let moved := { record with bounds := bounds }
    exact ⟨orderOf_insert_kept r _ widget record moved held rfl rfl rfl,
      focus_insert r _ widget moved rfl rfl⟩

theorem setLogicalWindowVisible_windows (widget : AcceleratedWidget)
    (visible : Bool) (named : r.logicalWindows[kNullAcceleratedWidget]? = none) :
    WindowStep r (r.setLogicalWindowVisible widget visible).1 := by
  unfold setLogicalWindowVisible
  split
  next => exact windows_same r _ rfl rfl rfl
  next record held =>
    cases visible with
    | true =>
      have real : widget ≠ kNullAcceleratedWidget := by
        rintro rfl
        cases named.symm.trans held
      let shown := { record with visible := true, stackingOrder := r.nextStackingOrder + 1 }
      exact ⟨orderOf_insert_raised r _ widget shown real rfl rfl rfl,
        focus_insert r _ widget shown rfl (by simp)⟩
    | false =>
      let hidden := { record with visible := false }
      refine ⟨orderOf_insert_kept r _ widget record hidden held rfl rfl rfl, ?_⟩
      by_cases focused : r.focusedWidget = widget
      · exact Or.inr (Or.inl (by simp [focused]))
      · exact focus_insert r _ widget hidden rfl (by simp [focused])

theorem activateLogicalWindow_windows (widget : AcceleratedWidget)
    (named : r.logicalWindows[kNullAcceleratedWidget]? = none) :
    WindowStep r (r.activateLogicalWindow widget).1 := by
  unfold activateLogicalWindow
  split
  next => exact windows_same r _ rfl rfl rfl
  next record held =>
    have real : widget ≠ kNullAcceleratedWidget := by
      rintro rfl
      cases named.symm.trans held
    let raised := { record with stackingOrder := r.nextStackingOrder + 1 }
    refine ⟨orderOf_insert_raised r _ widget raised real rfl rfl rfl, ?_⟩
    cases awaits : r.awaitsOwnSurface widget record with
    | true => exact focus_insert r _ widget raised rfl (by simp)
    | false => exact Or.inr (Or.inr (by simp [orderOf]))

theorem deactivateLogicalWindow_windows (widget : AcceleratedWidget) :
    WindowStep r (r.deactivateLogicalWindow widget) := by
  unfold deactivateLogicalWindow
  split
  next => exact ⟨orderOf_same r _ rfl rfl, Or.inr (Or.inl rfl)⟩
  next => exact windows_same r _ rfl rfl rfl

theorem nextWindow_windows (call : WindowCall)
    (named : r.logicalWindows[kNullAcceleratedWidget]? = none) : WindowStep r (r.nextWindow call) := by
  cases call with
  | registry call => exact next_windows r call
  | updateLogicalWindowBounds widget bounds => exact updateLogicalWindowBounds_windows r widget bounds
  | setLogicalWindowVisible widget visible =>
    exact setLogicalWindowVisible_windows r widget visible named
  | activateLogicalWindow widget => exact activateLogicalWindow_windows r widget named
  | deactivateLogicalWindow widget => exact deactivateLogicalWindow_windows r widget

structure FocusInv (r : NativeWindowRegistry) : Prop where
  named : r.logicalWindows[kNullAcceleratedWidget]? = none
  focus : r.focusedWidget = kNullAcceleratedWidget ∨ (r.orderOf r.focusedWidget).isSome = true

structure StackInv (r : NativeWindowRegistry) (calls : Nat) : Prop where
  counted : r.nextStackingOrder.toNat ≤ calls
  bounded : ∀ widget order, r.orderOf widget = some order →
    order.toNat ≤ r.nextStackingOrder.toNat
  distinct : ∀ widget other order, r.orderOf widget = some order → r.orderOf other = some order →
    widget = other

theorem orderOf_none_iff (widget : AcceleratedWidget) :
    r.orderOf widget = none ↔ r.logicalWindows[widget]? = none := by
  rw [orderOf, Option.map_eq_none_iff]

theorem FocusInv.step {r t : NativeWindowRegistry} (inv : FocusInv r) (moved : WindowStep r t) :
    FocusInv t := by
  obtain ⟨orders, focus⟩ := moved
  constructor
  · rw [<- orderOf_none_iff]
    have before : r.orderOf kNullAcceleratedWidget = none := (orderOf_none_iff r _).mpr inv.named
    cases orders with
    | kept same _ => rw [same, before]
    | raised widget real _ _ others => rw [others _ real.symm, before]
    | erased widget _ gone others =>
      by_cases here : kNullAcceleratedWidget = widget
      · rw [here, gone]
      · rw [others _ here, before]
  · rcases focus with ⟨same, held⟩ | focused
    · rw [same]
      exact inv.focus.imp id (held _ rfl)
    · exact focused

theorem StackInv.step {r t : NativeWindowRegistry} {calls : Nat} (inv : StackInv r calls)
    (room : calls + 1 < 2 ^ 64) (moved : OrderStep r t) : StackInv t (calls + 1) := by
  cases moved with
  | kept same counter =>
    refine ⟨?_, fun widget order held => ?_, fun widget other order first second => ?_⟩
    · rw [counter]
      exact Nat.le_succ_of_le inv.counted
    · rw [counter]
      exact inv.bounded widget order (same widget ▸ held)
    · exact inv.distinct widget other order (same widget ▸ first) (same other ▸ second)
  | raised widget real counter taken others =>
    have fresh : t.nextStackingOrder.toNat = r.nextStackingOrder.toNat + 1 := by
      have low := inv.counted
      rw [counter, UInt64.toNat_add]
      simp only [UInt64.reduceToNat]
      omega
    -- No window held the new order before.
    have unused (other : AcceleratedWidget) (apart : other ≠ widget)
        (held : t.orderOf other = some t.nextStackingOrder) : False := by
      rw [others other apart] at held
      have below := inv.bounded other _ held
      omega
    refine ⟨?_, fun other order held => ?_, fun first second order left right => ?_⟩
    · rw [fresh]
      exact Nat.succ_le_succ inv.counted
    · by_cases here : other = widget
      · subst here
        rw [taken] at held
        cases held
        exact le_rfl
      · rw [others other here] at held
        have below := inv.bounded other order held
        omega
    · by_cases hereFirst : first = widget
      · by_cases hereSecond : second = widget
        · rw [hereFirst, hereSecond]
        · subst hereFirst
          rw [taken] at left
          cases left
          exact (unused second hereSecond right).elim
      · by_cases hereSecond : second = widget
        · subst hereSecond
          rw [taken] at right
          cases right
          exact (unused first hereFirst left).elim
        · rw [others first hereFirst] at left
          rw [others second hereSecond] at right
          exact inv.distinct first second order left right
  | erased widget counter gone others =>
    have held (other : AcceleratedWidget) (order : UInt64) (now : t.orderOf other = some order) :
        r.orderOf other = some order := by
      by_cases here : other = widget
      · subst here
        rw [gone] at now
        cases now
      · rw [<- others other here]
        exact now
    refine ⟨?_, fun other order now => ?_, fun first second order left right => ?_⟩
    · rw [counter]
      exact Nat.le_succ_of_le inv.counted
    · rw [counter]
      exact inv.bounded other order (held other order now)
    · exact inv.distinct first second order (held first order left) (held second order right)

theorem empty_orderOf (widget : AcceleratedWidget) :
    ({} : NativeWindowRegistry).orderOf widget = none := by
  rw [orderOf_none_iff]
  simp

theorem empty_focus : FocusInv {} := ⟨by simp, Or.inl rfl⟩

theorem empty_stack : StackInv {} 0 where
  counted := le_rfl
  bounded widget order held := by
    rw [empty_orderOf] at held
    cases held
  distinct widget other order held := by
    rw [empty_orderOf] at held
    cases held

variable (calls : List WindowCall)

theorem runWindows_snoc (call : WindowCall) :
    runWindows (calls ++ [call]) = (runWindows calls).nextWindow call := by
  simp [runWindows, List.foldl_append]

theorem runWindows_focus : FocusInv (runWindows calls) := by
  induction calls using List.reverseRecOn with
  | nil => exact empty_focus
  | append_singleton calls call ih =>
    rw [runWindows_snoc]
    exact ih.step (nextWindow_windows _ call ih.named)

theorem runWindows_stack (room : calls.length < 2 ^ 64) :
    StackInv (runWindows calls) calls.length := by
  induction calls using List.reverseRecOn with
  | nil => exact empty_stack
  | append_singleton calls call ih =>
    rw [List.length_append, List.length_singleton] at room ⊢
    rw [runWindows_snoc]
    exact (ih (by omega)).step room
      (nextWindow_windows _ call (runWindows_focus calls).named).1

def DistinctOrders (r : NativeWindowRegistry) : Prop :=
  ∀ (widget other : AcceleratedWidget) (record otherRecord : LogicalWindowRecord),
    r.logicalWindows[widget]? = some record → r.logicalWindows[other]? = some otherRecord →
    record.stackingOrder = otherRecord.stackingOrder → widget = other

def FocusRegistered (r : NativeWindowRegistry) : Prop :=
  r.focusedWidget = kNullAcceleratedWidget ∨ (r.logicalWindows[r.focusedWidget]?).isSome = true

/-- Input goes to the highest window over the point, in every state the calls can reach. -/
theorem input_target_is_highest (calls : List WindowCall) :
    (∀ point, TargetChosen (runWindows calls) point
        ((runWindows calls).getWidgetAtScreenPoint point)) ∧
      FocusRegistered (runWindows calls) ∧
      (calls.length < 2 ^ 64 → DistinctOrders (runWindows calls)) := by
  have focus := runWindows_focus calls
  refine ⟨fun point => getWidgetAtScreenPoint_chosen _ point focus.named, ?_, fun room => ?_⟩
  · refine focus.focus.imp id fun held => ?_
    rwa [orderOf, Option.isSome_map] at held
  · intro widget other record otherRecord first second same
    refine (runWindows_stack calls room).distinct widget other record.stackingOrder ?_ ?_
    · rw [orderOf, first, Option.map_some]
    · rw [orderOf, second, Option.map_some, same]

-- A page below a status bar that never takes the focus.
def barOverPage : List WindowCall :=
  [.registry (.registerLogicalWindow 1 ⟨0, 0, 100, 100⟩ false),
    .registry (.registerLogicalWindow 2 ⟨0, 0, 100, 10⟩ false),
    .registry (.register "aura_win_1" 7 ⟨0, 0, 100, 100⟩ 1), .registry (.bind 1),
    .setLogicalWindowVisible 2 true, .setLogicalWindowVisible 1 true, .activateLogicalWindow 1]

theorem input_target_is_highest_bar :
    (runWindows barOverPage).getWidgetAtScreenPoint ⟨5, 5⟩ ≠ kNullAcceleratedWidget ∧
      DistinctOrders (runWindows barOverPage) := by
  obtain ⟨chosen, -, distinct⟩ := input_target_is_highest barOverPage
  refine ⟨fun null => ?_, distinct (by decide)⟩
  obtain ⟨record, highest, -⟩ := (chosen ⟨5, 5⟩).window
    ⟨1, ⟨⟨0, 0, 100, 100⟩, true, true, false, 5, true⟩, by decide, by decide, by decide,
      by decide⟩
  have registered := highest.registered
  rw [null, (runWindows_focus barOverPage).named] at registered
  cases registered

theorem activateLogicalWindow_raises (widget : AcceleratedWidget)
    (held : (r.orderOf widget).isSome = true) :
    (r.activateLogicalWindow widget).1.nextStackingOrder = r.nextStackingOrder + 1 /\
      (r.activateLogicalWindow widget).1.orderOf widget = some (r.nextStackingOrder + 1) /\
      ∀ other, other ≠ widget ->
        (r.activateLogicalWindow widget).1.orderOf other = r.orderOf other := by
  rw [orderOf, Option.isSome_map] at held
  obtain ⟨record, found⟩ := Option.isSome_iff_exists.mp held
  unfold activateLogicalWindow
  rw [found]
  refine ⟨rfl, by simp [orderOf], fun other apart => ?_⟩
  simp only [orderOf]
  rw [OrderedMap.getElem?_insert_of_ne _ _ _ _ apart]

def twoWindows : List WindowCall :=
  [.registry (.registerLogicalWindow 1 {} false), .registry (.registerLogicalWindow 2 {} false)]

-- The first window is raised again and again, until the counter comes round.
theorem raised_again (count : Nat) :
    (runWindows (twoWindows ++ List.replicate count (.activateLogicalWindow 1))).nextStackingOrder =
        2 + UInt64.ofNat count /\
      (runWindows (twoWindows ++ List.replicate count (.activateLogicalWindow 1))).orderOf 1 =
        some (if count = 0 then 1 else 2 + UInt64.ofNat count) /\
      (runWindows (twoWindows ++ List.replicate count (.activateLogicalWindow 1))).orderOf 2 =
        some 2 := by
  induction count with
  | zero => decide
  | succ count ih =>
    obtain ⟨counter, first, second⟩ := ih
    rw [List.replicate_succ', <- List.append_assoc, runWindows_snoc]
    obtain ⟨next, raised, others⟩ := activateLogicalWindow_raises _ 1 (by rw [first]; rfl)
    have later : (2 : UInt64) + UInt64.ofNat count + 1 = 2 + UInt64.ofNat (count + 1) := by
      rw [UInt64.ofNat_add, UInt64.add_assoc]
      rfl
    rw [nextWindow, next, raised, others 2 (by decide), counter, later, if_neg (Nat.succ_ne_zero count)]
    exact ⟨rfl, rfl, second⟩

-- A surface was bound before its window registered its bounds.
def surfaceOnly : List WindowCall :=
  [.registry (.register "aura_shell" 7 ⟨0, 0, 10, 10⟩ 1), .registry (.bind 5)]

/-- A bound surface takes input without a window, and the orders repeat when the counter wraps. -/
theorem surface_takes_input_without_window :
    (¬∀ (calls : List WindowCall) (point : Point),
        (runWindows calls).getWidgetAtScreenPoint point = kNullAcceleratedWidget ∨
          ∃ record, TakesInput (runWindows calls) point
            ((runWindows calls).getWidgetAtScreenPoint point) record) ∧
      ¬∀ calls : List WindowCall, DistinctOrders (runWindows calls) := by
  constructor
  · intro always
    have target : (runWindows surfaceOnly).getWidgetAtScreenPoint ⟨1, 1⟩ = 5 := by decide
    rcases always surfaceOnly ⟨1, 1⟩ with null | ⟨record, takes⟩
    · rw [target] at null
      cases null
    · have registered := takes.registered
      have missing : (runWindows surfaceOnly).logicalWindows[(5 : AcceleratedWidget)]? = none := by
        decide
      rw [target, missing] at registered
      cases registered
  · intro always
    obtain ⟨-, first, second⟩ := raised_again (2 ^ 64)
    rw [if_neg (by decide), show (2 : UInt64) + UInt64.ofNat (2 ^ 64) = 2 by decide] at first
    obtain ⟨record, held, order⟩ := Option.map_eq_some_iff.mp first
    obtain ⟨other, present, same⟩ := Option.map_eq_some_iff.mp second
    exact absurd (always _ 1 2 record other held present (order.trans same.symm)) (by decide)

end NativeWindowRegistry

end ChromiumHmos.Ozone
