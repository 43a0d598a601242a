import ChromiumHmos.Ozone.NativeWindowRegistry

set_option autoImplicit false

namespace ChromiumHmos.Ozone

open Std Transition OrderedMap

namespace NativeWindowRegistry

def widgetOf (r : NativeWindowRegistry) (componentId : String) : AcceleratedWidget :=
  ((r.surfaces[componentId]?).map SurfaceRecord.widget).getD kNullAcceleratedWidget

theorem widgetOf_found (r : NativeWindowRegistry) (componentId : String) (record : SurfaceRecord)
    (found : r.surfaces[componentId]? = some record) : r.widgetOf componentId = record.widget := by
  simp [widgetOf, found]

theorem widgetOf_insert (r : NativeWindowRegistry) (componentId : String) (record : SurfaceRecord) :
    ({ r with surfaces := r.surfaces.insert componentId record } : NativeWindowRegistry).widgetOf =
      Function.update r.widgetOf componentId record.widget := by
  funext other
  by_cases same : other = componentId
  · subst same
    simp [widgetOf]
  · simp [widgetOf, Function.update, same, getElem?_insert_of_ne _ _ _ _ same]

theorem widgetOf_erase (r : NativeWindowRegistry) (componentId : String) :
    ({ r with surfaces := r.surfaces.erase componentId } : NativeWindowRegistry).widgetOf =
      Function.update r.widgetOf componentId kNullAcceleratedWidget := by
  funext other
  by_cases same : other = componentId
  · subst same
    simp [widgetOf]
  · simp [widgetOf, Function.update, same, getElem?_erase_of_ne _ _ _ same]

theorem update_widgetOf (r : NativeWindowRegistry) (componentId : String)
    (widget : AcceleratedWidget) (same : r.widgetOf componentId = widget) :
    Function.update r.widgetOf componentId widget = r.widgetOf := by
  rw [<- same, Function.update_eq_self]

end NativeWindowRegistry

open NativeWindowRegistry

/-- Everything a call can do to the bindings and to the queue of waiting widgets. -/
inductive BindingStep (r : NativeWindowRegistry) : RegistryCall → NativeWindowRegistry → Prop
  | kept (call : RegistryCall) (t : NativeWindowRegistry) (widgets : t.widgetOf = r.widgetOf)
      (bindings : t.widgetBindings = r.widgetBindings)
      (pending : t.pendingWidgets = r.pendingWidgets) : BindingStep r call t
  | registered (call : RegistryCall) (t : NativeWindowRegistry) (componentId : String)
      (widget : AcceleratedWidget) (free : r.widgetOf componentId = kNullAcceleratedWidget)
      (waiting : widget ∈ r.pendingWidgets)
      (target : requestedWidget componentId = none ∨ requestedWidget componentId = some widget)
      (widgets : t.widgetOf = Function.update r.widgetOf componentId widget)
      (bindings : t.widgetBindings = r.widgetBindings.insert widget componentId)
      (pending : t.pendingWidgets = r.pendingWidgets.erase widget) : BindingStep r call t
  | bound (t : NativeWindowRegistry) (componentId : String) (record : SurfaceRecord)
      (widget : AcceleratedWidget) (unbound : r.boundSurface widget = none)
      (first : r.surfaces.toList.find? (fun entry => SurfaceRecord.free entry.2) =
        some (componentId, record))
      (widgets : t.widgetOf = Function.update r.widgetOf componentId widget)
      (bindings : t.widgetBindings = r.widgetBindings.insert widget componentId)
      (pending : t.pendingWidgets = r.pendingWidgets) : BindingStep r (.bind widget) t
  | queued (t : NativeWindowRegistry) (widget : AcceleratedWidget)
      (unbound : r.boundSurface widget = none) (absent : widget ∉ r.pendingWidgets)
      (widgets : t.widgetOf = r.widgetOf) (bindings : t.widgetBindings = r.widgetBindings)
      (pending : t.pendingWidgets = r.pendingWidgets ++ [widget]) : BindingStep r (.bind widget) t
  | unbound (call : RegistryCall) (t : NativeWindowRegistry) (componentId : String)
      (widget : AcceleratedWidget) (found : r.widgetBindings[widget]? = some componentId)
      (widgets : t.widgetOf = Function.update r.widgetOf componentId kNullAcceleratedWidget)
      (bindings : t.widgetBindings = r.widgetBindings.erase widget)
      (pending : t.pendingWidgets = r.pendingWidgets.filter fun other => other ≠ widget) :
      BindingStep r call t
  | unqueued (call : RegistryCall) (t : NativeWindowRegistry) (widget : AcceleratedWidget)
      (widgets : t.widgetOf = r.widgetOf) (bindings : t.widgetBindings = r.widgetBindings)
      (pending : t.pendingWidgets = r.pendingWidgets.filter fun other => other ≠ widget) :
      BindingStep r call t

theorem store_kept (r : NativeWindowRegistry) (call : RegistryCall) (componentId : String)
    (record : SurfaceRecord) (same : r.widgetOf componentId = record.widget) :
    BindingStep r call (r.store componentId record) :=
  .kept call _ ((widgetOf_insert r componentId record).trans (update_widgetOf r _ _ same)) rfl rfl

theorem registerFree_step (r : NativeWindowRegistry) (call : RegistryCall) (componentId : String)
    (record : SurfaceRecord) (free : r.widgetOf componentId = kNullAcceleratedWidget)
    (unassigned : record.widget = kNullAcceleratedWidget) :
    BindingStep r call (r.registerFree componentId record) := by
  have stored := store_kept r call componentId record (by rw [free, unassigned])
  cases requested : requestedWidget componentId with
  | some widget =>
    cases logical : r.logicalWindows[widget]? with
    | none => simpa only [registerFree, requested, logical] using stored
    | some window =>
      by_cases taken : widget ∈ r.pendingWidgets /\ window.auxiliary
      · -- The own surface also changes the logical window, which no binding depends on.
        refine .registered call _ componentId widget free taken.1 (.inr requested) ?_ ?_ ?_
        all_goals
          simp only [registerFree, requested, logical, if_pos taken]
          split
        · exact widgetOf_insert _ componentId _
        · exact widgetOf_insert _ componentId _
        all_goals rfl
      · simpa only [registerFree, requested, logical, if_neg taken] using stored
  | none =>
    cases pending : r.pendingWidgets with
    | nil => simpa only [registerFree, requested, pending] using stored
    | cons front rest =>
      refine .registered call _ componentId front free (by simp [pending]) (.inl requested)
        ?_ ?_ ?_
      all_goals simp only [registerFree, requested, pending]
      · exact widgetOf_insert _ componentId _
      · rfl
      · simp [assign]

theorem register_step (r : NativeWindowRegistry) (call : RegistryCall) (componentId : String)
    (window : Window) (bounds : Rect) (density : Rat) :
    BindingStep r call (r.register componentId window bounds density).1 := by
  have widget : r.widgetOf componentId = ((r.surfaces[componentId]?).getD {}).widget := by
    cases found : r.surfaces[componentId]? <;> simp [widgetOf, found]
  simp only [register]
  split
  case isTrue assigned => exact store_kept r call componentId _ widget
  case isFalse unassigned =>
      have free := not_not.mp unassigned
      exact registerFree_step r call componentId _ (widget.trans free) free

theorem update_step (r : NativeWindowRegistry) (call : RegistryCall) (componentId : String)
    (window : Window) (bounds : Rect) (density : Rat) :
    BindingStep r call (r.update componentId window bounds density).1 := by
  cases found : r.surfaces[componentId]? with
  | none =>
    simp only [update, found]
    exact .kept call r rfl rfl rfl
  | some record =>
    have widget := widgetOf_found r _ _ found
    simp only [update, found]
    split
    · exact .kept call r rfl rfl rfl
    · exact store_kept r call componentId _ widget

theorem unregister_step (r : NativeWindowRegistry) (call : RegistryCall) (componentId : String)
    (window : Window) : BindingStep r call (r.unregister componentId window) := by
  cases found : r.surfaces[componentId]? with
  | none =>
    simp only [unregister, found]
    exact .kept call r rfl rfl rfl
  | some record =>
    have widget := widgetOf_found r _ _ found
    by_cases other : window ≠ 0 /\ record.surface.window ≠ window
    · simp only [unregister, found, if_pos other]
      exact .kept call r rfl rfl rfl
    · by_cases assigned : record.widget ≠ kNullAcceleratedWidget
      · simp only [unregister, found, if_neg other, if_pos assigned]
        exact store_kept r call componentId _ widget
      · simp only [unregister, found, if_neg other, if_neg assigned]
        refine .kept call _ ((widgetOf_erase r componentId).trans ?_) rfl rfl
        exact update_widgetOf r _ _ (widget.trans (not_not.mp assigned))

theorem bind_step (r : NativeWindowRegistry) (widget : AcceleratedWidget) :
    BindingStep r (.bind widget) (r.bind widget).1 := by
  cases unbound : r.boundSurface widget with
  | some record =>
    simp only [NativeWindowRegistry.bind, unbound]
    exact .kept _ r rfl rfl rfl
  | none =>
    cases first : r.surfaces.toList.find? fun entry => SurfaceRecord.free entry.2 with
    | some entry =>
      simp only [NativeWindowRegistry.bind, unbound, first]
      exact .bound _ entry.1 entry.2 widget unbound first (widgetOf_insert _ _ _) rfl rfl
    | none =>
      by_cases waiting : widget ∈ r.pendingWidgets
      · simp only [NativeWindowRegistry.bind, unbound, first, if_pos waiting]
        exact .kept _ r rfl rfl rfl
      · simp only [NativeWindowRegistry.bind, unbound, first, if_neg waiting]
        exact .queued _ widget unbound waiting rfl rfl rfl

theorem releaseSurface_widgetOf (r : NativeWindowRegistry) (componentId : String) :
    (r.releaseSurface componentId).widgetOf =
      Function.update r.widgetOf componentId kNullAcceleratedWidget := by
  cases found : r.surfaces[componentId]? with
  | none =>
    have free : r.widgetOf componentId = kNullAcceleratedWidget := by simp [widgetOf, found]
    simp only [releaseSurface, found]
    exact (update_widgetOf r _ _ free).symm
  | some record =>
    simp only [releaseSurface, found]
    split
    · exact widgetOf_erase r componentId
    · exact widgetOf_insert r componentId _

theorem releaseSurface_others (r : NativeWindowRegistry) (componentId : String) :
    (r.releaseSurface componentId).pendingWidgets = r.pendingWidgets := by
  unfold releaseSurface
  split
  · rfl
  · split <;> rfl

theorem unbind_step (r : NativeWindowRegistry) (call : RegistryCall) (widget : AcceleratedWidget) :
    BindingStep r call (r.unbind widget) := by
  cases found : r.widgetBindings[widget]? with
  | none =>
    refine .unqueued call _ widget ?_ ?_ ?_
    all_goals simp only [unbind, unbindSurface, found]
    rfl
  | some componentId =>
    refine .unbound call _ componentId widget found ?_ ?_ ?_
    · rw [<- releaseSurface_widgetOf]
      simp only [unbind, unbindSurface, found]
      rfl
    · simp only [unbind, unbindSurface, found]
    · simp only [unbind, unbindSurface, found, releaseSurface_others]

theorem next_step (r : NativeWindowRegistry) (call : RegistryCall) :
    BindingStep r call (r.next call) := by
  cases call with
  | register componentId window bounds density => exact register_step r _ componentId window bounds density
  | update componentId window bounds density => exact update_step r _ componentId window bounds density
  | unregister componentId window => exact unregister_step r _ componentId window
  | bind widget => exact bind_step r widget
  | unbind widget => exact unbind_step r _ widget
  | expectSurface widget =>
    simp only [next, expectSurface]
    split <;> exact .kept _ _ rfl rfl rfl
  | registerLogicalWindow widget bounds anchored =>
    simp only [next, registerLogicalWindow]
    split <;> exact .kept _ _ rfl rfl rfl
  | unregisterLogicalWindow widget => exact .kept _ _ rfl rfl rfl
  | setBoundsCallback widget present =>
    simp only [next, setBoundsCallback]
    split <;> exact .kept _ _ rfl rfl rfl
  | setApplicationWindowId windowId =>
    simp only [next, setApplicationWindowId]
    split <;> exact .kept _ _ rfl rfl rfl
  | setApplicationWindowIdForComponent componentId windowId =>
    simp only [next, setApplicationWindowIdForComponent]
    split <;> exact .kept _ _ rfl rfl rfl

structure BindingsInv (r : NativeWindowRegistry) : Prop where
  bindings : ∀ (widget : AcceleratedWidget) (componentId : String), widget ≠ kNullAcceleratedWidget →
    (r.widgetBindings[widget]? = some componentId ↔ r.widgetOf componentId = widget)
  unnamed : r.widgetBindings[kNullAcceleratedWidget]? = none
  waiting : ∀ widget ∈ r.pendingWidgets,
    widget ≠ kNullAcceleratedWidget ∧ r.widgetBindings[widget]? = none
  distinct : r.pendingWidgets.Nodup

/-- A widget is bound by one call of its own, or again only while no surface is free. -/
def bindsOnce (r : NativeWindowRegistry) : RegistryCall → Prop
  | .bind widget => widget ≠ kNullAcceleratedWidget ∧ (widget ∈ r.pendingWidgets →
      ∀ (componentId : String) (record : SurfaceRecord), r.surfaces[componentId]? = some record →
        ¬ record.free)
  | _ => True

variable {r t : NativeWindowRegistry}

theorem BindingsInv.named (inv : BindingsInv r) {widget : AcceleratedWidget} {componentId : String}
    (found : r.widgetBindings[widget]? = some componentId) : widget ≠ kNullAcceleratedWidget := by
  rintro rfl
  rw [inv.unnamed] at found
  contradiction

theorem BindingsInv.assigned (inv : BindingsInv r)
    (componentId : String) (widget : AcceleratedWidget) (named : widget ≠ kNullAcceleratedWidget)
    (unbound : r.widgetBindings[widget]? = none)
    (free : r.widgetOf componentId = kNullAcceleratedWidget)
    (widgets : t.widgetOf = Function.update r.widgetOf componentId widget)
    (bindings : t.widgetBindings = r.widgetBindings.insert widget componentId)
    (fewer : t.pendingWidgets.Sublist r.pendingWidgets) (served : widget ∉ t.pendingWidgets) :
    BindingsInv t where
  bindings := by
    intro other id distinct
    rw [bindings, widgets, getElem?_insert_some, Function.update_apply]
    by_cases same : id = componentId
    · subst same
      rw [if_pos rfl]
      constructor
      · rintro (⟨rfl, -⟩ | ⟨-, found⟩)
        · rfl
        · -- A surface no widget has is in no binding.
          exact absurd (free.symm.trans ((inv.bindings other id distinct).mp found)) distinct.symm
      · rintro rfl
        exact .inl ⟨rfl, rfl⟩
    · rw [if_neg same]
      constructor
      · rintro (⟨-, equal⟩ | ⟨-, found⟩)
        · exact absurd equal same
        · exact (inv.bindings other id distinct).mp found
      · intro owned
        have found := (inv.bindings other id distinct).mpr owned
        refine .inr ⟨?_, found⟩
        rintro rfl
        rw [unbound] at found
        contradiction
  unnamed := by
    rw [bindings, getElem?_insert_of_ne _ _ _ _ named.symm]
    exact inv.unnamed
  waiting := by
    intro other mem
    obtain ⟨distinct, open_⟩ := inv.waiting other (fewer.mem mem)
    refine ⟨distinct, ?_⟩
    rw [bindings, getElem?_insert_of_ne]
    · exact open_
    · rintro rfl
      exact served mem
  distinct := inv.distinct.sublist fewer

theorem step_bindings (r t : NativeWindowRegistry) (call : RegistryCall) (inv : BindingsInv r)
    (once : bindsOnce r call) (step : BindingStep r call t) : BindingsInv t := by
  cases step with
  | kept _ _ widgets bindings pending =>
    exact ⟨by rw [widgets, bindings]; exact inv.bindings, by rw [bindings]; exact inv.unnamed,
      by rw [bindings, pending]; exact inv.waiting, by rw [pending]; exact inv.distinct⟩
  | registered _ _ componentId widget free waiting target widgets bindings pending =>
    obtain ⟨named, unbound⟩ := inv.waiting widget waiting
    refine inv.assigned componentId widget named unbound free widgets bindings ?_ ?_
    · rw [pending]
      exact List.erase_sublist
    · rw [pending]
      exact inv.distinct.not_mem_erase
  | bound _ componentId record widget unbound first widgets bindings pending =>
    obtain ⟨named, queued⟩ := once
    have found := ExtTreeMap.mem_toList_iff_getElem?_eq_some.mp (List.mem_of_find?_eq_some first)
    have matched := List.find?_some first
    have free : record.free := matched
    have owner := widgetOf_found r componentId record found
    simp only [SurfaceRecord.free, decide_eq_true_eq] at matched
    refine inv.assigned componentId widget named ?_ (owner.trans matched.1) widgets bindings
      (by rw [pending]) ?_
    · cases old : r.widgetBindings[widget]? with
      | none => rfl
      | some other =>
        -- The bound surface of a widget is always known.
        have known := (inv.bindings widget other named).mp old
        simp only [boundSurface, old] at unbound
        simp only [widgetOf, unbound, Option.map_none, Option.getD_none] at known
        exact absurd known.symm named
    · rw [pending]
      intro waiting
      exact queued waiting componentId record found free
  | queued _ widget unbound absent widgets bindings pending =>
    have unused : r.widgetBindings[widget]? = none := by
      cases old : r.widgetBindings[widget]? with
      | none => rfl
      | some other =>
        have known := (inv.bindings widget other once.1).mp old
        simp only [boundSurface, old] at unbound
        simp only [widgetOf, unbound, Option.map_none, Option.getD_none] at known
        exact absurd known.symm once.1
    refine ⟨by rw [widgets, bindings]; exact inv.bindings, by rw [bindings]; exact inv.unnamed,
      ?_, ?_⟩
    · intro other mem
      rw [bindings]
      rw [pending, List.mem_append, List.mem_singleton] at mem
      rcases mem with mem | rfl
      · exact inv.waiting other mem
      · exact ⟨once.1, unused⟩
    · rw [pending]
      exact inv.distinct.append (List.nodup_singleton _) (by simpa using absent)
  | unbound _ _ componentId widget found widgets bindings pending =>
    have named := inv.named found
    have owned := (inv.bindings widget componentId named).mp found
    refine ⟨?_, ?_, ?_, ?_⟩
    · intro other id distinct
      rw [widgets, bindings, getElem?_erase_some, Function.update_apply]
      by_cases same : id = componentId
      · subst same
        rw [if_pos rfl]
        constructor
        · rintro ⟨different, bound⟩
          exact absurd (((inv.bindings other id distinct).mp bound).symm.trans owned) different
        · intro null
          exact absurd null.symm distinct
      · rw [if_neg same]
        constructor
        · exact fun bound => (inv.bindings other id distinct).mp bound.2
        · intro bound
          refine ⟨?_, (inv.bindings other id distinct).mpr bound⟩
          rintro rfl
          have again := (inv.bindings other id distinct).mpr bound
          rw [found] at again
          exact same (Option.some.inj again).symm
    · rw [bindings, getElem?_erase_of_ne _ _ _ named.symm]
      exact inv.unnamed
    · intro other mem
      rw [pending, List.mem_filter] at mem
      obtain ⟨distinct, open_⟩ := inv.waiting other mem.1
      refine ⟨distinct, ?_⟩
      rw [bindings, getElem?_erase_of_ne _ _ _ (of_decide_eq_true mem.2)]
      exact open_
    · rw [pending]
      exact inv.distinct.filter _
  | unqueued _ _ widget widgets bindings pending =>
    refine ⟨by rw [widgets, bindings]; exact inv.bindings, by rw [bindings]; exact inv.unnamed,
      ?_, by rw [pending]; exact inv.distinct.filter _⟩
    intro other mem
    rw [pending] at mem
    rw [bindings]
    exact inv.waiting other (List.mem_of_mem_filter mem)

theorem empty_bindings : BindingsInv {} where
  bindings := by
    intro widget componentId distinct
    have free : widgetOf {} componentId = kNullAcceleratedWidget := by simp [widgetOf]
    simp [free, distinct.symm]
  unnamed := by simp
  waiting := by simp
  distinct := by simp

/-- What the three containers say about widgets and surfaces. -/
structure BindingsBijective (r : NativeWindowRegistry) : Prop where
  bijective : ∀ (widget : AcceleratedWidget) (componentId : String),
    widget ≠ kNullAcceleratedWidget →
    (r.widgetBindings[widget]? = some componentId ↔
      ∃ record : SurfaceRecord, r.surfaces[componentId]? = some record ∧ record.widget = widget)
  separate : ∀ widget : AcceleratedWidget,
    (r.widgetBindings[widget]?).isSome → widget ∉ r.pendingWidgets
  distinct : r.pendingWidgets.Nodup
  unique : ∀ (first second : String) (left right : SurfaceRecord),
    r.surfaces[first]? = some left → r.surfaces[second]? = some right →
    left.widget ≠ kNullAcceleratedWidget → left.widget = right.widget → first = second

theorem BindingsInv.bijective (inv : BindingsInv r) :
    BindingsBijective r where
  bijective := by
    intro widget componentId named
    rw [inv.bindings widget componentId named]
    constructor
    · intro owned
      cases found : r.surfaces[componentId]? with
      | none =>
        simp only [widgetOf, found, Option.map_none, Option.getD_none] at owned
        exact absurd owned.symm named
      | some record => exact ⟨record, rfl, by rwa [widgetOf_found r _ _ found] at owned⟩
    · rintro ⟨record, found, rfl⟩
      exact widgetOf_found r _ _ found
  separate := by
    intro widget bound waiting
    rw [(inv.waiting widget waiting).2] at bound
    contradiction
  distinct := inv.distinct
  unique := by
    intro first second left right found found' named same
    have one := (inv.bindings left.widget first named).mpr (widgetOf_found r _ _ found)
    have two := (inv.bindings left.widget second named).mpr
      ((widgetOf_found r _ _ found').trans same.symm)
    rw [one] at two
    exact Option.some.inj two

theorem bindings_bijective {trace : List (NativeWindowRegistry × RegistryCall)}
    {r : NativeWindowRegistry} (run : Trace (guarded bindsOnce next) {} trace r) :
    BindingsBijective r := by
  refine BindingsInv.bijective (run.preserves ?_ empty_bindings)
  rintro s call t inv ⟨once, rfl⟩
  exact step_bindings s _ call inv once (next_step s call)

theorem bindings_bijective_bound :
    BindingsBijective (run [.register "aura_shell" 1 {} 1, .bind 1]) := by
  have registered : bindsOnce {} (.register "aura_shell" 1 {} 1) := trivial
  have bound : bindsOnce (next {} (.register "aura_shell" 1 {} 1)) (.bind 1) :=
    ⟨by decide, fun waiting => absurd waiting (by decide)⟩
  exact bindings_bijective (.cons ⟨registered, rfl⟩ (.cons ⟨bound, rfl⟩ (.nil _)))

-- The second `bind` takes the freed surface, but the widget stays in the queue and the next
-- surface goes to it too.
def boundWhileWaiting : List RegistryCall :=
  [.register "aura_shell" 1 {} 1, .bind 1, .bind 2, .unbind 1, .bind 2,
    .register "aura_window" 2 {} 1]

theorem two_surfaces_one_widget : ¬ ∀ calls : List RegistryCall, BindingsBijective (run calls) := by
  intro every
  have first : (run boundWhileWaiting).surfaces["aura_shell"]? =
      some { surface := ⟨1, {}, 1⟩, widget := 2 } := by decide
  have second : (run boundWhileWaiting).surfaces["aura_window"]? =
      some { surface := ⟨2, {}, 1⟩, widget := 2 } := by decide
  have same := (every boundWhileWaiting).unique _ _ _ _ first second (by decide) rfl
  exact absurd same (by decide)

/-- No binding joins a surface made for one widget to another widget. -/
structure Dedicated (r : NativeWindowRegistry) : Prop where
  surfaces : ∀ (componentId : String) (target : AcceleratedWidget) (record : SurfaceRecord),
    requestedWidget componentId = some target → r.surfaces[componentId]? = some record →
    record.widget = kNullAcceleratedWidget ∨ record.widget = target
  bindings : ∀ (componentId : String) (target widget : AcceleratedWidget),
    requestedWidget componentId = some target → r.widgetBindings[widget]? = some componentId →
    widget = target

/-- The first free surface in the order of the ids is for any widget, or for the one that binds. -/
def bindsOwn (r : NativeWindowRegistry) : RegistryCall → Prop
  | .bind widget => r.boundSurface widget = none →
      ∀ (before after : List (String × SurfaceRecord)) (componentId : String)
        (record : SurfaceRecord) (target : AcceleratedWidget),
        r.surfaces.toList = before ++ (componentId, record) :: after →
        (∀ entry ∈ before, ¬ entry.2.free) → record.free →
        requestedWidget componentId = some target → target = widget
  | _ => True

structure DedicatedInv (r : NativeWindowRegistry) : Prop where
  surfaces : ∀ (componentId : String) (target : AcceleratedWidget),
    requestedWidget componentId = some target →
    r.widgetOf componentId = kNullAcceleratedWidget ∨ r.widgetOf componentId = target
  bindings : ∀ (componentId : String) (target widget : AcceleratedWidget),
    requestedWidget componentId = some target → r.widgetBindings[widget]? = some componentId →
    widget = target

theorem DedicatedInv.assigned (inv : DedicatedInv r)
    (componentId : String) (widget : AcceleratedWidget)
    (own : ∀ target : AcceleratedWidget, requestedWidget componentId = some target -> target = widget)
    (widgets : t.widgetOf = Function.update r.widgetOf componentId widget)
    (bindings : t.widgetBindings = r.widgetBindings.insert widget componentId) :
    DedicatedInv t where
  surfaces := by
    intro id target requested
    rw [widgets, Function.update_apply]
    by_cases same : id = componentId
    · subst same
      rw [if_pos rfl]
      exact .inr (own target requested).symm
    · rw [if_neg same]
      exact inv.surfaces id target requested
  bindings := by
    intro id target other requested found
    rw [bindings, getElem?_insert_some] at found
    rcases found with ⟨rfl, rfl⟩ | ⟨-, found⟩
    · exact (own target requested).symm
    · exact inv.bindings id target other requested found

theorem step_dedicated (r t : NativeWindowRegistry) (call : RegistryCall) (inv : DedicatedInv r)
    (own : bindsOwn r call) (step : BindingStep r call t) : DedicatedInv t := by
  cases step with
  | kept _ _ widgets bindings pending =>
    exact ⟨by rw [widgets]; exact inv.surfaces, by rw [bindings]; exact inv.bindings⟩
  | registered _ _ componentId widget free waiting target widgets bindings pending =>
    refine inv.assigned componentId widget ?_ widgets bindings
    intro other requested
    rcases target with none | some
    · rw [none] at requested
      contradiction
    · exact Option.some.inj (requested.symm.trans some)
  | bound _ componentId record widget unbound first widgets bindings pending =>
    obtain ⟨free, before, after, entries, skipped⟩ := List.find?_eq_some_iff_append.mp first
    refine inv.assigned componentId widget ?_ widgets bindings
    intro target requested
    refine own unbound before after componentId record target entries ?_ free requested
    intro entry mem
    simpa using skipped entry mem
  | queued _ widget unbound absent widgets bindings pending =>
    exact ⟨by rw [widgets]; exact inv.surfaces, by rw [bindings]; exact inv.bindings⟩
  | unbound _ _ componentId widget found widgets bindings pending =>
    refine ⟨?_, ?_⟩
    · intro id target requested
      rw [widgets, Function.update_apply]
      split
      · exact .inl rfl
      · exact inv.surfaces id target requested
    · intro id target other requested bound
      rw [bindings, getElem?_erase_some] at bound
      exact inv.bindings id target other requested bound.2
  | unqueued _ _ widget widgets bindings pending =>
    exact ⟨by rw [widgets]; exact inv.surfaces, by rw [bindings]; exact inv.bindings⟩

theorem DedicatedInv.dedicated (inv : DedicatedInv r) : Dedicated r where
  surfaces := by
    intro componentId target record requested found
    rw [<- widgetOf_found r componentId record found]
    exact inv.surfaces componentId target requested
  bindings := inv.bindings

theorem targeted_surfaces_own {trace : List (NativeWindowRegistry × RegistryCall)}
    {r : NativeWindowRegistry} (run : Trace (guarded bindsOwn next) {} trace r) : Dedicated r := by
  have initial : DedicatedInv {} := ⟨by simp [widgetOf], by simp⟩
  refine DedicatedInv.dedicated (run.preserves ?_ initial)
  rintro s call t inv ⟨own, rfl⟩
  exact step_dedicated s _ call inv own (next_step s call)

theorem targeted_surfaces_own_freed :
    Dedicated (run [.register "aura_aux_5" 1 {} 1, .bind 5, .unbind 5]) := by
  have registered : bindsOwn {} (.register "aura_aux_5" 1 {} 1) := trivial
  have unbound : bindsOwn (run [.register "aura_aux_5" 1 {} 1, .bind 5]) (.unbind 5) := trivial
  have bound : bindsOwn (next {} (.register "aura_aux_5" 1 {} 1)) (.bind 5) := by
    rintro - before after componentId record target entries - - requested
    have only : (next {} (.register "aura_aux_5" 1 {} 1)).surfaces.toList =
        [("aura_aux_5", { surface := ⟨1, {}, 1⟩ })] := by decide
    rw [only] at entries
    have mem : (componentId, record) ∈ [("aura_aux_5", ({ surface := ⟨1, {}, 1⟩ } : SurfaceRecord))] := by
      rw [entries]
      simp
    obtain ⟨rfl, rfl⟩ := Prod.mk.inj (List.mem_singleton.mp mem)
    exact Option.some.inj (requested.symm.trans (by decide))
  exact targeted_surfaces_own
    (.cons ⟨registered, rfl⟩ (.cons ⟨bound, rfl⟩ (.cons ⟨unbound, rfl⟩ (.nil _))))

-- The surface of widget 5 is free but still its own when another window binds.
def boundToAnother : List RegistryCall :=
  [.register "aura_aux_5" 1 {} 1, .bind 5, .unbind 5, .bind 6]

theorem targeted_surface_taken : ¬ ∀ calls : List RegistryCall, Dedicated (run calls) := by
  intro every
  have own := (every boundToAnother).bindings "aura_aux_5" 5 6 (by decide) (by decide)
  exact absurd own (by decide)

end ChromiumHmos.Ozone
