import ChromiumHmos.Ozone.SharedBufferColors

set_option autoImplicit false

/-!
# Windows marked until clean
-/

namespace ChromiumHmos.Ozone.SharedBufferColors

open Transition
open PhoneGpu (OhosOutputColor)

section Operations

variable {registry : NativeWindowRegistry} {referenced : Window -> Bool}
  {windows : List (Window × WindowState)} {target : Window} {state : WindowState}

theorem prune_kept :
    (prune registry referenced windows).1 = windows.filter (isCurrent registry referenced) := by
  induction windows with
  | nil => rfl
  | cons held rest ih =>
    rw [prune]
    cases current : isCurrent registry referenced held with
    | true =>
      rw [List.filter_cons_of_pos current, <- ih]
      rfl
    | false =>
      rw [List.filter_cons_of_neg (by rw [current]; exact Bool.false_ne_true), <- ih]
      rfl

theorem glance_balanced (surface : Option OhosNativeSurface) (window : Window) :
    (glance surface).count (.unreference window) = (glance surface).count (.reference window) := by
  cases surface with
  | none => rfl
  | some surface =>
    rw [glance]
    split
    · rfl
    · by_cases same : surface.window = window
      · simp [same]
      · simp [same]

theorem prune_balanced (window : Window) :
    (prune registry referenced windows).2.count (.unreference window) +
        ((prune registry referenced windows).1.map Prod.fst).count window =
      (prune registry referenced windows).2.count (.reference window) +
        (windows.map Prod.fst).count window := by
  induction windows with
  | nil => rfl
  | cons held rest ih =>
    have glanced := glance_balanced
      (acquireOhosNativeSurfaceForPhoneGpu registry referenced held.2.widget) window
    rw [prune]
    cases current : isCurrent registry referenced held with
    | true =>
      simp only [if_true, List.count_append, List.map_cons, List.count_cons]
      omega
    | false =>
      simp only [Bool.false_eq_true, if_false, List.count_append, List.map_cons,
        List.count_cons]
      have same : ((WindowCall.unreference held.1 == WindowCall.unreference window) = true) =
          ((held.1 == window) = true) := by
        simp
      have other : ¬ (WindowCall.unreference held.1 == WindowCall.reference window) = true := by
        simp
      rw [if_neg other]
      simp only [same]
      omega

theorem setWindow_same (distinct : (windows.map Prod.fst).Nodup)
    (found : windows.lookup target = some state) : setWindow target state windows = windows := by
  induction windows with
  | nil => rfl
  | cons held rest ih =>
    obtain ⟨own, kept⟩ := held
    rw [List.map_cons, List.nodup_cons] at distinct
    rw [List.lookup_cons] at found
    rw [setWindow, List.map_cons]
    by_cases same : target = own
    · subst same
      simp only [BEq.rfl, Option.some.injEq] at found
      have others : rest.map (fun held => if held.1 = target then (target, state) else held) =
          rest := by
        refine (List.map_congr_left fun held member => ?_).trans (List.map_id rest)
        have apart : held.1 ≠ target :=
          fun equal => distinct.1 (List.mem_map.mpr ⟨held, member, equal⟩)
        rw [if_neg apart]
        rfl
      rw [others, if_pos rfl, found]
    · rw [beq_eq_false_iff_ne.mpr same] at found
      rw [if_neg (Ne.symm same)]
      exact congrArg _ (ih distinct.2 found)

theorem setWindow_new (fresh : target ∉ windows.map Prod.fst) (old : WindowState) :
    setWindow target state (windows ++ [(target, old)]) = windows ++ [(target, state)] := by
  have others : windows.map (fun held => if held.1 = target then (target, state) else held) =
      windows := by
    refine (List.map_congr_left fun held member => ?_).trans (List.map_id windows)
    have apart : held.1 ≠ target :=
      fun equal => fresh (List.mem_map.mpr ⟨held, member, equal⟩)
    rw [if_neg apart]
    rfl
  rw [setWindow, List.map_append, others, List.map_singleton, if_pos rfl]

theorem lookup_mem (found : windows.lookup target = some state) : (target, state) ∈ windows := by
  obtain ⟨before, after, rfl, -⟩ := List.lookup_eq_some_iff.mp found
  simp

theorem lookup_fresh (missing : windows.lookup target = none) : target ∉ windows.map Prod.fst := by
  intro present
  obtain ⟨⟨_, state⟩, member, rfl⟩ := List.mem_map.mp present
  exact absurd (List.lookup_eq_none_iff.mp missing _ member) (by simp)

end Operations

section Prepare

variable {colors : SharedBufferColorState} {registry : NativeWindowRegistry}
  {referenced : Window -> Bool} {target : Window} {widget : Nat} {color : OhosOutputColor}
  {idle cleaned : Bool}

inductive Step (colors : SharedBufferColorState) (registry : NativeWindowRegistry)
    (referenced : Window -> Bool) (target : Window) (widget : Nat) (color : OhosOutputColor)
    (idle cleaned : Bool) : Prepared -> Prop
  | null (none : target = 0) : Step colors registry referenced target widget color idle cleaned
      { prepared := false, colors := colors, calls := [] }
  | plain (real : target ≠ 0) (untracked : target ∉ colors.windows.map Prod.fst) (sdr : color.mode ≠ .hdr10) :
      Step colors registry referenced target widget color idle cleaned
        { prepared := true, colors := colors, calls := [] }
  | marked (real : target ≠ 0) (missing : colors.windows.lookup target = none)
      (untracked : target ∉ colors.windows.map Prod.fst) (hdr : color.mode = .hdr10) :
      Step colors registry referenced target widget color idle cleaned
        { prepared := true
          colors :=
            { windows := (prune registry referenced colors.windows).1 ++
                [(target, { widget := widget, dirty := true })]
              ready := colors.ready }
          calls := (prune registry referenced colors.windows).2 ++ [.reference target] }
  | again (tracked : target ∈ colors.windows.map Prod.fst) (hdr : color.mode = .hdr10) :
      Step colors registry referenced target widget color idle cleaned
        { prepared := true, colors := colors, calls := [] }
  | busy (tracked : target ∈ colors.windows.map Prod.fst) (sdr : color.mode ≠ .hdr10) :
      Step colors registry referenced target widget color idle cleaned
        { prepared := false, colors := colors, calls := [] }
  | failed (tracked : target ∈ colors.windows.map Prod.fst) (sdr : color.mode ≠ .hdr10) :
      Step colors registry referenced target widget color idle cleaned
        { prepared := false
          colors := { windows := colors.windows, ready := false }
          calls := [.cleanCache target false] }
  | cleaned (tracked : target ∈ colors.windows.map Prod.fst) (sdr : color.mode ≠ .hdr10) :
      Step colors registry referenced target widget color idle cleaned
        { prepared := true
          colors := { windows := dropWindow target colors.windows, ready := colors.ready }
          calls := [.cleanCache target true, .unreference target] }

theorem prepare_step (distinct : (colors.windows.map Prod.fst).Nodup)
    (dirty : ∀ held ∈ colors.windows, held.2.dirty = true) :
    Step colors registry referenced target widget color idle cleaned
      (prepare colors registry referenced target widget color idle cleaned) := by
  rw [prepare]
  split
  · rename_i null
    exact .null null
  rename_i real
  cases found : colors.windows.lookup target with
  | none =>
    have untracked := lookup_fresh found
    dsimp only
    split
    · rename_i sdr
      exact .plain real untracked sdr
    · rename_i hdr
      rw [not_not] at hdr
      have fresh : target ∉ (prune registry referenced colors.windows).1.map Prod.fst := by
        rw [prune_kept]
        exact fun member => untracked ((List.filter_sublist.map Prod.fst).mem member)
      have marked := @Step.marked colors registry referenced target widget color idle cleaned real
        found untracked hdr
      simp only [prepareFound, hdrPrepare, hdr, if_true, Bool.not_true, Bool.and_false,
        Bool.false_eq_true, if_false, Bool.not_false, Bool.true_or, Bool.and_true]
      rw [setWindow_new fresh]
      exact marked
  | some state =>
    have member := lookup_mem found
    have tracked : target ∈ colors.windows.map Prod.fst := List.mem_map.mpr ⟨_, member, rfl⟩
    have stained : state.dirty = true := dirty _ member
    have same := setWindow_same distinct found
    have whole : { state with dirty := true } = state := by
      rw [<- stained]
    dsimp only
    rw [prepareFound, hdrPrepare, stained]
    by_cases hdr : color.mode = .hdr10
    · simp only [hdr, if_true, Bool.not_true, Bool.and_false, Bool.false_eq_true, if_false,
        Bool.not_false, Bool.true_or, Bool.and_true, whole, same]
      exact .again tracked hdr
    · cases idle with
      | false =>
        simp only [hdr, if_false, Bool.not_true, Bool.false_eq_true, Bool.not_false, if_true,
          Bool.and_false, Bool.true_or, Bool.and_true, whole, same]
        exact .busy tracked hdr
      | true =>
        cases cleaned with
        | false =>
          simp only [hdr, if_false, Bool.not_true, Bool.false_eq_true, Bool.not_false,
            if_true, Bool.and_false, Bool.or_self, whole, same]
          exact .failed tracked hdr
        | true =>
          simp only [hdr, if_false, Bool.not_true, Bool.false_eq_true, Bool.not_false,
            if_true, Bool.and_true, Bool.or_true]
          exact .cleaned tracked hdr

end Prepare

structure Held (world : World) : Prop where
  distinct : (world.colors.windows.map Prod.fst).Nodup
  dirty : forall held, held ∈ world.colors.windows -> held.2.dirty = true
  balanced : forall window, world.calls.count (.reference window) =
    world.calls.count (.unreference window) + (world.colors.windows.map Prod.fst).count window

section Steps

variable {world : World}

theorem Held.pruned (held : Held world) {referenced : Window -> Bool} :
    Held { world with
      colors := { world.colors with
        windows := (prune world.registry referenced world.colors.windows).1 }
      calls := world.calls ++ (prune world.registry referenced world.colors.windows).2 } := by
  have kept : (prune world.registry referenced world.colors.windows).1.Sublist
      world.colors.windows := by
    rw [prune_kept]
    exact List.filter_sublist
  refine ⟨held.distinct.sublist (kept.map _), fun other member => held.dirty other (kept.mem member),
    fun window => ?_⟩
  have given := @prune_balanced world.registry referenced world.colors.windows window
  have before := held.balanced window
  dsimp only
  rw [List.count_append, List.count_append]
  omega

theorem resetCalls_reference (kept : List (Window × WindowState)) (cleaned : Window -> Bool)
    (window : Window) :
    (kept.flatMap fun held => [WindowCall.cleanCache held.1 (cleaned held.1),
      .unreference held.1]).count (.reference window) = 0 := by
  rw [List.count_eq_zero, List.mem_flatMap]
  rintro ⟨held, _, member⟩
  simp at member

theorem resetCalls_unreference (kept : List (Window × WindowState)) (cleaned : Window -> Bool)
    (window : Window) :
    (kept.flatMap fun held => [WindowCall.cleanCache held.1 (cleaned held.1),
      .unreference held.1]).count (.unreference window) = (kept.map Prod.fst).count window := by
  induction kept with
  | nil => rfl
  | cons held rest ih =>
    rw [List.flatMap_cons, List.count_append, ih, List.map_cons, List.count_cons]
    by_cases same : held.1 = window
    · simp [same, Nat.add_comm]
    · simp [same]

variable {referenced tainted : Window -> Bool}

theorem Held.reset (held : Held world) {cleaned : Window -> Bool} :
    Held { world with
      colors := (SharedBufferColors.reset world.colors world.registry referenced cleaned).1
      calls := world.calls ++
        (SharedBufferColors.reset world.colors world.registry referenced cleaned).2
      tainted := tainted } := by
  refine ⟨List.nodup_nil, fun other member => absurd member List.not_mem_nil, fun window => ?_⟩
  have given := @prune_balanced world.registry referenced world.colors.windows window
  have before := held.balanced window
  have taken := resetCalls_reference
    (prune world.registry referenced world.colors.windows).1 cleaned window
  have returned := resetCalls_unreference
    (prune world.registry referenced world.colors.windows).1 cleaned window
  rw [SharedBufferColors.reset]
  dsimp only
  rw [List.count_append, List.count_append, List.count_append, List.count_append, taken,
    returned, List.map_nil, List.count_nil]
  omega

theorem count_dropWindow (windows : List (Window × WindowState)) (target window : Window) :
    ((dropWindow target windows).map Prod.fst).count window =
      if window = target then 0 else (windows.map Prod.fst).count window := by
  have keys : (dropWindow target windows).map Prod.fst =
      (windows.map Prod.fst).filter fun other => other ≠ target := by
    rw [dropWindow, List.filter_map]
    rfl
  rw [keys]
  by_cases same : window = target
  · subst same
    rw [if_pos rfl, List.count_eq_zero]
    simp
  · rw [if_neg same, List.count_filter]
    simpa using same

variable {target : Window} {widget : Nat} {color : OhosOutputColor} {idle cleaned : Bool}

theorem Held.prepare (held : Held world) :
    let outcome := SharedBufferColors.prepare world.colors world.registry referenced target widget
      color idle cleaned
    Held { world with
      colors := outcome.colors, calls := world.calls ++ outcome.calls, tainted := tainted } := by
  intro outcome
  have step : Step world.colors world.registry referenced target widget color idle cleaned outcome :=
    prepare_step held.distinct held.dirty
  have still : Held { world with
      colors := world.colors, calls := world.calls ++ [], tainted := tainted } := by
    refine ⟨held.distinct, held.dirty, fun window => ?_⟩
    dsimp only
    rw [List.append_nil]
    exact held.balanced window
  generalize outcome = result at step
  cases step with
  | null _ => exact still
  | plain _ _ _ => exact still
  | again _ _ => exact still
  | busy _ _ => exact still
  | marked real missing untracked hdr =>
    have pruned := @Held.pruned world held referenced
    have fresh : target ∉
        (prune world.registry referenced world.colors.windows).1.map Prod.fst := by
      rw [prune_kept]
      exact fun member => untracked ((List.filter_sublist.map Prod.fst).mem member)
    refine ⟨?_, fun other member => ?_, fun window => ?_⟩
    · rw [List.map_append, List.map_singleton]
      refine List.nodup_append'.mpr ⟨pruned.distinct, List.nodup_singleton _, ?_⟩
      exact List.disjoint_singleton.mpr fresh
    · rcases List.mem_append.mp member with before | new
      · exact pruned.dirty other before
      · rw [List.mem_singleton.mp new]
    · have balanced := pruned.balanced window
      dsimp only at balanced ⊢
      rw [<- List.append_assoc]
      generalize world.calls ++
        (prune world.registry referenced world.colors.windows).2 = calls at balanced ⊢
      rw [List.count_append, List.count_append, balanced, List.map_append, List.count_append]
      by_cases same : target = window
      · simp [same, Nat.add_assoc]
      · simp [same]
  | failed tracked sdr =>
    refine ⟨held.distinct, held.dirty, fun window => ?_⟩
    have balanced := held.balanced window
    dsimp only
    rw [List.count_append, List.count_append]
    simpa using balanced
  | cleaned tracked sdr =>
    have kept : (dropWindow target world.colors.windows).Sublist world.colors.windows :=
      List.filter_sublist
    refine ⟨held.distinct.sublist (kept.map _),
      fun other member => held.dirty other (kept.mem member), fun window => ?_⟩
    have balanced := held.balanced window
    have once := List.count_eq_one_of_mem held.distinct tracked
    dsimp only
    rw [List.count_append, List.count_append, count_dropWindow]
    by_cases same : window = target
    · subst same
      rw [once] at balanced
      simp
      omega
    · have apart : ¬ target = window := Ne.symm same
      simpa [same, apart] using balanced

theorem Held.next (held : Held world) (label : Label) :
    Held (SharedBufferColors.next world label) := by
  obtain ⟨event, referenced⟩ := label
  cases event with
  | created window => exact ⟨held.distinct, held.dirty, held.balanced⟩
  | destroyed window => exact ⟨held.distinct, held.dirty, held.balanced⟩
  | registry call => exact ⟨held.distinct, held.dirty, held.balanced⟩
  | prepare target widget color idle cleaned => exact held.prepare
  | prune => exact held.pruned
  | reset cleaned => exact held.reset

def Marked (world : World) : Prop :=
  world.colors.ready = true -> forall window, window ∈ world.alive ->
    world.tainted window = true -> window ∈ world.colors.windows.map Prod.fst

theorem Marked.pruned (marked : Marked world) {referenced : Window -> Bool}
    (unmoved : ∀ held ∈ world.colors.windows, held.1 ∈ world.alive ->
      isCurrent world.registry referenced held = true)
    (ready : world.colors.ready = true) {window : Window} (alive : window ∈ world.alive)
    (tainted : world.tainted window = true) :
    window ∈ (prune world.registry referenced world.colors.windows).1.map Prod.fst := by
  obtain ⟨held, member, rfl⟩ := List.mem_map.mp (marked ready window alive tainted)
  rw [prune_kept]
  exact List.mem_map.mpr ⟨held, List.mem_filter.mpr ⟨member, unmoved held member alive⟩, rfl⟩

theorem Marked.prepare (marked : Marked world) (held : Held world)
    (unmoved : Unmoved world ⟨.prepare target widget color idle cleaned, referenced⟩) :
    Marked (next world ⟨.prepare target widget color idle cleaned, referenced⟩) := by
  have step : Step world.colors world.registry referenced target widget color idle cleaned _ :=
    prepare_step held.distinct held.dirty
  intro ready window alive tainted
  change (SharedBufferColors.prepare world.colors world.registry referenced target widget color idle
    cleaned).colors.ready = true at ready
  change (if window = target /\ color.mode = .hdr10 /\ (SharedBufferColors.prepare world.colors
    world.registry referenced target widget color idle cleaned).prepared = true then true
    else world.tainted window && !cleanedIn (SharedBufferColors.prepare world.colors world.registry
      referenced target widget color idle cleaned).calls window) = true at tainted
  change window ∈ (SharedBufferColors.prepare world.colors world.registry referenced target widget
    color idle cleaned).colors.windows.map Prod.fst
  generalize SharedBufferColors.prepare world.colors world.registry referenced target widget color
    idle cleaned = outcome at step ready tainted ⊢
  have before : world.tainted window = true -> world.colors.ready = true ->
      window ∈ world.colors.windows.map Prod.fst := fun stained fine => marked fine window alive stained
  cases step with
  | null _ =>
    rw [if_neg (fun both => absurd both.2.2 Bool.false_ne_true)] at tainted
    exact before (Bool.and_eq_true_iff.mp tainted).1 ready
  | plain _ _ sdr =>
    rw [if_neg (fun both => sdr both.2.1)] at tainted
    exact before (Bool.and_eq_true_iff.mp tainted).1 ready
  | again tracked _ =>
    split at tainted
    · rename_i own
      rw [own.1]
      exact tracked
    · exact before (Bool.and_eq_true_iff.mp tainted).1 ready
  | busy _ sdr =>
    rw [if_neg (fun both => sdr both.2.1)] at tainted
    exact before (Bool.and_eq_true_iff.mp tainted).1 ready
  | failed _ sdr => exact absurd ready Bool.false_ne_true
  | marked real missing untracked hdr =>
    rw [List.map_append, List.mem_append]
    split at tainted
    · rename_i own
      rw [own.1]
      exact Or.inr List.mem_cons_self
    · exact Or.inl (marked.pruned (unmoved ⟨real, missing, hdr⟩) ready alive
        (Bool.and_eq_true_iff.mp tainted).1)
  | cleaned tracked sdr =>
    rw [if_neg (fun both => sdr both.2.1)] at tainted
    obtain ⟨stained, kept⟩ := Bool.and_eq_true_iff.mp tainted
    obtain ⟨other, member, rfl⟩ := List.mem_map.mp (before stained ready)
    refine List.mem_map.mpr ⟨other, List.mem_filter.mpr ⟨member, ?_⟩, rfl⟩
    -- The window cleaned is no longer tainted.
    refine decide_eq_true fun same => ?_
    rw [same] at kept
    simp [cleanedIn] at kept

theorem Marked.next (marked : Marked world) (held : Held world) {label : Label}
    (unmoved : Unmoved world label) : Marked (SharedBufferColors.next world label) := by
  obtain ⟨event, referenced⟩ := label
  cases event with
  | created window =>
    intro ready other alive tainted
    change other ∈ window :: world.alive at alive
    change Function.update world.tainted window false other = true at tainted
    by_cases same : other = window
    · rw [same, Function.update_self] at tainted
      cases tainted
    · rw [Function.update_of_ne same] at tainted
      exact marked ready other ((List.mem_cons.mp alive).resolve_left same) tainted
  | destroyed window =>
    intro ready other alive tainted
    exact marked ready other (List.mem_filter.mp alive).1 tainted
  | registry call => exact marked
  | prepare target widget color idle cleaned => exact marked.prepare held unmoved
  | prune =>
    intro ready other alive tainted
    exact marked.pruned (unmoved trivial) ready alive tainted
  | reset cleaned =>
    intro ready other alive tainted
    obtain ⟨stained, kept⟩ := Bool.and_eq_true_iff.mp tainted
    obtain ⟨fine, all⟩ := Bool.and_eq_true_iff.mp ready
    have inside := marked.pruned (unmoved trivial) fine alive stained
    obtain ⟨entry, member, rfl⟩ := List.mem_map.mp inside
    have done := List.all_eq_true.mp all entry member
    -- Every window that is kept is cleaned.
    have cleaning : cleanedIn (SharedBufferColors.reset world.colors world.registry referenced
        cleaned).2 entry.1 = true := by
      refine List.any_eq_true.mpr ⟨.cleanCache entry.1 true, ?_, decide_eq_true rfl⟩
      refine List.mem_append_right _ (List.mem_flatMap.mpr ⟨entry, member, ?_⟩)
      rw [done]
      exact List.mem_cons_self
    change (!cleanedIn (SharedBufferColors.reset world.colors world.registry referenced
      cleaned).2 entry.1) = true at kept
    rw [cleaning] at kept
    cases kept

end Steps

theorem held_start : Held {} :=
  ⟨List.nodup_nil, fun _ member => absurd member List.not_mem_nil, fun _ => rfl⟩

theorem held_run {labels : List Label} (follows : Follows Allowed next {} labels) :
    Held (labels.foldl next {}) :=
  follows.preserves (fun _ label held _ => held.next label) held_start

def hdrColor : OhosOutputColor :=
  { mode := .hdr10, whiteMillinits := 200000, peakMillinits := 1000000 }

def quietly (event : Event) : Label := { event := event, referenced := fun _ => true }

def hdrOnce : List Label :=
  [.created 1, .registry (.register "aura_shell" 1 {} 1), .registry (.bind 5),
    .prepare 1 5 hdrColor true true].map quietly

theorem hdrOnce_allowed : Follows Allowed next {} hdrOnce :=
  ⟨⟨List.not_mem_nil, List.not_mem_nil⟩, trivial, trivial,
    ⟨rfl, Or.inr List.mem_cons_self⟩, trivial⟩

-- Window 1 moves from widget 5 to widget 6 before another window turns HDR.
def movedToAnother : List Label :=
  hdrOnce ++ [.registry (.unbind 5), .registry (.bind 6), .created 2,
    .registry (.register "aura_pwa_7" 2 {} 1), .registry (.bind 7),
    .prepare 2 7 hdrColor true true].map quietly

end ChromiumHmos.Ozone.SharedBufferColors
