import Mathlib

set_option autoImplicit false

/-! # Sorted lists without repetition, and the search in them -/

namespace ChromiumHmos.Lib

variable {A : Type} [LE A] [LT A] [DecidableLE A] [DecidableLT A]

/-- The values once each, in increasing order. -/
def sortedDistinct [DecidableEq A] (values : List A) : List A :=
  (values.mergeSort fun a b => decide (a ≤ b)).destutter (· ≠ ·)

/-- The first value that is not below the searched one is not above it either. -/
def binarySearch (values : List A) (value : A) : Bool :=
  match values.dropWhile (fun held => decide (held < value)) with
  | found :: _ => !decide (value < found)
  | [] => false

omit [LE A] [LT A] [DecidableLE A] [DecidableLT A] in
theorem mem_destutter'_ne [DecidableEq A] (first a : A) (values : List A) :
    a ∈ values.destutter' (· ≠ ·) first ↔ a = first \/ a ∈ values := by
  induction values generalizing first with
  | nil => simp
  | cons head rest ih =>
    by_cases fresh : first ≠ head
    · rw [List.destutter'_cons_pos _ fresh, List.mem_cons, ih, List.mem_cons]
    · rw [List.destutter'_cons_neg _ fresh, ih]
      simp only [ne_eq, Decidable.not_not] at fresh
      simp [fresh]

omit [LE A] [LT A] [DecidableLE A] [DecidableLT A] in
theorem mem_destutter_ne [DecidableEq A] (a : A) (values : List A) :
    a ∈ values.destutter (· ≠ ·) ↔ a ∈ values := by
  cases values with
  | nil => simp
  | cons head rest => rw [List.destutter_cons', mem_destutter'_ne, List.mem_cons]

omit [LT A] [DecidableLT A] in
theorem mem_sortedDistinct [DecidableEq A] (a : A) (values : List A) :
    a ∈ sortedDistinct values ↔ a ∈ values := by
  rw [sortedDistinct, mem_destutter_ne, List.mem_mergeSort]

variable [Std.IsLinearOrder A] [Std.LawfulOrderLT A]

omit [DecidableLT A] in
theorem sortedDistinct_increasing [DecidableEq A] (values : List A) :
    (sortedDistinct values).Pairwise (· < ·) := by
  have sorted : (values.mergeSort fun a b => decide (a <= b)).Pairwise (· <= ·) := by
    have order := @List.pairwise_mergeSort A (fun a b : A => decide (a <= b))
      (fun a b c first second => by
        simp only [decide_eq_true_eq] at *
        exact Std.le_trans first second)
      (fun a b => by
        simp only [Bool.or_eq_true, decide_eq_true_eq]
        exact Std.le_total) values
    simpa using order
  have kept : (sortedDistinct values).Pairwise (· <= ·) :=
    sorted.sublist (List.destutter_sublist _ _)
  have apart : (sortedDistinct values).IsChain (· ≠ ·) := List.isChain_destutter _ _
  refine List.isChain_iff_pairwise.mp (List.isChain_iff_getElem.mpr fun i inside => ?_)
  exact Std.lt_of_le_of_ne (List.isChain_iff_getElem.mp kept.isChain i inside)
    (List.isChain_iff_getElem.mp apart i inside)

omit [DecidableLE A] in
theorem binarySearch_eq_true (values : List A) (increasing : values.Pairwise (· < ·)) (value : A) :
    binarySearch values value = true ↔ value ∈ values := by
  induction values with
  | nil => simp [binarySearch]
  | cons head rest ih =>
    obtain ⟨above, later⟩ := List.pairwise_cons.mp increasing
    by_cases below : head < value
    · have skipped : binarySearch (head :: rest) value = binarySearch rest value := by
        simp [binarySearch, below]
      have other : value ≠ head := fun same => Std.lt_irrefl (same ▸ below)
      simp [skipped, ih later, other]
    · have found : binarySearch (head :: rest) value = !decide (value < head) := by
        simp [binarySearch, below]
      simp only [found, Bool.not_eq_true', decide_eq_false_iff_not, List.mem_cons]
      constructor
      · intro notAbove
        exact Or.inl (Std.le_antisymm (Std.not_lt.mp below) (Std.not_lt.mp notAbove))
      · rintro (rfl | inside)
        · exact below
        · exact fun less => Std.lt_irrefl (Std.lt_trans less (above value inside))

end ChromiumHmos.Lib
