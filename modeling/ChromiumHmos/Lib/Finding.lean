import Mathlib

set_option autoImplicit false

/-! # Where a pattern stands in a text -/

namespace ChromiumHmos.Lib

variable {A : Type} [DecidableEq A]

/-- The pattern stands in the text at `i`. -/
def StandsAt (pattern text : List A) (i : Nat) : Prop := pattern <+: text.drop i

-- The first place in a text whose own place is `i`.
def findFrom (pattern : List A) : List A → Nat → Option Nat
  | [], _ => none
  | c :: rest, i =>
    if pattern.isPrefixOf (c :: rest) then some i else findFrom pattern rest (i + 1)

def indexOf (pattern text : List A) (start : Nat) : Option Nat :=
  findFrom pattern (text.drop start) start

-- The last place up to `bound`.
def lastIndexOf (pattern text : List A) : Nat → Option Nat
  | 0 => if pattern.isPrefixOf text then some 0 else none
  | bound + 1 =>
    if pattern.isPrefixOf (text.drop (bound + 1)) then some (bound + 1)
    else lastIndexOf pattern text bound

omit [DecidableEq A] in
theorem StandsAt.length {pattern text : List A} {i : Nat} (stands : StandsAt pattern text i) :
    pattern.length + i <= text.length \/ pattern = [] := by
  have fits := List.IsPrefix.length_le stands
  rw [List.length_drop] at fits
  rcases Nat.eq_zero_or_pos pattern.length with empty | some
  · exact Or.inr (List.length_eq_zero_iff.mp empty)
  · exact Or.inl (by omega)

omit [DecidableEq A] in
theorem StandsAt.getElem {pattern text : List A} {i : Nat} (stands : StandsAt pattern text i) (k : Nat)
    (inside : k < pattern.length) : text[i + k]? = some pattern[k] := by
  obtain ⟨rest, parts⟩ := stands
  rw [<- List.getElem?_drop, <- parts, List.getElem?_append_left inside, List.getElem?_eq_getElem inside]

theorem findFrom_spec (pattern text : List A) (nonempty : pattern ≠ []) (rest : List A) (start : Nat)
    (own : text.drop start = rest) :
    match findFrom pattern rest start with
    | some c => start <= c /\ StandsAt pattern text c /\
        ∀ j, start <= j -> j < c -> ¬StandsAt pattern text j
    | none => ∀ j, start <= j -> ¬StandsAt pattern text j := by
  induction rest generalizing start with
  | nil =>
    intro j later stands
    have gone : text.drop j = [] := by
      have short := List.drop_eq_nil_iff.mp own
      exact List.drop_eq_nil_iff.mpr (by omega)
    rw [StandsAt, gone] at stands
    exact nonempty (List.prefix_nil.mp stands)
  | cons c rest ih =>
    unfold findFrom
    by_cases here : pattern.isPrefixOf (c :: rest) = true
    · rw [if_pos here]
      refine ⟨Nat.le_refl _, ?_, fun j later earlier => by omega⟩
      rw [StandsAt, own]
      exact List.isPrefixOf_iff_prefix.mp here
    · rw [if_neg here]
      have next : text.drop (start + 1) = rest := by
        rw [<- List.drop_drop, own]
        rfl
      have missing : ¬StandsAt pattern text start := by
        rw [StandsAt, own]
        exact fun stands => here (List.isPrefixOf_iff_prefix.mpr stands)
      have found := ih (start + 1) next
      cases result : findFrom pattern rest (start + 1) with
      | none =>
        rw [result] at found
        intro j later
        rcases Nat.eq_or_lt_of_le later with rfl | after
        · exact missing
        · exact found j after
      | some place =>
        rw [result] at found
        obtain ⟨after, stands, first⟩ := found
        refine ⟨by omega, stands, fun j later earlier => ?_⟩
        rcases Nat.eq_or_lt_of_le later with rfl | past
        · exact missing
        · exact first j past earlier

theorem indexOf_some (pattern text : List A) (nonempty : pattern ≠ []) (start c : Nat)
    (found : indexOf pattern text start = some c) :
    start <= c /\ StandsAt pattern text c /\ ∀ j, start <= j -> j < c -> ¬StandsAt pattern text j := by
  have spec := findFrom_spec pattern text nonempty _ start rfl
  rw [indexOf] at found
  rwa [found] at spec

theorem indexOf_first (pattern text : List A) (nonempty : pattern ≠ []) (start c : Nat)
    (after : start <= c) (stands : StandsAt pattern text c)
    (first : ∀ j, start <= j -> j < c -> ¬StandsAt pattern text j) :
    indexOf pattern text start = some c := by
  have spec := findFrom_spec pattern text nonempty _ start rfl
  rw [indexOf]
  cases found : findFrom pattern (text.drop start) start with
  | none =>
    rw [found] at spec
    exact absurd stands (spec c after)
  | some other =>
    rw [found] at spec
    obtain ⟨later, here, earliest⟩ := spec
    rcases Nat.lt_trichotomy other c with before | same | past
    · exact absurd here (first other later before)
    · rw [same]
    · exact absurd stands (earliest c after past)

theorem lastIndexOf_spec (pattern text : List A) (bound : Nat) :
    match lastIndexOf pattern text bound with
    | some s => s <= bound /\ StandsAt pattern text s /\
        ∀ j, s < j -> j <= bound -> ¬StandsAt pattern text j
    | none => ∀ j, j <= bound -> ¬StandsAt pattern text j := by
  induction bound with
  | zero =>
    unfold lastIndexOf
    by_cases here : pattern.isPrefixOf text = true
    · rw [if_pos here]
      exact ⟨Nat.le_refl _, List.isPrefixOf_iff_prefix.mp here, fun j later within => by omega⟩
    · rw [if_neg here]
      intro j within stands
      obtain rfl : j = 0 := by omega
      exact here (List.isPrefixOf_iff_prefix.mpr stands)
  | succ bound ih =>
    unfold lastIndexOf
    by_cases here : pattern.isPrefixOf (text.drop (bound + 1)) = true
    · rw [if_pos here]
      exact ⟨Nat.le_refl _, List.isPrefixOf_iff_prefix.mp here, fun j later within => by omega⟩
    · rw [if_neg here]
      have missing : ¬StandsAt pattern text (bound + 1) :=
        fun stands => here (List.isPrefixOf_iff_prefix.mpr stands)
      cases found : lastIndexOf pattern text bound with
      | none =>
        rw [found] at ih
        intro j within
        rcases Nat.eq_or_lt_of_le within with rfl | earlier
        · exact missing
        · exact ih j (by omega)
      | some s =>
        rw [found] at ih
        obtain ⟨low, stands, last⟩ := ih
        refine ⟨by omega, stands, fun j later within => ?_⟩
        rcases Nat.eq_or_lt_of_le within with rfl | earlier
        · exact missing
        · exact last j later (by omega)

theorem lastIndexOf_some (pattern text : List A) (bound s : Nat)
    (found : lastIndexOf pattern text bound = some s) :
    s <= bound /\ StandsAt pattern text s /\ ∀ j, s < j -> j <= bound -> ¬StandsAt pattern text j := by
  have spec := lastIndexOf_spec pattern text bound
  rwa [found] at spec

theorem lastIndexOf_last (pattern text : List A) (bound s : Nat) (low : s <= bound)
    (stands : StandsAt pattern text s)
    (last : ∀ j, s < j -> j <= bound -> ¬StandsAt pattern text j) :
    lastIndexOf pattern text bound = some s := by
  have spec := lastIndexOf_spec pattern text bound
  cases found : lastIndexOf pattern text bound with
  | none =>
    rw [found] at spec
    exact absurd stands (spec s low)
  | some other =>
    rw [found] at spec
    obtain ⟨within, here, latest⟩ := spec
    rcases Nat.lt_trichotomy other s with before | same | past
    · exact absurd stands (latest s before low)
    · rw [same]
    · exact absurd here (last other past within)

end ChromiumHmos.Lib
