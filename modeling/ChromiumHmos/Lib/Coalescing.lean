import Mathlib

set_option autoImplicit false

/-!
# Coalesced streams

What is left of a stream when an item that merges may take the place of the last one kept.
-/

namespace Coalescing

variable {α : Type*} {merges : α → Bool}

theorem snoc_split {before after list : List α} {last next item : α}
    (split : list ++ [item] = before ++ last :: next :: after) :
    (after = [] /\ list = before ++ [last] /\ item = next) \/
      ∃ rest, after = rest ++ [item] /\ list = before ++ last :: next :: rest := by
  rcases List.eq_nil_or_concat after with rfl | ⟨rest, end_item, rfl⟩
  · have same : list ++ [item] = (before ++ [last]) ++ [next] := by simpa using split
    obtain ⟨rfl, last_same⟩ := List.append_inj' same rfl
    exact .inl ⟨rfl, rfl, List.singleton_inj.mp last_same⟩
  · have same : list ++ [item] = (before ++ last :: next :: rest) ++ [end_item] := by
      simpa using split
    obtain ⟨rfl, last_same⟩ := List.append_inj' same rfl
    obtain rfl := List.singleton_inj.mp last_same
    exact .inr ⟨rest, List.concat_eq_append, rfl⟩

inductive Coalesced (merges : α → Bool) : List α → List α → Prop
  | nil : Coalesced merges [] []
  | post {posted kept : List α} {item : α} (before : Coalesced merges posted kept) :
      Coalesced merges (posted ++ [item]) (kept ++ [item])
  | merge {posted kept : List α} {old new : α} (replaced : merges old) (replaces : merges new)
      (before : Coalesced merges posted (kept ++ [old])) :
      Coalesced merges (posted ++ [new]) (kept ++ [new])

namespace Coalesced

variable {posted kept : List α}

theorem sublist (kept_of : Coalesced merges posted kept) : kept.Sublist posted := by
  induction kept_of with
  | nil => exact .slnil
  | post _ ih => exact ih.append_right _
  | merge _ _ _ ih => exact ((List.sublist_append_left _ _).trans ih).append_right _

theorem discrete (kept_of : Coalesced merges posted kept) :
    kept.filter (fun item => !merges item) = posted.filter (fun item => !merges item) := by
  induction kept_of with
  | nil => rfl
  | post _ ih => rw [List.filter_append, List.filter_append, ih]
  | merge replaced replaces _ ih =>
    rw [List.filter_append, List.filter_append, <- ih, List.filter_append]
    simp [replaced, replaces]

theorem getLast? (kept_of : Coalesced merges posted kept) : kept.getLast? = posted.getLast? := by
  cases kept_of with
  | nil => rfl
  | post _ => simp
  | merge _ _ _ => simp

theorem last_before (kept_of : Coalesced merges posted kept) {before after : List α}
    {last next : α} (at_next : posted = before ++ last :: next :: after) (merging : merges last)
    (discrete_next : merges next = false) :
    ∃ front back, kept = front ++ last :: next :: back /\
      front.filter (fun item => !merges item) = before.filter (fun item => !merges item) := by
  induction kept_of generalizing after with
  | nil => simp at at_next
  | @post posted kept item kept_of ih =>
    rcases snoc_split at_next with ⟨-, rfl, rfl⟩ | ⟨rest, -, split⟩
    · have ends := kept_of.getLast?
      rw [List.getLast?_concat] at ends
      obtain ⟨front, rfl⟩ := List.getLast?_eq_some_iff.mp ends
      have kept_discrete := kept_of.discrete
      rw [List.filter_append, List.filter_append] at kept_discrete
      exact ⟨front, [], by simp, by simpa [merging] using kept_discrete⟩
    · obtain ⟨front, back, rfl, filtered⟩ := ih split
      exact ⟨front, back ++ [item], by simp, filtered⟩
  | @merge posted kept old new replaced replaces kept_of ih =>
    rcases snoc_split at_next with ⟨-, -, rfl⟩ | ⟨rest, -, split⟩
    · rw [discrete_next] at replaces
      cases replaces
    · obtain ⟨front, back, kept_split, filtered⟩ := ih split
      rcases snoc_split kept_split with ⟨-, -, rfl⟩ | ⟨back, -, rfl⟩
      · -- the item merged into would be the one that does not merge
        rw [discrete_next] at replaced
        cases replaced
      · exact ⟨front, back ++ [new], by simp, filtered⟩

end Coalesced

end Coalescing
