import Mathlib

set_option autoImplicit false

/-!
# Custody

What comes into one's hands comes once, and is held until it goes.
-/

namespace ChromiumHmos.Lib

variable {R : Type*}

structure Custody (came went held : List R) : Prop where
  once : came.Nodup
  account : came.Perm (went ++ held)

variable {came went held new gone after : List R}

theorem custody_none : Custody ([] : List R) [] [] := ⟨.nil, .nil⟩

theorem Custody.move (custody : Custody came went held) (distinct : new.Nodup) (fresh : ∀ r ∈ new, r ∉ came)
    (moved : (held ++ new).Perm (gone ++ after)) : Custody (came ++ new) (went ++ gone) after := by
  refine ⟨?_, ?_⟩
  · refine List.nodup_append'.mpr ⟨custody.once, distinct, ?_⟩
    exact fun r old again => fresh r again old
  · have together : (came ++ new).Perm (went ++ held ++ new) := custody.account.append_right new
    rw [List.append_assoc] at together
    rw [List.append_assoc]
    exact together.trans (moved.append_left went)

theorem Custody.count [DecidableEq R] (custody : Custody came went held) (r : R) :
    came.count r <= 1 /\ went.count r + held.count r = came.count r := by
  have same := custody.account.count_eq r
  rw [List.count_append] at same
  exact ⟨List.nodup_iff_count_le_one.mp custody.once r, same.symm⟩

end ChromiumHmos.Lib
