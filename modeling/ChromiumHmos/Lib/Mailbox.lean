import Mathlib

set_option autoImplicit false

/-!
# Numbered entries

What waits in a list under a number, until that number is taken out.
-/

namespace Mailbox

variable {β : Type*} {entries : List (ℕ × β)} {id other : ℕ} {value : β}

def take (entries : List (ℕ × β)) (id : ℕ) : List (ℕ × β) := entries.eraseP fun entry => entry.1 = id

theorem split_of_lookup (found : entries.lookup id = some value) :
    ∃ front back, entries = front ++ (id, value) :: back /\ take entries id = front ++ back := by
  induction entries with
  | nil => cases found
  | cons head rest ih =>
    obtain ⟨number, held⟩ := head
    by_cases same : number = id
    · subst same
      obtain rfl : held = value := by simpa using found
      exact ⟨[], rest, rfl, by simp [take]⟩
    · have missed : (id == number) = false := beq_eq_false_iff_ne.mpr (Ne.symm same)
      rw [List.lookup_cons, missed] at found
      obtain ⟨front, back, rfl, taken⟩ := ih found
      refine ⟨(number, held) :: front, back, rfl, ?_⟩
      rw [take, List.eraseP_cons_of_neg (by simpa using same), List.cons_append]
      exact congrArg _ taken

theorem take_perm (found : entries.lookup id = some value) : entries.Perm ((id, value) :: take entries id) := by
  obtain ⟨front, back, rfl, taken⟩ := split_of_lookup found
  rw [taken]
  exact List.perm_middle

theorem mem_of_lookup (found : entries.lookup id = some value) : (id, value) ∈ entries := by
  obtain ⟨front, back, rfl, -⟩ := split_of_lookup found
  simp

theorem lookup_of_mem {κ : Type*} [BEq κ] [LawfulBEq κ] {entries : List (κ × β)} {id : κ}
    (distinct : (entries.map Prod.fst).Nodup) (mem : (id, value) ∈ entries) : entries.lookup id = some value := by
  induction entries with
  | nil => cases mem
  | cons head rest ih =>
    obtain ⟨number, held⟩ := head
    rw [List.map_cons, List.nodup_cons] at distinct
    rw [List.lookup_cons]
    rcases List.mem_cons.mp mem with same | inside
    · obtain ⟨rfl, rfl⟩ := Prod.mk.inj same
      simp
    · have apart : id ≠ number := by
        rintro rfl
        exact distinct.1 (List.mem_map.mpr ⟨_, inside, rfl⟩)
      rw [beq_eq_false_iff_ne.mpr apart]
      exact ih distinct.2 inside

theorem lookup_some (mem : id ∈ entries.map Prod.fst) : ∃ value, entries.lookup id = some value := by
  induction entries with
  | nil => cases mem
  | cons head rest ih =>
    obtain ⟨number, held⟩ := head
    rw [List.lookup_cons]
    by_cases same : id = number
    · exact ⟨held, by simp [same]⟩
    · rw [beq_eq_false_iff_ne.mpr same]
      refine ih ?_
      simpa [same] using mem

theorem take_missing (missing : entries.lookup id = none) : take entries id = entries := by
  refine List.eraseP_of_forall_not fun entry mem same => ?_
  have named : entry.1 = id := by simpa using same
  obtain ⟨value, found⟩ := lookup_some (List.mem_map.mpr ⟨entry, mem, named⟩)
  exact absurd (missing.symm.trans found) (by simp)

theorem take_sublist (entries : List (ℕ × β)) (id : ℕ) : (take entries id).Sublist entries :=
  List.eraseP_sublist

theorem take_nodup (distinct : (entries.map Prod.fst).Nodup) (id : ℕ) :
    ((take entries id).map Prod.fst).Nodup :=
  distinct.sublist ((take_sublist entries id).map _)

theorem take_gone (distinct : (entries.map Prod.fst).Nodup) (found : entries.lookup id = some value) :
    id ∉ (take entries id).map Prod.fst := by
  obtain ⟨front, back, rfl, taken⟩ := split_of_lookup found
  rw [List.map_append, List.map_cons, List.nodup_middle, <- List.map_append] at distinct
  rw [taken]
  exact (List.nodup_cons.mp distinct).1

theorem mem_take (mem : (other, value) ∈ entries) (apart : other ≠ id) :
    (other, value) ∈ take entries id :=
  (List.mem_eraseP_of_neg (by simpa using apart)).mpr mem

theorem snoc_nodup (distinct : (entries.map Prod.fst).Nodup)
    (bound : ∀ entry ∈ entries, entry.1 < id) (value : β) :
    ((entries ++ [(id, value)]).map Prod.fst).Nodup := by
  rw [List.map_append, List.map_singleton, List.nodup_append]
  refine ⟨distinct, List.nodup_singleton _, fun number mem last single => ?_⟩
  obtain ⟨entry, there, rfl⟩ := List.mem_map.mp mem
  rw [List.mem_singleton.mp single]
  exact (bound entry there).ne

theorem filterMap_take {γ : Type*} (part : β -> Option γ) (found : entries.lookup id = some value) :
    (entries.filterMap fun entry => part entry.2).Perm
      ((part value).toList ++ (take entries id).filterMap fun entry => part entry.2) := by
  obtain ⟨front, back, rfl, taken⟩ := split_of_lookup found
  rw [taken]
  simp only [List.filterMap_append, List.filterMap_cons]
  cases part value with
  | none => exact .refl _
  | some v => exact List.perm_middle

end Mailbox
