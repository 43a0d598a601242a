import Mathlib

set_option autoImplicit false

/-!
# Totals over ordered maps

The sum of a weight over the entries of a `Std.ExtTreeMap`, and how one insertion, removal
or rewrite of the entries moves it.
-/

namespace OrderedMap

open Std

variable {α β γ : Type*} {cmp : α → α → Ordering} [TransCmp cmp] [LawfulEqCmp cmp]

theorem toList_nodup (entries : ExtTreeMap α β cmp) : entries.toList.Nodup := by
  refine (ExtTreeMap.distinct_keys_toList (t := entries)).imp ?_
  rintro a b distinct rfl
  exact distinct ReflCmp.compare_self

theorem getElem?_erase_of_ne (entries : ExtTreeMap α β cmp) (key other : α)
    (distinct : other ≠ key) : (entries.erase key)[other]? = entries[other]? := by
  rw [ExtTreeMap.getElem?_erase, if_neg]
  intro equal
  exact distinct (LawfulEqCmp.eq_of_compare equal).symm

theorem getElem?_insert_of_ne (entries : ExtTreeMap α β cmp) (key other : α) (value : β)
    (distinct : other ≠ key) : (entries.insert key value)[other]? = entries[other]? := by
  rw [ExtTreeMap.getElem?_insert, if_neg]
  intro equal
  exact distinct (LawfulEqCmp.eq_of_compare equal).symm

@[simp] theorem getElem?_erase_same (entries : ExtTreeMap α β cmp) (key : α) :
    (entries.erase key)[key]? = none := by
  simp

theorem getElem?_erase_some (entries : ExtTreeMap α β cmp) (key other : α) (value : β) :
    (entries.erase key)[other]? = some value ↔
      other ≠ key /\ entries[other]? = some value := by
  by_cases same : other = key
  · simp [same]
  · simp [getElem?_erase_of_ne _ _ _ same, same]

theorem getElem?_insert_some (entries : ExtTreeMap α β cmp) (key other : α) (value found : β) :
    (entries.insert key value)[other]? = some found ↔
      (other = key /\ found = value) \/ (other ≠ key /\ entries[other]? = some found) := by
  by_cases same : other = key
  · simp [same, eq_comm]
  · simp [getElem?_insert_of_ne _ _ _ _ same, same]

theorem insertIfNew_fresh (entries : ExtTreeMap α β cmp) (key : α) (value : β)
    (fresh : entries[key]? = none) : entries.insertIfNew key value = entries.insert key value := by
  have absent : key ∉ entries := by
    rw [ExtTreeMap.mem_iff_isSome_getElem?, fresh]
    exact Bool.false_ne_true
  refine ExtTreeMap.ext_getElem? fun other => ?_
  rw [ExtTreeMap.getElem?_insertIfNew, ExtTreeMap.getElem?_insert]
  simp only [absent, not_false_eq_true, and_true]

instance decidableExistsHeld (held : Option β) (P : β → Prop) [DecidablePred P] :
    Decidable (∃ value, held = some value ∧ P value) :=
  match held with
  | none => isFalse fun ⟨_, is, _⟩ => nomatch is
  | some value => decidable_of_iff (P value)
      ⟨fun holds => ⟨value, rfl, holds⟩, fun ⟨_, is, holds⟩ => Option.some.inj is ▸ holds⟩

theorem getElem?_foldl_erase (keys : List α) (entries : ExtTreeMap α β cmp) (other : α) (found : β) :
    (keys.foldl ExtTreeMap.erase entries)[other]? = some found ↔
      other ∉ keys /\ entries[other]? = some found := by
  induction keys generalizing entries with
  | nil => simp
  | cons key rest ih =>
    rw [List.foldl_cons, ih, getElem?_erase_some, List.mem_cons, not_or]
    exact ⟨fun ⟨later, here, present⟩ => ⟨⟨here, later⟩, present⟩,
      fun ⟨⟨here, later⟩, present⟩ => ⟨later, here, present⟩⟩

theorem toList_erase_perm (entries : ExtTreeMap α β cmp) (key : α) (value : β)
    (found : entries[key]? = some value) :
    entries.toList.Perm ((key, value) :: (entries.erase key).toList) := by
  rw [List.perm_ext_iff_of_nodup (toList_nodup entries)]
  · rintro ⟨other, entry⟩
    rw [List.mem_cons, ExtTreeMap.mem_toList_iff_getElem?_eq_some,
      ExtTreeMap.mem_toList_iff_getElem?_eq_some, getElem?_erase_some]
    by_cases same : other = key
    · simp [same, found, eq_comm]
    · simp [same]
  · rw [List.nodup_cons]
    refine ⟨?_, toList_nodup _⟩
    rw [ExtTreeMap.mem_toList_iff_getElem?_eq_some]
    simp

theorem toList_insert_perm (entries : ExtTreeMap α β cmp) (key : α) (value : β)
    (fresh : entries[key]? = none) :
    (entries.insert key value).toList.Perm ((key, value) :: entries.toList) := by
  have erased : (entries.insert key value).erase key = entries := by
    refine ExtTreeMap.ext_getElem? fun other => ?_
    by_cases same : other = key
    · simp [same, fresh]
    · rw [getElem?_erase_of_ne _ _ _ same, getElem?_insert_of_ne _ _ _ _ same]
  simpa only [erased] using toList_erase_perm (entries.insert key value) key value (by simp)

theorem map_insert (f : α -> γ -> β) (entries : ExtTreeMap α γ cmp) (key : α) (value : γ) :
    (entries.insert key value).map f = (entries.map f).insert key (f key value) := by
  refine ExtTreeMap.ext_getElem? fun other => ?_
  rw [ExtTreeMap.getElem?_map]
  by_cases same : other = key
  · simp [same]
  · rw [getElem?_insert_of_ne _ _ _ _ same, getElem?_insert_of_ne _ _ _ _ same,
      ExtTreeMap.getElem?_map]

theorem map_erase (f : α -> γ -> β) (entries : ExtTreeMap α γ cmp) (key : α) :
    (entries.erase key).map f = (entries.map f).erase key := by
  refine ExtTreeMap.ext_getElem? fun other => ?_
  rw [ExtTreeMap.getElem?_map]
  by_cases same : other = key
  · simp [same]
  · rw [getElem?_erase_of_ne _ _ _ same, getElem?_erase_of_ne _ _ _ same, ExtTreeMap.getElem?_map]

theorem insert_same (entries : ExtTreeMap α β cmp) (key : α) (value : β)
    (found : entries[key]? = some value) : entries.insert key value = entries := by
  refine ExtTreeMap.ext_getElem? fun other => ?_
  by_cases same : other = key
  · simp [same, found]
  · rw [getElem?_insert_of_ne _ _ _ _ same]

section Pointwise

variable {ι : Type*} (update : ExtTreeMap α β cmp → ι → ExtTreeMap α β cmp) (key : ι → α)

omit [LawfulEqCmp cmp] in
theorem foldl_other (items : List ι)
    (others : ∀ item ∈ items, ∀ entries other, other ≠ key item ->
      (update entries item)[other]? = entries[other]?)
    (entries : ExtTreeMap α β cmp) (other : α) (absent : ∀ item ∈ items, key item ≠ other) :
    (items.foldl update entries)[other]? = entries[other]? := by
  induction items generalizing entries with
  | nil => rfl
  | cons item rest ih =>
    rw [List.foldl_cons, ih (fun next mem => others next (List.mem_cons_of_mem _ mem)) _
      fun next mem => absent next (List.mem_cons_of_mem _ mem)]
    exact others item List.mem_cons_self entries other (absent item List.mem_cons_self).symm

omit [LawfulEqCmp cmp] in
theorem foldl_own (items : List ι)
    (others : ∀ item ∈ items, ∀ entries other, other ≠ key item ->
      (update entries item)[other]? = entries[other]?)
    (own : ∀ item ∈ items, ∀ entries entries', entries[key item]? = entries'[key item]? ->
      (update entries item)[key item]? = (update entries' item)[key item]?)
    (distinct : (items.map key).Nodup) (entries : ExtTreeMap α β cmp)
    (item : ι) (mem : item ∈ items) :
    (items.foldl update entries)[key item]? = (update entries item)[key item]? := by
  induction items generalizing entries with
  | nil => contradiction
  | cons head rest ih =>
    obtain ⟨absent, distinct⟩ := List.nodup_cons.mp distinct
    have later := fun next inside => others next (List.mem_cons_of_mem head inside)
    rw [List.foldl_cons]
    rcases List.mem_cons.mp mem with rfl | inside
    · refine foldl_other update key rest later _ _ fun next mem same => absent ?_
      exact same ▸ List.mem_map_of_mem mem
    · rw [ih later (fun next mem => own next (List.mem_cons_of_mem _ mem)) distinct _ inside]
      refine own item mem _ _ (others head List.mem_cons_self entries (key item) ?_)
      intro same
      exact absent (same ▸ List.mem_map_of_mem inside)

end Pointwise

section Index

variable {ι : Type*} (key : ι → α) (value : ι → β)

theorem insert_comm (entries : ExtTreeMap α β cmp) {first second : α} (distinct : first ≠ second)
    (a b : β) : (entries.insert first a).insert second b = (entries.insert second b).insert first a := by
  refine ExtTreeMap.ext_getElem? fun other => Option.ext fun found => ?_
  simp only [getElem?_insert_some]
  constructor
  · rintro (⟨rfl, rfl⟩ | ⟨away, ⟨rfl, rfl⟩ | ⟨away', there⟩⟩)
    · exact .inr ⟨distinct.symm, .inl ⟨rfl, rfl⟩⟩
    · exact .inl ⟨rfl, rfl⟩
    · exact .inr ⟨away', .inr ⟨away, there⟩⟩
  · rintro (⟨rfl, rfl⟩ | ⟨away, ⟨rfl, rfl⟩ | ⟨away', there⟩⟩)
    · exact .inr ⟨distinct, .inl ⟨rfl, rfl⟩⟩
    · exact .inl ⟨rfl, rfl⟩
    · exact .inr ⟨away', .inr ⟨away, there⟩⟩

variable (cmp)

/-- The value of each item under the item's key. -/
def index (items : List ι) : ExtTreeMap α β cmp :=
  items.foldl (fun entries item => entries.insert (key item) (value item)) ∅

omit [LawfulEqCmp cmp] in
theorem index_snoc (items : List ι) (item : ι) :
    index cmp key value (items ++ [item]) = (index cmp key value items).insert (key item) (value item) := by
  rw [index, List.foldl_append]
  rfl

theorem index_absent (items : List ι) (other : α) (absent : other ∉ items.map key) :
    (index cmp key value items)[other]? = none := by
  refine (foldl_other _ key items (fun item _ entries other away => ?_) ∅ other ?_).trans
    ExtTreeMap.getElem?_empty
  · exact getElem?_insert_of_ne entries _ other _ away
  · exact fun item mem same => absent (same ▸ List.mem_map_of_mem mem)

theorem index_perm {items items' : List ι} (perm : items.Perm items') (distinct : (items.map key).Nodup) :
    index cmp key value items = index cmp key value items' := by
  refine perm.foldl_eq' (fun a mem b mem' entries => ?_) ∅
  by_cases same : key a = key b
  · rw [List.inj_on_of_nodup_map distinct mem mem' same]
  · exact insert_comm entries same _ _

theorem index_erase {items : List ι} {item : ι} (distinct : ((item :: items).map key).Nodup) :
    (index cmp key value (item :: items)).erase (key item) = index cmp key value items := by
  rw [index_perm cmp key value (List.perm_append_singleton _ _).symm distinct, index_snoc]
  refine ExtTreeMap.ext_getElem? fun other => ?_
  by_cases same : other = key item
  · rw [same, getElem?_erase_same, index_absent]
    exact (List.nodup_cons.mp distinct).1
  · rw [getElem?_erase_of_ne _ _ _ same, getElem?_insert_of_ne _ _ _ _ same]

theorem index_replace {items : List ι} {item other : ι} (same : key other = key item)
    (distinct : ((item :: items).map key).Nodup) :
    (index cmp key value (item :: items)).insert (key other) (value other) =
      index cmp key value (items ++ [other]) := by
  rw [index_perm cmp key value (List.perm_append_singleton _ _).symm distinct, index_snoc, index_snoc, same]
  refine ExtTreeMap.ext_getElem? fun at_key => Option.ext fun found => ?_
  simp only [getElem?_insert_some]
  constructor
  · rintro (here | ⟨away, ⟨here, -⟩ | there⟩)
    · exact .inl here
    · exact absurd here away
    · exact .inr ⟨away, there.2⟩
  · rintro (here | ⟨away, there⟩)
    · exact .inl here
    · exact .inr ⟨away, .inr ⟨away, there⟩⟩

end Index

def total (weight : α → β → Nat) (entries : ExtTreeMap α β cmp) : Nat :=
  (entries.toList.map fun entry => weight entry.1 entry.2).sum

variable (weight : α → β → Nat)

omit [LawfulEqCmp cmp] in
@[simp] theorem total_empty : total weight (∅ : ExtTreeMap α β cmp) = 0 := by
  have empty : (∅ : ExtTreeMap α β cmp).toList = [] := ExtTreeMap.toList_eq_nil_iff.mpr rfl
  simp [total, empty]

theorem total_erase (entries : ExtTreeMap α β cmp) (key : α) (value : β)
    (found : entries[key]? = some value) :
    total weight (entries.erase key) + weight key value = total weight entries := by
  have moved := ((toList_erase_perm entries key value found).map
    fun entry => weight entry.1 entry.2).sum_eq
  simp only [List.map_cons, List.sum_cons] at moved
  simp only [total, moved]
  omega

theorem total_insert_fresh (entries : ExtTreeMap α β cmp) (key : α) (value : β)
    (fresh : entries[key]? = none) :
    total weight (entries.insert key value) = total weight entries + weight key value := by
  have moved := ((toList_insert_perm entries key value fresh).map
    fun entry => weight entry.1 entry.2).sum_eq
  simp only [List.map_cons, List.sum_cons] at moved
  simp only [total, moved]
  omega

theorem total_insert_found (entries : ExtTreeMap α β cmp) (key : α) (old new : β)
    (found : entries[key]? = some old) :
    total weight (entries.insert key new) + weight key old =
      total weight entries + weight key new := by
  have erased : (entries.insert key new).erase key = entries.erase key := by
    refine ExtTreeMap.ext_getElem? fun other => ?_
    by_cases same : other = key
    · simp [same]
    · rw [getElem?_erase_of_ne _ _ _ same, getElem?_insert_of_ne _ _ _ _ same,
        getElem?_erase_of_ne _ _ _ same]
  have before := total_erase weight entries key old found
  have after := total_erase weight (entries.insert key new) key new (by simp)
  rw [erased] at after
  omega

omit [LawfulEqCmp cmp] in
theorem total_map (entries : ExtTreeMap α γ cmp) (f : α -> γ -> β) :
    total weight (entries.map f) = total (fun key value => weight key (f key value)) entries := by
  simp [total, ExtTreeMap.toList_map, Function.comp_def]

theorem le_total (entries : ExtTreeMap α β cmp) (key : α) (value : β)
    (found : entries[key]? = some value) : weight key value <= total weight entries := by
  have moved := total_erase weight entries key value found
  omega

theorem add_le_total (entries : ExtTreeMap α β cmp) {first second : α} (distinct : first ≠ second) {a b : β}
    (held : entries[first]? = some a) (held' : entries[second]? = some b) :
    weight first a + weight second b <= total weight entries := by
  have moved := total_erase weight entries first a held
  have rest := le_total weight (entries.erase first) second b
    (by rwa [getElem?_erase_of_ne _ _ _ distinct.symm])
  omega

theorem total_eq_zero (entries : ExtTreeMap α β cmp) :
    total weight entries = 0 ↔ ∀ key value, entries[key]? = some value -> weight key value = 0 := by
  constructor
  · intro none key value found
    have bound := le_total weight entries key value found
    omega
  · intro zero
    simp only [total, List.sum_eq_zero_iff, List.mem_map]
    rintro _ ⟨⟨key, value⟩, member, rfl⟩
    exact zero key value (ExtTreeMap.mem_toList_iff_getElem?_eq_some.mp member)

omit [LawfulEqCmp cmp] in
theorem total_filter (entries : ExtTreeMap α β cmp) (kept : α -> β -> Bool) :
    total weight (entries.filter kept) +
      ((entries.toList.filter fun entry => !kept entry.1 entry.2).map
        fun entry => weight entry.1 entry.2).sum = total weight entries := by
  rw [total, ExtTreeMap.toList_filter, total]
  induction entries.toList with
  | nil => rfl
  | cons head rest ih =>
    cases keep : kept head.1 head.2 <;>
      simp only [List.filter_cons, keep, Bool.not_true, Bool.not_false, Bool.false_eq_true,
        if_true, if_false, List.map_cons, List.sum_cons] <;> omega

theorem total_insertIfNew_le (entries : ExtTreeMap α β cmp) (key : α) (value : β) :
    total weight (entries.insertIfNew key value) <= total weight entries + weight key value := by
  cases found : entries[key]? with
  | none =>
    rw [insertIfNew_fresh _ _ _ found, total_insert_fresh _ _ _ _ found]
  | some old =>
    have same : entries.insertIfNew key value = entries := by
      refine ExtTreeMap.ext_getElem? fun other => ?_
      have present : key ∈ entries := by
        rw [ExtTreeMap.mem_iff_isSome_getElem?, found]
        rfl
      rw [ExtTreeMap.getElem?_insertIfNew]
      simp [present]
    rw [same]
    omega

end OrderedMap
