import Mathlib

set_option autoImplicit false

/-! # Pieces between separators, and the bytes of a text -/

namespace ChromiumHmos.Lib

variable {A : Type}

theorem splitOnPPrepend_piece (separates : A -> Bool) (text pending piece : List A)
    (clean : ∀ c ∈ pending, separates c = false)
    (member : piece ∈ text.splitOnPPrepend separates pending) :
    piece <:+: pending.reverse ++ text /\ ∀ c ∈ piece, separates c = false := by
  induction text generalizing pending with
  | nil =>
    simp only [List.splitOnPPrepend_nil, List.mem_singleton] at member
    subst member
    exact ⟨by simp, fun c held => clean c (by simpa using held)⟩
  | cons head rest ih =>
    rw [List.splitOnPPrepend_cons_eq_if] at member
    split at member
    next =>
      rcases List.mem_cons.mp member with rfl | later
      · exact ⟨(List.prefix_append _ _).isInfix, fun c held => clean c (by simpa using held)⟩
      · obtain ⟨inside, free⟩ := ih [] (by simp) later
        exact ⟨inside.trans ⟨pending.reverse ++ [head], [], by simp⟩, free⟩
    next plain =>
      obtain ⟨inside, free⟩ := ih (head :: pending) (by
        intro c held
        rcases List.mem_cons.mp held with rfl | old
        · simpa using plain
        · exact clean c old) member
      exact ⟨by simpa using inside, free⟩

theorem splitOn_piece [DecidableEq A] (separator : A) (text piece : List A)
    (member : piece ∈ text.splitOn separator) : piece <:+: text /\ separator ∉ piece := by
  obtain ⟨inside, free⟩ := splitOnPPrepend_piece _ text [] piece (by simp) member
  exact ⟨by simpa using inside, fun held => by simpa using free _ held⟩

theorem mem_splitOnPPrepend (separates : A -> Bool) (text pending : List A) (c : A)
    (plain : separates c = false) (held : c ∈ pending \/ c ∈ text) :
    ∃ piece ∈ text.splitOnPPrepend separates pending, c ∈ piece := by
  induction text generalizing pending with
  | nil => simpa using held
  | cons head rest ih =>
    rw [List.splitOnPPrepend_cons_eq_if]
    split
    next separator =>
      by_cases early : c ∈ pending
      · exact ⟨pending.reverse, List.mem_cons_self, by simpa using early⟩
      · have later : c ∈ rest := by
          rcases List.mem_cons.mp (held.resolve_left early) with rfl | later
          · exact absurd (plain.symm.trans separator) (by simp)
          · exact later
        obtain ⟨piece, member, inside⟩ := ih [] (Or.inr later)
        exact ⟨piece, List.mem_cons_of_mem _ member, inside⟩
    next =>
      refine ih (head :: pending) ?_
      rcases held with early | late
      · exact Or.inl (List.mem_cons_of_mem _ early)
      · rcases List.mem_cons.mp late with rfl | later
        · exact Or.inl List.mem_cons_self
        · exact Or.inr later

theorem mem_splitOn [DecidableEq A] (separator c : A) (text : List A) (other : c ≠ separator)
    (held : c ∈ text) : ∃ piece ∈ text.splitOn separator, c ∈ piece :=
  mem_splitOnPPrepend _ text [] c (by simpa using other) (Or.inr held)

/-- The list with the part from `start` to `stop` replaced. -/
def splice (text : List A) (start stop : Nat) (inserted : List A) : List A :=
  text.take start ++ inserted ++ text.drop stop

theorem splice_length (text : List A) (start stop : Nat) (inserted : List A) (ordered : start <= stop)
    (inside : stop <= text.length) :
    (splice text start stop inserted).length + (stop - start) = text.length + inserted.length := by
  simp only [splice, List.length_append, List.length_take, List.length_drop]
  have early : start <= text.length := ordered.trans inside
  omega

theorem splice_part (text : List A) (first start stop last : Nat) (inserted : List A)
    (opens : first <= start) (ordered : start <= stop) (closes : stop <= last) :
    splice text first last
        (splice ((text.drop first).take (last - first)) (start - first) (stop - first) inserted) =
      splice text start stop inserted := by
  have before : text.take first ++ ((text.drop first).take (last - first)).take (start - first) =
      text.take start := by
    rw [List.take_take, Nat.min_eq_left (by omega)]
    have parts := List.take_add (l := text) (i := first) (j := start - first)
    rw [<- parts, Nat.add_sub_cancel' opens]
  have after : ((text.drop first).take (last - first)).drop (stop - first) ++ text.drop last =
      text.drop stop := by
    have shift : stop = first + (stop - first) := by omega
    have rest : text.drop last = (text.drop stop).drop (last - stop) := by
      rw [List.drop_drop]
      congr 1
      omega
    rw [List.drop_take, List.drop_drop, <- shift, rest,
      show last - first - (stop - first) = last - stop by omega, List.take_append_drop]
  simp only [splice, List.append_assoc] at before after ⊢
  rw [after, <- List.append_assoc, before]

theorem toList_loop (bytes : ByteArray) (i : Nat) (read : List UInt8) :
    ByteArray.toList.loop bytes i read = read.reverse ++ bytes.data.toList.drop i := by
  fun_induction ByteArray.toList.loop bytes i read with
  | case1 i read inside ih =>
    have here : i < bytes.data.toList.length := by simpa using inside
    rw [ih, List.drop_eq_getElem_cons here]
    have byte : bytes.get! i = bytes.data.toList[i] := by
      rw [Array.getElem_toList]
      exact getElem!_pos bytes.data i (by simpa using inside)
    simp [byte]
  | case2 i read past =>
    have done : bytes.data.toList.drop i = [] := by
      rw [List.drop_eq_nil_iff]
      simpa using past
    rw [done, List.append_nil]

theorem byteArray_toList (bytes : ByteArray) : bytes.toList = bytes.data.toList := by
  rw [ByteArray.toList, toList_loop]
  simp

theorem toUTF8_toList_injective (a b : String) (same : a.toUTF8.toList = b.toUTF8.toList) : a = b := by
  rw [byteArray_toList, byteArray_toList] at same
  exact String.toByteArray_inj.mp (ByteArray.ext (Array.toList_inj.mp same))

end ChromiumHmos.Lib
