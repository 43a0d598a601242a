import Mathlib

set_option autoImplicit false

/-!
# Open blocks

In a sequence some elements open a block and some close the innermost one. What is open at the
end is read off the counts, and kept as a stack.
-/

namespace ChromiumHmos.Lib

variable {A : Type} (opens closes : A → Bool)

/-- A block that holds `inner` so far has not been closed in it. -/
def Unclosed (inner : List A) : Prop :=
  ∀ part, part <+: inner → part.countP closes ≤ part.countP opens

/-- Every block opened in `inner` is closed in it: what follows belongs to the block around. -/
def Complete (inner : List A) : Prop :=
  Unclosed opens closes inner ∧ inner.countP opens = inner.countP closes

/-- The block that `first` opens is open at the end, and holds `inner`. -/
def OpenBlock (sequence : List A) (first : A) (inner : List A) : Prop :=
  opens first = true ∧ Unclosed opens closes inner ∧
    ∃ outer : List A, sequence = outer ++ first :: inner

-- The open blocks, the innermost first.
def advance (blocks : List (A × List A)) (next : A) : List (A × List A) :=
  let left := (if closes next then blocks.tail else blocks).map fun block =>
    (block.1, block.2 ++ [next])
  if opens next then (next, []) :: left else left

def openBlocks (sequence : List A) : List (A × List A) :=
  sequence.foldl (advance opens closes) []

theorem openBlocks_snoc (sequence : List A) (next : A) :
    openBlocks opens closes (sequence ++ [next]) =
      advance opens closes (openBlocks opens closes sequence) next := by
  simp [openBlocks]

theorem unclosed_snoc (inner : List A) (next : A) :
    Unclosed opens closes (inner ++ [next]) ↔
      Unclosed opens closes inner /\
        (inner ++ [next]).countP closes <= (inner ++ [next]).countP opens := by
  constructor
  · exact fun unclosed => ⟨fun part shorter => unclosed part (shorter.trans (List.prefix_append _ _)),
      unclosed _ (List.prefix_refl _)⟩
  · rintro ⟨unclosed, last⟩ part shorter
    rcases List.prefix_concat_iff.mp shorter with rfl | earlier
    · exact last
    · exact unclosed part earlier

theorem openBlock_snoc (sequence : List A) (next first : A) (inner : List A) :
    OpenBlock opens closes (sequence ++ [next]) first inner ↔
      (first = next /\ inner = [] /\ opens next = true) \/
        ∃ before : List A, inner = before ++ [next] /\ OpenBlock opens closes sequence first before /\
          inner.countP closes <= inner.countP opens := by
  constructor
  · rintro ⟨opening, unclosed, outer, split⟩
    rcases List.eq_nil_or_concat inner with rfl | ⟨before, last, rfl⟩
    · obtain ⟨-, same⟩ := List.append_inj' split rfl
      obtain rfl := (List.cons.inj same).1
      exact Or.inl ⟨rfl, rfl, opening⟩
    · rw [List.concat_eq_append] at unclosed split ⊢
      rw [<- List.cons_append, <- List.append_assoc] at split
      obtain ⟨earlier, same⟩ := List.append_inj' split rfl
      obtain rfl := (List.cons.inj same).1
      obtain ⟨shorter, counts⟩ := (unclosed_snoc opens closes before next).mp unclosed
      exact Or.inr ⟨before, rfl, ⟨opening, shorter, outer, earlier⟩, counts⟩
  · rintro (⟨rfl, rfl, opening⟩ | ⟨before, rfl, ⟨opening, unclosed, outer, rfl⟩, counts⟩)
    · refine ⟨opening, ?_, sequence, rfl⟩
      intro part shorter
      rw [List.prefix_nil.mp shorter]
      exact Nat.le_refl _
    · exact ⟨opening, (unclosed_snoc opens closes before next).mpr ⟨unclosed, counts⟩, outer,
        by simp⟩

/-- Blocks counted from the innermost: each holds as many unclosed openings as lie inside it. -/
def Leveled : Nat → List (A × List A) → Prop
  | _, [] => True
  | depth, block :: outer =>
    block.2.countP opens = block.2.countP closes + depth ∧ Leveled (depth + 1) outer

theorem leveled_map (depth shift : Nat) (next : A) (blocks : List (A × List A))
    (leveled : Leveled opens closes depth blocks)
    (moves : (if opens next then 1 else 0) + depth = (if closes next then 1 else 0) + shift) :
    Leveled opens closes shift (blocks.map fun block => (block.1, block.2 ++ [next])) := by
  induction blocks generalizing depth shift with
  | nil => trivial
  | cons block outer ih =>
    obtain ⟨counts, later⟩ := leveled
    refine ⟨?_, ih _ _ later (by omega)⟩
    simp only [List.countP_append, List.countP_singleton]
    omega

theorem leveled_mem (depth : Nat) (blocks : List (A × List A))
    (leveled : Leveled opens closes depth blocks) (block : A × List A) (member : block ∈ blocks) :
    block.2.countP closes + depth <= block.2.countP opens := by
  induction blocks generalizing depth with
  | nil => simp at member
  | cons head outer ih =>
    obtain ⟨counts, later⟩ := leveled
    rcases List.mem_cons.mp member with rfl | deeper
    · omega
    · have := ih _ later deeper
      omega

variable {opens closes}

theorem mem_tail_iff (blocks : List (A × List A)) (leveled : Leveled opens closes 0 blocks)
    (block : A × List A) (member : block ∈ blocks) :
    block ∈ blocks.tail ↔ block.2.countP closes + 1 <= block.2.countP opens := by
  cases blocks with
  | nil => simp at member
  | cons head outer =>
    obtain ⟨counts, later⟩ := leveled
    constructor
    · exact leveled_mem opens closes 1 outer later block
    · intro more
      rcases List.mem_cons.mp member with rfl | deeper
      · omega
      · exact deeper

variable (disjoint : ∀ a : A, opens a = true → closes a = false)
include disjoint

theorem advance_leveled (blocks : List (A × List A)) (next : A)
    (leveled : Leveled opens closes 0 blocks) :
    Leveled opens closes 0 (advance opens closes blocks next) := by
  unfold advance
  by_cases opening : opens next = true
  · have plain := disjoint next opening
    simp only [opening, plain, if_true, Bool.false_eq_true, if_false]
    exact ⟨rfl, leveled_map opens closes 0 1 next blocks leveled (by simp [opening, plain])⟩
  · by_cases closing : closes next = true
    · simp only [closing, if_true, if_neg opening]
      refine leveled_map opens closes 1 0 next blocks.tail ?_ (by simp [opening, closing])
      cases blocks with
      | nil => trivial
      | cons head outer => exact leveled.2
    · simp only [if_neg closing, if_neg opening]
      exact leveled_map opens closes 0 0 next blocks leveled (by simp [opening, closing])

theorem openBlocks_leveled (sequence : List A) :
    Leveled opens closes 0 (openBlocks opens closes sequence) := by
  induction sequence using List.reverseRecOn with
  | nil => trivial
  | append_singleton sequence next ih =>
    rw [openBlocks_snoc]
    exact advance_leveled disjoint _ next ih

theorem openBlocks_mem (sequence : List A) (first : A) (inner : List A) :
    (first, inner) ∈ openBlocks opens closes sequence ↔
      OpenBlock opens closes sequence first inner := by
  induction sequence using List.reverseRecOn generalizing first inner with
  | nil => simp [openBlocks, OpenBlock]
  | append_singleton sequence next ih =>
    have leveled := openBlocks_leveled disjoint sequence
    have kept : (∃ block ∈ if closes next then (openBlocks opens closes sequence).tail else
          openBlocks opens closes sequence, (block.1, block.2 ++ [next]) = (first, inner)) ↔
        ∃ before : List A, inner = before ++ [next] /\ OpenBlock opens closes sequence first before /\
          inner.countP closes <= inner.countP opens := by
      constructor
      · rintro ⟨⟨opener, before⟩, member, same⟩
        obtain ⟨rfl, rfl⟩ := Prod.mk.inj same
        by_cases closing : closes next = true
        · rw [if_pos closing] at member
          have held := List.mem_of_mem_tail member
          have more : before.countP closes + 1 <= before.countP opens :=
            (mem_tail_iff _ leveled _ held).mp member
          refine ⟨before, rfl, (ih _ _).mp held, ?_⟩
          simp only [List.countP_append, List.countP_singleton, closing, if_true]
          omega
        · rw [if_neg closing] at member
          have counts : before.countP closes + 0 <= before.countP opens :=
            leveled_mem opens closes 0 _ leveled _ member
          refine ⟨before, rfl, (ih _ _).mp member, ?_⟩
          simp only [List.countP_append, List.countP_singleton, if_neg closing]
          omega
      · rintro ⟨before, rfl, block, counts⟩
        have held := (ih _ _).mpr block
        refine ⟨(first, before), ?_, rfl⟩
        by_cases closing : closes next = true
        · rw [if_pos closing]
          have plain : opens next ≠ true := fun opening => by simp [disjoint next opening] at closing
          simp only [List.countP_append, List.countP_singleton, closing, if_true,
            if_neg plain] at counts
          exact (mem_tail_iff _ leveled _ held).mpr counts
        · rw [if_neg closing]
          exact held
    rw [openBlocks_snoc, openBlock_snoc, advance, <- kept]
    by_cases opening : opens next = true
    · simp only [opening, if_true, List.mem_cons, List.mem_map, Prod.mk.injEq, and_true]
    · simp only [opening, Bool.false_eq_true, if_false, List.mem_map, and_false, false_or]

theorem openBlocks_length (sequence : List A)
    (closable : ∀ (before after : List A) (next : A), sequence = before ++ next :: after ->
      closes next = true -> openBlocks opens closes before ≠ []) :
    (openBlocks opens closes sequence).length + sequence.countP closes = sequence.countP opens := by
  induction sequence using List.reverseRecOn with
  | nil => rfl
  | append_singleton sequence next ih =>
    have earlier := ih fun before after other split closing =>
      closable before (after ++ [next]) other (by simp [split]) closing
    rw [openBlocks_snoc, advance]
    simp only [List.countP_append, List.countP_singleton]
    by_cases opening : opens next = true
    · simp only [opening, disjoint next opening, if_true, Bool.false_eq_true, if_false,
        List.length_cons, List.length_map]
      omega
    · by_cases closing : closes next = true
      · have some := closable sequence [] next rfl closing
        have positive := List.length_pos_iff.mpr some
        simp only [closing, if_true, if_neg opening, List.length_map, List.length_tail]
        omega
      · simp only [if_neg opening, if_neg closing, List.length_map]
        omega

end ChromiumHmos.Lib
