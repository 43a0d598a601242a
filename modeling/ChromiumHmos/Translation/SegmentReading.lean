import ChromiumHmos.Lib.Decimal
import ChromiumHmos.Lib.Finding

set_option autoImplicit false

/-!
# Reading a run of text

What the script of a page takes from the text nodes of a run. Elements that are not translated
leave a marker in the text. Texts are UTF-16 units.
-/

namespace ChromiumHmos.Translation.Segments

open Lib

abbrev Units := List UInt16

def ascii (text : String) : Units := text.toList.map fun c => UInt16.ofNat c.toNat

def kLimit : Nat := 1048576

def keepOpening : Units := ascii "[[LUMIE_KEEP_"
def keepClosing : Units := ascii "]]"

def digits (n : Nat) : Units := (decimal n).map UInt8.toUInt16

def noncePrefix (nonce : Nat) : Units := keepOpening ++ digits nonce ++ ascii "_"

def marker (nonce i : Nat) : Units := noncePrefix nonce ++ digits i ++ keepClosing

-- `[\t\r\n ]`
def isBlank (c : UInt16) : Bool := c == 9 || c == 13 || c == 10 || c == 32

-- What `trim` takes away.
def isSpace (c : UInt16) : Bool :=
  (9 ≤ c && c ≤ 13) || c == 32 || c == 160 || c == 5760 || (8192 ≤ c && c ≤ 8202) ||
    c == 8232 || c == 8233 || c == 8239 || c == 8287 || c == 12288 || c == 65279

-- `replace(/[\t\r\n ]+/g, ' ')`, within a run of blanks or not.
def collapse : Bool → Units → Units
  | _, [] => []
  | inside, c :: rest =>
    if isBlank c then (if inside then collapse true rest else 32 :: collapse true rest)
    else c :: collapse false rest

def trim (text : Units) : Units := (text.dropWhile isSpace).rdropWhile isSpace

variable {κ : Type}

/-- What the script asks of an element, with what `protectedValue` answers for it. -/
structure Element (κ : Type) where
  skipped : Bool := false
  protectedInline : Bool := false
  excluded : Bool := false
  lineBreak : Bool := false
  value : Option κ := none

inductive Node (κ : Type)
  | text (data : Units)
  | element (element : Element κ) (children : List (Node κ))
  | other

inductive Piece (κ : Type)
  | text (data : Units)
  | keep (value : κ)

structure Gathered (κ : Type) where
  pieces : List (Piece κ) := []
  keeps : Nat := 0
  units : Nat := 0

def Gathered.add (gathered : Gathered κ) (piece : Piece κ) (units : Nat) : Gathered κ :=
  { gathered with pieces := gathered.pieces ++ [piece], units := gathered.units + units }

-- The stack of a root, with the visits that are left of the 10000.
def walk (stringify : κ → Units) : Nat → List (Node κ) → Gathered κ → Option (Nat × Gathered κ)
  | left, [], gathered => some (left, gathered)
  | 0, _ :: _, _ => none
  | left + 1, n :: stack, gathered =>
    let next (stack : List (Node κ)) (gathered : Gathered κ) :=
      if kLimit < gathered.units then none else walk stringify left stack gathered
    match n with
    | .text data => next stack (gathered.add (.text data) data.length)
    | .other => next stack gathered
    | .element element children =>
      if element.skipped then walk stringify left stack gathered
      else if element.protectedInline then
        if 64 ≤ gathered.keeps then none
        else
          match element.value with
          | none => none
          | some value =>
            next stack { gathered.add (.keep value) (stringify value).length with
              keeps := gathered.keeps + 1 }
      else if element.excluded then walk stringify left stack gathered
      else if element.lineBreak then next stack (gathered.add (.text (ascii " ")) 1)
      else if 10000 < stack.length + children.length then none
      else next (children ++ stack) gathered

-- Each root with whether it still stands where the run was found.
def walkRoots (stringify : κ → Units) :
    List (Bool × Node κ) → Nat → Gathered κ → Option (Gathered κ)
  | [], _, gathered => some gathered
  | (inPlace, root) :: rest, left, gathered =>
    if inPlace then
      match walk stringify left [root] gathered with
      | none => none
      | some (left, gathered) => walkRoots stringify rest left gathered
    else none

def ordinary : List (Piece κ) → Units
  | [] => []
  | .text data :: rest => data ++ ordinary rest
  | .keep _ :: rest => ordinary rest

-- The loop from `nonce` on. It ends before `turns` are over.
def freeNonce (text : Units) : Nat → Nat → Nat
  | 0, nonce => nonce
  | turns + 1, nonce =>
    if (indexOf (noncePrefix nonce) text 0).isSome then freeNonce text turns (nonce + 1) else nonce

structure Keep (κ : Type) where
  value : κ
  token : Units

def keepsOf (nonce : Nat) : Nat → List (Piece κ) → List (Keep κ)
  | _, [] => []
  | i, .text _ :: rest => keepsOf nonce i rest
  | i, .keep value :: rest => { value, token := marker nonce i } :: keepsOf nonce (i + 1) rest

def joined (nonce : Nat) : Nat → List (Piece κ) → Units
  | _, [] => []
  | i, .text data :: rest => data ++ joined nonce i rest
  | i, .keep _ :: rest => marker nonce i ++ joined nonce (i + 1) rest

structure ReadValue (κ : Type) where
  source : Units
  keeps : List (Keep κ)
  keepKey : Units
  units : Nat

/-- `stringify` and `stringifyKeeps` are `JSON.stringify` of a kept value and of all of them. -/
def read (stringify : κ → Units) (stringifyKeeps : List (Keep κ) → Units)
    (nodes : List (Bool × Node κ)) : Option (ReadValue κ) :=
  match walkRoots stringify nodes 10000 {} with
  | none => none
  | some gathered =>
    let text := ordinary gathered.pieces
    let nonce := freeNonce text (text.length + 1) 0
    let keeps := keepsOf nonce 0 gathered.pieces
    let source := trim (collapse false (joined nonce 0 gathered.pieces))
    let keepKey := stringifyKeeps keeps
    some
      { source := if keeps.isEmpty = false ∧ trim text = [] then [] else source
        keeps
        keepKey
        units := if keeps.isEmpty then 0 else keepKey.length }

structure Gathered.Bounded (gathered : Gathered κ) : Prop where
  counted : (keepsOf 0 0 gathered.pieces).length = gathered.keeps
  few : gathered.keeps ≤ 64
  small : (ordinary gathered.pieces).length ≤ gathered.units
  limit : gathered.units ≤ kLimit

theorem keepsOf_length (nonce i other j : Nat) (pieces : List (Piece κ)) :
    (keepsOf nonce i pieces).length = (keepsOf other j pieces).length := by
  induction pieces generalizing i j with
  | nil => rfl
  | cons piece rest ih =>
    cases piece with
    | text data => exact ih i j
    | keep value => simpa [keepsOf] using ih (i + 1) (j + 1)

theorem keepsOf_append (pieces more : List (Piece κ)) :
    (keepsOf 0 0 (pieces ++ more)).length =
      (keepsOf 0 0 pieces).length + (keepsOf 0 0 more).length := by
  induction pieces with
  | nil => simp [keepsOf]
  | cons piece rest ih =>
    cases piece with
    | text data => exact ih
    | keep value =>
      have both := keepsOf_length 0 (0 + 1) 0 0 (rest ++ more)
      have first := keepsOf_length 0 (0 + 1) 0 0 rest
      simp only [List.cons_append, keepsOf, List.length_cons]
      omega

theorem ordinary_append (pieces more : List (Piece κ)) :
    ordinary (pieces ++ more) = ordinary pieces ++ ordinary more := by
  induction pieces with
  | nil => rfl
  | cons piece rest ih => cases piece <;> simp [ordinary, ih]

theorem walk_bounded (stringify : κ -> Units) (left : Nat) (stack : List (Node κ))
    (gathered after : Gathered κ) (remaining : Nat) (bounded : gathered.Bounded)
    (walked : walk stringify left stack gathered = some (remaining, after)) : after.Bounded := by
  induction left generalizing stack gathered with
  | zero =>
    cases stack with
    | nil =>
      obtain ⟨-, rfl⟩ := Prod.mk.inj (Option.some.inj walked)
      exact bounded
    | cons n stack => simp [walk] at walked
  | succ left ih =>
    cases stack with
    | nil =>
      obtain ⟨-, rfl⟩ := Prod.mk.inj (Option.some.inj walked)
      exact bounded
    | cons n stack =>
      -- A visit that goes on: the new units are checked before the next one.
      have goes (stack : List (Node κ)) (next : Gathered κ)
          (walked : (if kLimit < next.units then none else walk stringify left stack next) =
            some (remaining, after))
          (counted : (keepsOf 0 0 next.pieces).length = next.keeps) (few : next.keeps <= 64)
          (small : (ordinary next.pieces).length <= next.units) : after.Bounded := by
        obtain ⟨limit, walked⟩ := Option.ite_none_left_eq_some.mp walked
        exact ih stack next ⟨counted, few, small, Nat.le_of_not_lt limit⟩ walked
      have small := bounded.small
      cases n with
      | text data =>
        refine goes _ _ walked ?_ bounded.few ?_
        · rw [Gathered.add, keepsOf_append, bounded.counted]
          rfl
        · simpa [Gathered.add, ordinary_append, ordinary] using small
      | other => exact goes _ _ walked bounded.counted bounded.few bounded.small
      | element element children =>
        simp only [walk] at walked
        split at walked
        next => exact ih stack gathered bounded walked
        next =>
          split at walked
          next =>
            split at walked
            next => simp at walked
            next room =>
              split at walked
              next => simp at walked
              next value _ =>
                let kept := { gathered.add (.keep value) (stringify value).length with
                  keeps := gathered.keeps + 1 }
                refine goes stack kept walked ?_ (Nat.lt_of_not_le room) ?_
                · show (keepsOf 0 0 (gathered.pieces ++ [.keep value])).length = _
                  rw [keepsOf_append, bounded.counted]
                  rfl
                · show (ordinary (gathered.pieces ++ [.keep value])).length <= gathered.units + _
                  rw [ordinary_append, ordinary, ordinary, List.append_nil]
                  exact Nat.le_add_right_of_le small
          next =>
            split at walked
            next => exact ih stack gathered bounded walked
            next =>
              split at walked
              next =>
                refine goes _ _ walked ?_ bounded.few ?_
                · rw [Gathered.add, keepsOf_append, bounded.counted]
                  rfl
                · have one : (ascii " ").length = 1 := by decide
                  simpa [Gathered.add, ordinary_append, ordinary, one] using small
              next =>
                split at walked
                next => simp at walked
                next => exact goes _ _ walked bounded.counted bounded.few bounded.small

theorem walkRoots_bounded (stringify : κ -> Units) (nodes : List (Bool × Node κ)) (left : Nat)
    (gathered after : Gathered κ) (bounded : gathered.Bounded)
    (walked : walkRoots stringify nodes left gathered = some after) : after.Bounded := by
  induction nodes generalizing left gathered with
  | nil =>
    obtain rfl := Option.some.inj walked
    exact bounded
  | cons root rest ih =>
    obtain ⟨inPlace, root⟩ := root
    simp only [walkRoots] at walked
    split at walked
    next =>
      cases first : walk stringify left [root] gathered with
      | none => simp [first] at walked
      | some result =>
        obtain ⟨remaining, next⟩ := result
        simp only [first] at walked
        exact ih remaining next (walk_bounded stringify left [root] gathered next remaining bounded
          first) walked
    next => simp at walked

theorem digits_code (n : Nat) (c : UInt16) (member : c ∈ digits n) : 48 <= c /\ c <= 57 := by
  obtain ⟨digit, held, rfl⟩ := List.mem_map.mp member
  have range := decimal_digits n digit held
  simp only [UInt8.le_iff_toNat_le, UInt16.le_iff_toNat_le, UInt8.toNat_toUInt16] at range ⊢
  exact range

theorem digits_length (n k : Nat) (positive : 0 < k) (small : n < 10 ^ k) : (digits n).length <= k := by
  rw [digits, List.length_map]
  exact (decimal_length n k positive).mpr small

theorem freeNonce_le (text : Units) (turns nonce : Nat) :
    freeNonce text turns nonce <= nonce + turns := by
  induction turns generalizing nonce with
  | zero => exact Nat.le_refl _
  | succ turns ih =>
    unfold freeNonce
    split
    · have := ih (nonce + 1)
      omega
    · omega

structure IsMarker (token : Units) : Prop where
  short : token.length ≤ 2000
  shape : ∃ body : Units, token = keepOpening ++ (body ++ keepClosing) ∧
    ∀ c ∈ body, c ≠ 91 ∧ c ≠ 93 ∧ c < 128

theorem marker_isMarker (nonce i : Nat) (few : nonce < 10 ^ 100) (early : i < 10 ^ 100) :
    IsMarker (marker nonce i) where
  short := by
    have first := digits_length nonce 100 (by omega) few
    have second := digits_length i 100 (by omega) early
    have opening : keepOpening.length = 13 := by decide
    have closing : keepClosing.length = 2 := by decide
    have bar : (ascii "_").length = 1 := by decide
    simp only [marker, noncePrefix, List.length_append]
    omega
  shape := by
    refine ⟨digits nonce ++ (ascii "_" ++ digits i), by simp [marker, noncePrefix], ?_⟩
    intro c member
    have plain (n : Nat) (held : c ∈ digits n) : c ≠ 91 /\ c ≠ 93 /\ c < 128 := by
      obtain ⟨low, high⟩ := digits_code n c held
      refine ⟨?_, ?_, Std.lt_of_le_of_lt high (by decide)⟩
      · rintro rfl
        exact absurd high (by decide)
      · rintro rfl
        exact absurd high (by decide)
    rcases List.mem_append.mp member with held | later
    · exact plain nonce held
    · rcases List.mem_append.mp later with held | held
      · obtain rfl : c = 95 := by simpa [ascii] using held
        decide
      · exact plain i held

theorem keepsOf_marker (nonce i : Nat) (pieces : List (Piece κ)) (keep : Keep κ)
    (member : keep ∈ keepsOf nonce i pieces) :
    ∃ j, j < i + (keepsOf nonce i pieces).length /\ keep.token = marker nonce j := by
  induction pieces generalizing i with
  | nil => simp [keepsOf] at member
  | cons piece rest ih =>
    cases piece with
    | text data => exact ih i member
    | keep value =>
      rw [keepsOf] at member ⊢
      rcases List.mem_cons.mp member with rfl | later
      · exact ⟨i, by simp, rfl⟩
      · obtain ⟨j, below, token⟩ := ih (i + 1) later
        refine ⟨j, ?_, token⟩
        rw [List.length_cons]
        omega

theorem read_markers (stringify : κ -> Units) (stringifyKeeps : List (Keep κ) -> Units)
    (nodes : List (Bool × Node κ)) (value : ReadValue κ)
    (found : read stringify stringifyKeeps nodes = some value) (keep : Keep κ)
    (member : keep ∈ value.keeps) : IsMarker keep.token := by
  unfold read at found
  cases walked : walkRoots stringify nodes 10000 {} with
  | none => simp [walked] at found
  | some gathered =>
    simp only [walked] at found
    obtain rfl := Option.some.inj found
    have bounded : gathered.Bounded := walkRoots_bounded stringify nodes 10000 {} gathered
      ⟨rfl, Nat.zero_le _, Nat.zero_le _, Nat.zero_le _⟩ walked
    let text := ordinary gathered.pieces
    let nonce := freeNonce text (text.length + 1) 0
    obtain ⟨j, below, token⟩ := keepsOf_marker nonce 0 gathered.pieces keep member
    rw [token]
    have number : nonce <= 0 + (text.length + 1) := freeNonce_le text _ 0
    have units : text.length <= 1048576 := bounded.small.trans bounded.limit
    have few := bounded.few
    rw [<- bounded.counted, keepsOf_length 0 0 nonce 0] at few
    exact marker_isMarker nonce j (by omega) (by omega)

end ChromiumHmos.Translation.Segments
