import ChromiumHmos.Translation.SegmentReading

set_option autoImplicit false

/-!
# Splitting a source into parts

A part ends before a marker it would cut, and before a surrogate it would cut. Where both moves
meet at the start of a part, the loop stands still.
-/

namespace ChromiumHmos.Translation.Segments

open Lib

variable {κ : Type}

def isHigh (c : UInt16) : Bool := 0xD800 ≤ c && c ≤ 0xDBFF
def isLow (c : UInt16) : Bool := 0xDC00 ≤ c && c ≤ 0xDFFF

-- An index of -1 stands for a pattern that is not found.
def markerEnd (source : Units) (start last : Nat) : Bool :=
  match indexOf keepClosing source start with
  | some closing => last < closing + 2
  | none => last < 1

def beforeMarker (source : Units) (offset last : Nat) : Nat :=
  match lastIndexOf keepOpening source (last - 1) with
  | some start => if offset < start ∧ markerEnd source start last = true then start else last
  | none => last

/-- Where the part that starts at `offset` ends. -/
def partEnd (source : Units) (offset : Nat) : Nat :=
  let last := min (offset + 2000) source.length
  let moved := beforeMarker source offset last
  if moved < source.length ∧ isHigh (source.getD (moved - 1) 0) = true then moved - 1 else moved

-- The loop of `refresh`, unless it goes on after so many turns.
def splitFrom (source : Units) : Nat → Nat → Option (List Units)
  | turns, offset =>
    if offset < source.length then
      match turns with
      | 0 => none
      | turns + 1 =>
        let last := partEnd source offset
        (splitFrom source turns last).map fun parts =>
          (source.take last).drop offset :: parts
    else some []

def CutsPair (source : Units) (i : Nat) : Prop :=
  ∃ high low : UInt16, 0 < i ∧ source[i - 1]? = some high ∧ source[i]? = some low ∧
    isHigh high = true ∧ isLow low = true

def CutsToken (source token : Units) (i : Nat) : Prop :=
  ∃ start, StandsAt token source start ∧ start < i ∧ i < start + token.length

/-- The loop ends, its parts are the source, and no part is empty, too long or cut in a wrong place. -/
def Splits (value : ReadValue κ) : Prop :=
  ∃ (turns : Nat) (parts : List Units), splitFrom value.source turns 0 = some parts ∧
    parts.flatten = value.source ∧
    (∀ part ∈ parts, 1 ≤ part.length ∧ part.length ≤ 2000) ∧
    ∀ before after : List Units, parts = before ++ after →
      ¬CutsPair value.source before.flatten.length ∧
      ∀ keep ∈ value.keeps, ¬CutsToken value.source keep.token before.flatten.length

/-- A high surrogate, then an opening that is the last for a part's length and not closed in it. -/
structure Stalls (source : Units) (i : Nat) : Prop where
  high : isHigh (source.getD i 0) = true
  opens : StandsAt keepOpening source (i + 1)
  last : ∀ j, i + 1 < j → j ≤ i + 1999 → ¬StandsAt keepOpening source j
  closes : ∃ closing, i + 1999 ≤ closing ∧ indexOf keepClosing source (i + 1) = some closing

theorem keepClosing_ne : keepClosing ≠ [] := by decide

theorem beforeMarker_cases (source : Units) (offset last : Nat) :
    beforeMarker source offset last = last \/
      ∃ start, lastIndexOf keepOpening source (last - 1) = some start /\ offset < start /\
        markerEnd source start last = true /\ beforeMarker source offset last = start := by
  unfold beforeMarker
  cases found : lastIndexOf keepOpening source (last - 1) with
  | none => exact Or.inl rfl
  | some start =>
    simp only
    split
    next moved => exact Or.inr ⟨start, rfl, moved.1, moved.2, rfl⟩
    next => exact Or.inl rfl

theorem beforeMarker_bounds (source : Units) (offset last : Nat) (ahead : offset < last) :
    offset < beforeMarker source offset last /\ beforeMarker source offset last <= last := by
  rcases beforeMarker_cases source offset last with same | ⟨start, found, later, -, moved⟩
  · rw [same]
    exact ⟨ahead, Nat.le_refl _⟩
  · obtain ⟨within, -, -⟩ := lastIndexOf_some _ _ _ _ found
    rw [moved]
    exact ⟨later, by omega⟩

theorem partEnd_bounds (source : Units) (offset : Nat) (inside : offset < source.length) :
    offset <= partEnd source offset /\ partEnd source offset <= offset + 2000 /\
      partEnd source offset <= source.length := by
  have bounds := beforeMarker_bounds source offset (min (offset + 2000) source.length) (by omega)
  simp only [partEnd]
  split <;> omega

theorem partEnd_moved (source : Units) (offset : Nat) :
    let moved := beforeMarker source offset (min (offset + 2000) source.length)
    (partEnd source offset = moved /\
      (source.length <= moved \/ isHigh (source.getD (moved - 1) 0) = false)) \/
    (partEnd source offset + 1 = moved \/ moved = 0) /\ moved < source.length /\
      partEnd source offset = moved - 1 /\ isHigh (source.getD (moved - 1) 0) = true := by
  intro moved
  unfold partEnd
  by_cases cut : moved < source.length /\ isHigh (source.getD (moved - 1) 0) = true
  · refine Or.inr ?_
    simp only [moved] at cut ⊢
    rw [if_pos cut]
    exact ⟨by omega, cut.1, rfl, cut.2⟩
  · refine Or.inl ?_
    simp only [moved] at cut ⊢
    rw [if_neg cut]
    refine ⟨rfl, ?_⟩
    rcases not_and_or.mp cut with past | plain
    · exact Or.inl (Nat.le_of_not_lt past)
    · exact Or.inr (Bool.eq_false_iff.mpr plain)

variable {source token : Units}

theorem Stalls.length {i : Nat} (stalls : Stalls source i) : i + 2000 < source.length := by
  obtain ⟨closing, far, found⟩ := stalls.closes
  obtain ⟨-, stands, -⟩ := indexOf_some _ _ keepClosing_ne _ _ found
  have fits := stands.length.resolve_right keepClosing_ne
  have two : keepClosing.length = 2 := by decide
  omega

theorem Stalls.partEnd_le {i : Nat} (stalls : Stalls source i) (offset : Nat)
    (before : offset <= i) : partEnd source offset <= i := by
  have long := stalls.length
  let last := min (offset + 2000) source.length
  let moved := beforeMarker source offset last
  have bounds : offset < moved /\ moved <= last := beforeMarker_bounds source offset last (by omega)
  have reached : moved <= i + 1 := by
    by_cases early : last <= i + 1
    · omega
    · have own : lastIndexOf keepOpening source (last - 1) = some (i + 1) :=
        lastIndexOf_last _ _ _ _ (by omega) stalls.opens fun j later within =>
          stalls.last j later (by omega)
      obtain ⟨closing, far, found⟩ := stalls.closes
      have unclosed : markerEnd source (i + 1) last = true := by
        rw [markerEnd, found]
        exact decide_eq_true (by omega)
      have same : moved = i + 1 := by
        simp only [moved, beforeMarker, own]
        rw [if_pos ⟨by omega, unclosed⟩]
      omega
  rcases partEnd_moved source offset with ⟨same, stop⟩ | ⟨-, -, same, -⟩
  · rcases Nat.lt_or_ge moved (i + 1) with short | far
    · rw [same]
      exact Nat.le_of_lt_succ short
    · have here : moved = i + 1 := by omega
      rcases stop with past | plain
      · change source.length <= moved at past
        omega
      · change isHigh (source.getD (moved - 1) 0) = false at plain
        rw [here, Nat.add_sub_cancel, stalls.high] at plain
        exact absurd plain (by simp)
  · rw [same]
    change moved - 1 <= i
    omega

theorem stalls_of_partEnd (source : Units) (offset : Nat) (inside : offset < source.length)
    (same : partEnd source offset = offset) : Stalls source offset := by
  let last := min (offset + 2000) source.length
  let moved := beforeMarker source offset last
  have bounds : offset < moved /\ moved <= last := beforeMarker_bounds source offset last (by omega)
  rcases partEnd_moved source offset with ⟨stays, -⟩ | ⟨-, room, stays, high⟩
  · change partEnd source offset = moved at stays
    omega
  · change moved < source.length at room
    change partEnd source offset = moved - 1 at stays
    change isHigh (source.getD (moved - 1) 0) = true at high
    have next : moved = offset + 1 := by omega
    rw [next, Nat.add_sub_cancel] at high
    rcases beforeMarker_cases source offset last with whole | ⟨start, found, later, unclosed, placed⟩
    · change moved = last at whole
      omega
    · change moved = start at placed
      obtain rfl : start = offset + 1 := by omega
      obtain ⟨-, opens, none⟩ := lastIndexOf_some _ _ _ _ found
      unfold markerEnd at unclosed
      cases closes : indexOf keepClosing source (offset + 1) with
      | none =>
        simp only [closes, decide_eq_true_eq] at unclosed
        omega
      | some closing =>
        simp only [closes, decide_eq_true_eq] at unclosed
        obtain ⟨-, stands, -⟩ := indexOf_some _ _ keepClosing_ne _ _ closes
        have fits := stands.length.resolve_right keepClosing_ne
        have two : keepClosing.length = 2 := by decide
        exact ⟨high, opens, fun j above below => none j above (by omega), closing, by omega, closes⟩

theorem partEnd_pair (source : Units) (offset : Nat) : ¬CutsPair source (partEnd source offset) := by
  rintro ⟨high, low, positive, first, second, isFirst, isSecond⟩
  rcases partEnd_moved source offset with ⟨same, stop⟩ | ⟨-, -, same, upper⟩
  · rcases stop with past | plain
    · rw [same, List.getElem?_eq_none past] at second
      exact absurd second (by simp)
    · rw [<- same, List.getD_eq_getElem?_getD, first] at plain
      simp only [Option.getD_some, isFirst] at plain
      exact absurd plain (by simp)
  · rw [<- same, List.getD_eq_getElem?_getD, second] at upper
    simp only [Option.getD_some] at upper
    simp only [isHigh, isLow, Bool.and_eq_true, decide_eq_true_eq, UInt16.le_iff_toNat_le] at upper isSecond
    have middle : (0xDBFF : UInt16).toNat < (0xDC00 : UInt16).toNat := by decide
    omega

theorem StandsAt_getD (pattern source : Units) (start k : Nat) (stands : StandsAt pattern source start)
    (inside : k < pattern.length) : source.getD (start + k) 0 = pattern.getD k 0 := by
  rw [List.getD_eq_getElem?_getD, stands.getElem k inside, List.getD_eq_getElem _ _ inside]
  rfl

theorem IsMarker.getD (isMarker : IsMarker token) (k : Nat) (inside : k < token.length) :
    token.getD k 0 < 128 /\ (2 <= k -> token.getD k 0 ≠ 91) /\
      (k + 2 < token.length -> token.getD k 0 ≠ 93) := by
  obtain ⟨body, rfl, plain⟩ := isMarker.shape
  have opening : ∀ k, k < 13 -> keepOpening.getD k 0 < 128 /\ (2 <= k -> keepOpening.getD k 0 ≠ 91) /\
      keepOpening.getD k 0 ≠ 93 := by decide
  have closing : ∀ k, k < 2 -> keepClosing.getD k 0 = 93 := by decide
  have thirteen : keepOpening.length = 13 := by decide
  have two : keepClosing.length = 2 := by decide
  simp only [List.length_append, thirteen, two] at inside ⊢
  rcases Nat.lt_or_ge k 13 with early | later
  · rw [List.getD_append _ _ _ _ (by omega)]
    obtain ⟨small, notOpen, notClose⟩ := opening k early
    exact ⟨small, notOpen, fun _ => notClose⟩
  · rw [List.getD_append_right _ _ _ _ (by omega), thirteen]
    rcases Nat.lt_or_ge (k - 13) body.length with middle | last
    · rw [List.getD_append _ _ _ _ middle, List.getD_eq_getElem _ _ middle]
      obtain ⟨notOpen, notClose, small⟩ := plain _ (List.getElem_mem middle)
      exact ⟨small, fun _ => notOpen, fun _ => notClose⟩
    · rw [List.getD_append_right _ _ _ _ last, closing _ (by omega)]
      exact ⟨by decide, fun _ => by decide, fun early => by omega⟩

theorem IsMarker.unit (isMarker : IsMarker token) {start : Nat}
    (stands : StandsAt token source start) (i : Nat) (above : start < i)
    (below : i < start + token.length) :
    ¬StandsAt keepOpening source i /\ isHigh (source.getD i 0) = false := by
  obtain ⟨k, rfl⟩ := Nat.exists_eq_add_of_le (Nat.le_of_lt above)
  have unit := StandsAt_getD token source start k stands (by omega)
  obtain ⟨small, notOpen, -⟩ := isMarker.getD k (by omega)
  refine ⟨fun opens => ?_, ?_⟩
  · have first := StandsAt_getD keepOpening source (start + k) 0 opens (by decide)
    have second := StandsAt_getD keepOpening source (start + k) 1 opens (by decide)
    rw [Nat.add_zero] at first
    rcases Nat.lt_or_ge k 2 with one | later
    · obtain rfl : k = 1 := by omega
      obtain ⟨body, shape, -⟩ := isMarker.shape
      have letter : token.getD 2 0 = 76 := by
        rw [shape]
        rfl
      have long : 2 < token.length := by
        rw [shape]
        simp [keepOpening, ascii]
      have third := StandsAt_getD token source start 2 stands long
      rw [Nat.add_assoc, third, letter] at second
      exact absurd second (by decide)
    · exact notOpen later (unit.symm.trans first)
  · rw [unit]
    refine Bool.eq_false_iff.mpr fun high => ?_
    simp only [isHigh, Bool.and_eq_true, decide_eq_true_eq] at high
    exact absurd (Std.lt_of_le_of_lt high.1 small) (by decide)

theorem IsMarker.closing (isMarker : IsMarker token) {start : Nat}
    (stands : StandsAt token source start) :
    indexOf keepClosing source start = some (start + token.length - 2) := by
  obtain ⟨body, shape, -⟩ := isMarker.shape
  have two : keepClosing.length = 2 := by decide
  have long : 2 <= token.length := by
    rw [shape]
    simp [keepOpening, ascii]
  refine indexOf_first _ _ keepClosing_ne _ _ (by omega) ?_ fun j after before closes => ?_
  · obtain ⟨rest, parts⟩ := stands
    refine ⟨rest, ?_⟩
    have split : source.drop start = (keepOpening ++ body) ++ (keepClosing ++ rest) := by
      rw [<- parts, shape]
      simp
    have place : start + token.length - 2 = start + (keepOpening ++ body).length := by
      rw [shape]
      simp only [List.length_append, two]
      omega
    rw [place, <- List.drop_drop, split, List.drop_left]
  · obtain ⟨k, rfl⟩ := Nat.exists_eq_add_of_le after
    have unit := StandsAt_getD token source start k stands (by omega)
    have first := StandsAt_getD keepClosing source (start + k) 0 closes (by decide)
    rw [Nat.add_zero, unit] at first
    exact (isMarker.getD k (by omega)).2.2 (by omega) first

theorem IsMarker.opening (isMarker : IsMarker token) {start : Nat}
    (stands : StandsAt token source start) : StandsAt keepOpening source start := by
  obtain ⟨body, shape, -⟩ := isMarker.shape
  obtain ⟨rest, parts⟩ := stands
  refine ⟨body ++ keepClosing ++ rest, ?_⟩
  rw [<- parts, shape]
  simp

theorem partEnd_token (source token : Units) (isMarker : IsMarker token) (offset : Nat)
    (inside : offset < source.length) (start : Nat) (stands : StandsAt token source start)
    (outside : offset <= start \/ start + token.length <= offset) :
    ¬(start < partEnd source offset /\ partEnd source offset < start + token.length) := by
  rintro ⟨above, below⟩
  let last := min (offset + 2000) source.length
  let moved := beforeMarker source offset last
  have bounds : offset < moved /\ moved <= last := beforeMarker_bounds source offset last (by omega)
  have ends := partEnd_bounds source offset inside
  have fits : token.length + start <= source.length :=
    stands.length.resolve_right fun empty => by simp [empty] at below; omega
  have started : offset <= start := outside.resolve_right fun past => by omega
  have short := isMarker.short
  have plain := isMarker.unit stands (partEnd source offset) above below
  rcases partEnd_moved source offset with ⟨same, -⟩ | ⟨-, -, same, high⟩
  · change partEnd source offset = moved at same
    rcases beforeMarker_cases source offset last with whole | ⟨other, found, -, -, placed⟩
    · change moved = last at whole
      -- The marker's own opening is the last one before the end, and it closes after it.
      have own : lastIndexOf keepOpening source (last - 1) = some start :=
        lastIndexOf_last _ _ _ _ (by omega) (isMarker.opening stands) fun j later within =>
          (isMarker.unit stands j later (by omega)).1
      have unclosed : markerEnd source start last = true := by
        rw [markerEnd, isMarker.closing stands]
        exact decide_eq_true (by omega)
      have back : moved = start := by
        simp only [moved, beforeMarker, own]
        rw [if_pos ⟨by omega, unclosed⟩]
      omega
    · obtain ⟨-, opens, -⟩ := lastIndexOf_some _ _ _ _ found
      change moved = other at placed
      rw [same, placed] at plain
      exact plain.1 opens
  · rw [same] at plain
    rw [plain.2] at high
    exact absurd high (by simp)

def Splits.Good (source : Units) (tokens : List Units) (i : Nat) : Prop :=
  ¬CutsPair source i ∧ ∀ token ∈ tokens, ¬CutsToken source token i

theorem partEnd_good (source : Units) (tokens : List Units)
    (markers : ∀ token ∈ tokens, IsMarker token) (offset : Nat) (inside : offset < source.length)
    (good : Splits.Good source tokens offset) :
    Splits.Good source tokens (partEnd source offset) := by
  refine ⟨partEnd_pair source offset, fun token member => ?_⟩
  rintro ⟨start, stands, above, below⟩
  refine partEnd_token source token (markers token member) offset inside start stands ?_ ⟨above, below⟩
  by_contra outside
  exact good.2 token member ⟨start, stands, by omega, by omega⟩

theorem splitFrom_step (source : Units) (turns offset : Nat) (inside : offset < source.length) :
    splitFrom source (turns + 1) offset =
      (splitFrom source turns (partEnd source offset)).map fun parts =>
        (source.take (partEnd source offset)).drop offset :: parts := by
  rw [splitFrom, if_pos inside]

theorem splitFrom_done (source : Units) (turns offset : Nat) (past : source.length <= offset) :
    splitFrom source turns offset = some [] := by
  unfold splitFrom
  rw [if_neg (by omega)]

theorem splitFrom_sound (source : Units) (tokens : List Units)
    (markers : ∀ token ∈ tokens, IsMarker token) (moves : ∀ i, ¬Stalls source i) (turns offset : Nat)
    (parts : List Units) (within : offset <= source.length) (good : Splits.Good source tokens offset)
    (split : splitFrom source turns offset = some parts) :
    parts.flatten = source.drop offset /\ (∀ part ∈ parts, 1 <= part.length /\ part.length <= 2000) /\
      ∀ before after : List Units, parts = before ++ after ->
        Splits.Good source tokens (offset + before.flatten.length) := by
  induction turns generalizing offset parts with
  | zero =>
    rw [splitFrom] at split
    obtain ⟨past, none⟩ := Option.ite_none_left_eq_some.mp split
    obtain rfl := Option.some.inj none
    refine ⟨?_, by simp, fun before after same => ?_⟩
    · rw [List.drop_eq_nil_iff.mpr (Nat.le_of_not_lt past)]
      rfl
    · obtain ⟨rfl, -⟩ := List.append_eq_nil_iff.mp same.symm
      exact good
  | succ turns ih =>
    by_cases inside : offset < source.length
    case neg =>
      rw [splitFrom_done source _ offset (Nat.le_of_not_lt inside)] at split
      obtain rfl := Option.some.inj split
      refine ⟨?_, by simp, fun before after same => ?_⟩
      · rw [List.drop_eq_nil_iff.mpr (Nat.le_of_not_lt inside)]
        rfl
      · obtain ⟨rfl, -⟩ := List.append_eq_nil_iff.mp same.symm
        exact good
    case pos =>
      rw [splitFrom_step source turns offset inside] at split
      obtain ⟨rest, later, rfl⟩ := Option.map_eq_some_iff.mp split
      obtain ⟨low, near, high⟩ := partEnd_bounds source offset inside
      have moved : partEnd source offset ≠ offset := fun same =>
        moves offset (stalls_of_partEnd source offset inside same)
      obtain ⟨whole, sizes, cuts⟩ := ih _ rest high
        (partEnd_good source tokens markers offset inside good) later
      have part : ((source.take (partEnd source offset)).drop offset).length =
          partEnd source offset - offset := by
        rw [List.length_drop, List.length_take, Nat.min_eq_left high]
      refine ⟨?_, ?_, ?_⟩
      · rw [List.flatten_cons, whole, List.drop_take]
        have rest := List.take_append_drop (partEnd source offset - offset) (source.drop offset)
        rw [List.drop_drop, Nat.add_sub_cancel' low] at rest
        exact rest
      · intro other member
        rcases List.mem_cons.mp member with rfl | old
        · rw [part]
          omega
        · exact sizes other old
      · intro before after same
        cases before with
        | nil => exact good
        | cons first others =>
          obtain ⟨rfl, tail⟩ := List.cons.inj same
          have cut := cuts others after tail
          rw [List.flatten_cons, List.length_append, part]
          have place : offset + (partEnd source offset - offset + others.flatten.length) =
              partEnd source offset + others.flatten.length := by omega
          rwa [place]

theorem splitFrom_ends (source : Units) (moves : ∀ i, ¬Stalls source i) (turns offset : Nat)
    (enough : source.length <= offset + turns) : (splitFrom source turns offset).isSome = true := by
  induction turns generalizing offset with
  | zero => rw [splitFrom_done source 0 offset (by omega)]; rfl
  | succ turns ih =>
    by_cases inside : offset < source.length
    case neg => rw [splitFrom_done source _ offset (Nat.le_of_not_lt inside)]; rfl
    case pos =>
      have bounds := partEnd_bounds source offset inside
      have moved : partEnd source offset ≠ offset := fun same =>
        moves offset (stalls_of_partEnd source offset inside same)
      rw [splitFrom_step source turns offset inside, Option.isSome_map]
      exact ih _ (by omega)

theorem splitFrom_stalls (source : Units) (i : Nat) (stalls : Stalls source i) (turns offset : Nat)
    (before : offset <= i) : splitFrom source turns offset = none := by
  have long := stalls.length
  induction turns generalizing offset with
  | zero => rw [splitFrom, if_pos (by omega)]
  | succ turns ih =>
    rw [splitFrom_step source turns offset (by omega), ih _ (stalls.partEnd_le offset before)]
    rfl

/-- A source that was read is split well if it has no place where the loop stalls, and only then. -/
theorem splits_iff (stringify : κ → Units) (stringifyKeeps : List (Keep κ) → Units)
    (nodes : List (Bool × Node κ)) (value : ReadValue κ)
    (found : read stringify stringifyKeeps nodes = some value) :
    Splits value ↔ ∀ i, ¬Stalls value.source i := by
  constructor
  · rintro ⟨turns, parts, split, -⟩ i stalls
    rw [splitFrom_stalls value.source i stalls turns 0 (Nat.zero_le i)] at split
    exact absurd split (by simp)
  · intro moves
    have markers : ∀ token ∈ value.keeps.map Keep.token, IsMarker token := by
      intro token member
      obtain ⟨keep, held, rfl⟩ := List.mem_map.mp member
      exact read_markers stringify stringifyKeeps nodes value found keep held
    have start : Splits.Good value.source (value.keeps.map Keep.token) 0 := by
      refine ⟨?_, fun token member => ?_⟩
      · rintro ⟨high, low, positive, -⟩
        omega
      · rintro ⟨start, -, above, -⟩
        omega
    obtain ⟨parts, split⟩ := Option.isSome_iff_exists.mp
      (splitFrom_ends value.source moves value.source.length 0 (by omega))
    obtain ⟨whole, sizes, cuts⟩ := splitFrom_sound value.source _ markers moves _ 0 parts
      (Nat.zero_le _) start split
    refine ⟨_, parts, split, whole, sizes, fun before after same => ?_⟩
    have cut := cuts before after same
    rw [Nat.zero_add] at cut
    exact ⟨cut.1, fun keep held => cut.2 _ (List.mem_map_of_mem held)⟩

theorem splits_iff_word :
    let value : ReadValue Unit := ⟨ascii "Hi", [], [], 0⟩
    Splits value ↔ ∀ i, ¬Stalls value.source i :=
  splits_iff (fun _ => []) (fun _ => []) [(true, .text (ascii "Hi"))] _ rfl

theorem collapse_solid (text : Units) (solid : ∀ c ∈ text, isBlank c = false) :
    collapse false text = text := by
  induction text with
  | nil => rfl
  | cons c rest ih =>
    rw [collapse, if_neg (by simp [solid c List.mem_cons_self]),
      ih fun other member => solid other (List.mem_cons_of_mem _ member)]

theorem printable_solid (c : UInt16) (low : 33 <= c) (high : c <= 127) : isSpace c = false := by
  have equal (n : UInt16) : (c == n) = true ↔ c.toNat = n.toNat := by
    rw [beq_iff_eq, UInt16.toNat_inj]
  refine Bool.eq_false_iff.mpr fun space => ?_
  simp only [isSpace, Bool.or_eq_true, Bool.and_eq_true, decide_eq_true_eq, equal,
    UInt16.le_iff_toNat_le] at space low high
  simp at space low high
  omega

theorem keepOpening_printable (c : UInt16) (member : c ∈ keepOpening) : 33 <= c /\ c <= 127 := by
  have units : c ∈ ([91, 91, 76, 85, 77, 73, 69, 95, 75, 69, 69, 80, 95] : List UInt16) := member
  fin_cases units <;> decide

theorem trim_solid (text : Units) (solid : ∀ c ∈ text, isSpace c = false) : trim text = text := by
  have start : text.dropWhile isSpace = text := by
    cases text with
    | nil => rfl
    | cons c rest => exact List.dropWhile_cons_of_neg (by simp [solid c List.mem_cons_self])
  rw [trim, start]
  refine List.rdropWhile_eq_self_iff.mpr fun nonempty => ?_
  simp [solid _ (List.getLast_mem nonempty)]

theorem read_solid (text : Units) (small : text.length <= kLimit)
    (solid : ∀ c ∈ text, isSpace c = false) :
    read (fun _ : Unit => []) (fun _ => []) [(true, .text text)] = some ⟨text, [], [], 0⟩ := by
  have blank : ∀ c ∈ text, isBlank c = false := by
    intro c member
    refine Bool.eq_false_iff.mpr fun blank => ?_
    have notSpace := solid c member
    simp only [isBlank, Bool.or_eq_true, beq_iff_eq] at blank
    rcases blank with ((rfl | rfl) | rfl) | rfl <;> exact absurd notSpace (by decide)
  have walked : walkRoots (fun _ : Unit => []) [(true, .text text)] 10000 {} =
      some { pieces := [.text text], keeps := 0, units := 0 + text.length } := by
    have fits : ¬kLimit < 0 + text.length := by omega
    simp only [walkRoots, walk, Gathered.add, fits, if_false, List.nil_append, if_true]
  rw [read, walked]
  simp only [keepsOf, joined, List.append_nil, collapse_solid text blank, trim_solid text solid]
  rfl

-- A lone high surrogate, and what looks like a marker but is not closed for the length of a part.
def stallingText (filling : Units) : Units :=
  0xD800 :: (keepOpening ++ (filling ++ keepClosing))

section

variable (filling : Units) (plain : ∀ c ∈ filling, c = 120) (long : filling.length = 2000)
include plain long

theorem stallingText_unit (k : Nat) (before : k < 2013) :
    (stallingText filling).getD (k + 1) 0 ≠ 93 /\
      (2 <= k -> (stallingText filling).getD (k + 1) 0 ≠ 91) := by
  have opening : ∀ k, k < 13 -> keepOpening.getD k 0 ≠ 93 /\ (2 <= k -> keepOpening.getD k 0 ≠ 91) := by
    decide
  have thirteen : keepOpening.length = 13 := by decide
  rw [stallingText, List.getD_cons_succ]
  rcases Nat.lt_or_ge k 13 with early | later
  · rw [List.getD_append _ _ _ _ (by omega)]
    exact opening k early
  · have inside : k - 13 < filling.length := by omega
    rw [List.getD_append_right _ _ _ _ (by omega), thirteen, List.getD_append _ _ _ _ inside,
      List.getD_eq_getElem _ _ inside, plain _ (List.getElem_mem inside)]
    exact ⟨by decide, fun _ => by decide⟩

theorem stallingText_stalls : Stalls (stallingText filling) 0 where
  high := by rfl
  opens := ⟨filling ++ keepClosing, rfl⟩
  last := by
    intro j above below opens
    have first := StandsAt_getD keepOpening (stallingText filling) j 0 opens (by decide)
    have second := StandsAt_getD keepOpening (stallingText filling) j 1 opens (by decide)
    rcases Nat.lt_or_ge j 3 with two | later
    · obtain rfl : j = 2 := by omega
      exact (stallingText_unit filling plain long 2 (by decide)).2 (Nat.le_refl _) second
    · obtain ⟨k, rfl⟩ := Nat.exists_eq_add_of_le' (show 1 <= j by omega)
      exact (stallingText_unit filling plain long k (by omega)).2 (by omega) first
  closes := by
    refine ⟨2014, by decide, indexOf_first _ _ keepClosing_ne _ _ (by decide) ?_ ?_⟩
    · have split : stallingText filling = (0xD800 :: (keepOpening ++ filling)) ++ keepClosing := by
        rw [stallingText, List.cons_append, List.append_assoc]
      have place : (0xD800 :: (keepOpening ++ filling)).length = 2014 := by
        rw [List.length_cons, List.length_append, long]
        rfl
      refine ⟨[], ?_⟩
      rw [split, <- place, List.drop_left, List.append_nil]
    · intro j above below closes
      have first := StandsAt_getD keepClosing (stallingText filling) j 0 closes (by decide)
      obtain ⟨k, rfl⟩ := Nat.exists_eq_add_of_le' above
      exact (stallingText_unit filling plain long k (by omega)).1 first

theorem stallingText_unsplit :
    ∃ value : ReadValue Unit,
      read (fun _ => []) (fun _ => []) [(true, .text (stallingText filling))] = some value /\
        ¬Splits value := by
  have solid : ∀ c ∈ stallingText filling, isSpace c = false := by
    intro c member
    rcases List.mem_cons.mp member with rfl | rest
    · decide
    · rcases List.mem_append.mp rest with opening | rest
      · obtain ⟨low, high⟩ := keepOpening_printable c opening
        exact printable_solid c low high
      · rcases List.mem_append.mp rest with filled | closing
        · rw [plain c filled]
          decide
        · obtain rfl : c = 93 := by simpa [keepClosing, ascii] using closing
          exact printable_solid 93 (by decide) (by decide)
  have small : (stallingText filling).length <= kLimit := by
    rw [stallingText, List.length_cons, List.length_append, List.length_append, long]
    decide
  refine ⟨_, read_solid (stallingText filling) small solid, ?_⟩
  rintro ⟨turns, parts, split, -⟩
  rw [splitFrom_stalls _ 0 (stallingText_stalls filling plain long) turns 0 (Nat.le_refl _)] at split
  exact absurd split (by simp)

end

theorem stalling_source_unsplit :
    ¬∀ (nodes : List (Bool × Node Unit)) (value : ReadValue Unit),
      read (fun _ => []) (fun _ => []) nodes = some value → Splits value := by
  intro all
  obtain ⟨value, found, unsplit⟩ := stallingText_unsplit (List.replicate 2000 120)
    (fun c member => List.eq_of_mem_replicate member) (List.length_replicate)
  exact unsplit (all _ value found)

end ChromiumHmos.Translation.Segments
