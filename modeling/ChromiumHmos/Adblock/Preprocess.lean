import ChromiumHmos.Adblock.Condition
import ChromiumHmos.Lib.Blocks

set_option autoImplicit false

/-!
# Directives of filter lists

Which lines of a list are rules. The stack of branches agrees with the nesting of the lines.
-/

namespace ChromiumHmos.Adblock.Preprocess

open Lib

def byteLength (text : List Char) : Nat := (text.map Char.utf8Size).sum

def ifDirective : List Char := "!#if ".toList
def elseDirective : List Char := "!#else".toList
def endifDirective : List Char := "!#endif".toList
def directiveStart : List Char := "!#".toList

structure Preprocessor where
  -- The innermost branch comes first.
  stack : List (Option Bool × Bool) := []

def Preprocessor.line (line : List Char) (preprocessor : Preprocessor) :
    Except Unit (Option Bool) × Preprocessor :=
  if ifDirective.isPrefixOf line then
    let expr := line.drop ifDirective.length
    if preprocessor.stack.length = 32 ∨ 1024 < byteLength expr then (.error (), preprocessor)
    else (.ok none, { stack := (condition (trim expr), false) :: preprocessor.stack })
  else if line = elseDirective then
    match preprocessor.stack with
    | [] => (.error (), preprocessor)
    | (value, seen) :: outer =>
      if seen then (.error (), preprocessor)
      else (.ok none, { stack := (value.map fun v => !v, true) :: outer })
  else if line = endifDirective then
    match preprocessor.stack with
    | [] => (.error (), preprocessor)
    | _ :: outer => (.ok none, { stack := outer })
  else if directiveStart.isPrefixOf line then (.ok (some false), preprocessor)
  else (.ok (some (preprocessor.stack.all fun branch => branch.1 = some true)), preprocessor)

-- A list is given up at its first error.
def Preprocessor.lines : List (List Char) → Preprocessor → Option Preprocessor
  | [], preprocessor => some preprocessor
  | line :: rest, preprocessor =>
    match preprocessor.line line with
    | (.error _, _) => none
    | (.ok _, next) => Preprocessor.lines rest next

inductive Directive
  | start (expr : List Char)
  | otherwise
  | finish
  | plain

def directive (line : List Char) : Directive :=
  if ifDirective.isPrefixOf line then .start (line.drop ifDirective.length)
  else if line = elseDirective then .otherwise
  else if line = endifDirective then .finish
  else .plain

def Directive.opens : Directive → Bool
  | .start _ => true
  | _ => false

def Directive.closes : Directive → Bool
  | .finish => true
  | _ => false

abbrev Enclosing (before : List Directive) (expr : List Char) (inner : List Directive) : Prop :=
  OpenBlock Directive.opens Directive.closes before (.start expr) inner

/-- The block that holds `inner` has had its own `#else`. -/
def HasElse (inner : List Directive) : Prop :=
  ∃ first rest : List Directive, inner = first ++ .otherwise :: rest ∧
    Complete Directive.opens Directive.closes first

/-- What the next line needs of the lines before it. -/
def Admits (before : List Directive) : Directive → Prop
  | .start expr => before.countP Directive.opens < 32 + before.countP Directive.closes ∧
      byteLength expr ≤ 1024
  | .otherwise => ∃ (expr : List Char) (inner : List Directive), Enclosing before expr inner ∧
      Complete Directive.opens Directive.closes inner ∧ ¬HasElse inner
  | .finish => ∃ (expr : List Char) (inner : List Directive), Enclosing before expr inner
  | .plain => True

def WellNested (directives : List Directive) : Prop :=
  ∀ (before after : List Directive) (next : Directive),
    directives = before ++ next :: after → Admits before next

/-- The branch that the lines so far select has a condition known to be true. -/
def Selected (expr : List Char) (inner : List Directive) : Prop :=
  (HasElse inner → condition (trim expr) = some false) ∧
    (¬HasElse inner → condition (trim expr) = some true)

theorem disjoint (next : Directive) (opening : next.opens = true) : next.closes = false := by
  cases next <;> simp_all [Directive.opens, Directive.closes]

structure Shows (branch : Option Bool × Bool) (block : Directive × List Directive) : Prop where
  seen : branch.2 = true ↔ HasElse block.2
  value : ∃ expr : List Char, block.1 = .start expr ∧
    branch.1 = if branch.2 then (condition (trim expr)).map fun v => !v else condition (trim expr)

theorem hasElse_snoc (inner : List Directive) (next : Directive) :
    HasElse (inner ++ [next]) ↔ HasElse inner \/
      next = .otherwise /\ Complete Directive.opens Directive.closes inner := by
  constructor
  · rintro ⟨first, rest, split, complete⟩
    rcases List.eq_nil_or_concat rest with rfl | ⟨before, last, rfl⟩
    · obtain ⟨rfl, same⟩ := List.append_inj' split rfl
      exact Or.inr ⟨(List.cons.inj same).1, complete⟩
    · rw [List.concat_eq_append, <- List.cons_append, <- List.append_assoc] at split
      obtain ⟨earlier, -⟩ := List.append_inj' split rfl
      exact Or.inl ⟨first, before, earlier, complete⟩
  · rintro (⟨first, rest, rfl, complete⟩ | ⟨rfl, complete⟩)
    · exact ⟨first, rest ++ [next], by simp, complete⟩
    · exact ⟨inner, [], rfl, complete⟩

structure Agrees (before : List Directive) (preprocessor : Preprocessor) : Prop where
  nested : WellNested before
  shows : List.Forall₂ Shows preprocessor.stack
    (openBlocks Directive.opens Directive.closes before)

theorem wellNested_snoc (before : List Directive) (next : Directive) :
    WellNested (before ++ [next]) ↔ WellNested before /\ Admits before next := by
  constructor
  · intro nested
    exact ⟨fun first after other split => nested first (after ++ [next]) other (by simp [split]),
      nested before [] next rfl⟩
  · rintro ⟨nested, admitted⟩ first after other split
    rcases List.eq_nil_or_concat after with rfl | ⟨rest, last, rfl⟩
    · obtain ⟨rfl, same⟩ := List.append_inj' split rfl
      exact (List.cons.inj same).1 ▸ admitted
    · rw [List.concat_eq_append, <- List.cons_append, <- List.append_assoc] at split
      obtain ⟨earlier, -⟩ := List.append_inj' split rfl
      exact nested first rest other earlier

theorem enclosing_mem (before : List Directive) (expr : List Char) (inner : List Directive) :
    Enclosing before expr inner ↔
      (.start expr, inner) ∈ openBlocks Directive.opens Directive.closes before :=
  (openBlocks_mem disjoint before (.start expr) inner).symm

theorem openBlocks_start (before : List Directive) (block : Directive × List Directive)
    (member : block ∈ openBlocks Directive.opens Directive.closes before) :
    ∃ expr : List Char, block.1 = .start expr := by
  have opening := ((openBlocks_mem disjoint before block.1 block.2).mp member).1
  cases first : block.1 with
  | start expr => exact ⟨expr, rfl⟩
  | otherwise | finish | plain => simp [first, Directive.opens] at opening

theorem enclosed_iff (before : List Directive) :
    (∃ (expr : List Char) (inner : List Directive), Enclosing before expr inner) ↔
      openBlocks Directive.opens Directive.closes before ≠ [] := by
  constructor
  · rintro ⟨expr, inner, block⟩
    exact List.ne_nil_of_mem ((enclosing_mem before expr inner).mp block)
  · intro nonempty
    obtain ⟨⟨first, inner⟩, rest, blocks⟩ := List.exists_cons_of_ne_nil nonempty
    have member : (first, inner) ∈ openBlocks Directive.opens Directive.closes before := by
      rw [blocks]
      exact List.mem_cons_self
    obtain ⟨expr, rfl⟩ := openBlocks_start before _ member
    exact ⟨expr, inner, (enclosing_mem before expr inner).mpr member⟩

theorem nesting_length (before : List Directive) (nested : WellNested before) :
    (openBlocks Directive.opens Directive.closes before).length +
      before.countP Directive.closes = before.countP Directive.opens := by
  refine openBlocks_length disjoint before fun first after next split closing => ?_
  have admitted := nested first after next split
  cases next with
  | finish => exact (enclosed_iff first).mp admitted
  | start | otherwise | plain => simp [Directive.closes] at closing

theorem wellNested_depth (before : List Directive) (nested : WellNested before) :
    before.countP Directive.opens <= 32 + before.countP Directive.closes := by
  induction before using List.reverseRecOn with
  | nil => exact Nat.zero_le _
  | append_singleton before next ih =>
    obtain ⟨earlier, admitted⟩ := (wellNested_snoc before next).mp nested
    have bounded := ih earlier
    simp only [List.countP_append, List.countP_singleton]
    cases next with
    | start expr =>
      have room := admitted.1
      simp only [Directive.opens, Directive.closes, if_true, Bool.false_eq_true, if_false]
      omega
    | finish =>
      simp only [Directive.opens, Directive.closes, if_true, Bool.false_eq_true, if_false]
      omega
    | otherwise | plain => simpa [Directive.opens, Directive.closes] using bounded

theorem Shows.snoc {branch : Option Bool × Bool} {block : Directive × List Directive}
    (shows : Shows branch block) (next : Directive)
    (foreign : ¬(next = .otherwise /\ Complete Directive.opens Directive.closes block.2)) :
    Shows branch (block.1, block.2 ++ [next]) where
  seen := by
    rw [shows.seen, hasElse_snoc]
    exact ⟨Or.inl, fun either => either.resolve_right foreign⟩
  value := shows.value

theorem shows_map (stack : List (Option Bool × Bool)) (blocks : List (Directive × List Directive))
    (next : Directive) (shows : List.Forall₂ Shows stack blocks)
    (foreign : ∀ block ∈ blocks,
      ¬(next = .otherwise /\ Complete Directive.opens Directive.closes block.2)) :
    List.Forall₂ Shows stack (blocks.map fun block => (block.1, block.2 ++ [next])) := by
  induction shows with
  | nil => exact .nil
  | cons first _ ih =>
    exact .cons (first.snoc next (foreign _ List.mem_cons_self))
      (ih fun block member => foreign block (List.mem_cons_of_mem _ member))

theorem outer_incomplete (depth : Nat) (blocks : List (Directive × List Directive))
    (leveled : Leveled Directive.opens Directive.closes (depth + 1) blocks)
    (block : Directive × List Directive) (member : block ∈ blocks) :
    ¬Complete Directive.opens Directive.closes block.2 := by
  intro complete
  have counts := leveled_mem _ _ _ _ leveled block member
  have equal := complete.2
  omega

theorem line_directive (line : List Char) (preprocessor : Preprocessor) :
    preprocessor.line line = match directive line with
      | .start expr =>
        if preprocessor.stack.length = 32 \/ 1024 < byteLength expr then (.error (), preprocessor)
        else (.ok none, { stack := (condition (trim expr), false) :: preprocessor.stack })
      | .otherwise =>
        match preprocessor.stack with
        | [] => (.error (), preprocessor)
        | (value, seen) :: outer =>
          if seen then (.error (), preprocessor)
          else (.ok none, { stack := (value.map fun v => !v, true) :: outer })
      | .finish =>
        match preprocessor.stack with
        | [] => (.error (), preprocessor)
        | _ :: outer => (.ok none, { stack := outer })
      | .plain =>
        if directiveStart.isPrefixOf line then (.ok (some false), preprocessor)
        else (.ok (some (preprocessor.stack.all fun branch => branch.1 = some true)),
          preprocessor) := by
  unfold Preprocessor.line directive
  by_cases starts : ifDirective.isPrefixOf line = true
  · simp only [if_pos starts]
  · by_cases otherwise : line = elseDirective
    · simp only [if_neg starts, if_pos otherwise]
    · by_cases finish : line = endifDirective
      · simp only [if_neg starts, if_neg otherwise, if_pos finish]
      · simp only [if_neg starts, if_neg otherwise, if_neg finish]

namespace Agrees

variable {before : List Directive} {preprocessor : Preprocessor}

theorem extend (agrees : Agrees before preprocessor) (next : Directive)
    (stack : List (Option Bool × Bool)) (admitted : Admits before next)
    (shows : List.Forall₂ Shows stack (advance Directive.opens Directive.closes
      (openBlocks Directive.opens Directive.closes before) next)) :
    Agrees (before ++ [next]) { stack } where
  nested := (wellNested_snoc before next).mpr ⟨agrees.nested, admitted⟩
  shows := by
    rw [openBlocks_snoc]
    exact shows

theorem nesting (agrees : Agrees before preprocessor) :
    preprocessor.stack.length + before.countP Directive.closes = before.countP Directive.opens := by
  rw [agrees.shows.length_eq]
  exact nesting_length before agrees.nested

theorem depth (agrees : Agrees before preprocessor) : preprocessor.stack.length <= 32 := by
  have nesting := agrees.nesting
  have bounded := wellNested_depth before agrees.nested
  omega

theorem start (agrees : Agrees before preprocessor) (expr : List Char)
    (room : preprocessor.stack.length < 32) (short : byteLength expr <= 1024) :
    Agrees (before ++ [.start expr])
      { stack := (condition (trim expr), false) :: preprocessor.stack } := by
  have nesting := agrees.nesting
  have admitted : Admits before (.start expr) := ⟨by omega, short⟩
  refine agrees.extend (.start expr) _ admitted (.cons ⟨?_, expr, rfl, ?_⟩ ?_)
  · simp [HasElse]
  · rw [if_neg Bool.false_ne_true]
  · exact shows_map _ _ _ agrees.shows (by simp)

theorem plain (agrees : Agrees before preprocessor) : Agrees (before ++ [.plain]) preprocessor :=
  agrees.extend .plain preprocessor.stack trivial (shows_map _ _ _ agrees.shows (by simp))

theorem finish (agrees : Agrees before preprocessor) (branch : Option Bool × Bool)
    (outer : List (Option Bool × Bool)) (stack : preprocessor.stack = branch :: outer) :
    Agrees (before ++ [.finish]) { stack := outer } := by
  have shows := agrees.shows
  rw [stack] at shows
  obtain ⟨block, rest, -, outerShows, blocks⟩ := List.forall₂_cons_left_iff.mp shows
  refine agrees.extend .finish outer ?_ ?_
  · exact (enclosed_iff before).mpr (by simp [blocks])
  · rw [blocks]
    exact shows_map _ _ _ outerShows (by simp)

theorem otherwise (agrees : Agrees before preprocessor) (value : Option Bool) (seen : Bool)
    (outer : List (Option Bool × Bool)) (stack : preprocessor.stack = (value, seen) :: outer) :
    (Admits before .otherwise ↔ seen = false) /\ (seen = false ->
      Agrees (before ++ [.otherwise]) { stack := (value.map fun v => !v, true) :: outer }) := by
  have shows := agrees.shows
  rw [stack] at shows
  obtain ⟨⟨first, inner⟩, rest, head, outerShows, blocks⟩ := List.forall₂_cons_left_iff.mp shows
  have leveled := openBlocks_leveled disjoint before
  rw [blocks] at leveled
  obtain ⟨expr, rfl, current⟩ := head.value
  have member : Enclosing before expr inner := by
    rw [enclosing_mem, blocks]
    exact List.mem_cons_self
  have complete : Complete Directive.opens Directive.closes inner := ⟨member.2.1, leveled.1⟩
  have admits : Admits before .otherwise ↔ seen = false := by
    constructor
    · rintro ⟨other, part, block, done, fresh⟩
      rw [enclosing_mem, blocks] at block
      rcases List.mem_cons.mp block with same | deeper
      · obtain ⟨-, rfl⟩ := Prod.mk.inj same
        exact Bool.eq_false_iff.mpr fun switched => fresh (head.seen.mp switched)
      · exact absurd done (outer_incomplete 0 rest leveled.2 _ deeper)
    · rintro rfl
      exact ⟨expr, inner, member, complete, fun switched => by simpa using head.seen.mpr switched⟩
  refine ⟨admits, fun fresh => agrees.extend .otherwise _ (admits.mpr fresh) ?_⟩
  rw [blocks]
  refine .cons ⟨?_, expr, rfl, ?_⟩ ?_
  · simpa using (hasElse_snoc inner .otherwise).mpr (Or.inr ⟨rfl, complete⟩)
  · simpa [fresh] using congrArg (Option.map fun v => !v) current
  · exact shows_map _ _ _ outerShows fun block deeper both =>
      outer_incomplete 0 rest leveled.2 block deeper both.2

theorem line (agrees : Agrees before preprocessor) (line : List Char) :
    match preprocessor.line line with
    | (.error _, _) => ¬Admits before (directive line)
    | (.ok _, next) => Agrees (before ++ [directive line]) next := by
  have nesting := agrees.nesting
  have depth := agrees.depth
  rw [line_directive]
  cases directive line with
  | start expr =>
    by_cases refused : preprocessor.stack.length = 32 \/ 1024 < byteLength expr
    · simp only [if_pos refused]
      rintro ⟨room, short⟩
      omega
    · simp only [if_neg refused]
      exact agrees.start expr (by omega) (by omega)
  | otherwise =>
    cases stack : preprocessor.stack with
    | nil =>
      rintro ⟨expr, inner, block, -⟩
      have empty := agrees.shows.length_eq
      rw [stack, List.length_nil] at empty
      exact (enclosed_iff before).mp ⟨expr, inner, block⟩ (List.length_eq_zero_iff.mp empty.symm)
    | cons branch outer =>
      obtain ⟨value, seen⟩ := branch
      obtain ⟨admits, accepted⟩ := agrees.otherwise value seen outer stack
      cases seen with
      | true => simpa using admits
      | false => exact accepted rfl
  | finish =>
    cases stack : preprocessor.stack with
    | nil =>
      intro block
      have empty := agrees.shows.length_eq
      rw [stack, List.length_nil] at empty
      exact (enclosed_iff before).mp block (List.length_eq_zero_iff.mp empty.symm)
    | cons branch outer => exact agrees.finish branch outer stack
  | plain =>
    by_cases unknown : directiveStart.isPrefixOf line = true
    · simp only [if_pos unknown]
      exact agrees.plain
    · simp only [if_neg unknown]
      exact agrees.plain

end Agrees

theorem lines_iff (lines : List (List Char)) (before : List Directive) (preprocessor : Preprocessor)
    (agrees : Agrees before preprocessor) :
    ((preprocessor.lines lines).isSome ↔ WellNested (before ++ lines.map directive)) /\
      ∀ after ∈ preprocessor.lines lines, Agrees (before ++ lines.map directive) after := by
  induction lines generalizing before preprocessor with
  | nil => simpa [Preprocessor.lines] using ⟨agrees.nested, agrees⟩
  | cons line rest ih =>
    have step := agrees.line line
    unfold Preprocessor.lines
    generalize preprocessor.line line = result at step
    obtain ⟨answer, next⟩ := result
    cases answer with
    | error =>
      refine ⟨⟨by simp, fun nested => ?_⟩, by simp⟩
      exact absurd (nested before (rest.map directive) (directive line) rfl) step
    | ok =>
      have later := ih _ next step
      rwa [List.append_assoc] at later

theorem Shows.selected {branch : Option Bool × Bool} {expr : List Char} {inner : List Directive}
    (shows : Shows branch (.start expr, inner)) : branch.1 = some true ↔ Selected expr inner := by
  obtain ⟨other, same, value⟩ := shows.value
  obtain rfl := Directive.start.inj same
  cases seen : branch.2 with
  | false =>
    have first : ¬HasElse inner := fun switched => by simpa [seen] using shows.seen.mpr switched
    rw [value, seen, if_neg Bool.false_ne_true]
    exact ⟨fun holds => ⟨fun switched => absurd switched first, fun _ => holds⟩,
      fun selected => selected.2 first⟩
  | true =>
    have second : HasElse inner := shows.seen.mp seen
    rw [value, seen, if_pos rfl]
    have negated : (condition (trim expr)).map (fun v => !v) = some true ↔
        condition (trim expr) = some false := by
      cases condition (trim expr) <;> simp
    rw [negated]
    exact ⟨fun fails => ⟨fun _ => fails, fun first => absurd second first⟩,
      fun selected => selected.1 second⟩

theorem shows_active (stack : List (Option Bool × Bool)) (blocks : List (Directive × List Directive))
    (shows : List.Forall₂ Shows stack blocks) :
    (stack.all fun branch => branch.1 = some true) = true ↔
      ∀ (expr : List Char) (inner : List Directive), (.start expr, inner) ∈ blocks ->
        Selected expr inner := by
  induction shows with
  | nil => simp
  | @cons branch block _ _ first _ ih =>
    obtain ⟨opener, inner⟩ := block
    obtain ⟨expr, rfl, -⟩ := first.value
    rw [List.all_cons, Bool.and_eq_true, ih, decide_eq_true_iff, first.selected]
    constructor
    · rintro ⟨here, outer⟩ other part member
      rcases List.mem_cons.mp member with same | deeper
      · obtain ⟨opener, rfl⟩ := Prod.mk.inj same
        obtain rfl := Directive.start.inj opener
        exact here
      · exact outer other part deeper
    · intro all
      exact ⟨all expr inner List.mem_cons_self,
        fun other part deeper => all other part (List.mem_cons_of_mem _ deeper)⟩

theorem Agrees.active {before : List Directive} {preprocessor : Preprocessor}
    (agrees : Agrees before preprocessor) :
    (preprocessor.stack.all fun branch => branch.1 = some true) = true ↔
      ∀ (expr : List Char) (inner : List Directive), Enclosing before expr inner ->
        Selected expr inner := by
  rw [shows_active _ _ agrees.shows]
  exact forall₂_congr fun expr inner => imp_congr_left (enclosing_mem before expr inner).symm

/-- Conditions follow the grammar, lines follow the nesting, and rules the branches around them. -/
theorem preprocessor_follows_nesting :
    (∀ (expr : List Char) (v : Bool),
      condition expr = some v ↔ Derives .disjunction 32 (trim expr) v) ∧
    ∀ lines : List (List Char),
      ((Preprocessor.lines lines {}).isSome ↔ WellNested (lines.map directive)) ∧
      ∀ preprocessor ∈ Preprocessor.lines lines {}, ∀ line : List Char,
        ¬directiveStart <+: line →
        ∃ active : Bool, preprocessor.line line = (.ok (some active), preprocessor) ∧
          (active = true ↔ ∀ (expr : List Char) (inner : List Directive),
            Enclosing (lines.map directive) expr inner → Selected expr inner) := by
  refine ⟨condition_iff, fun lines => ?_⟩
  have initial : Agrees [] {} := ⟨by simp [WellNested], .nil⟩
  obtain ⟨accepted, agrees⟩ := lines_iff lines [] {} initial
  refine ⟨accepted, fun preprocessor read line rule => ⟨_, ?_, (agrees preprocessor read).active⟩⟩
  have plain : directive line = .plain := by
    have noStart : ¬ifDirective.isPrefixOf line = true := fun starts => rule
      ((show directiveStart <+: ifDirective by decide).trans (List.isPrefixOf_iff_prefix.mp starts))
    have noElse : line ≠ elseDirective := by
      rintro rfl
      exact rule (by decide)
    have noFinish : line ≠ endifDirective := by
      rintro rfl
      exact rule (by decide)
    rw [directive, if_neg noStart, if_neg noElse, if_neg noFinish]
  rw [line_directive, plain]
  simp only [if_neg (fun start => rule (List.isPrefixOf_iff_prefix.mp start))]

end ChromiumHmos.Adblock.Preprocess
