import Mathlib

set_option autoImplicit false

/-!
# Conditions of filter lists

What `!#if` asks. An answer that is not known stays unknown under every operator.
-/

namespace ChromiumHmos.Adblock.Preprocess

-- Unicode's White_Space.
def isWhitespace (c : Char) : Bool :=
  let code := c.toNat
  (9 ≤ code && code ≤ 13) || code == 32 || code == 133 || code == 160 || code == 5760 ||
    (8192 ≤ code && code ≤ 8202) || code == 8232 || code == 8233 || code == 8239 ||
    code == 8287 || code == 12288

def trimStart (text : List Char) : List Char := text.dropWhile isWhitespace

def trimEnd (text : List Char) : List Char := text.rdropWhile isWhitespace

def trim (text : List Char) : List Char := trimEnd (trimStart text)

def isIdentifier (c : Char) : Bool := c.isAlphanum || c == '_'

def symbol (expr : String) : Option Bool :=
  if expr ∈ ["env_chromium", "cap_user_stylesheet"] then some true
  else if expr ∈ ["ext_ublock", "ext_ubol", "ext_abp", "env_firefox", "env_edge", "env_safari",
      "env_legacy", "env_mv3", "env_devbuild", "ext_devbuild", "cap_html_filtering", "adguard",
      "false"] then some false
  else none

structure Parser where
  text : List Char
  depth : Nat := 0

namespace Parser

-- The text loses its blanks also where the token does not follow.
def eat (token : List Char) (p : Parser) : Bool × Parser :=
  let text := trimStart p.text
  if token.isPrefixOf text then (true, { p with text := text.drop token.length })
  else (false, { p with text })

-- The loops of `and` and `or`. Every turn eats a token, so the length of the text is enough of them.
def chain (token : List Char) (combine : Bool → Bool → Bool)
    (operand : Parser → Option Bool × Parser) :
    Nat → Option Bool → Parser → Option Bool × Parser
  | 0, v, p => (v, p)
  | turns + 1, v, p =>
    match p.eat token with
    | (false, p) => (v, p)
    | (true, p) =>
      let (rhs, p) := operand p
      chain token combine operand turns (Option.map₂ combine v rhs) p

def and (atom : Parser → Option Bool × Parser) (p : Parser) : Option Bool × Parser :=
  let (v, p) := atom p
  chain ['&', '&'] (fun a b => a && b) atom p.text.length v p

def or (atom : Parser → Option Bool × Parser) (p : Parser) : Option Bool × Parser :=
  let (v, p) := and atom p
  chain ['|', '|'] (fun a b => a || b) (and atom) p.text.length v p

-- The depth goes down again only where the atom was complete. `levels` is what is left of the 32.
def atom : Nat → Parser → Option Bool × Parser
  | 0, p => (none, { p with depth := p.depth + 1 })
  | levels + 1, p =>
    let p := { p with depth := p.depth + 1 }
    if 32 < p.depth then (none, p)
    else
      match p.eat ['!'] with
      | (true, p) =>
        let (v, p) := atom levels p
        (v.map fun v => !v, { p with depth := p.depth - 1 })
      | (false, p) =>
        match p.eat ['('] with
        | (true, p) =>
          let (v, p) := or (atom levels) p
          match p.eat [')'] with
          | (false, p) => (none, p)
          | (true, p) => (v, { p with depth := p.depth - 1 })
        | (false, p) =>
          let text := trimStart p.text
          let name := text.takeWhile isIdentifier
          if name = [] then (none, { p with text })
          else (symbol (String.ofList name), ⟨text.drop name.length, p.depth - 1⟩)

end Parser

def condition (expr : List Char) : Option Bool :=
  let (value, p) := Parser.or (Parser.atom 32) { text := expr }
  if trim p.text = [] then value else none

def Blank (text : List Char) : Prop := ∀ c ∈ text, isWhitespace c = true

inductive Level
  | atom
  | conjunction
  | disjunction

/-- The text of an expression with at most `depth` nested atoms, all of its names known. -/
inductive Derives : Level → Nat → List Char → Bool → Prop
  | identifier {depth : Nat} {blank name : List Char} {v : Bool} (blanks : Blank blank)
      (named : name ≠ []) (letters : ∀ c ∈ name, isIdentifier c = true)
      (known : symbol (String.ofList name) = some v) : Derives .atom (depth + 1) (blank ++ name) v
  | negation {depth : Nat} {blank text : List Char} {v : Bool} (blanks : Blank blank)
      (inner : Derives .atom depth text v) :
      Derives .atom (depth + 1) (blank ++ '!' :: text) (!v)
  | group {depth : Nat} {blank text closing : List Char} {v : Bool} (blanks : Blank blank)
      (inner : Derives .disjunction depth text v) (closes : Blank closing) :
      Derives .atom (depth + 1) (blank ++ '(' :: (text ++ (closing ++ [')']))) v
  | conjunct {depth : Nat} {text : List Char} {v : Bool} (inner : Derives .atom depth text v) :
      Derives .conjunction depth text v
  | and {depth : Nat} {left blank right : List Char} {v w : Bool}
      (first : Derives .conjunction depth left v) (blanks : Blank blank)
      (second : Derives .atom depth right w) :
      Derives .conjunction depth (left ++ (blank ++ (['&', '&'] ++ right))) (v && w)
  | disjunct {depth : Nat} {text : List Char} {v : Bool} (inner : Derives .conjunction depth text v) :
      Derives .disjunction depth text v
  | or {depth : Nat} {left blank right : List Char} {v w : Bool}
      (first : Derives .disjunction depth left v) (blanks : Blank blank)
      (second : Derives .conjunction depth right w) :
      Derives .disjunction depth (left ++ (blank ++ (['|', '|'] ++ right))) (v || w)

theorem trimStart_blank (blank text : List Char) (blanks : Blank blank) :
    trimStart (blank ++ text) = trimStart text :=
  List.dropWhile_append_of_pos blanks

theorem trimStart_solid (c : Char) (text : List Char) (solid : isWhitespace c = false) :
    trimStart (c :: text) = c :: text :=
  List.dropWhile_cons_of_neg (by simp [solid])

theorem trimStart_parts (text : List Char) :
    ∃ blank : List Char, Blank blank /\ text = blank ++ trimStart text :=
  ⟨text.takeWhile isWhitespace, fun _ => List.mem_takeWhile_imp,
    List.takeWhile_append_dropWhile.symm⟩

theorem trimStart_length (text : List Char) : (trimStart text).length <= text.length :=
  (List.dropWhile_sublist _).length_le

theorem trimStart_trimStart (text : List Char) : trimStart (trimStart text) = trimStart text :=
  List.dropWhile_idempotent isWhitespace text

theorem trim_blank_iff (text : List Char) : trim text = [] ↔ Blank text := by
  rw [trim, trimEnd, List.rdropWhile_eq_nil_iff]
  constructor
  · intro blanks
    obtain ⟨blank, first, parts⟩ := trimStart_parts text
    rw [parts]
    intro c member
    exact (List.mem_append.mp member).elim (first c) (blanks c)
  · exact fun blanks c member => blanks c ((List.dropWhile_sublist _).subset member)

theorem identifier_code (c : Char) (letter : isIdentifier c = true) :
    48 <= c.toNat /\ c.toNat <= 122 := by
  rcases Bool.or_eq_true_iff.mp letter with letter | letter
  · simp only [Char.isAlphanum, Char.isAlpha, Char.isUpper, Char.isLower, Char.isDigit,
      Bool.or_eq_true, Bool.and_eq_true, decide_eq_true_eq, UInt32.le_iff_toNat_le,
      ge_iff_le] at letter
    have code : c.toNat = c.val.toNat := rfl
    simp at letter
    omega
  · rw [beq_iff_eq.mp letter]
    decide

theorem identifier_solid (c : Char) (letter : isIdentifier c = true) : isWhitespace c = false := by
  obtain ⟨low, high⟩ := identifier_code c letter
  simp only [isWhitespace, Bool.or_eq_false_iff, Bool.and_eq_false_iff, decide_eq_false_iff_not,
    beq_eq_false_iff_ne]
  omega

namespace Parser

theorem eat_follows (token rest : List Char) (p : Parser) (follows : trimStart p.text = token ++ rest) :
    p.eat token = (true, { p with text := rest }) := by
  simp [eat, follows]

theorem eat_missing (token : List Char) (p : Parser) (missing : ¬token <+: trimStart p.text) :
    p.eat token = (false, { p with text := trimStart p.text }) := by
  simp [eat, missing]

theorem eat_cases (token : List Char) (p : Parser) :
    (∃ rest : List Char, trimStart p.text = token ++ rest /\
      p.eat token = (true, { p with text := rest })) \/
    ¬token <+: trimStart p.text /\ p.eat token = (false, { p with text := trimStart p.text }) := by
  by_cases follows : token <+: trimStart p.text
  · obtain ⟨rest, parts⟩ := follows
    exact Or.inl ⟨rest, parts.symm, eat_follows token rest p parts.symm⟩
  · exact Or.inr ⟨follows, eat_missing token p follows⟩

theorem eaten_length (token rest : List Char) (p : Parser)
    (follows : trimStart p.text = token ++ rest) : token.length + rest.length <= p.text.length := by
  rw [<- List.length_append, <- follows]
  exact trimStart_length p.text

def Shrinks (operand : Parser → Option Bool × Parser) : Prop :=
  ∀ p : Parser, (operand p).2.text.length ≤ p.text.length

section

variable (token : List Char) (combine : Bool → Bool → Bool)
  {operand : Parser → Option Bool × Parser}

theorem chain_missing (turns : Nat) (v : Option Bool) (p : Parser) (missing : ¬token <+: trimStart p.text) :
    chain token combine operand (turns + 1) v p = (v, { p with text := trimStart p.text }) := by
  rw [chain, eat_missing token p missing]

theorem chain_eaten (turns : Nat) (v : Option Bool) {p : Parser} {rest : List Char}
    (follows : trimStart p.text = token ++ rest) :
    chain token combine operand (turns + 1) v p =
      let read := operand { p with text := rest }
      chain token combine operand turns (Option.map₂ combine v read.1) read.2 := by
  rw [chain, eat_follows token rest p follows]

theorem chain_shrinks (shrinks : Shrinks operand) (turns : Nat) (v : Option Bool) (p : Parser) :
    (chain token combine operand turns v p).2.text.length <= p.text.length := by
  induction turns generalizing v p with
  | zero => exact Nat.le_refl _
  | succ turns ih =>
    rcases eat_cases token p with ⟨rest, follows, -⟩ | ⟨missing, -⟩
    · rw [chain_eaten token combine turns v follows]
      have shorter := eaten_length token rest p follows
      have read := shrinks { p with text := rest }
      have later := ih (Option.map₂ combine v (operand { p with text := rest }).1)
        (operand { p with text := rest }).2
      simp only at read ⊢
      omega
    · rw [chain_missing token combine turns v p missing]
      exact trimStart_length p.text

theorem chain_turns (nonempty : token ≠ []) (shrinks : Shrinks operand) (turns more : Nat)
    (v : Option Bool) (p : Parser) (enough : p.text.length <= turns) (also : p.text.length <= more) :
    chain token combine operand turns v p = chain token combine operand more v p := by
  have past (q : Parser) (v : Option Bool) (done : q.text.length <= 0) (other : Nat) :
      chain token combine operand other v q = (v, q) := by
    have empty : q.text = [] := List.length_eq_zero_iff.mp (Nat.le_zero.mp done)
    cases other with
    | zero => rfl
    | succ other =>
      have missing : ¬token <+: trimStart q.text := by
        rw [empty]
        exact fun follows => nonempty (List.prefix_nil.mp follows)
      rw [chain_missing token combine other v q missing, empty]
      cases q
      simp_all [trimStart]
  induction turns generalizing more v p with
  | zero => rw [past p v enough, past p v enough]
  | succ turns ih =>
    cases more with
    | zero => rw [past p v also, past p v also]
    | succ more =>
      rcases eat_cases token p with ⟨rest, follows, -⟩ | ⟨missing, -⟩
      · have shorter := eaten_length token rest p follows
        have some : 0 < token.length := List.length_pos_iff.mpr nonempty
        have read := shrinks { p with text := rest }
        rw [chain_eaten token combine turns v follows, chain_eaten token combine more v follows]
        refine ih _ _ _ ?_ ?_
        · simp only at read
          omega
        · simp only at read
          omega
      · rw [chain_missing token combine turns v p missing, chain_missing token combine more v p missing]

theorem chain_stops (nonempty : token ≠ []) (shrinks : Shrinks operand) (v : Option Bool)
    (p : Parser) (missing : ¬token <+: trimStart p.text) :
    chain token combine operand p.text.length v p = (v, { p with text := trimStart p.text }) := by
  rw [chain_turns token combine nonempty shrinks _ (p.text.length + 1) v p (Nat.le_refl _)
    (Nat.le_succ _), chain_missing token combine _ v p missing]

theorem chain_follows (nonempty : token ≠ []) (shrinks : Shrinks operand) (v : Option Bool)
    (p : Parser) (rest : List Char) (follows : trimStart p.text = token ++ rest) :
    let read := operand { p with text := rest }
    chain token combine operand p.text.length v p =
      chain token combine operand read.2.text.length (Option.map₂ combine v read.1) read.2 := by
  have shorter := eaten_length token rest p follows
  have some : 0 < token.length := List.length_pos_iff.mpr nonempty
  have read := shrinks { p with text := rest }
  obtain ⟨turns, length⟩ := Nat.exists_eq_add_of_lt (show 0 < p.text.length by omega)
  rw [length, Nat.zero_add, chain_eaten token combine _ v follows]
  refine chain_turns token combine nonempty shrinks _ _ _ _ ?_ (Nat.le_refl _)
  simp only at read
  omega

end

variable {operand : Parser → Option Bool × Parser}

theorem and_shrinks (shrinks : Shrinks operand) : Shrinks (Parser.and operand) :=
  fun p => (chain_shrinks _ _ shrinks _ _ _).trans (shrinks p)

theorem or_shrinks (shrinks : Shrinks operand) : Shrinks (Parser.or operand) :=
  fun p => (chain_shrinks _ _ (and_shrinks shrinks) _ _ _).trans (and_shrinks shrinks p)

theorem atom_deep (levels : Nat) (p : Parser) (deep : 32 <= p.depth) :
    atom levels p = (none, { p with depth := p.depth + 1 }) := by
  cases levels with
  | zero => rfl
  | succ levels => exact if_pos (Nat.lt_succ_of_le deep)

section

variable (levels : Nat) (p : Parser) (shallow : p.depth < 32)
include shallow

theorem atom_negation (rest : List Char) (follows : trimStart p.text = ['!'] ++ rest) :
    let inner := atom levels ⟨rest, p.depth + 1⟩
    atom (levels + 1) p =
      (inner.1.map fun v => !v, { inner.2 with depth := inner.2.depth - 1 }) := by
  have here : ¬32 < p.depth + 1 := by omega
  refine (if_neg here).trans ?_
  simp only [eat_follows ['!'] rest { p with depth := p.depth + 1 } follows]

theorem atom_group (rest : List Char) (follows : trimStart p.text = ['('] ++ rest) :
    let inner := Parser.or (atom levels) ⟨rest, p.depth + 1⟩
    atom (levels + 1) p =
      match inner.2.eat [')'] with
      | (false, p) => (none, p)
      | (true, p) => (inner.1, { p with depth := p.depth - 1 }) := by
  have here : ¬32 < p.depth + 1 := by omega
  have plain : ¬['!'] <+: trimStart p.text := by simp [follows]
  have again : trimStart (trimStart p.text) = ['('] ++ rest :=
    (trimStart_trimStart p.text).trans follows
  refine (if_neg here).trans ?_
  simp only [eat_missing ['!'] { p with depth := p.depth + 1 } plain,
    eat_follows ['('] rest ⟨trimStart p.text, p.depth + 1⟩ again]

theorem atom_name (noNegation : ¬['!'] <+: trimStart p.text) (noGroup : ¬['('] <+: trimStart p.text) :
    let name := (trimStart p.text).takeWhile isIdentifier
    atom (levels + 1) p =
      if name = [] then (none, ⟨trimStart p.text, p.depth + 1⟩)
      else (symbol (String.ofList name), ⟨(trimStart p.text).drop name.length, p.depth⟩) := by
  have here : ¬32 < p.depth + 1 := by omega
  have again : ¬['('] <+: trimStart (trimStart p.text) := by rwa [trimStart_trimStart]
  refine (if_neg here).trans ?_
  simp only [eat_missing ['!'] { p with depth := p.depth + 1 } noNegation,
    eat_missing ['('] ⟨trimStart p.text, p.depth + 1⟩ again, trimStart_trimStart, Nat.add_sub_cancel]

end

theorem atom_shrinks (levels : Nat) : Shrinks (atom levels) := by
  induction levels with
  | zero => exact fun p => Nat.le_refl _
  | succ levels ih =>
    intro p
    have trimmed := trimStart_length p.text
    by_cases shallow : p.depth < 32
    case neg => rw [atom_deep _ p (Nat.le_of_not_lt shallow)]
    case pos =>
      by_cases negation : ['!'] <+: trimStart p.text
      case pos =>
        obtain ⟨rest, parts⟩ := negation
        rw [atom_negation levels p shallow rest parts.symm]
        have shorter := eaten_length ['!'] rest p parts.symm
        have inner := ih ⟨rest, p.depth + 1⟩
        simp only at inner ⊢
        omega
      case neg =>
        by_cases group : ['('] <+: trimStart p.text
        case pos =>
          obtain ⟨rest, parts⟩ := group
          rw [atom_group levels p shallow rest parts.symm]
          have shorter := eaten_length ['('] rest p parts.symm
          have inner := or_shrinks ih ⟨rest, p.depth + 1⟩
          simp only at inner ⊢
          generalize Parser.or (atom levels) ⟨rest, p.depth + 1⟩ = read at inner ⊢
          rcases eat_cases [')'] read.2 with ⟨last, follows, eaten⟩ | ⟨-, eaten⟩
          · have closed := eaten_length [')'] last read.2 follows
            simp only [eaten]
            omega
          · have blanks := trimStart_length read.2.text
            simp only [eaten]
            omega
        case neg =>
          rw [atom_name levels p shallow negation group]
          split
          · exact trimmed
          · simp only [List.length_drop]
            omega

def NameEnds (rest : List Char) : Prop := ∀ c ∈ rest.head?, isIdentifier c = false

theorem nameEnds_blank (blank rest : List Char) (blanks : Blank blank) (c : Char)
    (first : isIdentifier c = false) : NameEnds (blank ++ c :: rest) := by
  cases blank with
  | nil => simpa [NameEnds] using first
  | cons head tail =>
    intro other same
    obtain rfl : head = other := by simpa using same
    by_contra letter
    have solid := identifier_solid head (by simpa using letter)
    simp [blanks head List.mem_cons_self] at solid

theorem name_read (name rest : List Char) (letters : ∀ c ∈ name, isIdentifier c = true)
    (ends : NameEnds rest) : (name ++ rest).takeWhile isIdentifier = name := by
  rw [List.takeWhile_append_of_pos letters]
  cases rest with
  | nil => simp
  | cons c rest => rw [List.takeWhile_cons_of_neg (by simp [ends c rfl]), List.append_nil]

def Reads : Level → Nat → List Char → Bool → Prop
  | .atom, depth, text, v => ∀ (levels : Nat) (p : Parser) (rest : List Char),
      depth ≤ levels → p.depth + depth ≤ 32 → p.text = text ++ rest → NameEnds rest →
      atom levels p = (some v, { p with text := rest })
  | .conjunction, depth, text, v => ∀ (levels : Nat) (p : Parser) (rest : List Char),
      depth ≤ levels → p.depth + depth ≤ 32 → p.text = text ++ rest → NameEnds rest →
      Parser.and (atom levels) p =
        chain ['&', '&'] (fun a b => a && b) (atom levels) rest.length (some v)
          { p with text := rest }
  | .disjunction, depth, text, v => ∀ (levels : Nat) (p : Parser) (rest : List Char),
      depth ≤ levels → p.depth + depth ≤ 32 → p.text = text ++ rest → NameEnds rest →
      ¬['&', '&'] <+: trimStart rest →
      Parser.or (atom levels) p =
        chain ['|', '|'] (fun a b => a || b) (Parser.and (atom levels)) (trimStart rest).length
          (some v) { p with text := trimStart rest }

theorem derives_reads {level : Level} {depth : Nat} {text : List Char} {v : Bool}
    (derives : Derives level depth text v) : Reads level depth text v := by
  induction derives with
  | @identifier depth blank name v blanks named letters known =>
    intro levels p rest fuel low own ends
    obtain ⟨levels, rfl⟩ := Nat.exists_eq_succ_of_ne_zero (show levels ≠ 0 by omega)
    obtain ⟨first, tail, rfl⟩ := List.exists_cons_of_ne_nil named
    have letter := letters first List.mem_cons_self
    have start : trimStart p.text = first :: tail ++ rest := by
      rw [own, List.append_assoc, trimStart_blank blank _ blanks]
      exact trimStart_solid first _ (identifier_solid first letter)
    have noNegation : ¬['!'] <+: trimStart p.text := by
      rw [start]
      rintro ⟨rest, same⟩
      obtain rfl : '!' = first := (List.cons.inj same).1
      exact absurd letter (by decide)
    have noGroup : ¬['('] <+: trimStart p.text := by
      rw [start]
      rintro ⟨rest, same⟩
      obtain rfl : '(' = first := (List.cons.inj same).1
      exact absurd letter (by decide)
    rw [atom_name levels p (by omega) noNegation noGroup, start, name_read _ rest letters ends,
      if_neg named, known, List.drop_left]
  | @negation depth blank text v blanks inner ih =>
    intro levels p rest fuel low own ends
    obtain ⟨levels, rfl⟩ := Nat.exists_eq_succ_of_ne_zero (show levels ≠ 0 by omega)
    have start : trimStart p.text = ['!'] ++ (text ++ rest) := by
      rw [own, List.append_assoc, trimStart_blank blank _ blanks]
      exact trimStart_solid '!' _ (by decide)
    rw [atom_negation levels p (by omega) _ start,
      ih levels ⟨text ++ rest, p.depth + 1⟩ rest (by omega) (by simp only; omega) rfl ends]
    rfl
  | @group depth blank text closing v blanks inner closes ih =>
    intro levels p rest fuel low own ends
    obtain ⟨levels, rfl⟩ := Nat.exists_eq_succ_of_ne_zero (show levels ≠ 0 by omega)
    let later := closing ++ ')' :: rest
    have start : trimStart p.text = ['('] ++ (text ++ later) := by
      rw [own, List.append_assoc, trimStart_blank blank _ blanks]
      simpa [later] using trimStart_solid '(' _ (by decide)
    have close : trimStart later = ')' :: rest := by
      rw [trimStart_blank closing _ closes]
      exact trimStart_solid ')' rest (by decide)
    have read := ih levels ⟨text ++ later, p.depth + 1⟩ later (by omega) (by simp only; omega) rfl
      (nameEnds_blank closing rest closes ')' (by decide)) (by simp [close])
    have again : trimStart (')' :: rest) = ')' :: rest := trimStart_solid ')' rest (by decide)
    rw [close, chain_stops _ _ (by simp) (and_shrinks (atom_shrinks levels)) _
      ⟨')' :: rest, p.depth + 1⟩ (by simp [again])] at read
    rw [atom_group levels p (by omega) _ start, read]
    simp only [again]
    rw [eat_follows [')'] rest ⟨')' :: rest, p.depth + 1⟩ again]
    rfl
  | conjunct inner ih =>
    intro levels p rest fuel low own ends
    rw [Parser.and, ih levels p rest fuel low own ends]
  | @and depth left blank right v w first blanks second firstReads secondReads =>
    intro levels p rest fuel low own ends
    let later := blank ++ (['&', '&'] ++ (right ++ rest))
    have follows : trimStart later = ['&', '&'] ++ (right ++ rest) := by
      rw [trimStart_blank blank _ blanks]
      exact trimStart_solid '&' _ (by decide)
    rw [firstReads levels p later fuel low (by simp [own, later])
      (nameEnds_blank blank _ blanks '&' (by decide)),
      chain_follows _ _ (by simp) (atom_shrinks levels) _ { p with text := later } _ follows,
      secondReads levels ⟨right ++ rest, p.depth⟩ rest fuel low rfl ends]
    rfl
  | @disjunct depth text v inner ih =>
    intro levels p rest fuel low own ends noAnd
    rw [Parser.or, ih levels p rest fuel low own ends,
      chain_stops _ _ (by simp) (atom_shrinks levels) _ { p with text := rest } noAnd]
  | @or depth left blank right v w first blanks second firstReads secondReads =>
    intro levels p rest fuel low own ends noAnd
    let later := blank ++ (['|', '|'] ++ (right ++ rest))
    have follows : trimStart later = ['|', '|'] ++ (right ++ rest) := by
      rw [trimStart_blank blank _ blanks]
      exact trimStart_solid '|' _ (by decide)
    have again := (trimStart_trimStart later).trans follows
    rw [firstReads levels p later fuel low (by simp [own, later])
      (nameEnds_blank blank _ blanks '|' (by decide)) (by simp [follows]),
      chain_follows _ _ (by simp) (and_shrinks (atom_shrinks levels)) _
        { p with text := trimStart later } _ again,
      secondReads levels ⟨right ++ rest, p.depth⟩ rest fuel low rfl ends,
      chain_stops _ _ (by simp) (atom_shrinks levels) _ ⟨rest, p.depth⟩ noAnd]
    rfl

def Sound (level : Level) (operand : Parser → Option Bool × Parser) : Prop :=
  ∀ (p after : Parser) (v : Bool), operand p = (some v, after) →
    ∃ text blank : List Char, p.text = text ++ (blank ++ after.text) ∧ Blank blank ∧
      Derives level (32 - p.depth) text v ∧ after.depth = p.depth

theorem chain_none (token : List Char) (combine : Bool -> Bool -> Bool)
    (operand : Parser -> Option Bool × Parser) (turns : Nat) (p : Parser) :
    (chain token combine operand turns none p).1 = none := by
  induction turns generalizing p with
  | zero => rfl
  | succ turns ih =>
    rcases eat_cases token p with ⟨rest, -, eaten⟩ | ⟨-, eaten⟩
    · simp only [chain, eaten, Option.map₂_none_left]
      exact ih _
    · simp only [chain, eaten]

theorem chain_sound {level inner : Level} {token : List Char} {combine : Bool -> Bool -> Bool} (sound : Sound inner operand)
    (rule : ∀ (depth : Nat) (left blank right : List Char) (v w : Bool), Derives level depth left v ->
      Blank blank -> Derives inner depth right w ->
      Derives level depth (left ++ (blank ++ (token ++ right))) (combine v w))
    (turns : Nat) (p after : Parser) (x v : Bool) (whole left blank : List Char)
    (read : whole = left ++ (blank ++ p.text)) (blanks : Blank blank)
    (derived : Derives level (32 - p.depth) left x)
    (answer : chain token combine operand turns (some x) p = (some v, after)) :
    ∃ text blank : List Char, whole = text ++ (blank ++ after.text) /\ Blank blank /\
      Derives level (32 - p.depth) text v /\ after.depth = p.depth := by
  induction turns generalizing p x left blank with
  | zero =>
    obtain ⟨same, rfl⟩ := Prod.mk.inj answer
    obtain rfl := Option.some.inj same
    exact ⟨left, blank, read, blanks, derived, rfl⟩
  | succ turns ih =>
    obtain ⟨gap, gapBlank, parts⟩ := trimStart_parts p.text
    have joined : Blank (blank ++ gap) := fun c member =>
      (List.mem_append.mp member).elim (blanks c) (gapBlank c)
    rcases eat_cases token p with ⟨rest, follows, eaten⟩ | ⟨-, eaten⟩
    · simp only [chain, eaten] at answer
      generalize operandRead : operand { p with text := rest } = result at answer
      obtain ⟨rhs, next⟩ := result
      cases rhs with
      | none =>
        have refused := chain_none token combine operand turns next
        simp only [Option.map₂_none_right] at answer
        rw [answer] at refused
        exact absurd refused (by simp)
      | some w =>
        obtain ⟨right, later, split, laterBlank, second, depth⟩ := sound _ _ _ operandRead
        simp only at split second depth
        simp only [Option.map₂_some_some] at answer
        have longer := rule _ left (blank ++ gap) right x w derived joined second
        obtain ⟨text, last, final, lastBlank, whole, same⟩ := ih next (combine x w) _ later
          (by rw [read, parts, follows, split]; simp) laterBlank (depth ▸ longer) answer
        exact ⟨text, last, final, lastBlank, depth ▸ whole, same.trans depth⟩
    · simp only [chain, eaten] at answer
      obtain ⟨same, rfl⟩ := Prod.mk.inj answer
      obtain rfl := Option.some.inj same
      exact ⟨left, blank ++ gap, by rw [read, List.append_assoc, <- parts], joined, derived, rfl⟩

theorem and_sound (sound : Sound .atom operand) : Sound .conjunction (Parser.and operand) := by
  intro p after v answer
  unfold Parser.and at answer
  generalize first : operand p = result at answer
  obtain ⟨x, next⟩ := result
  cases x with
  | none =>
    have refused := chain_none ['&', '&'] (fun a b => a && b) operand next.text.length next
    simp only at answer
    rw [answer] at refused
    exact absurd refused (by simp)
  | some x =>
    obtain ⟨text, blank, split, blanks, derived, depth⟩ := sound _ _ _ first
    obtain ⟨whole, last, final, lastBlank, all, same⟩ := chain_sound sound
      (fun _ _ _ _ _ _ => Derives.and) _ next after x v p.text text blank split blanks
      (depth ▸ .conjunct derived) answer
    exact ⟨whole, last, final, lastBlank, depth ▸ all, same.trans depth⟩

theorem or_sound (sound : Sound .atom operand) : Sound .disjunction (Parser.or operand) := by
  intro p after v answer
  unfold Parser.or at answer
  generalize first : Parser.and operand p = result at answer
  obtain ⟨x, next⟩ := result
  cases x with
  | none =>
    have refused := chain_none ['|', '|'] (fun a b => a || b) (Parser.and operand)
      next.text.length next
    simp only at answer
    rw [answer] at refused
    exact absurd refused (by simp)
  | some x =>
    obtain ⟨text, blank, split, blanks, derived, depth⟩ := and_sound sound _ _ _ first
    obtain ⟨whole, last, final, lastBlank, all, same⟩ := chain_sound (and_sound sound)
      (fun _ _ _ _ _ _ => Derives.or) _ next after x v p.text text blank split blanks
      (depth ▸ .disjunct derived) answer
    exact ⟨whole, last, final, lastBlank, depth ▸ all, same.trans depth⟩

theorem atom_sound (levels : Nat) : Sound .atom (atom levels) := by
  induction levels with
  | zero =>
    intro p after v answer
    simp [atom] at answer
  | succ levels ih =>
    intro p after v answer
    obtain ⟨blank, blanks, parts⟩ := trimStart_parts p.text
    by_cases shallow : p.depth < 32
    case neg =>
      rw [atom_deep _ p (Nat.le_of_not_lt shallow)] at answer
      simp at answer
    case pos =>
      have room : 32 - p.depth = (32 - (p.depth + 1)) + 1 := by omega
      by_cases negation : ['!'] <+: trimStart p.text
      case pos =>
        obtain ⟨rest, follows⟩ := negation
        rw [atom_negation levels p shallow rest follows.symm] at answer
        generalize read : atom levels ⟨rest, p.depth + 1⟩ = result at answer
        obtain ⟨inner, next⟩ := result
        obtain ⟨mapped, rfl⟩ := Prod.mk.inj answer
        obtain ⟨w, rfl, rfl⟩ := Option.map_eq_some_iff.mp mapped
        obtain ⟨text, gap, split, gapBlank, derived, depth⟩ := ih _ _ _ read
        simp only at split derived depth
        refine ⟨blank ++ '!' :: text, gap, ?_, gapBlank, room ▸ .negation blanks derived, ?_⟩
        · rw [parts, <- follows, split]
          simp
        · simp [depth]
      case neg =>
        by_cases group : ['('] <+: trimStart p.text
        case pos =>
          obtain ⟨rest, follows⟩ := group
          rw [atom_group levels p shallow rest follows.symm] at answer
          generalize read : Parser.or (atom levels) ⟨rest, p.depth + 1⟩ = result at answer
          obtain ⟨inner, next⟩ := result
          rcases eat_cases [')'] next with ⟨last, closes, eaten⟩ | ⟨-, eaten⟩
          · simp only [eaten] at answer
            obtain ⟨rfl, rfl⟩ := Prod.mk.inj answer
            obtain ⟨text, gap, split, gapBlank, derived, depth⟩ := or_sound ih _ _ _ read
            obtain ⟨closing, closingBlank, closingParts⟩ := trimStart_parts next.text
            simp only at split derived depth
            have joined : Blank (gap ++ closing) := fun c member =>
              (List.mem_append.mp member).elim (gapBlank c) (closingBlank c)
            refine ⟨blank ++ '(' :: (text ++ ((gap ++ closing) ++ [')'])), [], ?_,
              by simp [Blank], room ▸ .group blanks derived joined, ?_⟩
            · rw [parts, <- follows, split, closingParts, closes]
              simp
            · simp [depth]
          · simp only [eaten] at answer
            simp at answer
        case neg =>
          rw [atom_name levels p shallow negation group] at answer
          split at answer
          next => simp at answer
          next named =>
            obtain ⟨known, rfl⟩ := Prod.mk.inj answer
            refine ⟨blank ++ (trimStart p.text).takeWhile isIdentifier, [], ?_, by simp [Blank],
              room ▸ .identifier blanks named (fun _ => List.mem_takeWhile_imp) known, rfl⟩
            have whole := List.takeWhile_append_dropWhile (p := isIdentifier) (l := trimStart p.text)
            have rest := (congrArg (List.drop
              ((trimStart p.text).takeWhile isIdentifier).length) whole.symm).trans List.drop_left
            simp only [List.nil_append, rest, List.append_assoc, whole]
            exact parts

end Parser

variable {level : Level} {depth : Nat} {text : List Char} {v : Bool}

theorem Derives.blank
    (derives : Derives level depth text v) (blank : List Char) (blanks : Blank blank) :
    Derives level depth (blank ++ text) v := by
  have joined {other : List Char} (also : Blank other) : Blank (blank ++ other) := fun c member =>
    (List.mem_append.mp member).elim (blanks c) (also c)
  induction derives with
  | identifier own named letters known =>
    rw [<- List.append_assoc]
    exact .identifier (joined own) named letters known
  | negation own inner =>
    rw [<- List.append_assoc]
    exact .negation (joined own) inner
  | group own inner closes =>
    rw [<- List.append_assoc]
    exact .group (joined own) inner closes
  | conjunct _ ih => exact .conjunct ih
  | and _ own second ih =>
    rw [<- List.append_assoc]
    exact .and ih own second
  | disjunct _ ih => exact .disjunct ih
  | or _ own second ih =>
    rw [<- List.append_assoc]
    exact .or ih own second

theorem Derives.ends
    (derives : Derives level depth text v) :
    ∃ (init : List Char) (last : Char), text = init ++ [last] /\ isWhitespace last = false := by
  induction derives with
  | @identifier depth blank name v blanks named letters known =>
    refine ⟨blank ++ name.dropLast, name.getLast named, ?_, ?_⟩
    · rw [List.append_assoc, List.dropLast_append_getLast named]
    · exact identifier_solid _ (letters _ (List.getLast_mem named))
  | @negation depth blank text v blanks inner ih =>
    obtain ⟨init, last, rfl, solid⟩ := ih
    exact ⟨blank ++ '!' :: init, last, by simp, solid⟩
  | @group depth blank text closing v blanks inner closes ih =>
    exact ⟨blank ++ '(' :: (text ++ closing), ')', by simp, by decide⟩
  | conjunct _ ih => exact ih
  | @and depth left blank right v w first blanks second ihFirst ihSecond =>
    obtain ⟨init, last, rfl, solid⟩ := ihSecond
    exact ⟨left ++ (blank ++ (['&', '&'] ++ init)), last, by simp, solid⟩
  | disjunct _ ih => exact ih
  | @or depth left blank right v w first blanks second ihFirst ihSecond =>
    obtain ⟨init, last, rfl, solid⟩ := ihSecond
    exact ⟨left ++ (blank ++ (['|', '|'] ++ init)), last, by simp, solid⟩

theorem Derives.trimStart_append
    (derives : Derives level depth text v) (rest : List Char) :
    trimStart (text ++ rest) = trimStart text ++ rest := by
  obtain ⟨init, last, split, solid⟩ := derives.ends
  have solidLeft : trimStart text ≠ [] := by
    intro blank
    have all := List.dropWhile_eq_nil_iff.mp blank last (by simp [split])
    simp [solid] at all
  rw [trimStart, List.dropWhile_append, if_neg (by simpa [trimStart] using solidLeft)]
  rfl

theorem Derives.starts
    (derives : Derives level depth text v) : Derives level depth (trimStart text) v := by
  have none : Blank [] := by simp [Blank]
  induction derives with
  | @identifier depth blank name v blanks named letters known =>
    obtain ⟨first, tail, rfl⟩ := List.exists_cons_of_ne_nil named
    rw [trimStart_blank blank _ blanks,
      trimStart_solid first tail (identifier_solid first (letters first List.mem_cons_self))]
    exact .identifier none named letters known
  | @negation depth blank text v blanks inner ih =>
    rw [trimStart_blank blank _ blanks, trimStart_solid '!' _ (by decide)]
    exact .negation none inner
  | @group depth blank text closing v blanks inner closes ih =>
    rw [trimStart_blank blank _ blanks, trimStart_solid '(' _ (by decide)]
    exact .group none inner closes
  | conjunct _ ih => exact .conjunct ih
  | and first blanks second ih =>
    rw [first.trimStart_append]
    exact .and ih blanks second
  | disjunct _ ih => exact .disjunct ih
  | or first blanks second ih =>
    rw [first.trimStart_append]
    exact .or ih blanks second

theorem trim_parts (text : List Char) :
    ∃ before after : List Char, Blank before /\ Blank after /\ text = before ++ (trim text ++ after) := by
  obtain ⟨before, blanks, parts⟩ := trimStart_parts text
  refine ⟨before, (trimStart text).rtakeWhile isWhitespace, blanks, ?_, ?_⟩
  · exact fun c member => List.mem_rtakeWhile_imp member
  · rw [trim, trimEnd, List.rdropWhile_append_rtakeWhile]
    exact parts

theorem Derives.trim_append
    (derives : Derives level depth text v) (blank : List Char) (blanks : Blank blank) :
    trim (text ++ blank) = trimStart text := by
  obtain ⟨init, last, split, solid⟩ := derives.starts.ends
  rw [trim, derives.trimStart_append, trimEnd, List.rdropWhile, List.reverse_append,
    List.dropWhile_append_of_pos (fun c member => blanks c (List.mem_reverse.mp member)), split,
    List.reverse_append]
  simp [solid]

theorem condition_iff (expr : List Char) (v : Bool) :
    condition expr = some v ↔ Derives .disjunction 32 (trim expr) v := by
  constructor
  · intro answer
    unfold condition at answer
    generalize read : Parser.or (Parser.atom 32) { text := expr } = result at answer
    obtain ⟨value, after⟩ := result
    obtain ⟨rest, rfl⟩ := Option.ite_none_right_eq_some.mp answer
    obtain ⟨text, blank, split, blanks, derived, -⟩ :=
      Parser.or_sound (Parser.atom_sound 32) _ _ _ read
    have joined : Blank (blank ++ after.text) := fun c member =>
      (List.mem_append.mp member).elim (blanks c) ((trim_blank_iff _).mp rest c)
    simp only at split
    rw [split, derived.trim_append _ joined]
    exact derived.starts
  · intro derives
    obtain ⟨before, after, opening, closing, parts⟩ := trim_parts expr
    have ends : Parser.NameEnds after := by
      intro c first
      by_contra letter
      have solid := identifier_solid c (by simpa using letter)
      simp [closing c (List.mem_of_mem_head? first)] at solid
    have gone : trimStart after = [] := List.dropWhile_eq_nil_iff.mpr closing
    have read := Parser.derives_reads (derives.blank before opening) 32 { text := expr } after
      (Nat.le_refl _) (Nat.le_refl _) (by rw [List.append_assoc]; exact parts) ends (by simp [gone])
    rw [gone] at read
    simp only [condition, read]
    rfl

example : condition "!(env_chromium && cap_user_stylesheet)".toList = some false := by decide

end ChromiumHmos.Adblock.Preprocess
