import Mathlib

set_option autoImplicit false

/-!
# Labelled transition systems

Runs keep the state before every label, so a property of a whole history is a
property of the list a `Trace` carries.
-/

namespace Transition

variable {σ α : Type*}

/-- A partial function as a transition relation: `allowed` is the caller's promise. -/
def guarded (allowed : σ → α → Prop) (next : σ → α → σ) : σ → α → σ → Prop :=
  fun s a t => allowed s a ∧ t = next s a

inductive Trace (step : σ → α → σ → Prop) : σ → List (σ × α) → σ → Prop
  | nil (s : σ) : Trace step s [] s
  | cons {s u t : σ} {a : α} {rest : List (σ × α)}
      (first : step s a u) (tail : Trace step u rest t) : Trace step s ((s, a) :: rest) t

namespace Trace

variable {step : σ → α → σ → Prop}

variable {s t u : σ}

variable {first second : List (σ × α)}

theorem append
    (left : Trace step s first t) (right : Trace step t second u) :
    Trace step s (first ++ second) u := by
  induction left with
  | nil => exact right
  | cons moved _ ih => exact .cons moved (ih right)

variable {trace : List (σ × α)}

variable {a : α}

theorem snoc
    (run : Trace step s trace t) (moved : step t a u) : Trace step s (trace ++ [(t, a)]) u :=
  run.append (.cons moved (.nil u))

theorem split
    (run : Trace step s (first ++ second) u) :
    ∃ t, Trace step s first t /\ Trace step t second u := by
  induction first generalizing s with
  | nil => exact ⟨s, .nil s, run⟩
  | cons head rest ih =>
    cases run with
    | cons moved tail =>
      obtain ⟨t, left, right⟩ := ih tail
      exact ⟨t, .cons moved left, right⟩

theorem split_cons
    (run : Trace step s (first ++ (t, a) :: second) u) :
    ∃ v, Trace step s first t /\ step t a v /\ Trace step v second u := by
  obtain ⟨m, left, right⟩ := run.split
  cases right with
  | cons moved tail => exact ⟨_, left, moved, tail⟩

theorem preserves {inv : σ -> Prop} (preserved : ∀ s a t, inv s -> step s a t -> inv t)
    {s t : σ} {trace : List (σ × α)} (run : Trace step s trace t) (initial : inv s) : inv t := by
  induction run with
  | nil => exact initial
  | cons moved _ ih => exact ih (preserved _ _ _ initial moved)

theorem throughout {P : σ -> Prop} {Q : σ -> α -> Prop}
    (preserved : ∀ s a t, P s -> Q s a -> step s a t -> P t)
    (run : Trace step s trace t) (each : ∀ entry ∈ trace, Q entry.1 entry.2) (initial : P s) :
    (∀ entry ∈ trace, P entry.1) /\ P t := by
  induction run with
  | nil => exact ⟨by simp, initial⟩
  | @cons s u t a rest moved _ ih =>
    obtain ⟨entries, final⟩ := ih (fun entry mem => each entry (List.mem_cons_of_mem _ mem))
      (preserved s a u initial (each (s, a) List.mem_cons_self) moved)
    refine ⟨fun entry mem => ?_, final⟩
    rcases List.mem_cons.mp mem with rfl | later
    · exact initial
    · exact entries entry later

theorem later {inv : σ -> Prop} (kept : α -> Prop) (rel : σ -> σ -> Prop) (refl : ∀ s, rel s s)
    (trans : ∀ s t u, rel s t -> rel t u -> rel s u)
    (preserved : ∀ s a t, inv s -> step s a t -> inv t)
    (related : ∀ s a t, inv s -> kept a -> step s a t -> rel s t) (run : Trace step s trace t)
    (labels : ∀ entry ∈ trace, kept entry.2) (initial : inv s) :
    (∀ entry ∈ trace, rel s entry.1 /\ inv entry.1) /\ rel s t /\ inv t := by
  induction run with
  | nil s => exact ⟨by simp, refl s, initial⟩
  | @cons s u t a rest moved _ ih =>
    have first := related s a u initial (labels (s, a) List.mem_cons_self) moved
    obtain ⟨entries, last, final⟩ := ih (fun entry mem => labels entry (List.mem_cons_of_mem _ mem))
      (preserved s a u initial moved)
    refine ⟨fun entry mem => ?_, trans _ _ _ first last, final⟩
    rcases List.mem_cons.mp mem with rfl | mem
    · exact ⟨refl s, initial⟩
    · exact ⟨trans _ _ _ first (entries entry mem).1, (entries entry mem).2⟩

theorem history_from {P : List (σ × α) -> σ -> Prop}
    (preserved : ∀ trace t a u, P trace t -> step t a u -> P (trace ++ [(t, a)]) u) {prior : List (σ × α)} (initial : P prior s)
    (run : Trace step s trace t) : P (prior ++ trace) t := by
  induction run generalizing prior with
  | nil => simpa using initial
  | cons moved _ ih =>
    have next := ih (preserved _ _ _ _ initial moved)
    simpa using next

theorem history {P : List (σ × α) -> σ -> Prop}
    (preserved : ∀ trace t a u, P trace t -> step t a u -> P (trace ++ [(t, a)]) u) (initial : P [] s)
    (run : Trace step s trace t) : P trace t := by
  simpa using history_from preserved initial run

end Trace

/-- The labels a partial function may take one after another. -/
def Follows (allowed : σ → α → Prop) (next : σ → α → σ) : σ → List α → Prop
  | _, [] => True
  | s, a :: rest => allowed s a ∧ Follows allowed next (next s a) rest

instance decidableFollows (allowed : σ → α → Prop) (next : σ → α → σ) [∀ s a, Decidable (allowed s a)] :
    (s : σ) → (labels : List α) → Decidable (Follows allowed next s labels)
  | _, [] => isTrue trivial
  | s, a :: rest =>
    have : Decidable (Follows allowed next (next s a) rest) := decidableFollows _ _ _ rest
    inferInstanceAs (Decidable (allowed s a ∧ Follows allowed next (next s a) rest))

variable {next : σ → α → σ} {s : σ}

theorem Follows.trace {allowed : σ -> α -> Prop} {labels : List α}
    (follows : Follows allowed next s labels) :
    ∃ trace : List (σ × α), Trace (guarded allowed next) s trace (labels.foldl next s) /\
      trace.map Prod.snd = labels := by
  induction labels generalizing s with
  | nil => exact ⟨[], .nil s, rfl⟩
  | cons a rest ih =>
    obtain ⟨trace, run, same⟩ := ih follows.2
    exact ⟨(s, a) :: trace, .cons ⟨follows.1, rfl⟩ run, by simp [same]⟩

theorem follows_append {allowed : σ -> α -> Prop} (first second : List α) :
    Follows allowed next s (first ++ second) ↔
      Follows allowed next s first /\ Follows allowed next (first.foldl next s) second := by
  induction first generalizing s with
  | nil => simp [Follows]
  | cons a rest ih => simp only [List.cons_append, Follows, List.foldl_cons, ih, and_assoc]

theorem Follows.and {allowed admitted : σ -> α -> Prop} {next : σ -> α -> σ} {s : σ} {labels : List α}
    (left : Follows allowed next s labels) (right : Follows admitted next s labels) :
    Follows (fun s a => allowed s a /\ admitted s a) next s labels := by
  induction labels generalizing s with
  | nil => trivial
  | cons a rest ih => exact ⟨⟨left.1, right.1⟩, ih left.2 right.2⟩

theorem Follows.preserves {allowed : σ -> α -> Prop} {next : σ -> α -> σ} {inv : σ -> Prop}
    (preserved : ∀ s a, inv s -> allowed s a -> inv (next s a)) {s : σ} {labels : List α}
    (follows : Follows allowed next s labels) (initial : inv s) : inv (labels.foldl next s) := by
  induction labels generalizing s with
  | nil => exact initial
  | cons a rest ih => exact ih follows.2 (preserved s a initial follows.1)

theorem eventually_of_rank {κ : Type*} [Preorder κ] [WellFoundedLT κ] (state : ℕ -> σ)
    (goal : σ -> Prop) (ranked : σ -> κ -> Prop)
    (falls : ∀ n r, ranked (state n) r ->
      ∃ m, n <= m /\ (goal (state m) \/ ∃ r', r' < r /\ ranked (state m) r'))
    (n : ℕ) (r : κ) (start : ranked (state n) r) : ∃ m, n <= m /\ goal (state m) := by
  induction r using WellFoundedLT.induction generalizing n with
  | ind r ih =>
    obtain ⟨m, later, reached | ⟨r', lower, ranked'⟩⟩ := falls n r start
    · exact ⟨m, later, reached⟩
    · obtain ⟨k, later', reached⟩ := ih r' lower m ranked'
      exact ⟨k, le_trans later later', reached⟩

end Transition
