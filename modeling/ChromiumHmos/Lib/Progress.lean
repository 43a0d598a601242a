import ChromiumHmos.Lib.Transition

set_option autoImplicit false

/-!
# Progress by turns

Something that waits stays at its stage until its turn comes, and its turn brings it nearer to its
end. Where every stage gets its turn, it ends.
-/

namespace Progress

open Transition

variable {σ α κ ρ : Type*} [Preorder ρ]

structure Turns (state : ℕ → σ) (op : ℕ → α) (goal : σ → Prop) (stage : κ → σ → Prop) (rank : κ → ρ)
    (turn : κ → α → Prop) : Prop where
  step : ∀ n k, stage k (state n) → goal (state (n + 1)) ∨
    (∃ k', rank k' < rank k ∧ stage k' (state (n + 1))) ∨
      (stage k (state (n + 1)) ∧ ¬ turn k (op n))
  fair : ∀ n k, stage k (state n) → ∃ m, n ≤ m ∧ turn k (op m)

variable {state : ℕ → σ} {op : ℕ → α} {goal : σ → Prop} {stage : κ → σ → Prop} {rank : κ → ρ}
  {turn : κ → α → Prop}

theorem Turns.falls (turns : Turns state op goal stage rank turn) (n gap : ℕ) {k : κ}
    (at_stage : stage k (state n)) (due : turn k (op (n + gap))) :
    ∃ m, n <= m /\ (goal (state m) \/ ∃ k', rank k' < rank k /\ stage k' (state m)) := by
  induction gap generalizing n with
  | zero =>
    rcases turns.step n k at_stage with reached | lower | ⟨-, other⟩
    · exact ⟨n + 1, Nat.le_succ n, .inl reached⟩
    · exact ⟨n + 1, Nat.le_succ n, .inr lower⟩
    · exact absurd due other
  | succ gap ih =>
    rcases turns.step n k at_stage with reached | lower | ⟨same, -⟩
    · exact ⟨n + 1, Nat.le_succ n, .inl reached⟩
    · exact ⟨n + 1, Nat.le_succ n, .inr lower⟩
    · rw [show n + (gap + 1) = n + 1 + gap by omega] at due
      obtain ⟨m, later, reached⟩ := ih (n + 1) same due
      exact ⟨m, by omega, reached⟩

theorem Turns.reaches [WellFoundedLT ρ] (turns : Turns state op goal stage rank turn) {n : ℕ} {k : κ}
    (at_stage : stage k (state n)) : ∃ m, n <= m /\ goal (state m) := by
  refine eventually_of_rank state goal (fun s r => ∃ k, rank k = r /\ stage k s) ?_ n (rank k)
    ⟨k, rfl, at_stage⟩
  rintro n r ⟨k, rfl, here⟩
  obtain ⟨l, le, due⟩ := turns.fair n k here
  obtain ⟨gap, rfl⟩ := Nat.exists_eq_add_of_le le
  obtain ⟨m, later, reached | ⟨k', lower, there⟩⟩ := turns.falls n gap here due
  · exact ⟨m, later, .inl reached⟩
  · exact ⟨m, later, .inr ⟨rank k', lower, k', rfl, there⟩⟩

section Rest

variable (next : σ → α → σ) (labels : List α) (idle : α)

/-- These labels, and then the idle one for ever. -/
def restLabel (n : ℕ) : α := labels.getD n idle

def restState (s : σ) : ℕ → σ
  | 0 => s
  | n + 1 => next (restState s n) (restLabel labels idle n)

variable {next labels idle}

theorem restState_early {s : σ} {n : ℕ} (early : n <= labels.length) :
    restState next labels idle s n = (labels.take n).foldl next s := by
  induction n with
  | zero => rfl
  | succ n ih =>
    have inside : n < labels.length := early
    rw [restState, ih inside.le, List.take_succ_eq_append_getElem inside, List.foldl_append, restLabel,
      List.getD_eq_getElem _ _ inside]
    rfl

theorem restState_late {s : σ} (fixed : next (labels.foldl next s) idle = labels.foldl next s) {n : ℕ}
    (late : labels.length <= n) : restState next labels idle s n = labels.foldl next s := by
  obtain ⟨gap, rfl⟩ := Nat.exists_eq_add_of_le late
  induction gap with
  | zero => rw [Nat.add_zero, restState_early le_rfl, List.take_length]
  | succ gap ih =>
    rw [<- Nat.add_assoc, restState, ih (Nat.le_add_right _ _), restLabel,
      List.getD_eq_default _ _ (Nat.le_add_right _ _)]
    exact fixed

theorem restState_always {s : σ} (fixed : next (labels.foldl next s) idle = labels.foldl next s) {holds : σ -> Prop}
    (early : ∀ n ≤ labels.length, holds (restState next labels idle s n)) (n : ℕ) :
    holds (restState next labels idle s n) := by
  rcases Nat.le_total n labels.length with inside | late
  · exact early n inside
  · rw [restState_late fixed late, <- restState_late fixed le_rfl]
    exact early _ le_rfl

theorem follows_get {allowed : σ -> α -> Prop} {s : σ} (follows : Follows allowed next s labels) {n : ℕ}
    (inside : n < labels.length) : allowed ((labels.take n).foldl next s) labels[n] := by
  induction labels generalizing s n with
  | nil => cases inside
  | cons label rest ih =>
    cases n with
    | zero => exact follows.1
    | succ n => exact ih follows.2 (Nat.lt_of_succ_lt_succ inside)

theorem rest_moves {allowed : σ -> α -> Prop} {s : σ} (follows : Follows allowed next s labels)
    (fixed : next (labels.foldl next s) idle = labels.foldl next s) (may : allowed (labels.foldl next s) idle) (n : ℕ) :
    guarded allowed next (restState next labels idle s n) (restLabel labels idle n)
      (restState next labels idle s (n + 1)) := by
  refine ⟨?_, rfl⟩
  rcases Nat.lt_or_ge n labels.length with early | late
  · rw [restState_early early.le, restLabel, List.getD_eq_getElem _ _ early]
    exact follows_get follows early
  · rw [restState_late fixed late, restLabel, List.getD_eq_default _ _ late]
    exact may

end Rest

end Progress
