import Mathlib

set_option autoImplicit false

/-!
# Loops that take turns

A loop over a state, each turn with what it does outside, for at most a given number of turns.
-/

namespace ChromiumHmos.Lib

variable {σ ε : Type*}

/-- `turn` is `none` where the loop ends. -/
def turns (turn : σ -> Option (σ × List ε)) : Nat -> σ -> σ × List ε
  | 0, state => (state, [])
  | count + 1, state =>
    match turn state with
    | none => (state, [])
    | some (after, effects) =>
      ((turns turn count after).1, effects ++ (turns turn count after).2)

variable {turn : σ -> Option (σ × List ε)}

theorem turns_preserve (turn : σ -> Option (σ × List ε)) (inv : σ -> List ε -> Prop)
    (preserved : ∀ state effects after more, inv state effects ->
      turn state = some (after, more) -> inv after (effects ++ more))
    (count : Nat) {state : σ} {effects : List ε} (initial : inv state effects) :
    inv (turns turn count state).1 (effects ++ (turns turn count state).2) := by
  induction count generalizing state effects with
  | zero =>
    rw [turns, List.append_nil]
    exact initial
  | succ count ih =>
    rw [turns]
    cases taken : turn state with
    | none =>
      dsimp only
      rw [List.append_nil]
      exact initial
    | some outcome =>
      obtain ⟨after, more⟩ := outcome
      dsimp only
      rw [<- List.append_assoc]
      exact ih (preserved state effects after more initial taken)

theorem turns_done {rank : σ -> Nat}
    (falls : ∀ state after more, turn state = some (after, more) -> rank after < rank state)
    (count : Nat) {state : σ} (enough : rank state <= count) :
    turn (turns turn count state).1 = none := by
  induction count generalizing state with
  | zero =>
    rw [turns, Option.eq_none_iff_forall_ne_some]
    rintro ⟨after, more⟩ taken
    have fallen := falls state after more taken
    omega
  | succ count ih =>
    rw [turns]
    cases taken : turn state with
    | none => exact taken
    | some outcome =>
      obtain ⟨after, more⟩ := outcome
      have fallen := falls state after more taken
      exact ih (by omega)

end ChromiumHmos.Lib
