import Mathlib

set_option autoImplicit false

/-!
# Histories

A log grows at its end. What holds of every event and of the events before it is kept by an
extension whose new events have it too.
-/

namespace History

variable {ε : Type*}

/-- Each event of the log has `check`, given the events before it. -/
def Throughout (check : List ε → ε → Prop) (log : List ε) : Prop :=
  ∀ before event after, log = before ++ event :: after → check before event

theorem Throughout.nil (check : List ε -> ε -> Prop) : Throughout check [] := by
  intro before event after split
  simp at split

variable {log : List ε} {event : ε}

theorem throughout_snoc {check : List ε -> ε -> Prop} :
    Throughout check (log ++ [event]) ↔ Throughout check log /\ check log event := by
  constructor
  · intro all
    refine ⟨fun before other after split => ?_, all log event [] rfl⟩
    exact all before other (after ++ [event]) (by simp [split])
  · rintro ⟨old, new⟩ before other after split
    rcases List.eq_nil_or_concat after with rfl | ⟨rest, last, rfl⟩
    · obtain ⟨rfl, same⟩ := List.append_inj' split rfl
      obtain rfl := List.singleton_inj.mp same
      exact new
    · rw [List.concat_eq_append, <- List.cons_append, <- List.append_assoc] at split
      exact old before other rest (List.append_inj' split rfl).1

theorem Throughout.snoc {check : List ε -> ε -> Prop} (old : Throughout check log) (new : check log event) : Throughout check (log ++ [event]) :=
  throughout_snoc.mpr ⟨old, new⟩

theorem Throughout.append {check : List ε -> ε -> Prop} (old : Throughout check log)
    (more : List ε) (new : ∀ before, ∀ event ∈ more, check before event) :
    Throughout check (log ++ more) := by
  induction more using List.reverseRecOn with
  | nil => simpa using old
  | append_singleton rest event ih =>
    rw [<- List.append_assoc]
    refine (ih fun before other mem => new before other (List.mem_append_left _ mem)).snoc ?_
    exact new _ event (List.mem_append_right _ (List.mem_singleton_self event))

/-- The event, and since then only what is quiet. -/
def Latest (quiet : ε → Prop) (log : List ε) (event : ε) : Prop :=
  ∃ before since, log = before ++ event :: since ∧ ∀ later ∈ since, quiet later

theorem latest_snoc (quiet : ε -> Prop) (log : List ε) (event : ε) :
    Latest quiet (log ++ [event]) event :=
  ⟨log, [], rfl, by simp⟩

theorem Latest.snoc {quiet : ε -> Prop} (latest : Latest quiet log event)
    {other : ε} (still : quiet other) : Latest quiet (log ++ [other]) event := by
  obtain ⟨before, since, rfl, silent⟩ := latest
  refine ⟨before, since ++ [other], by simp, fun later mem => ?_⟩
  rcases List.mem_append.mp mem with mem | mem
  · exact silent later mem
  · exact List.mem_singleton.mp mem ▸ still

theorem Latest.mem {quiet : ε -> Prop} (latest : Latest quiet log event) : event ∈ log := by
  obtain ⟨before, since, rfl, -⟩ := latest
  simp

end History
