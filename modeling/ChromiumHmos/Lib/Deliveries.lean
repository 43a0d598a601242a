import Mathlib

set_option autoImplicit false

/-!
# Events delivered to subscriptions

An event is announced to the subscriptions of the moment. For each a task waits, which finds the
subscription alive or gone when it runs.
-/

namespace ChromiumHmos.Lib

structure Deliveries where
  -- how many events there have been
  events : ℕ := 0
  -- each event with each subscription it was announced to
  targets : List (ℕ × ℕ) := []
  tasks : List (ℕ × ℕ) := []
  -- the tasks that have run, and whether the subscription was alive
  ran : List ((ℕ × ℕ) × Bool) := []

namespace Deliveries

def announce (s : Deliveries) (subscriptions : List ℕ) : Deliveries :=
  { s with
    events := s.events + 1
    targets := s.targets ++ subscriptions.map fun subscription => (s.events, subscription)
    tasks := s.tasks ++ subscriptions.map fun subscription => (s.events, subscription) }

def run (s : Deliveries) (index : ℕ) (alive : ℕ -> Bool) : Deliveries :=
  match s.tasks[index]? with
  | none => s
  | some task => { s with tasks := s.tasks.eraseIdx index, ran := s.ran ++ [(task, alive task.2)] }

structure Sound (s : Deliveries) : Prop where
  all : (s.tasks ++ s.ran.map Prod.fst).Perm s.targets
  distinct : s.targets.Nodup
  bounded : forall target, target ∈ s.targets -> target.1 < s.events

theorem sound_initial : Sound {} := ⟨.nil, List.nodup_nil, fun _ member => absurd member List.not_mem_nil⟩

variable {s : Deliveries}

theorem Sound.announce (sound : Sound s) {subscriptions : List ℕ} (distinct : subscriptions.Nodup) :
    Sound (s.announce subscriptions) := by
  refine ⟨?_, ?_, ?_⟩
  · have moved : (s.tasks ++ subscriptions.map (fun subscription => (s.events, subscription)) ++
        s.ran.map Prod.fst).Perm
        (s.tasks ++ s.ran.map Prod.fst ++ subscriptions.map fun subscription => (s.events, subscription)) := by
      rw [List.append_assoc, List.append_assoc]
      exact List.perm_append_comm.append_left _
    exact moved.trans (sound.all.append_right _)
  · refine List.nodup_append.mpr ⟨sound.distinct, ?_, ?_⟩
    · exact distinct.map fun first second same => (Prod.mk.inj same).2
    · intro target before other new same
      obtain ⟨subscription, -, rfl⟩ := List.mem_map.mp new
      have early := sound.bounded target before
      rw [same] at early
      exact Nat.lt_irrefl _ early
  · intro target member
    rcases List.mem_append.mp member with before | new
    · exact (sound.bounded target before).trans (Nat.lt_succ_self _)
    · obtain ⟨subscription, -, rfl⟩ := List.mem_map.mp new
      exact Nat.lt_succ_self _

theorem Sound.run (sound : Sound s) (index : ℕ) (alive : ℕ -> Bool) : Sound (s.run index alive) := by
  unfold Deliveries.run
  split
  next => exact sound
  next task found =>
    obtain ⟨inside, at_index⟩ := List.getElem?_eq_some_iff.mp found
    have split : s.tasks.Perm (task :: s.tasks.eraseIdx index) := by
      rw [<- at_index]
      exact (List.getElem_cons_eraseIdx_perm inside).symm
    refine ⟨List.Perm.trans ?_ sound.all, sound.distinct, sound.bounded⟩
    have back : (s.tasks.eraseIdx index ++ (s.ran.map Prod.fst ++ [task])).Perm
        (task :: (s.tasks.eraseIdx index ++ s.ran.map Prod.fst)) := by
      rw [<- List.append_assoc]
      exact List.perm_append_singleton _ _
    have whole := back.trans (split.append_right (s.ran.map Prod.fst)).symm
    simpa using whole

end Deliveries

end ChromiumHmos.Lib
