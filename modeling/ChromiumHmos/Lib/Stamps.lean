import Mathlib

set_option autoImplicit false

/-!
# Values found again by increasing stamps

A table of values by stamp, for items that come back in the order of their stamps, some of them
never.
-/

namespace ChromiumHmos.Lib

variable {κ β : Type*} [LinearOrder κ]

def record (stamp : κ) (value : β) (entries : List (κ × β)) : List (κ × β) :=
  (stamp, value) :: entries.filter fun entry => entry.1 ≠ stamp

/-- The entries up to a stamp go. -/
def forget (stamp : κ) (entries : List (κ × β)) : List (κ × β) :=
  entries.filter fun entry => stamp < entry.1

theorem lookup_filter {entries : List (κ × β)} (keep : κ -> Prop) [DecidablePred keep] {stamp : κ}
    (kept : keep stamp) :
    (entries.filter fun entry => keep entry.1).lookup stamp = entries.lookup stamp := by
  induction entries with
  | nil => rfl
  | cons entry rest ih =>
    obtain ⟨own, value⟩ := entry
    by_cases same : stamp = own
    · subst same
      rw [List.filter_cons, if_pos (decide_eq_true kept), List.lookup_cons_self,
        List.lookup_cons_self]
    · have apart : (stamp == own) = false := beq_eq_false_iff_ne.mpr same
      rw [List.lookup_cons, apart, List.filter_cons]
      split
      · rw [List.lookup_cons, apart]
        exact ih
      · exact ih

theorem lookup_record_self (stamp : κ) (value : β) (entries : List (κ × β)) :
    (record stamp value entries).lookup stamp = some value := by
  rw [record, List.lookup_cons_self]

theorem lookup_record_ne {stamp other : κ} (apart : other ≠ stamp) (value : β)
    (entries : List (κ × β)) : (record stamp value entries).lookup other = entries.lookup other := by
  rw [record, List.lookup_cons, beq_eq_false_iff_ne.mpr apart]
  exact lookup_filter (fun key => key ≠ stamp) apart

/-- The items under way, in the order of their stamps, each found in the table. -/
structure Recorded (entries : List (κ × β)) (flight : List (κ × β)) : Prop where
  ordered : flight.Pairwise fun first second => first.1 < second.1
  found : forall item, item ∈ flight -> entries.lookup item.1 = some item.2

variable {entries flight : List (κ × β)}

theorem Recorded.sublist {fewer : List (κ × β)} (recorded : Recorded entries flight)
    (sub : fewer.Sublist flight) : Recorded entries fewer :=
  ⟨recorded.ordered.sublist sub, fun item member => recorded.found item (sub.mem member)⟩

theorem Recorded.record {stamp : κ} {value : β} (recorded : Recorded entries flight)
    (later : ∀ item ∈ flight, item.1 < stamp) :
    Recorded (Lib.record stamp value entries) (flight ++ [(stamp, value)]) := by
  refine ⟨List.pairwise_append.mpr ⟨recorded.ordered, List.pairwise_singleton _ _, ?_⟩, ?_⟩
  · intro item member other last
    rw [List.mem_singleton.mp last]
    exact later item member
  · intro item member
    rcases List.mem_append.mp member with before | last
    · rw [lookup_record_ne (later item before).ne]
      exact recorded.found item before
    · rw [List.mem_singleton.mp last]
      exact lookup_record_self stamp value entries

theorem Recorded.forget {item : κ × β} (recorded : Recorded entries (item :: flight)) :
    Recorded (Lib.forget item.1 entries) flight := by
  obtain ⟨after, rest⟩ := List.pairwise_cons.mp recorded.ordered
  refine ⟨rest, fun other member => ?_⟩
  rw [Lib.forget, lookup_filter (fun key => item.1 < key) (after other member)]
  exact recorded.found other (List.mem_cons_of_mem _ member)

end ChromiumHmos.Lib
