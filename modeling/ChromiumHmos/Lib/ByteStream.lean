import Mathlib

set_option autoImplicit false

/-!
# Byte streams

Reads and writes of a stream socket: one call moves at least one byte and at most what it was asked
for, and where the stream has ended it moves none.
-/

namespace ChromiumHmos.Lib

def asciiBytes (text : String) : List UInt8 :=
  text.toList.map fun letter => UInt8.ofNat letter.toNat

/-- The bytes still to come before the stream ends, and how many each read gives. -/
structure Incoming where
  bytes : List UInt8
  chunk : Nat -> Nat
  reads : Nat

def Incoming.recv (stream : Incoming) (limit : Nat) : List UInt8 × Incoming :=
  let size := min (max 1 (stream.chunk stream.reads)) limit
  (stream.bytes.take size,
    { stream with bytes := stream.bytes.drop size, reads := stream.reads + 1 })

variable (stream : Incoming)

theorem recv_append (limit : Nat) :
    (stream.recv limit).1 ++ (stream.recv limit).2.bytes = stream.bytes :=
  List.take_append_drop _ _

theorem recv_length_le (limit : Nat) : (stream.recv limit).1.length <= limit := by
  simp only [Incoming.recv, List.length_take]
  omega

theorem recv_eq_nil {limit : Nat} (asked : 0 < limit) :
    (stream.recv limit).1 = [] ↔ stream.bytes = [] := by
  have some : min (max 1 (stream.chunk stream.reads)) limit ≠ 0 := by omega
  simp [Incoming.recv, List.take_eq_nil_iff, some]

theorem recv_chunk (limit : Nat) :
    (stream.recv limit).2.chunk = stream.chunk := rfl

def Incoming.exactly (stream : Incoming) (size : Nat) : Option (List UInt8) × Incoming :=
  if size = 0 then (some [], stream)
  else
    match stream.recv size with
    | (part, after) =>
      if _empty : part = [] then (none, after)
      else
        match after.exactly (size - part.length) with
        | (none, last) => (none, last)
        | (some rest, last) => (some (part ++ rest), last)
termination_by size
decreasing_by
  have some : 0 < part.length := List.length_pos_of_ne_nil _empty
  omega

theorem exactly_some (size : Nat) (enough : size <= stream.bytes.length) :
    (stream.exactly size).1 = some (stream.bytes.take size) /\
      (stream.exactly size).2.bytes = stream.bytes.drop size /\
      (stream.exactly size).2.chunk = stream.chunk := by
  induction size using Nat.strong_induction_on generalizing stream with
  | _ size ih =>
    by_cases none : size = 0
    · subst none
      rw [Incoming.exactly]
      simp
    · have parts := recv_append stream size
      have bound := recv_length_le stream size
      have filled := recv_eq_nil stream (Nat.pos_of_ne_zero none)
      have kept := recv_chunk stream size
      rw [Incoming.exactly]
      simp only [none, if_false]
      generalize stream.recv size = received at parts bound filled kept
      obtain ⟨part, after⟩ := received
      simp only at parts bound filled kept ⊢
      have nonempty : part ≠ [] := by
        intro empty
        rw [filled.mp empty] at enough
        simp at enough
        exact none enough
      have positive := List.length_pos_of_ne_nil nonempty
      have total : part.length + after.bytes.length = stream.bytes.length := by
        rw [<- parts, List.length_append]
      obtain ⟨rest, left, chunk⟩ := ih (size - part.length) (by omega) after (by omega)
      have whole : part ++ after.bytes.take (size - part.length) = stream.bytes.take size := by
        rw [<- parts, List.take_append, List.take_of_length_le bound]
      have remaining : after.bytes.drop (size - part.length) = stream.bytes.drop size := by
        rw [<- parts, List.drop_append, List.drop_of_length_le bound, List.nil_append]
      simp only [nonempty, dite_false]
      generalize after.exactly (size - part.length) = result at rest left chunk
      obtain ⟨read, last⟩ := result
      simp only at rest left chunk
      subst rest
      exact ⟨congrArg _ whole, left.trans remaining, chunk.trans kept⟩

theorem exactly_none (size : Nat) (short : stream.bytes.length < size) :
    (stream.exactly size).1 = none := by
  induction size using Nat.strong_induction_on generalizing stream with
  | _ size ih =>
    have parts := recv_append stream size
    have bound := recv_length_le stream size
    rw [Incoming.exactly]
    simp only [show size ≠ 0 by omega, if_false]
    generalize stream.recv size = received at parts bound
    obtain ⟨part, after⟩ := received
    simp only at parts bound ⊢
    by_cases empty : part = []
    · simp [empty]
    · have positive := List.length_pos_of_ne_nil empty
      have total : part.length + after.bytes.length = stream.bytes.length := by
        rw [<- parts, List.length_append]
      have failed := ih (size - part.length) (by omega) after (by omega)
      simp only [empty, dite_false]
      generalize after.exactly (size - part.length) = result at failed
      obtain ⟨read, last⟩ := result
      simp only at failed
      subst failed
      rfl

theorem exactly_read {stream after : Incoming} {size : Nat} {part : List UInt8}
    (read : stream.exactly size = (some part, after)) :
    part.length = size /\ stream.bytes = part ++ after.bytes := by
  by_cases short : stream.bytes.length < size
  · have failed := exactly_none stream size short
    rw [read] at failed
    cases failed
  · obtain ⟨got, left, _⟩ := exactly_some stream size (by omega)
    rw [read] at got left
    simp only [Option.some.injEq] at got left
    subst got
    refine ⟨by rw [List.length_take]; omega, ?_⟩
    rw [left, List.take_append_drop]

/-- How many bytes each call of `send` takes; `none` is an error. -/
abbrev Acceptance := Nat -> Option Nat

-- Whether all was sent, and what was.
def sendAll (accept : Acceptance) (calls : Nat) (data : List UInt8) : Bool × List UInt8 :=
  if _empty : data = [] then (true, [])
  else
    match accept calls with
    | none => (false, [])
    | some count =>
      let size := max 1 count
      let rest := sendAll accept (calls + 1) (data.drop size)
      (rest.1, data.take size ++ rest.2)
termination_by data.length
decreasing_by
  have some : 0 < data.length := List.length_pos_of_ne_nil _empty
  simp only [List.length_drop]
  omega

theorem sendAll_sent (accept : Acceptance) (calls : Nat) (data : List UInt8)
    (sent : (sendAll accept calls data).1 = true) : (sendAll accept calls data).2 = data := by
  induction data using (measure List.length).wf.induction generalizing calls with
  | _ data ih =>
    rw [sendAll] at sent ⊢
    by_cases empty : data = []
    · simp [empty]
    · simp only [empty, dite_false] at sent ⊢
      cases taken : accept calls with
      | none => simp [taken] at sent
      | some count =>
        simp only [taken] at sent ⊢
        have positive := List.length_pos_of_ne_nil empty
        have shorter : (data.drop (max 1 count)).length < data.length := by
          simp only [List.length_drop]
          omega
        rw [ih _ shorter (calls + 1) sent, List.take_append_drop]

end ChromiumHmos.Lib
