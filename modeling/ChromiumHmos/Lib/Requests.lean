import ChromiumHmos.Lib.Mailbox
import ChromiumHmos.Lib.Ledger

set_option autoImplicit false

/-!
# Requests answered under their numbers

Callers ask from their own sequences. A request waits under a number until something ends it; then its
answer is on its way, and posted to the caller last.
-/

namespace ChromiumHmos.Lib

open Mailbox

variable {κ R : Type*}

/-- Who asked, with which callback, and what carries the request. -/
structure Request (κ : Type*) where
  caller : ℕ
  callback : ℕ
  carrier : κ

/-- What a callback is called with; `replyTo` is the number the reply came under, if it is one. -/
structure Answer (R : Type*) where
  caller : ℕ
  callback : ℕ
  replyTo : Option ℕ
  reply : R

structure Requests (κ R : Type*) where
  -- the callers, by the number of their callback
  calls : List ℕ := []
  nextId : ℕ := 0
  pending : List (ℕ × Request κ) := []
  -- taken out, not posted yet
  outgoing : List (Answer R) := []
  posted : List (Answer R) := []
  -- every request ever made
  registered : List (ℕ × Request κ) := []

namespace Requests

def register (s : Requests κ R) (caller : ℕ) (carrier : κ) : Requests κ R :=
  { s with
    calls := s.calls ++ [caller]
    nextId := s.nextId + 1
    pending := s.pending ++ [(s.nextId + 1, ⟨caller, s.calls.length, carrier⟩)]
    registered := s.registered ++ [(s.nextId + 1, ⟨caller, s.calls.length, carrier⟩)] }

def refuse (s : Requests κ R) (caller : ℕ) (reply : R) : Requests κ R :=
  { s with calls := s.calls ++ [caller], outgoing := s.outgoing ++ [⟨caller, s.calls.length, none, reply⟩] }

def complete (s : Requests κ R) (id : ℕ) (replyTo : Option ℕ) (reply : R) : Requests κ R :=
  match s.pending.lookup id with
  | none => s
  | some request =>
    { s with
      pending := take s.pending id
      outgoing := s.outgoing ++ [⟨request.caller, request.callback, replyTo, reply⟩] }

def failAll (s : Requests κ R) (reply : R) : Requests κ R :=
  { s with
    pending := []
    outgoing := s.outgoing ++ s.pending.map fun entry => ⟨entry.2.caller, entry.2.callback, none, reply⟩ }

def post (s : Requests κ R) (index : ℕ) : Requests κ R :=
  match s.outgoing[index]? with
  | none => s
  | some answer => { s with outgoing := s.outgoing.eraseIdx index, posted := s.posted ++ [answer] }

def held (s : Requests κ R) : List ℕ :=
  s.pending.map (fun entry => entry.2.callback) ++ s.outgoing.map fun answer => answer.callback

/-- Whether an answer is what its caller may be told: the reply to its own request, or a failure. -/
structure Fits (failure : R -> Prop) (s : Requests κ R) (answer : Answer R) : Prop where
  caller : s.calls[answer.callback]? = some answer.caller
  own : forall id, answer.replyTo = some id -> exists carrier, (id, ⟨answer.caller, answer.callback, carrier⟩) ∈ s.registered
  failed : answer.replyTo = none -> failure answer.reply

structure Sound (failure : R -> Prop) (s : Requests κ R) : Prop where
  accounted : Accounted s.held (s.posted.map fun answer => answer.callback) s.calls.length
  numbered : (s.registered.map Prod.fst).Nodup
  bounded : forall entry, entry ∈ s.registered -> 0 < entry.1 /\ entry.1 <= s.nextId
  known : s.pending.Sublist s.registered
  callers : forall entry, entry ∈ s.registered -> s.calls[entry.2.callback]? = some entry.2.caller
  outgoing : forall answer, answer ∈ s.outgoing -> Fits failure s answer
  posted : forall answer, answer ∈ s.posted -> Fits failure s answer

variable {failure : R -> Prop} {s : Requests κ R}

theorem sound_initial : Sound failure ({} : Requests κ R) where
  accounted := accounted_none
  numbered := List.nodup_nil
  bounded := fun _ member => absurd member List.not_mem_nil
  known := .refl _
  callers := fun _ member => absurd member List.not_mem_nil
  outgoing := fun _ member => absurd member List.not_mem_nil
  posted := fun _ member => absurd member List.not_mem_nil

theorem Sound.distinct (sound : Sound failure s) : (s.pending.map Prod.fst).Nodup :=
  sound.numbered.sublist (sound.known.map _)

theorem call_kept {calls : List ℕ} {callback caller : ℕ} (found : calls[callback]? = some caller) (more : List ℕ) :
    (calls ++ more)[callback]? = some caller := by
  obtain ⟨inside, -⟩ := List.getElem?_eq_some_iff.mp found
  rw [List.getElem?_append_left inside]
  exact found

theorem Fits.later {t : Requests κ R} {answer : Answer R} (fits : Fits failure s answer) {calls : List ℕ}
    (callers : t.calls = s.calls ++ calls)
    (registered : ∀ entry ∈ s.registered, entry ∈ t.registered) : Fits failure t answer where
  caller := by
    rw [callers]
    exact call_kept fits.caller calls
  own := fun id is => (fits.own id is).imp fun _ member => registered _ member
  failed := fits.failed

theorem Sound.register (sound : Sound failure s) (caller : ℕ) (carrier : κ) :
    Sound failure (s.register caller carrier) := by
  have grown (answer : Answer R) (fits : Fits failure s answer) : Fits failure (s.register caller carrier) answer :=
    fits.later rfl fun _ member => List.mem_append_left _ member
  constructor
  case accounted =>
    have more : (s.register caller carrier).held.Perm (s.calls.length :: s.held) := by
      simp only [held, Requests.register, List.map_append, List.map_cons, List.map_nil, List.append_assoc]
      exact List.perm_middle
    have given := sound.accounted.give.congr more
    simpa [Requests.register] using given
  case numbered =>
    exact snoc_nodup sound.numbered (fun entry member => Nat.lt_succ_of_le (sound.bounded entry member).2) _
  case bounded =>
    intro entry member
    rcases List.mem_append.mp member with before | last
    · exact ⟨(sound.bounded entry before).1, (sound.bounded entry before).2.trans (Nat.le_succ _)⟩
    · obtain rfl := List.mem_singleton.mp last
      exact ⟨Nat.succ_pos _, le_refl _⟩
  case known => exact sound.known.append_right _
  case callers =>
    intro entry member
    rcases List.mem_append.mp member with before | last
    · exact call_kept (sound.callers entry before) _
    · obtain rfl := List.mem_singleton.mp last
      simp [Requests.register]
  case outgoing => exact fun answer member => grown answer (sound.outgoing answer member)
  case posted => exact fun answer member => grown answer (sound.posted answer member)

theorem Sound.refuse (sound : Sound failure s) (caller : ℕ) {reply : R} (fails : failure reply) :
    Sound failure (s.refuse caller reply) := by
  have grown (answer : Answer R) (fits : Fits failure s answer) : Fits failure (s.refuse caller reply) answer :=
    fits.later rfl fun _ member => member
  constructor
  case accounted =>
    have more : (s.refuse caller reply).held.Perm (s.calls.length :: s.held) := by
      simp only [held, Requests.refuse, List.map_append, List.map_cons, List.map_nil, <- List.append_assoc]
      exact List.perm_append_singleton _ _
    have given := sound.accounted.give.congr more
    simpa [Requests.refuse] using given
  case numbered => exact sound.numbered
  case bounded => exact sound.bounded
  case known => exact sound.known
  case callers => exact fun entry member => call_kept (sound.callers entry member) _
  case outgoing =>
    intro answer member
    rcases List.mem_append.mp member with before | last
    · exact grown answer (sound.outgoing answer before)
    · obtain rfl := List.mem_singleton.mp last
      exact ⟨by simp [Requests.refuse], fun _ is => absurd is (by simp), fun _ => fails⟩
  case posted => exact fun answer member => grown answer (sound.posted answer member)

theorem complete_missing {id : ℕ} (missing : s.pending.lookup id = none) (replyTo : Option ℕ) (reply : R) :
    s.complete id replyTo reply = s := by
  simp [complete, missing]

theorem complete_found {id : ℕ} {request : Request κ} (found : s.pending.lookup id = some request)
    (replyTo : Option ℕ) (reply : R) :
    s.complete id replyTo reply =
      { s with
        pending := take s.pending id
        outgoing := s.outgoing ++ [⟨request.caller, request.callback, replyTo, reply⟩] } := by
  simp [complete, found]

theorem complete_pending (sound : Sound failure s) (id : ℕ) (replyTo : Option ℕ) (reply : R) :
    (s.complete id replyTo reply).pending.lookup id = none := by
  rcases found : s.pending.lookup id with _ | request
  · rw [complete_missing found]
    exact found
  · rw [complete_found found]
    have gone := take_gone sound.distinct found
    rcases left : (take s.pending id).lookup id with _ | other
    · rfl
    · exact absurd (List.mem_map.mpr ⟨_, mem_of_lookup left, rfl⟩) gone

theorem complete_fewer (id : ℕ) (replyTo : Option ℕ) (reply : R) :
    (s.complete id replyTo reply).pending.Sublist s.pending := by
  unfold complete
  split
  · exact .refl _
  · exact take_sublist _ _

theorem Sound.complete (sound : Sound failure s) (id : ℕ) {replyTo : Option ℕ} {reply : R}
    (own : ∀ other, replyTo = some other -> other = id) (fails : replyTo = none -> failure reply) :
    Sound failure (s.complete id replyTo reply) := by
  rcases found : s.pending.lookup id with _ | request
  · rw [complete_missing found]
    exact sound
  rw [complete_found found]
  have member := sound.known.subset (mem_of_lookup found)
  refine ⟨?_, sound.numbered, sound.bounded, (take_sublist _ _).trans sound.known, sound.callers, ?_, ?_⟩
  · refine sound.accounted.congr ?_
    have split := (take_perm found).map fun entry => entry.2.callback
    have moved : (request.callback :: ((take s.pending id).map (fun entry => entry.2.callback) ++
        s.outgoing.map fun answer => answer.callback)).Perm s.held :=
      (split.append_right (s.outgoing.map fun answer : Answer R => answer.callback)).symm
    refine List.Perm.trans ?_ moved
    simp only [held, List.map_append, List.map_cons, List.map_nil, <- List.append_assoc]
    exact List.perm_append_singleton _ _
  · intro answer inside
    rcases List.mem_append.mp inside with before | last
    · exact (sound.outgoing answer before).later (List.append_nil _).symm fun _ inside => inside
    · obtain rfl := List.mem_singleton.mp last
      refine ⟨sound.callers _ member, fun other is => ⟨request.carrier, ?_⟩, fails⟩
      obtain rfl := own other is
      exact member
  · exact fun answer inside => (sound.posted answer inside).later (List.append_nil _).symm fun _ inside => inside

theorem Sound.failAll (sound : Sound failure s) {reply : R} (fails : failure reply) :
    Sound failure (s.failAll reply) := by
  refine ⟨?_, sound.numbered, sound.bounded, List.nil_sublist _, sound.callers, ?_, ?_⟩
  · refine sound.accounted.congr ?_
    have same : (s.failAll reply).held =
        s.outgoing.map (fun answer => answer.callback) ++ s.pending.map fun entry => entry.2.callback := by
      simp [held, Requests.failAll, Function.comp_def]
    rw [same]
    exact List.perm_append_comm
  · intro answer inside
    rcases List.mem_append.mp inside with before | last
    · exact (sound.outgoing answer before).later (List.append_nil _).symm fun _ inside => inside
    · obtain ⟨entry, member, rfl⟩ := List.mem_map.mp last
      exact ⟨sound.callers entry (sound.known.subset member), fun _ is => absurd is (by simp), fun _ => fails⟩
  · exact fun answer inside => (sound.posted answer inside).later (List.append_nil _).symm fun _ inside => inside

theorem Sound.post (sound : Sound failure s) (index : ℕ) : Sound failure (s.post index) := by
  unfold Requests.post
  split
  next => exact sound
  next answer found =>
    obtain ⟨inside, at_index⟩ := List.getElem?_eq_some_iff.mp found
    have split : s.outgoing.Perm (answer :: s.outgoing.eraseIdx index) := by
      rw [<- at_index]
      exact (List.getElem_cons_eraseIdx_perm inside).symm
    refine ⟨?_, sound.numbered, sound.bounded, sound.known, sound.callers, ?_, ?_⟩
    · have front : ([answer.callback] ++ (s.pending.map (fun entry => entry.2.callback) ++
          (s.outgoing.eraseIdx index).map fun answer => answer.callback)).Perm s.held := by
        refine List.Perm.trans ?_ ((split.map fun answer : Answer R => answer.callback).append_left _).symm
        rw [List.map_cons, List.singleton_append]
        exact List.perm_middle.symm
      have called := (sound.accounted.congr front).call _
      simpa [held] using called
    · intro other member
      exact (sound.outgoing other (List.mem_of_mem_eraseIdx member)).later (List.append_nil _).symm
        fun _ inside => inside
    · intro other member
      rcases List.mem_append.mp member with before | last
      · exact (sound.posted other before).later (List.append_nil _).symm fun _ inside => inside
      · obtain rfl := List.mem_singleton.mp last
        exact (sound.outgoing other (List.mem_of_getElem? found)).later (List.append_nil _).symm fun _ inside => inside

end Requests

end ChromiumHmos.Lib
