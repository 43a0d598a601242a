import Mathlib

set_option autoImplicit false

/-!
# Records waiting for a partner

A list of records, oldest first, of which a newcomer takes the newest that fits it. What is waiting
serves what is due as long as some assignment of the one to the other fits throughout.
-/

namespace ChromiumHmos.Lib

variable {R Q : Type*}

-- Whether a record fits, and the records with the newest that does marked.
def takeNewest (fits : R -> Bool) (mark : R -> R) : List R -> Bool × List R
  | [] => (false, [])
  | record :: rest =>
    match takeNewest fits mark rest with
    | (true, later) => (true, record :: later)
    | (false, _) => if fits record then (true, mark record :: rest) else (false, record :: rest)

variable {fits : R -> Bool} {mark : R -> R} {records waiting : List R}

theorem takeNewest_false :
    (takeNewest fits mark records).1 = false ↔ ∀ record ∈ records, fits record = false := by
  induction records with
  | nil => simp [takeNewest]
  | cons record rest ih =>
    simp only [takeNewest]
    split
    · rename_i later found
      rw [found] at ih
      have some : ¬ ∀ record ∈ rest, fits record = false := by simpa using ih
      simp only [Bool.true_eq_false, false_iff]
      exact fun none => some fun other member => none other (List.mem_cons_of_mem _ member)
    · rename_i later missed
      rw [missed] at ih
      by_cases fit : fits record = true <;> simp_all

theorem takeNewest_none
    (none : ∀ record ∈ records, fits record = false) :
    takeNewest fits mark records = (false, records) := by
  induction records with
  | nil => rfl
  | cons record rest ih =>
    rw [takeNewest, ih fun other member => none other (List.mem_cons_of_mem _ member)]
    simp [none record List.mem_cons_self]

theorem takeNewest_some
    (found : (takeNewest fits mark records).1 = true) :
    ∃ front record back, records = front ++ record :: back /\ fits record = true /\
      (takeNewest fits mark records).2 = front ++ mark record :: back := by
  induction records with
  | nil => cases found
  | cons record rest ih =>
    simp only [takeNewest] at found ⊢
    split at found
    · rename_i later inside
      rw [inside] at ih
      obtain ⟨front, taken, back, rfl, fit, same⟩ := ih rfl
      exact ⟨record :: front, taken, back, rfl, fit, congrArg (List.cons record) same⟩
    · split at found
      · rename_i fit
        exact ⟨[], record, rest, rfl, fit, by simp [fit]⟩
      · cases found

/-- Some assignment of the waiting to the due fits throughout. -/
def Serves (agrees : R -> Q -> Prop) (waiting : List R) (due : List Q) : Prop :=
  exists assigned, assigned.Perm waiting ∧ List.Forall₂ agrees assigned due

variable {agrees : R -> Q -> Prop}

theorem serves_nil : Serves agrees [] [] := ⟨[], .refl [], .nil⟩

theorem Serves.nothing (serves : Serves agrees waiting []) : waiting = [] := by
  obtain ⟨assigned, same, fits⟩ := serves
  cases fits
  exact List.nil_perm.mp same

variable {due : List Q} {newcomer : Q}

theorem Serves.push (serves : Serves agrees waiting due)
    {record : R} (fit : agrees record newcomer) :
    Serves agrees (waiting ++ [record]) (due ++ [newcomer]) := by
  obtain ⟨assigned, same, fits⟩ := serves
  refine ⟨assigned ++ [record], same.append_right _, ?_⟩
  exact List.rel_append fits (.cons fit .nil)

theorem Serves.some
    (serves : Serves agrees waiting (newcomer :: due)) :
    ∃ record, record ∈ waiting /\ agrees record newcomer := by
  obtain ⟨assigned, same, fits⟩ := serves
  cases fits with
  | cons fit _ => exact ⟨_, same.mem_iff.mp List.mem_cons_self, fit⟩

theorem forall₂_around {before after : List R} {taken : R}
    (fits : List.Forall₂ agrees (before ++ taken :: after) due) :
    ∃ early own late, due = early ++ own :: late /\ List.Forall₂ agrees before early /\
      agrees taken own /\ List.Forall₂ agrees after late := by
  induction before generalizing due with
  | nil =>
    cases fits with
    | @cons _ own _ late fit rest => exact ⟨[], own, late, rfl, .nil, fit, rest⟩
  | cons first more ih =>
    cases fits with
    | @cons _ head _ tail fit rest =>
      obtain ⟨early, own, late, rfl, earlyFits, ownFit, lateFits⟩ := ih rest
      exact ⟨head :: early, own, late, rfl, .cons fit earlyFits, ownFit, lateFits⟩

/-- What is due later tells no two waiting records apart that fit the newcomer. -/
def Exchangeable (agrees : R -> Q -> Prop) (waiting : List R) (newcomer : Q) (due : List Q) : Prop :=
  forall record, record ∈ waiting -> forall other, other ∈ waiting ->
    agrees record newcomer -> agrees other newcomer ->
      forall later, later ∈ due -> agrees record later -> agrees other later

theorem Serves.take {front back : List R} {taken : R}
    (serves : Serves agrees (front ++ taken :: back) (newcomer :: due))
    (exchangeable : Exchangeable agrees (front ++ taken :: back) newcomer due)
    (fit : agrees taken newcomer) : Serves agrees (front ++ back) due := by
  obtain ⟨assigned, same, fits⟩ := serves
  have moved : (front ++ taken :: back).Perm (taken :: (front ++ back)) := List.perm_middle
  cases fits with
  | @cons own _ rest _ ownFit restFits =>
    by_cases self : own = taken
    · subst self
      exact ⟨rest, (same.trans moved).cons_inv, restFits⟩
    · -- The taken record was another's: that one gets the newcomer's own.
      have inside : taken ∈ rest := by
        have member := (same.trans moved).mem_iff.mpr (@List.mem_cons_self _ taken _)
        exact (List.mem_cons.mp member).resolve_left fun equal => self equal.symm
      obtain ⟨before, after, rfl⟩ := List.append_of_mem inside
      obtain ⟨early, later, late, rfl, earlyFits, takenFit, lateFits⟩ := forall₂_around restFits
      have ownMember : own ∈ front ++ taken :: back := same.mem_iff.mp List.mem_cons_self
      have swapped : agrees own later :=
        exchangeable taken (by simp) own ownMember fit ownFit later (by simp) takenFit
      refine ⟨before ++ own :: after, ?_, List.rel_append earlyFits (.cons swapped lateFits)⟩
      have whole : (taken :: (own :: (before ++ after))).Perm (taken :: (front ++ back)) := by
        refine .trans ?_ (same.trans moved)
        refine (List.Perm.swap own taken (before ++ after)).trans ?_
        have inner : (taken :: (before ++ after)).Perm (before ++ taken :: after) :=
          List.perm_middle.symm
        exact inner.cons own
      exact List.perm_middle.trans whole.cons_inv

-- The old records go, the newest that fits is marked, and the newcomer is recorded.
def meet (old fits : R -> Bool) (mark : R -> R) (newcomer : Bool -> R) (records : List R) :
    Bool × List R :=
  match takeNewest fits mark (records.dropWhile old) with
  | (found, marked) => (found, marked ++ [newcomer found])

section Meet

variable {old fits waits : R -> Bool} {mark : R -> R} {newcomer : Bool -> R} {records : List R}

theorem waiting_kept (settled : ∀ record, record ∈ records.takeWhile old -> waits record = false) :
    (records.dropWhile old).filter waits = records.filter waits := by
  have parts : records.takeWhile old ++ records.dropWhile old = records := List.takeWhile_append_dropWhile
  have gone : (records.takeWhile old).filter waits = [] := by
    rw [List.filter_eq_nil_iff]
    exact fun record member => by simp [settled record member]
  calc (records.dropWhile old).filter waits
      = (records.takeWhile old ++ records.dropWhile old).filter waits := by
        rw [List.filter_append, gone, List.nil_append]
    _ = records.filter waits := by rw [parts]

theorem meet_first (settled : ∀ record, record ∈ records.takeWhile old -> waits record = false)
    (fitsWait : ∀ record, fits record = true -> waits record = true)
    (none : ∀ record, record ∈ records.filter waits -> fits record = false)
    (own : waits (newcomer false) = true) :
    (meet old fits mark newcomer records).1 = false /\
      (meet old fits mark newcomer records).2.filter waits =
        records.filter waits ++ [newcomer false] := by
  have missed : takeNewest fits mark (records.dropWhile old) =
      (false, records.dropWhile old) := by
    refine takeNewest_none fun record member => ?_
    by_contra fit
    have fit : fits record = true := by simpa using fit
    have waiting : record ∈ records.filter waits :=
      List.mem_filter.mpr ⟨(List.dropWhile_suffix old).mem member, fitsWait record fit⟩
    rw [none record waiting] at fit
    cases fit
  simp only [meet, missed]
  refine ⟨trivial, ?_⟩
  rw [List.filter_append, waiting_kept settled]
  simp [own]

theorem meet_second (settled : ∀ record, record ∈ records.takeWhile old -> waits record = false)
    (fitsWait : ∀ record, fits record = true -> waits record = true)
    (some : ∃ record, record ∈ records.filter waits /\ fits record = true)
    (marked : ∀ record, waits (mark record) = false) (own : waits (newcomer true) = false) :
    (meet old fits mark newcomer records).1 = true /\
      ∃ front taken back, records.filter waits = front ++ taken :: back /\
        fits taken = true /\
        (meet old fits mark newcomer records).2.filter waits = front ++ back := by
  have found : (takeNewest fits mark (records.dropWhile old)).1 = true := by
    by_contra missed
    have none := takeNewest_false.mp (Bool.not_eq_true _ |>.mp missed)
    obtain ⟨record, waiting, fit⟩ := some
    rw [<- waiting_kept settled] at waiting
    rw [none record (List.mem_filter.mp waiting).1] at fit
    cases fit
  obtain ⟨front, taken, back, parts, fit, after⟩ := takeNewest_some found
  generalize result : takeNewest fits mark (records.dropWhile old) = pair at found after
  obtain ⟨hit, rest⟩ := pair
  simp only at found after
  subst found after
  simp only [meet, result]
  refine ⟨trivial, front.filter waits, taken, back.filter waits, ?_, fit, ?_⟩
  · rw [<- waiting_kept settled, parts, List.filter_append,
      List.filter_cons_of_pos (fitsWait taken fit)]
  · simp [marked, own]

end Meet

end ChromiumHmos.Lib
