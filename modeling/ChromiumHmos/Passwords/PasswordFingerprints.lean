import ChromiumHmos.Lib.OrderedMap
import ChromiumHmos.Passwords.PasswordSync

set_option autoImplicit false

/-!
# Fingerprints of the password store

The fingerprints are those of what the store held when it said what it says now. Each change it
tells moves them as it moved the store.
-/

namespace ChromiumHmos.Passwords

open Base Std OrderedMap
open UrlProtection (GURL UrlLibrary)

namespace PasswordSync

variable (platform : SyncPlatform) (salt : String)

def syncable (logins : List StoredCredential) : List StoredCredential := logins.filter (isSyncable platform)

/-- What sync carries of an entry: all of it but the time it was last used. -/
def carried (logins : List StoredCredential) : List DictValue :=
  ((syncable platform logins).foldl noteNewest ∅).toList.map fun entry =>
    (entryOf platform entry.2).filter fun field => field.1 ≠ "dateLastUsed"

/-- No two forms that are synced have the same key. -/
def Keyed (logins : List StoredCredential) : Prop := ((syncable platform logins).map (formKey platform salt)).Nodup

/-- The store tells its forms apart. -/
def Distinct (logins : List StoredCredential) : Prop := (logins.map StoredCredential.uniqueKey).Nodup

/-- A write that leaves the keys apart, and makes no form one that is not synced. -/
structure Clear (store : List StoredCredential) (w : StoreWrite) : Prop where
  before : Keyed platform salt store
  after : Keyed platform salt (w.run store).1
  stays : ∀ c, w = .update c → isSyncable platform c = false →
    ∀ d ∈ store, sameForm c d = true → isSyncable platform d = false

section Contents

variable {platform salt}

theorem fingerprintsOf_index (logins : List StoredCredential) :
    fingerprintsOf platform salt logins =
      index compare (formKey platform salt) (fingerprint platform salt) (syncable platform logins) := rfl

variable {c : StoredCredential}

theorem formKey_same {d : StoredCredential} (same : sameForm c d = true) :
    formKey platform salt c = formKey platform salt d := by
  have keys : c.uniqueKey = d.uniqueKey := of_decide_eq_true same
  simp only [StoredCredential.uniqueKey, Prod.mk.injEq] at keys
  obtain ⟨realm, url, element, username, password⟩ := keys
  rw [formKey, formKey, realm, url, element, username, password]

variable {store : List StoredCredential} {old : StoredCredential}

theorem split_of_find
    (forms : Distinct store) (found : store.find? (sameForm c) = some old) :
    ∃ front back, store = front ++ old :: back /\ sameForm c old = true /\
      replaceForm store c = front ++ c :: back /\ (store.filter fun d => !sameForm c d) = front ++ back := by
  obtain ⟨same, front, back, rfl, others⟩ := List.find?_eq_some_iff_append.mp found
  unfold Distinct at forms
  rw [List.map_append, List.map_cons, List.nodup_middle, List.nodup_cons, <- List.map_append] at forms
  have key : c.uniqueKey = old.uniqueKey := of_decide_eq_true same
  have apart (d : StoredCredential) (mem : d ∈ front ++ back) : sameForm c d = false := by
    refine decide_eq_false fun also => forms.1 ?_
    rw [<- key, also]
    exact List.mem_map_of_mem mem
  have kept (part : List StoredCredential) (sub : ∀ d ∈ part, d ∈ front ++ back) :
      part.map (fun d => if sameForm c d then c else d) = part /\ (part.filter fun d => !sameForm c d) = part := by
    refine ⟨?_, List.filter_eq_self.mpr fun d mem => by rw [apart d (sub d mem)]; rfl⟩
    conv_rhs => rw [<- List.map_id part]
    refine List.map_congr_left fun d mem => ?_
    rw [apart d (sub d mem)]
    rfl
  obtain ⟨mapped, filtered⟩ := kept front fun d mem => List.mem_append_left _ mem
  obtain ⟨mapped', filtered'⟩ := kept back fun d mem => List.mem_append_right _ mem
  refine ⟨front, back, rfl, same, ?_, ?_⟩
  · rw [replaceForm, List.map_append, List.map_cons, mapped, mapped', if_pos same]
  · rw [List.filter_append, List.filter_cons_of_neg (by rw [same]; simp), filtered, filtered']

theorem Distinct.run (forms : Distinct store) (w : StoreWrite) : Distinct (w.run store).1 := by
  have replaced {c old : StoredCredential} (found : store.find? (sameForm c) = some old) :
      Distinct (replaceForm store c) := by
    obtain ⟨front, back, is, same, after, -⟩ := split_of_find forms found
    have key : c.uniqueKey = old.uniqueKey := of_decide_eq_true same
    unfold Distinct at forms ⊢
    rw [after, List.map_append, List.map_cons, key]
    rw [is, List.map_append, List.map_cons] at forms
    exact forms
  cases w with
  | add c =>
    dsimp only [StoreWrite.run]
    split
    next found => exact replaced found
    · next missing =>
      unfold Distinct at forms ⊢
      rw [List.map_append, List.nodup_append]
      refine ⟨forms, List.nodup_singleton _, fun key mem other single same => ?_⟩
      obtain ⟨d, there, rfl⟩ := List.mem_map.mp mem
      rw [List.mem_singleton.mp single] at same
      exact List.find?_eq_none.mp missing d there (decide_eq_true same.symm)
  | update c =>
    dsimp only [StoreWrite.run]
    split
    next found => exact replaced found
    · exact forms
  | remove c =>
    dsimp only [StoreWrite.run]
    split
    · exact forms.sublist (List.filter_sublist.map _)
    · exact forms

theorem noteChange_skip (unsynced : isSyncable platform c = false)
    (state : ExtTreeMap String String × Bool) (type : ChangeType) :
    noteChange platform salt state ⟨type, c⟩ = state := by
  simp [noteChange, unsynced]

theorem noteChange_remove (synced : isSyncable platform c = true)
    (state : ExtTreeMap String String × Bool) :
    (noteChange platform salt state ⟨.remove, c⟩).1 = state.1.erase (formKey platform salt c) := by
  simp [noteChange, synced]

theorem noteChange_insert (synced : isSyncable platform c = true)
    (state : ExtTreeMap String String × Bool) (type : ChangeType) (kept : type ≠ .remove) :
    (noteChange platform salt state ⟨type, c⟩).1 =
      state.1.insert (formKey platform salt c) (fingerprint platform salt c) := by
  simp [noteChange, synced, kept]

theorem noteChange_unchanged (nonempty : ∀ text, platform.sha256 text ≠ "")
    (state : ExtTreeMap String String × Bool) (change : StoreChange)
    (unchanged : (noteChange platform salt state change).2 = false) :
    (noteChange platform salt state change).1 = state.1 /\ state.2 = false := by
  obtain ⟨type, c⟩ := change
  cases synced : isSyncable platform c with
  | false =>
    rw [noteChange_skip synced] at unchanged ⊢
    exact ⟨rfl, unchanged⟩
  | true =>
    by_cases removed : type = .remove
    · subst removed
      rw [noteChange_remove synced]
      simp only [noteChange, synced, not_true_eq_false, if_false, if_true, Bool.or_eq_false_iff,
        Option.isSome_eq_false_iff, Option.isNone_iff_eq_none] at unchanged
      refine ⟨?_, unchanged.1⟩
      refine ExtTreeMap.ext_getElem? fun other => ?_
      by_cases same : other = formKey platform salt c
      · rw [same, getElem?_erase_same, unchanged.2]
      · rw [getElem?_erase_of_ne _ _ _ same]
    · rw [noteChange_insert synced _ _ removed]
      simp only [noteChange, synced, not_true_eq_false, if_false, if_neg removed, Bool.or_eq_false_iff,
        decide_eq_false_iff_not, not_not] at unchanged
      refine ⟨insert_same _ _ _ ?_, unchanged.1⟩
      have hash := nonempty (salt ++ platform.spec c.url ++ "\x1f" ++ c.passwordValue ++ "\x1f" ++ c.note ++
        "\x1f" ++ (if c.blockedByUser then "1" else "0") ++ "\x1f" ++
          platform.numberToString (toShellTime c.dateCreated))
      change fingerprint platform salt c ≠ "" at hash
      rw [<- unchanged.2, ExtTreeMap.getD_eq_getD_getElem?] at hash ⊢
      cases at_key : state.1[formKey platform salt c]? with
      | none => rw [at_key] at hash; exact absurd rfl hash
      | some held => rfl

theorem changes_unchanged (nonempty : ∀ text, platform.sha256 text ≠ "") (changes : List StoreChange)
    (state : ExtTreeMap String String × Bool)
    (unchanged : (changes.foldl (noteChange platform salt) state).2 = false) :
    (changes.foldl (noteChange platform salt) state).1 = state.1 := by
  induction changes using List.reverseRecOn with
  | nil => rfl
  | append_singleton rest change ih =>
    rw [List.foldl_append] at unchanged ⊢
    obtain ⟨same, before⟩ := noteChange_unchanged nonempty _ change unchanged
    exact same.trans (ih before)

theorem syncable_middle (front back : List StoredCredential) (c : StoredCredential) :
    (syncable platform (front ++ c :: back)).Perm (syncable platform [c] ++ syncable platform (front ++ back)) := by
  unfold syncable
  rw [<- List.filter_append]
  exact List.perm_middle.filter _

theorem syncable_single (synced : isSyncable platform c = true) :
    syncable platform [c] = [c] := List.filter_cons_of_pos synced

theorem syncable_none (unsynced : isSyncable platform c = false) :
    syncable platform [c] = [] := List.filter_cons_of_neg (by rw [unsynced]; exact Bool.false_ne_true)

variable {front back : List StoredCredential}

theorem keyed_middle (synced : isSyncable platform c = true)
    (keyed : Keyed platform salt (front ++ c :: back)) :
    ((c :: syncable platform (front ++ back)).map (formKey platform salt)).Nodup := by
  have perm : (syncable platform (front ++ c :: back)).Perm _ := syncable_middle front back c
  rw [syncable_single synced] at perm
  exact (perm.map _).nodup_iff.mp keyed

theorem fingerprintsOf_middle
    (keyed : Keyed platform salt (front ++ c :: back)) :
    fingerprintsOf platform salt (front ++ c :: back) = index compare (formKey platform salt)
      (fingerprint platform salt) (syncable platform [c] ++ syncable platform (front ++ back)) :=
  index_perm _ _ _ (syncable_middle front back c) keyed

theorem unsynced_middle
    (keyed : Keyed platform salt (front ++ c :: back)) (unsynced : isSyncable platform c = false) :
    fingerprintsOf platform salt (front ++ c :: back) = fingerprintsOf platform salt (front ++ back) := by
  rw [fingerprintsOf_middle keyed, syncable_none unsynced]
  rfl

theorem note_removed (changed : Bool) (keyed : Keyed platform salt (front ++ old :: back)) :
    (noteChange platform salt (fingerprintsOf platform salt (front ++ old :: back), changed) ⟨.remove, old⟩).1 =
      fingerprintsOf platform salt (front ++ back) := by
  cases synced : isSyncable platform old with
  | false => rw [noteChange_skip synced, unsynced_middle keyed synced]
  | true =>
    rw [noteChange_remove synced, fingerprintsOf_middle keyed, syncable_single synced]
    exact index_erase _ _ _ (keyed_middle synced keyed)

theorem note_inserted (type : ChangeType)
    (kept : type ≠ .remove) (changed : Bool) (keyed : Keyed platform salt (front ++ c :: back)) :
    (noteChange platform salt (fingerprintsOf platform salt (front ++ back), changed) ⟨type, c⟩).1 =
      fingerprintsOf platform salt (front ++ c :: back) := by
  cases synced : isSyncable platform c with
  | false => rw [noteChange_skip synced, unsynced_middle keyed synced]
  | true =>
    have perm : (syncable platform (front ++ c :: back)).Perm (syncable platform (front ++ back) ++ [c]) := by
      refine (syncable_middle front back c).trans ?_
      rw [syncable_single synced]
      exact (List.perm_append_singleton _ _).symm
    rw [noteChange_insert synced _ _ kept, fingerprintsOf_index, fingerprintsOf_index,
      index_perm _ _ _ perm keyed, index_snoc]

theorem note_replaced (changed : Bool)
    (same : sameForm c old = true) (before : Keyed platform salt (front ++ old :: back))
    (after : Keyed platform salt (front ++ c :: back))
    (stays : isSyncable platform c = false -> isSyncable platform old = false) :
    (noteChange platform salt (fingerprintsOf platform salt (front ++ old :: back), changed) ⟨.update, c⟩).1 =
      fingerprintsOf platform salt (front ++ c :: back) := by
  cases synced : isSyncable platform c with
  | false =>
    rw [noteChange_skip synced, unsynced_middle after synced, unsynced_middle before (stays synced)]
  | true =>
    cases was : isSyncable platform old with
    | false =>
      rw [unsynced_middle before was]
      exact note_inserted .update nofun changed after
    | true =>
      have perm : (syncable platform (front ++ c :: back)).Perm (syncable platform (front ++ back) ++ [c]) := by
        refine (syncable_middle front back c).trans ?_
        rw [syncable_single synced]
        exact (List.perm_append_singleton _ _).symm
      rw [noteChange_insert synced _ .update nofun, fingerprintsOf_middle before, syncable_single was,
        fingerprintsOf_index, index_perm _ _ _ perm after]
      exact index_replace _ _ _ (formKey_same same) (keyed_middle was before)

theorem fingerprints_run {w : StoreWrite} (forms : Distinct store)
    (clear : Clear platform salt store w) :
    ((w.run store).2.foldl (noteChange platform salt) (fingerprintsOf platform salt store, false)).1 =
      fingerprintsOf platform salt (w.run store).1 := by
  obtain ⟨before, after, stays⟩ := clear
  cases w with
  | add c =>
    dsimp only [StoreWrite.run] at after ⊢
    cases found : store.find? (sameForm c) with
    | some old =>
      obtain ⟨front, back, rfl, -, replaced, -⟩ := split_of_find forms found
      rw [found] at after
      dsimp only at after ⊢
      rw [replaced] at after ⊢
      rw [List.foldl_cons, List.foldl_cons, List.foldl_nil]
      have removed := note_removed false before
      have inserted := note_inserted .add nofun
        (noteChange platform salt (fingerprintsOf platform salt (front ++ old :: back), false) ⟨.remove, old⟩).2
        after
      rw [<- removed] at inserted
      exact inserted
    | none =>
      rw [found] at after
      dsimp only at after ⊢
      have inserted : (noteChange platform salt (fingerprintsOf platform salt (store ++ []), false) ⟨.add, c⟩).1 =
          fingerprintsOf platform salt (store ++ c :: []) := note_inserted .add nofun false after
      rw [List.append_nil] at inserted
      exact inserted
  | update c =>
    dsimp only [StoreWrite.run] at after ⊢
    cases found : store.find? (sameForm c) with
    | some old =>
      obtain ⟨front, back, rfl, same, replaced, -⟩ := split_of_find forms found
      rw [found] at after
      dsimp only at after ⊢
      rw [replaced] at after ⊢
      refine note_replaced false same before after fun unsynced => stays c rfl unsynced old ?_ same
      exact List.mem_append_right _ List.mem_cons_self
    | none => rfl
  | remove c =>
    dsimp only [StoreWrite.run] at after ⊢
    cases found : store.find? (sameForm c) with
    | some old =>
      obtain ⟨front, back, rfl, -, -, left⟩ := split_of_find forms found
      dsimp only
      rw [left]
      exact note_removed false before
    | none => rfl

end Contents

end PasswordSync

end ChromiumHmos.Passwords
