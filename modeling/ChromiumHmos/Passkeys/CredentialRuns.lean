import ChromiumHmos.Lib.Transition
import ChromiumHmos.Passkeys.CredentialFile

set_option autoImplicit false

/-! # Passkeys added and removed, one after the other -/

namespace ChromiumHmos.Passkeys

open Base Lib Transition

inductive FileOp
  | add (credential : StoredCredential) (written : Bool)
  | remove (credentialId : Bytes) (written : Bool)

/-- The file of a profile, and the credentials whose signing keys were deleted. -/
structure Profile where
  file : Option Bytes := none
  deleted : List Bytes := []

namespace Profile

def take (s : Profile) (outcome : Outcome) : Profile where
  file := outcome.file
  deleted := s.deleted ++ outcome.deletedKeys

def next (codecs : Codecs) (s : Profile) : FileOp -> Profile
  | .add credential written => s.take (add codecs written s.file credential)
  | .remove credentialId written => s.take (remove codecs written s.file credentialId)

-- A registration draws an id that no other has had.
def permitted (codecs : Codecs) (s : Profile) : FileOp -> Prop
  | .add credential _ => credential.credentialId ≠ [] /\ credential.credentialId ∉ s.deleted /\
      forall all, readAll codecs s.file = some all -> credential.credentialId ∉ all.map StoredCredential.credentialId
  | .remove .. => True

def step (codecs : Codecs) : Profile -> FileOp -> Profile -> Prop := guarded (permitted codecs) (next codecs)

structure Lists (s : Profile) (all : List StoredCredential) : Prop where
  ids : (all.map StoredCredential.credentialId).Nodup
  accounts : all.Pairwise fun first second => sameAccount first second = false
  keyed : forall credential, credential ∈ all -> credential.credentialId ∉ s.deleted

variable {codecs : Codecs} {s t : Profile}

theorem readAll_written (faithful : codecs.Faithful) {kept all : List StoredCredential} {text : Bytes}
    (named : ∀ credential ∈ kept, credential.credentialId ≠ [])
    (stored : storedText codecs kept = some text) (read : readAll codecs (some text) = some all)
    (lists : t.Lists kept) : t.Lists all := by
  rw [readAll_stored faithful named stored] at read
  split at read
  next => contradiction
  next =>
    obtain rfl := Option.some.inj read
    refine ⟨by simpa [Function.comp_def, rereadCredential] using lists.ids, ?_, ?_⟩
    next => exact List.pairwise_map.mpr lists.accounts
    next => simpa [rereadCredential] using lists.keyed

theorem next_lists (faithful : codecs.Faithful) {op : FileOp}
    (inv : ∀ all, readAll codecs s.file = some all -> s.Lists all) (moved : step codecs s op t) :
    ∀ all, readAll codecs t.file = some all -> t.Lists all := by
  obtain ⟨allowed, rfl⟩ := moved
  have unchanged : ∀ all, readAll codecs s.file = some all ->
      ({ s with deleted := s.deleted ++ [] } : Profile).Lists all := by simpa using inv
  cases op with
  | add credential written =>
    obtain ⟨named, unused, fresh⟩ := allowed
    simp only [next, take, add]
    cases readable : readAll codecs s.file with
    | none => exact fun all read => absurd (readable.symm.trans read) (Option.some_ne_none all).symm
    | some held =>
      dsimp only [writeAll]
      cases stored : storedText codecs (keptBeside credential held ++ [credential]) with
      | none => exact unchanged
      | some text =>
        cases written with
        | false => exact unchanged
        | true =>
          have lists := inv held readable
          have new := fresh held readable
          have beside : ∀ other, other ∈ keptBeside credential held ->
              other ∈ held /\ sameAccount credential other = false := by simp [keptBeside]
          refine fun all read => readAll_written faithful ?_ stored read ⟨?_, ?_, ?_⟩
          next =>
            refine List.forall_mem_append.mpr ⟨fun other kept => ?_, List.forall_mem_singleton.mpr named⟩
            exact readAll_named readable other (beside other kept).1
          next =>
            rw [List.map_append]
            refine (lists.ids.sublist (List.filter_sublist.map _)).append (List.nodup_singleton _) ?_
            rintro id kept last
            obtain rfl := List.mem_singleton.mp last
            exact new ((List.filter_sublist.map _).subset kept)
          next =>
            refine List.pairwise_append.mpr ⟨lists.accounts.sublist List.filter_sublist, List.pairwise_singleton _ _, ?_⟩
            intro other kept last is
            obtain rfl := List.mem_singleton.mp is
            have apart := (beside other kept).2
            simp only [sameAccount] at apart ⊢
            simpa only [eq_comm (a := other.rpId), eq_comm (a := other.user.id)] using apart
          next =>
            refine List.forall_mem_append.mpr ⟨fun other kept => ?_, List.forall_mem_singleton.mpr ?_⟩
            next =>
              obtain ⟨member, apart⟩ := beside other kept
              refine List.not_mem_append (lists.keyed other member) fun retired => ?_
              obtain ⟨gone, was, same⟩ := List.mem_map.mp retired
              have old := List.mem_filter.mp was
              rw [List.inj_on_of_nodup_map lists.ids old.1 member same, apart] at old
              simp at old
            next =>
              refine List.not_mem_append unused fun retired => new ?_
              exact (List.filter_sublist.map _).subset retired
  | remove credentialId written =>
    simp only [next, take, remove]
    cases readable : readAll codecs s.file with
    | none => exact fun all read => absurd (readable.symm.trans read) (Option.some_ne_none all).symm
    | some held =>
      have lists := inv held readable
      dsimp only [writeAll]
      split
      next => exact unchanged
      next =>
        cases stored : storedText codecs (without credentialId held) with
        | none => exact unchanged
        | some text =>
          cases written with
          | false => exact unchanged
          | true =>
            refine fun all read => readAll_written faithful (fun other kept => ?_) stored read
              ⟨lists.ids.sublist (List.filter_sublist.map _), lists.accounts.sublist List.filter_sublist, fun other kept => ?_⟩
            next => exact readAll_named readable other (List.mem_filter.mp kept).1
            next =>
              have still := List.mem_filter.mp kept
              exact List.not_mem_append (lists.keyed other still.1) (by simpa using still.2)

/-- An account has one passkey at most, and the signing key of every passkey listed is there. -/
theorem listed_passkeys_usable (faithful : codecs.Faithful) {trace : List (Profile × FileOp)}
    (run : Trace (step codecs) {} trace s) {all : List StoredCredential}
    (read : readAll codecs s.file = some all) : s.Lists all := by
  suffices kept : forall all, readAll codecs s.file = some all -> s.Lists all from kept all read
  refine run.preserves (fun _ _ _ inv moved => next_lists faithful inv moved) fun all read => ?_
  obtain rfl := Option.some.inj read
  exact ⟨.nil, .nil, nofun⟩

theorem listed_passkeys_usable_sample : ({ file := some (sampleText "Ann") } : Profile).Lists
    [rereadCredential (sampleCodecs "Ann") (sampleCredential "Ann")] := by
  have added : step (sampleCodecs "Ann") {} (.add (sampleCredential "Ann") true) { file := some (sampleText "Ann") } := by
    refine ⟨⟨by decide, List.not_mem_nil, fun all read => ?_⟩, by rw [next, sample_added]; rfl⟩
    obtain rfl := Option.some.inj read
    exact List.not_mem_nil
  have named : forall credential, credential ∈ [sampleCredential "Ann"] -> credential.credentialId ≠ [] :=
    List.forall_mem_singleton.mpr (by decide)
  refine listed_passkeys_usable (sampleCodecs_faithful "Ann") (.cons added (.nil _)) ?_
  rw [readAll_stored (sampleCodecs_faithful "Ann") named (sample_stored "Ann"), if_neg]
  next => rfl
  next => simp [sampleText_length, kMaxFileSize]

end Profile

end ChromiumHmos.Passkeys
