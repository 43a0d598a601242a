import ChromiumHmos.Lib.Base64
import ChromiumHmos.Lib.ByteStream
import ChromiumHmos.Passkeys.CredentialStore

set_option autoImplicit false

/-!
# What the passkey file gives back

The writer has no limit, the reader refuses more than 4 MiB: up to there every write reads back
as the credentials that were stored, and beyond nothing of the file reads.
-/

namespace ChromiumHmos.Passkeys

open Base Lib

/-- The credentials themselves agree; the creation times may differ by what their codec loses. -/
def SameCredential (read stored : StoredCredential) : Prop :=
  read.credentialId = stored.credentialId ∧ read.rpId = stored.rpId ∧ read.user = stored.user

/-- The file reads as the expected credentials, none earlier than another that was not later, and
looking one up gives those of the relying party and the allow list, newest first. -/
def KeptFaithfully (codecs : Codecs) (newestFirst : NewestFirst) (file : Option Bytes)
    (expected : List StoredCredential) : Prop :=
  exists read, readAll codecs file = some read ∧
    List.Forall₂ SameCredential read expected ∧
    (forall earlier, earlier ∈ read.zip expected -> forall later, later ∈ read.zip expected ->
      earlier.2.created <= later.2.created -> earlier.1.created <= later.1.created) ∧
    forall rpId allowList, exists found,
      find codecs newestFirst file rpId allowList = some found ∧
      found.Perm (read.filter (wanted rpId allowList)) ∧
      found.Pairwise fun first second => second.created <= first.created

-- No two dates change places through zero, which the Unix epoch itself is written as.
def DatesApart (codecs : Codecs) (credentials : List StoredCredential) : Prop :=
  forall atEpoch, atEpoch ∈ credentials -> forall before, before ∈ credentials ->
    atEpoch.created = kUnixEpoch -> before.created < kUnixEpoch ->
    codecs.reread before.created <= 0

def FitsReader (codecs : Codecs) (credentials : List StoredCredential) : Prop :=
  forall text, storedText codecs credentials = some text -> text.length <= kMaxFileSize

def rereadCredential (codecs : Codecs) (credential : StoredCredential) : StoredCredential :=
  { credential with created := codecs.reread credential.created }

section Entries

variable {codecs : Codecs}

theorem find_setIfGiven (dict : DictValue) (key other : String) (text : Option String) :
    (setIfGiven dict key text).find other =
      if other = key /\ text.isSome then text.map Value.string else dict.find other := by
  cases text with
  | none => simp [setIfGiven]
  | some text => simp [setIfGiven, DictValue.find_set]

theorem fromDict_toDict (faithful : codecs.Faithful) (credential : StoredCredential)
    (named : credential.credentialId ≠ []) :
    fromDict codecs (toDict codecs credential) = some (rereadCredential codecs credential) := by
  have credentialId : (toDict codecs credential).findString kCredentialIdKey =
      some (codecs.base64Encode credential.credentialId) := by
    simp [toDict, DictValue.findString, DictValue.find_set, find_setIfGiven, kCredentialIdKey,
      kRpIdKey, kUserIdKey, kUserNameKey, kUserDisplayNameKey, kCreatedKey]
  have rpId : (toDict codecs credential).findString kRpIdKey = some credential.rpId := by
    simp [toDict, DictValue.findString, DictValue.find_set, find_setIfGiven,
      kRpIdKey, kUserIdKey, kUserNameKey, kUserDisplayNameKey, kCreatedKey]
  have userId : (toDict codecs credential).findString kUserIdKey =
      some (codecs.base64Encode credential.user.id) := by
    simp [toDict, DictValue.findString, DictValue.find_set, find_setIfGiven,
      kUserIdKey, kUserNameKey, kUserDisplayNameKey, kCreatedKey]
  have name : (toDict codecs credential).findString kUserNameKey = credential.user.name := by
    cases given : credential.user.name <;>
      simp [toDict, given, DictValue.findString, DictValue.find_set, find_setIfGiven,
        kCredentialIdKey, kRpIdKey, kUserIdKey, kUserNameKey, kUserDisplayNameKey, kCreatedKey]
    rfl
  have displayName : (toDict codecs credential).findString kUserDisplayNameKey =
      credential.user.displayName := by
    cases given : credential.user.displayName <;>
      simp [toDict, given, DictValue.findString, DictValue.find_set, find_setIfGiven,
        kCredentialIdKey, kRpIdKey, kUserIdKey, kUserNameKey, kUserDisplayNameKey, kCreatedKey]
    rfl
  have created : (toDict codecs credential).findDouble kCreatedKey =
      some (codecs.inSecondsFSinceUnixEpoch credential.created) := by
    simp [toDict, DictValue.findDouble, DictValue.find_set]
  simp [fromDict, credentialId, rpId, userId, name, displayName, created, faithful.base64, named,
    rereadCredential, Codecs.reread]

variable {credential : StoredCredential}

theorem fromDict_named {dict : DictValue}
    (read : fromDict codecs dict = some credential) : credential.credentialId ≠ [] := by
  simp only [fromDict, Option.bind_eq_bind, Option.bind_eq_some_iff] at read
  obtain ⟨_, _, _, _, _, _, decodedId, _, decodedUserId, _, last⟩ := read
  by_cases empty : decodedId = []
  · simp [empty] at last
  · simp only [empty, if_false, Option.some.injEq] at last
    subst last
    exact empty

theorem readItem_named {item : Value}
    (read : readItem codecs item = some credential) : credential.credentialId ≠ [] := by
  cases item with
  | dict entries => exact fromDict_named read
  | none | bool | int | double | string | list => cases read

theorem readAll_named {file : Option Bytes} {all : List StoredCredential}
    (readable : readAll codecs file = some all) :
    ∀ credential ∈ all, credential.credentialId ≠ [] := by
  intro credential present
  cases file with
  | none =>
    have nothing : all = [] := by simpa [readAll] using readable.symm
    rw [nothing] at present
    cases present
  | some contents =>
    simp only [readAll, parseCredentials, Option.bind_eq_bind] at readable
    split at readable
    · cases readable
    · obtain ⟨root, _, rest⟩ := Option.bind_eq_some_iff.mp readable
      split at rest
      · cases rest
      · obtain ⟨list, _, items⟩ := Option.bind_eq_some_iff.mp rest
        obtain rfl := Option.some.inj items
        obtain ⟨item, _, read⟩ := List.mem_filterMap.mp present
        exact readItem_named read

theorem filterMap_readItem (faithful : codecs.Faithful) (credentials : List StoredCredential)
    (named : ∀ credential ∈ credentials, credential.credentialId ≠ []) :
    (credentials.map fun credential => Value.dict (toDict codecs credential)).filterMap
      (readItem codecs) = credentials.map (rereadCredential codecs) := by
  induction credentials with
  | nil => rfl
  | cons credential rest ih =>
    have head : readItem codecs (.dict (toDict codecs credential)) =
        some (rereadCredential codecs credential) :=
      fromDict_toDict faithful credential (named credential (by simp))
    have tail := ih fun other present => named other (by simp [present])
    simp only [List.map_cons, List.filterMap_cons, head, tail]

variable {credentials : List StoredCredential} {text : Bytes}

theorem parseCredentials_stored (faithful : codecs.Faithful)
    (named : ∀ credential ∈ credentials, credential.credentialId ≠ []) (stored : storedText codecs credentials = some text) :
    parseCredentials codecs text = some (credentials.map (rereadCredential codecs)) := by
  have root := faithful.json _ _ stored
  have version : (rootOf codecs credentials).findInt kVersionKey = some kFormatVersion := by
    simp [rootOf, DictValue.findInt, DictValue.find_set, kVersionKey, kCredentialsKey]
  have list : (rootOf codecs credentials).findList kCredentialsKey =
      some (credentials.map fun credential => Value.dict (toDict codecs credential)) := by
    simp [rootOf, DictValue.findList, DictValue.find_set]
  simp [parseCredentials, root, version, list, filterMap_readItem faithful credentials named]

theorem readAll_stored (faithful : codecs.Faithful)
    (named : ∀ credential ∈ credentials, credential.credentialId ≠ []) (stored : storedText codecs credentials = some text) :
    readAll codecs (some text) =
      if kMaxFileSize < text.length then none
      else some (credentials.map (rereadCredential codecs)) := by
  simp only [readAll, parseCredentials_stored faithful named stored]

end Entries

section Kept

variable {codecs : Codecs} {newestFirst : NewestFirst}

variable {file : Option Bytes}

theorem find_of_read {read : List StoredCredential}
    (readable : readAll codecs file = some read) (rpId : String)
    (allowList : List PublicKeyCredentialDescriptor) :
    ∃ found, find codecs newestFirst file rpId allowList = some found /\
      found.Perm (read.filter (wanted rpId allowList)) /\
      found.Pairwise fun first second => second.created <= first.created := by
  refine ⟨newestFirst.sort (read.filter (wanted rpId allowList)), ?_, newestFirst.perm _,
    newestFirst.sorted _⟩
  simp [find, readable]

theorem kept_of_read {expected : List StoredCredential}
    {change : StoredCredential -> StoredCredential}
    (readable : readAll codecs file = some (expected.map change))
    (same : ∀ credential, SameCredential (change credential) credential)
    (ordered : ∀ earlier ∈ expected, ∀ later ∈ expected,
      earlier.created <= later.created -> (change earlier).created <= (change later).created) :
    KeptFaithfully codecs newestFirst file expected := by
  refine ⟨expected.map change, readable, ?_, ?_, find_of_read readable⟩
  · rw [List.forall₂_map_left_iff]
    exact List.forall₂_same.mpr fun credential _ => same credential
  · rw [<- List.map_prod_right_eq_zip]
    intro earlier earlierIn later laterIn notLater
    obtain ⟨first, firstIn, rfl⟩ := List.mem_map.mp earlierIn
    obtain ⟨second, secondIn, rfl⟩ := List.mem_map.mp laterIn
    exact ordered first firstIn second secondIn notLater

variable {all : List StoredCredential}

theorem kept_unchanged
    (readable : readAll codecs file = some all) : KeptFaithfully codecs newestFirst file all := by
  have mapped : readAll codecs file = some (all.map id) := by rw [List.map_id, readable]
  exact kept_of_read mapped (fun _ => ⟨rfl, rfl, rfl⟩) fun _ _ _ _ notLater => notLater

-- Only a date at the epoch itself moves, down to 0.
theorem reread_ordered (faithful : codecs.Faithful) {earlier later : Time}
    (notLater : earlier <= later)
    (apart : later = kUnixEpoch -> earlier < kUnixEpoch -> codecs.reread earlier <= 0) :
    codecs.reread earlier <= codecs.reread later := by
  by_cases laterAt : later = kUnixEpoch
  · rw [laterAt, faithful.epoch]
    by_cases earlierAt : earlier = kUnixEpoch
    · rw [earlierAt, faithful.epoch]
    · exact apart laterAt (lt_of_le_of_ne (laterAt ▸ notLater) earlierAt)
  · by_cases earlierAt : earlier = kUnixEpoch
    · have positive : (0 : Time) <= later := by
        have epochPositive : (0 : Int) <= kUnixEpoch := by decide
        exact le_trans epochPositive (earlierAt ▸ notLater)
      have fromZero := faithful.ordered 0 later positive (by decide) laterAt
      rw [faithful.noTime] at fromZero
      rwa [earlierAt, faithful.epoch]
    · exact faithful.ordered earlier later notLater earlierAt laterAt

theorem stored_kept_iff (faithful : codecs.Faithful) {credentials : List StoredCredential}
    (named : ∀ credential ∈ credentials, credential.credentialId ≠ [])
    {text : Bytes} (stored : storedText codecs credentials = some text) :
    KeptFaithfully codecs newestFirst (some text) credentials ↔
      FitsReader codecs credentials /\ DatesApart codecs credentials := by
  have readable := readAll_stored faithful named stored
  constructor
  · rintro ⟨read, readNow, _, ordered, _⟩
    rw [readNow] at readable
    by_cases tooLong : kMaxFileSize < text.length
    · simp [tooLong] at readable
    · simp only [tooLong, if_false, Option.some.injEq] at readable
      subst readable
      constructor
      · intro other otherStored
        rw [stored] at otherStored
        obtain rfl := Option.some.inj otherStored
        exact Nat.le_of_not_lt tooLong
      · intro atEpoch atEpochIn before beforeIn atIt beforeIt
        rw [<- List.map_prod_right_eq_zip] at ordered
        have kept := ordered (rereadCredential codecs before, before)
          (List.mem_map_of_mem beforeIn) (rereadCredential codecs atEpoch, atEpoch)
          (List.mem_map_of_mem atEpochIn) (by rw [atIt]; exact le_of_lt beforeIt)
        simpa [rereadCredential, atIt, faithful.epoch] using kept
  · rintro ⟨fits, apart⟩
    have short := fits text stored
    rw [if_neg (by omega)] at readable
    apply kept_of_read readable
    · exact fun _ => ⟨rfl, rfl, rfl⟩
    · intro earlier earlierIn later laterIn notLater
      exact reread_ordered faithful notLater fun laterAt before =>
        apart later laterIn earlier earlierIn laterAt before

variable {written : Bool}

theorem add_accepted {credential : StoredCredential} (readable : readAll codecs file = some all)
    (accepted : (add codecs written file credential).accepted = true) :
    ∃ text, storedText codecs (keptBeside credential all ++ [credential]) = some text /\
      (add codecs written file credential).file = some text := by
  simp only [add, readable, writeAll] at accepted ⊢
  cases stored : storedText codecs (keptBeside credential all ++ [credential]) with
  | none => simp [stored] at accepted
  | some text =>
    cases written with
    | false => simp [stored] at accepted
    | true => exact ⟨text, rfl, rfl⟩

theorem writeAll_refused {credentials : List StoredCredential}
    (refused : (writeAll codecs written file credentials).1 = false) :
    (writeAll codecs written file credentials).2 = file := by
  unfold writeAll at refused ⊢
  cases stored : storedText codecs credentials with
  | none => rfl
  | some text =>
    cases written with
    | false => rfl
    | true => simp [stored] at refused

theorem add_refused {credential : StoredCredential}
    (refused : (add codecs written file credential).accepted = false) :
    (add codecs written file credential).file = file := by
  unfold add at refused ⊢
  split
  · rfl
  next all readable =>
    have kept := @writeAll_refused codecs file written (keptBeside credential all ++ [credential])
    simp only [readable] at refused
    generalize writeAll codecs written file (keptBeside credential all ++ [credential]) = outcome at *
    obtain ⟨accepted, after⟩ := outcome
    cases accepted with
    | false => exact kept rfl
    | true => cases refused

variable {credentialId : Bytes}

theorem remove_refused (refused : (remove codecs written file credentialId).accepted = false) :
    (remove codecs written file credentialId).file = file := by
  unfold remove at refused ⊢
  split
  · rfl
  next all readable =>
    have kept := @writeAll_refused codecs file written (without credentialId all)
    simp only [readable] at refused
    split
    · rfl
    next counted =>
      rw [if_neg counted] at refused
      generalize writeAll codecs written file (without credentialId all) = outcome at *
      obtain ⟨accepted, after⟩ := outcome
      cases accepted with
      | false => exact kept rfl
      | true => cases refused

theorem remove_accepted (readable : readAll codecs file = some all)
    (present : ∃ credential, credential ∈ all /\ credential.credentialId = credentialId)
    (accepted : (remove codecs written file credentialId).accepted = true) :
    ∃ text, storedText codecs (without credentialId all) = some text /\
      (remove codecs written file credentialId).file = some text := by
  have counted : (all.countP fun credential => credential.credentialId = credentialId) ≠ 0 := by
    obtain ⟨credential, member, same⟩ := present
    intro zero
    exact List.countP_eq_zero.mp zero credential member (by simpa using same)
  simp only [remove, readable, if_neg counted, writeAll] at accepted ⊢
  cases stored : storedText codecs (without credentialId all) with
  | none => simp [stored] at accepted
  | some text =>
    cases written with
    | false => simp [stored] at accepted
    | true => exact ⟨text, rfl, rfl⟩

theorem remove_absent (readable : readAll codecs file = some all)
    (absent : ∀ credential ∈ all, credential.credentialId ≠ credentialId) :
    (remove codecs written file credentialId).file = file /\ without credentialId all = all := by
  have counted : (all.countP fun credential => credential.credentialId = credentialId) = 0 := by
    rw [List.countP_eq_zero]
    intro credential member same
    exact absent credential member (by simpa using same)
  constructor
  · simp only [remove, readable, counted, if_true]
  · exact List.filter_eq_self.mpr fun credential member => by simpa using absent credential member

end Kept

theorem passkey_file_kept (codecs : Codecs) (faithful : codecs.Faithful)
    (newestFirst : NewestFirst) (file : Option Bytes) (all : List StoredCredential)
    (readable : readAll codecs file = some all) (written : Bool) :
    (forall credential : StoredCredential, credential.credentialId.length = 16 ->
      (add codecs written file credential).accepted = true ->
      (KeptFaithfully codecs newestFirst (add codecs written file credential).file
          (keptBeside credential all ++ [credential]) ↔
        FitsReader codecs (keptBeside credential all ++ [credential]) ∧
          DatesApart codecs (keptBeside credential all ++ [credential]))) ∧
    forall credentialId : Bytes, (remove codecs written file credentialId).accepted = true ->
      (KeptFaithfully codecs newestFirst (remove codecs written file credentialId).file
          (without credentialId all) ↔
        (forall credential, credential ∈ all -> credential.credentialId ≠ credentialId) ∨
          FitsReader codecs (without credentialId all) ∧
            DatesApart codecs (without credentialId all)) := by
  have named := readAll_named readable
  constructor
  · intro credential length accepted
    obtain ⟨text, stored, after⟩ := add_accepted readable accepted
    rw [after]
    apply stored_kept_iff faithful _ stored
    intro other member
    rcases List.mem_append.mp member with kept | new
    · exact named other (List.mem_filter.mp kept).1
    · obtain rfl := List.mem_singleton.mp new
      intro empty
      simp [empty] at length
  · intro credentialId accepted
    by_cases absent : forall credential, credential ∈ all ->
        credential.credentialId ≠ credentialId
    · obtain ⟨sameFile, sameList⟩ := remove_absent readable absent
      rw [sameFile, sameList]
      exact iff_of_true (kept_unchanged readable) (Or.inl absent)
    · obtain ⟨text, stored, after⟩ :=
        remove_accepted readable (by push Not at absent; exact absent) accepted
      rw [after, or_iff_right absent]
      apply stored_kept_iff faithful _ stored
      intro other member
      exact named other (List.mem_filter.mp member).1

section Samples

def notOlder (first second : StoredCredential) : Bool := decide (second.created <= first.created)

def newestFirstStable : NewestFirst where
  sort := fun credentials => credentials.mergeSort notOlder
  perm := fun credentials => List.mergeSort_perm credentials _
  sorted := by
    intro credentials
    have sorted : (credentials.mergeSort notOlder).Pairwise
        fun first second => notOlder first second = true := by
      apply List.pairwise_mergeSort
      · intro first second third
        simp only [notOlder, decide_eq_true_eq]
        exact fun ab bc => le_trans bc ab
      · intro first second
        simp only [notOlder, Bool.or_eq_true, decide_eq_true_eq]
        exact le_total _ _
    exact sorted.imp fun ordered => by simpa [notOlder] using ordered

def secondsOf (created : Time) : Double :=
  if created = 0 then .finite 0 else .finite (((created - kUnixEpoch : Int) : Rat) / 1000000)

def timeOf : Double -> Time
  | .finite value => if value = 0 then 0 else kUnixEpoch + (value * 1000000).floor
  | .notFinite => 0

theorem timeOf_secondsOf (created : Time) :
    timeOf (secondsOf created) = if created = kUnixEpoch then 0 else created := by
  by_cases noTime : created = 0
  · subst noTime
    rfl
  · by_cases atEpoch : created = kUnixEpoch
    · simp [secondsOf, timeOf, atEpoch]
    · have apart : ((created - kUnixEpoch : Int) : Rat) / 1000000 ≠ 0 := by
        have difference : created - kUnixEpoch ≠ 0 := sub_ne_zero.mpr atEpoch
        exact div_ne_zero (by exact_mod_cast difference) (by norm_num)
      have whole : ((created - kUnixEpoch : Int) : Rat) / 1000000 * 1000000 =
          ((created - kUnixEpoch : Int) : Rat) := by
        rw [div_mul_cancel₀]
        norm_num
      simp only [secondsOf, noTime, if_false, timeOf, apart, whole, atEpoch]
      rw [Rat.floor_intCast]
      exact add_sub_cancel kUnixEpoch created

def sampleCredential (userName : String) : StoredCredential where
  credentialId := List.replicate 16 0
  rpId := "example.com"
  user := { id := [1], name := some userName, displayName := none }
  created := kUnixEpoch + 1767225600000000

def sampleText (userName : String) : Bytes :=
  asciiBytes "\x7b\"credentials\":[\x7b\"created\":1767225600.0," ++
    asciiBytes "\"credential_id\":\"AAAAAAAAAAAAAAAAAAAAAA==\",\"rp_id\":\"example.com\"," ++
    asciiBytes "\"user_id\":\"AQ==\",\"user_name\":\"" ++ asciiBytes userName ++
    asciiBytes "\"\x7d],\"version\":1\x7d"

def withoutJson : Codecs where
  base64Encode := base64Encode
  base64Decode := base64Decode
  writeJson := fun _ => none
  readJson := fun _ => none
  inSecondsFSinceUnixEpoch := secondsOf
  fromSecondsSinceUnixEpoch := timeOf

def emptyText : Bytes := asciiBytes "\x7b\"credentials\":[],\"version\":1\x7d"

variable (userName : String)

theorem sampleText_length : (sampleText userName).length = 135 + userName.toList.length + 16 := by
  simp only [sampleText, asciiBytes, List.length_append, List.length_map]
  repeat rw [String.toList_ofList]
  rfl

theorem emptyText_apart : emptyText ≠ sampleText userName := by
  intro same
  have lengths := congrArg List.length same
  have empty : emptyText.length = 30 := by
    rw [emptyText, asciiBytes, List.length_map, String.toList_ofList]
    rfl
  rw [empty, sampleText_length] at lengths
  omega

-- JSON as far as a file with the sample credential alone, or with none, needs it.
open Classical in
noncomputable def sampleCodecs (userName : String) : Codecs :=
  let root := rootOf withoutJson [sampleCredential userName]
  let emptyRoot := rootOf withoutJson []
  { withoutJson with
    writeJson := fun dict =>
      if dict = root then some (sampleText userName)
      else if dict = emptyRoot then some emptyText
      else none
    readJson := fun text =>
      if text = sampleText userName then some root
      else if text = emptyText then some emptyRoot
      else none }

theorem sampleCodecs_faithful : (sampleCodecs userName).Faithful where
  base64 := base64Decode_encode
  json := by
    intro dict text written
    simp only [sampleCodecs] at written ⊢
    split at written
    case isTrue root =>
      obtain rfl := Option.some.inj written
      simp [root]
    case isFalse =>
      split at written
      case isTrue empty =>
        obtain rfl := Option.some.inj written
        simp [empty, emptyText_apart]
      case isFalse => cases written
  noTime := timeOf_secondsOf 0
  epoch := timeOf_secondsOf kUnixEpoch
  ordered := by
    intro earlier later notLater earlierApart laterApart
    simpa [Codecs.reread, sampleCodecs, withoutJson, timeOf_secondsOf, earlierApart, laterApart]
      using notLater

theorem empty_stored : storedText (sampleCodecs userName) [] = some emptyText := by
  have root : rootOf (sampleCodecs userName) [] = rootOf withoutJson [] := rfl
  have apart : rootOf withoutJson [] ≠ rootOf withoutJson [sampleCredential userName] := by
    simp [rootOf, DictValue.set, kVersionKey, kCredentialsKey]
  rw [storedText, root]
  simp [sampleCodecs, apart]

theorem sample_stored :
    storedText (sampleCodecs userName) [sampleCredential userName] =
      some (sampleText userName) := by
  have root : rootOf (sampleCodecs userName) [sampleCredential userName] =
      rootOf withoutJson [sampleCredential userName] := rfl
  rw [storedText, root]
  exact if_pos rfl

theorem sample_added :
    add (sampleCodecs userName) true none (sampleCredential userName) =
      { accepted := true, file := some (sampleText userName), deletedKeys := [] } := by
  simp [add, readAll, writeAll, keptBeside, retiredBy, sample_stored]

theorem passkey_file_kept_sample :
    KeptFaithfully (sampleCodecs "Ann") newestFirstStable
      (add (sampleCodecs "Ann") true none (sampleCredential "Ann")).file
      [sampleCredential "Ann"] := by
  have both := passkey_file_kept (sampleCodecs "Ann") (sampleCodecs_faithful "Ann")
    newestFirstStable none [] rfl true
  have accepted : (add (sampleCodecs "Ann") true none (sampleCredential "Ann")).accepted = true := by
    rw [sample_added]
  apply (both.1 (sampleCredential "Ann") rfl accepted).mpr
  constructor
  · intro text stored
    have sample : some (sampleText "Ann") = some text := (sample_stored "Ann").symm.trans stored
    obtain rfl := Option.some.inj sample
    simp [sampleText_length, kMaxFileSize]
  · intro atEpoch member _ _ atIt
    obtain rfl := List.mem_singleton.mp member
    exact absurd atIt (by decide)

def longName : String := String.ofList (List.replicate kMaxFileSize 'a')

theorem longName_unreadable : kMaxFileSize < (sampleText longName).length := by
  have name : longName.toList.length = kMaxFileSize := by simp [longName]
  rw [sampleText_length, name]
  omega

theorem passkey_file_lost :
    ¬ forall (codecs : Codecs) (newestFirst : NewestFirst) (file : Option Bytes)
      (all : List StoredCredential) (written : Bool) (credential : StoredCredential),
      codecs.Faithful -> readAll codecs file = some all -> credential.credentialId.length = 16 ->
      (add codecs written file credential).accepted = true ->
      KeptFaithfully codecs newestFirst (add codecs written file credential).file
        (keptBeside credential all ++ [credential]) := by
  intro claim
  have kept := claim (sampleCodecs longName) newestFirstStable none [] true
    (sampleCredential longName) (sampleCodecs_faithful longName) rfl rfl (by rw [sample_added])
  rw [sample_added] at kept
  obtain ⟨_, readable, _⟩ := kept
  simp [readAll, longName_unreadable] at readable

end Samples

end ChromiumHmos.Passkeys
