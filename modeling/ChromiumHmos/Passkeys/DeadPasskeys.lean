import ChromiumHmos.Lib.History
import ChromiumHmos.Passkeys.Assertions
import ChromiumHmos.Passkeys.CredentialFile

set_option autoImplicit false

/-!
# Passkeys whose key is gone

A key found gone when a session is finished has its credential removed, and a removed credential
is neither offered nor chosen again. A key found gone when a session is opened changes nothing.
-/

namespace ChromiumHmos.Passkeys

open Base Lib Transition

def HuksTask.commits : HuksTask -> Option Bytes
  | .commitCredential _ credential => some credential.credentialId
  | _ => none

def HuksTask.about : HuksTask -> Option Bytes
  | .finishSigning _ prepared => some prepared.credential.credentialId
  | .removeCredential credentialId => some credentialId
  | _ => none

def Reply.about : Reply -> Option Bytes
  | .assertionPrepared _ prepared => prepared.map fun prepared => prepared.credential.credentialId
  | .assertionSigned _ prepared _ => some prepared.credential.credentialId

def Event.removedId : Event -> Option Bytes
  | .removed credentialId => some credentialId
  | _ => none

-- Ids of registrations that wait to be written.
def State.pending (s : State) : List Bytes := s.huks.filterMap HuksTask.commits

-- Ids the assertion flow holds, or has removed.
def State.mentioned (s : State) : List Bytes :=
  s.huks.filterMap HuksTask.about ++ s.replies.filterMap Reply.about ++
    s.prompts.map (fun prompt => prompt.prepared.credential.credentialId) ++
    s.log.filterMap Event.removedId

def State.Settled (s : State) (id : Bytes) : Prop := id ∈ s.issued ∧ id ∉ s.pending

/-- No id is issued twice: one that waits to be written is in no other place, and one that was
removed is not in the file. -/
structure Distinct (codecs : Codecs) (s : State) : Prop where
  pending : s.pending.Nodup
  issued : forall id, id ∈ s.pending -> id ∈ s.issued
  named : forall excludeList credential,
    HuksTask.commitCredential excludeList credential ∈ s.huks -> credential.credentialId ≠ []
  mentioned : forall id, id ∈ s.mentioned -> s.Settled id
  filed : forall id, id ∈ fileIds codecs s.file -> s.Settled id
  removed : forall id, id ∈ fileIds codecs s.file -> Event.removed id ∉ s.log

section Store

variable {codecs : Codecs} {newestFirst : NewestFirst}

variable {file : Option Bytes} {id : Bytes}

theorem mem_fileIds :
    id ∈ fileIds codecs file ↔
      ∃ all, readAll codecs file = some all /\
        ∃ credential, credential ∈ all /\ credential.credentialId = id := by
  cases readable : readAll codecs file with
  | none => simp [fileIds, readable]
  | some all => simp [fileIds, readable]

theorem stored_ids (faithful : codecs.Faithful) {credentials : List StoredCredential}
    (named : ∀ credential ∈ credentials, credential.credentialId ≠ [])
    {text : Bytes} (stored : storedText codecs credentials = some text)
    (member : id ∈ fileIds codecs (some text)) :
    id ∈ credentials.map StoredCredential.credentialId := by
  obtain ⟨all, readable, credential, inside, same⟩ := mem_fileIds.mp member
  rw [readAll_stored faithful named stored] at readable
  split at readable
  · cases readable
  · obtain rfl := Option.some.inj readable
    obtain ⟨original, originalIn, rfl⟩ := List.mem_map.mp inside
    exact List.mem_map.mpr ⟨original, originalIn, same⟩

variable {written : Bool}

theorem remove_ids (faithful : codecs.Faithful) {credentialId : Bytes}
    (member : id ∈ fileIds codecs (remove codecs written file credentialId).file) :
    id ∈ fileIds codecs file /\
      ((remove codecs written file credentialId).accepted = true -> id ≠ credentialId) := by
  cases readable : readAll codecs file with
  | none =>
    simp only [remove, readable] at member ⊢
    exact ⟨member, by simp⟩
  | some all =>
    by_cases absent : ∀ credential ∈ all,
        credential.credentialId ≠ credentialId
    · have unchanged : (remove codecs written file credentialId).file = file :=
        (remove_absent readable absent).1
      rw [unchanged] at member
      refine ⟨member, fun _ same => ?_⟩
      obtain ⟨read, readNow, credential, inside, itsId⟩ := mem_fileIds.mp member
      rw [readable] at readNow
      obtain rfl := Option.some.inj readNow
      exact absent credential inside (itsId.trans same)
    · cases accepted : (remove codecs written file credentialId).accepted with
      | false =>
        rw [remove_refused accepted] at member
        exact ⟨member, by simp⟩
      | true =>
        push Not at absent
        obtain ⟨text, stored, after⟩ := remove_accepted readable absent accepted
        rw [after] at member
        have kept := stored_ids faithful
          (fun other inside => readAll_named readable other (List.mem_filter.mp inside).1)
          stored member
        obtain ⟨credential, inside, rfl⟩ := List.mem_map.mp kept
        obtain ⟨inAll, differs⟩ := List.mem_filter.mp inside
        refine ⟨mem_fileIds.mpr ⟨all, readable, credential, inAll, rfl⟩, fun _ => ?_⟩
        simpa using differs

variable {credential : StoredCredential}

theorem add_ids (faithful : codecs.Faithful) (named : credential.credentialId ≠ [])
    (member : id ∈ fileIds codecs (add codecs written file credential).file) :
    id ∈ fileIds codecs file \/ id = credential.credentialId := by
  cases readable : readAll codecs file with
  | none =>
    simp only [add, readable] at member
    exact Or.inl member
  | some all =>
    cases accepted : (add codecs written file credential).accepted with
    | false =>
      rw [add_refused accepted] at member
      exact Or.inl member
    | true =>
      obtain ⟨text, stored, after⟩ := add_accepted readable accepted
      rw [after] at member
      have kept := stored_ids faithful (fun other inside => ?_) stored member
      · rw [List.map_append, List.mem_append] at kept
        rcases kept with old | new
        · obtain ⟨other, inside, rfl⟩ := List.mem_map.mp old
          exact Or.inl (mem_fileIds.mpr
            ⟨all, readable, other, (List.mem_filter.mp inside).1, rfl⟩)
        · right
          simpa using new
      · rcases List.mem_append.mp inside with old | new
        · exact readAll_named readable other (List.mem_filter.mp old).1
        · obtain rfl := List.mem_singleton.mp new
          exact named

theorem commit_ids (faithful : codecs.Faithful) {answer : HuksAnswer}
    {excludeList : List PublicKeyCredentialDescriptor} (named : credential.credentialId ≠ [])
    (member : id ∈ fileIds codecs
      (commitCredential codecs newestFirst answer file excludeList credential)) :
    id ∈ fileIds codecs file \/ id = credential.credentialId := by
  simp only [commitCredential] at member
  split at member
  · exact Or.inl member
  · split at member
    · exact Or.inl member
    · exact add_ids faithful named member

variable {rpId : String} {allowList : List PublicKeyCredentialDescriptor}

theorem found_ids {found : List StoredCredential}
    (result : find codecs newestFirst file rpId allowList = some found) (member : credential ∈ found) :
    credential.credentialId ∈ fileIds codecs file := by
  simp only [find, Option.map_eq_some_iff] at result
  obtain ⟨all, readable, rfl⟩ := result
  have inside := (newestFirst.perm _).subset member
  exact mem_fileIds.mpr ⟨all, readable, credential, (List.mem_filter.mp inside).1, rfl⟩

theorem chosen_id
    (choice : chosen codecs newestFirst file rpId allowList = some credential) :
    credential.credentialId ∈ fileIds codecs file := by
  obtain ⟨found, result, first⟩ := Option.bind_eq_some_iff.mp choice
  exact found_ids result (List.mem_of_mem_head? first)

theorem prepared_id {answer : InitAnswer} {prepared : PreparedAssertion}
    (result : prepareAssertion codecs newestFirst answer file rpId allowList = some prepared) :
    prepared.credential.credentialId ∈ fileIds codecs file := by
  simp only [prepareAssertion] at result
  cases choice : chosen codecs newestFirst file rpId allowList with
  | none => simp [choice] at result
  | some credential =>
    simp only [choice] at result
    split at result
    · cases result
    · obtain rfl := Option.some.inj result
      exact chosen_id choice

end Store

section Steps

variable {codecs : Codecs} {newestFirst : NewestFirst}

/-- What a step away from the keystore's sequence can do. -/
structure Replied (s t : State) : Prop where
  file : t.file = s.file
  issued : t.issued = s.issued
  valid : forall weak, t.valid weak = true -> s.valid weak = true
  tasks : exists tasks, t.huks = s.huks ++ tasks ∧ forall task, task ∈ tasks ->
    task.commits = none ∧ (forall id, task.about = some id -> id ∈ s.mentioned) ∧
      forall id, task = .removeCredential id -> exists weak prepared result,
        Reply.assertionSigned weak prepared result ∈ s.replies ∧
          result.status = .keyInvalidated ∧ prepared.credential.credentialId = id
  replies : forall reply, reply ∈ t.replies -> reply ∈ s.replies
  prompts : forall prompt, prompt ∈ t.prompts ->
    prompt.prepared.credential.credentialId ∈ s.mentioned
  log : exists answers, t.log = s.log ++ answers ∧ forall event, event ∈ answers ->
    exists weak status, event = .answered weak status
  carried : forall weak prepared result, Reply.assertionSigned weak prepared result ∈ s.replies ->
    result.status = .keyInvalidated -> t.valid weak = true ->
      Reply.assertionSigned weak prepared result ∈ t.replies ∨
        HuksTask.removeCredential prepared.credential.credentialId ∈ t.huks

variable {s : State}

variable {prompt : Prompt}

variable {id : Bytes}

theorem mem_mentioned :
    id ∈ s.mentioned ↔
      ((id ∈ s.huks.filterMap HuksTask.about \/ id ∈ s.replies.filterMap Reply.about) \/
        id ∈ s.prompts.map (fun prompt => prompt.prepared.credential.credentialId)) \/
        id ∈ s.log.filterMap Event.removedId := by
  simp only [State.mentioned, List.mem_append]

theorem prompt_mentioned (member : prompt ∈ s.prompts) :
    prompt.prepared.credential.credentialId ∈ s.mentioned := by
  rw [mem_mentioned, List.mem_map]
  exact Or.inl (Or.inr ⟨prompt, member, rfl⟩)

theorem reply_mentioned {s : State} {reply : Reply} {id : Bytes} (member : reply ∈ s.replies)
    (about : reply.about = some id) : id ∈ s.mentioned := by
  rw [mem_mentioned]
  exact Or.inl (Or.inl (Or.inr (List.mem_filterMap.mpr ⟨reply, member, about⟩)))

theorem task_mentioned {task : HuksTask} (member : task ∈ s.huks)
    (about : task.about = some id) : id ∈ s.mentioned := by
  rw [mem_mentioned]
  exact Or.inl (Or.inl (Or.inl (List.mem_filterMap.mpr ⟨task, member, about⟩)))

theorem removed_mentioned (member : Event.removed id ∈ s.log) : id ∈ s.mentioned := by
  rw [mem_mentioned]
  exact Or.inr (List.mem_filterMap.mpr ⟨.removed id, member, rfl⟩)

theorem Replied.refl (s : State) : Replied s s where
  file := rfl
  issued := rfl
  valid := fun _ still => still
  tasks := ⟨[], by simp⟩
  replies := fun _ member => member
  prompts := fun _ member => prompt_mentioned member
  log := ⟨[], by simp⟩
  carried := fun _ _ _ member _ _ => Or.inl member

-- A task that neither registers nor holds a credential.
theorem Replied.post {s : State} {task : HuksTask} (commits : task.commits = none)
    (about : task.about = none) (pendingSession : Nat -> Option SigningSession) :
    Replied s { s with huks := s.huks ++ [task], pendingSession := pendingSession } where
  file := rfl
  issued := rfl
  valid := fun _ still => still
  tasks := by
    refine ⟨[task], rfl, fun other member => ?_⟩
    obtain rfl := List.mem_singleton.mp member
    refine ⟨commits, by simp [about], fun id same => ?_⟩
    simp [same, HuksTask.about] at about
  replies := fun _ member => member
  prompts := fun _ member => prompt_mentioned member
  log := ⟨[], by simp⟩
  carried := fun _ _ _ member _ _ => Or.inl member

variable {weak : WeakPtr} {rest : List Reply}

theorem replied_prepared {prepared : Option PreparedAssertion} (waiting : s.replies = .assertionPrepared weak prepared :: rest) :
    Replied s (onAssertionPrepared weak prepared { s with replies := rest }) := by
  have later : ∀ reply ∈ rest, reply ∈ s.replies := by
    intro reply member
    rw [waiting]
    exact List.mem_cons_of_mem _ member
  have kept : ∀ {weak prepared result},
      Reply.assertionSigned weak prepared result ∈ s.replies ->
        Reply.assertionSigned weak prepared result ∈ rest := by
    intro weak prepared result member
    rw [waiting] at member
    simpa using member
  cases prepared with
  | none =>
    simp only [onAssertionPrepared]
    split
    · exact {
        file := rfl, issued := rfl, valid := fun _ still => still
        tasks := ⟨[], by simp⟩
        replies := later
        prompts := fun _ member => prompt_mentioned member
        log := ⟨_, rfl, by simp⟩
        carried := fun _ _ _ member _ _ => Or.inl (kept member) }
    · exact {
        file := rfl, issued := rfl, valid := fun _ still => still
        tasks := ⟨[], by simp⟩
        replies := later
        prompts := fun _ member => prompt_mentioned member
        log := ⟨[], by simp⟩
        carried := fun _ _ _ member _ _ => Or.inl (kept member) }
  | some prepared =>
    simp only [onAssertionPrepared]
    split
    · refine {
        file := rfl, issued := rfl, valid := fun _ still => still
        tasks := ⟨[], by simp⟩
        replies := later
        prompts := ?_
        log := ⟨[], by simp⟩
        carried := fun _ _ _ member _ _ => Or.inl (kept member) }
      intro prompt member
      rcases List.mem_append.mp member with old | new
      · exact prompt_mentioned old
      · obtain rfl := List.mem_singleton.mp new
        apply @reply_mentioned _ (.assertionPrepared weak (some prepared))
        · simp [waiting]
        · rfl
    · exact {
        file := rfl, issued := rfl, valid := fun _ still => still
        tasks := ⟨[.abortSigning prepared.session], rfl, by simp [HuksTask.commits, HuksTask.about]⟩
        replies := later
        prompts := fun _ member => prompt_mentioned member
        log := ⟨[], by simp⟩
        carried := fun _ _ _ member _ _ => Or.inl (kept member) }

theorem replied_signed {prepared : PreparedAssertion} {result : SignResult}
    (waiting : s.replies = .assertionSigned weak prepared result :: rest) :
    Replied s (onAssertionSigned weak prepared result { s with replies := rest }) := by
  have first : Reply.assertionSigned weak prepared result ∈ s.replies := by simp [waiting]
  have later : ∀ reply ∈ rest, reply ∈ s.replies := by
    intro reply member
    rw [waiting]
    exact List.mem_cons_of_mem _ member
  have split : ∀ {weak' prepared' result'},
      Reply.assertionSigned weak' prepared' result' ∈ s.replies ->
        (weak' = weak /\ prepared' = prepared /\ result' = result) \/
          Reply.assertionSigned weak' prepared' result' ∈ rest := by
    intro weak' prepared' result' member
    rw [waiting] at member
    simpa using member
  -- A reply that only answers leaves the others, and was itself no report of a key that is gone.
  have answers : ∀ status, result.status ≠ .keyInvalidated ->
      Replied s { s with replies := rest, log := s.log ++ [.answered weak status] } := by
    intro status notGone
    refine {
      file := rfl, issued := rfl, valid := fun _ still => still
      tasks := ⟨[], by simp⟩
      replies := later
      prompts := fun _ member => prompt_mentioned member
      log := ⟨_, rfl, by simp⟩
      carried := ?_ }
    intro weak' prepared' result' member gone _
    rcases split member with ⟨-, -, rfl⟩ | old
    · exact absurd gone notGone
    · exact Or.inl old
  by_cases valid : s.valid weak = true
  · have runs : State.valid { s with replies := rest } weak = true := valid
    simp only [onAssertionSigned, runs, Bool.not_true, Bool.false_eq_true, if_false]
    cases status : result.status with
    | success => exact answers .success (by simp [status])
    | authRejected => exact answers .userConsentDenied (by simp [status])
    | error => exact answers .authenticatorResponseInvalid (by simp [status])
    | keyInvalidated =>
      refine {
        file := rfl, issued := rfl, valid := fun _ still => still
        tasks := ⟨_, rfl, ?_⟩
        replies := later
        prompts := fun _ member => prompt_mentioned member
        log := ⟨_, rfl, by simp⟩
        carried := ?_ }
      · intro task member
        obtain rfl := List.mem_singleton.mp member
        refine ⟨rfl, fun id about => ?_, fun id same => ?_⟩
        · exact reply_mentioned first about
        · exact ⟨weak, prepared, result, first, status, HuksTask.removeCredential.inj same⟩
      · intro weak' prepared' result' member _ _
        rcases split member with ⟨-, rfl, -⟩ | old
        · exact Or.inr (List.mem_append_right _ (by simp))
        · exact Or.inl old
  · have invalid : s.valid weak = false := by simpa using valid
    have dropped : State.valid { s with replies := rest } weak = false := invalid
    simp only [onAssertionSigned, dropped, Bool.not_false, if_true]
    refine {
      file := rfl, issued := rfl, valid := fun _ still => still
      tasks := ⟨[], by simp⟩
      replies := later
      prompts := fun _ member => prompt_mentioned member
      log := ⟨[], by simp⟩
      carried := ?_ }
    intro weak' prepared' result' member _ still
    rcases split member with ⟨rfl, -, -⟩ | old
    · exact absurd still valid
    · exact Or.inl old

theorem replied_authenticated {index : Nat} (authenticated : Bool)
    (waiting : s.prompts[index]? = some prompt) :
    Replied s (onGetAssertionUserAuthenticated prompt authenticated
      { s with prompts := s.prompts.eraseIdx index }) := by
  have prompts : ∀ other, other ∈ s.prompts.eraseIdx index ->
      other.prepared.credential.credentialId ∈ s.mentioned := by
    intro other member
    exact prompt_mentioned (List.mem_of_mem_eraseIdx member)
  have mentioned := prompt_mentioned (List.mem_of_getElem? waiting)
  simp only [onGetAssertionUserAuthenticated]
  split
  · exact {
      file := rfl, issued := rfl, valid := fun _ still => still
      tasks := ⟨[], by simp⟩
      replies := fun _ member => member
      prompts := prompts
      log := ⟨[], by simp⟩
      carried := fun _ _ _ member _ _ => Or.inl member }
  · split
    · exact {
        file := rfl, issued := rfl, valid := fun _ still => still
        tasks := ⟨_, rfl, by simp [HuksTask.commits, HuksTask.about]⟩
        replies := fun _ member => member
        prompts := prompts
        log := ⟨_, rfl, by simp⟩
        carried := fun _ _ _ member _ _ => Or.inl member }
    · refine {
        file := rfl, issued := rfl, valid := fun _ still => still
        tasks := ⟨_, rfl, ?_⟩
        replies := fun _ member => member
        prompts := prompts
        log := ⟨[], by simp⟩
        carried := fun _ _ _ member _ _ => Or.inl member }
      intro task member
      obtain rfl := List.mem_singleton.mp member
      refine ⟨rfl, fun id about => ?_, fun id same => by cases same⟩
      obtain rfl := Option.some.inj about
      exact mentioned

theorem replied_cancel (s : State) (authenticator : Nat) :
    Replied s (cancel authenticator s) where
  file := rfl
  issued := rfl
  valid := by
    intro weak still
    simp only [State.valid, cancel, decide_eq_true_eq, List.mem_cons, not_or] at still ⊢
    exact still.2
  tasks := by
    refine ⟨_, rfl, ?_⟩
    intro task member
    cases held : s.pendingSession authenticator with
    | none => simp [held] at member
    | some session =>
      obtain rfl : task = .abortSigning session := by simpa [held] using member
      exact ⟨rfl, by simp [HuksTask.about], by simp⟩
  replies := fun _ member => member
  prompts := fun _ member => prompt_mentioned member
  log := ⟨[], by simp [cancel]⟩
  carried := fun _ _ _ member _ _ => Or.inl member

theorem step_cases (s : State) (label : Label) :
    Replied s (next codecs newestFirst s label) \/
      (∃ excludeList credential, label = .commit excludeList credential) \/
      ∃ answer task rest, label = .runTask answer /\ s.huks = task :: rest := by
  cases label with
  | getAssertion authenticator rpId allowList => exact Or.inl (.post rfl rfl s.pendingSession)
  | getCredentialInfo rpId allowList => exact Or.inl (.post rfl rfl s.pendingSession)
  | commit excludeList credential => exact Or.inr (Or.inl ⟨excludeList, credential, rfl⟩)
  | runTask answer =>
    cases waiting : s.huks with
    | nil =>
      left
      simp only [next, waiting]
      exact .refl s
    | cons task rest => exact Or.inr (Or.inr ⟨answer, task, rest, rfl, rfl⟩)
  | runReply =>
    left
    simp only [next]
    cases waiting : s.replies with
    | nil => exact .refl s
    | cons reply rest =>
      cases reply with
      | assertionPrepared weak prepared => exact replied_prepared waiting
      | assertionSigned weak prepared result => exact replied_signed waiting
  | authenticated index authenticated =>
    left
    simp only [next]
    cases waiting : s.prompts[index]? with
    | none => exact .refl s
    | some prompt => exact replied_authenticated authenticated waiting
  | cancel authenticator => exact Or.inl (replied_cancel s authenticator)

end Steps

section Ids

variable {codecs : Codecs} {newestFirst : NewestFirst}

variable {s t : State}

theorem Replied.pending (replied : Replied s t) : t.pending = s.pending := by
  obtain ⟨tasks, huks, quiet⟩ := replied.tasks
  have nothing : tasks.filterMap HuksTask.commits = [] := by
    rw [List.filterMap_eq_nil_iff]
    exact fun task member => (quiet task member).1
  rw [State.pending, State.pending, huks, List.filterMap_append, nothing, List.append_nil]

variable {id : Bytes}

theorem Replied.removed (replied : Replied s t)
    (member : Event.removed id ∈ t.log) : Event.removed id ∈ s.log := by
  obtain ⟨answers, log, quiet⟩ := replied.log
  rw [log] at member
  rcases List.mem_append.mp member with old | new
  · exact old
  · obtain ⟨weak, status, impossible⟩ := quiet _ new
    cases impossible

theorem Replied.mentioned (replied : Replied s t)
    (member : id ∈ t.mentioned) : id ∈ s.mentioned := by
  simp only [State.mentioned, List.mem_append, List.mem_filterMap, List.mem_map] at member
  rcases member with ((⟨task, waits, about⟩ | ⟨reply, waits, about⟩) | ⟨prompt, waits, rfl⟩) |
    ⟨event, logged, about⟩
  · obtain ⟨tasks, huks, quiet⟩ := replied.tasks
    rw [huks] at waits
    rcases List.mem_append.mp waits with old | new
    · exact task_mentioned old about
    · exact (quiet task new).2.1 id about
  · exact reply_mentioned (replied.replies reply waits) about
  · exact replied.prompts prompt waits
  · cases event with
    | removed removedId =>
      obtain rfl := Option.some.inj about
      exact removed_mentioned (replied.removed logged)
    | selected | offered | keyGone | answered => cases about

theorem Replied.distinct (replied : Replied s t) (ids : Distinct codecs s) : Distinct codecs t := by
  have settled : ∀ id, s.Settled id -> t.Settled id := by
    intro id before
    exact ⟨by rw [replied.issued]; exact before.1, by rw [replied.pending]; exact before.2⟩
  refine {
    pending := by rw [replied.pending]; exact ids.pending
    issued := by rw [replied.pending, replied.issued]; exact ids.issued
    named := ?_
    mentioned := fun id member => settled id (ids.mentioned id (replied.mentioned member))
    filed := by rw [replied.file]; exact fun id member => settled id (ids.filed id member)
    removed := ?_ }
  · intro excludeList credential member
    obtain ⟨tasks, huks, quiet⟩ := replied.tasks
    rw [huks] at member
    rcases List.mem_append.mp member with old | new
    · exact ids.named excludeList credential old
    · have nothing := (quiet _ new).1
      cases nothing
  · rw [replied.file]
    exact fun id member logged => ids.removed id member (replied.removed logged)

theorem Distinct.commit (ids : Distinct codecs s)
    {excludeList : List PublicKeyCredentialDescriptor} {credential : StoredCredential}
    (allowed : Allowed s (.commit excludeList credential)) :
    Distinct codecs (next codecs newestFirst s (.commit excludeList credential)) := by
  obtain ⟨length, fresh⟩ := allowed
  have pending : (next codecs newestFirst s (.commit excludeList credential)).pending =
      s.pending ++ [credential.credentialId] := by
    simp [next, State.pending, HuksTask.commits]
  have settled : ∀ id, s.Settled id ->
      (next codecs newestFirst s (.commit excludeList credential)).Settled id := by
    intro id before
    refine ⟨List.mem_cons_of_mem _ before.1, fun waits => ?_⟩
    rw [pending] at waits
    rcases List.mem_append.mp waits with old | new
    · exact before.2 old
    · obtain rfl := List.mem_singleton.mp new
      exact fresh before.1
  refine {
    pending := ?_
    issued := ?_
    named := ?_
    mentioned := ?_
    filed := fun id member => settled id (ids.filed id member)
    removed := ids.removed }
  · rw [pending, List.nodup_append]
    refine ⟨ids.pending, by simp, ?_⟩
    intro old waits new same equal
    obtain rfl := List.mem_singleton.mp same
    exact fresh (equal ▸ ids.issued old waits)
  · intro id member
    rw [pending] at member
    rcases List.mem_append.mp member with old | new
    · exact List.mem_cons_of_mem _ (ids.issued id old)
    · obtain rfl := List.mem_singleton.mp new
      exact List.mem_cons_self
  · intro otherList other member
    rcases List.mem_append.mp member with old | new
    · exact ids.named otherList other old
    · obtain ⟨rfl, rfl⟩ := HuksTask.commitCredential.inj (List.mem_singleton.mp new)
      intro empty
      simp [empty] at length
  · intro id member
    apply settled
    apply ids.mentioned
    simpa [next, State.mentioned, HuksTask.about] using member

variable {rest : List HuksTask}

theorem Distinct.tail (ids : Distinct codecs s) {task : HuksTask} (waiting : s.huks = task :: rest) :
    Distinct codecs { s with huks := rest } := by
  have fewer : (State.pending { s with huks := rest }).Sublist s.pending := by
    rw [State.pending, State.pending, waiting]
    exact (List.sublist_cons_self task rest).filterMap _
  have settled : ∀ id, s.Settled id -> State.Settled { s with huks := rest } id :=
    fun id before => ⟨before.1, fun waits => before.2 (fewer.subset waits)⟩
  refine {
    pending := ids.pending.sublist fewer
    issued := fun id member => ids.issued id (fewer.subset member)
    named := ?_
    mentioned := ?_
    filed := fun id member => settled id (ids.filed id member)
    removed := ids.removed }
  · intro excludeList credential member
    exact ids.named excludeList credential (by rw [waiting]; exact List.mem_cons_of_mem _ member)
  · intro id member
    apply settled
    apply ids.mentioned
    simp only [State.mentioned, waiting, List.mem_append, List.mem_filterMap] at member ⊢
    rcases member with ((⟨other, waits, about⟩ | inReplies) | inPrompts) | inLog
    · exact Or.inl (Or.inl (Or.inl ⟨other, List.mem_cons_of_mem _ waits, about⟩))
    · exact Or.inl (Or.inl (Or.inr inReplies))
    · exact Or.inl (Or.inr inPrompts)
    · exact Or.inr inLog

theorem Distinct.ran (ids : Distinct codecs s) (huks : t.huks = s.huks)
    (issued : t.issued = s.issued)
    (mentioned : ∀ id ∈ t.mentioned, id ∈ s.mentioned \/ s.Settled id)
    (filed : ∀ id, id ∈ fileIds codecs t.file ->
      s.Settled id /\ Event.removed id ∉ t.log) : Distinct codecs t := by
  have pending : t.pending = s.pending := by rw [State.pending, State.pending, huks]
  have settled : ∀ id, s.Settled id -> t.Settled id := by
    intro id before
    exact ⟨by rw [issued]; exact before.1, by rw [pending]; exact before.2⟩
  refine {
    pending := by rw [pending]; exact ids.pending
    issued := by rw [pending, issued]; exact ids.issued
    named := by rw [huks]; exact ids.named
    mentioned := ?_
    filed := fun id member => settled id (filed id member).1
    removed := fun id member => (filed id member).2 }
  intro id member
  rcases mentioned id member with old | fresh
  · exact settled id (ids.mentioned id old)
  · exact settled id fresh

theorem mentioned_extended {s t : State} (huks : t.huks = s.huks) (prompts : t.prompts = s.prompts)
    {more : List Reply} (replies : t.replies = s.replies ++ more)
    {events : List Event} (log : t.log = s.log ++ events) {id : Bytes} (member : id ∈ t.mentioned) :
    id ∈ s.mentioned \/ (∃ reply, reply ∈ more /\ reply.about = some id) \/
      Event.removed id ∈ events := by
  simp only [State.mentioned, huks, prompts, replies, log, List.filterMap_append,
    List.mem_append, List.mem_filterMap] at member ⊢
  rcases member with ((inHuks | old | new) | inPrompts) | old | ⟨event, new, about⟩
  · exact Or.inl (Or.inl (Or.inl (Or.inl inHuks)))
  · exact Or.inl (Or.inl (Or.inl (Or.inr old)))
  · exact Or.inr (Or.inl new)
  · exact Or.inl (Or.inl (Or.inr inPrompts))
  · exact Or.inl (Or.inr old)
  · cases event with
    | removed removedId =>
      obtain rfl := Option.some.inj about
      exact Or.inr (Or.inr new)
    | selected | offered | keyGone | answered => cases about

variable {weak : WeakPtr} {event : Event}

theorem prepareEvents_cases {answer : InitAnswer} {file : Option Bytes}
    {rpId : String} {allowList : List PublicKeyCredentialDescriptor}
    (member : event ∈ prepareEvents codecs newestFirst answer file weak rpId allowList) :
    ∃ credential, chosen codecs newestFirst file rpId allowList = some credential /\
      (event = .selected credential.credentialId \/
        answer.paramsBuilt = true /\ answer.code.keyGone = true /\
          event = .keyGone weak credential.credentialId) := by
  simp only [prepareEvents] at member
  cases choice : chosen codecs newestFirst file rpId allowList with
  | none => simp [choice] at member
  | some credential =>
    refine ⟨credential, rfl, ?_⟩
    simp only [choice] at member
    rcases List.mem_cons.mp member with first | second
    · exact Or.inl first
    · split at second
      case isTrue gone =>
        simp only [Bool.and_eq_true] at gone
        exact Or.inr ⟨gone.1, gone.2, List.mem_singleton.mp second⟩
      case isFalse => cases second

theorem prepareEvents_shape {answer : InitAnswer} {file : Option Bytes} {weak : WeakPtr}
    {rpId : String} {allowList : List PublicKeyCredentialDescriptor} :
    prepareEvents codecs newestFirst answer file weak rpId allowList = [] \/
      ∃ credential more, chosen codecs newestFirst file rpId allowList = some credential /\
        prepareEvents codecs newestFirst answer file weak rpId allowList =
          .selected credential.credentialId :: more /\
        ∀ event ∈ more, event = .keyGone weak credential.credentialId := by
  simp only [prepareEvents]
  cases chosen codecs newestFirst file rpId allowList with
  | none => exact Or.inl rfl
  | some credential =>
    refine Or.inr ⟨credential, _, rfl, rfl, ?_⟩
    intro event member
    split at member
    case isTrue => exact List.mem_singleton.mp member
    case isFalse => cases member

theorem finishEvents_cases {answer : FinishAnswer} {prepared : PreparedAssertion} (member : event ∈ finishEvents answer weak prepared) :
    (finishSigning answer).status = .keyInvalidated /\
      event = .keyGone weak prepared.credential.credentialId := by
  simp only [finishEvents] at member
  split at member
  case isTrue gone =>
    simp only [Bool.and_eq_true] at gone
    refine ⟨?_, List.mem_singleton.mp member⟩
    cases code : answer.code <;> simp_all [finishSigning, HuksCode.keyGone]
  case isFalse => cases member

theorem Distinct.task (faithful : codecs.Faithful) (ids : Distinct codecs s) {task : HuksTask} (waiting : s.huks = task :: rest)
    (answer : HuksAnswer) :
    Distinct codecs (runTask codecs newestFirst answer task { s with huks := rest }) := by
  have tail := ids.tail waiting
  have first : task ∈ s.huks := by simp [waiting]
  cases task with
  | prepareAssertion weak rpId allowList =>
    refine tail.ran (by rfl) (by rfl) ?_ ?_
    · intro id member
      have extended := @mentioned_extended { s with huks := rest } _ (by rfl) (by rfl) _ (by rfl)
        _ (by rfl) _ member
      rcases extended with old | ⟨reply, new, about⟩ | removed
      · exact Or.inl old
      · obtain rfl := List.mem_singleton.mp new
        obtain ⟨prepared, result, rfl⟩ := Option.map_eq_some_iff.mp about
        exact Or.inr (tail.filed _ (prepared_id result))
      · obtain ⟨_, _, selected | ⟨_, _, gone⟩⟩ := prepareEvents_cases removed
        · cases selected
        · cases gone
    · intro id member
      refine ⟨tail.filed id member, fun logged => ?_⟩
      rcases List.mem_append.mp logged with old | new
      · exact tail.removed id member old
      · obtain ⟨_, _, selected | ⟨_, _, gone⟩⟩ := prepareEvents_cases new
        · cases selected
        · cases gone
  | finishSigning weak prepared =>
    refine tail.ran (by rfl) (by rfl) ?_ ?_
    · intro id member
      have extended := @mentioned_extended { s with huks := rest } _ (by rfl) (by rfl) _ (by rfl)
        _ (by rfl) _ member
      rcases extended with old | ⟨reply, new, about⟩ | removed
      · exact Or.inl old
      · obtain rfl := List.mem_singleton.mp new
        obtain rfl := Option.some.inj about
        have before := ids.mentioned _ (task_mentioned first rfl)
        exact Or.inr ⟨before.1, fun waits => before.2 (by
          rw [State.pending, waiting, List.filterMap_cons]
          exact waits)⟩
      · cases (finishEvents_cases removed).2
    · intro id member
      refine ⟨tail.filed id member, fun logged => ?_⟩
      rcases List.mem_append.mp logged with old | new
      · exact tail.removed id member old
      · cases (finishEvents_cases new).2
  | abortSigning session => exact tail
  | removeCredential credentialId =>
    have before := ids.mentioned _ (task_mentioned first rfl)
    have settled : State.Settled { s with huks := rest } credentialId := by
      refine ⟨before.1, fun waits => before.2 ?_⟩
      rw [State.pending, waiting, List.filterMap_cons]
      exact waits
    simp only [runTask]
    cases accepted : (remove codecs answer.written s.file credentialId).accepted with
    | false =>
      refine tail.ran (by rfl) (by rfl) ?_ ?_
      · exact fun id member => Or.inl member
      · intro id member
        have old := (remove_ids faithful member).1
        exact ⟨tail.filed id old, tail.removed id old⟩
    | true =>
      refine tail.ran (by rfl) (by rfl) ?_ ?_
      · intro id member
        have extended := @mentioned_extended { s with huks := rest } _ (by rfl) (by rfl) []
          (by exact (List.append_nil _).symm) _ (by rfl) _ member
        rcases extended with
          old | ⟨reply, new, -⟩ | removed
        · exact Or.inl old
        · cases new
        · obtain rfl := Event.removed.inj (List.mem_singleton.mp removed)
          exact Or.inr settled
      · intro id member
        obtain ⟨old, differs⟩ := remove_ids faithful member
        refine ⟨tail.filed id old, fun logged => ?_⟩
        rcases List.mem_append.mp logged with before | new
        · exact tail.removed id old before
        · exact differs accepted (Event.removed.inj (List.mem_singleton.mp new))
  | findCredentials rpId allowList =>
    refine tail.ran (by rfl) (by rfl) ?_ ?_
    · intro id member
      have extended := @mentioned_extended { s with huks := rest } _ (by rfl) (by rfl) []
        (by exact (List.append_nil _).symm) _ (by rfl) _ member
      rcases extended with
        old | ⟨reply, new, -⟩ | removed
      · exact Or.inl old
      · cases new
      · cases List.mem_singleton.mp removed
    · intro id member
      refine ⟨tail.filed id member, fun logged => ?_⟩
      rcases List.mem_append.mp logged with old | new
      · exact tail.removed id member old
      · cases List.mem_singleton.mp new
  | commitCredential excludeList credential =>
    have pending : s.pending =
        credential.credentialId :: State.pending { s with huks := rest } := by
      simp [State.pending, waiting, HuksTask.commits]
    have waits : credential.credentialId ∈ s.pending := by simp [pending]
    have alone : credential.credentialId ∉ State.pending { s with huks := rest } := by
      have distinct := ids.pending
      rw [pending] at distinct
      exact (List.nodup_cons.mp distinct).1
    refine tail.ran (by rfl) (by rfl) ?_ ?_
    · exact fun id member => Or.inl member
    · intro id member
      rcases commit_ids faithful (ids.named excludeList credential first) member with old | rfl
      · exact ⟨tail.filed id old, tail.removed id old⟩
      · refine ⟨⟨ids.issued _ waits, alone⟩, fun logged => ?_⟩
        exact (ids.mentioned _ (removed_mentioned logged)).2 waits

theorem Distinct.next (faithful : codecs.Faithful) (ids : Distinct codecs s)
    {label : Label} (allowed : Allowed s label) :
    Distinct codecs (next codecs newestFirst s label) := by
  rcases @step_cases codecs newestFirst s label with
    replied | ⟨excludeList, credential, rfl⟩ | ⟨answer, task, rest, rfl, waiting⟩
  · exact replied.distinct ids
  · exact ids.commit allowed
  · simp only [Passkeys.next, waiting]
    exact ids.task faithful waiting answer

end Ids

/-- A removed credential is neither chosen nor offered again, and only a report that its key is
gone has a credential removed. -/
def Warranted (before : List Event) : Event -> Prop
  | .selected credentialId => Event.removed credentialId ∉ before
  | .offered credentialIds => forall id, id ∈ credentialIds -> Event.removed id ∉ before
  | .removed credentialId => exists weak, Event.keyGone weak credentialId ∈ before
  | _ => True

structure Reports (s : State) : Prop where
  history : History.Throughout Warranted s.log
  removals : forall id, HuksTask.removeCredential id ∈ s.huks ->
    exists weak, Event.keyGone weak id ∈ s.log
  signed : forall weak prepared result, Reply.assertionSigned weak prepared result ∈ s.replies ->
    result.status = .keyInvalidated ->
      Event.keyGone weak prepared.credential.credentialId ∈ s.log

/-- A report of an assertion that is not cancelled leads to the removal. -/
def Attended (s : State) : Prop :=
  forall weak id, Event.keyGone weak id ∈ s.log -> s.valid weak = true ->
    (exists prepared result, Reply.assertionSigned weak prepared result ∈ s.replies ∧
      result.status = .keyInvalidated ∧ prepared.credential.credentialId = id) ∨
    HuksTask.removeCredential id ∈ s.huks ∨ Event.removed id ∈ s.log

section Reported

variable {codecs : Codecs} {newestFirst : NewestFirst}

variable {s : State}

variable {t : State}

theorem Replied.reports (replied : Replied s t) (reports : Reports s) : Reports t := by
  obtain ⟨answers, log, quiet⟩ := replied.log
  have older : ∀ event ∈ s.log, event ∈ t.log := by
    intro event member
    rw [log]
    exact List.mem_append_left _ member
  constructor
  · rw [log]
    apply reports.history.append
    intro before event new
    obtain ⟨weak, status, rfl⟩ := quiet event new
    trivial
  · intro id member
    obtain ⟨tasks, huks, posted⟩ := replied.tasks
    rw [huks] at member
    rcases List.mem_append.mp member with old | new
    · obtain ⟨weak, gone⟩ := reports.removals id old
      exact ⟨weak, older _ gone⟩
    · obtain ⟨weak, prepared, result, waits, gone, rfl⟩ := (posted _ new).2.2 id rfl
      exact ⟨weak, older _ (reports.signed weak prepared result waits gone)⟩
  · intro weak prepared result member gone
    exact older _ (reports.signed weak prepared result (replied.replies _ member) gone)

theorem finishEvents_gone {answer : FinishAnswer} {weak : WeakPtr} {prepared : PreparedAssertion}
    (gone : (finishSigning answer).status = .keyInvalidated) :
    Event.keyGone weak prepared.credential.credentialId ∈ finishEvents answer weak prepared := by
  by_cases built : answer.paramsBuilt = true
  · cases code : answer.code with
    | keyAuthPermanentlyInvalidated => simp [finishEvents, built, code, HuksCode.keyGone]
    | itemNotExist => simp [finishEvents, built, code, HuksCode.keyGone]
    | success =>
      cases der : answer.derSignature <;> simp [finishSigning, built, code, der] at gone
    | keyAuthVerifyFailed | keyAuthTimeOut | other => simp [finishSigning, built, code] at gone
  · simp [finishSigning, built] at gone

variable {file : Option Bytes}

theorem credentialInfo_ids {rpId : String}
    {allowList : List PublicKeyCredentialDescriptor} {id : Bytes}
    (member : id ∈ credentialInfo codecs newestFirst file rpId allowList) :
    id ∈ fileIds codecs file := by
  obtain ⟨credential, inside, rfl⟩ := List.mem_map.mp member
  cases result : find codecs newestFirst file rpId allowList with
  | none => simp [result] at inside
  | some found =>
    rw [result] at inside
    exact found_ids result inside

theorem Reports.commit (reports : Reports s)
    {excludeList : List PublicKeyCredentialDescriptor} {credential : StoredCredential} :
    Reports (next codecs newestFirst s (.commit excludeList credential)) where
  history := reports.history
  removals := by
    intro id member
    rcases List.mem_append.mp member with old | new
    · exact reports.removals id old
    · cases List.mem_singleton.mp new
  signed := reports.signed

variable {rest : List HuksTask}

theorem Reports.task (ids : Distinct codecs s) (reports : Reports s) {task : HuksTask} (waiting : s.huks = task :: rest)
    (answer : HuksAnswer) :
    Reports (runTask codecs newestFirst answer task { s with huks := rest }) := by
  have first : task ∈ s.huks := by simp [waiting]
  have removals : ∀ id, HuksTask.removeCredential id ∈ rest ->
      ∃ weak, Event.keyGone weak id ∈ s.log :=
    fun id member => reports.removals id (by rw [waiting]; exact List.mem_cons_of_mem _ member)
  have grown : ∀ {id : Bytes} {events : List Event},
      (∃ weak, Event.keyGone weak id ∈ s.log) ->
        ∃ weak, Event.keyGone weak id ∈ s.log ++ events :=
    fun ⟨weak, gone⟩ => ⟨weak, List.mem_append_left _ gone⟩
  cases task with
  | prepareAssertion weak rpId allowList =>
    refine ⟨?_, fun id member => grown (removals id member), ?_⟩
    · rcases @prepareEvents_shape codecs newestFirst answer.init s.file weak rpId allowList with
        nothing | ⟨credential, more, choice, events, gone⟩
      · simpa only [runTask, nothing, List.append_nil] using reports.history
      · -- A choice comes from the file, which no removed credential is in.
        simp only [runTask, events]
        rw [List.append_cons]
        apply History.Throughout.append
        · exact reports.history.snoc (ids.removed _ (chosen_id choice))
        · intro before event member
          rw [gone event member]
          trivial
    · intro weak' prepared result member gone
      rcases List.mem_append.mp member with old | new
      · exact List.mem_append_left _ (reports.signed weak' prepared result old gone)
      · cases List.mem_singleton.mp new
  | finishSigning weak prepared =>
    refine ⟨?_, fun id member => grown (removals id member), ?_⟩
    · apply reports.history.append
      intro before event new
      rw [(finishEvents_cases new).2]
      trivial
    · intro weak' prepared' result member gone
      rcases List.mem_append.mp member with old | new
      · exact List.mem_append_left _ (reports.signed weak' prepared' result old gone)
      · obtain ⟨rfl, rfl, rfl⟩ := Reply.assertionSigned.inj (List.mem_singleton.mp new)
        exact List.mem_append_right _ (finishEvents_gone gone)
  | abortSigning session => exact ⟨reports.history, removals, reports.signed⟩
  | removeCredential credentialId =>
    simp only [runTask]
    split
    · refine ⟨?_, fun id member => grown (removals id member), ?_⟩
      · exact reports.history.snoc (reports.removals credentialId first)
      · intro weak prepared result member gone
        exact List.mem_append_left _ (reports.signed weak prepared result member gone)
    · exact ⟨reports.history, removals, reports.signed⟩
  | findCredentials rpId allowList =>
    refine ⟨?_, fun id member => grown (removals id member), ?_⟩
    · apply reports.history.snoc
      intro id member
      exact ids.removed id (credentialInfo_ids member)
    · intro weak prepared result member gone
      exact List.mem_append_left _ (reports.signed weak prepared result member gone)
  | commitCredential excludeList credential =>
    exact ⟨reports.history, removals, reports.signed⟩

theorem Reports.next (ids : Distinct codecs s) (reports : Reports s) (label : Label) :
    Reports (next codecs newestFirst s label) := by
  rcases @step_cases codecs newestFirst s label with
    replied | ⟨excludeList, credential, rfl⟩ | ⟨answer, task, rest, rfl, waiting⟩
  · exact replied.reports reports
  · exact reports.commit
  · simp only [Passkeys.next, waiting]
    exact reports.task ids waiting answer

/-- The keystore does not find a key gone when a session is opened for an assertion that still
waits, and a removal finds the file readable and can replace it. -/
def Meets (codecs : Codecs) (newestFirst : NewestFirst) (s : State) : Label -> Prop
  | .runTask answer =>
    match s.huks with
    | .prepareAssertion weak rpId allowList :: _ =>
      (chosen codecs newestFirst s.file rpId allowList).isSome = true ->
        s.valid weak = true -> answer.init.paramsBuilt = true -> answer.init.code.keyGone = false
    | .removeCredential credentialId :: _ =>
      exists all, readAll codecs s.file = some all ∧
        ((exists credential, credential ∈ all ∧ credential.credentialId = credentialId) ->
          answer.written = true ∧ (storedText codecs (without credentialId all)).isSome = true)
    | _ => True
  | _ => True

theorem remove_succeeds {written : Bool} {credentialId : Bytes}
    {all : List StoredCredential} (readable : readAll codecs file = some all)
    (able : (∃ credential, credential ∈ all /\ credential.credentialId = credentialId) ->
      written = true /\ (storedText codecs (without credentialId all)).isSome = true) :
    (remove codecs written file credentialId).accepted = true := by
  simp only [remove, readable]
  split
  · rfl
  · rename_i counted
    have present : ∃ credential, credential ∈ all /\
        credential.credentialId = credentialId := by
      by_contra absent
      push Not at absent
      apply counted
      rw [List.countP_eq_zero]
      intro credential member same
      exact absent credential member (by simpa using same)
    obtain ⟨rfl, stores⟩ := able present
    obtain ⟨text, stored⟩ := Option.isSome_iff_exists.mp stores
    simp [writeAll, stored]

theorem Replied.attended (replied : Replied s t) (attended : Attended s) : Attended t := by
  intro weak id gone valid
  obtain ⟨answers, log, quiet⟩ := replied.log
  have before : Event.keyGone weak id ∈ s.log := by
    rw [log] at gone
    rcases List.mem_append.mp gone with old | new
    · exact old
    · obtain ⟨_, _, impossible⟩ := quiet _ new
      cases impossible
  rcases attended weak id before (replied.valid weak valid) with
    ⟨prepared, result, waits, status, rfl⟩ | posted | removed
  · rcases replied.carried weak prepared result waits status valid with still | posted
    · exact Or.inl ⟨prepared, result, still, status, rfl⟩
    · exact Or.inr (Or.inl posted)
  · obtain ⟨tasks, huks, _⟩ := replied.tasks
    exact Or.inr (Or.inl (by rw [huks]; exact List.mem_append_left _ posted))
  · exact Or.inr (Or.inr (by rw [log]; exact List.mem_append_left _ removed))

theorem attended_task (attended : Attended s) {task : HuksTask} (waiting : s.huks = task :: rest) {answer : HuksAnswer}
    (meets : Meets codecs newestFirst s (.runTask answer)) :
    Attended (runTask codecs newestFirst answer task { s with huks := rest }) := by
  -- Whatever was under way stays so, unless it was the task that ran.
  have earlier : ∀ weak id, Event.keyGone weak id ∈ s.log -> s.valid weak = true ->
      (∃ prepared result, Reply.assertionSigned weak prepared result ∈ s.replies /\
        result.status = .keyInvalidated /\ prepared.credential.credentialId = id) \/
      task = .removeCredential id \/ HuksTask.removeCredential id ∈ rest \/
        Event.removed id ∈ s.log := by
    intro weak id gone valid
    rcases attended weak id gone valid with replying | posted | removed
    · exact Or.inl replying
    · rw [waiting] at posted
      rcases List.mem_cons.mp posted with now | later
      · exact Or.inr (Or.inl now.symm)
      · exact Or.inr (Or.inr (Or.inl later))
    · exact Or.inr (Or.inr (Or.inr removed))
  cases task with
  | prepareAssertion weak rpId allowList =>
    simp only [Meets, waiting] at meets
    intro weak' id gone valid
    have before : Event.keyGone weak' id ∈ s.log := by
      rcases List.mem_append.mp gone with old | new
      · exact old
      · obtain ⟨credential, choice, selected | ⟨built, isGone, same⟩⟩ := prepareEvents_cases new
        · cases selected
        · obtain ⟨rfl, _⟩ := Event.keyGone.inj same
          rw [meets (by rw [choice]; rfl) valid built] at isGone
          cases isGone
    rcases earlier weak' id before valid with
      ⟨prepared, result, waits, status, rfl⟩ | impossible | posted | removed
    · exact Or.inl ⟨prepared, result, List.mem_append_left _ waits, status, rfl⟩
    · cases impossible
    · exact Or.inr (Or.inl posted)
    · exact Or.inr (Or.inr (List.mem_append_left _ removed))
  | finishSigning weak prepared =>
    intro weak' id gone valid
    rcases List.mem_append.mp gone with old | new
    · rcases earlier weak' id old valid with
        ⟨held, result, waits, status, rfl⟩ | impossible | posted | removed
      · exact Or.inl ⟨held, result, List.mem_append_left _ waits, status, rfl⟩
      · cases impossible
      · exact Or.inr (Or.inl posted)
      · exact Or.inr (Or.inr (List.mem_append_left _ removed))
    · obtain ⟨status, same⟩ := finishEvents_cases new
      obtain ⟨rfl, rfl⟩ := Event.keyGone.inj same
      exact Or.inl ⟨prepared, finishSigning answer.finish,
        List.mem_append_right _ (by simp), status, rfl⟩
  | abortSigning session =>
    intro weak id gone valid
    rcases earlier weak id gone valid with replying | impossible | rest
    · exact Or.inl replying
    · cases impossible
    · exact Or.inr rest
  | removeCredential credentialId =>
    simp only [Meets, waiting] at meets
    obtain ⟨all, readable, able⟩ := meets
    have accepted := remove_succeeds readable able
    simp only [runTask, accepted, if_true]
    intro weak id gone valid
    have before : Event.keyGone weak id ∈ s.log := by
      rcases List.mem_append.mp gone with old | new
      · exact old
      · cases List.mem_singleton.mp new
    rcases earlier weak id before valid with replying | same | posted | removed
    · exact Or.inl replying
    · obtain rfl := HuksTask.removeCredential.inj same
      exact Or.inr (Or.inr (List.mem_append_right _ (by simp)))
    · exact Or.inr (Or.inl posted)
    · exact Or.inr (Or.inr (List.mem_append_left _ removed))
  | findCredentials rpId allowList =>
    intro weak id gone valid
    have before : Event.keyGone weak id ∈ s.log := by
      rcases List.mem_append.mp gone with old | new
      · exact old
      · cases List.mem_singleton.mp new
    rcases earlier weak id before valid with replying | impossible | posted | removed
    · exact Or.inl replying
    · cases impossible
    · exact Or.inr (Or.inl posted)
    · exact Or.inr (Or.inr (List.mem_append_left _ removed))
  | commitCredential excludeList credential =>
    intro weak id gone valid
    rcases earlier weak id gone valid with replying | impossible | rest
    · exact Or.inl replying
    · cases impossible
    · exact Or.inr rest

theorem attended_next (attended : Attended s) {label : Label}
    (meets : Meets codecs newestFirst s label) : Attended (next codecs newestFirst s label) := by
  rcases @step_cases codecs newestFirst s label with
    replied | ⟨excludeList, credential, rfl⟩ | ⟨answer, task, rest, rfl, waiting⟩
  · exact replied.attended attended
  · intro weak id gone valid
    rcases attended weak id gone valid with replying | posted | removed
    · exact Or.inl replying
    · exact Or.inr (Or.inl (List.mem_append_left _ posted))
    · exact Or.inr (Or.inr removed)
  · simp only [next, waiting]
    exact attended_task attended waiting meets

end Reported

/-- What a run of assertions has come to: every removal is warranted, what was removed is neither
in the file nor offered nor chosen since, and every report of a gone key whose assertion was not
cancelled has led to the removal, or will when what was posted has run. -/
structure Forgets (codecs : Codecs) (s : State) : Prop where
  history : History.Throughout Warranted s.log
  removed : forall id, Event.removed id ∈ s.log -> id ∉ fileIds codecs s.file
  attended : Attended s
  settled : s.huks = [] -> s.replies = [] -> forall weak id, Event.keyGone weak id ∈ s.log ->
    s.valid weak = true -> id ∉ fileIds codecs s.file

structure Remembers (codecs : Codecs) (s : State) : Prop where
  ids : Distinct codecs s
  reports : Reports s
  attended : Attended s

variable {codecs : Codecs} {s : State}

theorem Remembers.forgets (kept : Remembers codecs s) :
    Forgets codecs s where
  history := kept.reports.history
  removed := fun id logged filed => kept.ids.removed id filed logged
  attended := kept.attended
  settled := by
    intro noTask noReply weak id gone valid filed
    rcases kept.attended weak id gone valid with ⟨_, _, replying, _⟩ | posted | removed
    · simp [noReply] at replying
    · simp [noTask] at posted
    · exact kept.ids.removed id filed removed

theorem Remembers.next {newestFirst : NewestFirst} (faithful : codecs.Faithful) {label : Label} (kept : Remembers codecs s)
    (step : Allowed s label /\ Meets codecs newestFirst s label) :
    Remembers codecs (next codecs newestFirst s label) where
  ids := kept.ids.next faithful step.1
  reports := kept.reports.next kept.ids label
  attended := attended_next kept.attended step.2

theorem Initial.distinct (initial : Initial codecs s) :
    Distinct codecs s where
  pending := by simp [State.pending, initial.huks]
  issued := by simp [State.pending, initial.huks]
  named := by simp [initial.huks]
  mentioned := by simp [State.mentioned, initial.huks, initial.replies, initial.prompts, initial.log]
  filed := fun id member => ⟨initial.issued id member, by simp [State.pending, initial.huks]⟩
  removed := by simp [initial.log]

theorem Initial.reports (initial : Initial codecs s) :
    Reports s where
  history := by
    rw [initial.log]
    exact History.Throughout.nil Warranted
  removals := by simp [initial.huks]
  signed := by simp [initial.replies]

theorem Initial.attended (initial : Initial codecs s) : Attended s := by
  intro weak id gone
  simp [initial.log] at gone

theorem dead_passkeys_forgotten (codecs : Codecs) (faithful : codecs.Faithful)
    (newestFirst : NewestFirst) (start : State) (initial : Initial codecs start)
    (labels : List Label) (run : Follows Allowed (next codecs newestFirst) start labels)
    (met : Follows (Meets codecs newestFirst) (next codecs newestFirst) start labels) :
    Forgets codecs (labels.foldl (next codecs newestFirst) start) := by
  have kept : Remembers codecs (labels.foldl (next codecs newestFirst) start) :=
    (run.and met).preserves (fun _ _ before step => before.next faithful step)
      ⟨initial.distinct, initial.reports, initial.attended⟩
  exact kept.forgets

section Samples

def sampleSession : SigningSession := { handle := 7, challenge := [1, 2, 3] }

def sampleAnswer (init finish : HuksCode) : HuksAnswer where
  init := { paramsBuilt := true, code := init, session := sampleSession }
  finish := { paramsBuilt := true, code := finish, derSignature := some [48] }
  written := true

def sampleStart : State where
  file := some (sampleText "Ann")
  huks := []
  replies := []
  prompts := []
  generations := fun _ => 0
  invalidated := []
  pendingSession := fun _ => none
  issued := [List.replicate 16 0]
  log := []

theorem sample_read : readAll (sampleCodecs "Ann") (some (sampleText "Ann")) =
    some [sampleCredential "Ann"] := by
  have named : ∀ credential, credential ∈ [sampleCredential "Ann"] ->
      credential.credentialId ≠ [] := by
    intro credential member
    obtain rfl := List.mem_singleton.mp member
    decide
  have short : ¬ kMaxFileSize < (sampleText "Ann").length := by
    simp [sampleText_length, kMaxFileSize]
  have same : rereadCredential (sampleCodecs "Ann") (sampleCredential "Ann") =
      sampleCredential "Ann" := by
    have created : (sampleCodecs "Ann").reread (sampleCredential "Ann").created =
        (sampleCredential "Ann").created :=
      (timeOf_secondsOf (sampleCredential "Ann").created).trans (if_neg (by decide))
    rw [rereadCredential, created]
  have read := readAll_stored (sampleCodecs_faithful "Ann") named (sample_stored "Ann")
  rw [read, if_neg short, List.map_cons, List.map_nil, same]

theorem sample_chosen : chosen (sampleCodecs "Ann") newestFirstStable (some (sampleText "Ann"))
    "example.com" [] = some (sampleCredential "Ann") := by
  simp [chosen, find, sample_read, wanted, sampleCredential, newestFirstStable]

theorem sample_initial : Initial (sampleCodecs "Ann") sampleStart where
  issued := by
    intro id member
    simpa [sampleStart, fileIds, sample_read, sampleCredential] using member
  huks := rfl
  replies := rfl
  prompts := rfl
  log := rfl

-- The keystore says so only when the session is finished.
def goneAtFinish : List Label :=
  [.getAssertion 0 "example.com" [], .runTask (sampleAnswer .success .success), .runReply,
    .authenticated 0 true, .runTask (sampleAnswer .success .itemNotExist), .runReply,
    .runTask (sampleAnswer .success .success)]

theorem dead_passkeys_forgotten_sample :
    Forgets (sampleCodecs "Ann")
      (goneAtFinish.foldl (next (sampleCodecs "Ann") newestFirstStable) sampleStart) := by
  apply dead_passkeys_forgotten (sampleCodecs "Ann") (sampleCodecs_faithful "Ann")
    newestFirstStable sampleStart sample_initial goneAtFinish
  · simp [goneAtFinish, Follows, Allowed]
  · have prepared : prepareAssertion (sampleCodecs "Ann") newestFirstStable
        (sampleAnswer .success .success).init (some (sampleText "Ann")) "example.com" [] =
          some { credential := sampleCredential "Ann", session := sampleSession } := by
      simp [prepareAssertion, sample_chosen, beginSigning, sampleAnswer, sampleSession]
    have status : (finishSigning (sampleAnswer .success .itemNotExist).finish).status =
        .keyInvalidated := rfl
    have empty : without (sampleCredential "Ann").credentialId [sampleCredential "Ann"] = [] := by
      decide
    have gone : (sampleAnswer .success .success).init.code.keyGone = false := rfl
    have written : (sampleAnswer .success .success).written = true := rfl
    simp [goneAtFinish, Follows, Meets, next, sampleStart, State.weakPtr, runTask, prepared, gone,
      runReply, onAssertionPrepared, onGetAssertionUserAuthenticated, onAssertionSigned, status,
      State.valid, sample_read, empty, empty_stored, written]

-- The keystore says already when the session is opened that the key is gone.
def goneAtOpening : List Label :=
  [.getAssertion 0 "example.com" [], .runTask (sampleAnswer .itemNotExist .success), .runReply]

theorem dead_passkey_kept :
    ¬ forall (codecs : Codecs) (newestFirst : NewestFirst) (start : State) (labels : List Label),
      codecs.Faithful -> Initial codecs start ->
      Follows Allowed (next codecs newestFirst) start labels ->
      Forgets codecs (labels.foldl (next codecs newestFirst) start) := by
  intro claim
  have forgets := claim (sampleCodecs "Ann") newestFirstStable sampleStart goneAtOpening
    (sampleCodecs_faithful "Ann") sample_initial (by simp [goneAtOpening, Follows, Allowed])
  have final : goneAtOpening.foldl (next (sampleCodecs "Ann") newestFirstStable) sampleStart =
      { sampleStart with
        log := [
          .selected (List.replicate 16 0),
          .keyGone { authenticator := 0, generation := 0 } (List.replicate 16 0),
          .answered { authenticator := 0, generation := 0 }
            .userConsentButCredentialNotRecognized] } := by
    simp [goneAtOpening, next, sampleStart, State.weakPtr, runTask, prepareAssertion,
      prepareEvents, sample_chosen, beginSigning, sampleAnswer, HuksCode.keyGone, runReply,
      onAssertionPrepared, State.valid, sampleCredential]
  rw [final] at forgets
  have filed : List.replicate 16 0 ∈ fileIds (sampleCodecs "Ann") sampleStart.file := by
    simp [sampleStart, fileIds, sample_read, sampleCredential]
  exact forgets.settled rfl rfl { authenticator := 0, generation := 0 } (List.replicate 16 0)
    (by simp) (by simp [State.valid, sampleStart]) filed

end Samples

end ChromiumHmos.Passkeys
