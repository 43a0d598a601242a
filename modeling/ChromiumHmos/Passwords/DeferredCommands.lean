import ChromiumHmos.Passwords.ShellPasswords

set_option autoImplicit false

/-!
# Password commands and the authentication they need

A command is refused unless the authentication is fresh as it comes. What waits for the stores is not asked
again.
-/

namespace ChromiumHmos.Passwords

open Base Transition

namespace PasswordEvent

def isMark : PasswordEvent → Bool
  | .ran .. | .continued _ => true
  | _ => false

def FreshRun : PasswordEvent → Prop
  | .ran task fresh => task.sensitive → fresh = true
  | _ => True

def FreshReplacement : PasswordEvent → Prop
  | .continued fresh => fresh = true
  | _ => True

instance decidableFreshRun : (event : PasswordEvent) → Decidable event.FreshRun
  | .ran task fresh => inferInstanceAs (Decidable (task.sensitive = true → fresh = true))
  | .sent .. | .exporting _ | .importing _ | .replacing _ | .continued _ => .isTrue trivial

end PasswordEvent

open PasswordEvent

namespace ShellPasswords

variable {P : Type} (platform : PresenterPlatform P)

def marks (s : ShellPasswords P) : List PasswordEvent := s.log.filter fun event => event.isMark

/-- A task that waited for the stores, and needs the authentication, is run while it is fresh. -/
def TimelyRun (s : ShellPasswords P) : PasswordOp P → Prop
  | .runPending => ∀ waiting ∈ s.running.head?, waiting.2.sensitive → s.auth.isAuthenticationFresh = true
  | _ => True

/-- An import that met a conflict goes on while it is fresh. -/
def TimelyReplacement (s : ShellPasswords P) : PasswordOp P → Prop
  | .continueImport => s.continuations ≠ [] → s.importer.isSome → s.auth.isAuthenticationFresh = true
  | _ => True

variable {s : ShellPasswords P}

theorem note_marks {event : PasswordEvent} (plain : event.isMark = false) : (s.note event).marks = s.marks := by
  simp [marks, note, plain]

theorem note_mark {event : PasswordEvent} (marked : event.isMark = true) : (s.note event).marks = s.marks ++ [event] := by
  simp [marks, note, marked]

theorem send_marks (target : ShellReplyTarget) (event : DictValue) : (s.send target event).marks = s.marks :=
  note_marks rfl

theorem idFor_marks (s : ShellPasswords P) (entry : CredentialUIEntry) : (s.idFor platform entry).2.marks = s.marks := by
  unfold idFor
  split <;> rfl

theorem findIn_marks (id : String) (entries : List CredentialUIEntry) (s : ShellPasswords P) :
    (findIn platform id entries s).2.marks = s.marks := by
  induction entries generalizing s with
  | nil => rfl
  | cons entry rest ih =>
    simp only [findIn]
    split
    next => exact idFor_marks platform s entry
    next => exact (ih _).trans (idFor_marks platform s entry)

theorem find_marks (s : ShellPasswords P) (id : String) : (s.find platform id).2.marks = s.marks :=
  findIn_marks platform id _ s

theorem listItems_marks (entries : List CredentialUIEntry) (s : ShellPasswords P) :
    (listItems platform entries s).2.marks = s.marks := by
  induction entries generalizing s with
  | nil => rfl
  | cons entry rest ih => exact (ih _).trans (idFor_marks platform s entry)

theorem update_marks (s : ShellPasswords P) (target : ShellReplyTarget) (id : String) (command : DictValue) :
    (s.update platform target id command).marks = s.marks := by
  have looked := find_marks platform s id
  unfold update
  split
  next found =>
    rw [found] at looked
    exact (send_marks _ _).trans looked
  next original after found =>
    rw [found] at looked
    extract_lets updated edited kept new
    split
    next => exact (send_marks _ _).trans looked
    next => exact (send_marks _ _).trans ((idFor_marks platform _ _).trans looked)

theorem perform_marks (s : ShellPasswords P) (target : ShellReplyTarget) (task : PasswordTask) :
    (s.perform platform target task).marks = s.marks := by
  cases task with
  | list => exact (send_marks _ _).trans (listItems_marks platform _ s)
  | reveal id =>
    have looked := find_marks platform s id
    simp only [perform, reveal]
    split
    all_goals
      next found =>
        rw [found] at looked
        exact (send_marks _ _).trans looked
  | update id command => exact update_marks platform s target id command
  | delete id =>
    have looked := find_marks platform s id
    simp only [perform, delete]
    split
    all_goals
      next found =>
        rw [found] at looked
        exact (send_marks _ _).trans looked
  | exportTo path =>
    simp only [perform, exportTo]
    split
    next => exact send_marks _ _
    next => exact note_marks rfl
  | importFrom path overwrite =>
    simp only [perform, importFrom]
    split
    next => exact send_marks _ _
    next => exact note_marks rfl

theorem runTask_marks (s : ShellPasswords P) (waiting : ShellReplyTarget × PasswordTask) :
    (s.runTask platform waiting).marks = s.marks ++ [.ran waiting.2 s.auth.isAuthenticationFresh] :=
  (perform_marks platform _ _ _).trans (note_mark rfl)

def AddsFresh (s t : ShellPasswords P) : Prop :=
  ∃ more, t.marks = s.marks ++ more ∧ ∀ event ∈ more, event.FreshRun ∧ event.FreshReplacement

theorem AddsFresh.same {t : ShellPasswords P} (same : t.marks = s.marks) : AddsFresh s t :=
  ⟨[], by simp [same], by simp⟩

theorem whenReady_fresh (s : ShellPasswords P) (target : ShellReplyTarget) (task : PasswordTask)
    (fresh : task.sensitive -> s.auth.isAuthenticationFresh = true) : AddsFresh s (s.whenReady platform target task) := by
  unfold whenReady
  split
  next =>
    refine ⟨[.ran task s.auth.isAuthenticationFresh], runTask_marks platform s (target, task), ?_⟩
    simpa [FreshRun, FreshReplacement] using fresh
  next => exact .same rfl

theorem denyAuthentication_marks (s : ShellPasswords P) (target : ShellReplyTarget) (command : String) :
    (s.denyAuthentication target command).marks = s.marks := by
  unfold denyAuthentication
  split
  next => exact send_marks _ _
  next =>
    split
    next => exact send_marks _ _
    next => exact send_marks _ _

theorem handle_fresh (s : ShellPasswords P) (widget : Nat) (offTheRecord : Bool) (name : String) (command : DictValue) :
    AddsFresh s (s.handlePasswordsCommand platform widget offTheRecord name command).2 := by
  unfold handlePasswordsCommand
  extract_lets target id
  by_cases granted : name = "passwordAuthGranted"
  · rw [if_pos granted]
    exact .same rfl
  by_cases listed : name = "getSavedPasswords"
  · rw [if_neg granted, if_pos listed]
    exact whenReady_fresh platform s target .list (by simp [PasswordTask.sensitive])
  by_cases other : name ∉ sensitiveNames
  · rw [if_neg granted, if_neg listed, if_pos other]
    exact .same rfl
  rw [if_neg granted, if_neg listed, if_neg other]
  by_cases fresh : s.auth.isAuthenticationFresh = true
  · rw [if_neg (by simpa using fresh)]
    have runs (task : PasswordTask) : AddsFresh s (s.whenReady platform target task) :=
      whenReady_fresh platform s target task fun _ => fresh
    split_ifs
    · exact runs _
    · exact runs _
    · exact runs _
    · split
      · exact .same (send_marks _ _)
      · exact runs _
    · split
      · exact .same (send_marks _ _)
      · exact runs _
  · rw [if_pos (by simpa using fresh)]
    exact .same (denyAuthentication_marks s target name)

theorem exportProgress_marks (s : ShellPasswords P) (status : ExportProgressStatus) :
    (s.onExportProgress status).marks = s.marks := by
  unfold onExportProgress
  split
  all_goals first | rfl | exact send_marks _ _

theorem importResults_marks (s : ShellPasswords P) (results : ImportResults) :
    (s.onImportResults results).marks = s.marks := by
  unfold onImportResults
  split
  next => rfl
  next =>
    split
    next => split <;> rfl
    next => exact send_marks _ _

theorem step_marks {t : ShellPasswords P} {op : PasswordOp P} (moved : step platform s op t) :
    ∃ more, t.marks = s.marks ++ more /\
      ((∀ event ∈ more, event.FreshRun) ↔ TimelyRun s op) /\
      ((∀ event ∈ more, event.FreshReplacement) ↔ TimelyReplacement s op) := by
  obtain ⟨-, rfl⟩ := moved
  have plain {t : ShellPasswords P} (adds : AddsFresh s t) : ∃ more, t.marks = s.marks ++ more /\
      ((∀ event ∈ more, event.FreshRun) ↔ True) /\ ((∀ event ∈ more, event.FreshReplacement) ↔ True) := by
    obtain ⟨more, same, fresh⟩ := adds
    exact ⟨more, same, iff_of_true (fun event mem => (fresh event mem).1) trivial,
      iff_of_true (fun event mem => (fresh event mem).2) trivial⟩
  cases op with
  | command widget offTheRecord name command => exact plain (handle_fresh platform s widget offTheRecord name command)
  | onReady => exact plain (.same rfl)
  | exportProgress status => exact plain (.same (exportProgress_marks s status))
  | importResults results => exact plain (.same (importResults_marks s results))
  | presenter presenter => exact plain (.same rfl)
  | auth op => exact plain (.same rfl)
  | runPending =>
    cases first : s.running with
    | nil => exact ⟨[], by simp [next, runPending, first], by simp [TimelyRun, first], by simp [TimelyReplacement]⟩
    | cons waiting rest =>
      refine ⟨[.ran waiting.2 s.auth.isAuthenticationFresh], ?_, ?_, by simp [TimelyReplacement, FreshReplacement]⟩
      · simp only [next, runPending, first]
        exact runTask_marks platform { s with running := rest } waiting
      · simp [TimelyRun, FreshRun, first]
  | continueImport =>
    cases posted : s.continuations with
    | nil => exact ⟨[], by simp [next, continueImport, posted], by simp [TimelyRun], by simp [TimelyReplacement, posted]⟩
    | cons replace rest =>
      by_cases gone : s.importer.isNone
      · refine ⟨[], ?_, by simp [TimelyRun], ?_⟩
        · simp [next, continueImport, posted, gone, marks]
        · simp_all [TimelyReplacement]
      · refine ⟨[.continued s.auth.isAuthenticationFresh], ?_, by simp [TimelyRun, FreshRun], ?_⟩
        · simp [next, continueImport, posted, gone, marks, note, isMark]
        · simp_all [TimelyReplacement, FreshReplacement, Option.isSome_iff_ne_none]

/-- Whatever runs while the authentication is not fresh waited for the stores, or for the importer. -/
theorem sensitive_commands_fresh {auth : DeviceAuth} {presenter : P} {trace : List (ShellPasswords P × PasswordOp P)}
    (run : Trace (step platform) { auth, presenter } trace s) :
    ((∀ event ∈ s.marks, event.FreshRun) ↔ ∀ entry ∈ trace, TimelyRun entry.1 entry.2) ∧
    ((∀ event ∈ s.marks, event.FreshReplacement) ↔ ∀ entry ∈ trace, TimelyReplacement entry.1 entry.2) := by
  refine run.history (P := fun trace s => ((∀ event ∈ s.marks, event.FreshRun) ↔ ∀ entry ∈ trace, TimelyRun entry.1 entry.2) ∧
    ((∀ event ∈ s.marks, event.FreshReplacement) ↔ ∀ entry ∈ trace, TimelyReplacement entry.1 entry.2)) ?_ (by simp [marks])
  rintro trace s op t ⟨runs, replaces⟩ moved
  obtain ⟨more, same, timely, timelyToo⟩ := step_marks platform moved
  simp only [same, List.forall_mem_append, List.forall_mem_singleton, runs, replaces, timely, timelyToo, and_self]

def plainPresenter : PresenterPlatform (List CredentialUIEntry) where
  getSavedPasswords saved := saved
  editSavedCredentials saved original updated :=
    (.kSuccess, saved.map fun entry => if entry = original then updated else entry)
  removeCredential saved entry := (true, saved.erase entry)
  isValidAndroidFacetURI _ := false
  sha256 text := text
  isAbsolute path := path.startsWith "/"
  referencesParent _ := false

def oneSaved : ShellPasswords (List CredentialUIEntry) where
  auth := {}
  presenter := [{
    firstSignonRealm := "https://example.com/"
    origin := "https://example.com/"
    username := "ada"
    password := "secret" }]

def revealAfter (wait : Nat) : List (PasswordOp (List CredentialUIEntry)) :=
  [.command 1 false "passwordAuthGranted" [], .command 1 false "revealPassword" [("id", .string "1")],
    .auth (.tick wait), .onReady, .runPending]

def reveals : PasswordEvent → Bool
  | .sent _ event => event.findString "password" = some "secret"
  | _ => false

theorem sensitive_commands_fresh_soon : ∃ s trace, Trace (step plainPresenter) oneSaved trace s ∧
    s.log.any reveals ∧ ∀ entry ∈ trace, TimelyRun entry.1 entry.2 := by
  have follows : Follows permitted (next plainPresenter) oneSaved (revealAfter 1000) := by decide
  obtain ⟨trace, run, -⟩ := follows.trace
  exact ⟨_, trace, run, by decide, (sensitive_commands_fresh plainPresenter run).1.mp (by decide)⟩

theorem revealed_after_authentication : ∃ s : ShellPasswords (List CredentialUIEntry),
    (∃ trace, Trace (step plainPresenter) oneSaved trace s) ∧ s.log.any reveals ∧
    ¬ ∀ event ∈ s.marks, event.FreshRun := by
  have follows : Follows permitted (next plainPresenter) oneSaved (revealAfter 61000000) := by decide
  obtain ⟨trace, run, -⟩ := follows.trace
  exact ⟨(revealAfter 61000000).foldl (next plainPresenter) oneSaved, ⟨trace, run⟩, by decide, by decide⟩

end ShellPasswords

end ChromiumHmos.Passwords
