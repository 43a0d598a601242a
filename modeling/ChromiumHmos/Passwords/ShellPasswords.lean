import ChromiumHmos.Passwords.DeviceAuthenticator
import ChromiumHmos.Passwords.PasswordSync

set_option autoImplicit false

/-!
# The shell's password commands

A command is run once the password stores have loaded; until then it waits. The stores, as Chromium's
presenter shows them, its exporter and its importer are parameters.
-/

namespace ChromiumHmos.Passwords

open Base Transition

structure CredentialUIEntry where
  firstSignonRealm : String
  -- The spec of the origin of its URL.
  origin : String
  username : String
  password : String
  note : String := ""
  creationTime : Option Time := none
  lastUsedTime : Time := 0
deriving DecidableEq

inductive EditResult
  | kSuccess
  | kNothingChanged
  | kNotFound
  | kAlreadyExists
  | kEmptyPassword

inductive ExportProgressStatus
  | kNotStarted
  | kInProgress
  | kSucceeded
  | kFailed

inductive ImportStatus
  | success
  | conflicts
  | ioError
  | badFormat
  | maxFileSize
  | numPasswordsExceeded
  | other
deriving DecidableEq

structure ImportEntry where
  id : Int
  valid : Bool

structure ImportResults where
  status : ImportStatus
  displayedEntries : List ImportEntry := []
  numberImported : Nat := 0

structure PresenterPlatform (P : Type) where
  getSavedPasswords : P → List CredentialUIEntry
  editSavedCredentials : P → CredentialUIEntry → CredentialUIEntry → EditResult × P
  removeCredential : P → CredentialUIEntry → Bool × P
  isValidAndroidFacetURI : String → Bool
  sha256 : String → String
  isAbsolute : String → Bool
  referencesParent : String → Bool

/-- What waits for the stores: everything but `list` hands out or changes passwords. -/
inductive PasswordTask
  | list
  | reveal (id : String)
  | update (id : String) (command : DictValue)
  | delete (id : String)
  | exportTo (path : String)
  | importFrom (path : String) (overwrite : Bool)

def PasswordTask.sensitive : PasswordTask → Bool
  | .list => false
  | _ => true

inductive PasswordEvent
  | sent (widget : Nat) (event : DictValue)
  -- The exporter is given the path; the importer is, or goes on after a conflict.
  | exporting (path : String)
  | importing (path : String)
  | replacing (ids : List Int)
  -- Whether the authentication is fresh then; the source does not ask.
  | ran (task : PasswordTask) (fresh : Bool)
  | continued (fresh : Bool)

structure ShellReplyTarget where
  widget : Nat
  incognito : Bool
  requestId : Int

structure ImportState where
  target : ShellReplyTarget
  overwrite : Bool
  skipped : Nat := 0

structure ShellPasswords (P : Type) where
  auth : DeviceAuth
  presenter : P
  ready : Bool := false
  pending : List (ShellReplyTarget × PasswordTask) := []
  -- Taken out by `OnReady`, one after the other.
  running : List (ShellReplyTarget × PasswordTask) := []
  ids : List (String × String) := []
  nextId : Nat := 1
  exporter : Option (ShellReplyTarget × Nat) := none
  importer : Option ImportState := none
  -- What `ContinueImport` was posted with.
  continuations : List (List Int) := []
  log : List PasswordEvent := []

namespace ShellPasswords

def kDefaultGrantMs : Int := 60 * 1000

variable {P : Type} (platform : PresenterPlatform P)

def note (s : ShellPasswords P) (event : PasswordEvent) : ShellPasswords P := { s with log := s.log ++ [event] }

def send (s : ShellPasswords P) (target : ShellReplyTarget) (event : DictValue) : ShellPasswords P :=
  s.note (.sent target.widget
    ((event.set "requestId" (.int target.requestId)).set "incognito" (.bool target.incognito)))

def withText (event : DictValue) (key text : String) : DictValue :=
  if text = "" then event else event.set key (.string text)

def sendCommandResult (s : ShellPasswords P) (target : ShellReplyTarget) (command : String) (ok : Bool) (reason newId : String) :
    ShellPasswords P :=
  s.send target (withText (withText
    [("event", .string "passwordCommandResult"), ("command", .string command), ("ok", .bool ok)]
    "reason" reason) "newId" newId)

def sendExported (s : ShellPasswords P) (target : ShellReplyTarget) (ok : Bool) (count : Nat) (reason : String) :
    ShellPasswords P :=
  s.send target (withText [("event", .string "passwordsExported"), ("ok", .bool ok), ("count", .int count)]
    "reason" reason)

def sendImported (s : ShellPasswords P) (target : ShellReplyTarget) (ok : Bool) (imported skipped failed : Nat) (reason : String) :
    ShellPasswords P :=
  s.send target (withText
    [("event", .string "passwordsImported"), ("ok", .bool ok), ("imported", .int imported), ("skipped", .int skipped),
      ("failed", .int failed)] "reason" reason)

def importFailureReason : ImportStatus → String
  | .ioError => "ioError"
  | .badFormat => "badFormat"
  | .maxFileSize | .numPasswordsExceeded => "tooLarge"
  | _ => "unknown"

def idKey (entry : CredentialUIEntry) : String :=
  platform.sha256 (entry.firstSignonRealm ++ "\x1f" ++ entry.username)

def idFor (s : ShellPasswords P) (entry : CredentialUIEntry) : String × ShellPasswords P :=
  match s.ids.lookup (idKey platform entry) with
  | some id => (id, s)
  | none =>
    let id := toString s.nextId
    (id, { s with ids := (idKey platform entry, id) :: s.ids, nextId := s.nextId + 1 })

-- The entries before the one that is found are given ids too.
def findIn (id : String) : List CredentialUIEntry → ShellPasswords P → Option CredentialUIEntry × ShellPasswords P
  | [], s => (none, s)
  | entry :: rest, s =>
    let (other, s) := s.idFor platform entry
    if other = id then (some entry, s) else findIn id rest s

def find (s : ShellPasswords P) (id : String) : Option CredentialUIEntry × ShellPasswords P :=
  findIn platform id (platform.getSavedPasswords s.presenter) s

def listItems : List CredentialUIEntry → ShellPasswords P → List Value × ShellPasswords P
  | [], s => ([], s)
  | entry :: rest, s =>
    let (id, s) := s.idFor platform entry
    let (items, s) := listItems rest s
    (.dict [("id", .string id), ("origin", .string entry.origin), ("signonRealm", .string entry.firstSignonRealm),
      ("username", .string entry.username), ("hasNote", .bool (entry.note ≠ "")),
      ("dateCreated", .double (.finite (entry.creationTime.elim (-1) toShellTime))),
      ("dateLastUsed", .double (.finite (toShellTime entry.lastUsedTime))),
      ("isAndroidCredential", .bool (platform.isValidAndroidFacetURI entry.firstSignonRealm))] :: items, s)

def list (s : ShellPasswords P) (target : ShellReplyTarget) : ShellPasswords P :=
  let (items, s) := listItems platform (platform.getSavedPasswords s.presenter) s
  s.send target [("event", .string "savedPasswords"), ("items", .list items)]

def reveal (s : ShellPasswords P) (target : ShellReplyTarget) (id : String) : ShellPasswords P :=
  match s.find platform id with
  | (none, s) => s.sendCommandResult target "revealPassword" false "notFound" ""
  | (some entry, s) =>
    s.send target [("event", .string "passwordRevealed"), ("id", .string id), ("password", .string entry.password),
      ("note", .string entry.note)]

def editFailureReason : EditResult → String
  | .kSuccess | .kNothingChanged => ""
  | .kNotFound => "notFound"
  | .kAlreadyExists => "duplicate"
  | .kEmptyPassword => "unknown"

def update (s : ShellPasswords P) (target : ShellReplyTarget) (id : String) (command : DictValue) : ShellPasswords P :=
  match s.find platform id with
  | (none, s) => s.sendCommandResult target "updatePassword" false "notFound" ""
  | (some original, s) =>
    let updated := { original with
      username := (command.findString "username").getD original.username
      password := (command.findString "password").getD original.password
      note := (command.findString "note").getD original.note }
    let edited := platform.editSavedCredentials s.presenter original updated
    let s := { s with presenter := edited.2 }
    if editFailureReason edited.1 ≠ "" then
      s.sendCommandResult target "updatePassword" false (editFailureReason edited.1) ""
    else
      let new := s.idFor platform updated
      new.2.sendCommandResult target "updatePassword" true "" (if new.1 ≠ id then new.1 else "")

def delete (s : ShellPasswords P) (target : ShellReplyTarget) (id : String) : ShellPasswords P :=
  match s.find platform id with
  | (none, s) => s.sendCommandResult target "deletePassword" false "notFound" ""
  | (some entry, s) =>
    let (ok, presenter) := platform.removeCredential s.presenter entry
    { s with presenter }.sendCommandResult target "deletePassword" ok (if ok then "" else "unknown") ""

def exportTo (s : ShellPasswords P) (target : ShellReplyTarget) (path : String) : ShellPasswords P :=
  if s.exporter.isSome then s.sendExported target false 0 "unknown"
  else { s with exporter := some (target, (platform.getSavedPasswords s.presenter).length) }.note (.exporting path)

def importFrom (s : ShellPasswords P) (target : ShellReplyTarget) (path : String) (overwrite : Bool) : ShellPasswords P :=
  if s.importer.isSome then s.sendImported target false 0 0 0 "unknown"
  else { s with importer := some { target, overwrite } }.note (.importing path)

def perform (s : ShellPasswords P) (target : ShellReplyTarget) : PasswordTask → ShellPasswords P
  | .list => s.list platform target
  | .reveal id => s.reveal platform target id
  | .update id command => s.update platform target id command
  | .delete id => s.delete platform target id
  | .exportTo path => s.exportTo platform target path
  | .importFrom path overwrite => s.importFrom target path overwrite

def runTask (s : ShellPasswords P) (waiting : ShellReplyTarget × PasswordTask) : ShellPasswords P :=
  (s.note (.ran waiting.2 s.auth.isAuthenticationFresh)).perform platform waiting.1 waiting.2

def whenReady (s : ShellPasswords P) (target : ShellReplyTarget) (task : PasswordTask) : ShellPasswords P :=
  if s.ready then s.runTask platform (target, task) else { s with pending := s.pending ++ [(target, task)] }

def denyAuthentication (s : ShellPasswords P) (target : ShellReplyTarget) (command : String) : ShellPasswords P :=
  if command = "exportPasswords" then s.sendExported target false 0 "authRequired"
  else if command = "importPasswords" then s.sendImported target false 0 0 0 "authRequired"
  else s.sendCommandResult target command false "authRequired" ""

def isUsableSandboxPath (path : String) : Bool :=
  path ≠ "" ∧ platform.isAbsolute path ∧ ¬ platform.referencesParent path

def sandboxPath (command : DictValue) : Option String :=
  (command.findString "path").filter fun path => isUsableSandboxPath platform path

def sensitiveNames : List String :=
  ["revealPassword", "updatePassword", "deletePassword", "exportPasswords", "importPasswords"]

/-- Whether the command was one of these, and what it leaves. -/
def handlePasswordsCommand (s : ShellPasswords P) (widget : Nat) (offTheRecord : Bool) (name : String)
    (command : DictValue) : Bool × ShellPasswords P :=
  let target : ShellReplyTarget := ⟨widget, offTheRecord, PasswordSync.readRequestId command⟩
  let id := (command.findString "id").getD ""
  if name = "passwordAuthGranted" then
    let valid := milliseconds ((command.findInt "validMs").getD kDefaultGrantMs)
    (true, { s with auth := s.auth.grantAuthenticationFromShell valid })
  else if name = "getSavedPasswords" then (true, s.whenReady platform target .list)
  else if name ∉ sensitiveNames then (false, s)
  else if ¬ s.auth.isAuthenticationFresh then (true, s.denyAuthentication target name)
  else if name = "revealPassword" then (true, s.whenReady platform target (.reveal id))
  else if name = "updatePassword" then (true, s.whenReady platform target (.update id command))
  else if name = "deletePassword" then (true, s.whenReady platform target (.delete id))
  else if name = "importPasswords" then
    match sandboxPath platform command with
    | none => (true, s.sendImported target false 0 0 0 "ioError")
    | some path =>
      (true, s.whenReady platform target (.importFrom path ((command.findBool "overwrite").getD false)))
  else
    match sandboxPath platform command with
    | none => (true, s.sendExported target false 0 "ioError")
    | some path => (true, s.whenReady platform target (.exportTo path))

def onReady (s : ShellPasswords P) : ShellPasswords P :=
  { s with ready := true, running := s.pending, pending := [] }

def runPending (s : ShellPasswords P) : ShellPasswords P :=
  match s.running with
  | [] => s
  | waiting :: rest => { s with running := rest }.runTask platform waiting

def onExportProgress (s : ShellPasswords P) (status : ExportProgressStatus) : ShellPasswords P :=
  match status, s.exporter with
  | .kNotStarted, _ | .kInProgress, _ | _, none => s
  | .kSucceeded, some (target, count) => { s with exporter := none }.sendExported target true count ""
  | .kFailed, some (target, _) => { s with exporter := none }.sendExported target false 0 "ioError"

def onImportResults (s : ShellPasswords P) (results : ImportResults) : ShellPasswords P :=
  match s.importer with
  | none => s
  | some state =>
    if results.status = .conflicts then
      if state.overwrite then
        { s with continuations := s.continuations ++ [results.displayedEntries.map fun entry => entry.id] }
      else
        { s with
          importer := some { state with skipped := results.displayedEntries.length }
          continuations := s.continuations ++ [[]] }
    else
      let failed := results.displayedEntries.countP fun entry => ¬ entry.valid
      let ok := results.status = .success
      { s with importer := none }.sendImported state.target ok results.numberImported state.skipped failed
        (if ok then "" else importFailureReason results.status)

def continueImport (s : ShellPasswords P) : ShellPasswords P :=
  match s.continuations with
  | [] => s
  | replace :: rest =>
    let s := { s with continuations := rest }
    if s.importer.isNone then s
    else (s.note (.continued s.auth.isAuthenticationFresh)).note (.replacing replace)

inductive PasswordOp (P : Type)
  | command (widget : Nat) (offTheRecord : Bool) (name : String) (command : DictValue)
  | onReady
  | runPending
  | exportProgress (status : ExportProgressStatus)
  | importResults (results : ImportResults)
  | continueImport
  -- Someone else changes what is saved.
  | presenter (presenter : P)
  | auth (op : DeviceAuth.AuthOp)

def next (s : ShellPasswords P) : PasswordOp P → ShellPasswords P
  | .command widget offTheRecord name command =>
    (s.handlePasswordsCommand platform widget offTheRecord name command).2
  | .onReady => s.onReady
  | .runPending => s.runPending platform
  | .exportProgress status => s.onExportProgress status
  | .importResults results => s.onImportResults results
  | .continueImport => s.continueImport
  | .presenter presenter => { s with presenter }
  | .auth op => { s with auth := s.auth.next op }

def ticks : DeviceAuth.AuthOp → Bool
  | .tick _ => true
  | _ => false

-- While `OnReady` runs its tasks, the clock alone goes on.
def permitted (s : ShellPasswords P) : PasswordOp P → Prop
  | .runPending => s.running.isEmpty = false
  | .auth op => ticks op ∨ s.running.isEmpty ∧ s.auth.permitted op
  | .onReady => s.running.isEmpty ∧ s.ready = false
  | _ => s.running.isEmpty

instance decidablePermitted (s : ShellPasswords P) : (op : PasswordOp P) → Decidable (s.permitted op)
  | .runPending => inferInstanceAs (Decidable (_ = false))
  | .auth op => inferInstanceAs (Decidable (_ ∨ _ ∧ s.auth.permitted op))
  | .onReady => inferInstanceAs (Decidable (_ ∧ _))
  | .command .. | .exportProgress _ | .importResults _ | .continueImport | .presenter _ =>
    inferInstanceAs (Decidable (_ = true))

def step : ShellPasswords P → PasswordOp P → ShellPasswords P → Prop := guarded permitted (next platform)

end ShellPasswords

end ChromiumHmos.Passwords
