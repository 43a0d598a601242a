import ChromiumHmos.Lib.Transition
import ChromiumHmos.Lib.Mailbox
import ChromiumHmos.UrlProtection.Url

set_option autoImplicit false

/-!
# Cloud sync of saved passwords

The shell reads the password store and writes to it in batches, as long as the user authorized it,
and is told when the store changes. The store runs on a sequence of its own: what it is asked is a
task there, what it answers or tells a message here.
-/

namespace ChromiumHmos.Passwords

open Base Std Transition
open UrlProtection (GURL UrlLibrary)

structure SyncPlatform extends UrlLibrary where
  getWithEmptyPath : GURL → GURL
  isValidAndroidFacetURI : String → Bool
  sha256 : String → String
  numberToString : Rat → String

inductive Scheme
  | html
  | basic

structure StoredCredential where
  scheme : Scheme := .html
  signonRealm : String
  url : GURL
  usernameElement : String := ""
  usernameValue : String := ""
  passwordElement : String := ""
  passwordValue : String := ""
  note : String := ""
  blockedByUser : Bool := false
  -- `federation_origin` is valid.
  federated : Bool := false
  dateCreated : Time := 0
  dateLastUsed : Time := 0
  datePasswordModified : Time := 0

-- What the store tells its forms apart by.
def StoredCredential.uniqueKey (c : StoredCredential) : String × GURL × String × String × String :=
  (c.signonRealm, c.url, c.usernameElement, c.usernameValue, c.passwordElement)

-- Microseconds from the epoch of `base::Time` to that of Unix.
def unixEpoch : Time := 11644473600000000

def toShellTime (time : Time) : Rat := if time = 0 then -1 else (time - unixEpoch : Int) / 1000

def fromShellTime : Option Double → Time
  | some (.finite ms) => if ms < 0 then 0 else unixEpoch + (ms * 1000).floor
  | _ => 0

section Keys

variable (platform : SyncPlatform)

def isSyncable (c : StoredCredential) : Bool :=
  ¬ (platform.isValidAndroidFacetURI c.signonRealm ∨ c.federated) ∧
    (c.blockedByUser ∨ c.passwordValue ≠ "")

def syncKey (signonRealm username : String) (blocked : Bool) : String :=
  if blocked then "B" ++ signonRealm else "C" ++ signonRealm ++ "\x1f" ++ username

def StoredCredential.syncKey (c : StoredCredential) : String :=
  Passwords.syncKey c.signonRealm c.usernameValue c.blockedByUser

def failedKey (signonRealm username : String) : String := signonRealm ++ "\n" ++ username

def schemeForRealm (signonRealm : String) : Scheme :=
  let url := platform.parse signonRealm
  if platform.isValid url ∧ platform.spec (platform.getWithEmptyPath url) = signonRealm
  then .html else .basic

def formKey (salt : String) (c : StoredCredential) : String :=
  platform.sha256 (salt ++ c.signonRealm ++ "\x1f" ++ platform.spec c.url ++ "\x1f" ++
    c.usernameElement ++ "\x1f" ++ c.usernameValue ++ "\x1f" ++ c.passwordElement)

def fingerprint (salt : String) (c : StoredCredential) : String :=
  platform.sha256 (salt ++ platform.spec c.url ++ "\x1f" ++ c.passwordValue ++ "\x1f" ++ c.note ++
    "\x1f" ++ (if c.blockedByUser then "1" else "0") ++ "\x1f" ++
      platform.numberToString (toShellTime c.dateCreated))

end Keys

inductive StoreWrite
  | add (credential : StoredCredential)
  | update (credential : StoredCredential)
  | remove (credential : StoredCredential)

inductive ChangeType
  | add
  | update
  | remove
deriving DecidableEq

structure StoreChange where
  type : ChangeType
  credential : StoredCredential

def sameForm (a b : StoredCredential) : Bool := a.uniqueKey = b.uniqueKey

def replaceForm (store : List StoredCredential) (c : StoredCredential) : List StoredCredential :=
  store.map fun d => if sameForm c d then c else d

-- What a write leaves in the store, and the changes the store tells its observers.
def StoreWrite.run (store : List StoredCredential) :
    StoreWrite → List StoredCredential × List StoreChange
  | .add c =>
    match store.find? (sameForm c) with
    | some old => (replaceForm store c, [⟨.remove, old⟩, ⟨.add, c⟩])
    | none => (store ++ [c], [⟨.add, c⟩])
  | .update c =>
    match store.find? (sameForm c) with
    | some _ => (replaceForm store c, [⟨.update, c⟩])
    | none => (store, [])
  | .remove c =>
    match store.find? (sameForm c) with
    | some old => (store.filter fun d => !sameForm c d, [⟨.remove, old⟩])
    | none => (store, [])

/-- Where a reply goes. `command` tells the commands apart; the source has no use for it. -/
structure ReplyTarget where
  command : Nat
  widget : Nat
  incognito : Bool
  requestId : Int

-- What a read of the store is for.
inductive LoginsCallback
  | baseline
  | snapshot (target : ReplyTarget)
  | applyRead (target : ReplyTarget) (ops : List Value)
  | applyWritten (target : ReplyTarget) (failedKeys : List String) (written : Nat)

inductive StoreTask
  | read (callback : LoginsCallback)
  | write (write : StoreWrite)

inductive StoreMessage
  | changed (changes : List StoreChange)
  | retained (retained : List StoredCredential)
  | results (callback : LoginsCallback) (logins : Option (List StoredCredential))

inductive SyncEvent
  | asked (target : ReplyTarget) (applies : Bool)
  -- A batch reads the store.
  | started (command : Nat)
  | replied (target : ReplyTarget) (event : DictValue)
  -- The store is given a write of a batch.
  | wrote (command : Nat) (write : StoreWrite)
  | authorized (granted : Bool)
  -- The store holds something else now, by a write of someone else.
  | changed (id : Nat) (before after : List StoredCredential)
  -- `passwordsChanged` is broadcast.
  | told (revision : Rat)
  | destroyed

structure PasswordSync where
  alive : Bool := true
  -- The profile has a password store.
  storeThere : Bool := true
  salt : String := ""
  authorized : Bool := false
  observing : Bool := false
  fingerprints : Option (ExtTreeMap String String) := none
  changeTimer : Bool := false
  revision : Rat := 0
  applying : Bool := false
  pendingApplies : List (ReplyTarget × List Value) := []
  now : Time := 0
  store : List StoredCredential := []
  tasks : List (Nat × StoreTask) := []
  inbox : List (Nat × StoreMessage) := []
  ids : Nat := 0
  commands : Nat := 0
  -- A change was noticed while the batch was applied; the source does not keep it.
  held : Bool := false
  log : List SyncEvent := []

namespace PasswordSync

def note (s : PasswordSync) (event : SyncEvent) : PasswordSync := { s with log := s.log ++ [event] }

def post (s : PasswordSync) (task : StoreTask) : PasswordSync :=
  { s with tasks := s.tasks ++ [(s.ids, task)], ids := s.ids + 1 }

def send (s : PasswordSync) (target : ReplyTarget) (event : DictValue) : PasswordSync :=
  s.note (.replied target ((event.set "requestId" (.int target.requestId)).set "incognito"
    (.bool target.incognito)))

def sendSnapshot (s : PasswordSync) (target : ReplyTarget) (ok : Bool) (error : String)
    (entries : List Value) : PasswordSync :=
  let event : DictValue := [("event", .string "passwordsForSync"), ("ok", .bool ok)]
  let event := if error = "" then event else event.set "error" (.string error)
  s.send target (event.set "entries" (.list entries))

def opResult (ok : Bool) (error : String) : DictValue :=
  let event : DictValue := [("event", .string "passwordOpResult"), ("ok", .bool ok)]
  if error = "" then event else event.set "error" (.string error)

def sendOpResult (s : PasswordSync) (target : ReplyTarget) (ok : Bool) (error : String)
    (failedKeys : List String) : PasswordSync :=
  s.send target (if failedKeys.isEmpty then opResult ok error
    else (opResult ok error).set "failedKeys" (.list (failedKeys.map .string)))

-- A batch being written is told once, when it is done.
def scheduleChanged (s : PasswordSync) : PasswordSync :=
  if ¬ s.authorized ∨ s.applying then { s with held := s.held || (s.authorized && s.applying) }
  else { s with changeTimer := true }

def sendChanged (s : PasswordSync) : PasswordSync :=
  let revision := max (s.revision + 1) (toShellTime s.now)
  { s with changeTimer := false, revision }.note (.told revision)

section Fingerprints

variable (platform : SyncPlatform)

def noteChange (salt : String) (state : ExtTreeMap String String × Bool) (change : StoreChange) :
    ExtTreeMap String String × Bool :=
  let (fingerprints, changed) := state
  let credential := change.credential
  if ¬ isSyncable platform credential then (fingerprints, changed)
  else
    let key := formKey platform salt credential
    if change.type = .remove then (fingerprints.erase key, changed || (fingerprints[key]?).isSome)
    else
      let now := fingerprint platform salt credential
      (fingerprints.insert key now, changed || decide (fingerprints.getD key "" ≠ now))

def onLoginsChanged (s : PasswordSync) (changes : List StoreChange) : PasswordSync :=
  match s.fingerprints with
  | none => s.scheduleChanged
  | some fingerprints =>
    let (fingerprints, changed) := changes.foldl (noteChange platform s.salt) (fingerprints, false)
    let s := { s with fingerprints := some fingerprints }
    if changed then s.scheduleChanged else s

def fingerprintsOf (salt : String) (logins : List StoredCredential) : ExtTreeMap String String :=
  (logins.filter (isSyncable platform)).foldl
    (fun fingerprints c => fingerprints.insert (formKey platform salt c) (fingerprint platform salt c)) ∅

-- Whether anything differs from the fingerprints kept so far.
def differs (s : PasswordSync) (logins : List StoredCredential) : Bool :=
  s.fingerprints.all fun fingerprints => fingerprints.toList ≠ (fingerprintsOf platform s.salt logins).toList

def rebaseline (s : PasswordSync) (logins : List StoredCredential) : PasswordSync :=
  { s with fingerprints := some (fingerprintsOf platform s.salt logins) }

def onLoginsRetained (s : PasswordSync) (retained : List StoredCredential) : PasswordSync :=
  if s.differs platform retained then (s.rebaseline platform retained).scheduleChanged
  else s.rebaseline platform retained

def onBaseline (s : PasswordSync) : Option (List StoredCredential) → PasswordSync
  | some logins => if s.observing then s.rebaseline platform logins else s
  | none => s

end Fingerprints

section Snapshot

variable (platform : SyncPlatform)

def modified (c : StoredCredential) : Time := max c.datePasswordModified c.dateCreated

def noteNewest (newest : ExtTreeMap String StoredCredential) (c : StoredCredential) :
    ExtTreeMap String StoredCredential :=
  match newest[c.syncKey]? with
  | some slot => if modified c > modified slot then newest.insert c.syncKey c else newest
  | none => newest.insert c.syncKey c

def shellTime (time : Time) : Value := .double (.finite (toShellTime time))

def entryOf (c : StoredCredential) : DictValue :=
  let shown (text : String) : Value := .string (if c.blockedByUser then "" else text)
  [("signonRealm", .string c.signonRealm), ("origin", .string (platform.spec c.url)),
    ("username", shown c.usernameValue), ("password", shown c.passwordValue), ("note", shown c.note),
    ("blocked", .bool c.blockedByUser), ("dateCreated", shellTime c.dateCreated),
    ("dateLastUsed", shellTime c.dateLastUsed)]

-- The most recently changed form of each realm and username.
def entriesOf (logins : List StoredCredential) : List Value :=
  ((logins.filter (isSyncable platform)).foldl noteNewest ∅).toList.map fun entry =>
    .dict (entryOf platform entry.2)

def onSnapshotRead (s : PasswordSync) (target : ReplyTarget) :
    Option (List StoredCredential) → PasswordSync
  | none => s.sendSnapshot target false "unknown" []
  | some logins => s.sendSnapshot target true "" (entriesOf platform logins)

def snapshot (s : PasswordSync) (target : ReplyTarget) : PasswordSync :=
  if ¬ s.authorized then s.sendSnapshot target false "notAuthorized" []
  else if s.storeThere then s.post (.read (.snapshot target))
  else s.onSnapshotRead platform target none

end Snapshot

-- `next`: what follows a batch that could not read the store.
def applyThen (next : PasswordSync → PasswordSync) (s : PasswordSync) (target : ReplyTarget)
    (ops : List Value) : PasswordSync :=
  if ¬ s.authorized then s.sendOpResult target false "notAuthorized" []
  else if s.applying then { s with pendingApplies := s.pendingApplies ++ [(target, ops)] }
  else
    let s := { s with applying := true }.note (.started target.command)
    if s.storeThere then s.post (.read (.applyRead target ops))
    else next ({ s with applying := false }.sendOpResult target false "unknown" [])

-- `RunNextApply()`, with what waits.
def runNextApply : List (ReplyTarget × List Value) → PasswordSync → PasswordSync
  | [], s => s
  | (target, ops) :: rest, s => applyThen (runNextApply rest) { s with pendingApplies := rest } target ops

def apply (s : PasswordSync) (target : ReplyTarget) (ops : List Value) : PasswordSync :=
  applyThen (fun s => runNextApply s.pendingApplies s) s target ops

/-- What the ops of a batch come to: `forms` is what the store holds once the writes are done. -/
structure Batch where
  forms : ExtTreeMap String (List StoredCredential)
  failedKeys : List String := []
  writes : List StoreWrite := []

section Ops

variable (platform : SyncPlatform)

def groupForms (logins : List StoredCredential) : ExtTreeMap String (List StoredCredential) :=
  (logins.filter (isSyncable platform)).foldl
    (fun forms c => forms.insert c.syncKey (forms.getD c.syncKey [] ++ [c])) ∅

-- The form after an upsert, and whether anything changed.
def updateForm (now : Time) (password note : String) (lastUsed : Time) (c : StoredCredential) :
    StoredCredential × Bool :=
  let (c, changed) := if c.passwordValue ≠ password
    then ({ c with passwordValue := password, datePasswordModified := now }, true) else (c, false)
  let (c, changed) := if c.note ≠ note then ({ c with note }, true) else (c, changed)
  if lastUsed > c.dateLastUsed then ({ c with dateLastUsed := lastUsed }, true) else (c, changed)

def newForm (now : Time) (op : DictValue) (realm username password note : String) (blocked : Bool) :
    StoredCredential :=
  let realmUrl := platform.parse realm
  let url := platform.parse ((op.findString "origin").getD "")
  let created := fromShellTime (op.findDouble "dateCreated")
  { scheme := schemeForRealm platform realm
    signonRealm := realm
    url := if blocked ∨ ¬ platform.isValid url ∨ ¬ platform.schemeIsHTTPOrHTTPS url
      then platform.getWithEmptyPath realmUrl else url
    blockedByUser := blocked
    usernameValue := username
    passwordValue := password
    note
    dateCreated := if created = 0 then now else created
    dateLastUsed := fromShellTime (op.findDouble "dateLastUsed")
    datePasswordModified := now }

def upsert (now : Time) (batch : Batch) (op : DictValue) (realm username : String) (blocked : Bool) :
    Batch :=
  let key := syncKey realm username blocked
  let existing := batch.forms.getD key []
  let password := if blocked then "" else (op.findString "password").getD ""
  let note := if blocked then "" else (op.findString "note").getD ""
  let lastUsed := fromShellTime (op.findDouble "dateLastUsed")
  if ¬ blocked ∧ password = "" then
    { batch with
      forms := batch.forms.insert key existing
      failedKeys := batch.failedKeys ++ [failedKey realm username] }
  else if ¬ existing.isEmpty then
    if blocked then batch
    else
      let updated := existing.map (updateForm now password note lastUsed)
      { batch with
        forms := batch.forms.insert key (updated.map Prod.fst)
        writes := batch.writes ++ (updated.filter Prod.snd).map fun form => .update form.1 }
  else
    let form := newForm platform now op realm username password note blocked
    { batch with
      forms := batch.forms.insert key [form]
      writes := batch.writes ++ [.add form] }

def remove (batch : Batch) (realm username : String) (blocked : Bool) : Batch :=
  let key := syncKey realm username blocked
  { batch with
    forms := batch.forms.insert key []
    writes := batch.writes ++ (batch.forms.getD key []).map .remove }

def applyOp (now : Time) (batch : Batch) (value : Value) : Batch :=
  let op : DictValue := match value with
    | .dict op => op
    | _ => []
  let blocked := (op.findBool "blocked").getD false
  let username := if blocked then "" else (op.findString "username").getD ""
  let realm := (op.findString "signonRealm").getD ""
  let realmUrl := platform.parse realm
  let refused := { batch with failedKeys := batch.failedKeys ++ [failedKey realm username] }
  match op.findString "op", op.findString "signonRealm" with
  | some kind, some realm =>
    if ¬ platform.isValid realmUrl ∨ ¬ platform.schemeIsHTTPOrHTTPS realmUrl ∨
        (kind ≠ "upsert" ∧ kind ≠ "remove") then refused
    else if kind = "remove" then remove batch realm username blocked
    else upsert platform now batch op realm username blocked
  | _, _ => refused

def runOps (now : Time) (logins : List StoredCredential) (ops : List Value) : Batch :=
  ops.foldl (applyOp platform now) { forms := groupForms platform logins }

end Ops

-- Every write is counted as it is given to the store.
def write (s : PasswordSync) (command : Nat) (w : StoreWrite) : PasswordSync :=
  (s.post (.write w)).note (.wrote command w)

section Batch

variable (platform : SyncPlatform)

def onApplyRead (s : PasswordSync) (target : ReplyTarget) (ops : List Value)
    (logins : Option (List StoredCredential)) : PasswordSync :=
  match logins, s.storeThere with
  | some logins, true =>
    let batch := runOps platform s.now logins ops
    (batch.writes.foldl (fun s w => s.write target.command w) s).post
      (.read (.applyWritten target batch.failedKeys batch.writes.length))
  | _, _ =>
    let s := { s with applying := false, held := false }.sendOpResult target false "unknown" []
    runNextApply s.pendingApplies s

def onApplyWritten (s : PasswordSync) (target : ReplyTarget) (failedKeys : List String) (written : Nat)
    (logins : Option (List StoredCredential)) : PasswordSync :=
  let s := { s with applying := false, held := false }.onBaseline platform logins
  let ok := failedKeys.isEmpty
  let s := s.sendOpResult target ok (if ok then "" else "someRefused") failedKeys
  let s := if written > 0 then s.scheduleChanged else s
  runNextApply s.pendingApplies s

def runCallback (s : PasswordSync) (logins : Option (List StoredCredential)) :
    LoginsCallback → PasswordSync
  | .baseline => s.onBaseline platform logins
  | .snapshot target => s.onSnapshotRead platform target logins
  | .applyRead target ops => s.onApplyRead platform target ops logins
  | .applyWritten target failedKeys written => s.onApplyWritten platform target failedKeys written logins

end Batch

def startWatching (s : PasswordSync) : PasswordSync :=
  if ¬ s.authorized ∨ s.observing ∨ ¬ s.storeThere then s
  else { s with observing := true }.post (.read .baseline)

def stopWatching (s : PasswordSync) : PasswordSync :=
  { s with observing := false, fingerprints := none, changeTimer := false, held := false }

def setAuthorized (s : PasswordSync) (granted : Bool) : PasswordSync :=
  let s := { s with authorized := granted }.note (.authorized granted)
  if granted then s.startWatching else s.stopWatching

-- `EnsurePasswordSyncObserver`, before every command.
def ensureObserver (s : PasswordSync) (offTheRecord : Bool) : PasswordSync :=
  if offTheRecord then s else s.startWatching

def readRequestId (command : DictValue) : Int := (command.findInt "requestId").getD 0

def ask (s : PasswordSync) (target : ReplyTarget) (applies : Bool) : PasswordSync :=
  { s with commands := s.commands + 1 }.note (.asked target applies)

section Steps

variable (platform : SyncPlatform)

def handleCommand (s : PasswordSync) (widget : Nat) (offTheRecord : Bool) (name : String)
    (command : DictValue) : PasswordSync :=
  let s := s.ensureObserver offTheRecord
  let target : ReplyTarget := ⟨s.commands, widget, offTheRecord, readRequestId command⟩
  if name = "passwordSyncAuthorize" then
    if offTheRecord then s else s.setAuthorized ((command.findBool "granted").getD false)
  else if name = "getPasswordsForSync" then (s.ask target false).snapshot platform target
  else if name = "applyPasswords" then
    (s.ask target true).apply target ((command.findList "ops").getD [])
  else s

def receive (s : PasswordSync) (message : StoreMessage) : PasswordSync :=
  match message with
  | .changed changes => if s.observing then s.onLoginsChanged platform changes else s
  | .retained retained => if s.observing then s.onLoginsRetained platform retained else s
  | .results callback logins => if s.alive then s.runCallback platform logins callback else s

-- The store's sequence runs a task. A write that fails changes nothing.
def perform (s : PasswordSync) (id : Nat) (task : StoreTask) (ok : Bool) : PasswordSync :=
  match task with
  | .read callback =>
    { s with inbox := s.inbox ++ [(id, .results callback (if ok then some s.store else none))] }
  | .write w =>
    if ok then
      { s with store := (w.run s.store).1, inbox := s.inbox ++ [(id, StoreMessage.changed (w.run s.store).2)] }
    else s

inductive SyncOp
  | command (widget : Nat) (offTheRecord : Bool) (name : String) (command : DictValue)
  -- Someone else writes to the store.
  | external (write : StoreWrite)
  -- The store holds something else, and says what it kept.
  | retain (logins : List StoredCredential)
  | perform (id : Nat) (ok : Bool)
  | deliver (id : Nat)
  | changeTimer
  | tick (elapsed : Nat)
  | destroy

def next (s : PasswordSync) : SyncOp → PasswordSync
  | .command widget offTheRecord name command => s.handleCommand platform widget offTheRecord name command
  | .external w =>
    { s with
      store := (w.run s.store).1
      inbox := s.inbox ++ [(s.ids, StoreMessage.changed (w.run s.store).2)]
      ids := s.ids + 1 }.note (.changed s.ids s.store (w.run s.store).1)
  | .retain logins =>
    { s with store := logins, inbox := s.inbox ++ [(s.ids, StoreMessage.retained logins)], ids := s.ids + 1 }.note
      (.changed s.ids s.store logins)
  | .perform id ok =>
    match s.tasks.lookup id with
    | some task => { s with tasks := Mailbox.take s.tasks id }.perform id task ok
    | none => s
  | .deliver id =>
    match s.inbox.lookup id with
    | some message =>
      { s with inbox := Mailbox.take s.inbox id }.receive platform message
    | none => s
  | .changeTimer => s.sendChanged
  | .tick elapsed => { s with now := s.now + elapsed }
  | .destroy =>
    { s with alive := false, observing := false, changeTimer := false, pendingApplies := [] }.note .destroyed

end Steps

def permitted (s : PasswordSync) : SyncOp → Prop
  | .command .. => s.alive
  -- The store tells its forms apart.
  | .retain logins => (logins.map StoredCredential.uniqueKey).Nodup
  | .perform id _ => id ∈ s.tasks.map Prod.fst
  | .deliver id => id ∈ s.inbox.map Prod.fst
  | .changeTimer => s.changeTimer
  | .destroy => s.alive
  | _ => True

instance (s : PasswordSync) : (op : SyncOp) → Decidable (s.permitted op)
  | .command .. | .changeTimer | .destroy => inferInstanceAs (Decidable (_ = true))
  | .retain logins => inferInstanceAs (Decidable (logins.map StoredCredential.uniqueKey).Nodup)
  | .perform _ _ | .deliver _ => inferInstanceAs (Decidable (_ ∈ _))
  | .external _ | .tick _ => .isTrue trivial

def step (platform : SyncPlatform) : PasswordSync → SyncOp → PasswordSync → Prop :=
  guarded permitted (next platform)

/-- A profile's service, with the store as it is and the grant as it was saved, once the observers
are started. -/
def construct (storeThere authorized : Bool) (salt : String) (store : List StoredCredential) :
    PasswordSync :=
  startWatching { storeThere, authorized, salt, store }

end PasswordSync

end ChromiumHmos.Passwords
