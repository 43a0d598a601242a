import ChromiumHmos.Lib.History
import ChromiumHmos.Passwords.PasswordSync

set_option autoImplicit false

/-!
# Revocation of the password sync

A command is refused while nothing is authorized. What a command read is used when the store
answers, however long that takes.
-/

namespace ChromiumHmos.Passwords

open Base Std Transition History
open UrlProtection (GURL UrlLibrary)

def carriesEntries (event : DictValue) : Bool := ((event.findList "entries").getD []).any fun _ => true

def SyncEvent.reveals : SyncEvent → Bool
  | .replied _ event => carriesEntries event
  | .wrote _ _ => true
  | _ => false

def SyncEvent.grants : SyncEvent → Option Bool
  | .authorized granted => some granted
  | _ => none

theorem carriesEntries_set (event : DictValue) (key : String) (value : Value)
    (other : "entries" ≠ key) : carriesEntries (event.set key value) = carriesEntries event := by
  simp only [carriesEntries, DictValue.findList, DictValue.find_set, if_neg other]

theorem opResult_plain (ok : Bool) (error : String) :
    carriesEntries (PasswordSync.opResult ok error) = false := by
  unfold PasswordSync.opResult
  dsimp only
  split
  · rfl
  · exact carriesEntries_set _ _ _ (by decide)

/-- Whether sync is authorized after these events. -/
def grantedAfter (initial : Bool) (log : List SyncEvent) : Bool :=
  log.foldl (fun granted event => event.grants.getD granted) initial

/-- No entries are sent and nothing is written unless sync is authorized. -/
def Permitted (initial : Bool) (before : List SyncEvent) (event : SyncEvent) : Prop :=
  event.reveals → grantedAfter initial before = true

namespace PasswordSync

variable {platform : SyncPlatform}

/-- The condition on a step: sync is authorized when the store answers what a command read. -/
def Heeds (s : PasswordSync) : SyncOp → Prop
  | .deliver id => ∀ callback logins, s.inbox.lookup id = some (.results callback (some logins)) →
      (∃ target, callback = .snapshot target) ∨ (∃ target ops, callback = .applyRead target ops) →
        s.authorized = true
  | _ => True

def Proper (s t : PasswordSync) : Prop :=
  t.authorized = s.authorized ∧ ∃ more, t.log = s.log ++ more ∧
    ∀ event ∈ more, event.grants = none ∧ (event.reveals → s.authorized = true)

section Proper

variable {s t u : PasswordSync}

theorem Proper.refl (s : PasswordSync) : Proper s s := ⟨rfl, [], by simp, by simp⟩

theorem Proper.trans (first : Proper s t) (second : Proper t u) : Proper s u := by
  obtain ⟨same, more, log, quiet⟩ := first
  obtain ⟨same', more', log', quiet'⟩ := second
  refine ⟨same'.trans same, more ++ more', by rw [log', log, List.append_assoc], fun event mem => ?_⟩
  rcases List.mem_append.mp mem with mem | mem
  · exact quiet event mem
  · exact same ▸ quiet' event mem

theorem Proper.silent (authorized : t.authorized = s.authorized) (log : t.log = s.log) : Proper s t :=
  ⟨authorized, [], by simp [log], by simp⟩

theorem note_proper {event : SyncEvent} (plain : event.grants = none)
    (may : event.reveals -> s.authorized = true) : Proper s (s.note event) := by
  refine ⟨rfl, [event], rfl, fun other mem => ?_⟩
  rw [List.mem_singleton.mp mem]
  exact ⟨plain, may⟩

theorem post_proper (s : PasswordSync) (task : StoreTask) : Proper s (s.post task) := .silent rfl rfl

theorem sendSnapshot_proper (target : ReplyTarget) (ok : Bool) (error : String) (entries : List Value)
    (may : entries ≠ [] -> s.authorized = true) :
    Proper s (s.sendSnapshot target ok error entries) := by
  refine note_proper rfl fun reveals => may ?_
  rintro rfl
  simp [SyncEvent.reveals, carriesEntries, DictValue.findList, DictValue.find_set] at reveals

theorem sendOpResult_proper (s : PasswordSync) (target : ReplyTarget) (ok : Bool) (error : String)
    (failedKeys : List String) : Proper s (s.sendOpResult target ok error failedKeys) := by
  refine note_proper rfl fun reveals => ?_
  have none : carriesEntries (((if failedKeys.isEmpty then opResult ok error
      else (opResult ok error).set "failedKeys" (.list (failedKeys.map .string))).set "requestId"
        (.int target.requestId)).set "incognito" (.bool target.incognito)) = false := by
    rw [carriesEntries_set _ _ _ (by decide), carriesEntries_set _ _ _ (by decide)]
    split
    · exact opResult_plain ok error
    · exact (carriesEntries_set _ _ _ (by decide)).trans (opResult_plain ok error)
  exact absurd (none.symm.trans reveals) Bool.false_ne_true

theorem scheduleChanged_proper (s : PasswordSync) : Proper s s.scheduleChanged := by
  unfold scheduleChanged
  split <;> exact .silent rfl rfl

theorem onLoginsChanged_proper (s : PasswordSync) (changes : List StoreChange) :
    Proper s (s.onLoginsChanged platform changes) := by
  unfold onLoginsChanged
  split
  · exact scheduleChanged_proper s
  · dsimp only
    split
    · exact Proper.trans (.silent rfl rfl) (scheduleChanged_proper _)
    · exact .silent rfl rfl

theorem onLoginsRetained_proper (s : PasswordSync) (retained : List StoredCredential) :
    Proper s (s.onLoginsRetained platform retained) := by
  unfold onLoginsRetained
  split
  · exact Proper.trans (.silent rfl rfl) (scheduleChanged_proper _)
  · exact .silent rfl rfl

theorem onBaseline_proper (s : PasswordSync) (logins : Option (List StoredCredential)) :
    Proper s (s.onBaseline platform logins) := by
  unfold onBaseline
  split
  · split <;> exact .silent rfl rfl
  · exact Proper.refl s

theorem applyThen_proper {next : PasswordSync -> PasswordSync} (after : ∀ t, Proper t (next t))
    (s : PasswordSync) (target : ReplyTarget) (ops : List Value) :
    Proper s (applyThen next s target ops) := by
  unfold applyThen
  split
  · exact sendOpResult_proper s _ _ _ _
  · split
    · exact .silent rfl rfl
    · have began : Proper s ({ s with applying := true }.note (.started target.command)) :=
        Proper.trans (.silent rfl rfl) (note_proper rfl fun reveals => nomatch reveals)
      dsimp only
      split
      · exact began.trans (post_proper _ _)
      · exact (began.trans (Proper.trans (.silent rfl rfl) (sendOpResult_proper _ _ _ _ _))).trans (after _)

theorem runNextApply_proper (waiting : List (ReplyTarget × List Value)) (s : PasswordSync) :
    Proper s (runNextApply waiting s) := by
  induction waiting generalizing s with
  | nil => exact Proper.refl s
  | cons head rest ih =>
    refine Proper.trans ?_ (applyThen_proper ih { s with pendingApplies := rest } head.1 head.2)
    exact .silent rfl rfl

theorem apply_proper (s : PasswordSync) (target : ReplyTarget) (ops : List Value) :
    Proper s (s.apply target ops) :=
  applyThen_proper (fun t => runNextApply_proper t.pendingApplies t) s target ops

theorem writes_proper (command : Nat) (writes : List StoreWrite) (s : PasswordSync)
    (may : s.authorized = true) : Proper s (writes.foldl (fun s w => s.write command w) s) := by
  induction writes generalizing s with
  | nil => exact Proper.refl s
  | cons w rest ih =>
    have one : Proper s (s.write command w) := (post_proper s _).trans (note_proper rfl fun _ => may)
    exact one.trans (ih _ (one.1.trans may))

theorem failed_proper (s : PasswordSync) (target : ReplyTarget) :
    Proper s (let s := { s with applying := false, held := false }.sendOpResult target false "unknown" []
      runNextApply s.pendingApplies s) :=
  (Proper.trans (.silent rfl rfl) (sendOpResult_proper _ _ _ _ _)).trans (runNextApply_proper _ _)

theorem onApplyRead_proper (s : PasswordSync) (target : ReplyTarget) (ops : List Value)
    (logins : Option (List StoredCredential)) (may : logins.isSome -> s.authorized = true) :
    Proper s (s.onApplyRead platform target ops logins) := by
  unfold onApplyRead
  split
  · exact (writes_proper target.command _ s (may rfl)).trans (post_proper _ _)
  · exact failed_proper s target

theorem onApplyWritten_proper (s : PasswordSync) (target : ReplyTarget) (failedKeys : List String)
    (written : Nat) (logins : Option (List StoredCredential)) :
    Proper s (s.onApplyWritten platform target failedKeys written logins) := by
  have idle : Proper s { s with applying := false, held := false } := .silent rfl rfl
  have based : Proper s ({ s with applying := false, held := false }.onBaseline platform logins) :=
    idle.trans (onBaseline_proper _ logins)
  unfold onApplyWritten
  dsimp only
  refine Proper.trans ?_ (runNextApply_proper _ _)
  split
  · exact (based.trans (sendOpResult_proper _ _ _ _ _)).trans (scheduleChanged_proper _)
  · exact based.trans (sendOpResult_proper _ _ _ _ _)

theorem startWatching_proper (s : PasswordSync) : Proper s s.startWatching := by
  unfold startWatching
  split
  · exact Proper.refl s
  · exact .silent rfl rfl

theorem snapshot_proper (s : PasswordSync) (target : ReplyTarget) :
    Proper s (s.snapshot platform target) := by
  have empty (error : String) : Proper s (s.sendSnapshot target false error []) :=
    sendSnapshot_proper target false error [] fun some => absurd rfl some
  unfold snapshot
  split
  · exact empty _
  · split
    · exact post_proper s _
    · exact empty _

theorem runCallback_proper (s : PasswordSync) (logins : Option (List StoredCredential))
    (callback : LoginsCallback)
    (may : logins.isSome -> (∃ target, callback = .snapshot target) \/
      (∃ target ops, callback = .applyRead target ops) -> s.authorized = true) :
    Proper s (s.runCallback platform logins callback) := by
  cases callback with
  | baseline => exact onBaseline_proper s logins
  | snapshot target =>
    cases logins with
    | none => exact sendSnapshot_proper target false "unknown" [] fun some => absurd rfl some
    | some logins =>
      exact sendSnapshot_proper target true "" _ fun _ => may rfl (.inl ⟨target, rfl⟩)
  | applyRead target ops =>
    exact onApplyRead_proper s target ops logins fun read => may read (.inr ⟨target, ops, rfl⟩)
  | applyWritten target failedKeys written =>
    exact onApplyWritten_proper s target failedKeys written logins

end Proper

theorem grantedAfter_append (initial : Bool) (log more : List SyncEvent)
    (plain : ∀ event ∈ more, event.grants = none) :
    grantedAfter initial (log ++ more) = grantedAfter initial log := by
  induction more using List.reverseRecOn with
  | nil => rw [List.append_nil]
  | append_singleton rest event ih =>
    have before := ih fun other mem => plain other (List.mem_append_left _ mem)
    have last := plain event (List.mem_append_right _ (List.mem_singleton_self event))
    unfold grantedAfter at before ⊢
    rw [<- List.append_assoc, List.foldl_append, before]
    simp [last]

structure RevocationInv (initial : Bool) (s : PasswordSync) : Prop where
  authorized : s.authorized = grantedAfter initial s.log
  heeded : Throughout (Permitted initial) s.log

section Inv

variable {initial : Bool} {s t : PasswordSync}

theorem RevocationInv.proper (inv : RevocationInv initial s) (proper : Proper s t) :
    RevocationInv initial t := by
  obtain ⟨same, more, log, quiet⟩ := proper
  have all : Throughout (Permitted initial) t.log := by
    rw [log]
    clear log
    induction more using List.reverseRecOn with
    | nil => simpa using inv.heeded
    | append_singleton rest event ih =>
      rw [<- List.append_assoc]
      refine (ih fun other mem => quiet other (List.mem_append_left _ mem)).snoc fun reveals => ?_
      rw [grantedAfter_append _ _ _ fun other mem => (quiet other (List.mem_append_left _ mem)).1,
        <- inv.authorized]
      exact (quiet event (List.mem_append_right _ (List.mem_singleton_self event))).2 reveals
  refine ⟨?_, all⟩
  rw [log, grantedAfter_append _ _ _ fun event mem => (quiet event mem).1, same, inv.authorized]

theorem RevocationInv.setAuthorized (inv : RevocationInv initial s) (granted : Bool) :
    RevocationInv initial (s.setAuthorized granted) := by
  have said : RevocationInv initial ({ s with authorized := granted }.note (.authorized granted)) := by
    refine ⟨?_, inv.heeded.snoc fun reveals => nomatch reveals⟩
    change granted = grantedAfter initial (s.log ++ [.authorized granted])
    simp [grantedAfter, SyncEvent.grants]
  unfold PasswordSync.setAuthorized
  dsimp only
  split
  · exact said.proper (startWatching_proper _)
  · exact said.proper (.silent rfl rfl)

theorem RevocationInv.handleCommand (inv : RevocationInv initial s) (widget : Nat)
    (offTheRecord : Bool) (name : String) (command : DictValue) :
    RevocationInv initial (s.handleCommand platform widget offTheRecord name command) := by
  have watched : RevocationInv initial (s.ensureObserver offTheRecord) := by
    unfold ensureObserver
    split
    · exact inv
    · exact inv.proper (startWatching_proper s)
  have asked (target : ReplyTarget) (applies : Bool) :
      RevocationInv initial ((s.ensureObserver offTheRecord).ask target applies) :=
    watched.proper (Proper.trans (.silent rfl rfl) (note_proper rfl fun reveals => nomatch reveals))
  unfold PasswordSync.handleCommand
  dsimp only
  split
  · split
    · exact watched
    · exact watched.setAuthorized _
  · split
    · exact (asked _ _).proper (snapshot_proper _ _)
    · split
      · exact (asked _ _).proper (apply_proper _ _ _)
      · exact watched

theorem next_heeds (inv : RevocationInv initial s) {op : SyncOp} (heeds : s.Heeds op) :
    RevocationInv initial (s.next platform op) := by
  cases op with
  | command widget offTheRecord name command => exact inv.handleCommand widget offTheRecord name command
  | external w =>
    exact inv.proper (Proper.trans (.silent rfl rfl) (note_proper rfl fun reveals => nomatch reveals))
  | retain logins =>
    exact inv.proper (Proper.trans (.silent rfl rfl) (note_proper rfl fun reveals => nomatch reveals))
  | perform id ok =>
    dsimp only [next]
    cases s.tasks.lookup id with
    | none => exact inv
    | some task =>
      refine inv.proper ?_
      cases task with
      | read callback => exact .silent rfl rfl
      | write w => cases ok <;> exact .silent rfl rfl
  | deliver id =>
    dsimp only [next]
    cases found : s.inbox.lookup id with
    | none => exact inv
    | some message =>
      have taken : Proper s { s with inbox := Mailbox.take s.inbox id } :=
        .silent rfl rfl
      refine inv.proper (taken.trans ?_)
      cases message with
      | changed changes =>
        dsimp only [receive]
        split
        · exact onLoginsChanged_proper _ changes
        · exact Proper.refl _
      | retained retained =>
        dsimp only [receive]
        split
        · exact onLoginsRetained_proper _ retained
        · exact Proper.refl _
      | results callback logins =>
        dsimp only [receive]
        split
        · refine runCallback_proper _ logins callback fun read => ?_
          obtain ⟨answer, rfl⟩ := Option.isSome_iff_exists.mp read
          exact heeds callback answer found
        · exact Proper.refl _
  | changeTimer =>
    exact inv.proper (Proper.trans (.silent rfl rfl) (note_proper rfl fun reveals => nomatch reveals))
  | tick elapsed => exact inv.proper (.silent rfl rfl)
  | destroy =>
    exact inv.proper (Proper.trans (.silent rfl rfl) (note_proper rfl fun reveals => nomatch reveals))

end Inv

def heedingStep (platform : SyncPlatform) : PasswordSync → SyncOp → PasswordSync → Prop :=
  guarded (fun s op => s.permitted op ∧ s.Heeds op) (next platform)

/-- Where no read of a command is answered after a revocation, nothing is sent or written then. -/
theorem revocation_heeded (platform : SyncPlatform) (storeThere granted : Bool) (salt : String)
    (store : List StoredCredential) (trace : List (PasswordSync × SyncOp)) (s : PasswordSync)
    (run : Trace (heedingStep platform) (construct storeThere granted salt store) trace s) :
    Throughout (Permitted granted) s.log := by
  have initial : RevocationInv granted (construct storeThere granted salt store) := by
    refine RevocationInv.proper ⟨?_, .nil _⟩ (startWatching_proper _)
    rfl
  have preserved (t : PasswordSync) (op : SyncOp) (u : PasswordSync) (inv : RevocationInv granted t)
      (moved : heedingStep platform t op u) : RevocationInv granted u := by
    obtain ⟨⟨-, heeds⟩, rfl⟩ := moved
    exact next_heeds inv heeds
  exact (run.preserves preserved initial).heeded

-- Every address is a web page of one site.
def webPlatform : SyncPlatform where
  parse := GURL.mk
  isValid := fun url => url.possiblyInvalidSpec ≠ ""
  scheme := fun _ => "https"
  hasUsername := fun _ => false
  hasPassword := fun _ => false
  hasQuery := fun _ => false
  hasRef := fun _ => false
  host := fun _ => "example.com"
  hostNoBrackets := fun _ => "example.com"
  path := fun _ => "/"
  clearQueryAndRef := id
  serializedOrigin := fun _ => "https://example.com"
  assignFromIPLiteral := fun _ => none
  isPubliclyRoutable := fun _ => true
  getWithEmptyPath := id
  isValidAndroidFacetURI := fun _ => false
  sha256 := fun text => "#" ++ text
  numberToString := fun number => toString number.num ++ "/" ++ toString number.den

def savedLogin : StoredCredential :=
  { signonRealm := "https://example.com/", url := ⟨"https://example.com/"⟩, usernameValue := "ann"
    passwordValue := "secret" }

def authorize (granted : Bool) : SyncOp :=
  .command 1 false "passwordSyncAuthorize" [("granted", .bool granted)]

def readForSync : SyncOp := .command 1 false "getPasswordsForSync" [("requestId", .int 7)]

-- A snapshot is answered while sync is authorized.
theorem revocation_heeded_snapshot :
    ∃ s : PasswordSync, s.log.any SyncEvent.reveals = true ∧ s.authorized = false ∧
      Throughout (Permitted false) s.log := by
  have follows : Follows (fun s op => s.permitted op ∧ s.Heeds op) (next webPlatform)
      (construct true false "" [savedLogin])
      [authorize true, readForSync, .perform 1 true, .deliver 1, authorize false] :=
    ⟨⟨rfl, trivial⟩, ⟨rfl, trivial⟩, ⟨by decide, trivial⟩,
      ⟨by decide, fun _ _ _ _ => by decide⟩, ⟨rfl, trivial⟩, trivial⟩
  obtain ⟨trace, run, -⟩ := follows.trace
  exact ⟨_, by decide, by decide, revocation_heeded webPlatform true false "" _ trace _ run⟩

-- The grant is taken back while the store is read, and the passwords are sent all the same.
theorem revoked_snapshot_sent :
    ¬ ∀ (platform : SyncPlatform) (storeThere granted : Bool) (salt : String)
      (store : List StoredCredential) (trace : List (PasswordSync × SyncOp)) (s : PasswordSync),
      Trace (step platform) (construct storeThere granted salt store) trace s →
      Throughout (Permitted granted) s.log := by
  intro every
  have follows : Follows permitted (next webPlatform) (construct true false "" [savedLogin])
      [authorize true, readForSync, authorize false, .perform 1 true, .deliver 1] :=
    ⟨rfl, rfl, rfl, by decide, by decide, trivial⟩
  obtain ⟨trace, run, -⟩ := follows.trace
  have heeded := every webPlatform true false "" [savedLogin] trace _ run
  have sent := heeded [.authorized true, .asked ⟨0, 1, false, 7⟩ false, .authorized false] _ [] rfl
    (by decide)
  exact absurd sent (by decide)

end PasswordSync

end ChromiumHmos.Passwords
