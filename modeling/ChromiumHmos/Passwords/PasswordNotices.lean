import ChromiumHmos.Passwords.PasswordRuns
import ChromiumHmos.Passwords.PasswordFingerprints

set_option autoImplicit false

/-!
# Notices of the password sync

What the store told and has not been heard yet leads from the contents the fingerprints are of to
those the store has. A change that was heard is told by the timer, at the latest after the batch.
-/

namespace ChromiumHmos.Passwords

open Base Std Transition History Progress OrderedMap
open UrlProtection (GURL UrlLibrary)

namespace PasswordSync

variable (platform : SyncPlatform)

def Alters (before after : List StoredCredential) : Prop := carried platform before ≠ carried platform after

/-- An alteration that the fingerprints show. -/
def Shows (s : PasswordSync) (after : List StoredCredential) : Prop :=
  Alters platform s.store after → fingerprintsOf platform s.salt s.store ≠ fingerprintsOf platform s.salt after

-- With this answer a batch is over that wrote nothing.
def endsQuietly (s : PasswordSync) (logins : Option (List StoredCredential)) : LoginsCallback → Bool
  | .applyRead target ops => s.endsBatch logins (.applyRead target ops)
  | .applyWritten _ _ written => written = 0
  | _ => false

/-- The condition on a step: the fingerprints show what is altered, and no change was heard during a
batch that ends without a write. -/
def Notices (s : PasswordSync) : SyncOp → Prop
  | .external w => Clear platform s.salt s.store w ∧ Shows platform s (w.run s.store).1
  | .retain logins => Shows platform s logins
  | .perform id ok => ok = true → ∀ w, s.tasks.lookup id = some (.write w) → Clear platform s.salt s.store w
  | .deliver id => ∀ callback logins, s.inbox.lookup id = some (.results callback logins) →
      s.endsQuietly logins callback = true → s.held = false
  | _ => True

/-- The store tells and answers in the order in which it wrote and read. -/
def InTurn (s : PasswordSync) : SyncOp → Prop
  | .deliver id => s.inbox.head?.map Prod.fst = some id
  | _ => True

inductive Moves (salt : String) : List StoredCredential → StoreMessage → List StoredCredential → Prop
  | changed {contents : List StoredCredential} {w : StoreWrite} (forms : Distinct contents)
      (clear : Clear platform salt contents w) : Moves salt contents (.changed (w.run contents).2) (w.run contents).1
  | retained (contents logins : List StoredCredential) : Moves salt contents (.retained logins) logins
  | read (contents : List StoredCredential) (callback : LoginsCallback) :
      Moves salt contents (.results callback (some contents)) contents
  | failed (contents : List StoredCredential) (callback : LoginsCallback) :
      Moves salt contents (.results callback none) contents

inductive Replays (salt : String) : List StoredCredential → List (ℕ × StoreMessage) → List StoredCredential → Prop
  | nil (contents : List StoredCredential) : Replays salt contents [] contents
  | cons {before between after : List StoredCredential} {id : ℕ} {message : StoreMessage}
      {rest : List (ℕ × StoreMessage)} (first : Moves platform salt before message between)
      (later : Replays salt between rest after) : Replays salt before ((id, message) :: rest) after

def Tracks (s : PasswordSync) (seen : List StoredCredential) : Prop :=
  ∀ fingerprints, s.fingerprints = some fingerprints → fingerprints = fingerprintsOf platform s.salt seen

variable {platform}

theorem Replays.snoc {salt : String} {before between after : List StoredCredential}
    {inbox : List (ℕ × StoreMessage)} (replays : Replays platform salt before inbox between) {id : ℕ}
    {message : StoreMessage} (last : Moves platform salt between message after) :
    Replays platform salt before (inbox ++ [(id, message)]) after := by
  induction replays with
  | nil => exact .cons last (.nil _)
  | cons first _ ih => exact .cons first (ih last)

def Reading (s : PasswordSync) : Prop := s.applying = true → ∃ callback ∈ s.reads, callback.applies = true

structure NoticeInv (s : PasswordSync) : Prop where
  there : s.storeThere = true
  forms : Distinct s.store
  watching : s.observing = s.authorized
  unread : s.observing = false → s.fingerprints = none
  held : s.held = true → s.applying = true

structure Aside (s t : PasswordSync) : Prop where
  alive : t.alive = s.alive
  there : t.storeThere = s.storeThere
  salt : t.salt = s.salt
  authorized : t.authorized = s.authorized
  observing : t.observing = s.observing
  fingerprints : t.fingerprints = s.fingerprints
  changeTimer : t.changeTimer = s.changeTimer
  held : t.held = s.held
  store : t.store = s.store
  inbox : t.inbox = s.inbox
  busy : s.applying = true → t.applying = true
  reads : ∀ callback ∈ s.reads, callback ∈ t.reads
  begun : t.applying = true → s.applying = true ∨ ∃ callback ∈ t.reads, callback.applies = true

section Aside

variable {s t u : PasswordSync}

theorem Aside.refl (s : PasswordSync) : Aside s s :=
  ⟨rfl, rfl, rfl, rfl, rfl, rfl, rfl, rfl, rfl, rfl, id, fun _ => id, .inl⟩

theorem Aside.trans (first : Aside s t) (second : Aside t u) : Aside s u := by
  refine ⟨second.alive.trans first.alive, second.there.trans first.there, second.salt.trans first.salt,
    second.authorized.trans first.authorized, second.observing.trans first.observing,
    second.fingerprints.trans first.fingerprints, second.changeTimer.trans first.changeTimer,
    second.held.trans first.held, second.store.trans first.store, second.inbox.trans first.inbox,
    second.busy ∘ first.busy, fun callback mem => second.reads callback (first.reads callback mem), fun busy => ?_⟩
  rcases second.begun busy with before | begun
  · rcases first.begun before with before | ⟨callback, mem, applies⟩
    · exact .inl before
    · exact .inr ⟨callback, second.reads callback mem, applies⟩
  · exact .inr begun

theorem note_aside (s : PasswordSync) (event : SyncEvent) : Aside s (s.note event) :=
  ⟨rfl, rfl, rfl, rfl, rfl, rfl, rfl, rfl, rfl, rfl, id, fun _ => id, .inl⟩

theorem post_aside (s : PasswordSync) (task : StoreTask) : Aside s (s.post task) :=
  ⟨rfl, rfl, rfl, rfl, rfl, rfl, rfl, rfl, rfl, rfl, id,
    fun _ mem => (post_reads s task).mem_iff.mpr (List.mem_append_right _ mem), .inl⟩

theorem writes_aside (command : ℕ) (writes : List StoreWrite) (s : PasswordSync) :
    Aside s (writes.foldl (fun s w => s.write command w) s) := by
  induction writes generalizing s with
  | nil => exact Aside.refl s
  | cons w rest ih => exact ((post_aside s (.write w)).trans (note_aside _ _)).trans (ih _)

theorem read_mem (s : PasswordSync) {callback : LoginsCallback} (serves : callback.command.isSome) :
    callback ∈ (s.post (.read callback)).reads := by
  refine (post_reads s (.read callback)).mem_iff.mpr (List.mem_append_left _ ?_)
  simp [StoreTask.served, LoginsCallback.served, serves]

theorem applyThen_aside (next : PasswordSync -> PasswordSync) (there : s.storeThere = true) (target : ReplyTarget)
    (ops : List Value) : Aside s (applyThen next s target ops) := by
  unfold applyThen
  split
  · exact note_aside _ _
  · split
    · exact ⟨rfl, rfl, rfl, rfl, rfl, rfl, rfl, rfl, rfl, rfl, id, fun _ => id, .inl⟩
    · dsimp only
      rw [if_pos (by exact there)]
      have begun := post_aside ({ s with applying := true }.note (.started target.command))
        (.read (.applyRead target ops))
      exact ⟨rfl, rfl, rfl, rfl, rfl, rfl, rfl, rfl, rfl, rfl, fun _ => rfl, begun.reads,
        fun _ => .inr ⟨_, read_mem _ rfl, rfl⟩⟩

theorem runNextApply_aside (there : s.storeThere = true) (waiting : List (ReplyTarget × List Value)) :
    Aside s (runNextApply waiting s) := by
  cases waiting with
  | nil => exact Aside.refl s
  | cons head rest =>
    have popped : Aside s { s with pendingApplies := rest } :=
      ⟨rfl, rfl, rfl, rfl, rfl, rfl, rfl, rfl, rfl, rfl, id, fun _ => id, .inl⟩
    exact popped.trans (applyThen_aside (s := { s with pendingApplies := rest }) _ there head.1 head.2)

theorem snapshot_aside (s : PasswordSync) (target : ReplyTarget) : Aside s (s.snapshot platform target) := by
  unfold snapshot
  split
  · exact note_aside _ _
  · split
    · exact post_aside _ _
    · exact note_aside _ _

theorem Aside.inv (aside : Aside s t) (inv : NoticeInv s) : NoticeInv t := by
  obtain ⟨there, forms, watching, unread, held⟩ := inv
  refine ⟨aside.there.trans there, aside.store ▸ forms, ?_, ?_, fun heard => aside.busy (held (aside.held ▸ heard))⟩
  · rw [aside.observing, aside.authorized, watching]
  · rw [aside.observing, aside.fingerprints]
    exact unread

theorem Aside.reading (aside : Aside s t) (reading : Reading s) : Reading t := by
  intro busy
  rcases aside.begun busy with before | begun
  · obtain ⟨callback, mem, applies⟩ := reading before
    exact ⟨callback, aside.reads callback mem, applies⟩
  · exact begun

theorem Aside.tracks (aside : Aside s t) {seen : List StoredCredential} (tracks : Tracks platform s seen) :
    Tracks platform t seen := by
  unfold Tracks
  rw [aside.fingerprints, aside.salt]
  exact tracks

end Aside

def Owing (s : PasswordSync) : Prop := s.held = true ∨ s.changeTimer = true

variable (platform) in
structure Heard (s t : PasswordSync) (seen now : List StoredCredential) : Prop where
  alive : t.alive = s.alive
  salt : t.salt = s.salt
  authorized : t.authorized = s.authorized
  inbox : t.inbox = s.inbox
  store : t.store = s.store
  inv : NoticeInv t
  reading : Reading t
  tracks : Tracks platform t now
  kept : s.authorized = true → Owing s → Owing t
  owing : s.authorized = true → fingerprintsOf platform s.salt seen ≠ fingerprintsOf platform s.salt now → Owing t

section Heard

variable {s t u : PasswordSync} {seen now : List StoredCredential}

theorem Aside.owing (aside : Aside s t) (owing : Owing s) : Owing t := by
  unfold Owing
  rw [aside.held, aside.changeTimer]
  exact owing

theorem Heard.aside (heard : Heard platform s t seen now) (aside : Aside t u) : Heard platform s u seen now :=
  ⟨aside.alive.trans heard.alive, aside.salt.trans heard.salt, aside.authorized.trans heard.authorized,
    aside.inbox.trans heard.inbox, aside.store.trans heard.store, aside.inv heard.inv, aside.reading heard.reading,
    aside.tracks heard.tracks, fun authorized owing => aside.owing (heard.kept authorized owing),
    fun authorized altered => aside.owing (heard.owing authorized altered)⟩

theorem scheduleChanged_owing (authorized : s.authorized = true) : Owing s.scheduleChanged := by
  unfold scheduleChanged
  split
  · next held =>
    have busy : s.applying = true := held.resolve_left fun refused => refused authorized
    exact .inl (by simp [authorized, busy])
  · exact .inr rfl

variable {fingerprints : Option (ExtTreeMap String String)}

theorem heard_silently (inv : NoticeInv s) (reading : Reading s)
    (unread : s.observing = false -> fingerprints = none)
    (tracks : Tracks platform { s with fingerprints } now)
    (same : s.authorized = true -> fingerprintsOf platform s.salt seen = fingerprintsOf platform s.salt now) :
    Heard platform s { s with fingerprints } seen now :=
  ⟨rfl, rfl, rfl, rfl, rfl, ⟨inv.there, inv.forms, inv.watching, unread, inv.held⟩, reading, tracks, fun _ => id,
    fun authorized altered => absurd (same authorized) altered⟩

theorem heard_scheduled (inv : NoticeInv s) (reading : Reading s)
    (unread : s.observing = false -> fingerprints = none)
    (tracks : Tracks platform { s with fingerprints } now) :
    Heard platform s ({ s with fingerprints } : PasswordSync).scheduleChanged seen now := by
  have owing (authorized : s.authorized = true) : Owing ({ s with fingerprints } : PasswordSync).scheduleChanged :=
    scheduleChanged_owing (s := { s with fingerprints }) authorized
  unfold scheduleChanged at owing ⊢
  split
  · next held =>
    rw [if_pos held] at owing
    refine ⟨rfl, rfl, rfl, rfl, rfl, ⟨inv.there, inv.forms, inv.watching, unread, fun noted => ?_⟩, reading, tracks,
      fun authorized _ => owing authorized, fun authorized _ => owing authorized⟩
    rcases (Bool.or_eq_true _ _).mp noted with before | both
    · exact inv.held before
    · exact ((Bool.and_eq_true _ _).mp both).2
  · next free =>
    rw [if_neg free] at owing
    exact ⟨rfl, rfl, rfl, rfl, rfl, ⟨inv.there, inv.forms, inv.watching, unread, inv.held⟩, reading, tracks,
      fun authorized _ => owing authorized, fun authorized _ => owing authorized⟩

theorem unobserved (inv : NoticeInv s) (idle : ¬ s.observing = true) : s.fingerprints = none /\ s.authorized = false :=
  ⟨inv.unread (Bool.eq_false_iff.mpr idle), inv.watching ▸ Bool.eq_false_iff.mpr idle⟩

theorem unobserved_heard (inv : NoticeInv s) (reading : Reading s) (idle : ¬ s.observing = true) :
    Heard platform s s seen now := by
  obtain ⟨none, unauthorized⟩ := unobserved inv idle
  refine heard_silently inv reading inv.unread (fun fingerprints some => ?_) fun authorized => ?_
  · exact absurd (none.symm.trans some) nofun
  · exact absurd (unauthorized.symm.trans authorized) Bool.false_ne_true

theorem changed_heard (nonempty : ∀ text, platform.sha256 text ≠ "") (inv : NoticeInv s) (reading : Reading s)
    (tracks : Tracks platform s seen) {w : StoreWrite} (forms : Distinct seen) (clear : Clear platform s.salt seen w) :
    Heard platform s (s.receive platform (.changed (w.run seen).2)) seen (w.run seen).1 := by
  dsimp only [receive]
  split
  · next observing =>
    unfold onLoginsChanged
    split
    · next none =>
      exact heard_scheduled inv reading inv.unread fun fingerprints some => absurd (none.symm.trans some) nofun
    · next fingerprints known =>
      obtain rfl := tracks fingerprints known
      have moved := fingerprints_run forms clear
      have unread (idle : s.observing = false) : some ((w.run seen).2.foldl (noteChange platform s.salt)
          (fingerprintsOf platform s.salt seen, false)).1 = none :=
        absurd (idle.symm.trans observing) Bool.false_ne_true
      have tracked : Tracks platform { s with fingerprints := some ((w.run seen).2.foldl (noteChange platform s.salt)
          (fingerprintsOf platform s.salt seen, false)).1 } (w.run seen).1 := by
        rintro _ ⟨⟩
        exact moved
      dsimp only
      split
      · exact heard_scheduled inv reading unread tracked
      · next unchanged =>
        refine heard_silently inv reading unread tracked fun _ => ?_
        rw [<- moved]
        exact (changes_unchanged nonempty _ _ (Bool.eq_false_iff.mpr unchanged)).symm
  next idle => exact unobserved_heard inv reading idle

theorem rebaseline_tracks (s : PasswordSync) (logins : List StoredCredential) :
    Tracks platform (s.rebaseline platform logins) logins := by
  rintro _ ⟨⟩
  rfl

theorem retained_heard (inv : NoticeInv s) (reading : Reading s) (tracks : Tracks platform s seen)
    (logins : List StoredCredential) :
    Heard platform s (s.receive platform (.retained logins)) seen logins := by
  dsimp only [receive]
  split
  · next observing =>
    have unread (idle : s.observing = false) : some (fingerprintsOf platform s.salt logins) = none :=
      absurd (idle.symm.trans observing) Bool.false_ne_true
    unfold onLoginsRetained
    split
    · exact heard_scheduled inv reading unread (rebaseline_tracks s logins)
    · next same =>
      cases known : s.fingerprints with
      | none =>
        -- everything differs from fingerprints that are not there
        simp [differs, known] at same
      | some fingerprints =>
        refine heard_silently inv reading unread (rebaseline_tracks s logins) fun _ => ?_
        rw [<- tracks fingerprints known]
        simp only [differs, known, Option.all_some, decide_eq_true_eq, not_not] at same
        exact ExtTreeMap.toList_inj.mp same
  next idle => exact unobserved_heard inv reading idle

variable {logins : Option (List StoredCredential)}

theorem onBaseline_is (inv : NoticeInv s) (tracks : Tracks platform s seen) (is : ∀ read, logins = some read -> read = seen) :
    ∃ fingerprints, s.onBaseline platform logins = { s with fingerprints } /\
      (s.observing = false -> fingerprints = none) /\ Tracks platform { s with fingerprints } seen := by
  unfold onBaseline
  split
  · next read =>
    obtain rfl := is read rfl
    split
    · next observing =>
      exact ⟨_, rfl, fun idle => absurd (idle.symm.trans observing) Bool.false_ne_true, rebaseline_tracks s read⟩
    · exact ⟨_, rfl, inv.unread, tracks⟩
  · exact ⟨_, rfl, inv.unread, tracks⟩

theorem onBaseline_heard (inv : NoticeInv s) (reading : Reading s) (tracks : Tracks platform s seen) (is : ∀ read, logins = some read -> read = seen) :
    Heard platform s (s.onBaseline platform logins) seen seen := by
  obtain ⟨fingerprints, based, unread, tracked⟩ := onBaseline_is inv tracks is
  rw [based]
  exact heard_silently inv reading unread tracked fun _ => rfl

theorem ended_heard (inv : NoticeInv s) (tracks : Tracks platform s seen) (target : ReplyTarget) (ok : Bool)
    (error : String) (failedKeys : List String) (told : s.held = false) :
    Heard platform s ({ s with applying := false, held := false }.sendOpResult target ok error failedKeys) seen seen :=
  ⟨rfl, rfl, rfl, rfl, rfl, ⟨inv.there, inv.forms, inv.watching, inv.unread, nofun⟩, nofun, tracks,
    fun _ owing => .inr (owing.resolve_left (by simp [told])), fun _ altered => absurd rfl altered⟩

theorem onApplyRead_heard (inv : NoticeInv s) (tracks : Tracks platform s seen) (target : ReplyTarget)
    (ops : List Value) (logins : Option (List StoredCredential))
    (notices : s.endsBatch logins (.applyRead target ops) = true -> s.held = false) :
    Heard platform s (s.onApplyRead platform target ops logins) seen seen := by
  cases ends : s.endsBatch logins (.applyRead target ops) with
  | true =>
    rw [onApplyRead_ends ends]
    refine (ended_heard inv tracks target false "unknown" [] (notices ends)).aside (runNextApply_aside ?_ _)
    exact inv.there
  | false =>
    obtain ⟨read, -, there, is⟩ := onApplyRead_writes platform ends
    rw [is]
    have aside := (writes_aside target.command (runOps platform s.now read ops).writes s).trans
      (post_aside _ (.read (.applyWritten target (runOps platform s.now read ops).failedKeys
        (runOps platform s.now read ops).writes.length)))
    exact ⟨aside.alive, aside.salt, aside.authorized, aside.inbox, aside.store, aside.inv inv,
      fun _ => ⟨_, read_mem _ rfl, rfl⟩, aside.tracks tracks, fun _ => aside.owing,
      fun _ altered => absurd rfl altered⟩

theorem onApplyWritten_heard (inv : NoticeInv s) (tracks : Tracks platform s seen) (target : ReplyTarget)
    (failedKeys : List String) (written : ℕ)
    (is : ∀ read, logins = some read -> read = seen) (notices : written = 0 -> s.held = false) :
    Heard platform s (s.onApplyWritten platform target failedKeys written logins) seen seen := by
  obtain ⟨fingerprints, based, unread, tracked⟩ := onBaseline_is inv tracks is
  unfold onApplyWritten
  rw [onBaseline_idle, based]
  dsimp only
  generalize sent : (if failedKeys.isEmpty then "" else "someRefused") = error
  have ended : NoticeInv (({ s with
      fingerprints, applying := false, held := false } : PasswordSync).sendOpResult target failedKeys.isEmpty error
        failedKeys) := ⟨inv.there, inv.forms, inv.watching, unread, nofun⟩
  split
  · have told : Heard platform _ _ seen seen := heard_scheduled ended nofun unread tracked
    refine Heard.aside ?_ (runNextApply_aside ?_ _)
    · exact ⟨told.alive, told.salt, told.authorized, told.inbox, told.store, told.inv, told.reading, told.tracks,
        fun authorized _ => scheduleChanged_owing authorized, fun _ altered => absurd rfl altered⟩
    · exact told.inv.there
  · next none =>
    have quiet := notices (Nat.eq_zero_of_not_pos none)
    refine Heard.aside ?_ (runNextApply_aside ?_ _)
    · exact ⟨rfl, rfl, rfl, rfl, rfl, ended, nofun, tracked, fun _ owing => .inr (owing.resolve_left (by simp [quiet])),
        fun _ altered => absurd rfl altered⟩
    · exact inv.there

variable {id : ℕ} {message : StoreMessage}

theorem take_reading (found : s.inbox.lookup id = some message)
    (other : ∀ callback, message.served = some callback -> callback.applies = false) (reading : Reading s) :
    Reading { s with inbox := Mailbox.take s.inbox id } := by
  intro busy
  obtain ⟨callback, mem, applies⟩ := reading busy
  refine ⟨callback, ?_, applies⟩
  rcases List.mem_append.mp mem with there | there
  · exact List.mem_append_left _ there
  · have taken := (Mailbox.filterMap_take StoreMessage.served found).mem_iff.mp there
    rcases List.mem_append.mp taken with own | kept
    · have none := other callback (Option.mem_toList.mp own)
      exact absurd (none.symm.trans applies) Bool.false_ne_true
    · exact List.mem_append_right _ kept

theorem deliver_heard (nonempty : ∀ text, platform.sha256 text ≠ "") (alive : s.alive = true) (inv : NoticeInv s)
    (reading : Reading s) (tracks : Tracks platform s seen)
    (found : s.inbox.lookup id = some message) (moves : Moves platform s.salt seen message now)
    (notices : s.Notices platform (.deliver id)) :
    Heard platform { s with inbox := Mailbox.take s.inbox id } (s.next platform (.deliver id)) seen now := by
  have inv' : NoticeInv { s with inbox := Mailbox.take s.inbox id } :=
    ⟨inv.there, inv.forms, inv.watching, inv.unread, inv.held⟩
  dsimp only [next]
  rw [found]
  dsimp only
  have answered (logins : Option (List StoredCredential)) (callback : LoginsCallback)
      (is : ∀ read, logins = some read -> read = seen) (at_id : message = .results callback logins) :
      Heard platform { s with inbox := Mailbox.take s.inbox id }
        (receive platform { s with inbox := Mailbox.take s.inbox id } (.results callback logins)) seen seen := by
    have quiet := notices callback logins (at_id ▸ found)
    dsimp only [receive]
    rw [if_pos alive]
    cases callback with
    | baseline =>
      exact onBaseline_heard inv' (take_reading found (by rintro callback is; rw [at_id] at is; cases is) reading)
        tracks is
    | snapshot target =>
      have reading' : Reading { s with inbox := Mailbox.take s.inbox id } := by
        refine take_reading found (fun callback is => ?_) reading
        rw [at_id] at is
        cases is
        rfl
      have silent : Heard platform _ { s with inbox := Mailbox.take s.inbox id } seen seen :=
        heard_silently inv' reading' inv.unread tracks fun _ => rfl
      cases logins <;> exact silent.aside (note_aside _ _)
    | applyRead target ops => exact onApplyRead_heard inv' tracks target ops logins quiet
    | applyWritten target failedKeys written =>
      refine onApplyWritten_heard inv' tracks target failedKeys written is fun none => quiet ?_
      exact decide_eq_true none
  cases moves with
  | changed forms clear =>
    exact changed_heard nonempty inv' (take_reading found nofun reading) tracks forms clear
  | retained => exact retained_heard inv' (take_reading found nofun reading) tracks _
  | read callback => exact answered _ callback (fun read is => (Option.some.inj is).symm) rfl
  | failed callback => exact answered none callback nofun rfl

theorem startWatching_idle (inv : NoticeInv s) (offTheRecord : Bool) : s.ensureObserver offTheRecord = s := by
  unfold ensureObserver startWatching
  split
  · rfl
  · rw [if_pos]
    rw [inv.watching]
    cases s.authorized with
    | false => exact .inl (by simp)
    | true => exact .inr (.inl rfl)

theorem handleCommand_cases (inv : NoticeInv s) (widget : ℕ) (offTheRecord : Bool) (name : String)
    (command : DictValue) : Aside s (s.handleCommand platform widget offTheRecord name command) \/
      s.handleCommand platform widget offTheRecord name command = s.setAuthorized false \/
        (s.authorized = false /\
          s.handleCommand platform widget offTheRecord name command = s.setAuthorized true) := by
  have asked (target : ReplyTarget) (applies : Bool) : Aside s (s.ask target applies) :=
    ⟨rfl, rfl, rfl, rfl, rfl, rfl, rfl, rfl, rfl, rfl, id, fun _ => id, .inl⟩
  unfold handleCommand
  rw [startWatching_idle inv]
  dsimp only
  split
  · split
    · exact .inl (Aside.refl s)
    · cases (command.findBool "granted").getD false with
      | false => exact .inr (.inl rfl)
      | true =>
        cases authorized : s.authorized with
        | false => exact .inr (.inr ⟨rfl, rfl⟩)
        | true =>
          left
          have observing : s.observing = true := inv.watching.trans authorized
          unfold setAuthorized startWatching
          dsimp only
          rw [if_pos rfl, if_pos (.inr (.inl observing))]
          exact ⟨rfl, rfl, rfl, authorized.symm, rfl, rfl, rfl, rfl, rfl, rfl, id, fun _ => id, .inl⟩
  · split
    · exact .inl ((asked _ _).trans (snapshot_aside _ _))
    · split
      · exact .inl ((asked _ _).trans (applyThen_aside _ (by exact inv.there) _ _))
      · exact .inl (Aside.refl s)

end Heard

end PasswordSync

end ChromiumHmos.Passwords
