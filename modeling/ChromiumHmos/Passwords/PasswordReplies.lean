import ChromiumHmos.Lib.Progress
import ChromiumHmos.Passwords.PasswordBatches

set_option autoImplicit false

/-!
# Replies of the password sync

Where no batch ends with others waiting while sync is not authorized, every command is replied to.
-/

namespace ChromiumHmos.Passwords

open Base Std Transition History Progress
open UrlProtection (GURL UrlLibrary)

namespace PasswordSync

-- With this answer the batch is over.
def endsBatch (s : PasswordSync) (logins : Option (List StoredCredential)) : LoginsCallback → Bool
  | .applyRead _ _ => !(logins.isSome && s.storeThere)
  | .applyWritten _ _ _ => true
  | _ => false

/-- The condition on a step: sync is authorized when a batch ends and more than one waits. -/
def Flows (s : PasswordSync) : SyncOp → Prop
  | .deliver id => ∀ callback logins, s.inbox.lookup id = some (.results callback logins) →
      s.endsBatch logins callback = true → s.authorized = true ∨ s.pendingApplies.length ≤ 1
  | _ => True

section Steps

variable {s : PasswordSync} {platform : SyncPlatform}

def Sound (s : PasswordSync) : Prop := LiveInv none s ∧ s.Waits

theorem Sound.still {t : PasswordSync} (sound : Sound s) (still : Still s t) : Sound t := by
  refine ⟨sound.1.still still, ?_⟩
  unfold Waits
  rw [still.pending, still.applying]
  exact sound.2

variable {target : ReplyTarget}

variable {ops : List Value}

theorem applyThen_sound {next : PasswordSync -> PasswordSync}
    (inv : LiveInv (some (target.command, false)) s)
    (first : s.applying = false ->
      ∀ other ∈ s.pendingApplies.map (fun entry => entry.1.command), target.command < other)
    (last : s.applying = true ->
      ∀ other ∈ s.pendingApplies.map (fun entry => entry.1.command), other < target.command)
    (lost : s.storeThere = false -> ∀ t : PasswordSync, t.pendingApplies = [] -> Sound t -> Sound (next t))
    (waits : s.authorized = true \/ s.Waits) : Sound (applyThen next s target ops) := by
  unfold applyThen
  split
  · next refused =>
    refine ⟨inv.reply _ s.held (by simp), ?_⟩
    exact waits.resolve_left refused
  · split
    next busy => exact ⟨inv.enqueue busy ops (last busy), fun _ => busy⟩
    · next idle =>
      have idle := Bool.eq_false_iff.mpr idle
      have begun := inv.begin idle (first idle)
      dsimp only
      split
      next there => exact ⟨begun.read rfl rfl there nofun, fun _ => rfl⟩
      · next gone =>
        have empty : s.pendingApplies = [] := (inv.noStore (Bool.eq_false_iff.mpr gone)).2
        refine lost (Bool.eq_false_iff.mpr gone) _ empty ⟨?_, fun some => absurd empty some⟩
        exact begun.reply _ s.held rfl

theorem runNextApply_sound (inv : LiveInv none s) (idle : s.applying = false)
    (flows : s.authorized = true \/ s.pendingApplies.length <= 1) :
    Sound (runNextApply s.pendingApplies s) := by
  cases pending : s.pendingApplies with
  | nil => exact ⟨inv, fun some => absurd pending some⟩
  | cons head rest =>
    obtain ⟨target, ops⟩ := head
    obtain ⟨popped, later⟩ := inv.pop pending
    refine applyThen_sound popped (fun _ => later) (fun busy => ?_) (fun gone => ?_) ?_
    · exact absurd (idle.symm.trans busy) Bool.false_ne_true
    · have empty := (inv.noStore gone).2
      rw [pending] at empty
      cases empty
    · rw [pending] at flows
      refine flows.imp_right fun short some => ?_
      exact absurd (List.eq_nil_of_length_eq_zero (Nat.le_zero.mp (Nat.le_of_succ_le_succ short))) some

theorem onBaseline_idle (s : PasswordSync) (logins : Option (List StoredCredential)) (applying held : Bool) :
    { s with applying, held }.onBaseline platform logins =
      { s.onBaseline platform logins with applying, held } := by
  unfold onBaseline
  cases logins with
  | none => rfl
  | some logins =>
    dsimp only
    split <;> rfl

theorem onBaseline_authorized (s : PasswordSync) (logins : Option (List StoredCredential)) :
    (s.onBaseline platform logins).authorized = s.authorized := by
  unfold onBaseline
  split
  · split <;> rfl
  · rfl

theorem scheduleChanged_authorized (s : PasswordSync) : s.scheduleChanged.authorized = s.authorized := by
  unfold scheduleChanged
  split <;> rfl

variable {logins : Option (List StoredCredential)}

theorem onApplyRead_ends
    (ends : s.endsBatch logins (.applyRead target ops) = true) :
    s.onApplyRead platform target ops logins = runNextApply s.pendingApplies
      ({ s with applying := false, held := false }.sendOpResult target false "unknown" []) := by
  unfold onApplyRead
  split
  next there => simp [endsBatch, there] at ends
  · rfl

variable (platform) in
theorem onApplyRead_writes
    (goes : s.endsBatch logins (.applyRead target ops) = false) :
    ∃ read, logins = some read /\ s.storeThere = true /\ s.onApplyRead platform target ops logins =
      ((runOps platform s.now read ops).writes.foldl (fun s w => s.write target.command w) s).post
        (.read (.applyWritten target (runOps platform s.now read ops).failedKeys
          (runOps platform s.now read ops).writes.length)) := by
  cases logins with
  | none => cases goes
  | some read =>
    have there : s.storeThere = true := by simpa [endsBatch] using goes
    refine ⟨read, rfl, there, ?_⟩
    unfold onApplyRead
    rw [there]

theorem onApplyRead_sound (ops : List Value)
    (inv : LiveInv (some (target.command, true)) s) (logins : Option (List StoredCredential))
    (flows : s.endsBatch logins (.applyRead target ops) = true ->
      s.authorized = true \/ s.pendingApplies.length <= 1) :
    Sound (s.onApplyRead platform target ops logins) := by
  cases ends : s.endsBatch logins (.applyRead target ops) with
  | true =>
    rw [onApplyRead_ends ends]
    exact runNextApply_sound (inv.reply _ false (by simp)) rfl (flows ends)
  | false =>
    obtain ⟨read, -, there, is⟩ := onApplyRead_writes platform ends
    obtain ⟨written, same⟩ := inv.writes (runOps platform s.now read ops).writes
    rw [is]
    exact ⟨written.read rfl rfl (same.trans there) nofun, fun _ => written.alone.1⟩

theorem baseline_told (platform : SyncPlatform) (inv : LiveInv (some (target.command, true)) s)
    (logins : Option (List StoredCredential)) :
    Still s (s.onBaseline platform logins) /\ ∀ event : DictValue, LiveInv none
      ({ s.onBaseline platform logins with applying := false, held := false }.note (.replied target event)) :=
  have based := onBaseline_still s logins
  ⟨based, fun event => (inv.still based).reply event false (by simp)⟩

theorem onApplyWritten_sound (inv : LiveInv (some (target.command, true)) s)
    (failedKeys : List String) (written : Nat) (logins : Option (List StoredCredential))
    (flows : s.authorized = true \/ s.pendingApplies.length <= 1) :
    Sound (s.onApplyWritten platform target failedKeys written logins) := by
  obtain ⟨based, told⟩ := baseline_told platform inv logins
  rw [<- based.pending, <- onBaseline_authorized s logins] at flows
  unfold onApplyWritten
  rw [onBaseline_idle]
  dsimp only
  split
  · have still := scheduleChanged_still (({ s.onBaseline platform logins with
      applying := false, held := false } : PasswordSync).sendOpResult target failedKeys.isEmpty
        (if failedKeys.isEmpty then "" else "someRefused") failedKeys)
    refine runNextApply_sound ((told _).still still) still.applying ?_
    rw [still.pending, scheduleChanged_authorized]
    exact flows
  · exact runNextApply_sound (told _) rfl flows

theorem startWatching_sound (sound : Sound s) (offTheRecord : Bool) : Sound (s.ensureObserver offTheRecord) := by
  unfold ensureObserver
  split
  · exact sound
  · exact sound.still (startWatching_still s)

theorem snapshot_sound (sound : Sound s) (new : target.command = s.commands) :
    Sound ((s.ask target false).snapshot platform target) := by
  have asked : LiveInv (some (target.command, false)) (s.ask target false) := new ▸ sound.1.ask new false
  have replied (event : DictValue) : Sound ((s.ask target false).note (.replied target event)) :=
    ⟨asked.reply event s.held (by simp [ask, note]), sound.2⟩
  unfold snapshot
  split
  · exact replied _
  · split
    · next there =>
      refine ⟨asked.read rfl rfl there fun _ other mem same => ?_, sound.2⟩
      have before : .asked other true ∈ s.log := by simpa [ask, note] using mem
      have old := sound.1.old before
      omega
    · exact replied _

theorem apply_sound (sound : Sound s) (new : target.command = s.commands)
    (ops : List Value) : Sound ((s.ask target true).apply target ops) := by
  have asked := sound.1.ask new true
  refine applyThen_sound (new ▸ asked) (fun idle other mem => ?_) (fun _ other mem => ?_)
    (fun _ t empty ended => ?_) (.inr sound.2)
  · have some : s.pendingApplies ≠ [] := by
      rintro none
      have mem : other ∈ s.pendingApplies.map (fun entry => entry.1.command) := mem
      rw [none] at mem
      cases mem
    exact absurd ((sound.2 some).symm.trans idle) Bool.false_ne_true.symm
  · have old := sound.1.known mem
    omega
  · rw [empty]
    exact ended

theorem handleCommand_sound (sound : Sound s) (widget : Nat) (offTheRecord : Bool) (name : String)
    (command : DictValue) : Sound (s.handleCommand platform widget offTheRecord name command) := by
  have watched := startWatching_sound sound offTheRecord
  unfold handleCommand
  dsimp only
  split
  · split
    · exact watched
    · exact watched.still (setAuthorized_still _ _)
  · split
    · exact snapshot_sound watched rfl
    · split
      · exact apply_sound watched rfl _
      · exact watched

variable {id : Nat}

theorem perform_still {task : StoreTask} (found : s.tasks.lookup id = some task) (ok : Bool) :
    Still s ({ s with tasks := Mailbox.take s.tasks id }.perform id task ok) := by
  have taken := Mailbox.filterMap_take StoreTask.served found
  cases task with
  | read callback =>
    refine ⟨rfl, ?_, rfl, rfl, rfl, rfl, [], by simp [perform], by simp⟩
    unfold reads perform
    dsimp only
    refine .trans ?_ (taken.symm.append_right _)
    rw [List.filterMap_append, List.append_assoc, <- List.append_assoc]
    refine List.perm_append_comm.trans (List.Perm.append_right _ ?_)
    cases served : callback.served <;> simp [StoreMessage.served, StoreTask.served, served]
  | write w =>
    have reads : s.reads.Perm ({ s with tasks := Mailbox.take s.tasks id } : PasswordSync).reads :=
      taken.append_right _
    cases ok with
    | false => exact ⟨rfl, reads.symm, rfl, rfl, rfl, rfl, [], by simp [perform], by simp⟩
    | true =>
      refine ⟨rfl, .trans ?_ reads.symm, rfl, rfl, rfl, rfl, [], by simp [perform], by simp⟩
      simp [PasswordSync.reads, perform, StoreMessage.served]

variable {message : StoreMessage}

theorem receive_still (unserved : message.served = none) :
    Still s (s.receive platform message) := by
  cases message with
  | changed changes =>
    dsimp only [receive]
    split
    · exact onLoginsChanged_still s changes
    · exact Still.refl s
  | retained retained =>
    dsimp only [receive]
    split
    · exact onLoginsRetained_still s retained
    · exact Still.refl s
  | results callback logins =>
    dsimp only [receive]
    split
    · cases callback with
      | baseline => exact onBaseline_still s logins
      | _ => cases unserved
    · exact Still.refl s

theorem take_still (found : s.inbox.lookup id = some message)
    (unserved : message.served = none) : Still s { s with inbox := Mailbox.take s.inbox id } := by
  have taken := Mailbox.filterMap_take StoreMessage.served found
  rw [unserved, Option.toList_none, List.nil_append] at taken
  exact ⟨rfl, taken.symm.append_left _, rfl, rfl, rfl, rfl, [], by simp, by simp⟩

theorem next_still {op : SyncOp} (command : ∀ widget otr name fields, op ≠ .command widget otr name fields)
    (destroy : op ≠ .destroy)
    (answer : ∀ id message, op = .deliver id -> s.inbox.lookup id = some message -> message.served = none) :
    Still s (s.next platform op) := by
  have external (after : List StoredCredential) (message : StoreMessage) (unserved : message.served = none) :
      Still s ({ s with
        store := after
        inbox := s.inbox ++ [(s.ids, message)]
        ids := s.ids + 1 }.note (.changed s.ids s.store after)) := by
    refine ⟨rfl, ?_, rfl, rfl, rfl, rfl, [.changed s.ids s.store after], rfl, by simp [SyncEvent.plain]⟩
    simp [reads, note, unserved]
  cases op with
  | command widget otr name fields => exact absurd rfl (command widget otr name fields)
  | external w => exact external _ _ rfl
  | retain logins => exact external _ _ rfl
  | perform id ok =>
    dsimp only [next]
    cases found : s.tasks.lookup id with
    | none => exact Still.refl s
    | some task => exact perform_still found ok
  | deliver id =>
    dsimp only [next]
    cases found : s.inbox.lookup id with
    | none => exact Still.refl s
    | some message =>
      have unserved := answer id message rfl found
      exact (take_still found unserved).trans (receive_still unserved)
  | changeTimer =>
    exact ⟨rfl, .refl _, rfl, rfl, rfl, rfl, [_], rfl, by simp [SyncEvent.plain]⟩
  | tick elapsed => exact ⟨rfl, .refl _, rfl, rfl, rfl, rfl, [], by simp [next], by simp⟩
  | destroy => exact absurd rfl destroy

variable {callback : LoginsCallback}

theorem served_results
    (served : message.served = some callback) :
    ∃ logins command, message = .results callback logins /\ callback.command = some command := by
  cases message with
  | results other logins =>
    simp only [StoreMessage.served, LoginsCallback.served, Option.ite_none_right_eq_some,
      Option.some.injEq] at served
    obtain ⟨some, rfl⟩ := served
    obtain ⟨command, is⟩ := Option.isSome_iff_exists.mp some
    exact ⟨logins, command, rfl, is⟩
  | _ => cases served

theorem answer_sound {command : Nat} (serves : callback.command = some command)
    (inv : LiveInv (some (command, callback.applies)) s) (waits : s.Waits)
    (logins : Option (List StoredCredential))
    (flows : s.endsBatch logins callback = true -> s.authorized = true \/ s.pendingApplies.length <= 1) :
    Sound (s.runCallback platform logins callback) := by
  cases callback with
  | baseline => cases serves
  | snapshot target =>
    cases serves
    have replied (event : DictValue) : Sound (s.note (.replied target event)) :=
      ⟨inv.reply event s.held (by simp [LoginsCallback.applies]), waits⟩
    cases logins with
    | none => exact replied _
    | some logins => exact replied _
  | applyRead target ops =>
    cases serves
    exact onApplyRead_sound ops inv logins flows
  | applyWritten target failedKeys written =>
    cases serves
    exact onApplyWritten_sound inv failedKeys written logins (flows rfl)

theorem deliver_sound (sound : Sound s) (alive : s.alive = true) {command : Nat}
    (found : s.inbox.lookup id = some (.results callback logins)) (serves : callback.command = some command)
    (flows : s.Flows (.deliver id)) : Sound (s.next platform (.deliver id)) := by
  have served : (StoreMessage.results callback logins).served = some callback := by
    simp [StoreMessage.served, LoginsCallback.served, serves]
  have taken := sound.1.take found served serves
  dsimp only [next, receive]
  rw [found]
  dsimp only
  rw [if_pos alive]
  exact answer_sound serves taken sound.2 logins (flows callback logins found)

theorem deliver_dead (dead : ¬ s.alive = true) (found : s.inbox.lookup id = some (.results callback logins)) :
    s.next platform (.deliver id) = { s with inbox := Mailbox.take s.inbox id } := by
  dsimp only [next, receive]
  rw [found]
  exact if_neg dead

theorem next_alive {op : SyncOp} (permitted : s.permitted op) (lives : (s.next platform op).alive = true) :
    s.alive = true := by
  by_cases still : (∀ widget otr name fields, op ≠ .command widget otr name fields) /\ op ≠ .destroy /\
      ∀ id message, op = .deliver id -> s.inbox.lookup id = some message -> message.served = none
  · exact (next_still still.1 still.2.1 still.2.2).alive ▸ lives
  · cases op with
    | command widget otr name fields => exact permitted
    | destroy => cases lives
    | deliver id =>
      by_contra dead
      refine still ⟨nofun, nofun, fun other message is found => ?_⟩
      cases is
      cases message with
      | results callback logins =>
        rw [deliver_dead dead found] at lives
        exact absurd lives dead
      | _ => rfl
    | _ => exact absurd ⟨nofun, nofun, nofun⟩ still

end Steps

structure RepliesInv (s : PasswordSync) : Prop where
  live : s.alive = true → Sound s
  few : ∀ command, s.log.countP (SyncEvent.repliesTo command) ≤ 1
  inOrder : Throughout InOrder s.log

section Inv

variable {s : PasswordSync} {platform : SyncPlatform}

theorem Sound.replies {t : PasswordSync} (sound : Sound t) : RepliesInv t := by
  refine ⟨fun _ => sound, fun command => ?_, sound.1.inOrder⟩
  have balance := sound.1.balance command
  split at balance <;> omega

theorem RepliesInv.still {t : PasswordSync} (inv : RepliesInv s) (still : Still s t) : RepliesInv t := by
  obtain ⟨more, log, plain⟩ := still.log
  refine ⟨fun alive => (inv.live (still.alive ▸ alive)).still still, fun command => ?_, ?_⟩
  · rw [log, plain_count plain]
    exact inv.few command
  · rw [log]
    exact plain_inOrder plain inv.inOrder

theorem next_replies (inv : RepliesInv s) {op : SyncOp} (permitted : s.permitted op) (flows : s.Flows op) :
    RepliesInv (s.next platform op) := by
  by_cases still : (∀ widget otr name fields, op ≠ .command widget otr name fields) /\ op ≠ .destroy /\
      ∀ id message, op = .deliver id -> s.inbox.lookup id = some message -> message.served = none
  · exact inv.still (next_still still.1 still.2.1 still.2.2)
  · cases op with
    | command widget otr name fields =>
      exact (handleCommand_sound (inv.live permitted) widget otr name fields).replies
    | destroy =>
      refine ⟨fun alive => absurd alive Bool.false_ne_true, fun command => ?_, inv.inOrder.snoc trivial⟩
      exact (count_other s.log _ (fun _ => rfl) command).trans_le (inv.few command)
    | deliver id =>
      obtain ⟨message, found⟩ := Mailbox.lookup_some permitted
      cases served : message.served with
      | none =>
        refine absurd ⟨nofun, nofun, fun other held is at_id => ?_⟩ still
        cases is
        rw [Option.some.inj (at_id.symm.trans found)]
        exact served
      | some callback =>
        obtain ⟨logins, command, rfl, serves⟩ := served_results served
        by_cases alive : s.alive = true
        · exact (deliver_sound (inv.live alive) alive found serves flows).replies
        · rw [deliver_dead alive found]
          exact ⟨fun lives => absurd lives alive, inv.few, inv.inOrder⟩
    | _ => exact absurd ⟨nofun, nofun, nofun⟩ still

end Inv

end PasswordSync

end ChromiumHmos.Passwords
