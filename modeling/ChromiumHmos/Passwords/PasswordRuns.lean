import ChromiumHmos.Passwords.PasswordProgress

set_option autoImplicit false

/-!
# Runs of the password sync

A batch that waits moves up each time one ends, until it is replied to.
-/

namespace ChromiumHmos.Passwords

open Base Std Transition History Progress
open UrlProtection (GURL UrlLibrary)

namespace PasswordSync

/-- How far a command is: the batches before it, and the read that is under way. -/
structure Stage where
  ahead : ℕ
  rest : ℕ
  asked : Bool
  id : ℕ

def Stage.rank (stage : Stage) : ℕ ×ₗ ℕ := toLex (stage.ahead, 2 * stage.rest + stage.asked.toNat)

def Stage.turn (stage : Stage) (op : SyncOp) : Prop :=
  if stage.asked then ∃ ok, op = .perform stage.id ok else op = .deliver stage.id

def UnderWay (s : PasswordSync) (id : ℕ) (asked : Bool) (callback : LoginsCallback) : Prop :=
  if asked then (id, .read callback) ∈ s.tasks else ∃ logins, (id, .results callback logins) ∈ s.inbox

def Ahead (s : PasswordSync) (command : ℕ) (callback : LoginsCallback) : ℕ → Prop
  | 0 => callback.command = some command
  | ahead + 1 => callback.applies = true ∧
      (s.pendingApplies.map fun entry => entry.1.command)[ahead]? = some command

def Awaits (command : ℕ) (stage : Stage) (s : PasswordSync) : Prop :=
  ∃ callback, s.UnderWay stage.id stage.asked callback ∧ callback.rest = stage.rest ∧
    callback.command.isSome ∧ s.Ahead command callback stage.ahead

def Replied (command : ℕ) (s : PasswordSync) : Prop := 0 < s.log.countP (SyncEvent.repliesTo command)

section Step

variable {s t : PasswordSync} {platform : SyncPlatform} {command : ℕ}

theorem Replied.later (replied : Replied command s) (posts : Posts s t) : Replied command t := by
  obtain ⟨more, log⟩ := posts.log
  unfold Replied
  rw [<- log, List.countP_append]
  exact Nat.add_pos_left replied _

theorem note_replied (s : PasswordSync) (target : ReplyTarget) (event : DictValue) :
    Replied target.command (s.note (.replied target event)) := by
  change 0 < (s.log ++ [_]).countP _
  rw [count_replied, if_pos rfl]
  exact Nat.succ_pos _

variable {ahead : ℕ}

variable {callback : LoginsCallback}

theorem awaits_read (serves : callback.command.isSome) (s : PasswordSync) (front : s.Ahead command callback ahead) :
    Awaits command ⟨ahead, callback.rest, true, s.ids⟩ (s.post (.read callback)) := by
  refine ⟨callback, ?_, rfl, serves, ?_⟩
  · exact List.mem_append_right _ (List.mem_singleton_self _)
  · cases ahead with
    | zero => exact front
    | succ ahead => exact front

theorem applyThen_begins (next : PasswordSync -> PasswordSync) (authorized : s.authorized = true)
    (idle : s.applying = false) (there : s.storeThere = true) (target : ReplyTarget) (ops : List Value) :
    applyThen next s target ops =
      ({ s with applying := true }.note (.started target.command)).post (.read (.applyRead target ops)) := by
  simp [applyThen, authorized, idle, there, note]

theorem runNextApply_progress (inv : LiveInv none s) (idle : s.applying = false)
    (flows : s.authorized = true \/ s.pendingApplies.length <= 1)
    (waits : (s.pendingApplies.map fun entry => entry.1.command)[ahead]? = some command) :
    Replied command (runNextApply s.pendingApplies s) \/
      ∃ stage : Stage, stage.ahead < ahead + 1 /\ Awaits command stage (runNextApply s.pendingApplies s) := by
  cases pending : s.pendingApplies with
  | nil =>
    rw [pending] at waits
    cases waits
  | cons head rest =>
    obtain ⟨target, ops⟩ := head
    rw [pending] at waits flows
    have there : s.storeThere = true := by
      by_contra gone
      have empty := (inv.noStore (Bool.eq_false_iff.mpr gone)).2
      rw [pending] at empty
      cases empty
    dsimp only [runNextApply]
    by_cases granted : s.authorized = true
    · rw [applyThen_begins (s := { s with pendingApplies := rest }) _ granted idle there]
      refine .inr ⟨⟨ahead, 1, true, s.ids⟩, Nat.lt_succ_self _, ?_⟩
      refine awaits_read rfl _ ?_
      cases ahead with
      | zero => simpa [Ahead, LoginsCallback.command] using waits
      | succ ahead => exact ⟨rfl, waits⟩
    · -- only this one waits
      have short := flows.resolve_left granted
      obtain rfl := List.eq_nil_of_length_eq_zero (Nat.le_zero.mp (Nat.le_of_succ_le_succ short))
      unfold applyThen
      rw [if_pos granted]
      cases ahead with
      | succ ahead => cases waits
      | zero =>
        obtain rfl : target.command = command := by simpa using waits
        exact .inl (note_replied _ target _)

variable {stage : Stage}

theorem perform_progress (numbered : Numbered s) (awaits : Awaits command stage s)
    (asked : stage.asked = true) (ok : Bool) :
    ∃ stage' : Stage, stage'.rank < stage.rank /\ Awaits command stage' (s.next platform (.perform stage.id ok)) := by
  obtain ⟨callback, under, rest, serves, front⟩ := awaits
  rw [UnderWay, if_pos asked] at under
  refine ⟨{ stage with asked := false }, ?_, callback, ?_, rest, serves, ?_⟩
  · refine Prod.Lex.toLex_lt_toLex.mpr (.inr ⟨rfl, ?_⟩)
    rw [asked]
    exact Nat.lt_succ_self _
  · dsimp only [next]
    rw [Mailbox.lookup_of_mem numbered.tasks under]
    exact ⟨_, List.mem_append_right _ (List.mem_singleton_self _)⟩
  · dsimp only [next]
    rw [Mailbox.lookup_of_mem numbered.tasks under]
    unfold Ahead at front ⊢
    split at front <;> exact front

variable {target : ReplyTarget}

theorem ended_progress
    (serves : callback.command = some target.command) (front : s.Ahead command callback ahead)
    (inv : LiveInv none t) (idle : t.applying = false) (replied : Replied target.command t)
    (flows : t.authorized = true \/ t.pendingApplies.length <= 1)
    (pending : t.pendingApplies = s.pendingApplies) :
    Replied command (runNextApply t.pendingApplies t) \/
      ∃ stage : Stage, stage.ahead < ahead /\ Awaits command stage (runNextApply t.pendingApplies t) := by
  cases ahead with
  | zero =>
    obtain rfl := Option.some.inj (serves.symm.trans front)
    exact .inl (replied.later (runNextApply_posts _ _))
  | succ ahead => exact runNextApply_progress inv idle flows (pending ▸ front.2)

theorem writes_pending (number : ℕ) (writes : List StoreWrite) (s : PasswordSync) :
    (writes.foldl (fun s w => s.write number w) s).pendingApplies = s.pendingApplies := by
  induction writes generalizing s with
  | nil => rfl
  | cons w rest ih => exact ih (s.write number w)

theorem onApplyRead_progress {ops : List Value}
    (inv : LiveInv (some (target.command, true)) s) (front : s.Ahead command (.applyRead target ops) ahead)
    (logins : Option (List StoredCredential))
    (flows : s.endsBatch logins (.applyRead target ops) = true ->
      s.authorized = true \/ s.pendingApplies.length <= 1) :
    Replied command (s.onApplyRead platform target ops logins) \/ ∃ stage : Stage,
      (stage.ahead < ahead \/ stage.ahead = ahead /\ stage.rest = 0) /\
        Awaits command stage (s.onApplyRead platform target ops logins) := by
  cases ends : s.endsBatch logins (.applyRead target ops) with
  | true =>
    rw [onApplyRead_ends ends]
    refine (ended_progress rfl front (inv.reply _ false (by simp)) rfl (note_replied _ target _) (flows ends)
      rfl).imp_right ?_
    rintro ⟨stage, lower, waits⟩
    exact ⟨stage, .inl lower, waits⟩
  | false =>
    obtain ⟨read, -, there, is⟩ := onApplyRead_writes platform ends
    rw [is]
    have pending := writes_pending target.command (runOps platform s.now read ops).writes s
    refine .inr ⟨⟨ahead, 0, true, _⟩, .inr ⟨rfl, rfl⟩, awaits_read rfl _ ?_⟩
    cases ahead with
    | zero => exact front
    | succ ahead => exact ⟨rfl, pending.symm ▸ front.2⟩

theorem onApplyWritten_progress {failedKeys : List String} {written : ℕ}
    (inv : LiveInv (some (target.command, true)) s)
    (front : s.Ahead command (.applyWritten target failedKeys written) ahead)
    (logins : Option (List StoredCredential)) (flows : s.authorized = true \/ s.pendingApplies.length <= 1) :
    Replied command (s.onApplyWritten platform target failedKeys written logins) \/ ∃ stage : Stage,
      stage.ahead < ahead /\ Awaits command stage (s.onApplyWritten platform target failedKeys written logins) := by
  obtain ⟨based, told⟩ := baseline_told platform inv logins
  rw [<- based.pending, <- onBaseline_authorized s logins] at flows
  unfold onApplyWritten
  rw [onBaseline_idle]
  dsimp only
  split
  · have still := scheduleChanged_still (({ s.onBaseline platform logins with
      applying := false, held := false } : PasswordSync).sendOpResult target failedKeys.isEmpty
        (if failedKeys.isEmpty then "" else "someRefused") failedKeys)
    refine ended_progress rfl front ((told _).still still) still.applying
      ((note_replied _ target _).later (scheduleChanged_posts _)) ?_ (still.pending.trans based.pending)
    rw [still.pending, scheduleChanged_authorized]
    exact flows
  · exact ended_progress rfl front (told _) rfl (note_replied _ target _) flows based.pending

theorem deliver_progress (numbered : Numbered s) (sound : Sound s) (alive : s.alive = true)
    (awaits : Awaits command stage s) (answered : stage.asked = false) (flows : s.Flows (.deliver stage.id)) :
    Replied command (s.next platform (.deliver stage.id)) \/ ∃ stage' : Stage, stage'.rank < stage.rank /\
      Awaits command stage' (s.next platform (.deliver stage.id)) := by
  obtain ⟨callback, under, rest, serves, front⟩ := awaits
  rw [UnderWay, if_neg (by simp [answered])] at under
  obtain ⟨logins, under⟩ := under
  obtain ⟨number, serves⟩ := Option.isSome_iff_exists.mp serves
  have found := Mailbox.lookup_of_mem numbered.inbox under
  have served : (StoreMessage.results callback logins).served = some callback := by
    simp [StoreMessage.served, LoginsCallback.served, serves]
  have inv := sound.1.take found served serves
  have flows := flows callback logins found
  have front : ({ s with inbox := Mailbox.take s.inbox stage.id } : PasswordSync).Ahead command callback
      stage.ahead := by
    unfold Ahead at front ⊢
    split at front <;> exact front
  dsimp only [next, receive]
  rw [found]
  dsimp only
  rw [if_pos alive]
  cases callback with
  | baseline => cases serves
  | snapshot target =>
    cases at_stage : stage.ahead with
    | succ ahead =>
      rw [at_stage] at front
      cases front.1
    | zero =>
      rw [at_stage] at front
      obtain rfl := Option.some.inj front
      cases logins <;> exact .inl (note_replied _ target _)
  | applyRead target ops =>
    cases serves
    refine (onApplyRead_progress inv front logins flows).imp_right ?_
    rintro ⟨stage', lower, waits⟩
    refine ⟨stage', Prod.Lex.toLex_lt_toLex.mpr (lower.imp_right fun next => And.imp_right (fun last => ?_) next), waits⟩
    rw [last, <- rest]
    cases stage'.asked <;> simp [LoginsCallback.rest, answered]
  | applyWritten target failedKeys written =>
    cases serves
    refine (onApplyWritten_progress inv front logins (flows rfl)).imp_right ?_
    rintro ⟨stage', lower, waits⟩
    exact ⟨stage', Prod.Lex.toLex_lt_toLex.mpr (.inl lower), waits⟩

theorem other_applies (sound : Sound s) {other : LoginsCallback}
    (applies : callback.applies = true) (serves : callback.command.isSome)
    (under : s.UnderWay stage.id stage.asked callback) {id : ℕ} {logins : Option (List StoredCredential)}
    (found : s.inbox.lookup id = some (.results other logins)) (apart : stage.asked = false -> id ≠ stage.id) :
    other.applies = false := by
  by_contra both
  have both := Bool.not_eq_false _ |>.mp both
  have served : (StoreMessage.results other logins).served = some other := by
    cases other <;> simp_all [StoreMessage.served, LoginsCallback.served, LoginsCallback.command, LoginsCallback.applies]
  have taken := Mailbox.filterMap_take StoreMessage.served found
  rw [served, Option.toList_some, List.singleton_append] at taken
  have kept : callback ∈ (s.tasks.filterMap fun task => task.2.served) ++
      (Mailbox.take s.inbox id).filterMap fun message => message.2.served := by
    have is : callback.served = some callback := if_pos serves
    unfold UnderWay at under
    split at under
    · exact List.mem_append_left _ (List.mem_filterMap.mpr ⟨_, under, is⟩)
    · next answered =>
      obtain ⟨logins', mem⟩ := under
      have away := (apart (Bool.eq_false_iff.mpr answered)).symm
      exact List.mem_append_right _ (List.mem_filterMap.mpr ⟨_, Mailbox.mem_take mem away, is⟩)
  have perm : s.reads.Perm (other :: ((s.tasks.filterMap fun task => task.2.served) ++
      (Mailbox.take s.inbox id).filterMap fun message => message.2.served)) :=
    (taken.append_left _).trans List.perm_middle
  have one := sound.1.one
  have some := List.countP_pos_iff.mpr ⟨callback, kept, applies⟩
  rw [perm.countP_eq, List.countP_cons, both] at one
  simp only [Option.toList_none, List.countP_nil, if_true] at one
  split at one <;> omega

theorem handleCommand_pending (sound : Sound s) (widget : ℕ) (offTheRecord : Bool) (name : String)
    (fields : DictValue) :
    s.pendingApplies <+: (s.handleCommand platform widget offTheRecord name fields).pendingApplies := by
  have watched : (s.ensureObserver offTheRecord).pendingApplies = s.pendingApplies := by
    unfold ensureObserver
    split
    · rfl
    · exact (startWatching_still s).pending
  have empty := (startWatching_sound sound offTheRecord).1.noStore
  unfold handleCommand
  dsimp only
  split
  · split
    · rw [watched]
    · rw [(setAuthorized_still _ _).pending, watched]
  · split
    · unfold snapshot
      split
      · exact watched ▸ List.prefix_rfl
      · split <;> exact watched ▸ List.prefix_rfl
    · split
      · unfold apply applyThen
        split
        · exact watched ▸ List.prefix_rfl
        · split
          · exact watched ▸ List.prefix_append _ _
          · dsimp only
            split
            · exact watched ▸ List.prefix_rfl
            · next gone =>
              rw [<- watched, (empty (Bool.eq_false_iff.mpr gone)).2]
              exact List.nil_prefix
      · exact watched ▸ List.prefix_rfl

theorem next_pending (sound : Sound s) (alive : s.alive = true) {op : SyncOp} (lives : op ≠ .destroy)
    (plain : ∀ id callback logins, op = .deliver id -> s.inbox.lookup id = some (.results callback logins) ->
      callback.applies = false) : s.pendingApplies <+: (s.next platform op).pendingApplies := by
  by_cases still : (∀ widget otr name fields, op ≠ .command widget otr name fields) /\ op ≠ .destroy /\
      ∀ id message, op = .deliver id -> s.inbox.lookup id = some message -> message.served = none
  · rw [(next_still still.1 still.2.1 still.2.2).pending]
  · cases op with
    | command widget otr name fields => exact handleCommand_pending sound widget otr name fields
    | destroy => exact absurd rfl lives
    | deliver id =>
      dsimp only [next]
      cases found : s.inbox.lookup id with
      | none => exact List.prefix_rfl
      | some message =>
        dsimp only
        cases served : message.served with
        | none => rw [(receive_still served).pending]
        | some callback =>
          obtain ⟨logins, number, rfl, own⟩ := served_results served
          have snapshot := plain id callback logins rfl found
          dsimp only [receive]
          rw [if_pos alive]
          cases callback with
          | baseline => cases own
          | snapshot target => cases logins <;> exact List.prefix_rfl
          | applyRead target ops => cases snapshot
          | applyWritten target failedKeys written => cases snapshot
    | _ => exact absurd ⟨nofun, nofun, nofun⟩ still

theorem other_step (sound : Sound s) (alive : s.alive = true) (awaits : Awaits command stage s)
    {op : SyncOp} (other : ¬ stage.turn op) (lives : op ≠ .destroy) :
    Awaits command stage (s.next platform op) := by
  obtain ⟨callback, under, rest, serves, front⟩ := awaits
  have kept : (s.next platform op).UnderWay stage.id stage.asked callback := by
    unfold Stage.turn at other
    unfold UnderWay at under ⊢
    cases asked : stage.asked with
    | true =>
      rw [asked] at other under
      exact task_kept under fun ok is => other ⟨ok, is⟩
    | false =>
      rw [asked] at other under
      obtain ⟨logins, mem⟩ := under
      exact ⟨logins, message_kept mem other⟩
  refine ⟨callback, kept, rest, serves, ?_⟩
  cases at_stage : stage.ahead with
  | zero =>
    rw [at_stage] at front
    exact front
  | succ ahead =>
    rw [at_stage] at front
    refine ⟨front.1, ?_⟩
    obtain ⟨more, grown⟩ : s.pendingApplies <+: (s.next platform op).pendingApplies :=
      next_pending sound alive lives fun id answering logins is found =>
        other_applies sound front.1 serves under found fun answered same =>
          other (by rw [Stage.turn, if_neg (by simp [answered]), is, same])
    rw [<- grown, List.map_append, List.getElem?_append_left]
    · exact front.2
    · exact (List.getElem?_eq_some_iff.mp front.2).1

end Step

def flowingStep (platform : SyncPlatform) : PasswordSync → SyncOp → PasswordSync → Prop :=
  guarded (fun s op => s.permitted op ∧ s.Flows op) (next platform)

structure SyncRun (platform : SyncPlatform) where
  state : ℕ → PasswordSync
  op : ℕ → SyncOp
  moved : ∀ n, flowingStep platform (state n) (op n) (state (n + 1))

structure SyncRun.Fair {platform : SyncPlatform} (run : SyncRun platform) : Prop where
  performs : ∀ n id, id ∈ (run.state n).tasks.map Prod.fst → ∃ m, n ≤ m ∧ ∃ ok, run.op m = .perform id ok
  delivers : ∀ n id, id ∈ (run.state n).inbox.map Prod.fst → ∃ m, n ≤ m ∧ run.op m = .deliver id

namespace SyncRun

variable {platform : SyncPlatform} (run : SyncRun platform)

theorem inv (initial : RepliesInv (run.state 0) /\ Numbered (run.state 0)) (n : ℕ) :
    RepliesInv (run.state n) /\ Numbered (run.state n) := by
  induction n with
  | zero => exact initial
  | succ n ih =>
    obtain ⟨⟨permitted, flows⟩, moved⟩ := run.moved n
    rw [moved]
    exact ⟨next_replies ih.1 permitted flows, next_numbered ih.2 _⟩

theorem turns (initial : RepliesInv (run.state 0) /\ Numbered (run.state 0)) (fair : run.Fair)
    (alive : ∀ n, (run.state n).alive = true) (command : ℕ) :
    Turns run.state run.op (Replied command) (Awaits command) Stage.rank Stage.turn := by
  constructor
  · intro n stage awaits
    obtain ⟨⟨permitted, flows⟩, moved⟩ := run.moved n
    obtain ⟨inv, numbered⟩ := run.inv initial n
    have sound := inv.live (alive n)
    have lives : run.op n ≠ .destroy := by
      intro is
      have dead : (run.state (n + 1)).alive = false := by
        rw [moved, is]
        rfl
      exact absurd (dead.symm.trans (alive (n + 1))) Bool.false_ne_true
    rw [moved]
    by_cases turn : stage.turn (run.op n)
    · cases asked : stage.asked with
      | true =>
        obtain ⟨ok, is⟩ : ∃ ok, run.op n = .perform stage.id ok := by
          rwa [Stage.turn, if_pos asked] at turn
        rw [is]
        exact .inr (.inl (perform_progress numbered awaits asked ok))
      | false =>
        have is : run.op n = .deliver stage.id := by
          rwa [Stage.turn, if_neg (by simp [asked])] at turn
        rw [is] at flows ⊢
        exact (deliver_progress numbered sound (alive n) awaits asked flows).imp_right .inl
    · exact .inr (.inr ⟨other_step sound (alive n) awaits turn lives, turn⟩)
  · rintro n stage ⟨callback, under, -, -, -⟩
    unfold UnderWay at under
    unfold Stage.turn
    cases asked : stage.asked with
    | true =>
      rw [asked] at under
      exact fair.performs n stage.id (List.mem_map.mpr ⟨_, under, rfl⟩)
    | false =>
      rw [asked] at under
      obtain ⟨logins, mem⟩ := under
      exact fair.delivers n stage.id (List.mem_map.mpr ⟨_, mem, rfl⟩)

end SyncRun

section Waiting

variable {s : PasswordSync} {command : ℕ}

theorem underWay_of_mem {callback : LoginsCallback} (mem : callback ∈ s.reads) :
    ∃ id asked, s.UnderWay id asked callback /\ callback.command.isSome := by
  have unserved {other : LoginsCallback} (served : other.served = some callback) :
      other = callback /\ callback.command.isSome := by
    unfold LoginsCallback.served at served
    split at served
    next is => exact ⟨Option.some.inj served, Option.some.inj served ▸ is⟩
    · cases served
  rcases List.mem_append.mp mem with there | there
  · obtain ⟨⟨id, task⟩, here, is⟩ := List.mem_filterMap.mp there
    cases task with
    | write w => cases is
    | read other =>
      obtain ⟨rfl, serves⟩ := unserved is
      exact ⟨id, true, here, serves⟩
  · obtain ⟨⟨id, message⟩, here, is⟩ := List.mem_filterMap.mp there
    cases message with
    | results other logins =>
      obtain ⟨rfl, serves⟩ := unserved is
      exact ⟨id, false, ⟨logins, here⟩, serves⟩
    | _ => cases is

theorem Sound.read_for_batch (sound : Sound s) (some : s.pendingApplies ≠ []) :
    s.reads.countP LoginsCallback.applies = 1 := by
  have one := sound.1.one
  rw [sound.2 some] at one
  exact one

theorem Sound.awaits (sound : Sound s) (asked : command < s.commands) :
    Replied command s \/ ∃ stage, Awaits command stage s := by
  by_cases replied : Replied command s
  · exact .inl replied
  · right
    have balance := sound.1.balance command
    rw [if_pos asked, Nat.eq_zero_of_not_pos replied] at balance
    by_cases reading : 0 < s.reads.countP (waitsFor command)
    · obtain ⟨callback, mem, own⟩ := List.countP_pos_iff.mp reading
      obtain ⟨id, asked, under, serves⟩ := underWay_of_mem mem
      have own : callback.command = some command := of_decide_eq_true own
      exact ⟨⟨0, callback.rest, asked, id⟩, callback, under, rfl, serves, own⟩
    · have waits : 0 < s.waiting command := by
        simp only [Option.toList_none, List.countP_nil] at balance
        omega
      obtain ⟨entry, mem, own⟩ := List.countP_pos_iff.mp waits
      have here : command ∈ s.pendingApplies.map fun entry => entry.1.command :=
        List.mem_map.mpr ⟨entry, mem, by simpa using own⟩
      obtain ⟨ahead, at_ahead⟩ := List.getElem?_of_mem here
      have one := sound.read_for_batch (List.ne_nil_of_mem mem)
      obtain ⟨callback, mem, applies⟩ := List.countP_pos_iff.mp (one ▸ Nat.one_pos)
      obtain ⟨id, asked, under, serves⟩ := underWay_of_mem mem
      exact ⟨⟨ahead + 1, callback.rest, asked, id⟩, callback, under, rfl, serves, applies, at_ahead⟩

end Waiting

structure Answered (platform : SyncPlatform) (s : PasswordSync) : Prop where
  once : ∀ command, s.log.countP (SyncEvent.repliesTo command) ≤ 1
  served : s.alive = true → ∀ command, s.log.countP (SyncEvent.repliesTo command) +
    s.reads.countP (waitsFor command) + s.waiting command = if command < s.commands then 1 else 0
  inOrder : Throughout InOrder s.log
  one : s.alive = true → s.reads.countP LoginsCallback.applies ≤ 1
  moving : s.alive = true → s.pendingApplies ≠ [] → s.reads.countP LoginsCallback.applies = 1
  ends : ∀ run : SyncRun platform, run.state 0 = s → run.Fair → (∀ n, (run.state n).alive = true) →
    ∀ n command, command < (run.state n).commands →
      ∃ m, n ≤ m ∧ (run.state m).log.countP (SyncEvent.repliesTo command) = 1

theorem initial_sound (storeThere granted : Bool) (salt : String) (store : List StoredCredential) :
    Sound { storeThere, authorized := granted, salt, store } := by
  refine ⟨⟨fun command => rfl, rfl, .nil, nofun, nofun, ?_, .nil _, fun _ => ⟨rfl, rfl⟩⟩, fun some => absurd rfl some⟩
  rintro command (same | ⟨callback, mem, -⟩)
  · cases same
  · cases mem

/-- Where no batch ends with several waiting while sync is not authorized, every command is replied to
once, and the batches are applied in their order. -/
theorem commands_answered (platform : SyncPlatform) (storeThere granted : Bool) (salt : String)
    (store : List StoredCredential) (trace : List (PasswordSync × SyncOp)) (s : PasswordSync)
    (run : Trace (flowingStep platform) (construct storeThere granted salt store) trace s) :
    Answered platform s := by
  have initial : RepliesInv (construct storeThere granted salt store) ∧
      Numbered (construct storeThere granted salt store) := by
    refine ⟨((initial_sound storeThere granted salt store).still (startWatching_still _)).replies, ?_⟩
    exact (startWatching_posts _).numbered (.empty rfl rfl)
  have preserved (t : PasswordSync) (op : SyncOp) (u : PasswordSync) (inv : RepliesInv t ∧ Numbered t)
      (moved : flowingStep platform t op u) : RepliesInv u ∧ Numbered u := by
    obtain ⟨⟨permitted, flows⟩, rfl⟩ := moved
    exact ⟨next_replies inv.1 permitted flows, next_numbered inv.2 op⟩
  have inv := run.preserves preserved initial
  refine ⟨inv.1.few, fun alive => (inv.1.live alive).1.balance, inv.1.inOrder, fun alive => ?_,
    fun alive => (inv.1.live alive).read_for_batch, ?_⟩
  · have one := (inv.1.live alive).1.one
    change s.reads.countP LoginsCallback.applies + 0 = _ at one
    split at one <;> omega
  · rintro later rfl fair alive n command asked
    have here := later.inv inv n
    have settled (m : ℕ) (replied : Replied command (later.state m)) :
        (later.state m).log.countP (SyncEvent.repliesTo command) = 1 :=
      Nat.le_antisymm ((later.inv inv m).1.few command) replied
    rcases (here.1.live (alive n)).awaits asked with replied | ⟨stage, awaits⟩
    · exact ⟨n, le_rfl, settled n replied⟩
    · obtain ⟨m, le, replied⟩ := (later.turns inv fair alive command).reaches awaits
      exact ⟨m, le, settled m replied⟩

def applyForSync (requestId : Int) : SyncOp := .command 1 false "applyPasswords" [("requestId", .int requestId)]

-- Two batches are refused or applied in turn.
theorem commands_answered_revoked :
    ∃ s : PasswordSync, s.commands = 2 ∧ s.authorized = false ∧ Answered webPlatform s := by
  have follows : Follows (fun s op => s.permitted op ∧ s.Flows op) (next webPlatform)
      (construct true false "" [savedLogin])
      [authorize true, applyForSync 1, applyForSync 2, authorize false, .perform 1 false, .deliver 1] :=
    ⟨⟨rfl, trivial⟩, ⟨rfl, trivial⟩, ⟨rfl, trivial⟩, ⟨rfl, trivial⟩, ⟨by decide, trivial⟩,
      ⟨by decide, fun _ _ _ _ => .inr (by decide)⟩, trivial⟩
  obtain ⟨trace, run, -⟩ := follows.trace
  exact ⟨_, by decide, by decide, commands_answered webPlatform true false "" _ trace _ run⟩

-- The grant is taken back while two batches wait: the first is refused, and the second is left.
theorem stranded_batch :
    ¬ ∀ (platform : SyncPlatform) (storeThere granted : Bool) (salt : String)
      (store : List StoredCredential) (trace : List (PasswordSync × SyncOp)) (s : PasswordSync),
      Trace (step platform) (construct storeThere granted salt store) trace s → Answered platform s := by
  intro every
  have follows : Follows permitted (next webPlatform) (construct true false "" [savedLogin])
      [authorize true, applyForSync 1, applyForSync 2, applyForSync 3, authorize false, .perform 1 false,
        .deliver 1] :=
    ⟨rfl, rfl, rfl, rfl, rfl, by decide, by decide, trivial⟩
  obtain ⟨trace, run, -⟩ := follows.trace
  have answered := every webPlatform true false "" [savedLogin] trace _ run
  have reading := answered.moving (by decide) (List.ne_nil_of_length_pos (by decide))
  exact absurd reading (by decide)

end PasswordSync

end ChromiumHmos.Passwords
