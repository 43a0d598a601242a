import ChromiumHmos.Passwords.PasswordRevocation
import ChromiumHmos.Passwords.PasswordReplies

set_option autoImplicit false

/-!
# Progress of the password sync

What the store is asked stays with it until it is performed, and its answer until it is delivered.
A batch that waits moves up each time one ends.
-/

namespace ChromiumHmos.Passwords

open Base Std Transition History Progress
open UrlProtection (GURL UrlLibrary)

-- The reads that follow this one.
def LoginsCallback.rest : LoginsCallback → Nat
  | .applyRead _ _ => 1
  | _ => 0

namespace PasswordSync

inductive Posts : PasswordSync → PasswordSync → Prop
  | quiet {s t : PasswordSync} (tasks : t.tasks = s.tasks) (inbox : t.inbox = s.inbox) (ids : t.ids = s.ids)
      (log : s.log <+: t.log) : Posts s t
  | post (s : PasswordSync) (task : StoreTask) : Posts s (s.post task)
  | trans {s t u : PasswordSync} (first : Posts s t) (second : Posts t u) : Posts s u

structure Numbered (s : PasswordSync) : Prop where
  tasks : (s.tasks.map Prod.fst).Nodup
  inbox : (s.inbox.map Prod.fst).Nodup
  apart : ∀ id ∈ s.tasks.map Prod.fst, id ∉ s.inbox.map Prod.fst
  asked : ∀ entry ∈ s.tasks, entry.1 < s.ids
  answered : ∀ entry ∈ s.inbox, entry.1 < s.ids

section Posts

variable {s t : PasswordSync} {platform : SyncPlatform}

theorem Posts.refl (s : PasswordSync) : Posts s s := .quiet rfl rfl rfl List.prefix_rfl

theorem note_posts (s : PasswordSync) (event : SyncEvent) : Posts s (s.note event) :=
  .quiet rfl rfl rfl (List.prefix_append _ _)

theorem Posts.log (posts : Posts s t) : s.log <+: t.log := by
  induction posts with
  | quiet _ _ _ log => exact log
  | post s task => exact List.prefix_rfl
  | trans _ _ first second => exact first.trans second

theorem Posts.tasks (posts : Posts s t) : s.tasks <+: t.tasks := by
  induction posts with
  | quiet tasks _ _ _ => rw [tasks]
  | post s task => exact List.prefix_append _ _
  | trans _ _ first second => exact first.trans second

theorem Posts.inbox (posts : Posts s t) : t.inbox = s.inbox := by
  induction posts with
  | quiet _ inbox _ _ => exact inbox
  | post s task => rfl
  | trans _ _ first second => exact second.trans first

theorem Posts.numbered (posts : Posts s t) (numbered : Numbered s) : Numbered t := by
  induction posts with
  | quiet tasks inbox ids _ =>
    obtain ⟨distinct, distinct', apart, asked, answered⟩ := numbered
    exact ⟨tasks ▸ distinct, inbox ▸ distinct', tasks ▸ inbox ▸ apart, tasks ▸ ids ▸ asked,
      inbox ▸ ids ▸ answered⟩
  | post s task =>
    refine ⟨Mailbox.snoc_nodup numbered.tasks numbered.asked task, numbered.inbox, fun id mem held => ?_,
      fun entry mem => ?_, fun entry mem => Nat.lt_succ_of_lt (numbered.answered entry mem)⟩
    · change id ∈ (s.tasks ++ [_]).map Prod.fst at mem
      rw [List.map_append, List.mem_append] at mem
      rcases mem with mem | single
      · exact numbered.apart id mem held
      · obtain rfl := List.mem_singleton.mp single
        obtain ⟨entry, there, is⟩ := List.mem_map.mp held
        have old := numbered.answered entry there
        omega
    · rcases List.mem_append.mp mem with mem | single
      · exact Nat.lt_succ_of_lt (numbered.asked entry mem)
      · rw [List.mem_singleton.mp single]
        exact Nat.lt_succ_self _
  | trans _ _ first second => exact second (first numbered)

theorem scheduleChanged_posts (s : PasswordSync) : Posts s s.scheduleChanged := by
  unfold scheduleChanged
  split <;> exact .quiet rfl rfl rfl List.prefix_rfl

theorem onLoginsChanged_posts (s : PasswordSync) (changes : List StoreChange) :
    Posts s (s.onLoginsChanged platform changes) := by
  have based (fingerprints : ExtTreeMap String String) : Posts s { s with fingerprints := some fingerprints } :=
    .quiet rfl rfl rfl List.prefix_rfl
  unfold onLoginsChanged
  split
  · exact scheduleChanged_posts s
  · dsimp only
    split
    · exact (based _).trans (scheduleChanged_posts _)
    · exact based _

theorem onLoginsRetained_posts (s : PasswordSync) (retained : List StoredCredential) :
    Posts s (s.onLoginsRetained platform retained) := by
  have based : Posts s (s.rebaseline platform retained) := .quiet rfl rfl rfl List.prefix_rfl
  unfold onLoginsRetained
  split
  · exact based.trans (scheduleChanged_posts _)
  · exact based

theorem onBaseline_posts (s : PasswordSync) (logins : Option (List StoredCredential)) :
    Posts s (s.onBaseline platform logins) := by
  unfold onBaseline
  split
  · split <;> exact .quiet rfl rfl rfl List.prefix_rfl
  · exact Posts.refl s

theorem writes_posts (command : Nat) (writes : List StoreWrite) (s : PasswordSync) :
    Posts s (writes.foldl (fun s w => s.write command w) s) := by
  induction writes generalizing s with
  | nil => exact Posts.refl s
  | cons w rest ih => exact ((Posts.post s (.write w)).trans (note_posts _ _)).trans (ih _)

theorem applyThen_posts {next : PasswordSync -> PasswordSync} (after : ∀ t, Posts t (next t)) (s : PasswordSync)
    (target : ReplyTarget) (ops : List Value) : Posts s (applyThen next s target ops) := by
  unfold applyThen
  split
  · exact note_posts _ _
  · split
    · exact .quiet rfl rfl rfl List.prefix_rfl
    · have began : Posts s ({ s with applying := true }.note (.started target.command)) :=
        .quiet rfl rfl rfl (List.prefix_append _ _)
      dsimp only
      split
      · exact began.trans (.post _ _)
      · refine (began.trans ?_).trans (after _)
        exact .quiet rfl rfl rfl (List.prefix_append _ _)

theorem runNextApply_posts (waiting : List (ReplyTarget × List Value)) (s : PasswordSync) :
    Posts s (runNextApply waiting s) := by
  induction waiting generalizing s with
  | nil => exact Posts.refl s
  | cons head rest ih =>
    have popped : Posts s { s with pendingApplies := rest } := .quiet rfl rfl rfl List.prefix_rfl
    exact popped.trans (applyThen_posts ih _ head.1 head.2)

theorem ended_posts (s : PasswordSync) (target : ReplyTarget) (ok : Bool) (error : String)
    (failedKeys : List String) :
    Posts s ({ s with applying := false, held := false }.sendOpResult target ok error failedKeys) :=
  .quiet rfl rfl rfl (List.prefix_append _ _)

theorem onApplyRead_posts (s : PasswordSync) (target : ReplyTarget) (ops : List Value)
    (logins : Option (List StoredCredential)) : Posts s (s.onApplyRead platform target ops logins) := by
  unfold onApplyRead
  split
  · exact (writes_posts _ _ _).trans (.post _ _)
  · exact (ended_posts _ _ _ _ _).trans (runNextApply_posts _ _)

theorem onApplyWritten_posts (s : PasswordSync) (target : ReplyTarget) (failedKeys : List String)
    (written : Nat) (logins : Option (List StoredCredential)) :
    Posts s (s.onApplyWritten platform target failedKeys written logins) := by
  have based : Posts s (s.onBaseline platform logins) := onBaseline_posts s logins
  have told := based.trans (ended_posts _ target failedKeys.isEmpty (if failedKeys.isEmpty then "" else "someRefused") failedKeys)
  unfold onApplyWritten
  rw [onBaseline_idle]
  dsimp only
  refine Posts.trans ?_ (runNextApply_posts _ _)
  split
  · exact told.trans (scheduleChanged_posts _)
  · exact told

theorem runCallback_posts (s : PasswordSync) (logins : Option (List StoredCredential))
    (callback : LoginsCallback) : Posts s (s.runCallback platform logins callback) := by
  cases callback with
  | baseline => exact onBaseline_posts s logins
  | snapshot target => cases logins <;> exact note_posts _ _
  | applyRead target ops => exact onApplyRead_posts s target ops logins
  | applyWritten target failedKeys written => exact onApplyWritten_posts s target failedKeys written logins

theorem Numbered.empty (tasks : s.tasks = []) (inbox : s.inbox = []) : Numbered s := by
  constructor <;> simp [tasks, inbox]

theorem startWatching_posts (s : PasswordSync) : Posts s s.startWatching := by
  unfold startWatching
  split
  · exact Posts.refl s
  · have observed : Posts s { s with observing := true } := .quiet rfl rfl rfl List.prefix_rfl
    exact observed.trans (.post _ _)

theorem setAuthorized_posts (s : PasswordSync) (granted : Bool) : Posts s (s.setAuthorized granted) := by
  have said : Posts s ({ s with authorized := granted }.note (.authorized granted)) :=
    .quiet rfl rfl rfl (List.prefix_append _ _)
  unfold setAuthorized
  dsimp only
  split
  · exact said.trans (startWatching_posts _)
  · exact said.trans (.quiet rfl rfl rfl List.prefix_rfl)

theorem snapshot_posts (s : PasswordSync) (target : ReplyTarget) : Posts s (s.snapshot platform target) := by
  unfold snapshot
  split
  · exact note_posts _ _
  · split
    · exact .post _ _
    · exact note_posts _ _

theorem handleCommand_posts (s : PasswordSync) (widget : Nat) (offTheRecord : Bool) (name : String)
    (command : DictValue) : Posts s (s.handleCommand platform widget offTheRecord name command) := by
  have watched : Posts s (s.ensureObserver offTheRecord) := by
    unfold ensureObserver
    split
    · exact Posts.refl s
    · exact startWatching_posts s
  have asked (target : ReplyTarget) (applies : Bool) :
      Posts s ((s.ensureObserver offTheRecord).ask target applies) :=
    watched.trans (.quiet rfl rfl rfl (List.prefix_append _ _))
  unfold handleCommand
  dsimp only
  split
  · split
    · exact watched
    · exact watched.trans (setAuthorized_posts _ _)
  · split
    · exact (asked _ _).trans (snapshot_posts _ _)
    · split
      · exact (asked _ _).trans (applyThen_posts (fun t => runNextApply_posts _ t) _ _ _)
      · exact watched

theorem receive_posts (s : PasswordSync) (message : StoreMessage) : Posts s (s.receive platform message) := by
  cases message with
  | changed changes =>
    dsimp only [receive]
    split
    · exact onLoginsChanged_posts s changes
    · exact Posts.refl s
  | retained retained =>
    dsimp only [receive]
    split
    · exact onLoginsRetained_posts s retained
    · exact Posts.refl s
  | results callback logins =>
    dsimp only [receive]
    split
    · exact runCallback_posts s logins callback
    · exact Posts.refl s

end Posts

section Steps

variable {s : PasswordSync} {platform : SyncPlatform} {id : ℕ}

theorem Numbered.take_task (numbered : Numbered s) (id : ℕ) :
    Numbered { s with tasks := Mailbox.take s.tasks id } := by
  have sub := Mailbox.take_sublist s.tasks id
  exact ⟨Mailbox.take_nodup numbered.tasks id, numbered.inbox,
    fun other mem => numbered.apart other ((sub.map _).subset mem), fun entry mem => numbered.asked entry (sub.subset mem),
    numbered.answered⟩

theorem Numbered.take_message (numbered : Numbered s) (id : ℕ) :
    Numbered { s with inbox := Mailbox.take s.inbox id } := by
  have sub := Mailbox.take_sublist s.inbox id
  exact ⟨numbered.tasks, Mailbox.take_nodup numbered.inbox id,
    fun other mem held => numbered.apart other mem ((sub.map _).subset held), numbered.asked,
    fun entry mem => numbered.answered entry (sub.subset mem)⟩

theorem Numbered.answer (numbered : Numbered s) (asked : id ∉ s.tasks.map Prod.fst)
    (answered : id ∉ s.inbox.map Prod.fst) (old : id < s.ids) (message : StoreMessage)
    (store : List StoredCredential) : Numbered { s with store, inbox := s.inbox ++ [(id, message)] } := by
  refine ⟨numbered.tasks, ?_, fun other mem held => ?_, numbered.asked, fun entry mem => ?_⟩
  · change ((s.inbox ++ [_]).map _).Nodup
    rw [List.map_append, List.nodup_append]
    refine ⟨numbered.inbox, List.nodup_singleton _, fun other mem last single => ?_⟩
    rw [List.mem_singleton.mp single]
    rintro rfl
    exact answered mem
  · change other ∈ (s.inbox ++ [_]).map _ at held
    rw [List.map_append, List.mem_append] at held
    rcases held with held | single
    · exact numbered.apart other mem held
    · rw [List.mem_singleton.mp single] at mem
      exact asked mem
  · rcases List.mem_append.mp mem with mem | single
    · exact numbered.answered entry mem
    · rw [List.mem_singleton.mp single]
      exact old

theorem Numbered.external (numbered : Numbered s) (message : StoreMessage) (store : List StoredCredential) :
    Numbered ({ s with store, inbox := s.inbox ++ [(s.ids, message)], ids := s.ids + 1 }.note
      (.changed s.ids s.store store)) := by
  have wider : Numbered { s with ids := s.ids + 1 } :=
    ⟨numbered.tasks, numbered.inbox, numbered.apart, fun entry mem => Nat.lt_succ_of_lt (numbered.asked entry mem),
      fun entry mem => Nat.lt_succ_of_lt (numbered.answered entry mem)⟩
  have unasked : s.ids ∉ s.tasks.map Prod.fst := by
    intro mem
    obtain ⟨entry, there, is⟩ := List.mem_map.mp mem
    exact absurd (numbered.asked entry there) (is ▸ lt_irrefl _)
  have unanswered : s.ids ∉ s.inbox.map Prod.fst := by
    intro mem
    obtain ⟨entry, there, is⟩ := List.mem_map.mp mem
    exact absurd (numbered.answered entry there) (is ▸ lt_irrefl _)
  exact (note_posts _ _).numbered (wider.answer unasked unanswered (Nat.lt_succ_self _) message store)

theorem next_numbered (numbered : Numbered s) (op : SyncOp) : Numbered (s.next platform op) := by
  cases op with
  | command widget otr name fields => exact (handleCommand_posts s widget otr name fields).numbered numbered
  | external w => exact numbered.external _ _
  | retain logins => exact numbered.external _ _
  | perform id ok =>
    dsimp only [next]
    cases found : s.tasks.lookup id with
    | none => exact numbered
    | some task =>
      have mem := Mailbox.mem_of_lookup found
      have taken := numbered.take_task id
      have gone := Mailbox.take_gone numbered.tasks found
      have unanswered := numbered.apart id (List.mem_map.mpr ⟨_, mem, rfl⟩)
      cases task with
      | read callback => exact taken.answer gone unanswered (numbered.asked _ mem) _ _
      | write w =>
        cases ok with
        | false => exact taken
        | true => exact taken.answer gone unanswered (numbered.asked _ mem) _ _
  | deliver id =>
    dsimp only [next]
    cases found : s.inbox.lookup id with
    | none => exact numbered
    | some message => exact (receive_posts _ message).numbered (numbered.take_message id)
  | changeTimer => exact Posts.numbered (s := s) (.quiet rfl rfl rfl (List.prefix_append _ _)) numbered
  | tick elapsed => exact Posts.numbered (s := s) (.quiet rfl rfl rfl List.prefix_rfl) numbered
  | destroy => exact Posts.numbered (s := s) (.quiet rfl rfl rfl (List.prefix_append _ _)) numbered

theorem task_kept {task : StoreTask} (mem : (id, task) ∈ s.tasks) {op : SyncOp}
    (other : ∀ ok, op ≠ .perform id ok) : (id, task) ∈ (s.next platform op).tasks := by
  cases op with
  | command widget otr name fields => exact (handleCommand_posts s widget otr name fields).tasks.subset mem
  | perform performed ok =>
    have apart : id ≠ performed := fun same => other ok (by rw [same])
    have kept : (id, task) ∈ Mailbox.take s.tasks performed := Mailbox.mem_take mem apart
    dsimp only [next]
    cases s.tasks.lookup performed with
    | none => exact mem
    | some done =>
      cases done with
      | read callback => exact kept
      | write w => cases ok <;> exact kept
  | deliver delivered =>
    dsimp only [next]
    cases s.inbox.lookup delivered with
    | none => exact mem
    | some message => exact (receive_posts _ message).tasks.subset mem
  | _ => exact mem

theorem message_kept {message : StoreMessage} (mem : (id, message) ∈ s.inbox) {op : SyncOp}
    (other : op ≠ .deliver id) : (id, message) ∈ (s.next platform op).inbox := by
  cases op with
  | command widget otr name fields =>
    rw [next, (handleCommand_posts s widget otr name fields).inbox]
    exact mem
  | perform performed ok =>
    dsimp only [next]
    cases s.tasks.lookup performed with
    | none => exact mem
    | some done =>
      cases done with
      | read callback => exact List.mem_append_left _ mem
      | write w =>
        cases ok with
        | false => exact mem
        | true => exact List.mem_append_left _ mem
  | deliver delivered =>
    have apart : id ≠ delivered := fun same => other (by rw [same])
    dsimp only [next]
    cases s.inbox.lookup delivered with
    | none => exact mem
    | some done =>
      rw [(receive_posts _ done).inbox]
      exact Mailbox.mem_take mem apart
  | external w => exact List.mem_append_left _ mem
  | retain logins => exact List.mem_append_left _ mem
  | _ => exact mem

end Steps

end PasswordSync

end ChromiumHmos.Passwords
