import ChromiumHmos.Lib.History
import ChromiumHmos.Passwords.PasswordSync

set_option autoImplicit false

/-!
# Batches of the password sync

A command has been replied to, or a read of the store is made for it, or it waits for the batch
before it. One batch is applied at a time.
-/

namespace ChromiumHmos.Passwords

open Base Std Transition History
open UrlProtection (GURL UrlLibrary)

def LoginsCallback.command : LoginsCallback → Option Nat
  | .baseline => none
  | .snapshot target => some target.command
  | .applyRead target _ => some target.command
  | .applyWritten target _ _ => some target.command

def LoginsCallback.applies : LoginsCallback → Bool
  | .applyRead _ _ | .applyWritten _ _ _ => true
  | _ => false

-- The command's callback, if a command waits for it.
def LoginsCallback.served (callback : LoginsCallback) : Option LoginsCallback :=
  if callback.command.isSome then some callback else none

def StoreTask.served : StoreTask → Option LoginsCallback
  | .read callback => callback.served
  | .write _ => none

def StoreMessage.served : StoreMessage → Option LoginsCallback
  | .results callback _ => callback.served
  | _ => none

def SyncEvent.repliesTo (command : Nat) : SyncEvent → Bool
  | .replied target _ => target.command = command
  | _ => false

-- What is neither a command nor a part of a batch nor a reply.
def SyncEvent.plain : SyncEvent → Bool
  | .asked _ _ | .started _ | .replied _ _ | .wrote _ _ => false
  | _ => true

/-- A batch is begun once every batch begun before it and every earlier command was replied to, and
it writes before it is replied to itself. -/
def InOrder (before : List SyncEvent) : SyncEvent → Prop
  | .started command => (∀ other, .started other ∈ before → 0 < before.countP (SyncEvent.repliesTo other)) ∧
      before.countP (SyncEvent.repliesTo command) = 0 ∧
      ∀ target, .asked target true ∈ before → target.command < command →
        0 < before.countP (SyncEvent.repliesTo target.command)
  | .wrote command _ => .started command ∈ before ∧ before.countP (SyncEvent.repliesTo command) = 0
  | _ => True

namespace PasswordSync

def reads (s : PasswordSync) : List LoginsCallback :=
  (s.tasks.filterMap fun task => task.2.served) ++ s.inbox.filterMap fun message => message.2.served

def waitsFor (command : Nat) (callback : LoginsCallback) : Bool := callback.command = some command

def waiting (s : PasswordSync) (command : Nat) : Nat :=
  s.pendingApplies.countP fun entry => entry.1.command = command

-- What is said of the batches that are applied and of what they do.
def Applied (s : PasswordSync) (owed : Option (Nat × Bool)) (command : Nat) : Prop :=
  owed = some (command, true) ∨ ∃ callback ∈ s.reads, callback.applies = true ∧ callback.command = some command

/-- `owed`: the command that is being served, and whether as a batch. -/
structure LiveInv (owed : Option (Nat × Bool)) (s : PasswordSync) : Prop where
  balance : ∀ command, s.log.countP (SyncEvent.repliesTo command) + s.reads.countP (waitsFor command) +
    s.waiting command + owed.toList.countP (fun served => served.1 = command) =
      if command < s.commands then 1 else 0
  one : s.reads.countP LoginsCallback.applies + owed.toList.countP Prod.snd = if s.applying then 1 else 0
  sorted : (s.pendingApplies.map fun entry => entry.1.command).Pairwise (· < ·)
  asked : ∀ target, .asked target true ∈ s.log → 0 < s.log.countP (SyncEvent.repliesTo target.command) ∨
    owed = some (target.command, false) ∨ target.command ∈ s.pendingApplies.map (fun entry => entry.1.command) ∨
      s.Applied owed target.command
  started : ∀ command, .started command ∈ s.log →
    0 < s.log.countP (SyncEvent.repliesTo command) ∨ s.Applied owed command
  begun : ∀ command, s.Applied owed command → .started command ∈ s.log
  inOrder : Throughout InOrder s.log
  noStore : s.storeThere = false → s.reads = [] ∧ s.pendingApplies = []

def Waits (s : PasswordSync) : Prop := s.pendingApplies ≠ [] → s.applying = true

structure Still (s t : PasswordSync) : Prop where
  alive : t.alive = s.alive
  reads : t.reads.Perm s.reads
  pending : t.pendingApplies = s.pendingApplies
  applying : t.applying = s.applying
  commands : t.commands = s.commands
  storeThere : t.storeThere = s.storeThere
  log : ∃ more, t.log = s.log ++ more ∧ ∀ event ∈ more, event.plain = true

section Still

variable {s t u : PasswordSync} {platform : SyncPlatform}

theorem Still.refl (s : PasswordSync) : Still s s :=
  ⟨rfl, .refl _, rfl, rfl, rfl, rfl, [], by simp, by simp⟩

theorem Still.trans (first : Still s t) (second : Still t u) : Still s u := by
  obtain ⟨more, log, plain⟩ := first.log
  obtain ⟨more', log', plain'⟩ := second.log
  refine ⟨second.alive.trans first.alive, second.reads.trans first.reads,
    second.pending.trans first.pending, second.applying.trans first.applying,
    second.commands.trans first.commands, second.storeThere.trans first.storeThere, more ++ more',
    by rw [log', log, List.append_assoc], fun event mem => ?_⟩
  rcases List.mem_append.mp mem with mem | mem
  · exact plain event mem
  · exact plain' event mem

theorem post_reads (s : PasswordSync) (task : StoreTask) :
    (s.post task).reads.Perm (task.served.toList ++ s.reads) := by
  unfold reads post
  dsimp only
  rw [List.filterMap_append, List.append_assoc]
  cases served : task.served with
  | none => simp [served]
  | some callback => simp [served]

theorem post_still {task : StoreTask} (unserved : task.served = none) : Still s (s.post task) := by
  have reads := post_reads s task
  rw [unserved] at reads
  exact ⟨rfl, reads, rfl, rfl, rfl, rfl, [], by simp [post], by simp⟩

theorem scheduleChanged_still (s : PasswordSync) : Still s s.scheduleChanged := by
  unfold scheduleChanged
  split <;> exact ⟨rfl, .refl _, rfl, rfl, rfl, rfl, [], by simp, by simp⟩

theorem onLoginsChanged_still (s : PasswordSync) (changes : List StoreChange) :
    Still s (s.onLoginsChanged platform changes) := by
  have based (fingerprints : ExtTreeMap String String) :
      Still s { s with fingerprints := some fingerprints } :=
    ⟨rfl, .refl _, rfl, rfl, rfl, rfl, [], by simp, by simp⟩
  unfold onLoginsChanged
  split
  · exact scheduleChanged_still s
  · dsimp only
    split
    · exact (based _).trans (scheduleChanged_still _)
    · exact based _

theorem rebaseline_still (s : PasswordSync) (logins : List StoredCredential) :
    Still s (s.rebaseline platform logins) :=
  ⟨rfl, .refl _, rfl, rfl, rfl, rfl, [], by simp [rebaseline], by simp⟩

theorem onLoginsRetained_still (s : PasswordSync) (retained : List StoredCredential) :
    Still s (s.onLoginsRetained platform retained) := by
  unfold onLoginsRetained
  split
  · exact (rebaseline_still s retained).trans (scheduleChanged_still _)
  · exact rebaseline_still s retained

theorem onBaseline_still (s : PasswordSync) (logins : Option (List StoredCredential)) :
    Still s (s.onBaseline platform logins) := by
  unfold onBaseline
  split
  · split
    · exact rebaseline_still s _
    · exact Still.refl s
  · exact Still.refl s

theorem startWatching_still (s : PasswordSync) : Still s s.startWatching := by
  unfold startWatching
  split
  · exact Still.refl s
  · have observed : Still s { s with observing := true } :=
      ⟨rfl, .refl _, rfl, rfl, rfl, rfl, [], by simp, by simp⟩
    exact observed.trans (post_still rfl)

theorem setAuthorized_still (s : PasswordSync) (granted : Bool) : Still s (s.setAuthorized granted) := by
  have said : Still s ({ s with authorized := granted }.note (.authorized granted)) :=
    ⟨rfl, .refl _, rfl, rfl, rfl, rfl, [.authorized granted], rfl, by simp [SyncEvent.plain]⟩
  unfold setAuthorized
  dsimp only
  split
  · exact said.trans (startWatching_still _)
  · exact said.trans ⟨rfl, .refl _, rfl, rfl, rfl, rfl, [], by simp [stopWatching], by simp⟩

end Still

section Inv

variable {s t : PasswordSync} {owed : Option (Nat × Bool)} {platform : SyncPlatform}

variable {more log : List SyncEvent}

theorem plain_count (plain : ∀ event ∈ more, event.plain = true)
    (log : List SyncEvent) (command : Nat) :
    (log ++ more).countP (SyncEvent.repliesTo command) = log.countP (SyncEvent.repliesTo command) := by
  have none : more.countP (SyncEvent.repliesTo command) = 0 := by
    refine List.countP_eq_zero.mpr fun event mem replies => ?_
    have is := plain event mem
    cases event with
    | replied target event => cases is
    | _ => cases replies
  rw [List.countP_append, none, Nat.add_zero]

theorem plain_inOrder (plain : ∀ event ∈ more, event.plain = true) (inOrder : Throughout InOrder log) : Throughout InOrder (log ++ more) := by
  refine inOrder.append more fun before event mem => ?_
  have is := plain event mem
  cases event with
  | started command => cases is
  | wrote command w => cases is
  | _ => exact trivial

theorem mem_plain (plain : ∀ event ∈ more, event.plain = true)
    {event : SyncEvent} (special : event.plain = false) (mem : event ∈ log ++ more) : event ∈ log := by
  rcases List.mem_append.mp mem with mem | mem
  · exact mem
  · rw [plain event mem] at special
    cases special

theorem LiveInv.still (inv : LiveInv owed s) (still : Still s t) : LiveInv owed t := by
  obtain ⟨-, reads, pending, applying, commands, storeThere, more, log, plain⟩ := still
  have count (command : Nat) : t.log.countP (SyncEvent.repliesTo command) =
      s.log.countP (SyncEvent.repliesTo command) := by
    rw [log]
    exact plain_count plain _ _
  have applied (command : Nat) : t.Applied owed command ↔ s.Applied owed command := by
    simp only [Applied, reads.mem_iff]
  refine ⟨fun command => ?_, ?_, ?_, fun target mem => ?_, fun command mem => ?_, fun command is => ?_,
    ?_, fun none => ?_⟩
  · rw [count, reads.countP_eq, waiting, pending, commands]
    exact inv.balance command
  · rw [reads.countP_eq, applying]
    exact inv.one
  · rw [pending]
    exact inv.sorted
  · rw [log] at mem
    rw [count, pending, applied]
    exact inv.asked target (mem_plain plain rfl mem)
  · rw [log] at mem
    rw [count, applied]
    exact inv.started command (mem_plain plain rfl mem)
  · rw [log]
    exact List.mem_append_left _ (inv.begun command ((applied command).mp is))
  · rw [log]
    exact plain_inOrder plain inv.inOrder
  · obtain ⟨empty, idle⟩ := inv.noStore (storeThere ▸ none)
    exact ⟨List.perm_nil.mp (empty ▸ reads), pending.trans idle⟩

variable {command : Nat}

variable {batch : Bool}

theorem LiveInv.served (inv : LiveInv (some (command, batch)) s) :
    command < s.commands /\ s.log.countP (SyncEvent.repliesTo command) = 0 /\
      s.reads.countP (waitsFor command) = 0 /\ s.waiting command = 0 := by
  have balance := inv.balance command
  simp only [Option.toList_some, List.countP_singleton, decide_true, if_true] at balance
  split at balance
  next old => exact ⟨old, by omega, by omega, by omega⟩
  · omega

theorem LiveInv.known (inv : LiveInv owed s)
    (pending : command ∈ s.pendingApplies.map (fun entry => entry.1.command)) :
    command < s.commands := by
  have balance := inv.balance command
  have some : 0 < s.waiting command := by
    obtain ⟨entry, mem, is⟩ := List.mem_map.mp pending
    exact List.countP_pos_iff.mpr ⟨entry, mem, by simpa using is⟩
  by_contra new
  rw [if_neg new] at balance
  omega

theorem LiveInv.alone (inv : LiveInv (some (command, true)) s) :
    s.applying = true /\ s.reads.countP LoginsCallback.applies = 0 := by
  have one := inv.one
  simp only [Option.toList_some, List.countP_singleton, if_true] at one
  cases is : s.applying with
  | false => simp [is] at one
  | true => exact ⟨rfl, by simpa [is] using one⟩

theorem LiveInv.idle (inv : LiveInv owed s) (idle : s.applying = false) (command : Nat) :
    ¬ s.Applied owed command := by
  have one := inv.one
  rw [idle, if_neg Bool.false_ne_true] at one
  rintro (rfl | ⟨callback, mem, applies, -⟩)
  · simp at one
  · have some : 0 < s.reads.countP LoginsCallback.applies := List.countP_pos_iff.mpr ⟨callback, mem, applies⟩
    omega

theorem count_replied (log : List SyncEvent) (target : ReplyTarget) (event : DictValue) (command : Nat) :
    (log ++ [SyncEvent.replied target event]).countP (SyncEvent.repliesTo command) =
      log.countP (SyncEvent.repliesTo command) + if target.command = command then 1 else 0 := by
  rw [List.countP_append, List.countP_singleton]
  simp [SyncEvent.repliesTo]

theorem count_other (log : List SyncEvent) (event : SyncEvent) (other : ∀ command, event.repliesTo command = false)
    (command : Nat) : (log ++ [event]).countP (SyncEvent.repliesTo command) =
      log.countP (SyncEvent.repliesTo command) := by
  rw [List.countP_append, List.countP_singleton, other]
  rfl

variable {target : ReplyTarget}

theorem LiveInv.reply
    (inv : LiveInv (some (target.command, batch)) s) (event : DictValue) (held : Bool) {applying : Bool}
    (after : applying = (s.applying && !batch)) :
    LiveInv none ({ s with applying, held }.note (.replied target event)) := by
  have count := count_replied s.log target event
  have more (command : Nat) : 0 < s.log.countP (SyncEvent.repliesTo command) ->
      0 < (s.log ++ [SyncEvent.replied target event]).countP (SyncEvent.repliesTo command) := by
    rw [count]
    omega
  have done : 0 < (s.log ++ [SyncEvent.replied target event]).countP (SyncEvent.repliesTo target.command) := by
    rw [count, if_pos rfl]
    omega
  have applied (command : Nat) (is : s.Applied (some (target.command, batch)) command) :
      0 < (s.log ++ [SyncEvent.replied target event]).countP (SyncEvent.repliesTo command) \/
        ({ s with applying, held }.note (.replied target event)).Applied none command := by
    rcases is with same | reading
    · obtain ⟨rfl, -⟩ := Prod.mk.inj (Option.some.inj same)
      exact .inl done
    · exact .inr (.inr reading)
  refine ⟨fun command => ?_, ?_, inv.sorted, fun other mem => ?_, fun command mem => ?_, fun command is => ?_,
    inv.inOrder.snoc trivial, inv.noStore⟩
  · have before := inv.balance command
    change (s.log ++ [_]).countP _ + s.reads.countP _ + s.waiting command + 0 =
      if command < s.commands then 1 else 0
    rw [count]
    simp only [Option.toList_some, List.countP_singleton, decide_eq_true_eq] at before
    omega
  · have before := inv.one
    change s.reads.countP LoginsCallback.applies + 0 = if applying then 1 else 0
    simp only [Option.toList_some, List.countP_singleton] at before
    cases batch <;> cases is : s.applying <;> simp_all
  · have mem : .asked other true ∈ s.log := by simpa [note] using mem
    rcases inv.asked other mem with replied | same | pending | is
    · exact .inl (more _ replied)
    · obtain ⟨same, -⟩ := Prod.mk.inj (Option.some.inj same)
      exact .inl (same ▸ done)
    · exact .inr (.inr (.inl pending))
    · exact (applied _ is).imp_right fun reading => .inr (.inr reading)
  · have mem : .started command ∈ s.log := by simpa [note] using mem
    rcases inv.started command mem with replied | is
    · exact .inl (more _ replied)
    · exact applied command is
  · rcases is with same | reading
    · cases same
    · exact List.mem_append_left _ (inv.begun command (.inr reading))

variable {callback : LoginsCallback}

theorem LiveInv.read (inv : LiveInv (some (command, batch)) s) (serves : callback.command = some command)
    (applies : callback.applies = batch) (there : s.storeThere = true)
    (asked : batch = false -> ∀ target, .asked target true ∈ s.log -> target.command ≠ command) :
    LiveInv none (s.post (.read callback)) := by
  have reads := post_reads s (.read callback)
  have is : (StoreTask.read callback).served = some callback := by
    simp [StoreTask.served, LoginsCallback.served, serves]
  rw [is, Option.toList_some, List.singleton_append] at reads
  have applied (other : Nat) : s.Applied (some (command, batch)) other ↔
      (s.post (.read callback)).Applied none other := by
    simp only [Applied, reads.mem_iff, List.exists_mem_cons_iff, applies, serves, Option.some.injEq,
      Prod.mk.injEq, reduceCtorEq, false_or]
    rw [and_comm]
  refine ⟨fun other => ?_, ?_, inv.sorted, fun target mem => ?_, fun other mem => ?_, fun other is => ?_,
    inv.inOrder, fun none => ?_⟩
  · have before := inv.balance other
    rw [reads.countP_eq, List.countP_cons]
    have own : waitsFor other callback = decide (command = other) := by
      simp [waitsFor, serves]
    rw [own]
    simp only [Option.toList_some, List.countP_singleton] at before
    change s.log.countP _ + _ + s.waiting other + 0 = if other < s.commands then 1 else 0
    omega
  · have before := inv.one
    rw [reads.countP_eq, List.countP_cons, applies]
    simp only [Option.toList_some, List.countP_singleton] at before
    exact before
  · rcases inv.asked target mem with replied | same | pending | is
    · exact .inl replied
    · obtain ⟨same, plain⟩ := Prod.mk.inj (Option.some.inj same)
      exact absurd same.symm (asked plain target mem)
    · exact .inr (.inr (.inl pending))
    · exact .inr (.inr (.inr ((applied _).mp is)))
  · exact (inv.started other mem).imp_right (applied other).mp
  · exact inv.begun other ((applied other).mpr is)
  · exact absurd (none.symm.trans there) Bool.false_ne_true

theorem LiveInv.enqueue (inv : LiveInv (some (target.command, false)) s)
    (busy : s.applying = true) (ops : List Value)
    (last : ∀ command ∈ s.pendingApplies.map (fun entry => entry.1.command), command < target.command) :
    LiveInv none { s with pendingApplies := s.pendingApplies ++ [(target, ops)] } := by
  have one := inv.one
  simp only [Option.toList_some, List.countP_singleton, Bool.false_eq_true, if_false] at one
  have applied (command : Nat) : s.Applied (some (target.command, false)) command ↔
      ({ s with pendingApplies := s.pendingApplies ++ [(target, ops)] } : PasswordSync).Applied none command := by
    simp [Applied, reads]
  refine ⟨fun command => ?_, one, ?_, fun other mem => ?_, fun command mem => ?_, fun command is => ?_,
    inv.inOrder, fun none => ?_⟩
  · have before := inv.balance command
    simp only [Option.toList_some, List.countP_singleton] at before
    change s.log.countP _ + s.reads.countP _ + (s.pendingApplies ++ [_]).countP _ + 0 =
      if command < s.commands then 1 else 0
    rw [List.countP_append, List.countP_singleton]
    exact (add_assoc _ (s.waiting command) _).symm.trans before
  · change List.Pairwise _ ((s.pendingApplies ++ [_]).map _)
    rw [List.map_append, List.pairwise_append]
    refine ⟨inv.sorted, List.pairwise_singleton _ _, fun command mem other single => ?_⟩
    rw [List.mem_singleton.mp single]
    exact last command mem
  · rw [List.map_append, List.mem_append]
    rcases inv.asked other mem with replied | same | pending | is
    · exact .inl replied
    · obtain ⟨same, -⟩ := Prod.mk.inj (Option.some.inj same)
      exact .inr (.inr (.inl (.inr (List.mem_singleton.mpr same.symm))))
    · exact .inr (.inr (.inl (.inl pending)))
    · exact .inr (.inr (.inr ((applied _).mp is)))
  · exact (inv.started command mem).imp_right (applied command).mp
  · exact inv.begun command ((applied command).mpr is)
  · rw [(inv.noStore none).1, busy] at one
    cases one

theorem LiveInv.begin {command : Nat} (inv : LiveInv (some (command, false)) s) (idle : s.applying = false)
    (first : ∀ other ∈ s.pendingApplies.map (fun entry => entry.1.command), command < other) :
    LiveInv (some (command, true)) ({ s with applying := true }.note (.started command)) := by
  have none := inv.idle idle
  obtain ⟨-, unreplied, -, -⟩ := inv.served
  have count := count_other s.log (.started command) fun _ => rfl
  have one := inv.one
  rw [idle] at one
  refine ⟨fun other => ?_, ?_, inv.sorted, fun target mem => ?_, fun other mem => ?_, fun other is => ?_,
    inv.inOrder.snoc ⟨fun other mem => ?_, unreplied, fun target mem earlier => ?_⟩, inv.noStore⟩
  · change (s.log ++ [_]).countP _ + _ + _ + _ = _
    rw [count]
    exact inv.balance other
  · simp only [Option.toList_some, List.countP_singleton] at one ⊢
    exact congrArg (· + 1) one
  · change 0 < (s.log ++ [_]).countP _ \/ _
    rw [count]
    have mem : .asked target true ∈ s.log := by simpa [note] using mem
    rcases inv.asked target mem with replied | same | pending | is
    · exact .inl replied
    · obtain ⟨rfl, -⟩ := Prod.mk.inj (Option.some.inj same)
      exact .inr (.inr (.inr (.inl rfl)))
    · exact .inr (.inr (.inl pending))
    · exact absurd is (none _)
  · change 0 < (s.log ++ [_]).countP _ \/ _
    rw [count]
    rcases List.mem_append.mp mem with mem | new
    · exact .inl ((inv.started other mem).resolve_right (none other))
    · cases List.mem_singleton.mp new
      exact .inr (.inl rfl)
  · rcases is with same | reading
    · obtain ⟨rfl, -⟩ := Prod.mk.inj (Option.some.inj same)
      exact List.mem_append_right _ (List.mem_singleton_self _)
    · exact absurd (.inr reading) (none other)
  · exact (inv.started other mem).resolve_right (none other)
  · rcases inv.asked target mem with replied | same | pending | is
    · exact replied
    · obtain ⟨same, -⟩ := Prod.mk.inj (Option.some.inj same)
      omega
    · have later := first _ pending
      omega
    · exact absurd is (none _)

theorem LiveInv.pop {ops : List Value} {rest : List (ReplyTarget × List Value)}
    (inv : LiveInv none s) (pending : s.pendingApplies = (target, ops) :: rest) :
    LiveInv (some (target.command, false)) { s with pendingApplies := rest } /\
      ∀ other ∈ rest.map (fun entry => entry.1.command), target.command < other := by
  have sorted := inv.sorted
  rw [pending, List.map_cons, List.pairwise_cons] at sorted
  have applied (command : Nat) : s.Applied none command ↔
      ({ s with pendingApplies := rest } : PasswordSync).Applied (some (target.command, false)) command := by
    simp [Applied, reads]
  refine ⟨⟨fun command => ?_, ?_, sorted.2, fun other mem => ?_, fun command mem => ?_, fun command is => ?_,
    inv.inOrder, fun none => ?_⟩, sorted.1⟩
  · have before := inv.balance command
    rw [waiting, pending, List.countP_cons] at before
    simp only [Option.toList_none, List.countP_nil] at before
    simp only [Option.toList_some, List.countP_singleton]
    change s.log.countP _ + s.reads.countP _ + rest.countP _ + _ = if command < s.commands then 1 else 0
    omega
  · exact inv.one
  · rcases inv.asked other mem with replied | same | waits | is
    · exact .inl replied
    · cases same
    · rw [pending, List.map_cons, List.mem_cons] at waits
      rcases waits with same | waits
      · exact .inr (.inl (by rw [same]))
      · exact .inr (.inr (.inl waits))
    · exact .inr (.inr (.inr ((applied _).mp is)))
  · exact (inv.started command mem).imp_right (applied command).mp
  · exact inv.begun command ((applied command).mpr is)
  · have empty := (inv.noStore none).2
    rw [pending] at empty
    cases empty

theorem LiveInv.take {id : Nat} {message : StoreMessage}
    (inv : LiveInv none s) (found : s.inbox.lookup id = some message)
    (served : message.served = some callback) (serves : callback.command = some command) :
    LiveInv (some (command, callback.applies)) { s with inbox := Mailbox.take s.inbox id } := by
  have reads : s.reads.Perm (callback :: ({ s with inbox := Mailbox.take s.inbox id } : PasswordSync).reads) := by
    have taken := Mailbox.filterMap_take StoreMessage.served found
    rw [served, Option.toList_some, List.singleton_append] at taken
    exact (taken.append_left _).trans List.perm_middle
  have applied (other : Nat) : s.Applied none other ↔
      ({ s with inbox := Mailbox.take s.inbox id } : PasswordSync).Applied
        (some (command, callback.applies)) other := by
    simp only [Applied, reads.mem_iff, List.exists_mem_cons_iff, serves, Option.some.injEq,
      Prod.mk.injEq, reduceCtorEq, false_or]
    rw [and_comm (b := command = other)]
  refine ⟨fun other => ?_, ?_, inv.sorted, fun target mem => ?_, fun other mem => ?_, fun other is => ?_,
    inv.inOrder, fun none => ?_⟩
  · have before := inv.balance other
    rw [reads.countP_eq, List.countP_cons] at before
    have own : waitsFor other callback = decide (command = other) := by
      simp [waitsFor, serves]
    rw [own] at before
    simp only [Option.toList_none, List.countP_nil] at before
    simp only [Option.toList_some, List.countP_singleton]
    change s.log.countP _ + _ + s.waiting other + _ = if other < s.commands then 1 else 0
    omega
  · have one := inv.one
    rw [reads.countP_eq, List.countP_cons] at one
    simp only [Option.toList_some, List.countP_singleton]
    exact one
  · rcases inv.asked target mem with replied | same | pending | is
    · exact .inl replied
    · cases same
    · exact .inr (.inr (.inl pending))
    · exact .inr (.inr (.inr ((applied _).mp is)))
  · exact (inv.started other mem).imp_right (applied other).mp
  · exact inv.begun other ((applied other).mpr is)
  · obtain ⟨empty, -⟩ := inv.noStore none
    rw [empty] at reads
    cases List.nil_perm.mp reads

theorem LiveInv.ask (inv : LiveInv none s) (new : target.command = s.commands)
    (applies : Bool) : LiveInv (some (s.commands, false)) (s.ask target applies) := by
  have count := count_other s.log (.asked target applies) fun _ => rfl
  have applied (command : Nat) : s.Applied none command ↔
      (s.ask target applies).Applied (some (s.commands, false)) command := by
    simp [Applied, PasswordSync.ask, note, reads]
  refine ⟨fun command => ?_, ?_, inv.sorted, fun other mem => ?_, fun command mem => ?_, fun command is => ?_,
    inv.inOrder.snoc trivial, inv.noStore⟩
  · have before := inv.balance command
    change (s.log ++ [_]).countP _ + s.reads.countP _ + s.waiting command + _ =
      if command < s.commands + 1 then 1 else 0
    rw [count]
    simp only [Option.toList_none, List.countP_nil] at before
    simp only [Option.toList_some, List.countP_singleton, decide_eq_true_eq]
    split at before <;> split <;> split <;> omega
  · exact inv.one
  · change 0 < (s.log ++ [_]).countP _ \/ _
    rw [count]
    rcases List.mem_append.mp mem with mem | same
    · rcases inv.asked other mem with replied | same | pending | is
      · exact .inl replied
      · cases same
      · exact .inr (.inr (.inl pending))
      · exact .inr (.inr (.inr ((applied _).mp is)))
    · obtain ⟨rfl, -⟩ := SyncEvent.asked.inj (List.mem_singleton.mp same)
      exact .inr (.inl (by rw [new]))
  · change 0 < (s.log ++ [_]).countP _ \/ _
    rw [count, <- applied]
    exact inv.started command (by simpa [PasswordSync.ask, note] using mem)
  · exact List.mem_append_left _ (inv.begun command ((applied command).mpr is))

theorem LiveInv.old (inv : LiveInv none s) (asked : .asked target true ∈ s.log) :
    target.command < s.commands := by
  have balance := inv.balance target.command
  by_contra new
  rw [if_neg new] at balance
  rcases inv.asked target asked with replied | same | pending | same | ⟨callback, mem, -, is⟩
  · omega
  · cases same
  · exact new (inv.known pending)
  · cases same
  · have some : 0 < s.reads.countP (waitsFor target.command) :=
      List.countP_pos_iff.mpr ⟨callback, mem, by simp [waitsFor, is]⟩
    omega

theorem LiveInv.writes (writes : List StoreWrite) (inv : LiveInv (some (command, true)) s) :
    LiveInv (some (command, true)) (writes.foldl (fun s w => s.write command w) s) /\
      (writes.foldl (fun s w => s.write command w) s).storeThere = s.storeThere := by
  induction writes generalizing s with
  | nil => exact ⟨inv, rfl⟩
  | cons w rest ih =>
    have posted : LiveInv (some (command, true)) (s.post (.write w)) := inv.still (post_still rfl)
    have count := count_other s.log (.wrote command w) fun _ => rfl
    have one : LiveInv (some (command, true)) (s.write command w) := by
      refine ⟨fun other => ?_, posted.one, posted.sorted, fun target mem => ?_, fun other mem => ?_,
        fun other is => List.mem_append_left _ (posted.begun other is),
        posted.inOrder.snoc ⟨posted.begun command (.inl rfl), posted.served.2.1⟩, posted.noStore⟩
      · change (s.log ++ [_]).countP _ + _ + _ + _ = _
        rw [count]
        exact posted.balance other
      · change 0 < (s.log ++ [_]).countP _ \/ _
        rw [count]
        exact posted.asked target (by simpa [write, note, post] using mem)
      · change 0 < (s.log ++ [_]).countP _ \/ _
        rw [count]
        exact posted.started other (by simpa [write, note, post] using mem)
    exact ih one

end Inv

end PasswordSync

end ChromiumHmos.Passwords
