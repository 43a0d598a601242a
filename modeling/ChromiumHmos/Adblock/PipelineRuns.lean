import ChromiumHmos.Adblock.PipelineOperations

set_option autoImplicit false

/-!
# Runs of the pipeline

No acknowledged change is lost, whatever compiles or downloads meanwhile, and every command hears
its reply.
-/

namespace ChromiumHmos.Adblock

open Base Std Transition History
open UrlProtection (GURL UrlLibrary)

namespace AdblockService

variable (platform : AdblockPlatform)

def Failing (s : AdblockService) : ServiceOp → Prop
  | .downloaded response _ =>
    (s.config.find s.active).all fun source =>
      ¬ notModified source response ∧ downloadedText platform response = none
  | .redirected url _ => ¬ platform.subscriptionUrl url
  | .receive _ => ∀ job compiled rest, s.replies = (job, compiled) :: rest → compiled.engine = none
  | _ => False

section Failures

variable {platform} {s : AdblockService}

theorem queueSources_kept (sources : List Source) (s : AdblockService) :
    (sources.foldl (fun s source => s.queueSource source.id) s).engine = s.engine /\
      (sources.foldl (fun s source => s.queueSource source.id) s).config = s.config := by
  obtain ⟨queue, is⟩ := queueSources_queue sources s
  rw [is]
  exact ⟨rfl, rfl⟩

theorem told_kept (s : AdblockService) (rest : List (Compilation × Compiled)) (job : Compilation)
    (compiled : Compiled) (now : Time) :
    (s.told rest job compiled now).engine = (s.landing rest job compiled now).engine /\
      (s.told rest job compiled now).config = (s.landing rest job compiled now).config := by
  have changed (t : AdblockService) (persist : Bool) :
      (t.changed persist).engine = t.engine /\ (t.changed persist).config = t.config := by
    cases persist <;> exact ⟨rfl, rfl⟩
  unfold told
  obtain ⟨persist, reply, edit⟩ := job
  cases reply <;> exact changed _ _

theorem installed_kept (s : AdblockService) (rest : List (Compilation × Compiled))
    (job : Compilation) (compiled : Compiled) (now : Time) :
    ({ s with replies := rest }.installed job compiled now).engine =
        (s.landing rest job compiled now).engine /\
      ({ s with replies := rest }.installed job compiled now).config =
        (s.landing rest job compiled now).config := by
  obtain ⟨engine, config⟩ := told_kept s rest job compiled now
  rw [installed_eq]
  split
  · obtain ⟨engine', config'⟩ :=
      queueSources_kept (missingSubscriptions (s.told rest job compiled now).config)
        (s.told rest job compiled now)
    exact ⟨(startNext_kept _).1.trans (engine'.trans engine),
      (startNext_kept _).2.trans (config'.trans config)⟩
  · exact ⟨(startNext_kept _).1.trans engine, (startNext_kept _).2.trans config⟩

theorem landing_failed (s : AdblockService) (rest : List (Compilation × Compiled))
    (job : Compilation) {compiled : Compiled} (failed : compiled.engine = none) (now : Time) :
    (s.landing rest job compiled now).engine = s.engine /\
      (s.landing rest job compiled now).config.settings = s.config.settings := by
  obtain ⟨config, error, retry, failures, settings, -, is⟩ :=
    ({ s with replies := rest, busy := false } : AdblockService).install_failed job failed now
  obtain ⟨persist, reply, edit⟩ := job
  rw [landing, is]
  cases edit <;> exact ⟨rfl, settings⟩

theorem failing_kept {op : ServiceOp} (failing : s.Failing platform op) :
    (s.next platform op).engine = s.engine /\
      (s.next platform op).config.settings = s.config.settings := by
  cases op with
  | downloaded response now =>
    change (s.downloaded platform response now).engine = s.engine /\
      (s.downloaded platform response now).config.settings = s.config.settings
    unfold downloaded
    split
    · exact s.failed_settings now
    · next source found =>
      have useless : notModified source response = false /\ downloadedText platform response = none := by
        simpa [Failing, found] using failing
      rw [useless.1, useless.2]
      exact s.failed_settings now
  | redirected url now =>
    change (s.redirected platform url now).engine = s.engine /\
      (s.redirected platform url now).config.settings = s.config.settings
    rw [redirected, if_neg failing]
    exact s.failed_settings now
  | receive now =>
    change (s.receive now).engine = s.engine /\ (s.receive now).config.settings = s.config.settings
    unfold receive
    split
    · exact ⟨rfl, rfl⟩
    · next job compiled rest replies =>
      obtain ⟨engine, config⟩ := s.installed_kept rest job compiled now
      obtain ⟨engine', settings⟩ := s.landing_failed rest job (failing job compiled rest replies) now
      exact ⟨engine.trans engine', (congrArg Config.settings config).trans settings⟩
  | _ => exact failing.elim

end Failures

structure Keeps (s t : AdblockService) : Prop where
  worker : s.worker <+: t.worker
  replies : t.replies = s.replies
  log : s.log <+: t.log
  disk : t.disk = s.disk
  initialized : t.initialized = s.initialized

def Newer (s t : AdblockService) : Prop :=
  s.revision < t.revision ∨ t.revision = s.revision ∧ t.config = s.config ∧ t.engine = s.engine

structure Feeds (s t : AdblockService) : Prop extends Keeps s t where
  newer : Newer s t

section Feeds

variable {platform} {s t u : AdblockService}

theorem Newer.le (newer : Newer s t) : s.revision <= t.revision := by
  rcases newer with later | ⟨same, -⟩
  · exact later.le
  · exact same.ge

theorem Newer.trans (first : Newer s t) (second : Newer t u) : Newer s u := by
  rcases first with later | ⟨same, config, engine⟩
  · exact .inl (later.trans_le second.le)
  · rcases second with later | ⟨same', config', engine'⟩
    · exact .inl (same ▸ later)
    · exact .inr ⟨same'.trans same, config'.trans config, engine'.trans engine⟩

theorem Keeps.trans (first : Keeps s t) (second : Keeps t u) : Keeps s u :=
  ⟨first.worker.trans second.worker, second.replies.trans first.replies,
    first.log.trans second.log, second.disk.trans first.disk,
    second.initialized.trans first.initialized⟩

theorem keeps_same (worker : t.worker = s.worker) (replies : t.replies = s.replies)
    (log : t.log = s.log) (disk : t.disk = s.disk) (initialized : t.initialized = s.initialized) :
    Keeps s t :=
  ⟨worker ▸ List.prefix_rfl, replies, log ▸ List.prefix_rfl, disk, initialized⟩

theorem Feeds.refl (s : AdblockService) : Feeds s s :=
  ⟨keeps_same rfl rfl rfl rfl rfl, .inr ⟨rfl, rfl, rfl⟩⟩

theorem Feeds.trans (first : Feeds s t) (second : Feeds t u) : Feeds s u :=
  ⟨first.toKeeps.trans second.toKeeps, first.newer.trans second.newer⟩

theorem feeds_note (s : AdblockService) (event : ServiceEvent) : Feeds s (s.note event) :=
  ⟨⟨List.prefix_rfl, rfl, List.prefix_append _ _, rfl, rfl⟩, .inr ⟨rfl, rfl, rfl⟩⟩

theorem feeds_post (s : AdblockService) (task : WorkerTask) : Feeds s (s.post task) :=
  ⟨⟨List.prefix_append _ _, rfl, List.prefix_rfl, rfl, rfl⟩, .inr ⟨rfl, rfl, rfl⟩⟩

theorem feeds_bumped (s : AdblockService) : Feeds s { s with revision := s.revision + 1 } :=
  ⟨keeps_same rfl rfl rfl rfl rfl, .inl (Nat.lt_succ_self _)⟩

theorem feeds_changed (s : AdblockService) (persist : Bool) : Feeds s (s.changed persist) := by
  cases persist with
  | false => exact s.feeds_bumped
  | true => exact (s.feeds_bumped.trans (feeds_note _ _)).trans (feeds_post _ _)

theorem feeds_commit (s : AdblockService) (request : Option Nat) (change : Change) :
    Feeds s (s.commit request change) := by
  have log : s.log <+: (s.commit request change).log := by
    rw [commit_log]
    exact (List.prefix_append _ _).trans (List.prefix_append _ _)
  exact ⟨⟨List.prefix_append _ _, rfl, log, rfl, rfl⟩, .inl (Nat.lt_succ_self _)⟩

theorem feeds_rebuild (s : AdblockService) (job : Compilation) (config : Config) :
    Feeds s (s.rebuild job config) := by
  refine Feeds.trans ?_ (feeds_post _ _)
  exact ⟨keeps_same rfl rfl rfl rfl rfl, .inl (Nat.lt_succ_self _)⟩

theorem feeds_startNext (s : AdblockService) : Feeds s s.startNext := by
  unfold startNext
  split
  · exact .refl s
  · split
    · exact ⟨keeps_same rfl rfl rfl rfl rfl, .inr ⟨rfl, rfl, rfl⟩⟩
    · exact ⟨keeps_same rfl rfl rfl rfl rfl, .inl (Nat.lt_succ_self _)⟩

theorem feeds_failed (s : AdblockService) (now : Time) : Feeds s (s.failed now) := by
  refine Feeds.trans ?_ (feeds_startNext _)
  exact ⟨keeps_same rfl rfl rfl rfl rfl, .inl (Nat.lt_succ_self _)⟩

theorem feeds_queueSources (sources : List Source) (s : AdblockService) :
    Feeds s (sources.foldl (fun s source => s.queueSource source.id) s).startNext := by
  obtain ⟨queue, is⟩ := queueSources_queue sources s
  rw [is]
  refine Feeds.trans ?_ (feeds_startNext _)
  exact ⟨keeps_same rfl rfl rfl rfl rfl, .inr ⟨rfl, rfl, rfl⟩⟩

theorem feeds_apply (s : AdblockService) (request : Nat) (change : Change) :
    Feeds s (s.apply request change) := (s.feeds_commit _ _).trans (feeds_note _ _)

theorem feeds_mutate (s : AdblockService) (request : Nat) (command : Command) (a : CommandAnswer) :
    Feeds s (s.mutate platform request command a) := by
  have toggled (change : Bool -> Change) : Feeds s (s.toggle request command.enabled change) := by
    unfold toggle
    split
    · exact feeds_note _ _
    · exact s.feeds_apply request _
  unfold mutate
  split
  · exact feeds_note _ _
  · split
    · exact feeds_note _ _
    · split
      · exact toggled _
      · exact toggled _
      · unfold removeException
        dsimp only
        split
        · exact feeds_note _ _
        · exact s.feeds_apply request _
      · unfold updateSources
        dsimp only
        split
        · exact feeds_note _ _
        · exact (feeds_queueSources _ s).trans (feeds_note _ _)
      · split
        · exact feeds_note _ _
        · split
          · unfold importFile
            split
            · exact feeds_note _ _
            · split
              · exact feeds_note _ _
              · split
                · exact feeds_note _ _
                · refine Feeds.trans ?_ (feeds_post _ _)
                  exact ⟨keeps_same rfl rfl rfl rfl rfl, .inl (Nat.lt_succ_self _)⟩
          · split
            · exact feeds_note _ _
            · exact s.feeds_rebuild _ _

theorem feeds_setSiteEnabled (s : AdblockService) (request : Nat) (command : Command)
    (page : Option SitePage) : Feeds s (s.setSiteEnabled platform request command page) := by
  unfold setSiteEnabled
  split
  · exact feeds_note _ _
  · split
    · exact feeds_note _ _
    · split
      · exact feeds_note _ _
      · split
        · exact feeds_note _ _
        · unfold setSite
          dsimp only
          split
          · exact feeds_note _ _
          · split
            · exact feeds_note _ _
            · exact s.feeds_apply request _

theorem feeds_downloaded (s : AdblockService) (response : Response) (now : Time) :
    Feeds s (s.downloaded platform response now) := by
  unfold downloaded
  split
  · exact s.feeds_failed now
  · split
    · refine Feeds.trans (Feeds.trans ?_ (feeds_commit _ _ _)) (feeds_startNext _)
      exact ⟨keeps_same rfl rfl rfl rfl rfl, .inr ⟨rfl, rfl, rfl⟩⟩
    · split
      · exact s.feeds_failed now
      · refine Feeds.trans ?_ (feeds_rebuild _ _ _)
        exact ⟨keeps_same rfl rfl rfl rfl rfl, .inr ⟨rfl, rfl, rfl⟩⟩

theorem feeds_asked (s : AdblockService) (command : Command) : Feeds s (s.ask command) :=
  ⟨⟨List.prefix_rfl, rfl, List.prefix_append _ _, rfl, rfl⟩, .inr ⟨rfl, rfl, rfl⟩⟩

theorem feeds_next (s : AdblockService) {op : ServiceOp} (works : ∀ a, op ≠ .work a)
    (receives : ∀ now, op ≠ .receive now) : Feeds s (s.next platform op) := by
  cases op with
  | mutate command answer =>
    exact Feeds.trans (feeds_asked s command) (feeds_mutate (s.ask command) _ _ _)
  | setSiteEnabled command page =>
    exact Feeds.trans (feeds_asked s command) (feeds_setSiteEnabled (s.ask command) _ _ _)
  | autoUpdate offline now =>
    change Feeds s (s.autoUpdate offline now)
    unfold autoUpdate
    split
    · exact .refl s
    · exact feeds_queueSources _ s
  | downloaded response now => exact feeds_downloaded s response now
  | redirected url now =>
    change Feeds s (s.redirected platform url now)
    unfold redirected
    split
    · exact .refl s
    · exact s.feeds_failed now
  | work answer => exact absurd rfl (works answer)
  | receive now => exact absurd rfl (receives now)

theorem keeps_landing (s : AdblockService) (rest : List (Compilation × Compiled))
    (job : Compilation) (compiled : Compiled) (now : Time) :
    Keeps { s with replies := rest, initialized := true } (s.landing rest job compiled now) /\
      (s.landing rest job compiled now).revision = s.revision := by
  obtain ⟨persist, reply, edit⟩ := job
  cases found : compiled.engine with
  | some engine =>
    have log : s.log <+: (s.landing rest ⟨persist, reply, edit⟩ compiled now).log := by
      cases edit <;> simp [landing, install, found, noteOutcome, note]
    refine ⟨⟨?_, ?_, log, ?_, rfl⟩, ?_⟩ <;>
    · rw [landing, install, found]
      cases edit <;> rfl
  | none =>
    obtain ⟨config, error, retry, failures, -, -, is⟩ :=
      ({ s with replies := rest, busy := false } : AdblockService).install_failed
        ⟨persist, reply, edit⟩ found now
    rw [landing, is]
    cases edit with
    | none => exact ⟨⟨List.prefix_rfl, rfl, List.prefix_append _ _, rfl, rfl⟩, rfl⟩
    | some edit => exact ⟨keeps_same rfl rfl rfl rfl rfl, rfl⟩

theorem feeds_tell (s : AdblockService) (reply : Option Nat) (line : Int) :
    Feeds s (s.tell reply line) /\ (s.tell reply line).revision = s.revision := by
  cases reply with
  | none => exact ⟨.refl s, rfl⟩
  | some request => exact ⟨feeds_note _ _, rfl⟩

theorem feeds_told (s : AdblockService) (rest : List (Compilation × Compiled))
    (job : Compilation) (compiled : Compiled) (now : Time) :
    Feeds { s with replies := rest, initialized := true } (s.told rest job compiled now) /\
      (s.told rest job compiled now).revision = s.revision + 1 := by
  have changed (t : AdblockService) (persist : Bool) :
      (t.changed persist).revision = t.revision + 1 := by
    cases persist <;> rfl
  obtain ⟨keeps, revision⟩ := keeps_landing s rest job compiled now
  have told : (s.told rest job compiled now).revision = s.revision + 1 := by
    rw [AdblockService.told, (feeds_tell _ _ _).2, changed, revision]
  refine ⟨⟨(keeps.trans (feeds_changed _ _).toKeeps).trans (feeds_tell _ _ _).1.toKeeps, .inl ?_⟩, told⟩
  exact told.ge

theorem feeds_after (s : AdblockService) (rest : List (Compilation × Compiled))
    (job : Compilation) (compiled : Compiled) (now : Time) :
    Feeds (s.told rest job compiled now)
      ({ s with replies := rest }.installed job compiled now) := by
  rw [installed_eq]
  split
  · exact feeds_queueSources _ _
  · exact feeds_startNext _

theorem feeds_installed (s : AdblockService) (rest : List (Compilation × Compiled))
    (job : Compilation) (compiled : Compiled) (now : Time) :
    Feeds { s with replies := rest, initialized := true }
      ({ s with replies := rest }.installed job compiled now) :=
  (feeds_told s rest job compiled now).1.trans (feeds_after s rest job compiled now)

theorem landing_log (s : AdblockService) (rest : List (Compilation × Compiled))
    (job : Compilation) (compiled : Compiled) (now : Time) :
    (s.landing rest job compiled now).log <+:
      ({ s with replies := rest }.installed job compiled now).log := by
  have told : (s.landing rest job compiled now).log <+: (s.told rest job compiled now).log :=
    (feeds_changed _ _).log.trans (feeds_tell _ _ _).1.log
  exact told.trans (feeds_after s rest job compiled now).log

theorem work_kept (platform : AdblockPlatform) (s : AdblockService) (a : WorkAnswer) :
    (s.work platform a).log = s.log /\ (s.work platform a).initialized = s.initialized /\
      Newer s (s.work platform a) := by
  have same : Newer s s := .inr ⟨rfl, rfl, rfl⟩
  unfold work
  split
  · exact ⟨rfl, rfl, same⟩
  · dsimp only
    split
    · exact ⟨rfl, rfl, same⟩
    · exact ⟨rfl, rfl, same⟩
    · split <;> exact ⟨rfl, rfl, same⟩
    · exact ⟨rfl, rfl, same⟩

end Feeds

def Replied (s : AdblockService) (request : Nat) : Prop :=
  ∃ reason line, .replied request reason line ∈ s.log

def Waits (request : Nat) (s : AdblockService) (tasks : Nat) : Prop :=
  (∃ front task back, s.worker = front ++ task :: back ∧ task.reply = some request ∧
    front.length + 1 = tasks) ∨
  tasks = 0 ∧ ∃ reply ∈ s.replies, reply.1.reply = some request

section Waits

variable {platform} {s t : AdblockService} {request tasks : Nat}

theorem waits_of_mem (waits : request ∈ s.waiting) : ∃ tasks, Waits request s tasks := by
  rcases List.mem_append.mp waits with mem | mem
  · obtain ⟨task, mem, reply⟩ := List.mem_filterMap.mp mem
    obtain ⟨front, back, worker⟩ := List.append_of_mem mem
    exact ⟨_, .inl ⟨front, task, back, worker, reply, rfl⟩⟩
  · obtain ⟨reply, mem, same⟩ := List.mem_filterMap.mp mem
    exact ⟨0, .inr ⟨rfl, reply, mem, same⟩⟩

theorem CoreInv.waits (inv : CoreInv platform [] s) (asked : request < s.requests)
    (silent : ¬ Replied s request) : ∃ tasks, Waits request s tasks := by
  have none : s.log.countP (ServiceEvent.repliesTo request) = 0 := by
    refine List.countP_eq_zero.mpr fun event mem replies => silent ?_
    cases event with
    | replied other reason line =>
      obtain rfl : other = request := by simpa [ServiceEvent.repliesTo] using replies
      exact ⟨reason, line, mem⟩
    | _ => cases replies
  have balance := inv.answered request
  rw [none, if_pos asked, Nat.zero_add, List.nil_append] at balance
  exact waits_of_mem (List.one_le_count_iff.mp balance.ge)

theorem Waits.fed (waits : Waits request s tasks) (feeds : Feeds s t) : Waits request t tasks := by
  obtain ⟨more, worker⟩ := feeds.worker
  rcases waits with ⟨front, task, back, is, reply, length⟩ | ⟨none, reply, mem, same⟩
  · exact .inl ⟨front, task, back ++ more, by rw [<- worker, is]; simp, reply, length⟩
  · exact .inr ⟨none, reply, feeds.replies ▸ mem, same⟩

theorem replied_installed {job : Compilation} {compiled : Compiled}
    {rest : List (Compilation × Compiled)} (waits : job.reply = some request) (now : Time) :
    Replied ({ s with replies := rest }.installed job compiled now) request := by
  have told : Replied (s.told rest job compiled now) request := by
    obtain ⟨persist, reply, edit⟩ := job
    obtain rfl : reply = some request := waits
    exact ⟨_, _, List.mem_append_right _ (List.mem_singleton_self _)⟩
  rw [installed_eq, Replied, startNext_log]
  split
  · obtain ⟨queue, is⟩ := queueSources_queue
      (missingSubscriptions (s.told rest job compiled now).config) (s.told rest job compiled now)
    rw [is]
    exact told
  · exact told

theorem Waits.receive (inv : CoreInv platform [] s) (waits : Waits request s tasks)
    (back : s.replies ≠ []) (now : Time) :
    (tasks = 0 /\ Replied (s.receive now) request) \/
      (0 < tasks /\ Waits request (s.receive now) tasks) := by
  unfold AdblockService.receive
  split
  next none => exact absurd none back
  · next job compiled rest replies =>
    rcases waits with ⟨front, task, back, worker, reply, length⟩ | ⟨none, reply, mem, same⟩
    · refine .inr ⟨by omega, Waits.fed ?_ (feeds_installed s rest job compiled now)⟩
      exact .inl ⟨front, task, back, worker, reply, length⟩
    · obtain ⟨-, rfl, -⟩ := inv.alone replies
      rw [replies, List.mem_singleton] at mem
      rw [mem] at same
      exact .inl ⟨none, replied_installed same now⟩

theorem finish_back (s : AdblockService) (job : Compilation) (compiled : Compiled) :
    s.replies ⊆ (s.finish job compiled).replies /\ ∀ request, job.reply = some request ->
      ∃ reply ∈ (s.finish job compiled).replies, reply.1.reply = some request :=
  ⟨List.subset_append_left _ _, fun _ waits =>
    ⟨(job, compiled), List.mem_append_right _ (List.mem_singleton_self _), waits⟩⟩

theorem work_replies (s : AdblockService) (task : WorkerTask) (rest : List WorkerTask)
    (worker : s.worker = task :: rest) (a : WorkAnswer) :
    (s.work platform a).worker = rest /\ s.replies ⊆ (s.work platform a).replies /\
      ∀ request, task.reply = some request ->
        ∃ reply ∈ (s.work platform a).replies, reply.1.reply = some request := by
  unfold work
  rw [worker]
  cases task with
  | restore => exact ⟨rfl, finish_back _ _ _⟩
  | compile job config => exact ⟨rfl, finish_back _ job _⟩
  | importFile reply id name config =>
    dsimp only
    split
    · exact ⟨rfl, finish_back _ _ _⟩
    · exact ⟨rfl, finish_back _ _ _⟩
  | write data => exact ⟨rfl, fun _ => id, fun request none => by cases none⟩

theorem Waits.work (platform : AdblockPlatform) (waits : Waits request s tasks) (more : s.worker ≠ []) (a : WorkAnswer) :
    (tasks = 0 /\ Waits request (s.work platform a) 0) \/
      ∃ fewer, tasks = fewer + 1 /\ Waits request (s.work platform a) fewer := by
  obtain ⟨first, rest, worker⟩ := List.exists_cons_of_ne_nil more
  obtain ⟨worker', replies, back⟩ := work_replies s first rest worker a
  rcases waits with ⟨front, task, behind, is, reply, length⟩ | ⟨none, result, mem, same⟩
  · refine .inr ⟨front.length, length.symm, ?_⟩
    cases front with
    | nil =>
      obtain ⟨rfl, -⟩ := List.cons.inj (worker.symm.trans is)
      exact .inr ⟨rfl, back request reply⟩
    | cons head front =>
      obtain ⟨-, rfl⟩ := List.cons.inj (worker.symm.trans is)
      exact .inl ⟨front, task, behind, worker', reply, rfl⟩
  · exact .inl ⟨none, .inr ⟨rfl, result, replies mem, same⟩⟩

end Waits

structure ServiceRun where
  state : ℕ → AdblockService
  op : ℕ → ServiceOp
  moved : ∀ n, step platform (state n) (op n) (state (n + 1))

/-- The worker keeps working, and its results keep coming back. -/
structure ServiceRun.Fair (run : ServiceRun platform) : Prop where
  works : ∀ n, (run.state n).worker ≠ [] → ∃ m, n ≤ m ∧ ∃ a, run.op m = .work a
  receives : ∀ n, (run.state n).replies ≠ [] → ∃ m, n ≤ m ∧ ∃ now, run.op m = .receive now

namespace ServiceRun

variable {platform} (run : ServiceRun platform)

theorem inv (initial : CoreInv platform [] (run.state 0) /\ Settled (run.state 0)) (n : ℕ) :
    CoreInv platform [] (run.state n) /\ Settled (run.state n) := by
  induction n with
  | zero => exact initial
  | succ n ih =>
    obtain ⟨permitted, moved⟩ := run.moved n
    rw [moved]
    exact next_inv ih.1 ih.2 permitted

variable {request tasks : Nat}

theorem waits_step {n : ℕ} (inv : CoreInv platform [] (run.state n))
    (waits : Waits request (run.state n) tasks) :
    Replied (run.state (n + 1)) request \/
      (∃ fewer, fewer < tasks /\ Waits request (run.state (n + 1)) fewer) \/
      (Waits request (run.state (n + 1)) tasks /\ ((∃ a, run.op n = .work a) -> tasks = 0) /\
        ((∃ now, run.op n = .receive now) -> 0 < tasks)) := by
  obtain ⟨permitted, moved⟩ := run.moved n
  rw [moved]
  cases is : run.op n with
  | work a =>
    rw [is] at permitted
    rcases waits.work platform permitted a with ⟨rfl, same⟩ | ⟨fewer, rfl, falls⟩
    · refine .inr (.inr ⟨same, fun _ => rfl, ?_⟩)
      rintro ⟨now, other⟩
      cases other
    · exact .inr (.inl ⟨fewer, Nat.lt_succ_self _, falls⟩)
  | receive now =>
    rw [is] at permitted
    rcases waits.receive inv permitted now with ⟨-, replied⟩ | ⟨more, same⟩
    · exact .inl replied
    · refine .inr (.inr ⟨same, ?_, fun _ => more⟩)
      rintro ⟨a, other⟩
      cases other
  | _ =>
    have feeds : Feeds (run.state n) ((run.state n).next platform (run.op n)) :=
      feeds_next _ (by simp [is]) (by simp [is])
    rw [is] at feeds
    refine .inr (.inr ⟨waits.fed feeds, ?_, ?_⟩) <;>
    · rintro ⟨_, other⟩
      cases other

theorem waits_until (initial : CoreInv platform [] (run.state 0) /\ Settled (run.state 0))
    (n gap : ℕ) (waits : Waits request (run.state n) tasks)
    (turn : (0 < tasks /\ ∃ a, run.op (n + gap) = .work a) \/
      (tasks = 0 /\ ∃ now, run.op (n + gap) = .receive now)) :
    ∃ m, n <= m /\ (Replied (run.state m) request \/
      ∃ fewer, fewer < tasks /\ Waits request (run.state m) fewer) := by
  induction gap generalizing n with
  | zero =>
    rcases run.waits_step (run.inv initial n).1 waits with replied | falls | ⟨-, works, receives⟩
    · exact ⟨n + 1, Nat.le_succ n, .inl replied⟩
    · exact ⟨n + 1, Nat.le_succ n, .inr falls⟩
    · rcases turn with ⟨more, works'⟩ | ⟨none, receives'⟩
      · have := works works'
        omega
      · have := receives receives'
        omega
  | succ gap ih =>
    rcases run.waits_step (run.inv initial n).1 waits with replied | falls | ⟨same, -, -⟩
    · exact ⟨n + 1, Nat.le_succ n, .inl replied⟩
    · exact ⟨n + 1, Nat.le_succ n, .inr falls⟩
    · rw [show n + (gap + 1) = n + 1 + gap by omega] at turn
      obtain ⟨m, later, reached⟩ := ih (n + 1) same turn
      exact ⟨m, by omega, reached⟩

theorem eventually_replied (initial : CoreInv platform [] (run.state 0) /\ Settled (run.state 0))
    (fair : run.Fair) {n : ℕ} (asked : request < (run.state n).requests) :
    ∃ m, n <= m /\ Replied (run.state m) request := by
  by_cases told : Replied (run.state n) request
  · exact ⟨n, le_rfl, told⟩
  obtain ⟨tasks, waits⟩ := (run.inv initial n).1.waits asked told
  refine eventually_of_rank (fun n => n) (fun m => Replied (run.state m) request)
    (fun m tasks => Waits request (run.state m) tasks) (fun m tasks waits => ?_) n tasks waits
  rcases Nat.eq_zero_or_pos tasks with rfl | more
  · have back : (run.state m).replies ≠ [] := by
      rcases waits with ⟨front, task, back, -, -, length⟩ | ⟨-, reply, mem, -⟩
      · omega
      · exact List.ne_nil_of_mem mem
    obtain ⟨k, later, receives⟩ := fair.receives m back
    obtain ⟨gap, rfl⟩ := Nat.exists_eq_add_of_le later
    exact run.waits_until initial m gap waits (.inr ⟨rfl, receives⟩)
  · have busy : (run.state m).worker ≠ [] := by
      rcases waits with ⟨front, task, back, worker, -, -⟩ | ⟨none, -⟩
      · rw [worker]
        simp
      · omega
    obtain ⟨k, later, works⟩ := fair.works m busy
    obtain ⟨gap, rfl⟩ := Nat.exists_eq_add_of_le later
    exact run.waits_until initial m gap waits (.inl ⟨more, works⟩)

end ServiceRun

end AdblockService

open AdblockService

def repliesTo (s : AdblockService) (request : Nat) : Nat :=
  s.log.countP (ServiceEvent.repliesTo request)

structure Pipeline (platform : AdblockPlatform) (s : AdblockService) : Prop where
  exclusive : ¬ (s.busy ∧ s.loader.isSome)
  active : s.active ≠ "" → s.busy ∨ s.loader.isSome
  idle : ¬ s.busy → s.loader = none → s.queue = []
  replied : ∀ request < s.requests, repliesTo s request ≤ 1 ∧ (¬ s.busy → repliesTo s request = 1)
  answered : ∀ run : ServiceRun platform, run.state 0 = s → run.Fair →
    ∀ request < s.requests, ∃ m, repliesTo (run.state m) request = 1
  failing : ∀ op t, step platform s op t → s.Failing platform op →
    t.engine = s.engine ∧ t.config.settings = s.config.settings
  engine : s.log.any ServiceEvent.isCompiled → s.engine = some s.config.engineSources
  loaded : s.log.countP ServiceEvent.isLoaded = if s.initialized then 1 else 0
  kept : s.config.settings = wanted s.log
  judged : Throughout (Judged platform) s.log

section

variable {platform : AdblockPlatform} {s : AdblockService}

theorem repliesTo_le (inv : CoreInv platform [] s) {request : Nat} (asked : request < s.requests) :
    repliesTo s request <= 1 := by
  have balance := inv.answered request
  rw [if_pos asked] at balance
  exact balance.le.trans' (Nat.le_add_right _ _)

theorem repliesTo_still (inv : CoreInv platform [] s) {request : Nat} (asked : request < s.requests)
    (still : s.busy = false) : repliesTo s request = 1 := by
  obtain ⟨replies, writes⟩ := inv.still still
  have none : s.waiting = [] := by
    rw [AdblockService.waiting, replies, List.filterMap_nil, List.append_nil]
    exact List.filterMap_eq_nil_iff.mpr fun task mem => reply_of_write (writes task mem)
  have balance := inv.answered request
  rw [if_pos asked, none] at balance
  exact balance

theorem repliesTo_of_replied (inv : CoreInv platform [] s) {request : Nat}
    (asked : request < s.requests) (replied : s.Replied request) : repliesTo s request = 1 := by
  obtain ⟨reason, line, mem⟩ := replied
  have some : 0 < repliesTo s request :=
    List.countP_pos_iff.mpr ⟨_, mem, by simp [ServiceEvent.repliesTo]⟩
  have atMost := repliesTo_le inv asked
  omega

theorem run_inv {context : String} {disk : Option DictValue}
    {trace : List (AdblockService × ServiceOp)}
    (run : Trace (step platform) (construct context disk) trace s) :
    CoreInv platform [] s /\ Settled s := by
  have preserved (t : AdblockService) (op : ServiceOp) (u : AdblockService)
      (inv : CoreInv platform [] t /\ Settled t) (moved : step platform t op u) :
      CoreInv platform [] u /\ Settled u := by
    obtain ⟨permitted, rfl⟩ := moved
    exact next_inv inv.1 inv.2 permitted
  exact run.preserves preserved (construct_inv context disk)

end

def plainPlatform : AdblockPlatform where
  parse := GURL.mk
  isValid := fun _ => true
  scheme := fun _ => "https"
  hasUsername := fun _ => false
  hasPassword := fun _ => false
  hasQuery := fun _ => false
  hasRef := fun _ => false
  host := fun _ => "example.com"
  hostNoBrackets := fun _ => "example.com"
  path := fun _ => "/"
  clearQueryAndRef := id
  serializedOrigin := fun _ => "https://example.com"
  assignFromIPLiteral := fun _ => none
  isPubliclyRoutable := fun _ => false
  hasPort := fun _ => false
  isStringUTF8 := fun _ => true

def setRules : Command :=
  { name := .setAdBlockUserRules, expectedRevision := some (.finite 2), text := some "||ads.example^" }

def switchOff : Command :=
  { name := .setAdBlockEnabled, expectedRevision := some (.finite 3), enabled := some false }

end ChromiumHmos.Adblock
