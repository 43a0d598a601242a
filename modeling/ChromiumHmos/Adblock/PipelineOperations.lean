import ChromiumHmos.Adblock.PipelineSteps

set_option autoImplicit false

/-!
# The operations of the pipeline

Each of them, from a command that came in to the result of a compilation.
-/

namespace ChromiumHmos.Adblock

open Base Std Transition History
open UrlProtection (GURL UrlLibrary)

namespace AdblockService

section Operations

variable {platform : AdblockPlatform} {s t : AdblockService} {owed : List Nat}

theorem failed_settings (s : AdblockService) (now : Time) :
    (s.failed now).engine = s.engine /\ (s.failed now).config.settings = s.config.settings := by
  obtain ⟨engine, config⟩ := startNext_kept (({ ({ s with
    loader := none, config := s.config.failSource s.active }.noteFailure now) with
    active := "", error := "downloadFailed" } : AdblockService).changed false)
  refine ⟨engine, ?_⟩
  rw [failed, config]
  exact s.config.failSource_settings s.active

theorem failed_inv (inv : CoreInv platform owed s) (loading : s.loader.isSome) (now : Time) :
    CoreInv platform owed (s.failed now) /\ Settled (s.failed now) := by
  have still : s.busy = false := by
    by_contra busy
    rw [inv.exclusive (Bool.eq_true_of_not_eq_false busy)] at loading
    cases loading
  have ready := inv.started still
  refine ⟨CoreInv.startNext (CoreInv.changed ?_ false), startNext_settled fun active => ?_⟩
  · refine inv.frame ⟨rfl, rfl, rfl, rfl, rfl, rfl, rfl, s.config.failSource_settings _⟩ ?_ ?_
    · exact fun _ => rfl
    · exact fun fresh => absurd (ready.symm.trans fresh) (by simp)
  · exact absurd rfl active

theorem downloaded_inv (inv : CoreInv platform [] s) (loading : s.loader.isSome)
    (response : Response) (now : Time) :
    CoreInv platform [] (s.downloaded platform response now) /\
      Settled (s.downloaded platform response now) := by
  have still : s.busy = false := by
    by_contra busy
    rw [inv.exclusive (Bool.eq_true_of_not_eq_false busy)] at loading
    cases loading
  have ready := inv.started still
  have unstarted {t : AdblockService} (same : t.initialized = s.initialized)
      (fresh : t.initialized = false) : t.queue = [] ∧ t.active = "" :=
    absurd (ready.symm.trans (same.symm.trans fresh)) (by simp)
  unfold downloaded
  split
  · exact failed_inv inv loading now
  · split
    · refine ⟨CoreInv.startNext (CoreInv.commit ?_ trivial ?_ (.inr still)),
        startNext_settled fun active => absurd rfl active⟩
      · exact inv.frame ⟨rfl, rfl, rfl, rfl, rfl, rfl, rfl, rfl⟩ (fun _ => rfl) (unstarted rfl)
      · exact s.config.touchSource_engine s.active (milliseconds now)
    · split
      · exact failed_inv inv loading now
      · refine ⟨CoreInv.rebuild ?_ still rfl rfl trivial, busy_settled rfl⟩
        exact inv.frame ⟨rfl, rfl, rfl, rfl, rfl, rfl, rfl, rfl⟩ (fun _ => rfl) (unstarted rfl)

theorem redirected_inv (inv : CoreInv platform [] s) (settled : Settled s)
    (loading : s.loader.isSome) (url : GURL) (now : Time) :
    CoreInv platform [] (s.redirected platform url now) /\ Settled (s.redirected platform url now) := by
  unfold redirected
  split
  · exact ⟨inv, settled⟩
  · exact failed_inv inv loading now

theorem queueAll_inv (inv : CoreInv platform owed s) (ready : s.initialized = true)
    (active : s.active ≠ "" → s.busy ∨ s.loader.isSome) (sources : List Source) :
    CoreInv platform owed (sources.foldl (fun s source => s.queueSource source.id) s).startNext /\
      Settled (sources.foldl (fun s source => s.queueSource source.id) s).startNext := by
  obtain ⟨queue, is⟩ := queueSources_queue sources s
  rw [is]
  exact ⟨(inv.queue ready queue).startNext, startNext_settled active⟩

theorem autoUpdate_inv (inv : CoreInv platform [] s) (settled : Settled s) (offline : Bool)
    (now : Time) :
    CoreInv platform [] (s.autoUpdate offline now) /\ Settled (s.autoUpdate offline now) := by
  unfold autoUpdate
  split
  · exact ⟨inv, settled⟩
  · next due =>
    push Not at due
    exact queueAll_inv inv due.1 settled.active _

theorem settled_of_same (settled : Settled s) (busy : t.busy = s.busy) (loader : t.loader = s.loader)
    (queue : t.queue = s.queue) (active : t.active = s.active) : Settled t := by
  refine ⟨?_, ?_⟩
  · rw [busy, loader, active]
    exact settled.active
  · rw [busy, loader, queue]
    exact settled.idle

theorem commit_log (s : AdblockService) (request : Option Nat) (change : Change) :
    (s.commit request change).log =
      s.log ++ [.committed request change] ++ [.persisted (change.apply s.config)] := rfl

variable {request : Nat} {command : Command}

theorem apply_inv {change : Change} (inv : CoreInv platform [request] s) (settled : Settled s)
    (asked : .asked request command ∈ s.log) (about : change.AskedBy platform command)
    (apart : change.toContent = false) :
    CoreInv platform [] (s.apply request change) /\ Settled (s.apply request change) := by
  have content := Change.content_kept apart s.config
  have requested : Requested platform s.log (some request) change := ⟨command, asked, about⟩
  refine ⟨CoreInv.replyTo ?_ 0 fun _ => ?_, settled_of_same settled rfl rfl rfl rfl⟩
  · exact inv.commit requested (Config.engineSources_of_content content) (.inl content)
  · refine ⟨command, ?_, .inr ⟨change, ?_, about⟩⟩ <;> rw [commit_log]
    · simp [asked]
    · simp

variable {reason : String}

theorem refuse_inv (inv : CoreInv platform [request] s)
    (settled : Settled s) (line : Int) (refused : reason ≠ "") :
    CoreInv platform [] (s.replyTo request reason line) /\ Settled (s.replyTo request reason line) :=
  ⟨inv.refuse line refused, settled_of_same settled rfl rfl rfl rfl⟩

theorem toggle_inv {change : Bool -> Change}
    (inv : CoreInv platform [request] s) (settled : Settled s)
    (asked : .asked request command ∈ s.log)
    (about : ∀ value, command.enabled = some value -> (change value).AskedBy platform command)
    (apart : ∀ value, (change value).toContent = false) :
    CoreInv platform [] (s.toggle request command.enabled change) /\
      Settled (s.toggle request command.enabled change) := by
  unfold toggle
  split
  · exact refuse_inv inv settled 0 (by simp)
  next value given => exact apply_inv inv settled asked (about value given) (apart value)

theorem removeException_inv
    (inv : CoreInv platform [request] s) (settled : Settled s)
    (asked : .asked request command ∈ s.log) (named : command.name = .removeAdBlockException) :
    CoreInv platform [] (s.removeException platform request command) /\
      Settled (s.removeException platform request command) := by
  unfold removeException
  dsimp only
  split
  · exact refuse_inv inv settled 0 (by simp)
  · exact apply_inv inv settled asked (.inl ⟨named, rfl, rfl⟩) rfl

theorem updateSources_inv
    (inv : CoreInv platform [request] s) (settled : Settled s) (ready : s.initialized = true)
    (asked : .asked request command ∈ s.log) (named : command.name = .updateAdBlockSources) :
    CoreInv platform [] (s.updateSources request command) /\
      Settled (s.updateSources request command) := by
  unfold updateSources
  dsimp only
  split
  · exact refuse_inv inv settled 0 (by simp)
  · generalize s.config.sources.filter _ = sources
    obtain ⟨queued, settled'⟩ := queueAll_inv inv ready settled.active sources
    refine ⟨queued.replyTo 0 fun _ => ⟨command, ?_, .inl named⟩,
      settled_of_same settled' rfl rfl rfl rfl⟩
    obtain ⟨queue, is⟩ := queueSources_queue sources s
    rw [is, startNext_log]
    exact asked

theorem importFile_inv (inv : CoreInv platform [request] s)
    (settled : Settled s) (still : s.busy = false) (unloaded : s.loader = none)
    (asked : .asked request command ∈ s.log) (named : command.name = .importAdBlockFile)
    (a : CommandAnswer) :
    CoreInv platform [] (s.importFile request command a) /\
      Settled (s.importFile request command a) := by
  unfold importFile
  split
  · exact refuse_inv inv settled 0 (by simp)
  · split
    · exact refuse_inv inv settled 0 (by simp)
    · split
      · exact refuse_inv inv settled 0 (by simp)
      · have sound : s.TaskSound platform (.importFile request a.token command.title s.config) :=
          ⟨inv.started still, rfl, command, asked, named, rfl⟩
        exact ⟨inv.launch still unloaded rfl sound s.error, busy_settled rfl⟩

variable {a : CommandAnswer} {edit : Edit}

theorem editOf_asked
    (edits : s.editOf platform command a = .ok edit) : edit.AskedBy platform command := by
  unfold editOf at edits
  dsimp only at edits
  split at edits
  · next named =>
    split at edits
    · next given =>
      cases edits
      exact ⟨named, rfl, given⟩
    · cases edits
  · next named =>
    split at edits
    · cases edits
    · split at edits
      · split at edits
        · cases edits
        · cases edits
          exact ⟨named, .inr rfl, rfl, rfl⟩
      · split at edits
        · cases edits
        · next free =>
          cases edits
          push Not at free
          exact ⟨named, .inl free.1, rfl, rfl⟩
  · next named =>
    split at edits
    · cases edits
    · split at edits
      · cases edits
      · cases edits
        exact ⟨named, rfl⟩
  · next named =>
    split at edits
    · cases edits
    · next text given =>
      split at edits
      · cases edits
      · cases edits
        exact ⟨named, given⟩
  · cases edits

theorem editOf_reason
    (refused : s.editOf platform command a = .error reason) : reason ≠ "" := by
  unfold editOf at refused
  dsimp only at refused
  split at refused
  · split at refused <;> cases refused
    simp
  · split at refused
    · cases refused
      simp
    · split at refused <;> split at refused <;> cases refused <;> simp
  · split at refused
    · cases refused
      simp
    · split at refused <;> cases refused
      simp
  · split at refused
    · cases refused
      simp
    · split at refused <;> cases refused
      simp
  · cases refused
    simp

theorem mutate_inv (inv : CoreInv platform [request] s)
    (settled : Settled s) (asked : .asked request command ∈ s.log) (a : CommandAnswer) :
    CoreInv platform [] (s.mutate platform request command a) /\
      Settled (s.mutate platform request command a) := by
  unfold mutate
  split
  next stale => exact refuse_inv inv settled 0 stale
  · split
    · exact refuse_inv inv settled 0 (by simp)
    · next fresh =>
      have ready : s.initialized = true := by simpa using fresh
      split
      next named => exact toggle_inv inv settled asked (fun _ given => ⟨named, given⟩) fun _ => rfl
      next named => exact toggle_inv inv settled asked (fun _ given => ⟨named, given⟩) fun _ => rfl
      next named => exact removeException_inv inv settled asked named
      next named => exact updateSources_inv inv settled ready asked named
      · split
        · exact refuse_inv inv settled 0 (by simp)
        · next free =>
          push Not at free
          have still : s.busy = false := Bool.eq_false_iff.mpr free.1
          have unloaded : s.loader = none := by simpa using free.2
          split
          next named => exact importFile_inv inv settled still unloaded asked named a
          · split
            next refused => exact refuse_inv inv settled 0 (editOf_reason refused)
            · next edits =>
              have requested := editOf_asked edits
              exact ⟨CoreInv.rebuild inv still unloaded rfl ⟨command, asked, requested⟩,
                busy_settled rfl⟩

theorem setSite_inv {enabled : Bool} (inv : CoreInv platform [request] s) (settled : Settled s)
    (asked : .asked request command ∈ s.log) (named : command.name = .setAdBlockSiteEnabled)
    (given : command.enabled = some enabled) (url : GURL) :
    CoreInv platform [] (s.setSite platform request url enabled) /\
      Settled (s.setSite platform request url enabled) := by
  unfold setSite
  dsimp only
  split
  · exact refuse_inv inv settled 0 (by simp)
  · split
    · exact refuse_inv inv settled 0 (by simp)
    · refine apply_inv inv settled asked (.inr ⟨named, ?_⟩) rfl
      rw [given, Bool.not_not]

theorem setSiteEnabled_inv
    (inv : CoreInv platform [request] s) (settled : Settled s)
    (asked : .asked request command ∈ s.log) (named : command.name = .setAdBlockSiteEnabled)
    (page : Option SitePage) :
    CoreInv platform [] (s.setSiteEnabled platform request command page) /\
      Settled (s.setSiteEnabled platform request command page) := by
  unfold setSiteEnabled
  split
  · exact refuse_inv inv settled 0 (by simp)
  · split
    next stale => exact refuse_inv inv settled 0 stale
    · split
      · exact refuse_inv inv settled 0 (by simp)
      · next given =>
        split
        · exact refuse_inv inv settled 0 (by simp)
        · exact setSite_inv inv settled asked named given _

theorem CoreInv.finish {task : WorkerTask} {rest : List WorkerTask} (inv : CoreInv platform [] s)
    (worker : s.worker = task :: rest) (compiles : task.compiles = true) {job : Compilation}
    {compiled : Compiled} (reply : job.reply = task.reply)
    (sound : s.ReplySound platform job compiled) :
    CoreInv platform [] ({ s with worker := rest }.finish job compiled) := by
  refine { inv with single := ?_, tasks := ?_, compiled := ?_, answered := ?_ }
  · have before := inv.single
    rw [flights, worker, List.countP_cons, if_pos compiles] at before
    change rest.countP _ + (s.replies ++ [_]).length = if s.busy then 1 else 0
    rw [<- before, List.length_append, List.length_singleton]
    omega
  · exact fun other mem => inv.tasks other (worker ▸ List.mem_cons_of_mem _ mem)
  · intro result mem
    rcases List.mem_append.mp mem with mem | mem
    · exact inv.compiled result mem
    · rw [List.mem_singleton.mp mem]
      exact sound
  · intro request
    have before := inv.answered request
    change s.log.countP _ + (rest.filterMap WorkerTask.reply ++
      (s.replies ++ [(job, compiled)]).filterMap _).count request = if request < s.requests then 1 else 0
    rw [<- before, waiting, worker, List.filterMap_append]
    cases found : task.reply with
    | none => simp [found, reply]
    | some waits =>
      simp only [found, reply, List.filterMap_cons, List.filterMap_nil, List.nil_append,
        List.count_append, List.count_cons, List.count_nil]
      omega

theorem written_inv {data : DictValue} {rest : List WorkerTask} (inv : CoreInv platform [] s)
    (worker : s.worker = .write data :: rest) :
    CoreInv platform [] { s with worker := rest, disk := some data } := by
  refine { inv with single := ?_, tasks := ?_, answered := ?_ }
  · have before := inv.single
    rw [flights, worker, List.countP_cons] at before
    exact before
  · exact fun other mem => inv.tasks other (worker ▸ List.mem_cons_of_mem _ mem)
  · have before := inv.answered
    rw [waiting, worker] at before
    exact before

theorem restored_sound (fresh : s.initialized = false) (config : Config) (a : EngineAnswer) :
    s.ReplySound platform ⟨false, none, none⟩ (config.compile a) :=
  ⟨fresh, rfl, config.compiled_engine a⟩

variable {config : Config}

theorem compile_sound {persist : Bool} {reply : Option Nat}
    (ready : s.initialized = true) (same : config.content = (edit.apply s.config).content)
    (requested : Requested platform s.log reply (.content edit)) (a : EngineAnswer) :
    s.ReplySound platform ⟨persist, reply, some edit⟩ (config.compile a) := by
  refine ⟨ready, requested, ?_⟩
  rcases config.compiled_engine a with failed | engine
  · exact .inl failed
  · exact .inr ⟨engine, (config.compile_content a).trans same⟩

theorem import_sound {task : WorkerTask} {reply : Nat} {id name : String}
    (is : task = .importFile reply id name config) (sound : s.TaskSound platform task)
    (text : String) (updated : Rat) :
    s.initialized = true /\ config.content = s.config.content /\
      Requested platform s.log (some reply) (.content (.imported id name text updated)) := by
  subst is
  obtain ⟨ready, same, command, asked, named, title⟩ := sound
  exact ⟨ready, same, command, asked, named, title⟩

theorem work_inv (inv : CoreInv platform [] s) (a : WorkAnswer) :
    CoreInv platform [] (s.work platform a) := by
  unfold work
  split
  · exact inv
  · next task rest worker =>
    have sound := inv.tasks task (worker ▸ List.mem_cons_self)
    dsimp only
    split
    · exact inv.finish worker rfl rfl (restored_sound sound _ _)
    · next job config =>
      obtain ⟨ready, edit, edits, same, requested⟩ := sound
      obtain ⟨persist, reply, edit'⟩ := job
      obtain rfl : edit' = some edit := edits
      exact inv.finish worker rfl rfl (compile_sound ready same requested a.engine)
    · next reply id name config =>
      split
      · next reason line unread =>
        obtain ⟨ready, -, requested⟩ := import_sound rfl sound "" 0
        exact inv.finish worker rfl rfl ⟨ready, requested, .inl rfl⟩
      · next text read =>
        obtain ⟨ready, same, requested⟩ := import_sound rfl sound text (milliseconds a.now)
        exact inv.finish worker rfl rfl
          (compile_sound ready (Edit.content same _) requested a.engine)
    · exact written_inv inv worker

theorem work_settled (settled : Settled s) (a : WorkAnswer) : Settled (s.work platform a) := by
  unfold work
  split
  · exact settled
  · dsimp only
    split
    · exact settled_of_same settled rfl rfl rfl rfl
    · exact settled_of_same settled rfl rfl rfl rfl
    · split <;> exact settled_of_same settled rfl rfl rfl rfl
    · exact settled_of_same settled rfl rfl rfl rfl

section Installed

variable {job : Compilation} {compiled : Compiled} {rest : List (Compilation × Compiled)}

theorem CoreInv.alone (inv : CoreInv platform owed s)
    (replies : s.replies = (job, compiled) :: rest) :
    s.busy = true /\ rest = [] /\ ∀ task ∈ s.worker, task.compiles = false := by
  have single := inv.single
  rw [flights, replies, List.length_cons] at single
  cases busy : s.busy with
  | false =>
    simp only [busy, Bool.false_eq_true, if_false] at single
    omega
  | true =>
    simp only [busy, if_true] at single
    refine ⟨rfl, List.eq_nil_of_length_eq_zero (by omega), fun task mem => ?_⟩
    have none : s.worker.countP WorkerTask.compiles = 0 := by omega
    simpa using List.countP_eq_zero.mp none task mem

theorem reply_of_write {task : WorkerTask} (write : task.compiles = false) : task.reply = none := by
  cases task with
  | write data => rfl
  | _ => cases write

structure Landed (s t : AdblockService) (more : List ServiceEvent) : Prop where
  initialized : t.initialized = true
  busy : t.busy = false
  loader : t.loader = s.loader
  worker : t.worker = s.worker
  replies : t.replies = []
  requests : t.requests = s.requests
  log : t.log = s.log ++ more
  asks : ∀ request, more.countP (ServiceEvent.asks request) = 0
  answers : ∀ request, more.countP (ServiceEvent.repliesTo request) = 0

variable {more : List ServiceEvent}

theorem CoreInv.landed (inv : CoreInv platform [] s)
    (replies : s.replies = (job, compiled) :: rest) (landed : Landed s t more)
    (engine : t.engine = none \/ t.engine = some t.config.engineSources)
    (hasEngine : t.log.any ServiceEvent.isCompiled -> t.engine.isSome)
    (kept : t.config.settings = wanted t.log) (loads : t.log.countP ServiceEvent.isLoaded = 1)
    (judged : Throughout (Judged platform) t.log) : CoreInv platform job.reply.toList t := by
  obtain ⟨busy, rfl, writes⟩ := inv.alone replies
  refine ⟨?_, ?_, ?_, ?_, ?_, engine, hasEngine, kept, ?_, ?_, ?_, judged⟩
  · exact fun busy => by simp [landed.busy] at busy
  · exact fun fresh => absurd (landed.initialized.symm.trans fresh) (by simp)
  · have none : s.worker.countP WorkerTask.compiles = 0 :=
      List.countP_eq_zero.mpr fun task mem => by simp [writes task mem]
    simp [flights, landed.worker, landed.replies, landed.busy, none]
  · intro task mem
    rw [landed.worker] at mem
    refine (inv.tasks task mem).write (writes task mem) ?_
    rw [landed.log]
    exact List.subset_append_left _ _
  · intro reply mem
    rw [landed.replies] at mem
    cases mem
  · rw [loads, landed.initialized]
    rfl
  · intro request
    rw [landed.log, List.countP_append, landed.asks, landed.requests]
    exact inv.asked request
  · intro request
    have before := inv.answered request
    have none : s.worker.filterMap WorkerTask.reply = [] :=
      List.filterMap_eq_nil_iff.mpr fun task mem => reply_of_write (writes task mem)
    have waiting : s.waiting = job.reply.toList := by
      obtain ⟨persist, reply, edit⟩ := job
      rw [AdblockService.waiting, none, replies]
      cases reply <;> rfl
    have nobody : t.waiting = [] := by
      rw [AdblockService.waiting, landed.worker, none, landed.replies]
      rfl
    rw [waiting] at before
    rw [landed.log, List.countP_append, landed.answers, landed.requests, nobody, <- before]
    simp

/-- What `Installed` has made of the service when it tells of the change. -/
def landing (s : AdblockService) (rest : List (Compilation × Compiled)) (job : Compilation)
    (compiled : Compiled) (now : Time) : AdblockService :=
  { ({ s with replies := rest, busy := false }.install job compiled now) with
    initialized := true, active := "" }

theorem merged_content (s : AdblockService) (config : Config) :
    (s.merged config).content = config.content := by
  unfold merged
  split <;> rfl

variable {edit : Edit}

theorem merged_settings (ready : s.initialized = true) {config : Config}
    (same : config.content = (edit.apply s.config).content) :
    (s.merged config).settings = (edit.apply s.config).settings := by
  obtain ⟨enabled, autoUpdate, exceptions⟩ := edit.apart s.config
  rw [merged, if_pos ready]
  exact Config.settings_eq.mpr ⟨same, enabled.symm, autoUpdate.symm, exceptions.symm⟩

theorem install_failed (s : AdblockService) (job : Compilation) (found : compiled.engine = none)
    (now : Time) :
    ∃ config error retry failures, config.settings = s.config.settings ∧ error ≠ "" ∧
      s.install job compiled now = { s with config, error, retry, failures }.noteOutcome job false := by
  have reason : (if compiled.reason = "" then "compileFailed" else compiled.reason) ≠ "" := by
    split
    · simp
    · assumption
  unfold install
  rw [found]
  dsimp only
  split
  · exact ⟨_, _, _, _, s.config.failSource_settings s.active, reason, rfl⟩
  · exact ⟨_, _, _, _, rfl, reason, rfl⟩

variable {persist : Bool} {reply : Option Nat}

theorem landing_initial (inv : CoreInv platform [] s)
    (replies : s.replies = (⟨persist, reply, none⟩, compiled) :: rest) (now : Time) :
    CoreInv platform reply.toList (s.landing rest ⟨persist, reply, none⟩ compiled now) := by
  obtain ⟨-, rfl, -⟩ := inv.alone replies
  obtain ⟨fresh, -, result⟩ := inv.compiled _ (replies ▸ List.mem_cons_self)
  obtain ⟨-, -, inactive⟩ := inv.starting fresh
  have loads : s.log.countP ServiceEvent.isLoaded = 0 := by
    rw [inv.loads, fresh]
    rfl
  cases found : compiled.engine with
  | some engine =>
    obtain rfl : engine = compiled.config.engineSources := by
      rcases result with failed | made
      · cases found.symm.trans failed
      · exact Option.some.inj (found.symm.trans made)
    have shape : s.landing [] ⟨persist, reply, none⟩ compiled now = { s with
        replies := [], busy := false, initialized := true, active := "", error := ""
        config := compiled.config, engine := some compiled.config.engineSources
        log := s.log ++ [.compiled compiled.config.engineSources, .loaded compiled.config] } := by
      simp [landing, install, found, merged, noteOutcome, note, fresh]
    rw [shape]
    refine inv.landed replies ⟨rfl, rfl, rfl, rfl, rfl, rfl, rfl, fun _ => rfl, fun _ => rfl⟩
      (.inr rfl) (fun _ => rfl) ?_ ?_ ?_
    · rw [wanted, List.foldl_append]
      rfl
    · rw [List.countP_append, loads]
      rfl
    · exact inv.judged.append _ (by simp [Judged])
  | none =>
    obtain ⟨config, error, retry, failures, settings, -, is⟩ :=
      ({ s with replies := [], busy := false } : AdblockService).install_failed
        ⟨persist, reply, none⟩ found now
    have shape : s.landing [] ⟨persist, reply, none⟩ compiled now = { s with
        replies := [], busy := false, initialized := true, active := ""
        config, error, retry, failures, log := s.log ++ [.loaded config] } := by
      rw [landing, is]
      rfl
    have content : config.content = s.config.content := (Config.settings_eq.mp settings).1
    rw [shape]
    refine inv.landed replies ⟨rfl, rfl, rfl, rfl, rfl, rfl, rfl, fun _ => rfl, fun _ => rfl⟩
      ?_ ?_ ?_ ?_ (inv.judged.snoc trivial)
    · rw [Config.engineSources_of_content content]
      exact inv.engine
    · intro compiled
      rw [List.any_append] at compiled
      exact inv.hasEngine ((Bool.or_false _).symm.trans compiled)
    · rw [wanted_snoc]
      rfl
    · rw [List.countP_append, loads]
      rfl

theorem landing_edit (inv : CoreInv platform [] s)
    (replies : s.replies = (⟨persist, reply, some edit⟩, compiled) :: rest) (now : Time) :
    CoreInv platform reply.toList (s.landing rest ⟨persist, reply, some edit⟩ compiled now) := by
  obtain ⟨-, rfl, -⟩ := inv.alone replies
  obtain ⟨ready, requested, result⟩ := inv.compiled _ (replies ▸ List.mem_cons_self)
  have loads : s.log.countP ServiceEvent.isLoaded = 1 := by
    rw [inv.loads, ready]
    rfl
  cases found : compiled.engine with
  | some engine =>
    obtain ⟨rfl, content⟩ : engine = compiled.config.engineSources /\
        compiled.config.content = (edit.apply s.config).content := by
      rcases result with failed | ⟨made, content⟩
      · cases found.symm.trans failed
      · exact ⟨Option.some.inj (found.symm.trans made), content⟩
    have shape : s.landing [] ⟨persist, reply, some edit⟩ compiled now = { s with
        replies := [], busy := false, initialized := true, active := "", error := ""
        config := s.merged compiled.config, engine := some compiled.config.engineSources
        log := s.log ++ [.compiled compiled.config.engineSources] ++
          [.committed reply (.content edit)] } := by
      simp [landing, install, found, merged, noteOutcome, note]
    rw [shape]
    refine inv.landed replies ⟨rfl, rfl, rfl, rfl, rfl, rfl, List.append_assoc _ _ _,
      fun _ => rfl, fun _ => rfl⟩ ?_ (fun _ => rfl) ?_ ?_ ?_
    · right
      rw [Config.engineSources_of_content (s.merged_content compiled.config)]
    · have same : s.config.settings = (wanted s.log).settings := by
        rw [<- inv.kept, Config.settings_settings]
      rw [wanted_snoc, wanted_snoc]
      exact (merged_settings ready content).trans (Change.settings same (.content edit))
    · rw [List.countP_append, List.countP_append, loads]
      rfl
    · have compiled : Judged platform s.log (.compiled compiled.config.engineSources) := trivial
      exact (inv.judged.snoc compiled).snoc (requested.mono (List.subset_append_left _ _))
  | none =>
    obtain ⟨config, error, retry, failures, settings, -, is⟩ :=
      ({ s with replies := [], busy := false } : AdblockService).install_failed
        ⟨persist, reply, some edit⟩ found now
    have shape : s.landing [] ⟨persist, reply, some edit⟩ compiled now = { s with
        replies := [], busy := false, initialized := true, active := ""
        config, error, retry, failures } := by
      rw [landing, is]
      rfl
    have content : config.content = s.config.content := (Config.settings_eq.mp settings).1
    rw [shape]
    refine inv.landed replies ⟨rfl, rfl, rfl, rfl, rfl, rfl, (List.append_nil _).symm,
      fun _ => rfl, fun _ => rfl⟩ ?_ inv.hasEngine (settings.trans inv.kept) loads inv.judged
    rw [Config.engineSources_of_content content]
    exact inv.engine

theorem landing_inv (inv : CoreInv platform [] s) (replies : s.replies = (job, compiled) :: rest)
    (now : Time) : CoreInv platform job.reply.toList (s.landing rest job compiled now) := by
  obtain ⟨persist, reply, edit⟩ := job
  cases edit with
  | none => exact landing_initial inv replies now
  | some edit => exact landing_edit inv replies now

theorem landing_acknowledged (inv : CoreInv platform [] s)
    (replies : s.replies = (job, compiled) :: rest) (now : Time) {request : Nat}
    (waits : job.reply = some request) (done : (s.landing rest job compiled now).error = "") :
    Acknowledged platform (s.landing rest job compiled now).log request := by
  have sound := inv.compiled _ (replies ▸ List.mem_cons_self)
  obtain ⟨persist, reply, edit⟩ := job
  obtain rfl : reply = some request := waits
  cases edit with
  | none => cases sound.2.1
  | some edit =>
    cases found : compiled.engine with
    | none =>
      obtain ⟨config, error, retry, failures, -, wrong, is⟩ :=
        ({ s with replies := rest, busy := false } : AdblockService).install_failed
          ⟨persist, some request, some edit⟩ found now
      rw [landing, is] at done
      exact absurd done wrong
    | some engine =>
      obtain ⟨-, ⟨command, asked, about⟩, -⟩ := sound
      have log : (s.landing rest ⟨persist, some request, some edit⟩ compiled now).log =
          s.log ++ [.compiled engine] ++ [.committed (some request) (.content edit)] := by
        simp [landing, install, found, noteOutcome, note]
      rw [log]
      exact ⟨command, by simp [asked], .inr ⟨.content edit, by simp, about⟩⟩

/-- A compilation's command hears of its end. -/
def tell (s : AdblockService) (reply : Option Nat) (line : Int) : AdblockService :=
  match reply with
  | some request => s.replyTo request s.error line
  | none => s

theorem tell_inv (inv : CoreInv platform reply.toList s) (line : Int)
    (acknowledged : ∀ request, reply = some request → s.error = "" →
      Acknowledged platform s.log request) : CoreInv platform [] (s.tell reply line) := by
  cases reply with
  | none => exact inv
  | some request => exact inv.replyTo line (acknowledged request rfl)

theorem Acknowledged.mono {log : List ServiceEvent} {request : Nat}
    (acknowledged : Acknowledged platform log request) (grown : log ⊆ more) :
    Acknowledged platform more request := by
  obtain ⟨command, asked, about⟩ := acknowledged
  refine ⟨command, grown asked, about.imp_right ?_⟩
  rintro ⟨change, committed, asks⟩
  exact ⟨change, grown committed, asks⟩

theorem changed_grown (s : AdblockService) (persist : Bool) : s.log ⊆ (s.changed persist).log := by
  cases persist with
  | false => exact fun _ => id
  | true => exact List.subset_append_left _ _

theorem changed_frame (s : AdblockService) (persist : Bool) :
    (s.changed persist).initialized = s.initialized /\ (s.changed persist).active = s.active /\
      (s.changed persist).error = s.error := by
  cases persist <;> exact ⟨rfl, rfl, rfl⟩

theorem tell_frame (s : AdblockService) (reply : Option Nat) (line : Int) :
    (s.tell reply line).initialized = s.initialized /\ (s.tell reply line).active = s.active := by
  cases reply <;> exact ⟨rfl, rfl⟩

/-- The service when the command of a compilation has heard of its end. -/
def told (s : AdblockService) (rest : List (Compilation × Compiled)) (job : Compilation)
    (compiled : Compiled) (now : Time) : AdblockService :=
  let landed := s.landing rest job compiled now
  (landed.changed (job.persist ∧ landed.error = "")).tell job.reply compiled.errorLine

theorem installed_eq (s : AdblockService) (rest : List (Compilation × Compiled)) (job : Compilation)
    (compiled : Compiled) (now : Time) :
    { s with replies := rest }.installed job compiled now =
      (if job.persist ∧ (s.landing rest job compiled now).error = "" then
        (missingSubscriptions (s.told rest job compiled now).config).foldl
          (fun s source => s.queueSource source.id) (s.told rest job compiled now)
      else s.told rest job compiled now).startNext := by
  obtain ⟨persist, reply, edit⟩ := job
  cases reply <;> rfl

theorem told_inv (inv : CoreInv platform [] s) (replies : s.replies = (job, compiled) :: rest)
    (now : Time) : CoreInv platform [] (s.told rest job compiled now) := by
  refine tell_inv ((landing_inv inv replies now).changed _) _ fun request waits quiet => ?_
  rw [(changed_frame _ _).2.2] at quiet
  have acknowledged := landing_acknowledged inv replies now waits quiet
  exact Acknowledged.mono acknowledged (changed_grown _ _)

theorem told_frame (s : AdblockService) (rest : List (Compilation × Compiled)) (job : Compilation)
    (compiled : Compiled) (now : Time) :
    (s.told rest job compiled now).initialized = true ∧ (s.told rest job compiled now).active = "" :=
  ⟨(tell_frame _ _ _).1.trans (changed_frame _ _).1,
    (tell_frame _ _ _).2.trans (changed_frame _ _).2.1⟩

theorem installed_inv (inv : CoreInv platform [] s) (replies : s.replies = (job, compiled) :: rest)
    (now : Time) :
    CoreInv platform [] ({ s with replies := rest }.installed job compiled now) /\
      Settled ({ s with replies := rest }.installed job compiled now) := by
  have told := told_inv inv replies now
  obtain ⟨ready, inactive⟩ := told_frame s rest job compiled now
  rw [installed_eq]
  split
  · exact queueAll_inv told ready (fun active => absurd inactive active) _
  · exact ⟨told.startNext, startNext_settled fun active => absurd inactive active⟩

end Installed

theorem construct_inv (context : String) (disk : Option DictValue) :
    CoreInv platform [] (construct context disk) /\ Settled (construct context disk) := by
  refine ⟨⟨fun _ => rfl, fun _ => ⟨rfl, rfl, rfl⟩, rfl, ?_, ?_, .inl rfl, ?_, rfl, rfl, ?_, ?_, .nil _⟩,
    busy_settled rfl⟩
  · intro task mem
    rw [List.mem_singleton.mp mem]
    rfl
  · exact fun _ mem => by cases mem
  · exact fun compiled => by cases compiled
  · exact fun _ => rfl
  · exact fun _ => rfl

theorem next_inv (inv : CoreInv platform [] s) (settled : Settled s) {op : ServiceOp}
    (permitted : s.permitted op) :
    CoreInv platform [] (s.next platform op) /\ Settled (s.next platform op) := by
  cases op with
  | mutate command answer =>
    have asked : .asked s.requests command ∈ (s.ask command).log :=
      List.mem_append_right _ (List.mem_singleton_self _)
    exact mutate_inv (inv.ask command) (settled_of_same settled rfl rfl rfl rfl) asked answer
  | setSiteEnabled command page =>
    have asked : .asked s.requests command ∈ (s.ask command).log :=
      List.mem_append_right _ (List.mem_singleton_self _)
    exact setSiteEnabled_inv (inv.ask command) (settled_of_same settled rfl rfl rfl rfl) asked
      permitted page
  | autoUpdate offline now => exact autoUpdate_inv inv settled offline now
  | downloaded response now => exact downloaded_inv inv permitted response now
  | redirected url now => exact redirected_inv inv settled permitted url now
  | work answer => exact ⟨work_inv inv answer, work_settled settled answer⟩
  | receive now =>
    rw [next, receive]
    split
    · exact ⟨inv, settled⟩
    next job compiled rest replies => exact installed_inv inv replies now

end Operations

end AdblockService

end ChromiumHmos.Adblock
