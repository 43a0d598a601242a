import ChromiumHmos.Adblock.Pipeline

set_option autoImplicit false

/-!
# What a step of the pipeline keeps

At most one compilation is on its way, and what it compiles is the service's own content with one
edit. A command is owed its reply from the time it comes in.
-/

namespace ChromiumHmos.Adblock

open Base Std Transition History
open UrlProtection (GURL UrlLibrary)

def wantedStep (config : Config) : ServiceEvent → Config
  | .loaded initial => initial.settings
  | .committed _ change => (change.apply config).settings
  | _ => config

/-- What the initial load left, with every acknowledged change. -/
def wanted (log : List ServiceEvent) : Config := log.foldl wantedStep ({} : Config).settings

theorem wanted_snoc (log : List ServiceEvent) (event : ServiceEvent) :
    wanted (log ++ [event]) = wantedStep (wanted log) event := by
  simp [wanted]

section Asks

variable (platform : AdblockPlatform)

def Edit.AskedBy (edit : Edit) (command : Command) : Prop :=
  match edit with
  | .sourceEnabled id enabled =>
    command.name = .setAdBlockSourceEnabled ∧ id = command.sourceId ∧ command.enabled = some enabled
  | .saved id name url =>
    command.name = .saveAdBlockSource ∧ (command.sourceId = "" ∨ id = command.sourceId) ∧
      name = command.title ∧ url = platform.toUrlLibrary.spec (platform.parse command.url)
  | .removed id => command.name = .removeAdBlockSource ∧ id = command.sourceId
  | .userRules text => command.name = .setAdBlockUserRules ∧ command.text = some text
  | .imported _ name _ _ => command.name = .importAdBlockFile ∧ name = command.title
  | .downloaded .. | .unchanged .. => False

/-- The change a command is about. -/
def Change.AskedBy (change : Change) (command : Command) : Prop :=
  match change with
  | .enabled value => command.name = .setAdBlockEnabled ∧ command.enabled = some value
  | .autoUpdate value => command.name = .setAdBlockAutoUpdate ∧ command.enabled = some value
  | .exception host excepted =>
    (command.name = .removeAdBlockException ∧
      host = platform.normalizeHost (command.text.getD "") ∧ excepted = false) ∨
    (command.name = .setAdBlockSiteEnabled ∧ command.enabled = some !excepted)
  | .content edit => edit.AskedBy platform command

def Change.Downloaded : Change → Prop
  | .content (.downloaded ..) | .content (.unchanged ..) => True
  | _ => False

/-- A change is a command's or a download's. -/
def Requested (log : List ServiceEvent) (request : Option Nat) (change : Change) : Prop :=
  match request with
  | some request => ∃ command, .asked request command ∈ log ∧ change.AskedBy platform command
  | none => change.Downloaded

theorem Requested.mono {platform : AdblockPlatform} {log more : List ServiceEvent}
    {request : Option Nat} {change : Change} (requested : Requested platform log request change)
    (grown : log ⊆ more) : Requested platform more request change := by
  cases request with
  | none => exact requested
  | some request =>
    obtain ⟨command, asked, about⟩ := requested
    exact ⟨command, grown asked, about⟩

/-- What a reply without a reason stands for. -/
def Acknowledged (log : List ServiceEvent) (request : Nat) : Prop :=
  ∃ command, .asked request command ∈ log ∧
    (command.name = .updateAdBlockSources ∨
      ∃ change, .committed (some request) change ∈ log ∧ change.AskedBy platform command)

/-- What each event of the log must meet, given the events before it. -/
def Judged (before : List ServiceEvent) : ServiceEvent → Prop
  | .replied request reason _ => reason = "" → Acknowledged platform before request
  | .committed request change => Requested platform before request change
  | .persisted config => config.settings = wanted before
  | _ => True

end Asks

def ServiceEvent.asks (request : Nat) : ServiceEvent → Bool
  | .asked other _ => other = request
  | _ => false

def ServiceEvent.repliesTo (request : Nat) : ServiceEvent → Bool
  | .replied other _ _ => other = request
  | _ => false

def ServiceEvent.isLoaded : ServiceEvent → Bool
  | .loaded _ => true
  | _ => false

def ServiceEvent.isCompiled : ServiceEvent → Bool
  | .compiled _ => true
  | _ => false

def WorkerTask.compiles : WorkerTask → Bool
  | .write _ => false
  | _ => true

def WorkerTask.reply : WorkerTask → Option Nat
  | .compile job _ => job.reply
  | .importFile reply .. => some reply
  | _ => none

namespace AdblockService

def flights (s : AdblockService) : Nat := s.worker.countP WorkerTask.compiles + s.replies.length

def waiting (s : AdblockService) : List Nat :=
  s.worker.filterMap WorkerTask.reply ++ s.replies.filterMap fun reply => reply.1.reply

variable (platform : AdblockPlatform)

def TaskSound (s : AdblockService) : WorkerTask → Prop
  | .restore => s.initialized = false
  | .compile job config =>
    s.initialized ∧ ∃ edit, job.edit = some edit ∧
      config.content = (edit.apply s.config).content ∧
      Requested platform s.log job.reply (.content edit)
  | .importFile reply _ name config =>
    s.initialized ∧ config.content = s.config.content ∧
      ∃ command, .asked reply command ∈ s.log ∧ command.name = .importAdBlockFile ∧
        name = command.title
  | .write data => ∃ config, .persisted config ∈ s.log ∧ data = config.value true

def ReplySound (s : AdblockService) (job : Compilation) (compiled : Compiled) : Prop :=
  match job.edit with
  | none =>
    s.initialized = false ∧ job.reply = none ∧
      (compiled.engine = none ∨ compiled.engine = some compiled.config.engineSources)
  | some edit =>
    s.initialized ∧ Requested platform s.log job.reply (.content edit) ∧
      (compiled.engine = none ∨ compiled.engine = some compiled.config.engineSources ∧
        compiled.config.content = (edit.apply s.config).content)

/-- Kept at every point of a step, with the commands that are still to be replied to. -/
structure CoreInv (owed : List Nat) (s : AdblockService) : Prop where
  exclusive : s.busy → s.loader = none
  starting : s.initialized = false → s.busy ∧ s.queue = [] ∧ s.active = ""
  single : s.flights = if s.busy then 1 else 0
  tasks : ∀ task ∈ s.worker, s.TaskSound platform task
  compiled : ∀ reply ∈ s.replies, s.ReplySound platform reply.1 reply.2
  engine : s.engine = none ∨ s.engine = some s.config.engineSources
  hasEngine : s.log.any ServiceEvent.isCompiled → s.engine.isSome
  kept : s.config.settings = wanted s.log
  loads : s.log.countP ServiceEvent.isLoaded = if s.initialized then 1 else 0
  asked : ∀ request, s.log.countP (ServiceEvent.asks request) = if request < s.requests then 1 else 0
  answered : ∀ request, s.log.countP (ServiceEvent.repliesTo request) +
    (owed ++ s.waiting).count request = if request < s.requests then 1 else 0
  judged : Throughout (Judged platform) s.log

structure Settled (s : AdblockService) : Prop where
  active : s.active ≠ "" → s.busy ∨ s.loader.isSome
  idle : ¬ s.busy → s.loader = none → s.queue = []

section Operations

variable {platform} {s t : AdblockService} {owed : List Nat}

variable {task : WorkerTask}

theorem TaskSound.mono (sound : s.TaskSound platform task)
    (initialized : t.initialized = s.initialized) (content : t.config.content = s.config.content)
    (grown : s.log ⊆ t.log) : t.TaskSound platform task := by
  cases task with
  | restore => exact initialized.trans sound
  | compile job config =>
    obtain ⟨ready, edit, edits, same, requested⟩ := sound
    exact ⟨initialized.trans ready, edit, edits, same.trans (edit.content content.symm),
      requested.mono grown⟩
  | importFile reply id name config =>
    obtain ⟨ready, same, command, asked, about⟩ := sound
    exact ⟨initialized.trans ready, same.trans content.symm, command, grown asked, about⟩
  | write data =>
    obtain ⟨config, persisted, is⟩ := sound
    exact ⟨config, grown persisted, is⟩

variable {job : Compilation}

theorem ReplySound.mono {compiled : Compiled}
    (sound : s.ReplySound platform job compiled) (initialized : t.initialized = s.initialized)
    (content : t.config.content = s.config.content) (grown : s.log ⊆ t.log) :
    t.ReplySound platform job compiled := by
  obtain ⟨persist, reply, edit⟩ := job
  cases edit with
  | none => exact ⟨initialized.trans sound.1, sound.2⟩
  | some edit =>
    obtain ⟨ready, requested, result⟩ := sound
    refine ⟨initialized.trans ready, requested.mono grown, ?_⟩
    rcases result with failed | ⟨engine, same⟩
    · exact .inl failed
    · exact .inr ⟨engine, same.trans (edit.content content.symm)⟩

theorem CoreInv.still (inv : CoreInv platform owed s) (still : s.busy = false) :
    s.replies = [] /\ ∀ task ∈ s.worker, task.compiles = false := by
  have none : s.flights = 0 := by simpa [still] using inv.single
  obtain ⟨tasks, replies⟩ := Nat.add_eq_zero_iff.mp none
  refine ⟨List.eq_nil_of_length_eq_zero replies, fun task mem => ?_⟩
  simpa using List.countP_eq_zero.mp tasks task mem

theorem TaskSound.write (sound : s.TaskSound platform task)
    (write : task.compiles = false) (grown : s.log ⊆ t.log) : t.TaskSound platform task := by
  cases task with
  | write data =>
    obtain ⟨config, persisted, is⟩ := sound
    exact ⟨config, grown persisted, is⟩
  | _ => cases write

theorem CoreInv.note {owed' : List Nat} (inv : CoreInv platform owed s) {event : ServiceEvent}
    (judged : Judged platform s.log event) (kept : ∀ config, wantedStep config event = config)
    (loads : event.isLoaded = false) (compiles : event.isCompiled = false)
    (asks : ∀ request, event.asks request = false)
    (answers : ∀ request, (if event.repliesTo request then 1 else 0) + owed'.count request =
      owed.count request) : CoreInv platform owed' (s.note event) := by
  have grown : s.log ⊆ (s.note event).log := List.subset_append_left _ _
  refine ⟨inv.exclusive, inv.starting, inv.single,
    fun task mem => (inv.tasks task mem).mono rfl rfl grown,
    fun reply mem => (inv.compiled reply mem).mono rfl rfl grown, inv.engine, ?_, ?_, ?_, ?_, ?_,
    inv.judged.snoc judged⟩
  · intro compiled
    apply inv.hasEngine
    simpa [AdblockService.note, compiles] using compiled
  · change s.config.settings = wanted (s.log ++ [event])
    rw [wanted_snoc, kept, inv.kept]
  · change List.countP _ (s.log ++ [event]) = _
    rw [List.countP_append, inv.loads, List.countP_singleton, loads]
    rfl
  · intro request
    change List.countP _ (s.log ++ [event]) = _
    rw [List.countP_append, inv.asked, List.countP_singleton, asks]
    rfl
  · intro request
    have before := inv.answered request
    have balance := answers request
    change List.countP _ (s.log ++ [event]) + (owed' ++ s.waiting).count request = _
    rw [List.countP_append, List.countP_singleton, List.count_append]
    rw [List.count_append] at before
    change _ = if request < s.requests then 1 else 0
    omega

variable {request : Nat} {reason : String}

theorem CoreInv.replyTo (inv : CoreInv platform (request :: owed) s) (line : Int) (acknowledged : reason = "" → Acknowledged platform s.log request) :
    CoreInv platform owed (s.replyTo request reason line) := by
  refine inv.note acknowledged (fun _ => rfl) rfl rfl (fun _ => rfl) fun other => ?_
  rw [List.count_cons, Nat.add_comm]
  simp [ServiceEvent.repliesTo]

theorem CoreInv.refuse (inv : CoreInv platform (request :: owed) s) (line : Int) (refused : reason ≠ "") :
    CoreInv platform owed (s.replyTo request reason line) :=
  inv.replyTo line fun none => absurd none refused

theorem CoreInv.ask (inv : CoreInv platform [] s) (command : Command) :
    CoreInv platform [s.requests] (s.ask command) := by
  have grown : s.log ⊆ (s.ask command).log := List.subset_append_left _ _
  refine ⟨inv.exclusive, inv.starting, inv.single,
    fun task mem => (inv.tasks task mem).mono rfl rfl grown,
    fun reply mem => (inv.compiled reply mem).mono rfl rfl grown, inv.engine, ?_, ?_, ?_, ?_, ?_,
    inv.judged.snoc trivial⟩
  · intro compiled
    apply inv.hasEngine
    simpa [AdblockService.ask, AdblockService.note, ServiceEvent.isCompiled] using compiled
  · change s.config.settings = wanted (s.log ++ [_])
    rw [wanted_snoc, inv.kept]
    rfl
  · change List.countP _ (s.log ++ [_]) = if s.initialized then 1 else 0
    rw [List.countP_append, inv.loads]
    rfl
  · intro request
    change List.countP _ (s.log ++ [_]) = if request < s.requests + 1 then 1 else 0
    rw [List.countP_append, inv.asked, List.countP_singleton]
    simp only [ServiceEvent.asks, decide_eq_true_eq]
    split <;> split <;> split <;> omega
  · intro request
    have before := inv.answered request
    change List.countP _ (s.log ++ [_]) + ([s.requests] ++ s.waiting).count request =
      if request < s.requests + 1 then 1 else 0
    rw [List.nil_append] at before
    rw [List.countP_append, List.countP_singleton, List.count_append, List.count_singleton]
    simp only [ServiceEvent.repliesTo, Bool.false_eq_true, if_false, beq_iff_eq]
    split at before <;> split <;> split <;> omega

theorem CoreInv.post (inv : CoreInv platform owed s) {data : DictValue}
    (persisted : s.TaskSound platform (.write data)) :
    CoreInv platform owed (s.post (.write data)) := by
  refine { inv with single := ?_, tasks := ?_, answered := ?_ }
  · have same : (s.post (.write data)).flights = s.flights := by
      simp [flights, AdblockService.post, WorkerTask.compiles]
    exact same.trans inv.single
  · intro task mem
    rcases List.mem_append.mp mem with mem | mem
    · exact inv.tasks task mem
    · rw [List.mem_singleton.mp mem]
      exact persisted
  · have same : (s.post (.write data)).waiting = s.waiting := by
      simp [waiting, AdblockService.post, WorkerTask.reply]
    rw [same]
    exact inv.answered

theorem CoreInv.changed (inv : CoreInv platform owed s) (persist : Bool) :
    CoreInv platform owed (s.changed persist) := by
  have bumped : CoreInv platform owed { s with revision := s.revision + 1 } := { inv with }
  cases persist with
  | false => exact bumped
  | true =>
    refine CoreInv.post ?_ ⟨s.config, List.mem_append_right _ (List.mem_singleton_self _), rfl⟩
    exact bumped.note inv.kept (fun _ => rfl) rfl rfl (fun _ => rfl) fun _ => Nat.zero_add _

structure SameWork (s t : AdblockService) : Prop where
  initialized : t.initialized = s.initialized
  busy : t.busy = s.busy
  worker : t.worker = s.worker
  replies : t.replies = s.replies
  engine : t.engine = s.engine
  log : t.log = s.log
  requests : t.requests = s.requests
  settings : t.config.settings = s.config.settings

theorem SameWork.content (same : SameWork s t) : t.config.content = s.config.content :=
  (Config.settings_eq.mp same.settings).1

theorem CoreInv.frame (inv : CoreInv platform owed s) (same : SameWork s t)
    (exclusive : t.busy -> t.loader = none)
    (starting : t.initialized = false → t.queue = [] ∧ t.active = "") :
    CoreInv platform owed t := by
  have content := same.content
  have grown : s.log ⊆ t.log := by
    rw [same.log]
    exact fun _ => id
  refine ⟨exclusive, fun fresh => ⟨?_, starting fresh⟩, ?_, ?_, ?_, ?_, ?_, ?_, ?_, ?_, ?_, ?_⟩
  · rw [same.busy]
    exact (inv.starting (same.initialized ▸ fresh)).1
  · rw [flights, same.worker, same.replies, same.busy]
    exact inv.single
  · intro task mem
    rw [same.worker] at mem
    exact (inv.tasks task mem).mono same.initialized content grown
  · intro reply mem
    rw [same.replies] at mem
    exact (inv.compiled reply mem).mono same.initialized content grown
  · rw [same.engine, Config.engineSources_of_content content]
    exact inv.engine
  · rw [same.log, same.engine]
    exact inv.hasEngine
  · rw [same.settings, same.log]
    exact inv.kept
  · rw [same.log, same.initialized]
    exact inv.loads
  · rw [same.log, same.requests]
    exact inv.asked
  · rw [same.log, same.requests, waiting, same.worker, same.replies]
    exact inv.answered
  · rw [same.log]
    exact inv.judged

theorem CoreInv.started (inv : CoreInv platform owed s) (still : s.busy = false) :
    s.initialized = true := by
  by_contra fresh
  have busy := (inv.starting (Bool.eq_false_iff.mpr fresh)).1
  rw [still] at busy
  cases busy

theorem CoreInv.commit (inv : CoreInv platform owed s) {request : Option Nat} {change : Change}
    (requested : Requested platform s.log request change)
    (engine : (change.apply s.config).engineSources = s.config.engineSources)
    (apart : (change.apply s.config).content = s.config.content \/ s.busy = false) :
    CoreInv platform owed (s.commit request change) := by
  refine CoreInv.changed ?_ true
  have grown : s.log ⊆ s.log ++ [.committed request change] := List.subset_append_left _ _
  refine ⟨inv.exclusive, inv.starting, inv.single, ?_, ?_, ?_, ?_, ?_, ?_, ?_, ?_,
    inv.judged.snoc requested⟩
  · intro task mem
    rcases apart with same | still
    · exact (inv.tasks task mem).mono rfl same grown
    · exact (inv.tasks task mem).write ((inv.still still).2 task mem) grown
  · intro reply mem
    rcases apart with same | still
    · exact (inv.compiled reply mem).mono rfl same grown
    · change reply ∈ s.replies at mem
      rw [(inv.still still).1] at mem
      cases mem
  · change s.engine = none \/ s.engine = some (change.apply s.config).engineSources
    rw [engine]
    exact inv.engine
  · intro compiled
    change (s.log ++ [_]).any _ at compiled
    rw [List.any_append] at compiled
    exact inv.hasEngine ((Bool.or_false _).symm.trans compiled)
  · change (change.apply s.config).settings = wanted (s.log ++ [_])
    rw [wanted_snoc]
    exact change.settings (by rw [<- inv.kept, Config.settings_settings])
  · change List.countP _ (s.log ++ [_]) = if s.initialized then 1 else 0
    rw [List.countP_append, inv.loads]
    rfl
  · intro other
    change List.countP _ (s.log ++ [_]) = if other < s.requests then 1 else 0
    rw [List.countP_append, inv.asked]
    rfl
  · intro other
    change List.countP _ (s.log ++ [_]) + (owed ++ s.waiting).count other =
      if other < s.requests then 1 else 0
    rw [List.countP_append, <- inv.answered other]
    rfl

theorem queueSource_queue (s : AdblockService) (id : String) :
    ∃ queue, s.queueSource id = { s with queue } := by
  unfold queueSource
  split
  · exact ⟨s.queue, rfl⟩
  · split
    · exact ⟨s.queue, rfl⟩
    · exact ⟨_, rfl⟩

theorem queueSources_queue (sources : List Source) (s : AdblockService) :
    ∃ queue, sources.foldl (fun s source => s.queueSource source.id) s = { s with queue } := by
  induction sources generalizing s with
  | nil => exact ⟨s.queue, rfl⟩
  | cons source rest ih =>
    obtain ⟨first, is⟩ := s.queueSource_queue source.id
    obtain ⟨queue, all⟩ := ih (s.queueSource source.id)
    refine ⟨queue, ?_⟩
    rw [List.foldl_cons, all, is]

theorem CoreInv.queue (inv : CoreInv platform owed s) (ready : s.initialized = true)
    (queue : List String) : CoreInv platform owed { s with queue } :=
  inv.frame ⟨rfl, rfl, rfl, rfl, rfl, rfl, rfl, rfl⟩ inv.exclusive fun fresh => by
    rw [show s.initialized = false from fresh] at ready
    cases ready

theorem CoreInv.startNext (inv : CoreInv platform owed s) : CoreInv platform owed s.startNext := by
  unfold AdblockService.startNext
  split
  · exact inv
  · next free =>
    push Not at free
    have still : s.busy = false := Bool.eq_false_iff.mpr free.1
    have ready := inv.started still
    split
    · refine inv.frame ⟨rfl, rfl, rfl, rfl, rfl, rfl, rfl, rfl⟩ inv.exclusive fun fresh => ?_
      exact ⟨rfl, rfl⟩
    · refine CoreInv.changed ?_ false
      refine inv.frame ⟨rfl, rfl, rfl, rfl, rfl, rfl, rfl, rfl⟩ ?_ ?_
      · exact fun busy => absurd busy free.1
      · exact fun fresh => absurd (ready.symm.trans fresh) (by simp)

theorem startNext_settled (active : s.active ≠ "" → s.busy ∨ s.loader.isSome) :
    Settled s.startNext := by
  unfold startNext
  split
  · next free =>
    refine ⟨active, fun still none => ?_⟩
    rcases free with busy | loader | empty
    · exact absurd busy still
    · rw [none] at loader
      cases loader
    · exact empty
  · split
    · exact ⟨fun active => absurd rfl active, fun _ _ => rfl⟩
    · exact ⟨fun _ => .inr rfl, fun _ none => by cases none⟩

theorem startNext_log (s : AdblockService) : s.startNext.log = s.log := by
  unfold startNext
  split
  · rfl
  · split <;> rfl

theorem startNext_kept (s : AdblockService) :
    s.startNext.engine = s.engine /\ s.startNext.config = s.config := by
  unfold startNext
  split
  · exact ⟨rfl, rfl⟩
  · split <;> exact ⟨rfl, rfl⟩

theorem CoreInv.launch (inv : CoreInv platform task.reply.toList s)
    (still : s.busy = false) (unloaded : s.loader = none) (compiles : task.compiles = true)
    (sound : s.TaskSound platform task) (error : String) :
    CoreInv platform [] (({ s with busy := true, error }.changed false).post task) := by
  have ready := inv.started still
  refine { inv with exclusive := ?_, starting := ?_, single := ?_, tasks := ?_, answered := ?_ }
  · exact fun _ => unloaded
  · exact fun fresh => absurd (ready.symm.trans fresh) (by simp)
  · have none : s.flights = 0 := by simpa [still] using inv.single
    change (s.worker ++ [task]).countP _ + s.replies.length = 1
    rw [List.countP_append, List.countP_singleton, if_pos compiles]
    change s.worker.countP _ + s.replies.length = 0 at none
    omega
  · intro other mem
    rcases List.mem_append.mp mem with mem | mem
    · exact inv.tasks other mem
    · rw [List.mem_singleton.mp mem]
      exact sound.mono rfl rfl fun _ => id
  · intro request
    have before := inv.answered request
    change s.log.countP _ + ((s.worker ++ [task]).filterMap WorkerTask.reply ++
      s.replies.filterMap _).count request = if request < s.requests then 1 else 0
    rw [<- before, waiting, List.filterMap_append]
    cases found : task.reply with
    | none => simp [found]
    | some reply =>
      simp only [found, List.filterMap_cons, List.filterMap_nil, Option.toList_some,
        List.count_append, List.count_cons, List.count_nil]
      omega

theorem CoreInv.rebuild {edit : Edit}
    (inv : CoreInv platform job.reply.toList s) (still : s.busy = false) (unloaded : s.loader = none)
    (edits : job.edit = some edit)
    (requested : Requested platform s.log job.reply (.content edit)) :
    CoreInv platform [] (s.rebuild job (edit.apply s.config)) := by
  have sound : s.TaskSound platform (.compile job (edit.apply s.config)) :=
    ⟨inv.started still, edit, edits, rfl, requested⟩
  exact inv.launch still unloaded rfl sound ""

theorem busy_settled (busy : s.busy = true) : Settled s :=
  ⟨fun _ => .inl busy, fun still => absurd busy still⟩

end Operations

end AdblockService

end ChromiumHmos.Adblock
