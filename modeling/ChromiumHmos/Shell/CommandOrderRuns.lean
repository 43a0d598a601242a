import ChromiumHmos.Shell.CommandOrder

set_option autoImplicit false

/-!
# Commands through startup

The commands already handed out and those underway stand in one line, which a step only adds to at its
end: but for the task the shell's thread posts while commands that waited are still to be posted.
-/

namespace ChromiumHmos.Shell

open Transition Base

namespace CommandBridge

def line (s : CommandBridge) : List BrowserCommand := s.handed ++ s.underway

def entriesLeft (s : CommandBridge) : List BrowserCommand :=
  s.entries.filterMap fun entry =>
    match entry with
    | .dict command => some { widget := s.widget, command }
    | _ => none

structure Sane (s : CommandBridge) : Prop where
  few : s.pendingCommands.length <= kMaxPendingCommands
  known : s.uiTaskRunner = true -> s.pendingCommands = []
  held : commandsOf s.sending.toList ≠ [] -> s.pendingCommands = []

structure Adds (s t : CommandBridge) (new : List BrowserCommand) : Prop where
  accepted : t.accepted = s.accepted ++ new
  sublist : (new ++ t.entriesLeft).Sublist s.entriesLeft

@[simp] theorem commandsOf_nil : commandsOf [] = [] := rfl

@[simp] theorem commandsOf_append (first second : List UiTask) :
    commandsOf (first ++ second) = commandsOf first ++ commandsOf second :=
  List.filterMap_append

theorem commandsOf_waiting (pending : List BrowserCommand) :
    commandsOf (pending.map .executeBrowserCommand) = pending := by
  simp [commandsOf, List.filterMap_map, Function.comp_def, UiTask.command?]

theorem commandsOf_starting (s : CommandBridge) : commandsOf s.startingTasks = s.pendingCommands := by
  have url : commandsOf (s.pendingUrl.map (.navigate 0)).toList = [] := by
    cases s.pendingUrl <;> rfl
  have font : commandsOf (s.pendingThemeFontId.map .reloadThemeFonts).toList = [] := by
    cases s.pendingThemeFontId <;> rfl
  have shutdown : commandsOf (if s.pendingShutdown then [.shutdown] else []) = [] := by
    cases s.pendingShutdown <;> rfl
  have split : s.startingTasks = [.requestBrowserStateUpdate] ++ s.pendingCommands.map .executeBrowserCommand ++
      [.applyWindowState] ++ (s.pendingUrl.map (.navigate 0)).toList ++
      (s.pendingThemeFontId.map .reloadThemeFonts).toList ++
      (if s.pendingShutdown then [.shutdown] else []) := by
    simp [startingTasks]
  have first : commandsOf [UiTask.requestBrowserStateUpdate] = [] := rfl
  have window : commandsOf [UiTask.applyWindowState] = [] := rfl
  rw [split]
  simp only [commandsOf_append, commandsOf_waiting, url, font, shutdown, first, window, List.append_nil,
    List.nil_append]

theorem commandsOf_head_tail (tasks : List UiTask) :
    (tasks.head?.bind UiTask.command?).toList ++ commandsOf tasks.tail = commandsOf tasks := by
  cases tasks with
  | nil => rfl
  | cons task rest =>
    cases made : task.command? <;> simp [commandsOf, made]

theorem commandsOf_split (tasks : List UiTask) :
    commandsOf tasks.head?.toList ++ commandsOf tasks.tail = commandsOf tasks := by
  cases tasks with
  | nil => rfl
  | cons task rest => cases made : task.command? <;> simp [commandsOf, made]

theorem entriesLeft_dict (s : CommandBridge) (command : DictValue) (rest : List Value)
    (entries : s.entries = .dict command :: rest) :
    s.entriesLeft = { widget := s.widget, command } :: { s with entries := rest }.entriesLeft := by
  simp [entriesLeft, entries]

variable {s : CommandBridge}

variable {t : CommandBridge}

theorem line_kept (handed : t.handed = s.handed) (tasks : t.tasks = s.tasks)
    (starting : t.starting = s.starting) (pending : t.pendingCommands = s.pendingCommands)
    (sending : commandsOf t.sending.toList = commandsOf s.sending.toList) : t.line = s.line := by
  simp only [line, underway, handed, tasks, starting, pending, sending]

theorem postBrowserCommand_spec (posted : BrowserCommand) (s : CommandBridge) (sane : s.Sane)
    (free : s.sending = none) :
    (postBrowserCommand posted s).Sane /\
      ∃ new : List BrowserCommand, new.Sublist [posted] /\
        (postBrowserCommand posted s).accepted = s.accepted ++ new /\
        (postBrowserCommand posted s).line = s.line ++ new /\
        (postBrowserCommand posted s).entriesLeft = s.entriesLeft := by
  by_cases refused : supported posted.command = false
  · have same : postBrowserCommand posted s = { s with postedAll := false } := by
      simp [postBrowserCommand, refused]
    rw [same]
    exact ⟨⟨sane.few, sane.known, sane.held⟩, [], by simp, by simp, by simp [line, underway], rfl⟩
  have good : supported posted.command = true := by simpa using refused
  by_cases known : s.uiTaskRunner = true
  · have same : postBrowserCommand posted s =
        { s with sending := some (.executeBrowserCommand posted), accepted := s.accepted ++ [posted] } := by
      simp [postBrowserCommand, good, known]
    have none_wait := sane.known known
    rw [same]
    refine ⟨⟨sane.few, sane.known, fun _ => none_wait⟩, [posted], List.Sublist.refl _, rfl, ?_, rfl⟩
    simp [line, underway, none_wait, free, commandsOf, UiTask.command?]
  by_cases full : kMaxPendingCommands <= s.pendingCommands.length
  · have same : postBrowserCommand posted s = { s with postedAll := false } := by
      simp [postBrowserCommand, good, known, full]
    rw [same]
    exact ⟨⟨sane.few, sane.known, sane.held⟩, [], by simp, by simp, by simp [line, underway], rfl⟩
  · have same : postBrowserCommand posted s =
        { s with pendingCommands := s.pendingCommands ++ [posted], accepted := s.accepted ++ [posted] } := by
      simp [postBrowserCommand, good, known, full]
    rw [same]
    refine ⟨⟨?_, fun now => absurd now known, fun kept => ?_⟩, [posted], List.Sublist.refl _, rfl, ?_, rfl⟩
    · have room : s.pendingCommands.length < kMaxPendingCommands := Nat.lt_of_not_le full
      simpa using room
    · exact absurd (by simp [free]) kept
    · simp [line, underway]

theorem postNext_spec (s : CommandBridge) (sane : s.Sane) (free : s.sending = none) :
    (postNext s).Sane /\
      ∃ new : List BrowserCommand, Adds s (postNext s) new /\ (postNext s).line = s.line ++ new := by
  rcases left : s.entries with _ | ⟨entry, rest⟩
  · have same : postNext s = s := by simp [postNext, left]
    rw [same]
    exact ⟨sane, [], ⟨by simp, by simp⟩, by simp⟩
  by_cases isDict : ∃ command, entry = .dict command
  · obtain ⟨command, rfl⟩ := isDict
    have same : postNext s = postBrowserCommand { widget := s.widget, command } { s with entries := rest } := by
      simp [postNext, left]
    have sane' : { s with entries := rest }.Sane := ⟨sane.few, sane.known, sane.held⟩
    obtain ⟨kept, new, small, accepted, lined, entries⟩ :=
      postBrowserCommand_spec { widget := s.widget, command } { s with entries := rest } sane' free
    rw [same]
    refine ⟨kept, new, ⟨accepted, ?_⟩, lined⟩
    rw [entries, entriesLeft_dict s command rest left]
    exact small.append_right _
  · have same : postNext s = { s with entries := rest, postedAll := false } := by
      cases entry <;> simp_all [postNext]
    have none_made : { s with entries := rest, postedAll := false }.entriesLeft = s.entriesLeft := by
      cases entry <;> simp_all [entriesLeft]
    rw [same]
    exact ⟨⟨sane.few, sane.known, sane.held⟩, [], ⟨by simp, by simp [none_made]⟩, by simp [line, underway]⟩

theorem notifyStarted_spec (s : CommandBridge) (sane : s.Sane) (idle : s.starting = []) :
    (notifyAuraShellBrowserStarted s).Sane /\ (notifyAuraShellBrowserStarted s).line = s.line := by
  refine ⟨⟨by simp [notifyAuraShellBrowserStarted], fun _ => rfl, fun _ => rfl⟩, ?_⟩
  have started : (notifyAuraShellBrowserStarted s).line =
      s.handed ++ (commandsOf s.tasks ++ s.pendingCommands ++ commandsOf s.sending.toList ++ []) := by
    simp only [line, underway, notifyAuraShellBrowserStarted, commandsOf_starting]
  rw [started]
  by_cases held : commandsOf s.sending.toList = []
  · simp [line, underway, idle, held]
  · simp [line, underway, idle, sane.held held]

theorem notifyPost_spec (s : CommandBridge) (sane : s.Sane) :
    (notifyPost s).Sane /\ (notifyPost s).line = s.line := by
  refine ⟨⟨sane.few, sane.known, sane.held⟩, ?_⟩
  have whole := commandsOf_split s.starting
  simp only [line, underway, notifyPost, commandsOf_append]
  rw [<- whole]
  simp only [List.append_assoc]

theorem runTask_spec (s : CommandBridge) (sane : s.Sane) :
    (runTask s).Sane /\ (runTask s).line = s.line := by
  refine ⟨⟨sane.few, sane.known, sane.held⟩, ?_⟩
  have whole := commandsOf_head_tail s.tasks
  simp only [line, underway, runTask]
  rw [<- whole]
  simp only [List.append_assoc]

theorem postTask_sane (s : CommandBridge) (sane : s.Sane) : (postTask s).Sane :=
  ⟨sane.few, sane.known, fun held => absurd rfl held⟩

theorem postTask_perm (s : CommandBridge) : (postTask s).line.Perm s.line := by
  have after : (postTask s).line = s.handed ++ (commandsOf s.tasks ++
      (commandsOf s.sending.toList ++ commandsOf s.starting) ++ s.pendingCommands) := by
    simp [line, underway, postTask]
  have before : s.line = s.handed ++ (commandsOf s.tasks ++
      (commandsOf s.starting ++ commandsOf s.sending.toList) ++ s.pendingCommands) := by
    simp [line, underway]
  rw [after, before]
  exact ((List.perm_append_comm.append_left _).append_right _).append_left _

theorem postTask_line (s : CommandBridge)
    (unhurried : commandsOf s.sending.toList = [] \/ commandsOf s.starting = []) :
    (postTask s).line = s.line := by
  rcases unhurried with none_sent | none_left
  · simp [line, underway, postTask, none_sent]
  · simp [line, underway, postTask, none_left]

/-- What holds after one step: of the commands it took in, those it accepted stand at the end of the line. -/
structure Stepped (s : CommandBridge) (step : Step) (t : CommandBridge) (new : List BrowserCommand) : Prop where
  sane : t.Sane
  accepted : t.accepted = s.accepted ++ new
  sublist : (new ++ t.entriesLeft).Sublist (s.entriesLeft ++ offeredBy step)
  perm : t.line.Perm (s.line ++ new)
  ordered : Unhurried s step -> t.line = s.line ++ new

theorem Stepped.still {s t : CommandBridge} {step : Step} (sane : t.Sane) (accepted : t.accepted = s.accepted)
    (entries : t.entriesLeft = s.entriesLeft) (line : t.line = s.line) : Stepped s step t [] where
  sane := sane
  accepted := by simp [accepted]
  sublist := by simp [entries]
  perm := by simp [line]
  ordered := fun _ => by simp [line]

variable {call : Step}

theorem Stepped.apart (sane : s.Sane) (runner : t.uiTaskRunner = s.uiTaskRunner)
    (pending : t.pendingCommands = s.pendingCommands)
    (sending : commandsOf t.sending.toList = commandsOf s.sending.toList) (handed : t.handed = s.handed)
    (tasks : t.tasks = s.tasks) (starting : t.starting = s.starting) (accepted : t.accepted = s.accepted)
    (entries : t.entriesLeft = s.entriesLeft) : Stepped s call t [] := by
  refine .still ⟨?_, ?_, ?_⟩ accepted entries (line_kept handed tasks starting pending sending)
  · simpa [pending] using sane.few
  · simpa [pending, runner] using sane.known
  · simpa [pending, sending] using sane.held

theorem shellIdle_sends (idle : s.shellIdle) : commandsOf s.sending.toList = [] := by
  rw [Option.isNone_iff_eq_none.mp idle.2]
  rfl

theorem navigate_stepped (widget : Nat) (url : Option String) (s : CommandBridge) (sane : s.Sane)
    (idle : s.shellIdle) :
    Stepped s (.navigateAuraShellBrowser widget url) (navigateAuraShellBrowser widget url s) [] := by
  have free := shellIdle_sends idle
  unfold navigateAuraShellBrowser
  split
  next => exact .still sane rfl rfl rfl
  next =>
    split
    next => exact .apart sane rfl rfl free.symm rfl rfl rfl rfl rfl
    next => exact .apart sane rfl rfl rfl rfl rfl rfl rfl rfl

theorem themeFont_stepped (fontId : String) (s : CommandBridge) (sane : s.Sane) (idle : s.shellIdle) :
    Stepped s (.notifyAuraShellThemeFontChanged fontId) (notifyAuraShellThemeFontChanged fontId s) [] := by
  have free := shellIdle_sends idle
  unfold notifyAuraShellThemeFontChanged
  split
  next => exact .still sane rfl rfl rfl
  next =>
    split
    next => exact .apart sane rfl rfl free.symm rfl rfl rfl rfl rfl
    next => exact .apart sane rfl rfl rfl rfl rfl rfl rfl rfl

theorem shutdown_stepped (s : CommandBridge) (sane : s.Sane) (idle : s.shellIdle) :
    Stepped s .shutdownAuraShellBrowser (shutdownAuraShellBrowser s) [] := by
  have free := shellIdle_sends idle
  unfold shutdownAuraShellBrowser
  split
  next => exact .apart sane rfl rfl free.symm rfl rfl rfl rfl rfl
  next => exact .apart sane rfl rfl rfl rfl rfl rfl rfl rfl

theorem next_stepped (s : CommandBridge) (step : Step) (sane : s.Sane) (allowed : Allowed s step) :
    ∃ new, Stepped s step (s.next step) new := by
  cases step with
  | executeAuraShellBrowserCommand widget parsed =>
    exact ⟨[], ⟨sane.few, sane.known, sane.held⟩, by simp [next, executeAuraShellBrowserCommand],
      List.sublist_append_right _ _,
      by simp [next, executeAuraShellBrowserCommand, line, underway],
      fun _ => by simp [next, executeAuraShellBrowserCommand, line, underway]⟩
  | navigateAuraShellBrowser widget url => exact ⟨[], navigate_stepped widget url s sane allowed⟩
  | notifyAuraShellThemeFontChanged fontId => exact ⟨[], themeFont_stepped fontId s sane allowed⟩
  | shutdownAuraShellBrowser => exact ⟨[], shutdown_stepped s sane allowed⟩
  | postNext =>
    obtain ⟨kept, new, adds, lined⟩ := postNext_spec s sane (Option.isNone_iff_eq_none.mp allowed.2)
    exact ⟨new, kept, adds.accepted, by simpa [offeredBy, next] using adds.sublist, by simp [next, lined],
      fun _ => lined⟩
  | postTask =>
    exact ⟨[], postTask_sane s sane, by simp [next, postTask],
      by simp [next, postTask, entriesLeft, offeredBy], by simpa [next] using postTask_perm s,
      fun unhurried => by simpa [next] using postTask_line s unhurried⟩
  | notifyAuraShellBrowserStarted =>
    obtain ⟨kept, lined⟩ := notifyStarted_spec s sane allowed
    exact ⟨[], .still kept rfl rfl lined⟩
  | notifyPost =>
    obtain ⟨kept, lined⟩ := notifyPost_spec s sane
    exact ⟨[], .still kept rfl rfl lined⟩
  | runTask =>
    obtain ⟨kept, lined⟩ := runTask_spec s sane
    exact ⟨[], .still kept rfl rfl lined⟩
  | notifyAuraShellBrowserStopped =>
    exact ⟨[], .still ⟨sane.few, fun known => absurd known Bool.false_ne_true, sane.held⟩ rfl rfl rfl⟩

/-- What every run keeps, of the commands `offered` to it. -/
structure InLine (offered : List BrowserCommand) (s : CommandBridge) : Prop where
  sane : s.Sane
  sublist : (s.accepted ++ s.entriesLeft).Sublist offered
  perm : s.line.Perm s.accepted

variable {offered : List BrowserCommand}

theorem InLine.step {step : Step}
    {new : List BrowserCommand} (inLine : InLine offered s) (stepped : Stepped s step t new) :
    InLine (offered ++ offeredBy step) t where
  sane := stepped.sane
  sublist := by
    have grown := (stepped.sublist.append_left s.accepted).trans
      (show (s.accepted ++ (s.entriesLeft ++ offeredBy step)).Sublist (offered ++ offeredBy step) by
        simpa using inLine.sublist.append_right (offeredBy step))
    simpa [stepped.accepted] using grown
  perm := by
    rw [stepped.accepted]
    exact stepped.perm.trans (inLine.perm.append_right new)

variable {steps : List Step}

theorem InLine.run
    (inLine : InLine offered s) (run : Follows Allowed next s steps) :
    InLine (offered ++ steps.flatMap offeredBy) (steps.foldl next s) := by
  induction steps generalizing s offered with
  | nil => simpa using inLine
  | cons step rest ih =>
    obtain ⟨new, stepped⟩ := next_stepped s step inLine.sane run.1
    have after := ih (inLine.step stepped) run.2
    simpa using after

theorem ordered_run (sane : s.Sane) (lined : s.line = s.accepted)
    (run : Follows Allowed next s steps) (unhurried : Follows Unhurried next s steps) :
    (steps.foldl next s).line = (steps.foldl next s).accepted := by
  induction steps generalizing s with
  | nil => exact lined
  | cons step rest ih =>
    obtain ⟨new, stepped⟩ := next_stepped s step sane run.1
    refine ih stepped.sane ?_ run.2 unhurried.2
    rw [stepped.ordered unhurried.1, stepped.accepted, lined]

theorem inLine_initial : InLine [] {} := ⟨⟨Nat.zero_le _, fun _ => rfl, fun _ => rfl⟩, by simp [entriesLeft], .nil⟩

theorem next_remaining (s : CommandBridge) (step : Step) (carries : carriesOn step) (allowed : Allowed s step) :
    (s.next step).remaining < s.remaining := by
  cases step with
  | postTask =>
    obtain ⟨task, sent⟩ := Option.isSome_iff_exists.mp allowed
    simp only [next, postTask, remaining, sent, Option.toList, List.length_append, List.length_cons,
      List.length_nil]
    omega
  | notifyPost =>
    obtain ⟨task, rest, left⟩ := List.exists_cons_of_ne_nil allowed
    simp only [next, notifyPost, remaining, left, List.tail_cons, List.head?_cons, Option.toList,
      List.length_append, List.length_cons, List.length_nil]
    omega
  | runTask =>
    obtain ⟨task, rest, left⟩ := List.exists_cons_of_ne_nil allowed.2
    simp only [next, runTask, remaining, left, List.tail_cons, List.length_cons]
    omega
  | executeAuraShellBrowserCommand => exact carries.elim
  | navigateAuraShellBrowser => exact carries.elim
  | notifyAuraShellThemeFontChanged => exact carries.elim
  | shutdownAuraShellBrowser => exact carries.elim
  | postNext => exact carries.elim
  | notifyAuraShellBrowserStarted => exact carries.elim
  | notifyAuraShellBrowserStopped => exact carries.elim

theorem carrying_on_ends
    (carries : ∀ step ∈ steps, carriesOn step) (run : Follows Allowed next s steps) :
    steps.length <= s.remaining := by
  induction steps generalizing s with
  | nil => exact Nat.zero_le _
  | cons step rest ih =>
    have fell := next_remaining s step (carries step List.mem_cons_self) run.1
    have later := ih (fun other member => carries other (List.mem_cons_of_mem _ member)) run.2
    exact Nat.succ_le_of_lt (Nat.lt_of_le_of_lt later fell)

def AtRest (s : CommandBridge) : Prop := forall step, carriesOn step -> ¬ Allowed s step

theorem underway_at_rest (sane : s.Sane) (known : s.uiTaskRunner = true)
    (rest : s.AtRest) : s.underway = [] := by
  have sent : s.sending = none := by
    simpa [Allowed] using rest .postTask trivial
  have started : s.starting = [] := by
    simpa [Allowed] using rest .notifyPost trivial
  have run : s.tasks = [] := by
    simpa [Allowed, started] using rest .runTask trivial
  simp [underway, sent, started, run, sane.known known]

instance decidableAllowed (s : CommandBridge) : (step : Step) -> Decidable (Allowed s step)
  | .executeAuraShellBrowserCommand _ _ | .navigateAuraShellBrowser _ _ | .notifyAuraShellThemeFontChanged _
  | .shutdownAuraShellBrowser => inferInstanceAs (Decidable (s.entries = [] /\ s.sending.isNone))
  | .postNext => inferInstanceAs (Decidable (s.entries ≠ [] /\ s.sending.isNone))
  | .postTask => inferInstanceAs (Decidable (s.sending.isSome = true))
  | .notifyAuraShellBrowserStarted | .notifyAuraShellBrowserStopped =>
    inferInstanceAs (Decidable (s.starting = []))
  | .notifyPost => inferInstanceAs (Decidable (s.starting ≠ []))
  | .runTask => inferInstanceAs (Decidable (s.starting = [] /\ s.tasks ≠ []))

/-- In every run the accepted commands are, but for their order, those handed out and those underway, each
once; where no command was posted ahead of one that waited, the order too is the one they were accepted in.
Nothing accepted stays underway once the UI thread is known and both threads have done what they had to. -/
theorem shell_commands_in_order (steps : List Step) (run : Follows Allowed next {} steps) :
    let s := steps.foldl next {}
    s.pendingCommands.length <= 64 /\
      s.accepted.Sublist (steps.flatMap offeredBy) /\
      (s.handed ++ s.underway).Perm s.accepted /\
      (forall more, (forall step, step ∈ more -> carriesOn step) -> Follows Allowed next s more ->
        more.length <= s.remaining) /\
      (s.uiTaskRunner = true -> s.AtRest -> s.handed.Perm s.accepted) /\
      (Follows Unhurried next {} steps ->
        s.handed ++ s.underway = s.accepted /\ s.handed <+: s.accepted /\
          (s.uiTaskRunner = true -> s.AtRest -> s.handed = s.accepted)) := by
  intro s
  have inLine : InLine (steps.flatMap offeredBy) s := by simpa using inLine_initial.run run
  have done := underway_at_rest inLine.sane
  refine ⟨inLine.sane.few, ?_, inLine.perm, fun more => carrying_on_ends, ?_, fun unhurried => ?_⟩
  · exact (List.sublist_append_left _ _).trans inLine.sublist
  · intro known rest
    have all := inLine.perm
    rwa [line, done known rest, List.append_nil] at all
  · have lined : s.handed ++ s.underway = s.accepted :=
      ordered_run inLine_initial.sane rfl run unhurried
    refine ⟨lined, ⟨_, lined⟩, fun known rest => ?_⟩
    rwa [done known rest, List.append_nil] at lined

def permissionState : DictValue := [("command", .string "systemPermissionState")]

def permissionAnswer : DictValue := [("command", .string "permissionResult")]

def permissionBatch : Step := .executeAuraShellBrowserCommand 1 (some (.list [.dict permissionState, .dict permissionAnswer]))

/-- A batch that waits as a whole. -/
def batchBefore : List Step :=
  [permissionBatch, .postNext, .postNext, .notifyAuraShellBrowserStarted, .notifyPost, .notifyPost, .notifyPost,
   .notifyPost, .runTask, .runTask, .runTask]

/-- The UI thread takes the first command of the batch; the shell's thread posts the second one meanwhile. -/
def batchDuring : List Step :=
  [permissionBatch, .postNext, .notifyAuraShellBrowserStarted, .postNext, .postTask, .notifyPost, .notifyPost,
   .notifyPost, .runTask, .runTask, .runTask, .runTask]

def namesOf (commands : List BrowserCommand) : List (Option String) :=
  commands.map fun posted => posted.command.findString "command"

theorem shell_commands_in_order_waiting :
    (batchBefore.foldl next {}).pendingCommands.length <= 64 /\
      (batchBefore.foldl next {}).handed <+: (batchBefore.foldl next {}).accepted /\
      namesOf (batchBefore.foldl next {}).handed = [some "systemPermissionState", some "permissionResult"] := by
  have whole := shell_commands_in_order batchBefore (by decide)
  refine ⟨whole.1, (whole.2.2.2.2.2 ?_).2.1, by decide⟩
  exact ⟨trivial, trivial, trivial, trivial, trivial, trivial, trivial, trivial, trivial, trivial, trivial, trivial⟩

theorem batch_turned_round :
    Follows Allowed next {} batchDuring /\
      namesOf (batchDuring.foldl next {}).accepted = [some "systemPermissionState", some "permissionResult"] /\
      namesOf (batchDuring.foldl next {}).handed = [some "permissionResult", some "systemPermissionState"] /\
      ¬ (batchDuring.foldl next {}).handed <+: (batchDuring.foldl next {}).accepted := by
  have accepted : namesOf (batchDuring.foldl next {}).accepted =
      [some "systemPermissionState", some "permissionResult"] := by decide
  have handed : namesOf (batchDuring.foldl next {}).handed =
      [some "permissionResult", some "systemPermissionState"] := by decide
  refine ⟨by decide, accepted, handed, fun inOrder => ?_⟩
  have names : namesOf (batchDuring.foldl next {}).handed <+: namesOf (batchDuring.foldl next {}).accepted :=
    inOrder.map _
  rw [accepted, handed] at names
  exact absurd names (by decide)

end CommandBridge

end ChromiumHmos.Shell
