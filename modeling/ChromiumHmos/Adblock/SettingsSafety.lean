import ChromiumHmos.Adblock.PipelineRuns

set_option autoImplicit false

/-!
# Saved settings

What is written is what the file held with the acknowledged changes, unless a site is switched
before the file was read.
-/

namespace ChromiumHmos.Adblock

open Base Std Transition History
open UrlProtection (GURL UrlLibrary)

def acknowledgedStep (config : Config) : ServiceEvent → Config
  | .committed _ change => (change.apply config).settings
  | _ => config

def acknowledged (first : Config) (log : List ServiceEvent) : Config :=
  log.foldl acknowledgedStep first.settings

def ServiceEvent.quiet : ServiceEvent → Bool
  | .asked .. | .replied .. | .compiled _ => true
  | _ => false

def LoadsFrom (first : Config) (log : List ServiceEvent) : Prop :=
  ∃ quiet config rest, log = quiet ++ .loaded config :: rest ∧
    (∀ event ∈ quiet, event.quiet = true) ∧ config.settings = first.settings

section Log

variable {first : Config} {log more : List ServiceEvent}

theorem LoadsFrom.grown (loads : LoadsFrom first log) (grown : log <+: more) :
    LoadsFrom first more := by
  obtain ⟨tail, rfl⟩ := grown
  obtain ⟨quiet, config, rest, rfl, silent, same⟩ := loads
  exact ⟨quiet, config, rest ++ tail, by simp, silent, same⟩

theorem acknowledged_quiet (silent : ∀ event ∈ log, event.quiet = true) (config : Config) :
    log.foldl acknowledgedStep config = config := by
  induction log with
  | nil => rfl
  | cons event rest ih =>
    have same : acknowledgedStep config event = config := by
      cases event with
      | committed request change => cases silent _ List.mem_cons_self
      | _ => rfl
    rw [List.foldl_cons, same]
    exact ih fun other mem => silent other (List.mem_cons_of_mem _ mem)

theorem wanted_later (once : log.countP ServiceEvent.isLoaded = 0) (config : Config) :
    log.foldl wantedStep config = log.foldl acknowledgedStep config := by
  induction log generalizing config with
  | nil => rfl
  | cons event rest ih =>
    have later : rest.countP ServiceEvent.isLoaded = 0 := by
      rw [List.countP_cons] at once
      omega
    have same : wantedStep config event = acknowledgedStep config event := by
      cases event with
      | loaded initial => simp [ServiceEvent.isLoaded] at once
      | _ => rfl
    rw [List.foldl_cons, List.foldl_cons, same, ih later]

theorem wanted_of_loads (loads : LoadsFrom first log)
    (once : log.countP ServiceEvent.isLoaded = 1) : wanted log = acknowledged first log := by
  obtain ⟨quiet, config, rest, rfl, silent, same⟩ := loads
  have none : rest.countP ServiceEvent.isLoaded = 0 := by
    have self : (ServiceEvent.loaded config).isLoaded = true := rfl
    rw [List.countP_append, List.countP_cons, if_pos self] at once
    omega
  rw [wanted, acknowledged, List.foldl_append, List.foldl_append, List.foldl_cons,
    List.foldl_cons, acknowledged_quiet silent, wanted_later none]
  exact congrArg (fun config => rest.foldl acknowledgedStep config) same

variable {before after : List ServiceEvent} {event : ServiceEvent}

theorem loadsFrom_before (loads : LoadsFrom first log) (split : log = before ++ event :: after) (loud : event.quiet = false)
    (other : event.isLoaded = false) : LoadsFrom first before := by
  obtain ⟨quiet, config, rest, rfl, silent, same⟩ := loads
  rcases List.append_eq_append_iff.mp split with ⟨middle, rfl, tail⟩ | ⟨middle, rfl, tail⟩
  · cases middle with
    | nil =>
      obtain ⟨rfl, -⟩ := List.cons.inj tail
      cases other
    | cons head middle =>
      obtain ⟨rfl, -⟩ := List.cons.inj tail
      exact ⟨quiet, config, middle, rfl, silent, same⟩
  · cases middle with
    | nil =>
      obtain ⟨rfl, -⟩ := List.cons.inj tail
      cases other
    | cons head middle =>
      obtain ⟨rfl, -⟩ := List.cons.inj tail
      have quiet := silent event (List.mem_append_right _ List.mem_cons_self)
      rw [loud] at quiet
      cases quiet

def ServiceEvent.lifts (host : String) : ServiceEvent → Prop
  | .committed _ (.exception other false) => other = host
  | _ => False

variable {config : Config} {host : String}

theorem acknowledgedStep_keeps
    (kept : ¬ event.lifts host) (excepted : host ∈ config.exceptions) :
    host ∈ (acknowledgedStep config event).exceptions := by
  cases event with
  | committed request change =>
    cases change with
    | exception other value =>
      cases value with
      | true => exact ExtTreeSet.mem_insert.mpr (.inr excepted)
      | false =>
        refine ExtTreeSet.mem_erase.mpr ⟨fun same => kept ?_, excepted⟩
        exact LawfulEqCmp.eq_of_compare same
    | content edit =>
      change host ∈ (edit.apply config).exceptions
      rw [(edit.apart config).2.2]
      exact excepted
    | _ => exact excepted
  | _ => exact excepted

theorem acknowledgedSteps_keep
    (kept : ∀ event ∈ log, ¬ event.lifts host) (excepted : host ∈ config.exceptions) :
    host ∈ (log.foldl acknowledgedStep config).exceptions := by
  induction log generalizing config with
  | nil => exact excepted
  | cons event rest ih =>
    exact ih (fun other mem => kept other (List.mem_cons_of_mem _ mem))
      (acknowledgedStep_keeps (kept event List.mem_cons_self) excepted)

theorem acknowledged_excepted {request : Option Nat} (split : log = before ++ .committed request (.exception host true) :: after)
    (kept : ∀ event ∈ after, ¬ event.lifts host) : host ∈ (acknowledged first log).exceptions := by
  rw [split, acknowledged, List.foldl_append, List.foldl_cons]
  exact acknowledgedSteps_keep kept ExtTreeSet.mem_insert_self

end Log

namespace AdblockService

variable (platform : AdblockPlatform)

def SiteAccepted (s : AdblockService) (command : Command) (page : Option SitePage) : Prop :=
  ∃ site enabled, page = some site ∧ command.enabled = some enabled ∧
    s.checkRevision command = "" ∧ site.navigation = command.navigationId ∧ ¬ site.pending ∧
    platform.hostOf site.url ≠ "" ∧
    (enabled ∨ platform.hostOf site.url ∈ s.config.exceptions ∨ s.config.exceptions.size < 1000)

def Patient (s : AdblockService) : ServiceOp → Prop
  | .setSiteEnabled command page => SiteAccepted platform s command page → s.initialized
  | _ => True

def Compiles (s : AdblockService) : ServiceOp → Prop
  | .work a => ∀ rest, s.worker = .restore :: rest →
      ((restore platform s.disk).compile a.engine).engine.isSome
  | _ => True

structure Loading (disk : Option DictValue) (s : AdblockService) : Prop where
  file : s.disk = disk
  unloaded : s.loader = none
  quiet : ∀ event ∈ s.log, event.quiet = true
  pending : (s.worker = [.restore] ∧ s.replies = []) ∨
    s.worker = [] ∧ ∃ compiled, s.replies = [(⟨false, none, none⟩, compiled)] ∧
      compiled.config.settings = (restore platform disk).settings ∧ compiled.engine.isSome

section Loading

variable {platform} {s : AdblockService} {disk : Option DictValue}

theorem Loading.quietly (loading : Loading platform disk s) {event : ServiceEvent}
    (quiet : event.quiet = true) : Loading platform disk (s.note event) := by
  refine ⟨loading.file, loading.unloaded, fun other mem => ?_, loading.pending⟩
  rcases List.mem_append.mp mem with mem | mem
  · exact loading.quiet other mem
  · rw [List.mem_singleton.mp mem]
    exact quiet

theorem Loading.ask (loading : Loading platform disk s) (command : Command) :
    Loading platform disk (s.ask command) := by
  have asked : Loading platform disk { s with requests := s.requests + 1 } :=
    ⟨loading.file, loading.unloaded, loading.quiet, loading.pending⟩
  exact asked.quietly rfl

theorem Loading.mutate (loading : Loading platform disk s) (fresh : s.initialized = false)
    (request : Nat) (command : Command) (a : CommandAnswer) :
    Loading platform disk (s.mutate platform request command a) := by
  unfold AdblockService.mutate
  split
  · exact loading.quietly rfl
  · rw [if_pos (by simp [fresh])]
    exact loading.quietly rfl

theorem Loading.setSiteEnabled (loading : Loading platform disk s) {request : Nat}
    {command : Command} {page : Option SitePage} (refused : ¬ SiteAccepted platform s command page) :
    Loading platform disk (s.setSiteEnabled platform request command page) := by
  unfold AdblockService.setSiteEnabled
  split
  · exact loading.quietly rfl
  · next site =>
    split
    · exact loading.quietly rfl
    · next fresh =>
      split
      · exact loading.quietly rfl
      · next enabled given =>
        split
        · exact loading.quietly rfl
        · next current =>
          unfold setSite
          dsimp only
          split
          · exact loading.quietly rfl
          · next named =>
            split
            · exact loading.quietly rfl
            · next room =>
              push Not at current fresh
              refine absurd ⟨site, enabled, rfl, given, fresh, current.1, ?_, named, ?_⟩ refused
              · exact current.2.2
              · cases enabled with
                | true => exact .inl rfl
                | false =>
                  by_cases mem : platform.hostOf site.url ∈ s.config.exceptions
                  · exact .inr (.inl mem)
                  · exact .inr (.inr (Nat.lt_of_not_le fun full => room ⟨by simp, mem, full⟩))

theorem Loading.work (loading : Loading platform disk s) {a : WorkAnswer}
    (compiles : s.Compiles platform (.work a)) : Loading platform disk (s.work platform a) := by
  rcases loading.pending with ⟨worker, replies⟩ | ⟨worker, compiled, replies, found⟩
  · have made := compiles [] worker
    have shape : s.work platform a = { s with
        worker := [], replies := [(⟨false, none, none⟩, (restore platform s.disk).compile a.engine)] } := by
      simp [AdblockService.work, worker, finish, replies]
    rw [shape]
    refine ⟨loading.file, loading.unloaded, loading.quiet, .inr ⟨rfl, _, rfl, ?_, made⟩⟩
    rw [loading.file]
    exact Config.compile_settings _ _
  · unfold AdblockService.work
    rw [worker]
    exact loading

theorem landing_loads {compiled : Compiled} {engine : Engine} (fresh : s.initialized = false)
    (found : compiled.engine = some engine) (rest : List (Compilation × Compiled)) (now : Time) :
    (s.landing rest ⟨false, none, none⟩ compiled now).log =
      s.log ++ [.compiled engine] ++ [.loaded compiled.config] := by
  simp [landing, install, found, noteOutcome, note, merged, fresh]

theorem Loading.receive (loading : Loading platform disk s) (fresh : s.initialized = false)
    (back : s.replies ≠ []) (now : Time) :
    (s.receive now).initialized = true /\ LoadsFrom (restore platform disk) (s.receive now).log := by
  rcases loading.pending with ⟨-, replies⟩ | ⟨-, compiled, replies, same, made⟩
  · exact absurd replies back
  · obtain ⟨engine, found⟩ := Option.isSome_iff_exists.mp made
    unfold AdblockService.receive
    rw [replies]
    refine ⟨(feeds_installed s [] _ compiled now).initialized, ?_⟩
    refine LoadsFrom.grown ?_ (landing_log s [] _ compiled now)
    rw [landing_loads fresh found]
    refine ⟨s.log ++ [.compiled engine], compiled.config, [], rfl, fun event mem => ?_, same⟩
    rcases List.mem_append.mp mem with mem | mem
    · exact loading.quiet event mem
    · rw [List.mem_singleton.mp mem]
      rfl

def LoadInv (platform : AdblockPlatform) (disk : Option DictValue) (s : AdblockService) : Prop :=
  (s.initialized = false → Loading platform disk s) ∧
    (s.initialized = true → LoadsFrom (restore platform disk) s.log)

theorem construct_load (context : String) (disk : Option DictValue) :
    LoadInv platform disk (construct context disk) := by
  refine ⟨fun _ => ⟨rfl, rfl, ?_, .inl ⟨rfl, rfl⟩⟩, ?_⟩
  · exact fun _ mem => by cases mem
  · exact fun ready => by cases ready

theorem loadInv_loading (fresh : s.initialized = false) (loading : Loading platform disk s) :
    LoadInv platform disk s := by
  refine ⟨fun _ => loading, fun ready => ?_⟩
  rw [fresh] at ready
  cases ready

theorem loadInv_loaded (ready : s.initialized = true)
    (loads : LoadsFrom (restore platform disk) s.log) : LoadInv platform disk s := by
  refine ⟨fun fresh => ?_, fun _ => loads⟩
  rw [ready] at fresh
  cases fresh

theorem next_loaded (ready : s.initialized = true)
    (loads : LoadsFrom (restore platform disk) s.log) (op : ServiceOp) :
    LoadInv platform disk (s.next platform op) := by
  have fed (feeds : Feeds s (s.next platform op)) : LoadInv platform disk (s.next platform op) :=
    loadInv_loaded (feeds.initialized.trans ready) (loads.grown feeds.log)
  cases op with
  | work a =>
    obtain ⟨log, initialized, -⟩ := work_kept platform s a
    refine loadInv_loaded (initialized.trans ready) ?_
    change LoadsFrom _ (s.work platform a).log
    rw [log]
    exact loads
  | receive now =>
    change LoadInv platform disk (s.receive now)
    unfold AdblockService.receive
    split
    · exact loadInv_loaded ready loads
    · next job compiled rest replies =>
      have feeds := feeds_installed s rest job compiled now
      exact loadInv_loaded feeds.initialized (loads.grown feeds.log)
  | _ => exact fed (feeds_next s (by simp) (by simp))

theorem next_loading (fresh : s.initialized = false) (loading : Loading platform disk s)
    {op : ServiceOp} (permitted : s.permitted op) (patient : s.Patient platform op)
    (compiles : s.Compiles platform op) : LoadInv platform disk (s.next platform op) := by
  have fed (feeds : Feeds s (s.next platform op)) (next : Loading platform disk (s.next platform op)) :
      LoadInv platform disk (s.next platform op) :=
    loadInv_loading (feeds.initialized.trans fresh) next
  cases op with
  | mutate command answer =>
    exact fed (feeds_next s (by simp) (by simp))
      ((loading.ask command).mutate (s := s.ask command) fresh _ _ _)
  | setSiteEnabled command page =>
    refine fed (feeds_next s (by simp) (by simp)) ?_
    refine (loading.ask command).setSiteEnabled (s := s.ask command) fun accepted => ?_
    have ready : s.initialized = true := patient accepted
    rw [fresh] at ready
    cases ready
  | autoUpdate offline now =>
    refine fed (feeds_next s (by simp) (by simp)) ?_
    change Loading platform disk (s.autoUpdate offline now)
    rw [autoUpdate, if_pos (by simp [fresh])]
    exact loading
  | downloaded response now =>
    have loader : s.loader.isSome := permitted
    rw [loading.unloaded] at loader
    cases loader
  | redirected url now =>
    have loader : s.loader.isSome := permitted
    rw [loading.unloaded] at loader
    cases loader
  | work a =>
    obtain ⟨-, initialized, -⟩ := work_kept platform s a
    exact loadInv_loading (initialized.trans fresh) (loading.work compiles)
  | receive now =>
    obtain ⟨ready, loads⟩ := loading.receive fresh permitted now
    exact loadInv_loaded ready loads

end Loading

end AdblockService

open AdblockService

structure SettingsSafe (platform : AdblockPlatform) (disk : Option DictValue)
    (s : AdblockService) : Prop where
  written : ∀ data, .write data ∈ s.worker → ∃ config, .persisted config ∈ s.log ∧
    data = config.value true
  persisted : ∀ before config after, s.log = before ++ .persisted config :: after →
    config.settings = acknowledged (restore platform disk) before
  kept : s.initialized → s.config.settings = acknowledged (restore platform disk) s.log
  excepted : s.initialized → ∀ before request host after,
    s.log = before ++ .committed request (.exception host true) :: after →
    (∀ event ∈ after, ¬ event.lifts host) → host ∈ s.config.exceptions
  judged : Throughout (Judged platform) s.log

def compilingStep (platform : AdblockPlatform) : AdblockService → ServiceOp → AdblockService → Prop :=
  guarded (fun s op => s.permitted op ∧ s.Compiles platform op) (next platform)

def patientStep (platform : AdblockPlatform) : AdblockService → ServiceOp → AdblockService → Prop :=
  guarded (fun s op => (s.permitted op ∧ s.Compiles platform op) ∧ s.Patient platform op)
    (next platform)

section

variable {platform : AdblockPlatform} {disk : Option DictValue} {s : AdblockService}

theorem settingsSafe_of (inv : CoreInv platform [] s) (load : LoadInv platform disk s) :
    SettingsSafe platform disk s := by
  have kept (ready : s.initialized = true) :
      s.config.settings = acknowledged (restore platform disk) s.log := by
    have once : s.log.countP ServiceEvent.isLoaded = 1 := by
      rw [inv.loads, ready]
      rfl
    rw [inv.kept, wanted_of_loads (load.2 ready) once]
  refine ⟨fun data mem => inv.tasks _ mem, ?_, kept, ?_, inv.judged⟩
  · intro before config after split
    have ready : s.initialized = true := by
      by_contra fresh
      have loading := load.1 (Bool.eq_false_iff.mpr fresh)
      have quiet := loading.quiet (.persisted config) (by rw [split]; simp)
      cases quiet
    have loads := loadsFrom_before (load.2 ready) split rfl rfl
    have once : before.countP ServiceEvent.isLoaded = 1 := by
      have total := inv.loads
      obtain ⟨quiet, first, rest, rfl, -, -⟩ := loads
      have self : (ServiceEvent.loaded first).isLoaded = true := rfl
      rw [ready, split, List.countP_append, List.countP_append, List.countP_cons, if_pos self] at total
      rw [List.countP_append, List.countP_cons, if_pos self]
      simp only [if_true] at total
      omega
    rw [<- wanted_of_loads loads once]
    exact inv.judged before _ after split
  · intro ready before request host after split unlifted
    have same := congrArg Config.exceptions (kept ready)
    change s.config.exceptions = _ at same
    rw [same]
    exact acknowledged_excepted split unlifted

end

/-- Where no site is switched before the file was read, no saved setting is lost. -/
theorem settings_safe (platform : AdblockPlatform) (context : String) (disk : Option DictValue)
    (trace : List (AdblockService × ServiceOp)) (s : AdblockService)
    (run : Trace (patientStep platform) (construct context disk) trace s) :
    SettingsSafe platform disk s := by
  have preserved (t : AdblockService) (op : ServiceOp) (u : AdblockService)
      (inv : (CoreInv platform [] t ∧ Settled t) ∧ LoadInv platform disk t)
      (moved : patientStep platform t op u) :
      (CoreInv platform [] u ∧ Settled u) ∧ LoadInv platform disk u := by
    obtain ⟨⟨⟨permitted, compiles⟩, patient⟩, rfl⟩ := moved
    refine ⟨next_inv inv.1.1 inv.1.2 permitted, ?_⟩
    cases ready : t.initialized with
    | true => exact next_loaded ready (inv.2.2 ready) op
    | false => exact next_loading ready (inv.2.1 ready) permitted patient compiles
  obtain ⟨⟨inv, -⟩, load⟩ := run.preserves preserved ⟨construct_inv context disk, construct_load context disk⟩
  exact settingsSafe_of inv load

def savedRules : DictValue := [("userRules", .string "||ads.example^")]

def switchSite (revision : Rat) : Command :=
  { name := .setAdBlockSiteEnabled, expectedRevision := some (.finite revision), enabled := some false }

def sitePage : SitePage := ⟨"", ⟨"https://example.com/"⟩, false⟩

-- A site is switched after the file was read.
theorem settings_safe_patient :
    ∃ s : AdblockService, s.config.user = "||ads.example^" ∧ "example.com" ∈ s.config.exceptions ∧
      SettingsSafe plainPlatform (some savedRules) s := by
  have made : ((restore plainPlatform (some savedRules)).compile { handle := true }).engine.isSome := by
    decide
  have follows : Follows (fun s op => (AdblockService.permitted s op ∧
        s.Compiles plainPlatform op) ∧ s.Patient plainPlatform op)
      (next plainPlatform) (construct "" (some savedRules))
      [.work { engine := { handle := true } }, .receive 0, .setSiteEnabled (switchSite 2) (some sitePage)] :=
    ⟨⟨⟨List.isEmpty_eq_false_iff.mp (by decide), fun _ _ => made⟩, trivial⟩,
      ⟨⟨List.isEmpty_eq_false_iff.mp (by decide), trivial⟩, trivial⟩,
      ⟨⟨rfl, trivial⟩, fun _ => by decide⟩, trivial⟩
  obtain ⟨trace, run, -⟩ := follows.trace
  exact ⟨_, by decide, by decide, settings_safe plainPlatform "" _ trace _ run⟩

-- A site is switched while the file is read: what is written has lost the user's rules.
theorem saved_rules_overwritten :
    ¬ ∀ (platform : AdblockPlatform) (context : String) (disk : Option DictValue)
      (trace : List (AdblockService × ServiceOp)) (s : AdblockService),
      Trace (compilingStep platform) (construct context disk) trace s → SettingsSafe platform disk s := by
  intro every
  have follows : Follows (fun s op => AdblockService.permitted s op ∧ s.Compiles plainPlatform op)
      (next plainPlatform) (construct "" (some savedRules))
      [.setSiteEnabled (switchSite 1) (some sitePage)] := ⟨⟨rfl, trivial⟩, trivial⟩
  obtain ⟨trace, run, -⟩ := follows.trace
  have safe := every plainPlatform "" (some savedRules) trace _ run
  have same := safe.persisted
    [.asked 0 (switchSite 1), .committed (some 0) (.exception "example.com" true)]
    ((Change.exception "example.com" true).apply {}) [.replied 0 "" 0] rfl
  have rules : "" = "||ads.example^" := congrArg Config.user same
  exact absurd rules (by decide)

end ChromiumHmos.Adblock
