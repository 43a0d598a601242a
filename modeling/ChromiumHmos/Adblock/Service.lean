import ChromiumHmos.Lib.Transition
import ChromiumHmos.Adblock.Config

set_option autoImplicit false

/-!
# The service of the ad blocker

It runs on the browser's thread. A worker reads, compiles and writes, one task after another; what
it compiled comes back as a task of its own.
-/

namespace ChromiumHmos.Adblock

open Base Std Transition
open UrlProtection (GURL UrlLibrary)

namespace Config

def setSourceEnabled (config : Config) (id : String) (enabled : Bool) : Config :=
  config.modify id fun source => { source with enabled }

-- `id` names a source or is that of a new one.
def saveSource (config : Config) (id name url : String) : Config :=
  let config := if (config.find id).isSome then config
    else { config with sources := config.sources ++ [{ id, kind := .subscription }] }
  config.modify id fun source =>
    let source := if source.url = url then source
      else { source with
        text := "", updated := 0, etag := "", modified := "", rules := 0, unsupported := 0
        status := .missing }
    { source with name, url }

def removeSource (config : Config) (id : String) : Config :=
  { config with sources := config.sources.filter fun source => source.id ≠ id }

def setUserRules (config : Config) (text : String) : Config := { config with user := text }

def importFile (config : Config) (id name text : String) (updated : Rat) : Config :=
  { config with sources := config.sources ++ [{ id, name, kind := .file, text, updated }] }

def updateText (config : Config) (id text : String) (updated : Rat) (etag modified : String) :
    Config :=
  config.modify id fun source => { source with text, updated, etag, modified }

def touchSource (config : Config) (id : String) (updated : Rat) : Config :=
  config.modify id fun source => { source with updated, status := .ready }

def failSource (config : Config) (id : String) : Config :=
  config.modify id fun source => { source with status := .failed }

end Config

/-- What a command or a download does to the sources and the user's rules. -/
inductive Edit
  | sourceEnabled (id : String) (enabled : Bool)
  | saved (id name url : String)
  | removed (id : String)
  | userRules (text : String)
  | imported (id name text : String) (updated : Rat)
  | downloaded (id text : String) (updated : Rat) (etag modified : String)
  | unchanged (id : String) (updated : Rat)

def Edit.apply (edit : Edit) (config : Config) : Config :=
  match edit with
  | .sourceEnabled id enabled => config.setSourceEnabled id enabled
  | .saved id name url => config.saveSource id name url
  | .removed id => config.removeSource id
  | .userRules text => config.setUserRules text
  | .imported id name text updated => config.importFile id name text updated
  | .downloaded id text updated etag modified => config.updateText id text updated etag modified
  | .unchanged id updated => config.touchSource id updated

inductive Change
  | enabled (value : Bool)
  | autoUpdate (value : Bool)
  | exception (host : String) (excepted : Bool)
  | content (edit : Edit)

def Change.apply (change : Change) (config : Config) : Config :=
  match change with
  | .enabled value => { config with enabled := value }
  | .autoUpdate value => { config with autoUpdate := value }
  | .exception host excepted =>
    { config with
      exceptions := if excepted then config.exceptions.insert host else config.exceptions.erase host }
  | .content edit => edit.apply config

inductive CommandName
  | setAdBlockEnabled
  | setAdBlockAutoUpdate
  | removeAdBlockException
  | updateAdBlockSources
  | setAdBlockSourceEnabled
  | saveAdBlockSource
  | removeAdBlockSource
  | setAdBlockUserRules
  | importAdBlockFile
  | setAdBlockSiteEnabled
  | other
deriving DecidableEq

structure Command where
  name : CommandName
  contextId : String := ""
  expectedRevision : Option Double := none
  enabled : Option Bool := none
  sourceId : String := ""
  text : Option String := none
  title : String := ""
  url : String := ""
  navigationId : String := ""

-- What the handler of `setAdBlockSiteEnabled` knows of the tab's page.
structure SitePage where
  navigation : String
  url : GURL
  pending : Bool

inductive ServiceEvent
  | asked (request : Nat) (command : Command)
  | replied (request : Nat) (reason : String) (line : Int)
  -- The initial load is over, and left this.
  | loaded (config : Config)
  | compiled (engine : Engine)
  | committed (request : Option Nat) (change : Change)
  -- The worker is to write this.
  | persisted (config : Config)

structure Loader where
  url : String
  etag : String
  modified : String

structure Compilation where
  persist : Bool
  reply : Option Nat
  -- The change the configuration was made for. None of the initial load.
  edit : Option Edit

inductive WorkerTask
  | restore
  | compile (job : Compilation) (config : Config)
  -- An opened file, and the configuration without its source.
  | importFile (reply : Nat) (id name : String) (config : Config)
  | write (data : DictValue)

structure AdblockService where
  context : String := ""
  config : Config := {}
  engine : Option Engine := none
  initialized : Bool := false
  busy : Bool := false
  error : String := ""
  active : String := ""
  queue : List String := []
  retry : String → Option Time := fun _ => none
  failures : String → Nat := fun _ => 0
  loader : Option Loader := none
  revision : Nat := 1
  worker : List WorkerTask := []
  -- `Installed`, posted back by the worker.
  replies : List (Compilation × Compiled) := []
  disk : Option DictValue := none
  requests : Nat := 0
  log : List ServiceEvent := []

def milliseconds (now : Time) : Rat := now / 1000

structure Response where
  status : Int
  data : Option Bytes
  etag : Option String
  modified : Option String

/-- What the worker finds: the file it imports, the engine's answer, the clock. -/
structure WorkAnswer where
  file : Option Bytes := none
  size : Int := 0
  engine : EngineAnswer
  now : Time := 0

/-- What the system answers to a command. -/
structure CommandAnswer where
  -- An `UnguessableToken`.
  token : String := ""
  opened : Bool := false

namespace AdblockService

variable (platform : AdblockPlatform)

def note (s : AdblockService) (event : ServiceEvent) : AdblockService :=
  { s with log := s.log ++ [event] }

def post (s : AdblockService) (task : WorkerTask) : AdblockService :=
  { s with worker := s.worker ++ [task] }

def changed (s : AdblockService) (persist : Bool) : AdblockService :=
  let s := { s with revision := s.revision + 1 }
  if persist then (s.note (.persisted s.config)).post (.write (s.config.value true)) else s

def rebuild (s : AdblockService) (job : Compilation) (next : Config) : AdblockService :=
  ({ s with busy := true, error := "" }.changed false).post (.compile job next)

def replyTo (s : AdblockService) (request : Nat) (reason : String) (line : Int) : AdblockService :=
  s.note (.replied request reason line)

-- `Config` is changed and written at once.
def commit (s : AdblockService) (request : Option Nat) (change : Change) : AdblockService :=
  ({ s with config := change.apply s.config }.note (.committed request change)).changed true

def queueSource (s : AdblockService) (id : String) : AdblockService :=
  match s.config.find id with
  | none => s
  | some source =>
    if source.url = "" ∨ id = s.active ∨ id ∈ s.queue then s
    else { s with queue := s.queue ++ [id] }

def nextDownload (config : Config) : List String → Option (String × Source × List String)
  | [] => none
  | id :: rest =>
    match (config.find id).filter fun source => source.kind ≠ .file with
    | some source => some (id, source, rest)
    | none => nextDownload config rest

def startNext (s : AdblockService) : AdblockService :=
  if s.busy ∨ s.loader.isSome ∨ s.queue = [] then s
  else
    match nextDownload s.config s.queue with
    | none => { s with queue := [], active := "" }
    | some (id, source, rest) =>
      { s with
        queue := rest
        active := id
        loader := some ⟨source.url, source.etag, source.modified⟩ }.changed false

-- The count of failures of a source, and when it may be tried again.
def noteFailure (s : AdblockService) (now : Time) : AdblockService :=
  let failures := min (s.failures s.active + 1) 7
  { s with
    failures := Function.update s.failures s.active failures
    retry := Function.update s.retry s.active (some (now + minutes (5 * 2 ^ failures))) }

def failed (s : AdblockService) (now : Time) : AdblockService :=
  let s := { s with loader := none, config := s.config.failSource s.active }.noteFailure now
  ({ s with active := "", error := "downloadFailed" }.changed false).startNext

def clearFailures (s : AdblockService) : AdblockService :=
  { s with failures := Function.update s.failures s.active 0 }

def shortHeader (header : Option String) : String :=
  match header with
  | none => ""
  | some header => if header.utf8ByteSize > 4096 then "" else header

def decodeText (data : Bytes) : String := (String.fromUTF8? ⟨data.toArray⟩).getD ""

-- The body of a download that can be used.
def downloadedText (response : Response) : Option String :=
  match response.data with
  | none => none
  | some data =>
    if response.status ≠ 200 ∨ data = [] ∨ ¬ platform.isStringUTF8 data then none
    else some (decodeText data)

def notModified (source : Source) (response : Response) : Bool :=
  response.status = 304 ∧ (source.text ≠ "" ∨ source.kind = .builtin)

def downloaded (s : AdblockService) (response : Response) (now : Time) : AdblockService :=
  match s.config.find s.active with
  | none => s.failed now
  | some source =>
    if notModified source response then
      let change : Change := .content (.unchanged s.active (milliseconds now))
      ({ s.clearFailures with loader := none, active := "", error := "" }.commit none
        change).startNext
    else
      match downloadedText platform response with
      | none => s.failed now
      | some text =>
        let edit : Edit := .downloaded s.active text (milliseconds now)
          (shortHeader response.etag) (shortHeader response.modified)
        { s.clearFailures with loader := none }.rebuild ⟨true, none, some edit⟩
          (edit.apply s.config)

def redirected (s : AdblockService) (url : GURL) (now : Time) : AdblockService :=
  if platform.subscriptionUrl url then s else s.failed now

def dueForUpdate (s : AdblockService) (now : Time) (source : Source) : Bool :=
  source.enabled ∧ source.kind ≠ .file ∧
    milliseconds now - source.updated ≥ milliseconds (days 1) ∧
    (s.retry source.id).all fun time => time ≤ now

def autoUpdate (s : AdblockService) (offline : Bool) (now : Time) : AdblockService :=
  if ¬ s.initialized ∨ s.busy ∨ ¬ s.config.enabled ∨ ¬ s.config.autoUpdate ∨ offline then s
  else
    ((s.config.sources.filter (s.dueForUpdate now)).foldl (fun s source => s.queueSource source.id)
      s).startNext

-- Exceptions and toggles can change while a compilation runs.
def merged (s : AdblockService) (compiled : Config) : Config :=
  if s.initialized then
    { compiled with
      enabled := s.config.enabled, autoUpdate := s.config.autoUpdate
      exceptions := s.config.exceptions }
  else compiled

def noteOutcome (s : AdblockService) (job : Compilation) (installed : Bool) : AdblockService :=
  match job.edit with
  | none => s.note (.loaded s.config)
  | some edit => if installed then s.note (.committed job.reply (.content edit)) else s

def install (s : AdblockService) (job : Compilation) (compiled : Compiled) (now : Time) :
    AdblockService :=
  match compiled.engine with
  | some engine =>
    ({ s with config := s.merged compiled.config, engine := some engine, error := "" }.note
      (.compiled engine)).noteOutcome job true
  | none =>
    let reason := if compiled.reason = "" then "compileFailed" else compiled.reason
    let s := { s with error := reason }
    let s := if (s.config.find s.active).isSome then
        { s with config := s.config.failSource s.active }.noteFailure now
      else s
    s.noteOutcome job false

def missingSubscriptions (config : Config) : List Source :=
  config.sources.filter fun source =>
    source.enabled ∧ source.kind = .subscription ∧ source.status = .missing

def installed (s : AdblockService) (job : Compilation) (compiled : Compiled) (now : Time) :
    AdblockService :=
  let s := { s with busy := false }.install job compiled now
  let done := job.persist ∧ s.error = ""
  let s := { s with initialized := true, active := "" }.changed done
  let s := match job.reply with
    | some request => s.replyTo request s.error compiled.errorLine
    | none => s
  let s := if done then
      (missingSubscriptions s.config).foldl (fun s source => s.queueSource source.id) s
    else s
  s.startNext

def checkRevision (s : AdblockService) (cmd : Command) : String :=
  if cmd.contextId ≠ s.context ∨ cmd.expectedRevision ≠ some (.finite s.revision) then "stale" else ""

-- The edit of a command that is compiled, or why there is none.
def editOf (s : AdblockService) (cmd : Command) (a : CommandAnswer) : Except String Edit :=
  let source := s.config.find cmd.sourceId
  match cmd.name with
  | .setAdBlockSourceEnabled =>
    match source, cmd.enabled with
    | some _, some enabled => .ok (.sourceEnabled cmd.sourceId enabled)
    | _, _ => .error "invalidSource"
  | .saveAdBlockSource =>
    let url := platform.parse cmd.url
    if cmd.title = "" ∨ cmd.title.utf8ByteSize > 240 ∨ ¬ platform.subscriptionUrl url then
      .error "invalidSource"
    else
      let spec := platform.toUrlLibrary.spec url
      match source with
      | some source =>
        if source.kind ≠ .subscription then .error "readOnly"
        else .ok (.saved cmd.sourceId cmd.title spec)
      | none =>
        if cmd.sourceId ≠ "" ∨ s.config.sources.length ≥ 32 then .error "limit"
        else .ok (.saved a.token cmd.title spec)
  | .removeAdBlockSource =>
    match source with
    | none => .error "invalidSource"
    | some source =>
      if source.kind = .builtin then .error "readOnly" else .ok (.removed cmd.sourceId)
  | .setAdBlockUserRules =>
    match cmd.text with
    | none => .error "invalidRules"
    | some text =>
      if ¬ platform.isStringUTF8 text.toUTF8.toList ∨ utf16Length text > 65536 then
        .error "limit"
      else .ok (.userRules text)
  | _ => .error "invalidRequest"

def importFile (s : AdblockService) (request : Nat) (cmd : Command) (a : CommandAnswer) :
    AdblockService :=
  if s.config.sources.length ≥ 32 then s.replyTo request "limit" 0
  else if ¬ a.opened then s.replyTo request "invalidFile" 0
  else if cmd.title = "" ∨ cmd.title.utf8ByteSize > 240 then s.replyTo request "invalidSource" 0
  else
    ({ s with busy := true }.changed false).post (.importFile request a.token cmd.title s.config)

def updateSources (s : AdblockService) (request : Nat) (cmd : Command) : AdblockService :=
  let id := cmd.sourceId
  if id ≠ "" ∧ (s.config.find id).all fun source => source.kind = .file then
    s.replyTo request "invalidSource" 0
  else
    let wanted := s.config.sources.filter fun source =>
      source.kind ≠ .file ∧ ((id = "" ∧ source.enabled) ∨ source.id = id)
    ((wanted.foldl (fun s source => s.queueSource source.id) s).startNext).replyTo request "" 0

def apply (s : AdblockService) (request : Nat) (change : Change) : AdblockService :=
  (s.commit (some request) change).replyTo request "" 0

def toggle (s : AdblockService) (request : Nat) (enabled : Option Bool) (change : Bool → Change) :
    AdblockService :=
  match enabled with
  | none => s.replyTo request "invalidRequest" 0
  | some value => s.apply request (change value)

def removeException (s : AdblockService) (request : Nat) (cmd : Command) : AdblockService :=
  let host := platform.normalizeHost (cmd.text.getD "")
  if host = "" then s.replyTo request "invalidSite" 0 else s.apply request (.exception host false)

def mutate (s : AdblockService) (request : Nat) (cmd : Command) (a : CommandAnswer) :
    AdblockService :=
  if s.checkRevision cmd ≠ "" then s.replyTo request (s.checkRevision cmd) 0
  else if ¬ s.initialized then s.replyTo request "initializing" 0
  else
    match cmd.name with
    | .setAdBlockEnabled => s.toggle request cmd.enabled .enabled
    | .setAdBlockAutoUpdate => s.toggle request cmd.enabled .autoUpdate
    | .removeAdBlockException => s.removeException platform request cmd
    | .updateAdBlockSources => s.updateSources request cmd
    | _ =>
      if s.busy ∨ s.loader.isSome then s.replyTo request "busy" 0
      else if cmd.name = .importAdBlockFile then s.importFile request cmd a
      else
        match s.editOf platform cmd a with
        | .error reason => s.replyTo request reason 0
        | .ok edit => s.rebuild ⟨true, some request, some edit⟩ (edit.apply s.config)

def setSite (s : AdblockService) (request : Nat) (url : GURL) (enabled : Bool) : AdblockService :=
  let host := platform.hostOf url
  if host = "" then s.replyTo request "invalidSite" 0
  else if ¬ enabled ∧ host ∉ s.config.exceptions ∧ s.config.exceptions.size ≥ 1000 then
    s.replyTo request "limit" 0
  else s.apply request (.exception host (!enabled))

-- The handler of `setAdBlockSiteEnabled`, with the page of its tab.
def setSiteEnabled (s : AdblockService) (request : Nat) (cmd : Command) (page : Option SitePage) :
    AdblockService :=
  match page with
  | none => s.replyTo request "invalidTab" 0
  | some page =>
    if s.checkRevision cmd ≠ "" then s.replyTo request (s.checkRevision cmd) 0
    else
      match cmd.enabled with
      | none => s.replyTo request "stale" 0
      | some enabled =>
        if page.navigation ≠ cmd.navigationId ∨ platform.hostOf page.url = "" ∨ page.pending then
          s.replyTo request "stale" 0
        else s.setSite platform request page.url enabled

def importedText (a : WorkAnswer) : Except (String × Int) String :=
  if a.size ≤ 0 ∨ a.size > kMaxBytes then .error ("invalidFile", 0)
  else
    match a.file with
    | none => .error ("invalidRules", 1)
    | some data =>
      if (data.length : Int) ≠ a.size ∨ ¬ platform.isStringUTF8 data then .error ("invalidRules", 1)
      else .ok (decodeText data)

def finish (s : AdblockService) (job : Compilation) (compiled : Compiled) : AdblockService :=
  { s with replies := s.replies ++ [(job, compiled)] }

def work (s : AdblockService) (a : WorkAnswer) : AdblockService :=
  match s.worker with
  | [] => s
  | task :: rest =>
    let s := { s with worker := rest }
    match task with
    | .restore =>
      s.finish ⟨false, none, none⟩ ((restore platform s.disk).compile a.engine)
    | .compile job config => s.finish job (config.compile a.engine)
    | .importFile reply id name config =>
      match importedText platform a with
      | .error (reason, line) =>
        s.finish ⟨true, some reply, some (.imported id name "" 0)⟩ ⟨config, none, reason, line⟩
      | .ok text =>
        let edit : Edit := .imported id name text (milliseconds a.now)
        s.finish ⟨true, some reply, some edit⟩ ((edit.apply config).compile a.engine)
    | .write data => { s with disk := some data }

def receive (s : AdblockService) (now : Time) : AdblockService :=
  match s.replies with
  | [] => s
  | (job, compiled) :: rest => { s with replies := rest }.installed job compiled now

/-- A new service for what is on the disk. -/
def construct (context : String) (disk : Option DictValue) : AdblockService :=
  { context, disk, busy := true, worker := [.restore] }

end AdblockService

inductive ServiceOp
  | mutate (command : Command) (answer : CommandAnswer)
  | setSiteEnabled (command : Command) (page : Option SitePage)
  | autoUpdate (offline : Bool) (now : Time)
  | downloaded (response : Response) (now : Time)
  | redirected (url : GURL) (now : Time)
  | work (answer : WorkAnswer)
  | receive (now : Time)

namespace AdblockService

variable (platform : AdblockPlatform)

-- A command is numbered as it comes in.
def ask (s : AdblockService) (command : Command) : AdblockService :=
  { s with requests := s.requests + 1 }.note (.asked s.requests command)

def next (s : AdblockService) : ServiceOp → AdblockService
  | .mutate command answer => (s.ask command).mutate platform s.requests command answer
  | .setSiteEnabled command page => (s.ask command).setSiteEnabled platform s.requests command page
  | .autoUpdate offline now => s.autoUpdate offline now
  | .downloaded response now => s.downloaded platform response now
  | .redirected url now => s.redirected platform url now
  | .work answer => s.work platform answer
  | .receive now => s.receive now

def permitted (s : AdblockService) : ServiceOp → Prop
  | .mutate command _ => command.name ≠ .setAdBlockSiteEnabled
  | .setSiteEnabled command _ => command.name = .setAdBlockSiteEnabled
  | .autoUpdate .. => True
  | .downloaded .. | .redirected .. => s.loader.isSome
  | .work _ => s.worker ≠ []
  | .receive _ => s.replies ≠ []

def step : AdblockService → ServiceOp → AdblockService → Prop :=
  guarded permitted (next platform)

end AdblockService

end ChromiumHmos.Adblock
