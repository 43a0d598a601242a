import ChromiumHmos.Adblock.PipelineOperations

set_option autoImplicit false

/-!
# Checks of network requests

A check asks the engine, on a sequence of its own, and is answered on the browser's thread. A
profile has its service; the service of its off-the-record profile asks the same engine, with a
revision and site overrides of its own.
-/

namespace ChromiumHmos.Adblock

open Base Std Transition
open UrlProtection (GURL UrlLibrary)

structure EngineQuery where
  url : String
  source : String
  type : String
  method : String

structure EngineResult where
  blocked : Bool := false
  redirect : String := ""
  rewrittenUrl : String := ""
  csp : String := ""
  redirectMissing : Bool := false

structure FilterPlatform extends AdblockPlatform where
  schemeIsWSOrWSS : GURL → Bool
  -- The engine's library, asked about one request.
  query : Engine → EngineQuery → EngineResult

-- `mojom::Decision`.
structure Decision where
  blocked : Bool := false
  redirect : String := ""
  rewrittenUrl : GURL := {}
  csp : String := ""
  reason : String := ""

inductive Owner
  | profile
  | offTheRecord
deriving DecidableEq

/-- What a check keeps while it is on its way. -/
structure Check where
  request : Nat
  owner : Owner
  -- A weak pointer.
  page : Option Nat
  navigation : String := ""
  revision : Nat := 0
  url : GURL
  site : GURL
  type : String
  method : String
  -- Whose life `alive` is about.
  host : Nat

/-- The service and the pages, when a decision is handed over. -/
structure Moment where
  revision : Nat
  engine : Option Engine
  active : Bool
  pages : Nat → Option String

inductive FilterEvent
  | asked (check : Check)
  | decided (check : Check) (decision : Decision) (moment : Moment)
  -- The owner of the request is gone.
  | dropped (check : Check)

structure FilterSystem where
  service : AdblockService
  -- `revision_` of the off-the-record service.
  childRevision : Nat := 1
  siteOverrides : ExtTreeMap String Bool := ∅
  -- `waiting_`, and how many other queries wait there.
  waiting : List Check := []
  otherWaiting : Nat := 0
  -- Posted to the engine's sequence, with the engine they are for.
  tasks : List (Engine × Check) := []
  answers : List (EngineResult × Check) := []
  -- The navigation of each page that lives.
  pages : Nat → Option String := fun _ => some ""
  alive : Nat → Bool := fun _ => true
  requests : Nat := 0
  log : List FilterEvent := []

namespace FilterSystem

def config (s : FilterSystem) : Config := s.service.config

def revision (s : FilterSystem) : Owner → Nat
  | .profile => s.service.revision
  | .offTheRecord => s.childRevision

section Eligible

variable (platform : FilterPlatform)

def siteEnabled (s : FilterSystem) (owner : Owner) (url : GURL) : Bool :=
  let host := platform.hostOf url
  match owner with
  | .profile => host ∉ s.config.exceptions
  | .offTheRecord => (s.siteOverrides[host]?).getD (host ∉ s.config.exceptions)

def eligible (s : FilterSystem) (owner : Owner) (url : GURL) : Bool :=
  s.config.enabled ∧ platform.hostOf url ≠ "" ∧ s.siteEnabled platform owner url

def active (s : FilterSystem) (owner : Owner) (url : GURL) : Bool :=
  s.eligible platform owner url ∧ s.service.engine.isSome ∧
    (s.config.userRuleCount > 0 ∨ s.config.sources.any fun source => source.enabled ∧ source.rules > 0)

end Eligible

def note (s : FilterSystem) (event : FilterEvent) : FilterSystem := { s with log := s.log ++ [event] }

def navigationOf (s : FilterSystem) (page : Option Nat) : Option String := page.bind s.pages

variable (platform : FilterPlatform)

def engineQuery (check : Check) : EngineQuery :=
  ⟨platform.toUrlLibrary.spec check.url, platform.toUrlLibrary.spec check.site, check.type, check.method⟩

def moment (s : FilterSystem) (check : Check) : Moment :=
  ⟨s.revision check.owner, s.service.engine, s.active platform check.owner check.site, s.pages⟩

-- The callback is run.
def run (s : FilterSystem) (check : Check) (decision : Decision) : FilterSystem :=
  s.note (.decided check decision (s.moment platform check))

def decision (result : EngineResult) : Decision :=
  { blocked := result.blocked
    redirect := result.redirect
    rewrittenUrl := platform.parse result.rewrittenUrl
    csp := result.csp
    reason := if result.redirectMissing then "missingRedirectResource" else "" }

-- `callback` is what an empty answer does at once.
def query (s : FilterSystem) (check : Check) (callback : EngineResult → FilterSystem) : FilterSystem :=
  if ¬ s.service.initialized ∧
      (check.owner = .offTheRecord ∨ s.waiting.length + s.otherWaiting < 4096) then
    { s with waiting := s.waiting ++ [check] }
  else
    match s.service.engine with
    | some engine =>
      if s.active platform check.owner check.site then
        { s with tasks := s.tasks ++ [(engine, check)] }
      else callback {}
    | none => callback {}

def checkRequest (s : FilterSystem) (check : Check)
    (callback : Check → EngineResult → FilterSystem) : FilterSystem :=
  if ¬ (platform.schemeIsHTTPOrHTTPS check.url ∨ platform.schemeIsWSOrWSS check.url) ∨
      ¬ s.eligible platform check.owner check.site then
    s.run platform check {}
  else
    let check := { check with
      navigation := (s.navigationOf check.page).getD ""
      revision := s.revision check.owner }
    s.query platform check (callback check)

-- The answer's end, under the revision it was asked for.
def finish (s : FilterSystem) (check : Check) (result : EngineResult) : FilterSystem :=
  s.run platform check
    (if s.active platform check.owner check.site then decision platform result else {})

/-- The answer to a check. One that is asked anew and answered at once has the current revision. -/
def respond (s : FilterSystem) (check : Check) (result : EngineResult) : FilterSystem :=
  if ¬ s.alive check.host then s.note (.dropped check)
  else if (s.navigationOf check.page).any (· ≠ check.navigation) then s.run platform check {}
  else if s.revision check.owner ≠ check.revision then
    s.checkRequest platform
      { check with page := if (s.navigationOf check.page).isSome then check.page else none }
      fun check result => s.finish platform check result
  else s.finish platform check result

def overrideSite (s : FilterSystem) (url : GURL) (enabled : Bool) : FilterSystem :=
  let host := platform.hostOf url
  if host = "" ∨ (host ∉ s.siteOverrides ∧ s.siteOverrides.size ≥ 1000) then s
  else
    { s with
      siteOverrides := s.siteOverrides.insert host enabled
      childRevision := s.childRevision + 1 }

-- The off-the-record service observes the other: each of its changes is one of its own.
def follow (s : FilterSystem) (service : AdblockService) : FilterSystem :=
  { s with service, childRevision := s.childRevision + (service.revision - s.service.revision) }

def runWaiting (s : FilterSystem) : FilterSystem :=
  s.waiting.foldl (fun s check => s.query platform check (s.respond platform check))
    { s with waiting := [], otherWaiting := 0 }

def serve (s : FilterSystem) (op : ServiceOp) : FilterSystem :=
  match op, s.service.replies with
  | .receive now, (job, compiled) :: rest =>
    let s' := (s.follow (s.service.told rest job compiled now)).runWaiting platform
    s'.follow (s.service.next platform.toAdblockPlatform op)
  | _, _ => s.follow (s.service.next platform.toAdblockPlatform op)

inductive FilterOp
  | service (op : ServiceOp)
  | overrideSite (url : GURL) (enabled : Bool)
  -- `request`, `navigation` and `revision` of the check are filled in.
  | check (check : Check)
  -- Another query that waits for the initial load.
  | otherQuery
  | answer (request : Nat)
  | deliver (request : Nat)
  | navigate (page : Nat) (navigation : String)
  | destroyPage (page : Nat)
  | destroyHost (host : Nat)

def ask (s : FilterSystem) (check : Check) : FilterSystem :=
  let check := { check with
    request := s.requests
    navigation := (s.navigationOf check.page).getD ""
    revision := s.revision check.owner }
  let s := { s with requests := s.requests + 1 }.note (.asked check)
  s.checkRequest platform check (s.respond platform)

def answer (s : FilterSystem) (request : Nat) : FilterSystem :=
  match s.tasks.find? fun task => task.2.request = request with
  | none => s
  | some (engine, check) =>
    { s with
      tasks := s.tasks.eraseP fun task => task.2.request = request
      answers := s.answers ++ [(platform.query engine (engineQuery platform check), check)] }

def deliver (s : FilterSystem) (request : Nat) : FilterSystem :=
  match s.answers.find? fun answer => answer.2.request = request with
  | none => s
  | some (result, check) =>
    { s with answers := s.answers.eraseP fun answer => answer.2.request = request }.respond
      platform check result

def next (s : FilterSystem) : FilterOp → FilterSystem
  | .service op => s.serve platform op
  | .overrideSite url enabled => s.overrideSite platform url enabled
  | .check check => s.ask platform check
  | .otherQuery => if s.service.initialized then s else { s with otherWaiting := s.otherWaiting + 1 }
  | .answer request => s.answer platform request
  | .deliver request => s.deliver platform request
  | .navigate page navigation => { s with pages := Function.update s.pages page (some navigation) }
  | .destroyPage page => { s with pages := Function.update s.pages page none }
  | .destroyHost host => { s with alive := Function.update s.alive host false }

def permitted (s : FilterSystem) : FilterOp → Prop
  | .service op => s.service.permitted op
  -- A check comes from a live page, if from any, and a live host.
  | .check check => s.alive check.host ∧ ∀ page, check.page = some page → (s.pages page).isSome
  | .answer request => ∃ task ∈ s.tasks, task.2.request = request
  | .deliver request => ∃ answer ∈ s.answers, answer.2.request = request
  | .navigate page _ => (s.pages page).isSome
  | _ => True

def step : FilterSystem → FilterOp → FilterSystem → Prop := guarded permitted (next platform)

def construct (context : String) (disk : Option DictValue) : FilterSystem :=
  { service := AdblockService.construct context disk }

end FilterSystem

end ChromiumHmos.Adblock
