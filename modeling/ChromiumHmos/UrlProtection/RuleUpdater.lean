import ChromiumHmos.Lib.Transition
import ChromiumHmos.UrlProtection.RuleUpdateFormat

set_option autoImplicit false

/-!
# The rule updater

`RuleUpdater` holds the fields of `RuleUpdater::Impl` beside the tasks of its worker and the
replies on their way back; `UpdaterHost` adds what outlives a process: the preference in
memory and on disk, and the cache file.
-/

namespace ChromiumHmos.UrlProtection

open Base

-- A file as `PathExists` and `ReadFileToStringWithMaxSize` see it.
inductive StoredFile
  | missing
  | unreadable
  | content (bytes : Bytes)
deriving Inhabited

def StoredFile.read (file : StoredFile) (limit : Nat) : Option Bytes :=
  match file with
  | .content bytes => if bytes.length ≤ limit then some bytes else none
  | _ => none

inductive RulesSource
  | none
  | package
  | download
deriving DecidableEq, Inhabited

structure InitialState where
  config : UpdateConfig := {}
  rules : LocalRules := {}
  sequence : Int := 0
  digest : String := ""
  source : RulesSource := .package

-- What one run of a worker task reads of the disk and the clock.
structure WorkerView where
  configFile : StoredFile
  rulesFile : StoredFile
  -- The downloaded temporary file.
  temporary : StoredFile
  packageNow : Time
  manifestNow : Time
  payloadNow : Time
  usableNow : Time
  -- Whether the directory and the atomic write succeed.
  writes : Bool

variable (platform : Platform)

def loadLocalRules (file : StoredFile) (now : Time) : LocalRules :=
  match file with
  | .missing => {}
  | file =>
    match file.read kMaxRuleBytes with
    | some json => parseLocalRules platform json now
    | none => { status := .invalid }

def loadConfig (file : StoredFile) : UpdateConfig :=
  match file with
  | .missing => parseUpdateConfig platform []
  | file => parseUpdateConfig platform ((file.read kMaxManifestBytes).getD (utf8 "invalid"))

-- The cached manifest and rules `Initialize` accepts.
def readRuleCache (cache : StoredFile) (config : UpdateConfig) (minimum : Int) (digest : String)
    (view : WorkerView) : Option (RuleManifest × LocalRules) :=
  if !config.valid then none
  else
    match (cache.read (kMaxRuleBytes + kMaxManifestBytes + 16)).bind decodeRuleCache with
    | none => none
    | some (manifestJson, payload) =>
      match verifyRuleManifest platform manifestJson config minimum view.manifestNow with
      | none => none
      | some manifest =>
        if acceptRuleSequence manifest minimum digest then
          (verifyRulePayload platform payload manifest view.payloadNow).map (manifest, ·)
        else none

def initializeRules (view : WorkerView) (cache : StoredFile) (minimum : Int) (digest : String)
    (loadRules : Bool) : InitialState :=
  let state : InitialState := { config := loadConfig platform view.configFile }
  if !loadRules then state
  else
    let state := { state with rules := loadLocalRules platform view.rulesFile view.packageNow }
    match readRuleCache platform cache state.config minimum digest view with
    | none => state
    | some (manifest, rules) =>
      let state := { state with sequence := manifest.sequence, digest := manifest.sha256 }
      if !state.rules.isUsable view.usableNow || rules.generated ≥ state.rules.generated then
        { state with rules := rules, source := .download }
      else state

structure InstalledRules where
  rules : Option LocalRules := none
  error : String := ""

-- The outcome, and the cache file where the atomic write took place.
def verifyAndInstall (view : WorkerView) (manifestJson : Bytes) (manifest : RuleManifest) :
    InstalledRules × Option Bytes :=
  match view.temporary.read kMaxRuleBytes with
  | none => ({ error := "read_failed" }, none)
  | some payload =>
    match verifyRulePayload platform payload manifest view.payloadNow with
    | none => ({ error := "invalid_payload" }, none)
    | some rules =>
      if view.writes then ({ rules := some rules }, some (encodeRuleCache manifestJson payload))
      else ({ error := "write_failed" }, none)

inductive WorkerTask
  | initializeRules (minimum : Int) (digest : String) (loadRules : Bool)
  | verifyAndInstall (manifestJson : Bytes) (manifest : RuleManifest)

inductive WorkerReply
  | initialized (loadedRules : Bool) (initial : InitialState)
  | installed (sequence : Int) (installed : InstalledRules)

-- The outstanding download, by its callback.
inductive UpdateLoader
  | manifest
  | payload
deriving DecidableEq

structure RuleUpdater where
  sequence : Int := 0
  digest : String := ""
  clients : Int := 0
  failures : Int := 0
  ready : Bool := false
  rulesLoaded : Bool := false
  initializingRules : Bool := false
  updating : Bool := false
  config : UpdateConfig := {}
  manifest : RuleManifest := {}
  manifestJson : Bytes := []
  rules : LocalRules := {}
  source : RulesSource := .none
  reason : String := ""
  lastCheck : Option Time := none
  lastSuccess : Option Time := none
  nextCheck : Option Time := none
  notBefore : TimeTicks := 0
  automaticDue : TimeTicks := 0
  -- When the running timer fires.
  timer : Option TimeTicks := none
  loader : Option UpdateLoader := none
  worker : List WorkerTask := []
  replies : List WorkerReply := []

def kWatermarkPref : String := "ohos.url_protection.rules_high_water"

structure UpdaterHost where
  updater : RuleUpdater := {}
  -- The dictionary under `kWatermarkPref`, and what the last flush left on disk.
  pref : DictValue := []
  disk : DictValue := []
  cache : StoredFile := .missing

structure Clock where
  now : Time
  ticks : TimeTicks
  -- The random part of the next delay.
  jitter : TimeDelta

namespace RuleUpdater

def schedule (u : RuleUpdater) (clock : Clock) (delay : TimeDelta) : RuleUpdater :=
  if !u.ready || !u.rulesLoaded || !u.config.valid || u.clients = 0 || u.updating then u
  else
    let delay := max (max delay (u.notBefore - clock.ticks)) (seconds 1)
    { u with
      nextCheck := some (clock.now + delay)
      automaticDue := clock.ticks + delay
      timer := some (clock.ticks + delay) }

def initializeState (u : RuleUpdater) (loadRules : Bool) : RuleUpdater :=
  { u with
    initializingRules := loadRules
    worker := u.worker ++ [.initializeRules u.sequence u.digest loadRules] }

def finish (u : RuleUpdater) (clock : Clock) : RuleUpdater :=
  { u with
    updating := false
    failures := 0
    reason := ""
    lastSuccess := some clock.now }.schedule clock (hours 6 + clock.jitter)

def fail (u : RuleUpdater) (clock : Clock) (reason : String) : RuleUpdater :=
  let failures := min (u.failures + 1) 7
  let delay := min (minutes (5 * 2 ^ (failures - 1).toNat)) (hours 6) + clock.jitter
  { u with
    updating := false
    reason := reason
    failures := failures
    notBefore := clock.ticks + delay }.schedule clock delay

def acquire (u : RuleUpdater) (clock : Clock) : RuleUpdater :=
  let u : RuleUpdater := { u with clients := u.clients + 1 }
  let u : RuleUpdater :=
    if !u.rulesLoaded && !u.initializingRules then
      let u := { u with rules := { status := .loading } }
      if u.ready then u.initializeState true else u
    else u
  if u.clients = 1 then u.schedule clock (max clock.jitter (u.automaticDue - clock.ticks)) else u

def release (u : RuleUpdater) : RuleUpdater :=
  if u.clients ≤ 0 then u
  else
    let u := { u with clients := u.clients - 1 }
    if u.clients ≠ 0 then u
    else
      let u := { u with timer := none, nextCheck := none }
      if u.loader.isSome then
        { u with loader := none, updating := false, reason := "cancelled" }
      else u

def requestUpdate (u : RuleUpdater) (clock : Clock) : String × RuleUpdater :=
  if !u.ready || !u.rulesLoaded then ("initializing", u)
  else if u.clients = 0 then ("disabled", u)
  else if !u.config.valid then (u.config.status.text, u)
  else if u.updating then ("already_updating", u)
  else if clock.ticks < u.notBefore then ("rate_limited", u)
  else
    ("", { u with
      timer := none
      nextCheck := none
      updating := true
      reason := ""
      lastCheck := some clock.now
      notBefore := clock.ticks + minutes 1
      loader := some .manifest })

def onManifest (u : RuleUpdater) (clock : Clock) (body : Option Bytes) : RuleUpdater :=
  let u := { u with loader := none }
  match body with
  | none => u.fail clock "manifest_download_failed"
  | some json =>
    match verifyRuleManifest platform json u.config u.sequence clock.now with
    | none => u.fail clock "invalid_manifest"
    | some manifest =>
      if manifest.generated < u.rules.generated then u.fail clock "stale_source"
      else if !acceptRuleSequence manifest u.sequence u.digest then u.fail clock "rollback"
      else if manifest.sequence = u.sequence && u.source == .download &&
          manifest.version == u.rules.version && u.rules.isUsable clock.now then
        u.finish clock
      else
        { u with manifestJson := json, manifest := manifest, loader := some .payload }

def onPayload (u : RuleUpdater) (clock : Clock) (arrived : Bool) : RuleUpdater :=
  let u := { u with loader := none }
  if !arrived then u.fail clock "rules_download_failed"
  else
    { u with
      worker := u.worker ++ [.verifyAndInstall u.manifestJson u.manifest]
      manifestJson := [] }

end RuleUpdater

namespace UpdaterHost

def persistWatermark (s : UpdaterHost) : UpdaterHost :=
  let pref := DictValue.set [] "sequence" (.int s.updater.sequence)
  { s with pref := DictValue.set pref "sha256" (.string s.updater.digest) }

-- The end of `OnInitialized`: the rules somebody waits for, or the next update.
def loadOrSchedule (s : UpdaterHost) (clock : Clock) : UpdaterHost :=
  if s.updater.clients ≠ 0 && !s.updater.rulesLoaded && !s.updater.initializingRules then
    { s with updater := s.updater.initializeState true }
  else { s with updater := s.updater.schedule clock clock.jitter }

def onInitialized (s : UpdaterHost) (clock : Clock) (loadedRules : Bool) (initial : InitialState) :
    UpdaterHost :=
  let s := { s with updater := { s.updater with ready := true, config := initial.config } }
  let s :=
    if loadedRules then
      let s := { s with updater :=
        { s.updater with
          rulesLoaded := true
          initializingRules := false
          rules := initial.rules
          source := if initial.rules.status = .missing then .none else initial.source } }
      if initial.sequence ≥ s.updater.sequence && initial.digest ≠ "" then
        { s with updater :=
          { s.updater with
            sequence := initial.sequence
            digest := initial.digest } }.persistWatermark
      else s
    else s
  s.loadOrSchedule clock

def onInstalled (s : UpdaterHost) (clock : Clock) (sequence : Int) (installed : InstalledRules) :
    UpdaterHost :=
  match installed.rules with
  | none => { s with updater := s.updater.fail clock installed.error }
  | some rules =>
    let s := { s with updater :=
      { s.updater with
        sequence := sequence
        digest := s.updater.manifest.sha256 } }.persistWatermark
    { s with updater := { s.updater with rules := rules, source := .download }.finish clock }

def work (s : UpdaterHost) (view : WorkerView) : UpdaterHost :=
  match s.updater.worker with
  | [] => s
  | .initializeRules minimum digest loadRules :: rest =>
    { s with updater :=
      { s.updater with
        worker := rest
        replies := s.updater.replies ++ [.initialized loadRules
          (initializeRules platform view s.cache minimum digest loadRules)] } }
  | .verifyAndInstall manifestJson manifest :: rest =>
    let (installed, written) := verifyAndInstall platform view manifestJson manifest
    { s with
      updater :=
        { s.updater with
          worker := rest
          replies := s.updater.replies ++ [.installed manifest.sequence installed] }
      cache :=
        match written with
        | some bytes => .content bytes
        | none => s.cache }

def reply (s : UpdaterHost) (clock : Clock) : UpdaterHost :=
  match s.updater.replies with
  | [] => s
  | .initialized loadedRules initial :: rest =>
    { s with updater := { s.updater with replies := rest } }.onInitialized clock loadedRules
      initial
  | .installed sequence installed :: rest =>
    { s with updater := { s.updater with replies := rest } }.onInstalled clock sequence installed

-- The sequence and digest the constructor reads.
def watermarkOf (pref : DictValue) : Int × String :=
  (max 0 ((pref.findInt "sequence").getD 0), (pref.findString "sha256").getD "")

-- A new process: the preference is read from disk, and nothing else survives but the cache.
def start (disk : DictValue) (cache : StoredFile) (assets : Bool) : UpdaterHost :=
  let (sequence, digest) := watermarkOf disk
  let updater : RuleUpdater := { sequence := sequence, digest := digest }
  let updater :=
    if assets then updater.initializeState false
    else { updater with ready := true, rulesLoaded := true, reason := "assets_unavailable" }
  { updater := updater, pref := disk, disk := disk, cache := cache }

end UpdaterHost

inductive UpdaterOp
  | acquire (clock : Clock)
  | release
  | requestUpdate (clock : Clock)
  | timer (clock : Clock)
  | manifest (clock : Clock) (body : Option Bytes)
  | payload (clock : Clock) (arrived : Bool)
  | work (view : WorkerView)
  | reply (clock : Clock)
  -- The preference store reaches the disk.
  | flush
  -- The cache file is lost, damaged or replaced by an older one.
  | tamper (cache : StoredFile)
  -- The process ends at any point, and another starts.
  | restart (assets : Bool)

namespace UpdaterHost

def next (s : UpdaterHost) : UpdaterOp → UpdaterHost
  | .acquire clock => { s with updater := s.updater.acquire clock }
  | .release => { s with updater := s.updater.release }
  | .requestUpdate clock => { s with updater := (s.updater.requestUpdate clock).2 }
  | .timer clock =>
    { s with updater := ({ s.updater with timer := none }.requestUpdate clock).2 }
  | .manifest clock body => { s with updater := s.updater.onManifest platform clock body }
  | .payload clock arrived => { s with updater := s.updater.onPayload clock arrived }
  | .work view => s.work platform view
  | .reply clock => s.reply clock
  | .flush => { s with disk := s.pref }
  | .tamper cache => { s with cache := cache }
  | .restart assets => start s.disk s.cache assets

def permitted (s : UpdaterHost) : UpdaterOp → Prop
  | .timer clock => ∃ due, s.updater.timer = some due ∧ due ≤ clock.ticks
  | .manifest .. => s.updater.loader = some .manifest
  | .payload .. => s.updater.loader = some .payload
  | _ => True

end UpdaterHost

end ChromiumHmos.UrlProtection
