import ChromiumHmos.UrlProtection.RuleUpdater
import ChromiumHmos.UrlProtection.SubscriptionRules

set_option autoImplicit false

/-!
# The subscriptions of a profile

`RuleSources` holds the fields of `RuleSources::Impl` beside the tasks of its worker and the
replies on their way back; `SourcesHost` adds the preference and the cache directory.
-/

namespace ChromiumHmos.UrlProtection

open Base

namespace RuleSources

structure Recommendation where
  id : String
  name : String
  url : String
  license : String
  attribution : String
  licenseUrl : String

def kRecommendations : List Recommendation :=
  [{ id := "hagezi-tif-mini"
     name := "HaGeZi Threat Intelligence Feeds Mini"
     url := "https://raw.githubusercontent.com/hagezi/dns-blocklists/main/wildcard/" ++
       "tif.mini-onlydomains.txt"
     license := "GPL-3.0"
     attribution := "HaGeZi DNS Blocklists"
     licenseUrl := "https://github.com/hagezi/dns-blocklists/blob/main/LICENSE" },
   { id := "phishdestroy-content"
     name := "PhishDestroy Active Content"
     url := "https://raw.githubusercontent.com/phishdestroy/destroylist/main/dns/" ++
       "content_active.txt"
     license := "MIT"
     attribution := "PhishDestroy contributors"
     licenseUrl := "https://github.com/phishdestroy/destroylist/blob/main/LICENSE" }]

def findRecommendation (id : String) : Option Recommendation :=
  kRecommendations.find? fun item => item.id == id

-- `String(value, key)`.
def stringOf (value : DictValue) (key : String) : String := (value.findString key).getD ""

structure Config where
  id : String := ""
  name : String := ""
  url : String := ""
  format : String := ""
  ruleType : String := ""
  recommendation : String := ""
  enabled : Bool := false
deriving Inhabited

namespace Config

def toValue (config : Config) : DictValue :=
  let item := findRecommendation config.recommendation
  [("sourceId", .string config.id),
   ("name", .string config.name),
   ("url", .string config.url),
   ("format", .string config.format),
   ("ruleType", .string config.ruleType),
   ("enabled", .bool config.enabled),
   ("recommendationId", .string config.recommendation),
   ("kind", .string (if item.isSome then "recommended" else "custom")),
   ("trust", .string "user_https"),
   ("signed", .bool false),
   ("license", .string ((item.map Recommendation.license).getD "unknown")),
   ("attribution", .string ((item.map Recommendation.attribution).getD "")),
   ("licenseUrl", .string ((item.map Recommendation.licenseUrl).getD ""))]

def fromValue (value : DictValue) : Config where
  id := stringOf value "sourceId"
  name := stringOf value "name"
  url := stringOf value "url"
  format := stringOf value "format"
  ruleType := stringOf value "ruleType"
  recommendation := stringOf value "recommendationId"
  enabled := (value.findBool "enabled").getD false

variable (platform : SubscriptionPlatform)

def validate (config : Config) : Bool :=
  if config.id = "" || config.id.utf8ByteSize > 64 ||
      !config.id.toList.all (fun c => c.isAlphanum || c == '-') ||
      config.name = "" || config.name.utf8ByteSize > 120 ||
      !platform.isStringUTF8 (utf8 config.name) ||
      (utf8 config.name).any (fun byte => byte < 32) ||
      !validSubscriptionEndpoint platform (platform.parse config.url) ||
      !validSubscriptionFormat config.format config.ruleType then false
  else if config.recommendation = "" then true
  else
    match findRecommendation config.recommendation with
    | some item =>
      config.url == item.url && config.format == "domains" && config.ruleType == "host_suffix"
    | none => false

-- What a cache file is bound to.
structure Feed where
  url : String
  format : String
  ruleType : String
deriving DecidableEq

def feed (config : Config) : Feed where
  url := config.url
  format := config.format
  ruleType := config.ruleType

end Config

structure Entry where
  config : Config
  rules : Option SubscriptionRules := none
  error : String := ""
  revision : Int := 1
  generation : Int := 0
  failures : Int := 0
  lastCheck : Time := 0
  due : Time
  notBefore : Time := 0

-- A cache file, and the feed it was written for.
structure CacheFile where
  file : StoredFile
  feed : Option Config.Feed

abbrev CacheDirectory := Std.ExtTreeMap String CacheFile

variable (platform : SubscriptionPlatform)

def readCache (file : StoredFile) (config : Config) (now : Time) : SubscriptionRules :=
  match file.read (kSubscriptionMaxBytes + kMaxManifestBytes + 16) with
  | some cache =>
    decodeSubscriptionCache platform cache (platform.parse config.url) config.format
      config.ruleType now
  | none => cacheInvalid

def restoreAll (cache : CacheDirectory) (now : Time) (total : Nat) :
    List Config → List (String × SubscriptionRules)
  | [] => []
  | config :: rest =>
    match (cache[config.id]?).map CacheFile.file with
    | none | some .missing => restoreAll cache now total rest
    | some file =>
      let rules := readCache platform file config now
      let rules : SubscriptionRules :=
        if total + rules.capacity > kSubscriptionTotalRecords then
          { error := "total_record_limit" }
        else rules
      (config.id, rules) :: restoreAll cache now (total + rules.capacity) rest

def restore (cache : CacheDirectory) (now : Time) (configs : List Config) :
    Std.ExtTreeMap String SubscriptionRules :=
  (restoreAll platform cache now 0 configs).foldl
    (fun restored entry => restored.insertIfNew entry.1 entry.2) ∅

structure ParsedDownload where
  rules : Option SubscriptionRules := none
  raw : Bytes := []
  error : String := ""

def parseDownload (temporary : StoredFile) (config : Config) (now : Time) : ParsedDownload :=
  match temporary.read kSubscriptionMaxBytes with
  | none => { error := "read_failed" }
  | some raw =>
    let rules := parseSubscriptionRules platform raw config.format config.ruleType now
    { rules := if rules.error = "" then some rules else none, raw := raw, error := rules.error }

-- The file `Install` writes, if it writes one.
def install (writes : Bool) (config : Config) (rules : SubscriptionRules) (raw : Bytes) :
    Option CacheFile :=
  let cache :=
    encodeSubscriptionCache platform (platform.parse config.url) config.format rules raw
  if cache ≠ [] ∧ writes then
    some
      { file := .content cache
        feed := some { url := config.url, format := config.format, ruleType := rules.ruleType } }
  else none

inductive Task
  | restore (configs : List Config)
  | parseDownload (id : String) (generation : Int) (config : Config)
  | install (id : String) (generation : Int) (config : Config) (rules : SubscriptionRules)
      (raw : Bytes)
  | deleteCache (id : String)
  | deleteTemporary

inductive Reply
  | restored (restored : Std.ExtTreeMap String SubscriptionRules)
  | parsed (id : String) (generation : Int) (parsed : ParsedDownload)
  | installed (id : String) (generation : Int) (rules : SubscriptionRules) (success : Bool)

end RuleSources

open RuleSources in
structure RuleSources where
  entries : Std.ExtTreeMap String Entry := ∅
  clients : Int := 0
  revision : Int := 1
  ready : Bool := false
  active : String := ""
  -- The id and the generation the callback of the download is bound to.
  loader : Option (String × Int) := none
  -- When the running timer fires.
  timer : Option TimeTicks := none
  worker : List Task := []
  replies : List RuleSources.Reply := []

namespace RuleSources

def enabledDue (next : Time) (entry : String × Entry) : Time :=
  if entry.2.config.enabled ∧ (next = 0 ∨ entry.2.due < next) then entry.2.due else next

def schedule (s : RuleSources) (clock : Clock) : RuleSources :=
  let s := { s with timer := none }
  if !s.ready || s.clients = 0 || s.active ≠ "" then s
  else
    -- Zero is the null time.
    let next := s.entries.toList.foldl enabledDue 0
    if next ≠ 0 then { s with timer := some (clock.ticks + max (seconds 1) (next - clock.now)) }
    else s

def onRestored (s : RuleSources) (clock : Clock)
    (restored : Std.ExtTreeMap String SubscriptionRules) : RuleSources :=
  let adopt (id : String) (entry : Entry) : Entry :=
    match restored[id]? with
    | none => entry
    | some rules =>
      if rules.error ≠ "" then { entry with error := rules.error }
      else
        { entry with
          rules := some rules
          due := max (clock.now + seconds 15) (rules.fetched + hours 8) }
  { s with entries := s.entries.map adopt, ready := true }.schedule clock

def acquire (s : RuleSources) (clock : Clock) : RuleSources :=
  { s with clients := s.clients + 1 }.schedule clock

def release (s : RuleSources) : RuleSources :=
  if s.clients ≤ 0 then s
  else
    let s : RuleSources := { s with clients := s.clients - 1 }
    if s.clients ≠ 0 then s
    else
      let s := { s with timer := none }
      match s.entries[s.active]? with
      | none => s
      | some entry =>
        if s.active = "" then s
        else
          let entry := { entry with generation := entry.generation + 1, error := "cancelled" }
          { s with entries := s.entries.insert s.active entry, active := "", loader := none }

-- `Refresh` of an id and its entry.
def refresh (s : RuleSources) (clock : Clock) (id : String) (entry : Entry) :
    String × RuleSources :=
  if s.clients = 0 || !entry.config.enabled then ("disabled", s)
  else if s.active = id then ("already_updating", s)
  else if s.active ≠ "" then ("busy", s)
  else if entry.notBefore > clock.now then ("rate_limited", s)
  else
    let entry :=
      { entry with
        generation := entry.generation + 1
        lastCheck := clock.now
        notBefore := clock.now + minutes 1
        due := clock.now + minutes 1
        error := "" }
    ("", { s with
      timer := none
      active := id
      entries := s.entries.insert id entry
      loader := some (id, entry.generation) })

def tick (s : RuleSources) (clock : Clock) : RuleSources :=
  let s := { s with timer := none }
  match s.entries.toList.find? fun entry => entry.2.config.enabled && entry.2.due ≤ clock.now with
  | some (id, entry) => (s.refresh clock id entry).2
  | none => s.schedule clock

def current (s : RuleSources) (id : String) (generation : Int) : Option Entry :=
  match s.entries[id]? with
  | none => none
  | some entry =>
    if entry.generation = generation ∧ s.active = id ∧ s.clients ≠ 0 ∧
        entry.config.enabled = true then some entry
    else none

-- `Fail` of the entry `Current` found.
def fail (s : RuleSources) (clock : Clock) (id : String) (entry : Entry) (error : String) :
    RuleSources :=
  let failures := min (entry.failures + 1) 7
  let notBefore := clock.now + min (minutes (5 * 2 ^ (failures - 1).toNat)) (hours 6)
  let entry :=
    { entry with
      error := error
      failures := failures
      notBefore := notBefore
      due := notBefore + clock.jitter }
  { s with entries := s.entries.insert id entry, active := "" }.schedule clock

def onDownloaded (s : RuleSources) (clock : Clock) (id : String) (generation : Int)
    (arrived : Bool) : RuleSources :=
  match s.current id generation with
  | none => if arrived then { s with worker := s.worker ++ [.deleteTemporary] } else s
  | some entry =>
    let s := { s with loader := none }
    if !arrived then s.fail clock id entry "download_failed"
    else { s with worker := s.worker ++ [.parseDownload id generation entry.config] }

-- The records of every entry but one.
def otherRecords (s : RuleSources) (id : String) : Nat :=
  ((s.entries.toList.filter fun other => other.1 ≠ id).map fun other =>
    (other.2.rules.map SubscriptionRules.capacity).getD 0).sum

def onParsed (s : RuleSources) (clock : Clock) (id : String) (generation : Int)
    (parsed : ParsedDownload) : RuleSources :=
  match s.current id generation with
  | none => s
  | some entry =>
    match parsed.rules with
    | none => s.fail clock id entry parsed.error
    | some rules =>
      if rules.capacity + s.otherRecords id > kSubscriptionTotalRecords then
        s.fail clock id entry "total_record_limit"
      else
        { s with worker := s.worker ++ [.install id generation entry.config rules parsed.raw] }

def onInstalled (s : RuleSources) (clock : Clock) (id : String) (generation : Int)
    (rules : SubscriptionRules) (success : Bool) : RuleSources :=
  match s.current id generation with
  | none => s
  | some entry =>
    if !success then s.fail clock id entry "write_failed"
    else
      let entry :=
        { entry with
          rules := some rules
          error := ""
          failures := 0
          revision := entry.revision + 1
          due := clock.now + hours 8 + clock.jitter }
      { s with
        entries := s.entries.insert id entry
        revision := s.revision + 1
        active := "" }.schedule clock

def deleteCache (s : RuleSources) (id : String) : RuleSources :=
  { s with worker := s.worker ++ [.deleteCache id] }

variable (platform : SubscriptionPlatform)

-- Another entry with the same list and the same use of it.
def duplicate (s : RuleSources) (own : Option String) (config : Config) : Bool :=
  s.entries.toList.any fun other =>
    some other.1 ≠ own && other.2.config.url == config.url &&
      other.2.config.ruleType == config.ruleType

def addedConfig (s : RuleSources) (token : String) (command : DictValue) :
    Except String Config :=
  if s.entries.size ≥ kSubscriptionMaxSources then .error "source_limit"
  else
    let recommendation := stringOf command "recommendationId"
    let config : Option Config :=
      if recommendation ≠ "" then
        (findRecommendation recommendation).map fun item =>
          { id := token
            name := item.name
            url := item.url
            format := "domains"
            ruleType := "host_suffix"
            recommendation := recommendation }
      else
        some
          { id := token
            name := stringOf command "name"
            url := platform.spec (platform.parse (stringOf command "url"))
            format := stringOf command "format"
            ruleType := stringOf command "ruleType" }
    match config with
    | none => .error "invalid_recommendation"
    | some config =>
      match command.findBool "enabled" with
      | none => .error "invalid_request"
      | some enabled =>
        let config := { config with enabled := enabled }
        if !config.validate platform then .error "invalid_request"
        else if s.duplicate none config then .error "duplicate_source"
        else .ok config

def updatedConfig (s : RuleSources) (id : String) (config : Config) (command : DictValue) :
    Except String Config :=
  let config : Config :=
    { config with
      name := (command.findString "name").getD config.name
      url := ((command.findString "url").map fun url => platform.spec (platform.parse url)).getD
        config.url
      format := (command.findString "format").getD config.format
      ruleType := (command.findString "ruleType").getD config.ruleType
      enabled := (command.findBool "enabled").getD config.enabled }
  if ["name", "url", "format", "ruleType"].any fun key =>
      command.contains key && (command.findString key).isNone then .error "invalid_request"
  else if (command.contains "enabled" && (command.findBool "enabled").isNone) ||
      !config.validate platform then .error "invalid_request"
  else if s.duplicate (some id) config then .error "duplicate_source"
  else .ok config

-- The interruption of a refresh of this entry, before it is removed or updated.
def interrupt (s : RuleSources) (id : String) : RuleSources :=
  if s.active = id then { s with active := "", loader := none }.deleteCache id else s

def remove (s : RuleSources) (id : String) : RuleSources :=
  let s := (s.interrupt id).deleteCache id
  { s with entries := s.entries.erase id }

def update (s : RuleSources) (clock : Clock) (id : String) (entry : Entry) (config : Config) :
    RuleSources :=
  let s := s.interrupt id
  let changed := decide (config.feed ≠ entry.config.feed)
  let s := if changed then s.deleteCache id else s
  let entry :=
    { entry with
      generation := entry.generation + 1
      rules := if changed then none else entry.rules
      config := config
      revision := entry.revision + 1
      error := ""
      due := max entry.notBefore (clock.now + seconds 15) }
  { s with entries := s.entries.insert id entry }

def add (s : RuleSources) (clock : Clock) (config : Config) : RuleSources :=
  { s with entries :=
    s.entries.insertIfNew config.id { config := config, due := clock.now + seconds 15 } }

end RuleSources

def kSourcesPref : String := "ohos.url_protection.subscriptions"

open RuleSources in
structure SourcesHost where
  sources : RuleSources := {}
  -- The list under `kSourcesPref`.
  pref : List Value := []
  cache : CacheDirectory := ∅
  -- Every id an entry has had; a new token is none of them.
  issued : List String := []

namespace SourcesHost

open RuleSources

variable (platform : SubscriptionPlatform)

def persist (s : SourcesHost) : SourcesHost :=
  { s with pref := s.sources.entries.toList.map fun entry => .dict entry.2.config.toValue }

-- The end of `Mutate`, once the entries changed.
def commit (s : SourcesHost) (clock : Clock) (sources : RuleSources) : SourcesHost :=
  let s : SourcesHost :=
    { s with sources := { sources with revision := sources.revision + 1 } }
  let s := s.persist
  { s with sources := s.sources.schedule clock }

def mutate (s : SourcesHost) (clock : Clock) (modifiable : Bool) (token : String)
    (action : String) (command : DictValue) : String × SourcesHost :=
  let id := stringOf command "sourceId"
  if !s.sources.ready then ("initializing", s)
  else if command.findInt "expectedRevision" ≠ some s.sources.revision then ("stale_sources", s)
  else if !modifiable then ("managed", s)
  else if action = "addProtectionRuleSource" then
    match s.sources.addedConfig platform token command with
    | .error reason => (reason, s)
    | .ok config =>
      ("", { s with issued := config.id :: s.issued }.commit clock (s.sources.add clock config))
  else
    match s.sources.entries[id]? with
    | none => ("unknown_source", s)
    | some entry =>
      if action = "refreshProtectionRuleSource" then
        let (reason, sources) := s.sources.refresh clock id entry
        (reason, { s with sources := sources })
      else if action = "updateProtectionRuleSource" then
        match s.sources.updatedConfig platform id entry.config command with
        | .error reason => (reason, s)
        | .ok config => ("", s.commit clock (s.sources.update clock id entry config))
      else if action = "removeProtectionRuleSource" then
        ("", s.commit clock (s.sources.remove id))
      else ("invalid_request", s)

-- The configurations the constructor keeps of the preference.
def loadConfigs (entries : Std.ExtTreeMap String Entry) (clock : Clock) :
    List Value → Std.ExtTreeMap String Entry × List Config
  | [] => (entries, [])
  | value :: rest =>
    match value with
    | .dict dict =>
      let config := Config.fromValue dict
      if entries.size ≥ kSubscriptionMaxSources || !config.validate platform ||
          entries.contains config.id then loadConfigs entries clock rest
      else
        let entry : Entry := { config := config, due := clock.now + seconds 15 }
        let (entries, configs) := loadConfigs (entries.insert config.id entry) clock rest
        (entries, config :: configs)
    | _ => loadConfigs entries clock rest

-- A new process with the stored preference; the files count for the feeds they will be read for.
def start (clock : Clock) (pref : List Value) (files : Std.ExtTreeMap String StoredFile) :
    SourcesHost :=
  let (entries, configs) := loadConfigs platform ∅ clock pref
  { sources := { entries := entries, worker := [.restore configs] }
    pref := pref
    cache := files.map fun id file =>
      { file := file, feed := (entries[id]?).map fun entry => entry.config.feed }
    issued := entries.keys }

-- What one run of a worker task reads of the disk and the clock.
structure WorkerView where
  temporary : StoredFile
  now : Time
  -- Whether the directory and the atomic write succeed.
  writes : Bool

def work (s : SourcesHost) (view : WorkerView) : SourcesHost :=
  match s.sources.worker with
  | [] => s
  | task :: rest =>
    let done (replies : List RuleSources.Reply) : RuleSources :=
      { s.sources with worker := rest, replies := s.sources.replies ++ replies }
    match task with
    | .restore configs =>
      let restored := restore platform s.cache view.now configs
      { s with sources := done [.restored restored] }
    | .parseDownload id generation config =>
      let parsed := parseDownload platform view.temporary config view.now
      { s with sources := done [.parsed id generation parsed] }
    | .install id generation config rules raw =>
      match install platform view.writes config rules raw with
      | some file =>
        { s with
          sources := done [.installed id generation rules true]
          cache := s.cache.insert config.id file }
      | none => { s with sources := done [.installed id generation rules false] }
    | .deleteCache id => { s with sources := done [], cache := s.cache.erase id }
    | .deleteTemporary => { s with sources := done [] }

def reply (s : SourcesHost) (clock : Clock) : SourcesHost :=
  match s.sources.replies with
  | [] => s
  | head :: rest =>
    let sources := { s.sources with replies := rest }
    match head with
    | .restored restored => { s with sources := sources.onRestored clock restored }
    | .parsed id generation parsed =>
      { s with sources := sources.onParsed clock id generation parsed }
    | .installed id generation rules success =>
      { s with sources := sources.onInstalled clock id generation rules success }

def downloaded (s : SourcesHost) (clock : Clock) (arrived : Bool) : SourcesHost :=
  match s.sources.loader with
  | none => s
  | some (id, generation) =>
    { s with sources := s.sources.onDownloaded clock id generation arrived }

end SourcesHost

inductive SourcesOp
  | acquire (clock : Clock)
  | release
  | tick (clock : Clock)
  | downloaded (clock : Clock) (arrived : Bool)
  | mutate (clock : Clock) (modifiable : Bool) (token action : String) (command : DictValue)
  | work (view : SourcesHost.WorkerView)
  | reply (clock : Clock)

namespace SourcesHost

variable (platform : SubscriptionPlatform)

def next (s : SourcesHost) : SourcesOp → SourcesHost
  | .acquire clock => { s with sources := s.sources.acquire clock }
  | .release => { s with sources := s.sources.release }
  | .tick clock => { s with sources := s.sources.tick clock }
  | .downloaded clock arrived => s.downloaded clock arrived
  | .mutate clock modifiable token action command =>
    (s.mutate platform clock modifiable token action command).2
  | .work view => s.work platform view
  | .reply clock => s.reply clock

-- `UnguessableToken::Create` never repeats an id.
def permitted (s : SourcesHost) : SourcesOp → Prop
  | .tick clock => ∃ due, s.sources.timer = some due ∧ due ≤ clock.ticks
  | .downloaded .. => s.sources.loader.isSome = true
  | .mutate _ _ token _ _ => token ∉ s.issued ∧ s.cache[token]? = none
  | _ => True

def step : SourcesHost → SourcesOp → SourcesHost → Prop :=
  Transition.guarded permitted (next platform)

end SourcesHost

end ChromiumHmos.UrlProtection
