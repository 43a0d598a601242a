import ChromiumHmos.Base.Text
import ChromiumHmos.UrlProtection.Url

set_option autoImplicit false

/-!
# Settings of the ad blocker

Its sources, exceptions and own rules, as kept in memory and in a file.
-/

namespace ChromiumHmos.Adblock

open Base Std
open UrlProtection (GURL UrlLibrary trimTrailingDots)

structure AdblockPlatform extends UrlLibrary where
  hasPort : GURL → Bool
  isStringUTF8 : Bytes → Bool

def kMaxBytes : Nat := 16 * 1024 * 1024
def kTotalBytes : Nat := 64 * 1024 * 1024

-- `Str(v, key)`.
def str (v : DictValue) (key : String) : String := (v.findString key).getD ""

namespace AdblockPlatform

variable (platform : AdblockPlatform)

def subscriptionUrl (url : GURL) : Bool :=
  platform.isValid url ∧ platform.scheme url = "https" ∧ ¬ platform.hasUsername url ∧
    ¬ platform.hasPassword url ∧ ¬ platform.hasRef url ∧
    (platform.toUrlLibrary.spec url).utf8ByteSize ≤ 4096

def hostOf (url : GURL) : String :=
  if platform.schemeIsHTTPOrHTTPS url then trimTrailingDots (platform.host url) else ""

def normalizeHost (text : String) : String :=
  if text = "" ∨ text.toList.any fun c => c ∈ "/\\?#@ \t\r\n".toList then ""
  else
    let url := platform.parse ("https://" ++ text ++ "/")
    if platform.hasPort url ∨ ¬ platform.isValid url then "" else platform.hostOf url

end AdblockPlatform

inductive SourceKind
  | builtin
  | file
  | subscription
deriving DecidableEq

def SourceKind.name : SourceKind → String
  | .builtin => "builtin"
  | .file => "file"
  | .subscription => "subscription"

inductive SourceStatus
  | missing
  | ready
  | failed
deriving DecidableEq

def SourceStatus.name : SourceStatus → String
  | .missing => "missing"
  | .ready => "ready"
  | .failed => "failed"

structure Source where
  id : String
  name : String := ""
  kind : SourceKind
  url : String := ""
  text : String := ""
  status : SourceStatus := .missing
  etag : String := ""
  modified : String := ""
  enabled : Bool := true
  rules : Int := 0
  unsupported : Int := 0
  -- Milliseconds.
  updated : Rat := 0

namespace Source

def value (source : Source) (disk : Bool) : DictValue :=
  [("id", .string source.id), ("name", .string source.name),
    ("kind", .string source.kind.name), ("url", .string source.url),
    ("enabled", .bool source.enabled), ("status", .string source.status.name),
    ("ruleCount", .int source.rules), ("unsupportedCount", .int source.unsupported),
    ("updatedAt", .double (.finite source.updated))] ++
  if disk then
    [("text", .string source.text), ("etag", .string source.etag),
      ("modified", .string source.modified)]
  else []

-- What no compilation counts.
def settings (source : Source) : Source :=
  { source with status := .missing, rules := 0, unsupported := 0 }

end Source

def findSource (sources : List Source) (id : String) : Option Source :=
  sources.find? fun source => source.id = id

-- What is written through `Find`.
def modifySource (id : String) (change : Source → Source) : List Source → List Source
  | [] => []
  | source :: rest =>
    if source.id = id then change source :: rest else source :: modifySource id change rest

def builtinSources : List Source :=
  [{ id := "easylist", name := "基础广告过滤 · EasyList", kind := .builtin
     url := "https://easylist.to/easylist/easylist.txt" },
    { id := "easylist-china", name := "中文补充过滤 · EasyList China", kind := .builtin
      url := "https://easylist-downloads.adblockplus.org/easylistchina.txt" },
    { id := "easyprivacy", name := "隐私保护 · EasyPrivacy", kind := .builtin
      url := "https://easylist.to/easylist/easyprivacy.txt", enabled := false },
    { id := "brave-compat", name := "兼容补充 · Brave 配套规则", kind := .builtin
      enabled := false }]

structure Config where
  enabled : Bool := true
  autoUpdate : Bool := true
  sources : List Source := builtinSources
  exceptions : ExtTreeSet String := ∅
  user : String := ""
  userRuleCount : Int := 0

namespace Config

def find (config : Config) (id : String) : Option Source := findSource config.sources id

def modify (config : Config) (id : String) (change : Source → Source) : Config :=
  { config with sources := modifySource id change config.sources }

def value (config : Config) (disk : Bool) : DictValue :=
  [("enabled", .bool config.enabled), ("autoUpdate", .bool config.autoUpdate),
    ("sources", .list (config.sources.map fun source => .dict (source.value disk))),
    ("exceptions", .list (config.exceptions.toList.map .string)),
    ("userRules", .string config.user)]

def settings (config : Config) : Config :=
  { config with sources := config.sources.map Source.settings, userRuleCount := 0 }

end Config

section Restore

variable (platform : AdblockPlatform)

def restoreException (exceptions : ExtTreeSet String) (host : Value) : ExtTreeSet String :=
  match host with
  | .string text =>
    let normalized := platform.normalizeHost text
    if exceptions.size ≥ 1000 ∨ normalized = "" then exceptions else exceptions.insert normalized
  | _ => exceptions

-- None where the entry is passed over.
def restoredSource (sources : List Source) (v : DictValue) : Option Source :=
  let id := str v "id"
  if sources.length ≥ 32 ∨ id = "" ∨ id.utf8ByteSize > 64 then none
  else
    let url := str v "url"
    match str v "kind" with
    | "file" => some { id, name := str v "name", kind := .file, url }
    | "subscription" =>
      if platform.subscriptionUrl (platform.parse url) then
        some { id, name := str v "name", kind := .subscription, url }
      else none
    | _ => none

def restoreFields (id : String) (v : DictValue) (sources : List Source) : List Source :=
  let text := str v "text"
  if text.utf8ByteSize > kMaxBytes ∨ ¬ platform.isStringUTF8 text.toUTF8.toList then sources
  else
    modifySource id (fun source => { source with
      enabled := (v.findBool "enabled").getD true
      text := if id = "brave-compat" then "" else text
      updated := match v.findDouble "updatedAt" with
        | some (.finite value) => value
        | _ => 0
      etag := str v "etag"
      modified := str v "modified" }) sources

def restoreSource (sources : List Source) (value : Value) : List Source :=
  match value with
  | .dict v =>
    let id := str v "id"
    match findSource sources id with
    | some _ => restoreFields platform id v sources
    | none =>
      match restoredSource platform sources v with
      | some source => restoreFields platform id v (sources ++ [source])
      | none => sources
  | _ => sources

def Value.hasId (id : String) : Value → Bool
  | .dict v => str v "id" = id
  | _ => false

def restoreSources (saved : List Value) : List Source :=
  let first := if saved.length ≥ 32 ∧ ¬ saved.any (Value.hasId "brave-compat") then
      builtinSources.filter fun source => source.id ≠ "brave-compat"
    else builtinSources
  saved.foldl (restoreSource platform) first

-- `file`: the dictionary the file holds, where it can be read and parsed.
def restore (file : Option DictValue) : Config :=
  match file with
  | none => {}
  | some root =>
    let user := str root "userRules"
    { enabled := (root.findBool "enabled").getD true
      autoUpdate := (root.findBool "autoUpdate").getD true
      user := if utf16Length user > 65536 then "" else user
      exceptions := ((root.findList "exceptions").getD []).foldl (restoreException platform) ∅
      sources := match root.findList "sources" with
        | none => builtinSources
        | some saved => restoreSources platform saved }

end Restore

structure EngineSource where
  id : String
  text : String
  bundled : Bool := false
  strict : Bool := false
deriving DecidableEq

/-- An engine is known by what it was compiled from. -/
abbrev Engine := List EngineSource

structure RuleCount where
  id : String
  rules : Int
  unsupported : Int

/-- What the engine's library answers to a compilation. -/
structure EngineAnswer where
  handle : Bool
  reason : String := ""
  errorLine : Int := 0
  counts : List RuleCount := []

structure Compiled where
  config : Config
  engine : Option Engine
  reason : String
  errorLine : Int

namespace Config

def bytes (config : Config) : Nat :=
  config.user.utf8ByteSize + (config.sources.map fun source => source.text.utf8ByteSize).sum

def engineSources (config : Config) : Engine :=
  (config.sources.filter Source.enabled).map (fun source =>
    { id := source.id, text := source.text, bundled := source.kind = .builtin }) ++
  [{ id := "user", text := config.user, strict := true }]

def count (config : Config) (c : RuleCount) : Config :=
  let config := if c.id = "user" then { config with userRuleCount := c.rules } else config
  config.modify c.id fun source => { source with
    rules := c.rules
    unsupported := c.unsupported
    status := if source.kind = .builtin ∨ source.text ≠ "" then .ready else .missing }

def compile (config : Config) (a : EngineAnswer) : Compiled :=
  if config.bytes > kTotalBytes then ⟨config, none, "limit", 0⟩
  else
    ⟨a.counts.foldl count config, if a.handle then some config.engineSources else none, a.reason,
      a.errorLine⟩

end Config

end ChromiumHmos.Adblock
