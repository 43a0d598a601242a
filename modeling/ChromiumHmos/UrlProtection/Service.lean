import ChromiumHmos.Lib.Transition
import ChromiumHmos.UrlProtection.LocalRules

set_option autoImplicit false

/-!
# The URL protection service

`Service` holds the fields of `Service::Impl`, beside the tasks and bridge calls it has
issued so far. A policy change runs its observers before it returns, so such an operation is
split at `changed_.Notify()`: the calls its observers make are steps of their own, and
`notified` is the rest of the operation.
-/

namespace ChromiumHmos.UrlProtection

open Base

inductive Provider
  | localRules
  | huawei
  | both
deriving DecidableEq, Inhabited

def parseProvider (value : String) : Option Provider :=
  if value = "local" then some .localRules
  else if value = "huawei" then some .huawei
  else if value = "both" then some .both
  else none

def Provider.text : Provider → String
  | .localRules => "local"
  | .huawei => "huawei"
  | .both => "both"

inductive CloudStatus
  | unverified
  | available
  | unavailable
deriving Inhabited

def kBudget : TimeDelta := milliseconds 1500

structure Pending where
  url : GURL
  checkedUrl : GURL := {}
  -- Stands for the `OnceCallback` object.
  callback : Nat
  result : Result
  waitingLocal : Bool := false
  waitingCloud : Bool := false
  bridgeId : Int := 0
  deadline : TimeTicks
deriving DecidableEq

structure Cached where
  result : Result
  expires : TimeTicks
deriving DecidableEq

structure Identity where
  contextId : String
  policyRevision : Int
deriving DecidableEq

inductive Effect
  | postResult (callback : Nat) (result : Result)
  | postTimeout (id : String) (delay : TimeDelta)
  | callCheck (bridgeId : Int) (id : String) (url : String) (timeout : TimeDelta)
      (identity : Identity)
  | cancelCall (bridgeId : Int)
  | sendControl (method : String) (requestId : Option String) (identity : Identity)
  | acquireUpdater
  | acquireSources
  | releaseUpdater
  | releaseSources
  | broadcast (event : String)
deriving DecidableEq

structure SourcesView where
  ready : Bool
  usable : Bool
  matchUrl : GURL → Result

/-- What the rest of the browser answers during one operation. -/
structure View where
  -- `none` once the updater is destroyed.
  updater : Option LocalRules
  sources : Option SourcesView
  -- `Acquire` and `Release` notify their observers only on some transitions.
  updaterNotifies : Bool
  sourcesNotify : Bool
  userModifiable : Bool
  wall : Time
  ticks : TimeTicks
  -- The second reading of the clock, after `KnownRisk`.
  laterTicks : TimeTicks

structure Reply where
  ok : Bool
  result : DictValue

structure Service where
  enabled : Bool := false
  consent : Bool := false
  provider : Provider := .localRules
  siteExceptions : Std.ExtTreeSet String := ∅
  contextId : String := ""
  revision : Int := 1
  cloudStatus : CloudStatus := .unverified
  cloudReason : String := ""
  rules : LocalRules := {}
  loading : Bool := false
  rulesAcquired : Bool := false
  pending : Std.ExtTreeMap String Pending := ∅
  cache : Std.ExtTreeMap String Cached := ∅
  offTheRecord : Bool := false
  -- The profile preference `Persist` writes.
  config : DictValue := []
  effects : List Effect := []
  -- While observers run: what the operation still sends once they returned.
  notifying : Option (List Effect) := none
  destroyed : Bool := false

def unknownResult (url : GURL) (reason : String) : Result :=
  { verdict := .unknown, source := "", reason := reason, url := url }

namespace Service

variable (platform : Platform)

def emit (s : Service) (sent : List Effect) : Service :=
  { s with effects := s.effects ++ sent }

def identity (s : Service) : Identity := ⟨s.contextId, s.revision⟩

def usesLocal (s : Service) : Bool := s.enabled && s.provider ≠ .huawei

def usesCloud (s : Service) : Bool := s.enabled && s.provider ≠ .localRules && s.consent

def isSiteEnabled (s : Service) (url : GURL) : Bool :=
  !s.siteExceptions.contains (platform.serializedOrigin url)

def canSetSiteEnabled (s : Service) (view : View) : Bool :=
  s.enabled && (s.offTheRecord || view.userModifiable)

def persist (s : Service) : Service :=
  if s.offTheRecord then s
  else
    let config := DictValue.set [] "enabled" (.bool s.enabled)
    let config := DictValue.set config "provider" (.string s.provider.text)
    { s with config :=
        DictValue.set config "siteExceptions" (.list (s.siteExceptions.toList.map .string)) }

-- What leaves the service when an entry does.
def completion (s : Service) (id : String) (call : Pending) (result : Result) : List Effect :=
  (if call.bridgeId ≠ 0 then
    [.cancelCall call.bridgeId, .sendControl "cancel" (some id) s.identity] else []) ++
    [.postResult call.callback result]

def cancelAll (s : Service) (reason : String) : Service :=
  let sent := s.pending.toList.flatMap fun (id, call) =>
    s.completion id call (unknownResult call.url reason)
  { s with pending := ∅ }.emit sent

def maybeComplete (s : Service) (id : String) : Service :=
  match s.pending[id]? with
  | none => s
  | some call =>
    if !call.result.dangerous && (call.waitingLocal || call.waitingCloud) then s
    else { s with pending := s.pending.erase id }.emit (s.completion id call call.result)

def checkLocal (s : Service) (view : View) (call : Pending) : Pending :=
  if !s.usesLocal then call
  else
    let subscription := match view.sources with
      | some sources => sources.matchUrl call.url
      | none => {}
    let usable := match view.sources with
      | some sources => sources.usable
      | none => false
    if subscription.dangerous then { call with result := subscription }
    else if s.rules.matchesUrl platform call.url view.wall then
      { call with result :=
          { verdict := .phishing, source := "local", reason := "matched", url := call.url } }
    else if !call.result.dangerous && (s.rules.isUsable view.wall || usable) then
      { call with result :=
          { verdict := .noMatch, source := "local", reason := "no_match", url := call.url } }
    else call

def sourcesWaiting (view : View) : Bool :=
  match view.sources with
  | some sources => !sources.ready
  | none => false

def onRules (s : Service) (view : View) : Service :=
  match view.updater with
  | none => s
  | some rules =>
    let s : Service := { s with rules := rules, loading := rules.status == .loading }
    if s.usesLocal && !s.loading then
      let ids := s.pending.keys
      let checked := fun (_ : String) (call : Pending) =>
        s.checkLocal platform view { call with waitingLocal := sourcesWaiting view }
      let s := { s with pending := s.pending.map checked }
      (ids.foldl maybeComplete s).emit [.broadcast "urlProtectionStateChanged"]
    else s.emit [.broadcast "urlProtectionStateChanged"]

def ensureRules (s : Service) (view : View) : Service :=
  if view.updater.isNone || s.rulesAcquired then s
  else
    let s := { s with rulesAcquired := true }.emit [.acquireUpdater]
    let s := if view.updaterNotifies then s.onRules platform view else s
    if view.sources.isSome then s.emit [.acquireSources] else s

def sourcesEvents : List Effect :=
  [.broadcast "protectionRuleSourcesChanged", .broadcast "urlProtectionStateChanged"]

def releaseRules (s : Service) (view : View) : Service :=
  if view.updater.isNone || !s.rulesAcquired then s
  else
    let s := { s with rulesAcquired := false }.emit [.releaseUpdater]
    let s := if view.updaterNotifies then s.onRules platform view else s
    if view.sources.isNone then s
    else
      let s := s.emit [.releaseSources]
      if view.sourcesNotify then s.emit sourcesEvents else s

def knownRisk (s : Service) (view : View) (url : GURL) : Result :=
  if !s.isSiteEnabled platform url then unknownResult url "site_disabled"
  else
    let subscription := match view.sources with
      | some sources => if s.usesLocal then sources.matchUrl url else {}
      | none => {}
    if subscription.dangerous then subscription
    else if s.usesLocal && s.rules.matchesUrl platform url view.wall then
      { verdict := .phishing, source := "local", reason := "matched", url := url }
    else
      match (if s.usesCloud then s.cache[platform.spec (platform.cloudCheckUrl url)]? else none) with
      | some found =>
        if found.expires > view.ticks && found.result.dangerous then
          { found.result with url := url }
        else unknownResult url "not_checked"
      | none => unknownResult url "not_checked"

structure CheckArgs where
  url : GURL
  timeout : TimeDelta
  callback : Nat
  -- The `UnguessableToken` a registered check draws, and the id the bridge would give its call.
  token : String
  bridgeId : Int

-- The entry `Check` inserts, its cache lookup and cloud decision made.
def newPending (s : Service) (view : View) (args : CheckArgs) : Pending :=
  let call : Pending :=
    { url := args.url
      callback := args.callback
      result := unknownResult args.url "unavailable"
      deadline := view.laterTicks + min args.timeout kBudget }
  let call :=
    if s.usesLocal then
      s.checkLocal platform view { call with waitingLocal := s.loading || sourcesWaiting view }
    else call
  let call := { call with checkedUrl := platform.cloudCheckUrl args.url }
  if !call.result.dangerous && s.usesCloud && platform.isValid call.checkedUrl then
    match s.cache[platform.spec call.checkedUrl]? with
    | some cached =>
      if cached.expires > view.laterTicks then
        { call with result := { cached.result with url := args.url } }
      else { call with waitingCloud := true, bridgeId := args.bridgeId }
    | none => { call with waitingCloud := true, bridgeId := args.bridgeId }
  else call

def registerCheck (s : Service) (view : View) (args : CheckArgs) : Service :=
  let s := if s.usesLocal then s.ensureRules platform view else s
  let call := s.newPending platform view args
  let timeout := min args.timeout kBudget
  let called : List Effect :=
    if call.waitingCloud then
      [.callCheck args.bridgeId args.token (platform.spec call.checkedUrl) timeout s.identity]
    else []
  let s : Service := { s with pending := s.pending.insertIfNew args.token call }
  (s.emit (called ++ [.postTimeout args.token timeout])).maybeComplete args.token

def check (s : Service) (view : View) (args : CheckArgs) : Option String × Service :=
  if !s.isSiteEnabled platform args.url then
    (none, s.emit [.postResult args.callback (unknownResult args.url "site_disabled")])
  else
    let known := s.knownRisk platform view args.url
    if known.dangerous then (none, s.emit [.postResult args.callback known])
    else if !s.enabled || !platform.isPublicHttpUrl args.url || args.timeout ≤ 0 ||
        s.pending.size ≥ 128 then
      (none, s.emit [.postResult args.callback (unknownResult args.url "not_checked")])
    else (some args.token, s.registerCheck platform view args)

def cloudReasons : List String :=
  ["consent_required", "disabled", "stale_policy", "unsupported", "permission_denied",
    "invalid_request", "network_unavailable", "cloud_unavailable", "concurrency_limited",
    "rate_limited", "timeout", "cloud_quota_exceeded", "internal_error", "cancelled",
    "context_closed", "unsupported_protocol", "unsupported_query_mode", "invalid_response"]

def validIdentity (s : Service) (id : String) (revision : Int) (reply : Reply) : Bool :=
  reply.ok && reply.result.findInt "protocolVersion" == some 1 &&
    reply.result.findInt "policyRevision" == some revision &&
    reply.result.findString "requestId" == some id &&
    reply.result.findString "contextId" == some s.contextId

def cloudVerdict (s : Service) (id : String) (revision : Int) (reply : Reply) (call : Pending) :
    Verdict :=
  if s.validIdentity id revision reply &&
      reply.result.findString "checkedUrl" == some (platform.spec call.checkedUrl) then
    match reply.result.findString "verdict" with
    | some verdict =>
      if verdict = "phishing" then .phishing
      else if verdict = "malware" then .malware
      else if verdict = "no_match" then .noMatch
      else if verdict = "other" then .other
      else .unknown
    | none => .unknown
  else .unknown

def cloudResult (verdict : Verdict) (url : GURL) : Result :=
  let cloud := { unknownResult url "unavailable" with source := "huawei", verdict := verdict }
  if verdict ≠ .unknown then
    { cloud with reason :=
        if cloud.dangerous then "matched"
        else if verdict = .other then "other_category" else "no_match" }
  else cloud

def cloudReasonOf (s : Service) (id : String) (revision : Int) (reply : Reply) : String :=
  match (if s.validIdentity id revision reply then reply.result.findString "reason" else none) with
  | some reason => if reason ∈ cloudReasons then reason else "unavailable"
  | none => "unavailable"

-- A full cache drops its first key.
def storeCached (cache : Std.ExtTreeMap String Cached) (key : String) (entry : Cached) :
    Std.ExtTreeMap String Cached :=
  let cache :=
    if cache.size ≥ 256 then
      match cache.minKey? with
      | some first => cache.erase first
      | none => cache
    else cache
  cache.insert key entry

def mergeCloud (call : Pending) (cloud : Result) : Pending :=
  if !call.result.dangerous && (cloud.dangerous || call.result.verdict == .unknown) then
    { call with result := cloud }
  else call

def onCloud (s : Service) (view : View) (id : String) (revision : Int) (reply : Reply) : Service :=
  match s.pending[id]? with
  | none => s
  | some call =>
    if revision ≠ s.revision then s
    else
      let call := { call with waitingCloud := false, bridgeId := 0 }
      let cloud := cloudResult (s.cloudVerdict platform id revision reply call) call.url
      let s :=
        if cloud.verdict ≠ .unknown then
          { s with
            cloudStatus := .available
            cloudReason := ""
            cache := storeCached s.cache (platform.spec call.checkedUrl)
              ⟨cloud, view.ticks + minutes (if cloud.dangerous then 30 else 5)⟩
            pending := s.pending.insert id (mergeCloud call cloud) }
        else
          { s with
            cloudStatus := .unavailable
            cloudReason := s.cloudReasonOf id revision reply
            pending := s.pending.insert id call }
      (s.maybeComplete id).emit [.broadcast "urlProtectionStateChanged"]

def timeout (s : Service) (id : String) : Service :=
  match s.pending[id]? with
  | none => s
  | some call =>
    let call := { call with waitingLocal := false, waitingCloud := false }
    { s with pending := s.pending.insert id call }.maybeComplete id

def cancel (s : Service) (id : String) : Service :=
  match s.pending[id]? with
  | none => s
  | some call =>
    let call :=
      { call with
        result := unknownResult call.url "cancelled"
        waitingLocal := false
        waitingCloud := false }
    { s with pending := s.pending.insert id call }.maybeComplete id

-- `CancelAll`, the next revision and an empty cache: the part all policy changes share.
def changePolicy (s : Service) : Service :=
  let s := s.cancelAll "stale_policy"
  { s with revision := s.revision + 1, cache := ∅ }

def notify (s : Service) (rest : List Effect) : Service := { s with notifying := some rest }

def configureReason (s : Service) (view : View) (command : DictValue) : String :=
  if command.findString "contextId" ≠ some s.contextId then "invalid_context"
  else if command.findInt "expectedRevision" ≠ some s.revision then "stale_policy"
  else
    match command.findBool "enabled", command.findBool "cloudConsent",
        (command.findString "provider").bind parseProvider with
    | some _, some _, some _ =>
      if !s.offTheRecord && !view.userModifiable then "managed" else ""
    | _, _, _ => "invalid_request"

def applyConfig (s : Service) (view : View) (enabled consent : Bool) (provider : Provider) :
    Service :=
  let s := s.changePolicy
  let s : Service :=
    { s with
      enabled := enabled
      provider := provider
      consent := enabled && provider ≠ .localRules && consent
      cloudStatus := .unverified
      cloudReason := "" }
  let s := s.persist
  let s := if s.usesLocal then s.ensureRules platform view else s.releaseRules platform view
  (s.emit [.sendControl "configure" none s.identity]).notify
    [.broadcast "urlProtectionStateChanged"]

def configure (s : Service) (view : View) (command : DictValue) : String × Service :=
  let reason := s.configureReason view command
  match command.findBool "enabled", command.findBool "cloudConsent",
      (command.findString "provider").bind parseProvider with
  | some enabled, some consent, some provider =>
    if reason = "" then (reason, s.applyConfig platform view enabled consent provider)
    else (reason, s)
  | _, _, _ => (reason, s)

def setSiteEnabled (s : Service) (view : View) (url : GURL) (enabled : Bool) : String × Service :=
  let origin := platform.serializedOrigin url
  if !platform.isPublicHttpUrl url then ("invalid_origin", s)
  else if !s.canSetSiteEnabled view then ("disabled_or_managed", s)
  else if !enabled && !s.siteExceptions.contains origin && s.siteExceptions.size ≥ 1000 then
    ("exception_limit", s)
  else
    let s := s.changePolicy
    let s := { s with siteExceptions :=
      if enabled then s.siteExceptions.erase origin else s.siteExceptions.insert origin }.persist
    ("", (s.emit [.sendControl "configure" none s.identity]).notify
      [.broadcast "urlProtectionStateChanged"])

def onSources (s : Service) (policyChanged : Bool) : Service :=
  if policyChanged && s.usesLocal then
    let s := s.changePolicy
    (s.emit [.sendControl "configure" none s.identity]).notify sourcesEvents
  else s.emit sourcesEvents

def notified (s : Service) : Service :=
  match s.notifying with
  | some rest => { s with notifying := none }.emit rest
  | none => s

def destroy (s : Service) (view : View) : Service :=
  let s := if view.updater.isSome && s.rulesAcquired then s.emit [.releaseUpdater] else s
  let s := if view.sources.isSome && s.rulesAcquired then s.emit [.releaseSources] else s
  let s := s.cancelAll "context_closed"
  { s.emit [.sendControl "closeContext" none s.identity] with destroyed := true }

-- `siteExceptions` of the stored preference, at most 1000 canonical public origins.
def loadExceptions (items : List Value) : Std.ExtTreeSet String :=
  items.foldl (fun loaded item =>
    match item with
    | .string text =>
      let url := platform.parse text
      if loaded.size < 1000 && platform.isPublicHttpUrl url &&
          platform.serializedOrigin url == text then loaded.insert text
      else loaded
    | _ => loaded) ∅

def construct (view : View) (config : DictValue) (offTheRecord : Bool) (contextId : String) :
    Service :=
  let rules := view.updater.getD {}
  let s : Service :=
    { enabled := (config.findBool "enabled").getD false
      provider := ((config.findString "provider").bind parseProvider).getD .localRules
      siteExceptions :=
        if offTheRecord then ∅
        else loadExceptions platform ((config.findList "siteExceptions").getD [])
      contextId := contextId
      rules := rules
      loading := rules.status == .loading
      offTheRecord := offTheRecord
      config := config }
  if s.usesLocal then s.ensureRules platform view else s

end Service

end ChromiumHmos.UrlProtection
