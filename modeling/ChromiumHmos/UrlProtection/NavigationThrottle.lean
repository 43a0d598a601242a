import ChromiumHmos.Lib.Transition
import ChromiumHmos.Base.Value
import ChromiumHmos.UrlProtection.Result

set_option autoImplicit false

/-!
# The navigation throttle

`Navigation` is one main-frame navigation: its throttle, what the throttle reads of the
service and of the tab, and the result callbacks the service still owes. A callback holds the
generation of the weak pointer it was bound with.
-/

namespace ChromiumHmos.UrlProtection

open Base

inductive ThrottleCheckResult
  | proceed
  | defer
  | cancelAndIgnore
  -- `Block`: the page of this risk, with ERR_BLOCKED_BY_CLIENT.
  | cancel (risk : Result)
deriving DecidableEq

inductive ThrottleEffect
  | report (result : Result) (checking : Bool)
  | resume
  | cancelDeferredNavigation (risk : Result)
deriving DecidableEq

structure OneNavigationBypass where
  url : GURL
  revision : Int
  expires : TimeTicks

structure ResultCallback where
  url : GURL
  revision : Int
  generation : Nat

structure NavigationThrottle where
  deadline : TimeTicks := 0
  urls : List GURL := []
  requests : List String := []
  risk : Result := {}
  latestResult : Result := {}
  pending : Int := 0
  deferred : Bool := false
  -- How often `InvalidateWeakPtrs` ran.
  generation : Nat := 0

def NavigationThrottle.takeResult (throttle : NavigationThrottle) (result : Result) :
    NavigationThrottle :=
  let throttle := { throttle with pending := throttle.pending - 1 }
  let throttle :=
    if throttle.urls.getLast? = some result.url then { throttle with latestResult := result }
    else throttle
  if result.dangerous && !throttle.risk.dangerous then { throttle with risk := result }
  else throttle

-- Where `content` stands with the navigation, by the answers it got.
inductive NavigationPhase
  | created
  | requesting
  | deferred
  | allowed
  | stopped
deriving DecidableEq

structure Navigation where
  throttle : NavigationThrottle := {}
  phase : NavigationPhase := .created
  -- Whether the weak pointer to the service still has a target.
  alive : Bool := true
  revision : Int := 1
  enabled : Bool := false
  -- The tab's user data under `kBypassKey`.
  bypass : Option OneNavigationBypass := none
  callbacks : List ResultCallback := []
  effects : List ThrottleEffect := []

namespace Navigation

def kNavigationBudget : TimeDelta := milliseconds 1500

def protects (s : Navigation) : Bool := s.alive && s.enabled

def emit (s : Navigation) (effect : ThrottleEffect) : Navigation :=
  { s with effects := s.effects ++ [effect] }

def reportState (s : Navigation) : Navigation :=
  s.emit (.report (if s.throttle.risk.dangerous then s.throttle.risk else s.throttle.latestResult)
    (s.throttle.pending > 0))

def block (s : Navigation) : ThrottleCheckResult × Navigation :=
  (.cancel s.throttle.risk, s.reportState)

def resume (s : Navigation) : Navigation :=
  { s.emit .resume with phase := .allowed }

def cancelDeferredNavigation (s : Navigation) : Navigation :=
  let (_, s) := s.block
  { s.emit (.cancelDeferredNavigation s.throttle.risk) with phase := .stopped }

def bypassAllows (s : Navigation) (url : GURL) (now : TimeTicks) : Bool :=
  match s.bypass with
  | some bypass => bypass.url == url && bypass.revision == s.revision && bypass.expires > now
  | none => false

-- `Service::Check`: one more callback the service owes.
def check (s : Navigation) (url : GURL) (id : String) : Navigation :=
  { s with
    throttle :=
      { s.throttle with
        pending := s.throttle.pending + 1
        requests := s.throttle.requests ++ [id] }
    callbacks := s.callbacks ++ [⟨url, s.revision, s.throttle.generation⟩] }

structure Hop where
  url : GURL
  now : TimeTicks
  -- What `Service::KnownRisk` answers for this URL.
  known : Result
  -- What `Service::Check` returns if it is called.
  id : String

def checkCurrentUrl (s : Navigation) (hop : Hop) : Navigation :=
  let s := { s with throttle :=
    { s.throttle with
      urls := s.throttle.urls ++ [hop.url]
      latestResult := { reason := "not_checked", url := hop.url } } }
  if !s.protects then s
  else
    let allowed := s.bypassAllows hop.url hop.now
    -- An unrelated navigation consumes the grant too.
    let s := { s with bypass := none }
    if allowed then
      { s with throttle := { s.throttle with
        latestResult := { s.throttle.latestResult with reason := "one_navigation_bypass" } } }
    else if hop.known.dangerous then
      { s with throttle := { s.throttle with risk := hop.known } }
    else s.check hop.url hop.id

def willStartRequest (s : Navigation) (hop : Hop) (prerendered : Bool) :
    ThrottleCheckResult × Navigation :=
  if s.protects && prerendered then (.cancelAndIgnore, s)
  else
    let s := { s with throttle := { s.throttle with deadline := hop.now + kNavigationBudget } }
    let s := (s.checkCurrentUrl hop).reportState
    if s.throttle.risk.dangerous then s.block else (.proceed, s)

def willRedirectRequest (s : Navigation) (hop : Hop) : ThrottleCheckResult × Navigation :=
  if s.throttle.risk.dangerous then s.block
  else
    let s := (s.checkCurrentUrl hop).reportState
    if s.throttle.risk.dangerous then s.block else (.proceed, s)

def willProcessResponse (s : Navigation) : ThrottleCheckResult × Navigation :=
  if s.throttle.risk.dangerous then s.block
  else if s.throttle.pending > 0 then
    (.defer, { s with throttle := { s.throttle with deferred := true } })
  else (.proceed, s)

def onResult (s : Navigation) (revision : Int) (result : Result) : Navigation :=
  if !s.alive || revision ≠ s.revision then s
  else
    let s := { s with throttle := s.throttle.takeResult result }.reportState
    if s.throttle.deferred && (s.throttle.risk.dangerous || s.throttle.pending = 0) then
      let s := { s with throttle := { s.throttle with deferred := false } }
      if s.throttle.risk.dangerous then s.cancelDeferredNavigation else s.resume
    else s

-- The service posted the result; a callback with an invalidated weak pointer does nothing.
def runCallback (s : Navigation) (index : Nat) (result : Result) : Navigation :=
  match s.callbacks[index]? with
  | none => s
  | some callback =>
    let s := { s with callbacks := s.callbacks.eraseIdx index }
    if callback.generation = s.throttle.generation then s.onResult callback.revision result else s

def onPolicyChanged (s : Navigation) (ids : Nat → String) : Navigation :=
  let s := { s with
    throttle :=
      { s.throttle with
        generation := s.throttle.generation + 1
        pending := 0
        risk := {}
        latestResult := {} }
    bypass := none }
  let s :=
    if s.protects then
      s.throttle.urls.zipIdx.foldl (fun s hop => s.check hop.1 (ids hop.2)) s
    else s
  let s := s.reportState
  if s.throttle.deferred && s.throttle.pending = 0 then
    { s with throttle := { s.throttle with deferred := false } }.resume
  else s

-- A policy change of the service runs its observers before anything else happens.
def changePolicy (s : Navigation) (revision : Int) (enabled : Bool) (ids : Nat → String) :
    Navigation :=
  { s with revision := revision, enabled := enabled }.onPolicyChanged ids

end Navigation

inductive NavigationOp
  | willStartRequest (hop : Navigation.Hop) (prerendered : Bool)
  | willRedirectRequest (hop : Navigation.Hop)
  | willProcessResponse
  | result (index : Nat) (result : Result)
  | policyChange (revision : Int) (enabled : Bool) (ids : Nat → String)
  -- The interstitial of another navigation grants a bypass, or one takes it.
  | setBypass (bypass : Option OneNavigationBypass)

namespace Navigation

-- What an answer of the throttle does to the navigation.
def answered (proceeds : NavigationPhase) (outcome : ThrottleCheckResult × Navigation) :
    Navigation :=
  { outcome.2 with phase :=
      match outcome.1 with
      | .proceed => proceeds
      | .defer => .deferred
      | .cancel _ | .cancelAndIgnore => .stopped }

def next (s : Navigation) : NavigationOp → Navigation
  | .willStartRequest hop prerendered =>
    answered .requesting (s.willStartRequest hop prerendered)
  | .willRedirectRequest hop => answered .requesting (s.willRedirectRequest hop)
  | .willProcessResponse => answered .allowed s.willProcessResponse
  | .result index result => s.runCallback index result
  | .policyChange revision enabled ids => s.changePolicy revision enabled ids
  | .setBypass bypass => { s with bypass := bypass }

def permitted (s : Navigation) : NavigationOp → Prop
  | .willStartRequest .. => s.phase = .created
  | .willRedirectRequest _ | .willProcessResponse => s.phase = .requesting
  | .result index _ => index < s.callbacks.length
  | .policyChange revision _ _ => s.revision < revision
  | .setBypass _ => True

end Navigation

end ChromiumHmos.UrlProtection
