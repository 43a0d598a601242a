import ChromiumHmos.Lib.Finding
import ChromiumHmos.UrlProtection.Url

set_option autoImplicit false

/-!
# The user agent a site is sent

`chrome/browser/ui/ohos/shell_store_user_agent_ohos.cc`: a tab's watcher puts a user agent of its
own in force for some sites, and hands back what was there before when the tab leaves them.
-/

namespace ChromiumHmos.Shell.SiteUserAgent

open Lib UrlProtection

-- The fields the code here reads or writes.
structure UserAgentMetadata where
  platform : String
  platformVersion : String
  architecture : String
  model : String
  mobile : Bool
  bitness : String
  wow64 : Bool
  formFactors : List String

structure UserAgentOverride where
  uaStringOverride : String := ""
  uaMetadataOverride : Option UserAgentMetadata := none

def contains (text pattern : String) : Bool := (indexOf pattern.toList text.toList 0).isSome

/-- What the build, the system and Chromium's own libraries answer. -/
structure Device where
  library : UrlLibrary
  isGoogleAssociatedDomainUrl : GURL -> Bool
  -- `--user-agent`
  userAgentFromCommandLine : Option String
  product : String
  majorMinor : String
  cpu : String
  desktopSiteArchitecture : String
  metadata : UserAgentMetadata
  formFactors : UserAgentMetadata -> Bool -> List String
  operatingSystemVersion : String
  plain : forall part, part ∈ [product, majorMinor, cpu] -> contains part "ArkWeb/" = false

def isChromeWebStore (device : Device) (url : GURL) : Bool :=
  device.library.scheme url == "https" &&
    (device.library.host url == "chromewebstore.google.com" ||
      (device.library.host url == "chrome.google.com" &&
        "/webstore".toList.isPrefixOf (device.library.path url).toList))

def isHuaweiAppGallery (device : Device) (url : GURL) : Bool :=
  device.library.scheme url == "https" && device.library.host url == "appgallery.huawei.com"

-- `GURL::DomainIs`, for a domain with no dot at either end.
def domainIs (device : Device) (url : GURL) (domain : String) : Bool :=
  let host := (device.library.host url).toList
  let host := if host.getLast? = some '.' then host.dropLast else host
  device.library.isValid url && (host == domain.toList || ('.' :: domain.toList).isSuffixOf host)

def isGoogleService (device : Device) (url : GURL) : Bool :=
  device.library.schemeIsHTTPOrHTTPS url &&
    (device.isGoogleAssociatedDomainUrl url ||
      ["gmail.com", "googlemail.com", "google.dev", "google.org", "withgoogle.com",
        "youtube-nocookie.com", "g.co", "goo.gl"].any (domainIs device url) ||
      hasSuffix (device.library.host url) ".google" ||
      hasSuffix (device.library.host url) ".goog" || hasSuffix (device.library.host url) ".gle" ||
      ["youtu.be", "googleapis.com", "googleusercontent.com", "gstatic.com"].any
        (domainIs device url))

inductive SiteUserAgentPolicy
  | none
  | appGallery
  | google
deriving DecidableEq

def userAgentPolicyFor (device : Device) (url : GURL) : SiteUserAgentPolicy :=
  if isHuaweiAppGallery device url then .appGallery
  else if isGoogleService device url then .google
  else .none

def appGalleryUserAgent (userAgent : String) : String :=
  if contains userAgent "ArkWeb/" then userAgent else userAgent ++ " ArkWeb/7.0.0.107"

def token : String := " OpenHarmony/"

-- The token at `start` goes, up to the next space.
def eraseToken (userAgent : List Char) (start : Nat) : List Char :=
  match indexOf [' '] userAgent (start + 1) with
  | none => userAgent.take start
  | some rest => userAgent.take start ++ userAgent.drop rest

theorem token_found {userAgent : List Char} {start : Nat}
    (found : indexOf token.toList userAgent 0 = some start) : start + 13 <= userAgent.length := by
  obtain ⟨_, stands, _⟩ := indexOf_some token.toList userAgent (by decide) 0 start found
  have size : token.toList.length = 13 := by decide
  rcases stands.length with fits | empty
  · omega
  · rw [empty] at size
    cases size

theorem eraseToken_shorter {userAgent : List Char} {start : Nat}
    (found : indexOf token.toList userAgent 0 = some start) :
    (eraseToken userAgent start).length < userAgent.length := by
  have inside := token_found found
  unfold eraseToken
  split
  · rw [List.length_take]
    omega
  · rename_i rest space
    have later := (indexOf_some [' '] userAgent (by decide) _ _ space).1
    rw [List.length_append, List.length_take, List.length_drop]
    omega

def withoutTokens (userAgent : List Char) : List Char :=
  match _found : indexOf token.toList userAgent 0 with
  | none => userAgent
  | some start => withoutTokens (eraseToken userAgent start)
termination_by userAgent.length
decreasing_by exact eraseToken_shorter _found

def googleUserAgent (userAgent : String) : String :=
  String.ofList (withoutTokens userAgent.toList)

def buildOhosUserAgent (device : Device) (mobile : Bool) : String :=
  let openharmonyToken :=
    if device.majorMinor = "" then "" else " OpenHarmony/" ++ device.majorMinor
  if !mobile then
    "Mozilla/5.0 (X11; Linux " ++ device.cpu ++ ") AppleWebKit/537.36 (KHTML, like Gecko) " ++
      device.product ++ " Safari/537.36" ++ openharmonyToken
  else
    "Mozilla/5.0 (Linux; Android 10; K) AppleWebKit/537.36 (KHTML, like Gecko) " ++
      device.product ++ " Mobile Safari/537.36" ++ openharmonyToken

def getUserAgentForOhos (device : Device) (mobile : Bool) : String :=
  device.userAgentFromCommandLine.getD (buildOhosUserAgent device mobile)

def getUserAgentMetadataForOhos (device : Device) (mobile : Bool) : UserAgentMetadata :=
  let metadata := { device.metadata with mobile := mobile }
  { metadata with formFactors := device.formFactors metadata mobile }

def getOhosStoreUserAgent (device : Device) : String :=
  let userAgent := getUserAgentForOhos device false
  match indexOf [')'] userAgent.toList 0 with
  | none => userAgent
  | some platformEnd =>
    let platform := userAgent.toList.take platformEnd
    if (indexOf "X11".toList platform 0).isSome then userAgent
    else String.ofList (platform ++ "; X11".toList ++ userAgent.toList.drop platformEnd)

def auraShellDesktopSiteUserAgent (device : Device) (mobilePhoneUi : Bool) : UserAgentOverride :=
  let ohos := getUserAgentForOhos device false
  let metadata := getUserAgentMetadataForOhos device false
  match indexOf "Chrome/".toList ohos.toList 0 with
  | none => { uaStringOverride := ohos, uaMetadataOverride := some metadata }
  | some chrome =>
    let product :=
      match indexOf [' '] ohos.toList chrome with
      | none => ohos.toList.drop chrome
      | some chromeEnd => (ohos.toList.drop chrome).take (chromeEnd - chrome)
    { uaStringOverride :=
        "Mozilla/5.0 (X11; Linux " ++ device.cpu ++ ") AppleWebKit/537.36 (KHTML, like Gecko) " ++
          String.ofList product ++ " Safari/537.36"
      uaMetadataOverride := some
        { metadata with
          platform := "Linux"
          platformVersion := if mobilePhoneUi then "" else device.operatingSystemVersion
          model := if mobilePhoneUi then "" else metadata.model
          wow64 := false
          architecture := device.desktopSiteArchitecture
          bitness := "64"
          mobile := false } }

def storeUserAgentMetadata (device : Device) : UserAgentMetadata :=
  { getUserAgentMetadataForOhos device false with
    platform := "Linux"
    platformVersion := device.operatingSystemVersion
    mobile := false }

/-- An override, and whether the tab is pinned to it. -/
structure Choice where
  override : UserAgentOverride := {}
  pinned : Bool := false

/-- A tab's user agent, and what its `StoreUserAgentWatcher` remembers. -/
structure Watcher where
  inForce : Choice := {}
  beforeSite : Choice := {}
  siteUa : String := ""
  sitePolicy : SiteUserAgentPolicy := .none
  storeUa : String := ""
  beforeStore : Choice := {}
  desktopSite : Bool := false
  -- What the navigation's handle was told, if anything.
  isOverridingUserAgent : Option Bool := none

structure Navigation where
  url : GURL
  isInPrimaryMainFrame : Bool := true
  isSameDocument : Bool := false
  -- The device's form as the navigation starts.
  mobilePhoneUi : Bool := false

def Watcher.install (watcher : Watcher) (choice : Choice) (overriding : Bool) : Watcher :=
  { watcher with inForce := choice, isOverridingUserAgent := some overriding }

def Watcher.current (watcher : Watcher) : String := watcher.inForce.override.uaStringOverride

def restoreUserAgent (watcher : Watcher) : Watcher :=
  { watcher.install watcher.beforeStore
      (watcher.beforeStore.override.uaStringOverride ≠ "") with storeUa := "" }

-- What a site's policy makes of the override before it.
def compatibleUserAgent (device : Device) (mobile : Bool) (policy : SiteUserAgentPolicy)
    (beforeSite : UserAgentOverride) : UserAgentOverride :=
  let compatible :=
    if beforeSite.uaStringOverride = "" then
      { uaStringOverride := getUserAgentForOhos device mobile
        uaMetadataOverride := some (getUserAgentMetadataForOhos device mobile) }
    else beforeSite
  { compatible with
    uaStringOverride :=
      if policy = .google then googleUserAgent compatible.uaStringOverride
      else appGalleryUserAgent compatible.uaStringOverride }

def applySiteUserAgent (device : Device) (navigation : Navigation) (restoreOnly : Bool)
    (watcher : Watcher) : Bool × Watcher :=
  let policy := if restoreOnly then .none else userAgentPolicyFor device navigation.url
  let ours : Bool := watcher.siteUa ≠ "" && watcher.current = watcher.siteUa
  let switched : Bool := policy ≠ watcher.sitePolicy
  let restored :=
    if ours && switched then
      watcher.install watcher.beforeSite (watcher.beforeSite.override.uaStringOverride ≠ "")
    else watcher
  if policy = .none then (false, { restored with siteUa := "", sitePolicy := .none })
  else
    let saved :=
      if !ours || switched then { restored with beforeSite := restored.inForce } else restored
    let compatible :=
      compatibleUserAgent device navigation.mobilePhoneUi policy saved.beforeSite.override
    (true, { saved.install { override := compatible, pinned := true } true with
      siteUa := compatible.uaStringOverride, sitePolicy := policy })

def storeUserAgent (device : Device) : UserAgentOverride where
  uaStringOverride := googleUserAgent (getOhosStoreUserAgent device)
  uaMetadataOverride := some (storeUserAgentMetadata device)

-- Whether the tab asks for desktop sites with this override.
def asksForDesktopSite (device : Device) (mobilePhoneUi : Bool) (override : UserAgentOverride) :
    Bool :=
  override.uaStringOverride =
      (auraShellDesktopSiteUserAgent device mobilePhoneUi).uaStringOverride ||
    override.uaMetadataOverride.any fun metadata => !metadata.mobile

def installStore (device : Device) (watcher : Watcher) : Watcher :=
  { watcher.install { override := storeUserAgent device, pinned := true } true with
    storeUa := (storeUserAgent device).uaStringOverride }

def didStartNavigation (device : Device) (navigation : Navigation) (watcher : Watcher) : Watcher :=
  if !navigation.isInPrimaryMainFrame || navigation.isSameDocument then watcher
  else
    let watcher := { watcher with isOverridingUserAgent := none }
    let isStore := isChromeWebStore device navigation.url
    let watcher :=
      if !isStore && watcher.storeUa ≠ "" && watcher.current = watcher.storeUa then
        restoreUserAgent watcher
      else watcher
    match applySiteUserAgent device navigation isStore watcher with
    | (true, applied) => applied
    | (false, watcher) =>
      let ours : Bool := watcher.storeUa ≠ "" && watcher.current = watcher.storeUa
      if !isStore then
        if ours then restoreUserAgent watcher else watcher
      else if !ours then
        let desktopSite :=
          asksForDesktopSite device navigation.mobilePhoneUi watcher.inForce.override
        let watcher :=
          { watcher with beforeStore := watcher.inForce, desktopSite := desktopSite }
        if navigation.mobilePhoneUi && !desktopSite then
          (applySiteUserAgent device navigation false watcher).2
        else installStore device watcher
      else installStore device watcher

inductive Event
  | navigation (navigation : Navigation)
  -- The user's own change of the override and the pin.
  | chosen (choice : Choice)

def step (device : Device) (watcher : Watcher) : Event -> Watcher
  | .navigation navigation => didStartNavigation device navigation watcher
  | .chosen choice => { watcher with inForce := choice }

end ChromiumHmos.Shell.SiteUserAgent
