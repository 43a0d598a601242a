import ChromiumHmos.Lib.Transition
import ChromiumHmos.UrlProtection.Result

set_option autoImplicit false

namespace ChromiumHmos.UrlProtection

-- The texts a snapshot's `verdict` can hold.
inductive SiteVerdict
  | unchecked
  | skipped
  | checking
  | noMatch
  | phishing
  | malware
  | other
  | unknown
deriving DecidableEq, Inhabited

structure Snapshot where
  navigationId : String := ""
  url : GURL := {}
  revision : Int := 0
  verdict : SiteVerdict := .unchecked
  -- A double in the source, stored and cleared but never compared.
  checkedAt : Rat := 0
  matchedSourceIds : List String := []
  ruleType : String := ""
deriving DecidableEq, Inhabited

structure SiteVerdictState where
  current : Snapshot := {}
  committed : Snapshot := {}
  pendingNavigation : Bool := false
  generation : UInt64 := 0
deriving Inhabited

namespace Snapshot

def isDangerous (snapshot : Snapshot) : Bool :=
  snapshot.verdict == .phishing || snapshot.verdict == .malware ||
    !snapshot.matchedSourceIds.isEmpty

def reset (snapshot : Snapshot) (revision : Int) (enabled : Bool) : Snapshot :=
  { snapshot with
    revision := revision
    verdict := if enabled then .unchecked else .skipped
    checkedAt := 0
    matchedSourceIds := []
    ruleType := "" }

@[simp] theorem reset_navigationId (snapshot : Snapshot) (revision : Int) (enabled : Bool) :
    (snapshot.reset revision enabled).navigationId = snapshot.navigationId := rfl

@[simp] theorem reset_url (snapshot : Snapshot) (revision : Int) (enabled : Bool) :
    (snapshot.reset revision enabled).url = snapshot.url := rfl

@[simp] theorem reset_revision (snapshot : Snapshot) (revision : Int) (enabled : Bool) :
    (snapshot.reset revision enabled).revision = revision := rfl

@[simp] theorem reset_checkedAt (snapshot : Snapshot) (revision : Int) (enabled : Bool) :
    (snapshot.reset revision enabled).checkedAt = 0 := rfl

end Snapshot

def Verdict.toSite : Verdict → SiteVerdict
  | .noMatch => .noMatch
  | .phishing => .phishing
  | .malware => .malware
  | .other => .other
  | .unknown => .unknown

namespace SiteVerdictState

def isCurrent (state : SiteVerdictState) (id : String) : Bool :=
  id ≠ "" && state.current.navigationId == id

def initializeSite (state : SiteVerdictState) (url : GURL) (revision : Int) (enabled : Bool) :
    SiteVerdictState :=
  let current := { state.current with url := url }.reset revision enabled
  { state with current := current, committed := current }

def beginNavigation (state : SiteVerdictState) (id : String) (url : GURL) (revision : Int)
    (enabled : Bool) : Bool × SiteVerdictState :=
  if state.isCurrent id then (false, state)
  else
    (true,
      { state with
        generation := state.generation + 1
        pendingNavigation := true
        current := ({ navigationId := id, url := url } : Snapshot).reset revision enabled })

def redirect (state : SiteVerdictState) (url : GURL) (revision : Int) (enabled : Bool) :
    SiteVerdictState :=
  { state with
    generation := state.generation + 1
    current := { state.current with url := url }.reset revision enabled }

def finish (state : SiteVerdictState) (committed : Bool) (url : GURL) : SiteVerdictState :=
  let state := { state with generation := state.generation + 1, pendingNavigation := false }
  if committed then
    -- A blocked redirect retains the actual risk target.
    let current :=
      if state.current.isDangerous then state.current else { state.current with url := url }
    { state with current := current, committed := current }
  else
    { state with current := state.committed }

-- What `SameDocumentCommit` makes of the committed snapshot.
def commitSameDocument (committed : Snapshot) (id : String) (url : GURL) (revision : Int)
    (enabled : Bool) : Snapshot :=
  let committed :=
    if committed.url ≠ url ∨ committed.revision ≠ revision ∨ committed.verdict = .checking then
      { committed with url := url }.reset revision enabled
    else committed
  { committed with navigationId := id }

def sameDocumentCommit (state : SiteVerdictState) (id : String) (url : GURL) (revision : Int)
    (enabled : Bool) : SiteVerdictState :=
  let committed := commitSameDocument state.committed id url revision enabled
  { state with
    generation := state.generation + 1
    committed := committed
    -- The old document must not steal the identity of an in-flight navigation.
    current := if state.pendingNavigation then state.current else committed }

def policyChanged (state : SiteVerdictState) (revision : Int)
    (currentEnabled committedEnabled : Bool) : SiteVerdictState :=
  { state with
    generation := state.generation + 1
    current := state.current.reset revision currentEnabled
    committed := state.committed.reset revision committedEnabled }

-- What `Report` makes of the current snapshot.
def reportSnapshot (current : Snapshot) (result : Result) (checking enabled : Bool) (now : Rat) :
    Snapshot :=
  let current :=
    { current with
      url := if result.dangerous then result.url else current.url
      matchedSourceIds := result.matchedSourceIds
      ruleType := result.ruleType
      checkedAt := 0 }
  if !enabled || result.reason == "one_navigation_bypass" then
    { current with verdict := .skipped }
  else if checking && !result.dangerous then
    { current with verdict := .checking }
  else
    { current with verdict := result.verdict.toSite, checkedAt := now }

def report (state : SiteVerdictState) (result : Result) (checking enabled : Bool) (now : Rat) :
    SiteVerdictState :=
  { state with current := reportSnapshot state.current result checking enabled now }

def needsCommittedCheck (state : SiteVerdictState) : Bool :=
  !state.pendingNavigation &&
    (state.current.verdict == .unchecked || state.current.verdict == .checking)

def startCommittedCheck (state : SiteVerdictState) : UInt64 × SiteVerdictState :=
  let current := { state.current with verdict := .checking, checkedAt := 0 }
  (state.generation + 1,
    { state with generation := state.generation + 1, current := current, committed := current })

def completeCommittedCheck (state : SiteVerdictState) (generation : UInt64) (revision : Int)
    (result : Result) (now : Rat) : Bool × SiteVerdictState :=
  if state.pendingNavigation || generation ≠ state.generation ||
      revision ≠ state.current.revision || result.url ≠ state.current.url then
    (false, state)
  else
    let reported := state.report result false true now
    (true, { reported with committed := reported.current })

end SiteVerdictState

/-- The calls a tab makes on its `SiteVerdictState`. -/
inductive SiteOp
  | initializeSite (url : GURL) (revision : Int) (enabled : Bool)
  | beginNavigation (id : String) (url : GURL) (revision : Int) (enabled : Bool)
  | redirect (url : GURL) (revision : Int) (enabled : Bool)
  | finish (committed : Bool) (url : GURL)
  | sameDocumentCommit (id : String) (url : GURL) (revision : Int) (enabled : Bool)
  | policyChanged (revision : Int) (currentEnabled committedEnabled : Bool)
  | report (result : Result) (checking enabled : Bool) (now : Rat)
  | startCommittedCheck
  | completeCommittedCheck (generation : UInt64) (revision : Int) (result : Result) (now : Rat)

namespace SiteVerdictState

def apply (state : SiteVerdictState) : SiteOp → SiteVerdictState
  | .initializeSite url revision enabled => state.initializeSite url revision enabled
  | .beginNavigation id url revision enabled => (state.beginNavigation id url revision enabled).2
  | .redirect url revision enabled => state.redirect url revision enabled
  | .finish committed url => state.finish committed url
  | .sameDocumentCommit id url revision enabled =>
    state.sameDocumentCommit id url revision enabled
  | .policyChanged revision currentEnabled committedEnabled =>
    state.policyChanged revision currentEnabled committedEnabled
  | .report result checking enabled now => state.report result checking enabled now
  | .startCommittedCheck => state.startCommittedCheck.2
  | .completeCommittedCheck generation revision result now =>
    (state.completeCommittedCheck generation revision result now).2

end SiteVerdictState

end ChromiumHmos.UrlProtection
