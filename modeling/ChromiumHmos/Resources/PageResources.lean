import ChromiumHmos.Lib.OrderedMap
import ChromiumHmos.Resources.ResourcePolicy

set_option autoImplicit false

/-!
# Resources of a page

What the responses of a page's frames offer for download, within a budget. Every step is given the
frames as they are then.
-/

namespace ChromiumHmos.Resources

open Std
open UrlProtection (GURL UrlLibrary)

def kMaxEntries : Nat := 128
def kMaxImages : Nat := 32
def kMaxMetadataBytes : Nat := 512 * 1024

structure ResourceRequest where
  url : GURL
  method : String
  referrer : GURL
  referrerPolicy : Int
  -- A credentials mode by its number.
  credentialsMode : Nat
  authorization : Option String

structure RedirectInfo where
  newUrl : GURL
  newMethod : String
  newReferrer : GURL
  newReferrerPolicy : Int

structure ResponseHead where
  mimeType : String
  contentLength : Int
  -- Status, Content-Disposition and Content-Range; none without headers.
  headers : Option (Int × Option String × Option String)

structure ResourceResponse where
  url : GURL
  referrer : GURL := {}
  mimeType : String
  disposition : String
  contentRange : String
  method : String
  authorization : String
  status : Int := 0
  contentLength : Int := -1
  referrerPolicy : Int := 0
  credentialsMode : Nat := 0

/-- What Chromium's `net` and `url` libraries answer beside the parts of a URL. -/
structure ResourceLibrary extends UrlLibrary where
  withoutRef : GURL → GURL
  extractFileName : GURL → String
  sameOrigin : GURL → GURL → Bool
  isValidHeaderValue : String → Bool
  dispositionFileName : String → String
  -- The text of the first UTF-16 units.
  utf16Prefix : String → Nat → String
  referrerPolicyMax : Int
  updateOnRedirect : ResourceRequest → RedirectInfo → ResourceRequest

/-- A frame as a step finds it. -/
structure Frame where
  id : Nat
  document : Nat
  active : Bool
  inPrimaryPage : Bool
  origin : String

structure SourceDocument where
  frame : Nat
  navigation : Int

structure World where
  -- The frame that shows a document, while one does.
  frameOf : Nat → Option Nat
  -- The frame of a navigation, while it is active and has not navigated again.
  resolve : SourceDocument → Option Frame
  pageIsHTTPOrHTTPS : Bool

structure Entry where
  -- An unguessable token, the n-th that was made.
  id : Nat
  kind : ResourceKind
  name : String
  response : ResourceResponse
  document : Nat
  total : Int := -1
  metadataBytes : Nat := 0

def Entry.downloadable (entry : Entry) : Bool := entry.kind ≠ .hls ∧ entry.kind ≠ .dash

structure PageResources where
  entries : ExtTreeMap String Entry := ∅
  navigation : Nat := 0
  metadataBytes : Nat := 0
  images : Nat := 0
  truncated : Bool := false
  -- The timer of the notification runs.
  notification : Bool := false
  -- How many tokens were made.
  tokens : Nat := 1

namespace PageResources

def changed (page : PageResources) : PageResources := { page with notification := true }

def isImage (kind : ResourceKind) : Nat := if kind = .image then 1 else 0

def remove (key : String) (entry : Entry) (page : PageResources) : PageResources :=
  { page with
    entries := page.entries.erase key
    metadataBytes := page.metadataBytes - entry.metadataBytes
    images := page.images - isImage entry.kind }

-- A document that no frame shows is gone, and one of the removed frame.
def stale (world : World) (removed : Option Nat) (entry : Entry) : Bool :=
  match world.frameOf entry.document with
  | none => true
  | some frame => removed = some frame

def prune (world : World) (removed : Option Nat) (page : PageResources) : PageResources :=
  let gone := page.entries.toList.filter fun entry => stale world removed entry.2
  let pruned := gone.foldl (fun page entry => page.remove entry.1 entry.2) page
  if gone.isEmpty then pruned else pruned.changed

def clear (page : PageResources) : PageResources :=
  changed
    { page with
      entries := ∅
      metadataBytes := 0
      images := 0
      truncated := false
      navigation := page.tokens
      tokens := page.tokens + 1 }

section

variable (lib : ResourceLibrary)

def refused (world : World) (frame : Frame) (r : ResourceResponse) : Bool :=
  !frame.active || !frame.inPrimaryPage || !world.pageIsHTTPOrHTTPS ||
    !lib.isValid r.url || !lib.schemeIsHTTPOrHTTPS r.url ||
    lib.hasUsername r.url || lib.hasPassword r.url || decide (8192 < (lib.spec r.url).utf8ByteSize) ||
    decide (256 < r.mimeType.utf8ByteSize) || decide (2048 < r.disposition.utf8ByteSize) ||
    decide (8192 < r.authorization.utf8ByteSize) ||
    decide (8192 < (lib.spec r.referrer).utf8ByteSize) ||
    (r.referrer.possiblyInvalidSpec ≠ "" && !lib.schemeIsHTTPOrHTTPS r.referrer) ||
    decide (128 < r.contentRange.utf8ByteSize) || decide (r.referrerPolicy < 0) ||
    decide (lib.referrerPolicyMax < r.referrerPolicy) || !lib.isValidHeaderValue r.authorization

def classifyResponse (r : ResourceResponse) : Option ResourceKind :=
  classify (lib.path r.url) r.mimeType r.disposition r.status r.method

def entryKey (frame : Frame) (r : ResourceResponse) : String :=
  frame.origin ++ "\n" ++ lib.spec r.url

def entryBytes (frame : Frame) (r : ResourceResponse) : Nat :=
  (entryKey lib frame r).utf8ByteSize + (lib.spec r.url).utf8ByteSize + r.mimeType.utf8ByteSize +
    r.disposition.utf8ByteSize + (lib.spec r.referrer).utf8ByteSize +
    r.authorization.utf8ByteSize + 512

-- A URL that became something else loses its old entry.
def retire (key : String) (kind : ResourceKind) (page : PageResources) : PageResources :=
  match page.entries[key]? with
  | some found => if found.kind ≠ kind then (page.remove key found).changed else page
  | none => page

def update (world : World) (frame : Frame) (r : ResourceResponse) (key : String) (found : Entry)
    (page : PageResources) : PageResources :=
  let bytes := entryBytes lib frame r
  if kMaxMetadataBytes < page.metadataBytes - found.metadataBytes + bytes then page
  else
    let total := totalBytes r.status r.contentLength r.contentRange
    let differs := (0 ≤ total ∧ found.total ≠ total) ∨ world.frameOf found.document ≠ some frame.id
    let entry := { found with
      metadataBytes := bytes
      total := if 0 ≤ total then total else found.total
      document := frame.document
      response := r }
    let page := { page with
      metadataBytes := page.metadataBytes - found.metadataBytes + bytes
      entries := page.entries.insert key entry }
    if differs then page.changed else page

def entryName (r : ResourceResponse) : String :=
  let name := lib.dispositionFileName r.disposition
  let name := if name = "" then lib.extractFileName r.url else name
  let name := if name = "" then lib.host r.url else name
  lib.utf16Prefix name 128

def insert (frame : Frame) (r : ResourceResponse) (key : String) (kind : ResourceKind)
    (page : PageResources) : PageResources :=
  let bytes := entryBytes lib frame r
  if kMaxEntries ≤ page.entries.size ∨ kMaxMetadataBytes < page.metadataBytes + bytes ∨
      (kind = .image ∧ kMaxImages ≤ page.images) then
    if page.truncated then page else changed { page with truncated := true }
  else
    let entry : Entry :=
      { id := page.tokens
        kind
        name := entryName lib r
        response := r
        document := frame.document
        total := totalBytes r.status r.contentLength r.contentRange
        metadataBytes := bytes }
    changed
      { page with
        entries := page.entries.insert key entry
        metadataBytes := page.metadataBytes + bytes
        images := page.images + isImage kind
        tokens := page.tokens + 1 }

def record (world : World) (frame : Frame) (r : ResourceResponse) (page : PageResources) :
    PageResources :=
  if refused lib world frame r then page
  else
    match classifyResponse lib r with
    | none => page
    | some kind =>
      let r := { r with url := lib.withoutRef r.url }
      let key := entryKey lib frame r
      let page := retire key kind (page.prune world none)
      match page.entries[key]? with
      | some found => update lib world frame r key found page
      | none => insert lib frame r key kind page

end

-- The entries whose document a frame shows.
def list (world : World) (page : PageResources) : List (String × Entry) :=
  page.entries.toList.filter fun entry => (world.frameOf entry.2.document).isSome

def find (id : Nat) (page : PageResources) : Option Entry :=
  (page.entries.toList.find? fun entry => entry.2.id = id).map Prod.snd

end PageResources

structure ResponseObserver where
  document : SourceDocument
  request : ResourceRequest

structure Collector where
  page : PageResources := {}
  observers : List ResponseObserver := []

inductive CollectorEvent
  -- A loader starts, for a destination that is looked at or another one.
  | start (document : SourceDocument) (request : ResourceRequest) (eligible : Bool)
  | redirected (observer : Nat) (info : RedirectInfo)
  | responded (observer : Nat) (head : ResponseHead) (world : World)
  | completed (observer : Nat)
  | primaryPageChanged
  | navigated (committed sameDocument : Bool) (world : World)
  | frameDeleted (frame : Nat) (world : World)
  | clearResources (navigation : Nat)
  | notified

namespace Collector

variable (lib : ResourceLibrary)

def responseOf (request : ResourceRequest) (head : ResponseHead) (status : Int)
    (disposition contentRange : Option String) : ResourceResponse :=
  { url := request.url
    mimeType := head.mimeType
    status
    contentLength := head.contentLength
    disposition := disposition.getD ""
    contentRange := contentRange.getD ""
    method := request.method
    referrer := if lib.schemeIsHTTPOrHTTPS request.referrer then request.referrer else {}
    referrerPolicy := request.referrerPolicy
    credentialsMode := request.credentialsMode
    authorization := request.authorization.getD "" }

def onReceiveRedirect (info : RedirectInfo) (observer : ResponseObserver) : ResponseObserver :=
  let request := observer.request
  let request :=
    if lib.sameOrigin request.url info.newUrl then request
    else { request with authorization := none }
  { observer with request := lib.updateOnRedirect request info }

def onReceiveResponse (observer : ResponseObserver) (head : ResponseHead) (world : World)
    (page : PageResources) : PageResources :=
  match world.resolve observer.document, head.headers with
  | some frame, some (status, disposition, contentRange) =>
    page.record lib world frame
      (responseOf lib observer.request head status disposition contentRange)
  | _, _ => page

def handle (collector : Collector) : CollectorEvent → Collector
  | .start document request eligible =>
    if eligible ∧ request.method = "GET" ∧ lib.schemeIsHTTPOrHTTPS request.url then
      { collector with observers := collector.observers ++ [{ document, request }] }
    else collector
  | .redirected observer info =>
    { collector with
      observers := collector.observers.modify observer (onReceiveRedirect lib info) }
  | .responded observer head world =>
    match collector.observers[observer]? with
    | some observer =>
      { collector with page := onReceiveResponse lib observer head world collector.page }
    | none => collector
  | .completed observer => { collector with observers := collector.observers.eraseIdx observer }
  | .primaryPageChanged => { collector with page := collector.page.clear }
  | .navigated committed sameDocument world =>
    if committed ∧ ¬sameDocument then
      { collector with page := collector.page.prune world none }
    else collector
  | .frameDeleted frame world => { collector with page := collector.page.prune world (some frame) }
  | .clearResources navigation =>
    if navigation = collector.page.navigation then
      { collector with page := collector.page.clear }
    else collector
  | .notified => { collector with page := { collector.page with notification := false } }

def run (events : List CollectorEvent) : Collector := events.foldl (handle lib) {}

end Collector

end ChromiumHmos.Resources
