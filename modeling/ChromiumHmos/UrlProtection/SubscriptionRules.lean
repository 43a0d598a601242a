import ChromiumHmos.UrlProtection.RuleUpdateFormat

set_option autoImplicit false

/-!
# Subscription rules

The lists a user subscribes to: their parser, and the cache file that binds the raw bytes to
the configuration they were downloaded for.
-/

namespace ChromiumHmos.UrlProtection

open Base

def kSubscriptionMaxBytes : Nat := 16 * 1024 * 1024
def kSubscriptionMaxRecords : Nat := 500000
def kSubscriptionTotalRecords : Nat := 1000000
def kSubscriptionMaxSources : Nat := 8

/-- What the subscriptions use of Chromium's libraries beside the rest. -/
structure SubscriptionPlatform extends Platform where
  isStringUTF8 : Bytes → Bool
  hostIsIPAddress : GURL → Bool
  -- `GetCanonicalHostRegistry` with unknown and private registries.
  canonicalHostRegistry : String → Option String
  writeJson : DictValue → Option Bytes
  millisecondsFromTime : Time → Rat

structure SubscriptionRules where
  error : String := ""
  ruleType : String := ""
  digest : String := ""
  inputCount : Nat := 0
  rejectedBroadCount : Nat := 0
  fetched : Time := 0
  hashes : List Bytes := []
  -- `hashes.capacity()`.
  capacity : Nat := 0
deriving Inhabited

namespace SubscriptionRules

def isUsable (rules : SubscriptionRules) (now : Time) : Bool :=
  rules.error == "" && !rules.hashes.isEmpty && now ≥ rules.fetched &&
    now < rules.fetched + days 7

def reserve (rules : SubscriptionRules) (capacity : Nat) : SubscriptionRules :=
  { rules with capacity := max rules.capacity capacity }

def push (rules : SubscriptionRules) (digest : Bytes) : SubscriptionRules :=
  let rules :=
    if rules.hashes.length = rules.capacity then
      rules.reserve (min kSubscriptionMaxRecords (max 1024 (rules.capacity * 2)))
    else rules
  { rules with hashes := rules.hashes ++ [digest] }

end SubscriptionRules

variable (platform : SubscriptionPlatform)

def validSubscriptionEndpoint (url : GURL) : Bool :=
  platform.isPublicHttpUrl url && platform.scheme url == "https" && !platform.hasRef url

def validSubscriptionFormat (format ruleType : String) : Bool :=
  (format == "domains" && (ruleType == "host_exact" || ruleType == "host_suffix")) ||
    (format == "urls" && ruleType == "url_exact")

-- The text of bytes that were checked to be UTF-8.
def textOf (bytes : Bytes) : String := (String.fromUTF8? ⟨bytes.toArray⟩).getD ""

def validLabel (label : List Char) : Bool :=
  label ≠ [] && label.length ≤ 63 && label.head? ≠ some '-' && label.getLast? ≠ some '-' &&
    label.all fun c => c.isAlphanum || c == '-'

def validHost (host : String) : Bool :=
  host ≠ "" && host.utf8ByteSize ≤ 253 && host.toList.head? ≠ some '.' &&
    host.toList.getLast? ≠ some '.' && !hasSubstring host ".." &&
    (host.toList.splitOn '.').all validLabel

def withoutTrailingDot (host : String) : String :=
  if host.toList.getLast? = some '.' then String.ofList host.toList.dropLast else host

-- The canonical domain, and whether it is a registry of its own.
def canonicalDomain (text : Bytes) : String × Bool :=
  if text = [] || text.length > 1024 ||
      text.any (fun byte => (utf8 "/:@?#%*[]\\ \t\r\n").contains byte) then ("", false)
  else
    let url := platform.parse ("https://" ++ textOf text ++ "/")
    if !platform.isPublicHttpUrl url || platform.hostIsIPAddress url then ("", false)
    else
      let host := withoutTrailingDot (platform.host url)
      if !validHost host then ("", false)
      else
        match platform.canonicalHostRegistry host with
        | none => ("", false)
        | some registry => if registry = "" then ("", true) else (host, false)

def isWhitespaceASCII (byte : UInt8) : Bool := (9 ≤ byte && byte ≤ 13) || byte == 32

def trimWhitespaceASCII (line : Bytes) : Bytes :=
  ((line.dropWhile isWhitespaceASCII).reverse.dropWhile isWhitespaceASCII).reverse

def canonicalRule (format : String) (line : Bytes) : String × Bool :=
  if format == "domains" then canonicalDomain platform line
  else if !line.any (fun byte => (utf8 " \t\r").contains byte) &&
      ((utf8 "https://").isPrefixOf line || (utf8 "http://").isPrefixOf line) then
    let url := platform.parse (textOf line)
    (if platform.isPublicHttpUrl url then platform.spec url else "", false)
  else ("", false)

-- The rules of all lines, or the refused rules.
def parseLines (format : String) (rules : SubscriptionRules) :
    List Bytes → Except SubscriptionRules SubscriptionRules
  | [] => .ok rules
  | line :: rest =>
    let line := trimWhitespaceASCII line
    if line = [] || line.head? = some 35 then parseLines format rules rest
    else
      let rules := { rules with inputCount := rules.inputCount + 1 }
      if rules.inputCount > kSubscriptionMaxRecords then
        .error { rules with error := "record_limit", hashes := [] }
      else
        let (canonical, broad) := canonicalRule platform format line
        if broad then
          parseLines format { rules with rejectedBroadCount := rules.rejectedBroadCount + 1 } rest
        else if canonical = "" then .error { rules with error := "invalid_rule", hashes := [] }
        else parseLines format (rules.push (platform.sha256 (utf8 canonical))) rest

def parseSubscriptionRules (text : Bytes) (format ruleType : String) (fetched : Time) :
    SubscriptionRules :=
  let rules : SubscriptionRules := { error := "invalid_format" }
  if !validSubscriptionFormat format ruleType then rules
  else if text.length > kSubscriptionMaxBytes then { rules with error := "byte_limit" }
  else if !platform.isStringUTF8 text || text.contains 0 then { rules with error := "invalid_utf8" }
  else
    let rules :=
      { rules with
        digest := hexEncode (platform.sha256 text)
        ruleType := ruleType
        fetched := fetched }
    let text := if [239, 187, 191].isPrefixOf text then text.drop 3 else text
    let rules := rules.reserve (min (text.length / 32) kSubscriptionMaxRecords)
    -- An empty line after the last newline is skipped like any other.
    match parseLines platform format rules (text.splitOn newline) with
    | .error rules => rules
    | .ok rules =>
      let hashes := sortedDigests rules.hashes
      -- `shrink_to_fit`.
      { rules with
        hashes := hashes
        capacity := hashes.length
        error := if hashes = [] then "empty_rules" else "" }

-- Empty when the header cannot be written.
def encodeSubscriptionCache (endpoint : GURL) (format : String) (rules : SubscriptionRules)
    (raw : Bytes) : Bytes :=
  let header := DictValue.set [] "format" (.int 1)
  let header := DictValue.set header "url" (.string (platform.spec endpoint))
  let header := DictValue.set header "inputFormat" (.string format)
  let header := DictValue.set header "ruleType" (.string rules.ruleType)
  let header := DictValue.set header "sha256" (.string rules.digest)
  let fetchedAt := Double.finite (platform.millisecondsFromTime rules.fetched)
  match platform.writeJson (DictValue.set header "fetchedAt" (.double fetchedAt)) with
  | some header => encodeRuleCache header raw
  | none => []

def cacheInvalid : SubscriptionRules := { error := "cache_invalid" }

def decodeSubscriptionCache (cache : Bytes) (endpoint : GURL) (format ruleType : String)
    (now : Time) : SubscriptionRules :=
  match decodeRuleCache cache with
  | none => cacheInvalid
  | some (header, raw) =>
    match platform.readDict header with
    | none => cacheInvalid
    | some header =>
      if header.findInt "format" ≠ some 1 ||
          header.findString "url" ≠ some (platform.spec endpoint) ||
          header.findString "inputFormat" ≠ some format ||
          header.findString "ruleType" ≠ some ruleType then cacheInvalid
      else
        match header.findDouble "fetchedAt" with
        | some (.finite time) =>
          let fetched := platform.timeFromMilliseconds time
          if fetched > now then cacheInvalid
          else if fetched + days 7 ≤ now then { error := "cache_expired" }
          else
            let rules := parseSubscriptionRules platform raw format ruleType fetched
            if !rules.isUsable now || header.findString "sha256" ≠ some rules.digest then
              cacheInvalid
            else rules
        | _ => cacheInvalid

end ChromiumHmos.UrlProtection
