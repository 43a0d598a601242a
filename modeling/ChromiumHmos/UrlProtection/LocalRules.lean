import ChromiumHmos.UrlProtection.Url

set_option autoImplicit false

namespace ChromiumHmos.UrlProtection

open Base

/-- Chromium's JSON reader, time conversion and cryptography, beside its URL library. -/
structure Platform extends UrlLibrary where
  readDict : Bytes → Option DictValue
  timeFromMilliseconds : Rat → Time
  sha256 : Bytes → Bytes
  ed25519Verify : (message signature key : Bytes) → Bool
  base64Decode : String → Option Bytes

-- A platform that answers as the real one does for this one address.
def counterPlatform : Platform where
  parse := GURL.mk
  isValid := fun _ => true
  scheme := fun _ => "https"
  hasUsername := fun _ => false
  hasPassword := fun _ => false
  hasQuery := fun _ => false
  hasRef := fun _ => false
  host := fun _ => "example.com"
  hostNoBrackets := fun _ => "example.com"
  path := fun _ => "/"
  clearQueryAndRef := id
  serializedOrigin := fun _ => "https://example.com"
  assignFromIPLiteral := fun _ => none
  isPubliclyRoutable := fun _ => false
  readDict := fun _ => none
  timeFromMilliseconds := fun _ => 0
  sha256 := fun _ => []
  ed25519Verify := fun _ _ _ => false
  base64Decode := fun _ => none

def utf8 (text : String) : Bytes := text.toUTF8.toList

inductive RulesStatus
  | missing
  | loading
  | invalid
  | expired
  | ready
deriving DecidableEq, Inhabited

structure LocalRules where
  status : RulesStatus := .missing
  version : String := ""
  generated : Time := 0
  expires : Time := 0
  hashes : List Bytes := []
deriving Inhabited

def kMaxRules : Nat := 200000
def kMaxRuleBytes : Nat := 16 * 1024 * 1024

def LocalRules.isUsable (rules : LocalRules) (now : Time) : Bool :=
  rules.status == .ready && now ≥ rules.generated && now < rules.expires

-- `std::ranges::sort` and `std::ranges::unique` over fixed-size digests.
def sortedDigests (hashes : List Bytes) : List Bytes :=
  (hashes.mergeSort fun a b => decide (a ≤ b)).destutter (· ≠ ·)

variable (platform : Platform)

def LocalRules.matchesUrl (rules : LocalRules) (url : GURL) (now : Time) : Bool :=
  rules.isUsable now && platform.isPublicHttpUrl url &&
    rules.hashes.contains (platform.sha256 (utf8 (platform.spec url)))

-- `none` is an entry `ParseLocalRules` refuses.
def ruleDigest (item : Value) : Option Bytes :=
  match item with
  | .string text =>
    if text.utf8ByteSize > 4096 then none
    else
      let url := platform.parse text
      if platform.isPublicHttpUrl url then some (platform.sha256 (utf8 (platform.spec url)))
      else none
  | _ => none

def parseLocalRules (json : Bytes) (now : Time) : LocalRules :=
  let invalid : LocalRules := { status := .invalid }
  if json.length > kMaxRuleBytes then invalid
  else
    match platform.readDict json with
    | none => invalid
    | some root =>
      if root.findInt "format" ≠ some 1 then invalid
      else
        match root.findString "version", root.findString "source", root.findList "urls",
            root.findDouble "generatedAt", root.findDouble "expiresAt" with
        | some version, some source, some urls, some (.finite generatedAt),
            some (.finite expiresAt) =>
            if version = "" ∨ version.utf8ByteSize > 80 ∨ source ≠ "Phishing.Database" ∨
                urls = [] ∨ urls.length > kMaxRules then invalid
            else
              let generated := platform.timeFromMilliseconds generatedAt
              let expires := platform.timeFromMilliseconds expiresAt
              let dated : LocalRules :=
                { status := .invalid, generated := generated, expires := expires }
              if generated > now ∨ expires ≤ generated ∨ expires - generated > days 7 then dated
              else if expires ≤ now then { dated with status := .expired, version := version }
              else
                match urls.mapM (ruleDigest platform) with
                | none => invalid
                | some hashes =>
                  { dated with
                    status := .ready
                    version := version
                    hashes := sortedDigests hashes }
        | _, _, _, _, _ => invalid

end ChromiumHmos.UrlProtection
