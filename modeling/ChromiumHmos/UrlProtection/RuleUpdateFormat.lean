import ChromiumHmos.UrlProtection.LocalRules

set_option autoImplicit false

/-!
# Signed rule updates

The update configuration, the signed manifest, the payload it describes and the cache file
that keeps both.
-/

namespace ChromiumHmos.UrlProtection

open Base

def kMaxManifestBytes : Nat := 16 * 1024
def ed25519PublicKeyLen : Nat := 32
def ed25519SignatureLen : Nat := 64

inductive ConfigStatus
  | notConfigured
  | invalidConfig
  | ready
deriving DecidableEq, Inhabited

def ConfigStatus.text : ConfigStatus → String
  | .notConfigured => "not_configured"
  | .invalidConfig => "invalid_config"
  | .ready => "ready"

structure UpdateConfig where
  manifestUrl : GURL := {}
  minimumSequence : Int := 0
  keys : Std.ExtTreeMap String Bytes := ∅
  status : ConfigStatus := .notConfigured

def UpdateConfig.valid (config : UpdateConfig) : Bool := config.status == .ready

structure RuleManifest where
  sequence : Int := 0
  size : Int := 0
  count : Int := 0
  rulesUrl : GURL := {}
  sha256 : String := ""
  version : String := ""
  generated : Time := 0
  expires : Time := 0
deriving Inhabited

def isLowerHex (c : Char) : Bool := ('0' ≤ c && c ≤ '9') || ('a' ≤ c && c ≤ 'f')

def hexString (value : String) (size : Nat) : Bool :=
  value.utf8ByteSize == size && value.toList.all isLowerHex

def hexDigit (value : Nat) : Char :=
  if value < 10 then Char.ofNat (48 + value) else Char.ofNat (87 + value)

-- `ToLowerASCII(HexEncode(bytes))`.
def hexEncode (bytes : Bytes) : String :=
  String.ofList (bytes.flatMap fun byte => [hexDigit (byte.toNat / 16), hexDigit (byte.toNat % 16)])

def isKeyIdChar (c : Char) : Bool := c.isAlphanum || c == '_' || c == '-'

def validKeyId (id : String) : Bool :=
  id ≠ "" && id.utf8ByteSize ≤ 32 && id.toList.all isKeyIdChar

variable (platform : Platform)

def isEndpoint (url : GURL) : Bool :=
  platform.isPublicHttpUrl url && platform.scheme url == "https" && !platform.hasQuery url &&
    !platform.hasRef url

-- One entry of the configured keys; `none` refuses the configuration, whose keys nobody reads then.
def decodeKey (entry : String × Value) : Option (String × Bytes) :=
  match entry.2 with
  | .string text =>
    match platform.base64Decode text with
    | some decoded =>
      if validKeyId entry.1 && decoded.length == ed25519PublicKeyLen then some (entry.1, decoded)
      else none
    | none => none
  | _ => none

def parseUpdateConfig (json : Bytes) : UpdateConfig :=
  if json = [] then {}
  else
    let invalid : UpdateConfig := { status := .invalidConfig }
    if json.length > kMaxManifestBytes then invalid
    else
      match platform.readDict json with
      | none => invalid
      | some root =>
        if root.findInt "format" ≠ some 1 then invalid
        else
          match root.findString "manifestUrl", root.findDict "keys",
              root.findInt "minimumSequence" with
          | some endpoint, some keys, some minimum =>
            let url := platform.parse endpoint
            if keys = [] ∨ keys.length > 4 ∨ minimum < 0 then invalid
            else if !isEndpoint platform url then { invalid with manifestUrl := url }
            else
              match keys.mapM (decodeKey platform) with
              | none => { invalid with manifestUrl := url }
              | some decoded =>
                { manifestUrl := url
                  minimumSequence := minimum
                  keys := decoded.foldl (fun found entry => found.insertIfNew entry.1 entry.2) ∅
                  status := .ready }
          | _, _, _ => invalid

-- The bytes an envelope carries, once its signature under a configured key verified.
def signedMessage (json : Bytes) (config : UpdateConfig) : Option Bytes :=
  match platform.readDict json with
  | none => none
  | some envelope =>
    if envelope.findInt "format" ≠ some 1 then none
    else
      match envelope.findString "keyId", envelope.findString "signed",
          envelope.findString "signature" with
      | some id, some encoded, some signature =>
        match config.keys[id]?, platform.base64Decode encoded,
            platform.base64Decode signature with
        | some key, some message, some decodedSignature =>
          if message.length ≤ 8192 && decodedSignature.length == ed25519SignatureLen &&
              platform.ed25519Verify message decodedSignature key then some message
          else none
        | _, _, _ => none
      | _, _, _ => none

def parseManifest (message : Bytes) (config : UpdateConfig) (minimum : Int) :
    Option RuleManifest :=
  match platform.readDict message with
  | none => none
  | some root =>
    if root.findInt "format" ≠ some 1 then none
    else
      match root.findInt "sequence", root.findInt "size", root.findInt "count",
          root.findDouble "generatedAt", root.findDouble "expiresAt",
          root.findString "rulesUrl", root.findString "sha256", root.findString "version" with
      | some sequence, some size, some count, some (.finite generatedAt),
          some (.finite expiresAt), some url, some digest, some version =>
          if sequence < 1 ∨ sequence < max minimum config.minimumSequence ∨ size ≤ 0 ∨
              size > kMaxRuleBytes ∨ count < 1 ∨ count > 200000 ∨ !hexString digest 64 ∨
              !hexString version 40 then none
          else
            some
              { sequence := sequence
                size := size
                count := count
                rulesUrl := platform.parse url
                sha256 := digest
                version := version
                generated := platform.timeFromMilliseconds generatedAt
                expires := platform.timeFromMilliseconds expiresAt }
      | _, _, _, _, _, _, _, _ => none

def manifestCurrent (config : UpdateConfig) (manifest : RuleManifest) (now : Time) : Bool :=
  isEndpoint platform manifest.rulesUrl &&
    platform.serializedOrigin manifest.rulesUrl == platform.serializedOrigin config.manifestUrl &&
    manifest.generated ≤ now && now < manifest.expires && manifest.generated < manifest.expires &&
    manifest.expires - manifest.generated ≤ days 7

def verifyRuleManifest (json : Bytes) (config : UpdateConfig) (minimumSequence : Int) (now : Time) :
    Option RuleManifest :=
  if !config.valid || json.length > kMaxManifestBytes then none
  else
    match signedMessage platform json config with
    | none => none
    | some message =>
      match parseManifest platform message config minimumSequence with
      | none => none
      | some manifest => if manifestCurrent platform config manifest now then some manifest else none

def verifyRulePayload (payload : Bytes) (manifest : RuleManifest) (now : Time) :
    Option LocalRules :=
  if (payload.length : Int) ≠ manifest.size ∨
      hexEncode (platform.sha256 payload) ≠ manifest.sha256 then none
  else
    match (platform.readDict payload).bind fun root => root.findList "urls" with
    | none => none
    | some urls =>
      if (urls.length : Int) ≠ manifest.count then none
      else
        let rules := parseLocalRules platform payload now
        if !rules.isUsable now || rules.version ≠ manifest.version ||
            rules.generated ≠ manifest.generated || rules.expires ≠ manifest.expires then none
        else some rules

def acceptRuleSequence (manifest : RuleManifest) (installedSequence : Int)
    (installedDigest : String) : Bool :=
  manifest.sequence > installedSequence ||
    (manifest.sequence == installedSequence && installedDigest ≠ "" &&
      manifest.sha256 == installedDigest)

def newline : UInt8 := 10

def encodeRuleCache (manifest payload : Bytes) : Bytes :=
  utf8 (toString manifest.length) ++ newline :: (manifest ++ payload)

-- `StringToSizeT`: decimal digits after an optional plus sign.
def parseSizeT (text : Bytes) : Option Nat :=
  let digits := if text.head? = some 43 then text.tail else text
  if digits ≠ [] ∧ digits.all (fun byte => 48 ≤ byte && byte ≤ 57) then
    some (digits.foldl (fun value byte => value * 10 + (byte.toNat - 48)) 0)
  else none

-- The manifest and the payload of a cache file.
def decodeRuleCache (cache : Bytes) : Option (Bytes × Bytes) :=
  match cache.findIdx? (· == newline) with
  | none => none
  | some separator =>
    if separator > 6 then none
    else
      match parseSizeT (cache.take separator) with
      | none => none
      | some length =>
        if length = 0 ∨ length > kMaxManifestBytes ∨ cache.length ≤ separator + 1 + length ∨
            cache.length - separator - 1 - length > kMaxRuleBytes then none
        else
          some ((cache.drop (separator + 1)).take length,
            cache.drop (separator + 1 + length))

end ChromiumHmos.UrlProtection
