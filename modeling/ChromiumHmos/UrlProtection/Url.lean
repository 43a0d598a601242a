import ChromiumHmos.Base.Value
import ChromiumHmos.UrlProtection.Result

set_option autoImplicit false

namespace ChromiumHmos.UrlProtection

open Base

/-- What Chromium's `url` and `net` libraries answer; neither is part of the repository. -/
structure UrlLibrary where
  parse : String → GURL
  isValid : GURL → Bool
  scheme : GURL → String
  hasUsername : GURL → Bool
  hasPassword : GURL → Bool
  hasQuery : GURL → Bool
  hasRef : GURL → Bool
  host : GURL → String
  hostNoBrackets : GURL → String
  path : GURL → String
  clearQueryAndRef : GURL → GURL
  serializedOrigin : GURL → String
  assignFromIPLiteral : String → Option Bytes
  isPubliclyRoutable : Bytes → Bool

def isIPv4MappedIPv6 (address : Bytes) : Bool :=
  address.length == 16 && address.take 12 == List.replicate 10 0 ++ [255, 255]

def trimTrailingDots (host : String) : String :=
  String.ofList (host.toList.reverse.dropWhile (· == '.')).reverse

def hasSubstring (text needle : String) : Bool :=
  text.toList.tails.any needle.toList.isPrefixOf

def hasSuffix (text ending : String) : Bool :=
  ending.toList.isSuffixOf text.toList

namespace UrlLibrary

variable (lib : UrlLibrary)

-- `GURL::spec` of an invalid URL is the empty string.
def spec (url : GURL) : String :=
  if lib.isValid url then url.possiblyInvalidSpec else ""

def schemeIsHTTPOrHTTPS (url : GURL) : Bool :=
  lib.scheme url == "http" || lib.scheme url == "https"

def isPublicHttpUrl (url : GURL) : Bool :=
  if !lib.isValid url || !lib.schemeIsHTTPOrHTTPS url || lib.hasUsername url ||
      lib.hasPassword url || (lib.spec url).utf8ByteSize > 4096 then false
  else
    let host := trimTrailingDots (lib.hostNoBrackets url)
    match lib.assignFromIPLiteral host with
    | some address =>
      lib.isPubliclyRoutable (if isIPv4MappedIPv6 address then address.drop 12 else address)
    | none =>
      host.toList.contains '.' && host ≠ "localhost" && !hasSuffix host ".localhost" &&
        !hasSuffix host ".local" && !hasSuffix host ".internal" &&
        !hasSuffix host ".home.arpa"

-- The longest run of characters without a slash exceeds the limit.
def hasLongSegment (limit : Nat) : Nat → List Char → Bool
  | _, [] => false
  | segment, c :: rest =>
    let segment := if c = '/' then 0 else segment + 1
    segment > limit || hasLongSegment limit segment rest

def cloudCheckUrl (url : GURL) : GURL :=
  if !lib.isPublicHttpUrl url then {}
  else
    let path := (lib.path url).toLower
    -- Paths with encoded or token-like segments stay local.
    if path.toList.contains '%' || path.toList.contains '@' || hasSubstring path "token" ||
        hasSubstring path "oauth" || path.utf8ByteSize > 256 then {}
    else if hasLongSegment 48 0 path.toList then {}
    else lib.clearQueryAndRef url

end UrlLibrary

end ChromiumHmos.UrlProtection
