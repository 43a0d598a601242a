import ChromiumHmos.UrlProtection.Url

set_option autoImplicit false

/-! # What a response is, by its headers -/

namespace ChromiumHmos.Resources

open UrlProtection (hasSuffix)

inductive ResourceKind
  | hls
  | dash
  | video
  | audio
  | image
  | file
deriving DecidableEq

def lower (value : String) : String :=
  value.map fun c => if 'A' ≤ c ∧ c ≤ 'Z' then Char.ofNat (c.toNat + 32) else c

def startsWith (text start : String) : Bool := start.toList.isPrefixOf text.toList

def endsWithAny (name : String) (endings : List String) : Bool := endings.any (hasSuffix name)

/-- A response that is no resource has no kind. -/
def classify (path mime disposition : String) (status : Int) (method : String) : Option ResourceKind :=
  if method ≠ "GET" ∨ (status ≠ 200 ∧ status ≠ 206) then none
  else
    let type := lower (String.ofList (mime.toList.takeWhile fun c => c ≠ ';'))
    let name := lower path
    if endsWithAny name [".m4s", ".ts"] ∨
        type ∈ ["video/mp2t", "video/iso.segment", "audio/iso.segment"] then none
    else if type ∈ ["application/vnd.apple.mpegurl", "application/x-mpegurl", "audio/mpegurl",
        "audio/x-mpegurl"] then some .hls
    else if type = "application/dash+xml" then some .dash
    else if type = "text/html" ∨ type = "application/json" then none
    else if hasSuffix name ".m3u8" then some .hls
    else if hasSuffix name ".mpd" then some .dash
    else if startsWith type "video/" then some .video
    else if startsWith type "audio/" then some .audio
    else if startsWith type "image/" then some .image
    else
      let generic := type = "" ∨ type = "application/octet-stream"
      if generic ∧ endsWithAny name [".mp4", ".webm", ".mov", ".mkv"] then some .video
      else if generic ∧ endsWithAny name [".mp3", ".m4a", ".aac", ".ogg", ".flac", ".wav"] then
        some .audio
      else if generic ∧ endsWithAny name [".png", ".jpg", ".jpeg", ".gif", ".webp", ".avif"] then
        some .image
      else if type = "application/pdf" ∨ startsWith (lower disposition) "attachment" then some .file
      else none

-- `std::from_chars` over a whole text, and the value not negative.
def parseCount (text : List Char) : Option Int :=
  let digits := if text.head? = some '-' then text.tail else text
  if digits = [] ∨ digits.any fun c => !c.isDigit then none
  else
    let value : Int := Nat.ofDigitChars 10 digits 0
    let value := if text.head? = some '-' then -value else value
    if value < 0 ∨ 2 ^ 63 ≤ value then none else some value

def totalBytes (status length : Int) (range : String) : Int :=
  if status = 200 then (if 0 ≤ length then length else -1)
  else if status ≠ 206 ∨ !startsWith range "bytes " then -1
  else
    let text := range.toList
    match text.idxOf? '-', text.idxOf? '/' with
    | some dash, some slash =>
      if dash ≤ 6 ∨ slash ≤ dash + 1 then -1
      else
        match parseCount ((text.take dash).drop 6), parseCount ((text.take slash).drop (dash + 1)),
          parseCount (text.drop (slash + 1)) with
        | some first, some last, some total => if last < first ∨ total ≤ last then -1 else total
        | _, _, _ => -1
    | _, _ => -1

end ChromiumHmos.Resources
