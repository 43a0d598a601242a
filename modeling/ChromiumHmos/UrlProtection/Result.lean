import Mathlib

set_option autoImplicit false

namespace ChromiumHmos.UrlProtection

-- A GURL compares by its canonical spelling; what it parses to belongs to Chromium's URL library.
structure GURL where
  possiblyInvalidSpec : String := ""
deriving DecidableEq, Inhabited

inductive Verdict
  | unknown
  | noMatch
  | phishing
  | malware
  | other
deriving DecidableEq, Inhabited

structure Result where
  verdict : Verdict := .unknown
  source : String := ""
  reason : String := ""
  url : GURL := {}
  matchedSourceIds : List String := []
  ruleType : String := ""
deriving DecidableEq, Inhabited

def Result.dangerous (result : Result) : Bool :=
  result.verdict == .phishing || result.verdict == .malware ||
    (result.verdict == .other && !result.matchedSourceIds.isEmpty)

@[simp] theorem Result.default_dangerous : ({} : Result).dangerous = false := rfl

end ChromiumHmos.UrlProtection
