import ChromiumHmos.Lib.SortedSearch
import ChromiumHmos.UrlProtection.CloudDisclosure
import ChromiumHmos.UrlProtection.SubscriptionRules

set_option autoImplicit false

/-!
# What subscription rules match

The parser and the matcher write a host in the same way: what `Matches` finds is what the list
says.
-/

namespace ChromiumHmos.UrlProtection

open Base Lib

-- What is left after each dot.
def afterDots : List Char → List (List Char)
  | [] => []
  | c :: rest => if c = '.' then rest :: afterDots rest else afterDots rest

section Matcher

variable (platform : SubscriptionPlatform)

namespace SubscriptionRules

def contains (rules : SubscriptionRules) (value : String) : Bool :=
  binarySearch rules.hashes (platform.sha256 (utf8 value))

def matchesUrl (rules : SubscriptionRules) (url : GURL) (now : Time) : Bool :=
  if !rules.isUsable now || !platform.isPublicHttpUrl url then false
  else if rules.ruleType == "url_exact" then rules.contains platform (platform.spec url)
  else
    let host := (withoutTrailingDot (platform.host url)).toList
    -- `candidate.remove_prefix(dot + 1)` for suffix rules, as long as there is a dot.
    let candidates := if rules.ruleType == "host_suffix" then host :: afterDots host else [host]
    candidates.any fun candidate => rules.contains platform (String.ofList candidate)

end SubscriptionRules

/-- The trimmed lines that are neither empty nor comments. -/
def ruleLines (lines : List Bytes) : List Bytes :=
  (lines.map trimWhitespaceASCII).filter fun line => line ≠ [] && line.head? ≠ some 35

def textLines (text : Bytes) : List Bytes :=
  (if [239, 187, 191].isPrefixOf text then text.drop 3 else text).splitOn newline

def isBroad (format : String) (line : Bytes) : Bool := (canonicalRule platform format line).2

/-- The canonical form of a rule line that is not a broad rule. -/
def entryOf (format : String) (line : Bytes) : Option String :=
  if isBroad platform format line then none else some (canonicalRule platform format line).1

/-- The canonical entries the list holds, in its order. -/
def listedEntries (text : Bytes) (format : String) : List String :=
  (ruleLines (textLines text)).filterMap (entryOf platform format)

/-- The host is the entry or a subdomain of it. -/
def UnderEntry (host entry : String) : Prop :=
  host = entry ∨ ∃ labels, host.toList = labels ++ '.' :: entry.toList

theorem mem_afterDots (text rest : List Char) :
    rest ∈ afterDots text ↔ ∃ labels, text = labels ++ '.' :: rest := by
  induction text with
  | nil => simp [afterDots]
  | cons head tail ih =>
    have deeper : (∃ labels, head :: tail = labels ++ '.' :: rest) ↔
        (head = '.' /\ tail = rest) \/ ∃ labels, tail = labels ++ '.' :: rest := by
      constructor
      · rintro ⟨labels, split⟩
        cases labels with
        | nil => exact Or.inl (by simpa using split)
        | cons first others => exact Or.inr ⟨others, by simpa using (List.cons_eq_cons.mp split).2⟩
      · rintro (⟨rfl, rfl⟩ | ⟨labels, rfl⟩)
        · exact ⟨[], rfl⟩
        · exact ⟨head :: labels, rfl⟩
    rw [deeper, <- ih, afterDots]
    by_cases dot : head = '.'
    · simp [dot, eq_comm]
    · simp [dot]

@[simp] theorem SubscriptionRules.push_hashes (rules : SubscriptionRules) (digest : Bytes) :
    (rules.push digest).hashes = rules.hashes ++ [digest] := by
  unfold SubscriptionRules.push
  split <;> rfl

structure SubscriptionRules.SameHeader (before after : SubscriptionRules) : Prop where
  error : after.error = before.error
  ruleType : after.ruleType = before.ruleType
  digest : after.digest = before.digest
  fetched : after.fetched = before.fetched

theorem SubscriptionRules.push_counts (rules : SubscriptionRules) (digest : Bytes) :
    (rules.push digest).inputCount = rules.inputCount /\
      (rules.push digest).rejectedBroadCount = rules.rejectedBroadCount /\
      rules.SameHeader (rules.push digest) := by
  unfold SubscriptionRules.push
  split <;> exact ⟨rfl, rfl, rfl, rfl, rfl, rfl⟩

structure LinesRead (format : String) (lines : List Bytes) (before after : SubscriptionRules) :
    Prop where
  header : before.SameHeader after
  counted : after.inputCount = before.inputCount + (ruleLines lines).length
  broad : after.rejectedBroadCount =
    before.rejectedBroadCount + (ruleLines lines).countP (isBroad platform format)
  hashes : after.hashes = before.hashes ++
    ((ruleLines lines).filterMap (entryOf platform format)).map
      fun entry => platform.sha256 (utf8 entry)
  spelled : "" ∉ (ruleLines lines).filterMap (entryOf platform format)

def Skipped (line : Bytes) : Prop :=
  trimWhitespaceASCII line = [] ∨ (trimWhitespaceASCII line).head? = some 35

theorem ruleLines_skipped (line : Bytes) (rest : List Bytes) (skipped : Skipped line) :
    ruleLines (line :: rest) = ruleLines rest := by
  rcases skipped with empty | comment
  · simp [ruleLines, empty]
  · simp [ruleLines, comment]

theorem ruleLines_kept (line : Bytes) (rest : List Bytes) (kept : ¬Skipped line) :
    ruleLines (line :: rest) = trimWhitespaceASCII line :: ruleLines rest := by
  simp only [Skipped, not_or] at kept
  simp [ruleLines, kept.1, kept.2]

-- The loop refuses the list at its first bad line, and otherwise reads every line once.
theorem parseLines_read (format : String) (lines : List Bytes) (before after : SubscriptionRules)
    (read : parseLines platform format before lines = .ok after) :
    LinesRead platform format lines before after := by
  induction lines generalizing before with
  | nil =>
    cases read
    exact ⟨⟨rfl, rfl, rfl, rfl⟩, by simp [ruleLines], by simp [ruleLines], by simp [ruleLines],
      by simp [ruleLines]⟩
  | cons line rest ih =>
    rw [parseLines] at read
    dsimp only at read
    by_cases skipped : Skipped line
    · rw [if_pos (by simpa [Skipped] using skipped)] at read
      have later := ih before read
      exact ⟨later.header, by rw [ruleLines_skipped line rest skipped]; exact later.counted,
        by rw [ruleLines_skipped line rest skipped]; exact later.broad,
        by rw [ruleLines_skipped line rest skipped]; exact later.hashes,
        by rw [ruleLines_skipped line rest skipped]; exact later.spelled⟩
    · rw [if_neg (by simpa [Skipped] using skipped)] at read
      split at read
      next => cases read
      next =>
        have kept := ruleLines_kept line rest skipped
        split at read
        next broad =>
          have rejected : isBroad platform format (trimWhitespaceASCII line) = true := broad
          have later := ih _ read
          refine ⟨⟨later.header.error, later.header.ruleType, later.header.digest,
            later.header.fetched⟩, ?_, ?_, ?_, ?_⟩
          · rw [later.counted, kept, List.length_cons]
            simp only
            omega
          · rw [later.broad, kept, List.countP_cons_of_pos rejected]
            simp only
            omega
          · rw [later.hashes, kept, List.filterMap_cons_none (by simp [entryOf, rejected])]
          · rw [kept, List.filterMap_cons_none (by simp [entryOf, rejected])]
            exact later.spelled
        next narrow =>
          split at read
          next => cases read
          next named =>
            have taken : isBroad platform format (trimWhitespaceASCII line) = false := by
              simpa [isBroad] using narrow
            have entry : entryOf platform format (trimWhitespaceASCII line) =
                some (canonicalRule platform format (trimWhitespaceASCII line)).1 := by
              simp [entryOf, taken]
            obtain ⟨counts, broads, header⟩ := SubscriptionRules.push_counts
              { before with inputCount := before.inputCount + 1 }
              (platform.sha256 (utf8 (canonicalRule platform format (trimWhitespaceASCII line)).1))
            have later := ih _ read
            refine ⟨⟨later.header.error.trans header.error,
              later.header.ruleType.trans header.ruleType,
              later.header.digest.trans header.digest,
              later.header.fetched.trans header.fetched⟩, ?_, ?_, ?_, ?_⟩
            · rw [later.counted, counts, kept, List.length_cons]
              simp only
              omega
            · rw [later.broad, broads, kept, List.countP_cons_of_neg (by simp [taken])]
            · rw [later.hashes, SubscriptionRules.push_hashes, kept,
                List.filterMap_cons_some entry]
              simp
            · rw [kept, List.filterMap_cons_some entry, List.mem_cons, not_or]
              exact ⟨fun same => named same.symm, later.spelled⟩

theorem parseLines_refused (format : String) (lines : List Bytes)
    (before refused : SubscriptionRules)
    (read : parseLines platform format before lines = .error refused) :
    refused.error ∈ ["record_limit", "invalid_rule"] ∧ refused.hashes = [] := by
  induction lines generalizing before with
  | nil => cases read
  | cons line rest ih =>
    rw [parseLines] at read
    dsimp only at read
    split at read
    next => exact ih before read
    next =>
      split at read
      next =>
        cases read
        exact ⟨by simp, rfl⟩
      next =>
        split at read
        next => exact ih _ read
        next =>
          split at read
          next =>
            cases read
            exact ⟨by simp, rfl⟩
          next => exact ih _ read

structure ReadToEnd (text : Bytes) (format ruleType : String) (fetched : Time)
    (rules : SubscriptionRules) : Prop where
  accepted : validSubscriptionFormat format ruleType = true
  typed : rules.ruleType = ruleType
  digested : rules.digest = hexEncode (platform.sha256 text)
  dated : rules.fetched = fetched
  counted : rules.inputCount = (ruleLines (textLines text)).length
  broad : rules.rejectedBroadCount = (ruleLines (textLines text)).countP (isBroad platform format)
  hashes : rules.hashes = sortedDigests
    ((listedEntries platform text format).map fun entry => platform.sha256 (utf8 entry))
  spelled : "" ∉ listedEntries platform text format
  error : rules.error = if rules.hashes = [] then "empty_rules" else ""

def kParseErrors : List String :=
  ["invalid_format", "byte_limit", "invalid_utf8", "record_limit", "invalid_rule"]

theorem parseSubscriptionRules_cases (text : Bytes) (format ruleType : String) (fetched : Time) :
    ((parseSubscriptionRules platform text format ruleType fetched).error ∈ kParseErrors /\
        (parseSubscriptionRules platform text format ruleType fetched).hashes = []) \/
      ReadToEnd platform text format ruleType fetched
        (parseSubscriptionRules platform text format ruleType fetched) := by
  unfold parseSubscriptionRules
  dsimp only
  split
  next => exact Or.inl ⟨by simp [kParseErrors], rfl⟩
  next valid =>
    split
    next => exact Or.inl ⟨by simp [kParseErrors], rfl⟩
    next =>
      split
      next => exact Or.inl ⟨by simp [kParseErrors], rfl⟩
      next =>
        split
        next refused stopped =>
          obtain ⟨error, hashes⟩ := parseLines_refused platform format _ _ _ stopped
          refine Or.inl ⟨?_, hashes⟩
          simp only [List.mem_cons, List.not_mem_nil, or_false] at error
          rcases error with limit | rule
          · simp [kParseErrors, limit]
          · simp [kParseErrors, rule]
        next read whole =>
          have done := parseLines_read platform format _ _ _ whole
          refine Or.inr
            { accepted := by simpa using valid
              typed := done.header.ruleType
              digested := done.header.digest
              dated := done.header.fetched
              counted := ?_
              broad := ?_
              hashes := ?_
              spelled := done.spelled
              error := rfl }
          · exact done.counted.trans (by simp [SubscriptionRules.reserve, textLines])
          · exact done.broad.trans (by simp [SubscriptionRules.reserve, textLines])
          · exact congrArg sortedDigests done.hashes

theorem utf8_injective (a b : String) (same : utf8 a = utf8 b) : a = b :=
  toUTF8_toList_injective a b same

variable {platform}
variable {text : Bytes} {format ruleType : String} {fetched : Time} {rules : SubscriptionRules}

theorem ReadToEnd.increasing (read : ReadToEnd platform text format ruleType fetched rules) :
    rules.hashes.Pairwise (· < ·) := by
  rw [read.hashes]
  exact sortedDistinct_increasing _

theorem ReadToEnd.contains_iff (read : ReadToEnd platform text format ruleType fetched rules)
    (collisionFree : Function.Injective platform.sha256) (value : String) :
    rules.contains platform value = true ↔ value ∈ listedEntries platform text format := by
  rw [SubscriptionRules.contains, binarySearch_eq_true _ read.increasing, read.hashes]
  refine (mem_sortedDistinct _ _).trans ?_
  rw [List.mem_map]
  constructor
  · rintro ⟨entry, listed, same⟩
    rw [<- utf8_injective _ _ (collisionFree same)]
    exact listed
  · exact fun listed => ⟨value, listed, rfl⟩

def Listed (platform : SubscriptionPlatform) (text : Bytes) (format ruleType : String) (url : GURL) :
    Prop :=
  let host := withoutTrailingDot (platform.host url)
  (ruleType = "host_suffix" ∧ ∃ entry ∈ listedEntries platform text format, UnderEntry host entry) ∨
    (ruleType = "host_exact" ∧ host ∈ listedEntries platform text format) ∨
    (ruleType = "url_exact" ∧ platform.spec url ∈ listedEntries platform text format)

theorem validSubscriptionFormat_cases (valid : validSubscriptionFormat format ruleType = true) :
    (format = "domains" ∧ (ruleType = "host_exact" ∨ ruleType = "host_suffix")) ∨
      (format = "urls" ∧ ruleType = "url_exact") := by
  simpa [validSubscriptionFormat] using valid

-- The candidates of the suffix walk are the host and what its entries may be.
theorem suffix_candidates (host entry : String) :
    entry.toList ∈ host.toList :: afterDots host.toList ↔ UnderEntry host entry := by
  rw [List.mem_cons, mem_afterDots, UnderEntry, String.toList_inj]
  exact or_congr eq_comm Iff.rfl

theorem ReadToEnd.matches_iff (read : ReadToEnd platform text format ruleType fetched rules)
    (collisionFree : Function.Injective platform.sha256) (url : GURL) (now : Time)
    (usable : rules.isUsable now = true) :
    rules.matchesUrl platform url now = true ↔
      platform.isPublicHttpUrl url = true /\ Listed platform text format ruleType url := by
  unfold SubscriptionRules.matchesUrl Listed
  cases shown : platform.isPublicHttpUrl url with
  | false => simp
  | true =>
    simp only [usable, read.typed, Bool.not_true, Bool.or_self, Bool.false_eq_true, if_false,
      true_and]
    rcases validSubscriptionFormat_cases read.accepted with ⟨_, rfl | rfl⟩ | ⟨_, rfl⟩
    · simp [read.contains_iff collisionFree]
    · simp only [show ("host_suffix" == "url_exact") = false from by decide,
        show ("host_suffix" == "host_suffix") = true from by decide, Bool.false_eq_true, if_false,
        if_true, List.any_eq_true, read.contains_iff collisionFree]
      simp only [show ¬"host_suffix" = "host_exact" from by decide,
        show ¬"host_suffix" = "url_exact" from by decide, false_and, or_false, true_and]
      constructor
      · rintro ⟨candidate, walked, listed⟩
        refine ⟨String.ofList candidate, listed, (suffix_candidates _ _).mp ?_⟩
        simpa using walked
      · rintro ⟨entry, listed, under⟩
        refine ⟨entry.toList, (suffix_candidates _ _).mpr under, ?_⟩
        simpa using listed
    · simp [read.contains_iff collisionFree]

def lastLabel (host : List Char) : List Char := (host.reverse.takeWhile (· ≠ '.')).reverse

/-- The last label of the host, without one trailing dot, is a number. -/
def endsInNumber (host : String) : Bool :=
  let label := lastLabel (withoutTrailingDot host).toList
  label ≠ [] && label.all Char.isDigit

/-- Canonical hosts: an address ends in a number or in a bracket, and no name ends in a number. -/
structure CanonicalHosts (platform : SubscriptionPlatform) : Prop where
  address (url : GURL) : platform.isValid url = true → platform.hostIsIPAddress url = true →
    endsInNumber (platform.host url) = true ∨ (platform.host url).toList.getLast? = some ']'
  name (url : GURL) : platform.isValid url = true → platform.hostIsIPAddress url = false →
    endsInNumber (platform.host url) = false

theorem lastLabel_under (host entry : List Char) (labels : List Char)
    (under : host = labels ++ '.' :: entry) : lastLabel host = lastLabel entry := by
  subst under
  have split : (labels ++ '.' :: entry).reverse = entry.reverse ++ '.' :: labels.reverse := by simp
  rw [lastLabel, lastLabel, split, List.takeWhile_append]
  split
  next whole =>
    have all : entry.reverse.takeWhile (· ≠ '.') = entry.reverse :=
      (List.takeWhile_prefix _).eq_of_length whole
    rw [all]
    simp
  next => rfl

structure DomainEntry (platform : SubscriptionPlatform) (entry : String) (url : GURL) : Prop where
  valid : platform.isValid url = true
  name : platform.hostIsIPAddress url = false
  host : entry = withoutTrailingDot (platform.host url)
  wellFormed : validHost entry = true

theorem canonicalDomain_entry (line : Bytes) (entry : String)
    (accepted : canonicalDomain platform line = (entry, false)) (named : entry ≠ "") :
    ∃ url, DomainEntry platform entry url := by
  unfold canonicalDomain at accepted
  split at accepted
  next => exact absurd (Prod.mk.inj accepted).1.symm named
  next =>
    dsimp only at accepted
    split at accepted
    next => exact absurd (Prod.mk.inj accepted).1.symm named
    next plain =>
      simp only [Bool.or_eq_true, Bool.not_eq_true', not_or, Bool.not_eq_false,
        Bool.not_eq_true] at plain
      split at accepted
      next => exact absurd (Prod.mk.inj accepted).1.symm named
      next wellFormed =>
        split at accepted
        next => exact absurd (Prod.mk.inj accepted).1.symm named
        next =>
          split at accepted
          next => exact absurd (Prod.mk.inj accepted).2 (by simp)
          next =>
            obtain ⟨rfl, -⟩ := Prod.mk.inj accepted
            exact ⟨_, (platform.isPublicHttpUrl_gives _ plain.1).valid, plain.2, rfl,
              by simpa using wellFormed⟩

theorem ReadToEnd.domain_entry (read : ReadToEnd platform text format ruleType fetched rules)
    (domains : ruleType ≠ "url_exact") (entry : String)
    (listed : entry ∈ listedEntries platform text format) : ∃ url, DomainEntry platform entry url := by
  have named : entry ≠ "" := fun same => read.spelled (same ▸ listed)
  obtain ⟨rfl, -⟩ : format = "domains" ∧ True := by
    rcases validSubscriptionFormat_cases read.accepted with ⟨same, _⟩ | ⟨_, same⟩
    · exact ⟨same, trivial⟩
    · exact absurd same domains
  obtain ⟨line, -, canonical⟩ := List.mem_filterMap.mp listed
  unfold entryOf at canonical
  split at canonical
  next => cases canonical
  next narrow =>
    refine canonicalDomain_entry line entry (Prod.ext ?_ (by simpa [isBroad, canonicalRule] using narrow)) named
    simpa [canonicalRule] using canonical

-- Every character of an accepted host is a dot, a letter, a digit or a hyphen.
theorem validHost_free_of_bracket (host : String) (valid : validHost host = true) :
    ']' ∉ host.toList := by
  intro held
  obtain ⟨label, member, inside⟩ := mem_splitOn '.' ']' host.toList (by decide) held
  simp only [validHost, Bool.and_eq_true] at valid
  have labelled : validLabel label = true := List.all_eq_true.mp valid.2 label member
  simp only [validLabel, Bool.and_eq_true] at labelled
  exact absurd (List.all_eq_true.mp labelled.2 ']' inside) (by decide)

theorem DomainEntry.not_address {entry : String} {named url : GURL}
    (held : DomainEntry platform entry named) (hosts : CanonicalHosts platform)
    (valid : platform.isValid url = true) (address : platform.hostIsIPAddress url = true) :
    ¬UnderEntry (withoutTrailingDot (platform.host url)) entry := by
  intro under
  have labels : lastLabel (withoutTrailingDot (platform.host url)).toList = lastLabel entry.toList := by
    rcases under with same | ⟨labels, split⟩
    · rw [same]
    · exact lastLabel_under _ _ labels split
  rcases hosts.address url valid address with number | bracket
  · have other := hosts.name named held.valid held.name
    have numbered : endsInNumber (platform.host named) = endsInNumber (platform.host url) := by
      simp only [endsInNumber, labels, <- held.host]
    exact absurd (other.symm.trans (numbered.trans number)) (by simp)
  · have undotted : withoutTrailingDot (platform.host url) = platform.host url := by
      simp [withoutTrailingDot, bracket]
    have free := validHost_free_of_bracket entry held.wellFormed
    rw [undotted] at under
    have last : ']' ∈ (platform.host url).toList := List.mem_of_getLast? bracket
    rcases under with same | ⟨labels, split⟩
    · exact free (same ▸ last)
    · rw [split, List.getLast?_append] at bracket
      cases rest : entry.toList with
      | nil =>
        simp [rest] at bracket
      | cons first others =>
        have ends : (first :: others).getLast? = some ']' := by
          simpa [rest, List.getLast?_cons_cons] using bracket
        exact free (rest ▸ List.mem_of_getLast? ends)

-- A spelling belongs to one URL, so an accepted spelling is that of the public URL listed.
theorem ReadToEnd.url_public (read : ReadToEnd platform text format ruleType fetched rules)
    (urls : ruleType = "url_exact") (url : GURL)
    (listed : platform.spec url ∈ listedEntries platform text format) :
    platform.isPublicHttpUrl url = true := by
  have named : platform.spec url ≠ "" := fun same => read.spelled (same ▸ listed)
  obtain rfl : format = "urls" := by
    rcases validSubscriptionFormat_cases read.accepted with ⟨_, same⟩ | ⟨same, _⟩
    · rcases same with same | same <;> exact absurd (urls.symm.trans same) (by decide)
    · exact same
  obtain ⟨line, -, canonical⟩ := List.mem_filterMap.mp listed
  have spelled : (canonicalRule platform "urls" line).1 = platform.spec url := by
    unfold entryOf at canonical
    split at canonical
    next => cases canonical
    next => simpa using canonical
  unfold canonicalRule at spelled
  rw [if_neg (by decide)] at spelled
  split at spelled
  next =>
    dsimp only at spelled
    split at spelled
    next shown =>
      have valid := (platform.isPublicHttpUrl_gives _ shown).valid
      have same : platform.parse (textOf line) = url := by
        unfold UrlLibrary.spec at spelled named
        rw [if_pos valid] at spelled
        split at spelled
        next => exact congrArg GURL.mk spelled
        next invalid => exact absurd (if_neg invalid) named
      rw [<- same]
      exact shown
    next => exact absurd spelled.symm named
  next => exact absurd spelled.symm named

structure MeansItsList (platform : SubscriptionPlatform) (text : Bytes) (format ruleType : String)
    (rules : SubscriptionRules) : Prop where
  suffix (url : GURL) (now : Time) : ruleType = "host_suffix" → rules.isUsable now = true →
    (rules.matchesUrl platform url now = true ↔ platform.isPublicHttpUrl url = true ∧
      ∃ entry ∈ listedEntries platform text format,
        UnderEntry (withoutTrailingDot (platform.host url)) entry)
  same (url : GURL) (now : Time) : ruleType = "host_exact" → rules.isUsable now = true →
    (rules.matchesUrl platform url now = true ↔ platform.isPublicHttpUrl url = true ∧
      withoutTrailingDot (platform.host url) ∈ listedEntries platform text format)
  url (url : GURL) (now : Time) : ruleType = "url_exact" → rules.isUsable now = true →
    (rules.matchesUrl platform url now = true ↔
      platform.spec url ∈ listedEntries platform text format)
  outside (url : GURL) (now : Time) : ruleType ≠ "url_exact" →
    platform.hostIsIPAddress url = true ∨ platform.isPublicHttpUrl url = false →
    rules.matchesUrl platform url now = false
  increasing : rules.hashes.Pairwise (· < ·)
  counted : rules.error = "" ∨ rules.error = "empty_rules" →
    rules.inputCount = (ruleLines (textLines text)).length ∧
      rules.rejectedBroadCount = (ruleLines (textLines text)).countP (isBroad platform format)
  silent (url : GURL) (now : Time) : rules.error ≠ "" → rules.matchesUrl platform url now = false

theorem SubscriptionRules.matches_usable (url : GURL) (now : Time)
    (found : rules.matchesUrl platform url now = true) :
    rules.isUsable now = true /\ platform.isPublicHttpUrl url = true := by
  unfold SubscriptionRules.matchesUrl at found
  split at found
  next => cases found
  next plain => simpa using plain

theorem SubscriptionRules.silent_after_error (url : GURL) (now : Time) (failed : rules.error ≠ "") :
    rules.matchesUrl platform url now = false := by
  cases found : rules.matchesUrl platform url now with
  | false => rfl
  | true =>
    have usable := (SubscriptionRules.matches_usable url now found).1
    simp [SubscriptionRules.isUsable, failed] at usable

theorem ReadToEnd.domain_free_of_address
    (read : ReadToEnd platform text format ruleType fetched rules)
    (collisionFree : Function.Injective platform.sha256) (hosts : CanonicalHosts platform)
    (url : GURL) (now : Time) (domains : ruleType ≠ "url_exact")
    (address : platform.hostIsIPAddress url = true) :
    rules.matchesUrl platform url now = false := by
  cases found : rules.matchesUrl platform url now with
  | false => rfl
  | true =>
    obtain ⟨usable, shown⟩ := SubscriptionRules.matches_usable url now found
    have valid := (platform.isPublicHttpUrl_gives url shown).valid
    obtain ⟨-, listed⟩ := (read.matches_iff collisionFree url now usable).mp found
    obtain ⟨entry, held, under⟩ : ∃ entry ∈ listedEntries platform text format,
        UnderEntry (withoutTrailingDot (platform.host url)) entry := by
      rcases listed with ⟨-, entry, held, under⟩ | ⟨-, held⟩ | ⟨same, -⟩
      · exact ⟨entry, held, under⟩
      · exact ⟨_, held, Or.inl rfl⟩
      · exact absurd same domains
    obtain ⟨named, domain⟩ := read.domain_entry domains entry held
    exact absurd under (domain.not_address hosts valid address)

theorem ReadToEnd.meansItsList (read : ReadToEnd platform text format ruleType fetched rules)
    (collisionFree : Function.Injective platform.sha256) (hosts : CanonicalHosts platform) :
    MeansItsList platform text format ruleType rules where
  suffix url now typed usable := by
    rw [read.matches_iff collisionFree url now usable]
    simp [Listed, typed]
  same url now typed usable := by
    rw [read.matches_iff collisionFree url now usable]
    simp [Listed, typed]
  url url now typed usable := by
    rw [read.matches_iff collisionFree url now usable]
    simp only [Listed, typed, show ¬"url_exact" = "host_suffix" from by decide,
      show ¬"url_exact" = "host_exact" from by decide, false_and, false_or, true_and]
    exact ⟨fun found => found.2, fun listed => ⟨read.url_public typed url listed, listed⟩⟩
  outside url now domains apart := by
    rcases apart with address | hidden
    · exact read.domain_free_of_address collisionFree hosts url now domains address
    · simp [SubscriptionRules.matchesUrl, hidden]
  increasing := read.increasing
  counted _ := ⟨read.counted, read.broad⟩
  silent url now failed := SubscriptionRules.silent_after_error url now failed

theorem meansItsList_of_refused (failed : rules.error ∈ kParseErrors) (empty : rules.hashes = []) :
    MeansItsList platform text format ruleType rules := by
  have nonempty : rules.error ≠ "" := by
    intro same
    rw [same] at failed
    exact absurd failed (by decide)
  have unusable (now : Time) : ¬rules.isUsable now = true := by
    simp [SubscriptionRules.isUsable, empty]
  refine ⟨fun _ now _ usable => absurd usable (unusable now),
    fun _ now _ usable => absurd usable (unusable now),
    fun _ now _ usable => absurd usable (unusable now),
    fun url now _ _ => SubscriptionRules.silent_after_error url now nonempty,
    empty ▸ List.Pairwise.nil, ?_, fun url now _ => SubscriptionRules.silent_after_error url now nonempty⟩
  rintro (same | same)
  · exact absurd same nonempty
  · rw [same] at failed
    exact absurd failed (by decide)

end Matcher

def plainHost (url : GURL) : String :=
  String.ofList ((url.possiblyInvalidSpec.toList.drop 8).takeWhile (· ≠ '/'))

-- The libraries as they answer for plain `https` URLs of registered names; the digest is the text.
def listPlatform : SubscriptionPlatform where
  parse := GURL.mk
  isValid := fun _ => true
  scheme := fun _ => "https"
  hasUsername := fun _ => false
  hasPassword := fun _ => false
  hasQuery := fun _ => false
  hasRef := fun _ => false
  host := plainHost
  hostNoBrackets := plainHost
  path := fun url => String.ofList ((url.possiblyInvalidSpec.toList.drop 8).dropWhile (· ≠ '/'))
  clearQueryAndRef := id
  serializedOrigin := fun _ => "https://example.com"
  assignFromIPLiteral := fun _ => none
  isPubliclyRoutable := fun _ => false
  readDict := fun _ => none
  timeFromMilliseconds := fun _ => 0
  sha256 := id
  ed25519Verify := fun _ _ _ => false
  base64Decode := fun _ => none
  isStringUTF8 := fun _ => true
  hostIsIPAddress := fun url => endsInNumber (plainHost url)
  canonicalHostRegistry := fun host => some (if host = "co.uk" then "" else "com")
  writeJson := fun _ => none
  millisecondsFromTime := fun _ => 0

theorem listPlatform_hosts : CanonicalHosts listPlatform := by
  have same (url : GURL) :
      listPlatform.hostIsIPAddress url = endsInNumber (listPlatform.host url) := by
    simp only [listPlatform]
  exact ⟨fun url _ address => Or.inl ((same url).symm.trans address),
    fun url _ name => (same url).symm.trans name⟩

def phishingList : Bytes := utf8 "# list\r\nexample.com.\r\n\nco.uk\n"

end ChromiumHmos.UrlProtection
