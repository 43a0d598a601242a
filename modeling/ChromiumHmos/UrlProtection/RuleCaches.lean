import ChromiumHmos.Lib.Decimal
import ChromiumHmos.UrlProtection.SubscriptionMatch

set_option autoImplicit false

/-! # The cache files of rules and subscriptions -/

namespace ChromiumHmos.UrlProtection

open Base Lib

/-- The sizes a cache file admits. -/
structure Admitted (manifest payload : Bytes) : Prop where
  manifest : 0 < manifest.length ∧ manifest.length ≤ kMaxManifestBytes
  payload : 0 < payload.length ∧ payload.length ≤ kMaxRuleBytes

theorem parseSizeT_free (text : Bytes) (size : Nat) (parsed : parseSizeT text = some size) :
    newline ∉ text := by
  intro held
  have digit : newline ∈ (if text.head? = some 43 then text.tail else text) := by
    split
    next plus =>
      cases text with
      | nil => cases held
      | cons head rest =>
        rcases List.mem_cons.mp held with same | later
        · rw [<- same, List.head?_cons, Option.some.injEq] at plus
          exact absurd plus (by decide)
        · exact later
    next => exact held
  unfold parseSizeT at parsed
  generalize (if text.head? = some 43 then text.tail else text) = digits at digit parsed
  by_cases numeral : digits ≠ [] /\ digits.all (fun byte => 48 <= byte && byte <= 57)
  · exact absurd (List.all_eq_true.mp numeral.2 newline digit) (by decide)
  · rw [if_neg numeral] at parsed
    cases parsed

theorem parseSizeT_decimal (n : Nat) : parseSizeT (decimal n) = some n := by
  have plain : (decimal n).head? ≠ some 43 := by
    intro plus
    exact absurd (decimal_digits n 43 (List.mem_of_head? plus)).1 (by decide)
  have digits : (decimal n).all (fun byte => 48 <= byte && byte <= 57) = true := by
    rw [List.all_eq_true]
    intro byte held
    simpa using decimal_digits n byte held
  rw [parseSizeT]
  simp only [plain, if_false, digits, and_true, decimal_ne_nil, ne_eq, not_false_eq_true, if_true]
  exact congrArg some (digitsValue_decimal n)

theorem findIdx_newline (text rest : Bytes) (free : newline ∉ text) :
    (text ++ newline :: rest).findIdx? (· == newline) = some text.length := by
  rw [List.findIdx?_append]
  have missing : text.findIdx? (· == newline) = none := by
    rw [List.findIdx?_eq_none_iff]
    intro byte held
    exact beq_eq_false_iff_ne.mpr fun same => free (same ▸ held)
  simp [missing, List.findIdx?_cons]

-- The first newline ends the length, whatever bytes follow it.
theorem split_at_newline (cache : Bytes) (separator : Nat)
    (found : cache.findIdx? (· == newline) = some separator) :
    cache = cache.take separator ++ newline :: cache.drop (separator + 1) /\
      separator < cache.length := by
  obtain ⟨inside, here, _⟩ := List.findIdx?_eq_some_iff_getElem.mp found
  have byte : cache[separator] = newline := by simpa using here
  refine ⟨?_, inside⟩
  rw [<- byte, <- List.drop_eq_getElem_cons inside, List.take_append_drop]

theorem decodeRuleCache_iff (cache manifest payload : Bytes) :
    decodeRuleCache cache = some (manifest, payload) ↔ Admitted manifest payload /\
      ∃ text, text.length <= 6 /\ parseSizeT text = some manifest.length /\
        cache = text ++ newline :: (manifest ++ payload) := by
  constructor
  · intro decoded
    unfold decodeRuleCache at decoded
    split at decoded
    next => cases decoded
    next separator found =>
      obtain ⟨split_, inside⟩ := split_at_newline cache separator found
      split at decoded
      next => cases decoded
      next short =>
        split at decoded
        next => cases decoded
        next length parsed =>
          split at decoded
          next => cases decoded
          next sizes =>
            simp only [not_or, Nat.not_le, Nat.not_lt, gt_iff_lt] at sizes
            obtain ⟨positive, manifestLimit, enough, payloadLimit⟩ := sizes
            simp only [Option.some.injEq, Prod.mk.injEq] at decoded
            obtain ⟨rfl, rfl⟩ := decoded
            have size : ((cache.drop (separator + 1)).take length).length = length := by
              rw [List.length_take, List.length_drop]
              omega
            refine ⟨⟨?_, ?_⟩, cache.take separator, ?_, ?_, ?_⟩
            · rw [size]
              exact ⟨Nat.pos_of_ne_zero positive, manifestLimit⟩
            · rw [List.length_drop]
              omega
            · rw [List.length_take]
              omega
            · rw [size]
              exact parsed
            · have rest : (cache.drop (separator + 1)).take length ++
                  cache.drop (separator + 1 + length) = cache.drop (separator + 1) := by
                rw [<- List.drop_drop (i := length)]
                exact List.take_append_drop _ _
              rw [rest]
              exact split_
  · rintro ⟨admitted, text, short, parsed, rfl⟩
    have found := findIdx_newline text (manifest ++ payload) (parseSizeT_free text _ parsed)
    have total : (text ++ newline :: (manifest ++ payload)).length =
        text.length + 1 + manifest.length + payload.length := by
      simp only [List.length_append, List.length_cons]
      omega
    have first : (text ++ newline :: (manifest ++ payload)).take text.length = text := by
      rw [List.take_left']
      rfl
    have after : (text ++ newline :: (manifest ++ payload)).drop (text.length + 1) =
        manifest ++ payload := by
      rw [<- List.drop_drop, List.drop_left' rfl]
      rfl
    have last : (text ++ newline :: (manifest ++ payload)).drop
        (text.length + 1 + manifest.length) = payload := by
      rw [<- List.drop_drop, after, List.drop_left' rfl]
    obtain ⟨⟨filled, fits⟩, someBytes, payloadFits⟩ := admitted
    unfold decodeRuleCache
    rw [found]
    simp only
    rw [if_neg (by omega), first, parsed]
    simp only
    rw [if_neg (by rw [total]; omega), after, last, List.take_left' rfl]

theorem encodeRuleCache_eq (manifest payload : Bytes) : encodeRuleCache manifest payload =
    decimal manifest.length ++ newline :: (manifest ++ payload) := by
  rw [encodeRuleCache, utf8, toUTF8_toString]

theorem decodeRuleCache_encode (manifest payload : Bytes) (admitted : Admitted manifest payload) :
    decodeRuleCache (encodeRuleCache manifest payload) = some (manifest, payload) := by
  refine (decodeRuleCache_iff _ _ _).mpr
    ⟨admitted, decimal manifest.length, ?_, parseSizeT_decimal _, encodeRuleCache_eq _ _⟩
  refine (decimal_length _ 6 (by omega)).mpr (Nat.lt_of_le_of_lt admitted.manifest.2 ?_)
  decide

theorem decodeRuleCache_encode_some (manifest payload other rest : Bytes)
    (decoded : decodeRuleCache (encodeRuleCache manifest payload) = some (other, rest)) :
    Admitted manifest payload /\ other = manifest /\ rest = payload := by
  obtain ⟨admitted, text, -, parsed, same⟩ := (decodeRuleCache_iff _ _ _).mp decoded
  rw [encodeRuleCache_eq] at same
  have free := parseSizeT_free text _ parsed
  have plain := parseSizeT_free _ _ (parseSizeT_decimal manifest.length)
  have sizes : (decimal manifest.length).length = text.length := by
    have left := findIdx_newline (decimal manifest.length) (manifest ++ payload) plain
    rw [same, findIdx_newline text (other ++ rest) free] at left
    exact (Option.some.inj left).symm
  obtain ⟨numeral, tail⟩ := List.append_inj same sizes
  rw [<- numeral, parseSizeT_decimal] at parsed
  obtain ⟨first, last⟩ := List.append_inj (List.cons.inj tail).2 (Option.some.inj parsed)
  rw [<- first, <- last] at admitted
  exact ⟨admitted, first.symm, last.symm⟩

theorem hexDigit_injective (a b : Nat) (small : a < 16) (other : b < 16)
    (same : hexDigit a = hexDigit b) : a = b := by
  have all : ∀ a : Fin 16, ∀ b : Fin 16, hexDigit a = hexDigit b -> a = b := by decide
  exact congrArg Fin.val (all ⟨a, small⟩ ⟨b, other⟩ same)

theorem hexEncode_injective (a b : Bytes) (same : hexEncode a = hexEncode b) : a = b := by
  have digits := String.ofList_injective same
  induction a generalizing b with
  | nil =>
    cases b with
    | nil => rfl
    | cons head rest => cases digits
  | cons head rest ih =>
    cases b with
    | nil => cases digits
    | cons other others =>
      simp only [List.flatMap_cons, List.cons_append, List.nil_append, List.cons.injEq] at digits
      obtain ⟨high, low, later⟩ := digits
      have upper := hexDigit_injective _ _ (by have := head.toNat_lt; omega)
        (by have := other.toNat_lt; omega) high
      have lower := hexDigit_injective _ _ (by omega) (by omega) low
      have byte : head = other := UInt8.toNat_inj.mp (by omega)
      rw [byte, ih others (congrArg String.ofList later) later]

section Subscriptions

variable (platform : SubscriptionPlatform)

-- The loop reads no time: only the result carries it.
theorem parseLines_fetched (format : String) (lines : List Bytes) (rules : SubscriptionRules)
    (fetched : Time) :
    parseLines platform format { rules with fetched := fetched } lines =
      match parseLines platform format rules lines with
      | .ok read => .ok { read with fetched := fetched }
      | .error refused => .error { refused with fetched := fetched } := by
  induction lines generalizing rules with
  | nil => rfl
  | cons line rest ih =>
    rw [parseLines, parseLines]
    dsimp only
    split
    next => exact ih rules
    next =>
      split
      next => rfl
      next =>
        split
        next => exact ih { rules with
          inputCount := rules.inputCount + 1, rejectedBroadCount := rules.rejectedBroadCount + 1 }
        next =>
          split
          next => rfl
          next =>
            rw [<- ih]
            congr 1
            simp only [SubscriptionRules.push, SubscriptionRules.reserve]
            split <;> rfl

theorem parseSubscriptionRules_fetched (text : Bytes) (format ruleType : String)
    (fetched other : Time)
    (clean : (parseSubscriptionRules platform text format ruleType fetched).error = "") :
    parseSubscriptionRules platform text format ruleType other =
      { parseSubscriptionRules platform text format ruleType fetched with fetched := other } := by
  revert clean
  unfold parseSubscriptionRules
  dsimp only
  split
  next => exact fun failed => absurd failed (by simp)
  next =>
    split
    next => exact fun failed => absurd failed (by simp)
    next =>
      split
      next => exact fun failed => absurd failed (by simp)
      next =>
        intro _
        generalize (if [239, 187, 191].isPrefixOf text = true then text.drop 3 else text) = body
        have later := parseLines_fetched platform format (body.splitOn newline)
          { error := "invalid_format", digest := hexEncode (platform.sha256 text),
            ruleType := ruleType, fetched := fetched,
            capacity := max 0 (min (body.length / 32) kSubscriptionMaxRecords) } other
        simp only [SubscriptionRules.reserve] at later ⊢
        rw [later]
        generalize parseLines platform format
          { error := "invalid_format", digest := hexEncode (platform.sha256 text),
            ruleType := ruleType, fetched := fetched,
            capacity := max 0 (min (body.length / 32) kSubscriptionMaxRecords) }
          (body.splitOn newline) = outcome
        cases outcome <;> rfl

/-- The header `EncodeSubscriptionCache` writes. -/
def subscriptionHeader (endpoint : GURL) (format : String) (rules : SubscriptionRules) : DictValue :=
  let header := DictValue.set [] "format" (.int 1)
  let header := DictValue.set header "url" (.string (platform.spec endpoint))
  let header := DictValue.set header "inputFormat" (.string format)
  let header := DictValue.set header "ruleType" (.string rules.ruleType)
  let header := DictValue.set header "sha256" (.string rules.digest)
  DictValue.set header "fetchedAt" (.double (.finite (platform.millisecondsFromTime rules.fetched)))

theorem encodeSubscriptionCache_eq (endpoint : GURL) (format : String) (rules : SubscriptionRules)
    (raw : Bytes) : encodeSubscriptionCache platform endpoint format rules raw =
      match platform.writeJson (subscriptionHeader platform endpoint format rules) with
      | some header => encodeRuleCache header raw
      | none => [] := rfl

theorem subscriptionHeader_reads (endpoint : GURL) (format : String) (rules : SubscriptionRules) :
    (subscriptionHeader platform endpoint format rules).findInt "format" = some 1 ∧
      (subscriptionHeader platform endpoint format rules).findString "url" =
        some (platform.spec endpoint) /\
      (subscriptionHeader platform endpoint format rules).findString "inputFormat" = some format ∧
      (subscriptionHeader platform endpoint format rules).findString "ruleType" =
        some rules.ruleType /\
      (subscriptionHeader platform endpoint format rules).findString "sha256" = some rules.digest ∧
      (subscriptionHeader platform endpoint format rules).findDouble "fetchedAt" =
        some (.finite (platform.millisecondsFromTime rules.fetched)) := by
  simp [subscriptionHeader, DictValue.findInt, DictValue.findString, DictValue.findDouble,
    DictValue.find_set]

/-- The fetch time as the written milliseconds give it back. -/
def cachedFetch (fetched : Time) : Time :=
  platform.timeFromMilliseconds (platform.millisecondsFromTime fetched)

/-- What the JSON writer wrote, the reader reads. -/
def ReadsWritten : Prop :=
  ∀ dict bytes, platform.writeJson dict = some bytes → platform.readDict bytes = some dict

structure CacheAgrees (endpoint requested : GURL) (format requestedFormat requestedType : String)
    (rules : SubscriptionRules) (raw : Bytes) (now : Time) : Prop where
  endpoint : platform.spec requested = platform.spec endpoint
  format : requestedFormat = format
  ruleType : requestedType = rules.ruleType
  early : cachedFetch platform rules.fetched ≤ now
  late : now < cachedFetch platform rules.fetched + days 7
  digest : (parseSubscriptionRules platform raw requestedFormat requestedType
    (cachedFetch platform rules.fetched)).digest = rules.digest
  usable : (parseSubscriptionRules platform raw requestedFormat requestedType
    (cachedFetch platform rules.fetched)).isUsable now = true

theorem decodeSubscriptionCache_encode (json : ReadsWritten platform) (endpoint requested : GURL)
    (format requestedFormat requestedType : String) (rules : SubscriptionRules) (raw : Bytes)
    (now : Time)
    (clean : (decodeSubscriptionCache platform
      (encodeSubscriptionCache platform endpoint format rules raw)
      requested requestedFormat requestedType now).error = "") :
    CacheAgrees platform endpoint requested format requestedFormat requestedType rules raw now := by
  rw [encodeSubscriptionCache_eq] at clean
  split at clean
  next header written =>
    unfold decodeSubscriptionCache at clean
    split at clean
    next => exact absurd clean (by decide)
    next other rest decoded =>
      obtain ⟨-, rfl, rfl⟩ := decodeRuleCache_encode_some _ _ _ _ decoded
      rw [json _ _ written] at clean
      obtain ⟨version, url, inputFormat, type, sha256, fetchedAt⟩ :=
        subscriptionHeader_reads platform endpoint format rules
      simp only [version, url, inputFormat, type, sha256, fetchedAt] at clean
      split at clean
      next => exact absurd clean (by decide)
      next asked =>
        simp only [ne_eq, Option.some.injEq, Bool.or_eq_true, decide_eq_true_eq, not_or,
          Decidable.not_not, not_true_eq_false, decide_false, Bool.false_or] at asked
        split at clean
        next => exact absurd clean (by decide)
        next early =>
          split at clean
          next => exact absurd clean (by simp)
          next late =>
            split at clean
            next => exact absurd clean (by decide)
            next used =>
              simp only [Bool.or_eq_true, Bool.not_eq_true', ne_eq, decide_eq_true_eq, not_or,
                Bool.not_eq_false, Decidable.not_not, Option.some.injEq] at used
              exact ⟨asked.1.1.symm, asked.1.2.symm, asked.2.symm, not_lt.mp early,
                not_le.mp late, used.2.symm, used.1⟩
  next => exact absurd clean (by simp [decodeSubscriptionCache, decodeRuleCache, cacheInvalid])

theorem decodeSubscriptionCache_agrees (json : ReadsWritten platform) (endpoint requested : GURL)
    (format requestedFormat requestedType : String) (rules : SubscriptionRules) (raw : Bytes)
    (now : Time) (header : Bytes)
    (written : platform.writeJson (subscriptionHeader platform endpoint format rules) = some header)
    (fits : Admitted header raw)
    (agrees : CacheAgrees platform endpoint requested format requestedFormat requestedType rules raw
      now) :
    decodeSubscriptionCache platform (encodeSubscriptionCache platform endpoint format rules raw)
        requested requestedFormat requestedType now =
      parseSubscriptionRules platform raw requestedFormat requestedType
        (cachedFetch platform rules.fetched) := by
  obtain ⟨version, url, inputFormat, type, sha256, fetchedAt⟩ :=
    subscriptionHeader_reads platform endpoint format rules
  rw [encodeSubscriptionCache_eq, written]
  simp only [decodeSubscriptionCache, decodeRuleCache_encode _ _ fits, json _ _ written, version,
    url, inputFormat, type, sha256, fetchedAt]
  have early := agrees.early
  have late := agrees.late
  have usable := agrees.usable
  have digest := agrees.digest
  rw [cachedFetch] at early late usable digest
  rw [if_neg (by simp [agrees.endpoint, agrees.format, agrees.ruleType]), if_neg (by linarith),
    if_neg (by linarith), if_neg (by simp [usable, digest])]
  rfl

variable {platform}

structure CachedList (platform : SubscriptionPlatform) (endpoint : GURL) (format ruleType : String)
    (raw : Bytes) (fetched : Time) : Prop where
  endpoint : validSubscriptionEndpoint platform endpoint = true
  clean : (parseSubscriptionRules platform raw format ruleType fetched).error = ""

variable {endpoint : GURL} {format ruleType : String} {raw : Bytes} {fetched : Time}

theorem CachedList.read
    (cached : CachedList platform endpoint format ruleType raw fetched) :
    ReadToEnd platform raw format ruleType fetched
      (parseSubscriptionRules platform raw format ruleType fetched) := by
  rcases parseSubscriptionRules_cases platform raw format ruleType fetched with ⟨failed, -⟩ | read
  · rw [cached.clean] at failed
    exact absurd failed (by decide)
  · exact read

theorem CachedList.hashes
    (cached : CachedList platform endpoint format ruleType raw fetched) :
    (parseSubscriptionRules platform raw format ruleType fetched).hashes ≠ [] := by
  intro empty
  have error := cached.read.error
  rw [if_pos empty, cached.clean] at error
  exact absurd error (by decide)

theorem CachedList.recovered
    (cached : CachedList platform endpoint format ruleType raw fetched) (json : ReadsWritten platform)
    (header : Bytes)
    (written : platform.writeJson (subscriptionHeader platform endpoint format
      (parseSubscriptionRules platform raw format ruleType fetched)) = some header)
    (fits : Admitted header raw) (now : Time) (early : cachedFetch platform fetched <= now)
    (late : now < cachedFetch platform fetched + days 7) :
    decodeSubscriptionCache platform
        (encodeSubscriptionCache platform endpoint format
          (parseSubscriptionRules platform raw format ruleType fetched) raw)
        endpoint format ruleType now =
      { parseSubscriptionRules platform raw format ruleType fetched with
        fetched := cachedFetch platform fetched } := by
  have read := cached.read
  have again := parseSubscriptionRules_fetched platform raw format ruleType fetched
    (cachedFetch platform fetched) cached.clean
  rw [decodeSubscriptionCache_agrees platform json endpoint endpoint format format ruleType _ raw now
    header written fits ⟨rfl, rfl, read.typed.symm, ?_, ?_, ?_, ?_⟩, read.dated]
  · exact again
  · rw [read.dated]
    exact early
  · rw [read.dated]
    exact late
  · rw [read.dated, again]
  · rw [read.dated, again]
    simp [SubscriptionRules.isUsable, cached.clean, cached.hashes, early, late]

theorem CachedList.bound {requested : GURL}
    {requestedFormat requestedType : String} {other : Bytes} {now : Time}
    (cached : CachedList platform endpoint format ruleType raw fetched) (json : ReadsWritten platform)
    (collisionFree : Function.Injective platform.sha256) (empty : platform.isValid {} = false)
    (clean : (decodeSubscriptionCache platform
      (encodeSubscriptionCache platform endpoint format
        (parseSubscriptionRules platform raw format ruleType fetched) other)
      requested requestedFormat requestedType now).error = "") :
    requested = endpoint /\ requestedFormat = format /\ requestedType = ruleType /\ other = raw /\
      cachedFetch platform fetched <= now /\ now < cachedFetch platform fetched + days 7 := by
  have read := cached.read
  have agrees := decodeSubscriptionCache_encode platform json _ _ _ _ _ _ _ _ clean
  have shown := platform.isPublicHttpUrl_gives endpoint (by
    have valid := cached.endpoint
    simp only [validSubscriptionEndpoint, Bool.and_eq_true] at valid
    exact valid.1.1)
  have named : endpoint.possiblyInvalidSpec ≠ "" := by
    intro same
    have nothing : endpoint = {} := congrArg GURL.mk same
    exact absurd (shown.valid.symm.trans (nothing ▸ empty)) (by simp)
  have same : requested = endpoint := by
    have spelled := agrees.endpoint
    simp only [UrlLibrary.spec, shown.valid, if_true] at spelled
    split at spelled
    next => exact congrArg GURL.mk spelled
    next => exact absurd spelled.symm named
  have bytes : other = raw := by
    have digest := agrees.digest
    rcases parseSubscriptionRules_cases platform other requestedFormat requestedType
        (cachedFetch platform (parseSubscriptionRules platform raw format ruleType fetched).fetched)
      with ⟨failed, empty⟩ | readOther
    · have usable := agrees.usable
      simp [SubscriptionRules.isUsable, empty] at usable
    · rw [readOther.digested, read.digested] at digest
      exact collisionFree (hexEncode_injective _ _ digest)
  have early := agrees.early
  have late := agrees.late
  rw [read.dated] at early late
  exact ⟨same, agrees.format, agrees.ruleType.trans read.typed, bytes, early, late⟩

end Subscriptions

/-- What a subscription's cache file gives back for each request, at each time. -/
structure CacheGivesBack (platform : SubscriptionPlatform) (endpoint : GURL)
    (format ruleType : String) (raw : Bytes) (fetched : Time) : Prop where
  within (now : Time) : cachedFetch platform fetched ≤ now →
    now < cachedFetch platform fetched + days 7 →
    decodeSubscriptionCache platform
        (encodeSubscriptionCache platform endpoint format
          (parseSubscriptionRules platform raw format ruleType fetched) raw)
        endpoint format ruleType now =
      { parseSubscriptionRules platform raw format ruleType fetched with
        fetched := cachedFetch platform fetched }
  outside (now : Time) :
    now < cachedFetch platform fetched ∨ cachedFetch platform fetched + days 7 ≤ now →
    (decodeSubscriptionCache platform
      (encodeSubscriptionCache platform endpoint format
        (parseSubscriptionRules platform raw format ruleType fetched) raw)
      endpoint format ruleType now).error ≠ ""
  bound (requested : GURL) (requestedFormat requestedType : String) (other : Bytes)
    (now later : Time) :
    ¬(requested = endpoint ∧ requestedFormat = format ∧ requestedType = ruleType ∧ other = raw) →
    (decodeSubscriptionCache platform
      (encodeSubscriptionCache platform endpoint format
        (parseSubscriptionRules platform raw format ruleType fetched) other)
      requested requestedFormat requestedType now).isUsable later = false

theorem rule_caches_round_trip (platform : SubscriptionPlatform) (json : ReadsWritten platform)
    (collisionFree : Function.Injective platform.sha256) (empty : platform.isValid {} = false) :
    (∀ manifest payload, Admitted manifest payload →
        decodeRuleCache (encodeRuleCache manifest payload) = some (manifest, payload)) ∧
      (∀ cache manifest payload, decodeRuleCache cache = some (manifest, payload) ↔
        Admitted manifest payload ∧ ∃ text, text.length ≤ 6 ∧
          parseSizeT text = some manifest.length ∧
          cache = text ++ newline :: (manifest ++ payload)) ∧
      ∀ endpoint format ruleType raw fetched header,
        validSubscriptionEndpoint platform endpoint = true →
        (parseSubscriptionRules platform raw format ruleType fetched).error = "" →
        platform.writeJson (subscriptionHeader platform endpoint format
          (parseSubscriptionRules platform raw format ruleType fetched)) = some header →
        Admitted header raw → CacheGivesBack platform endpoint format ruleType raw fetched := by
  refine ⟨decodeRuleCache_encode, decodeRuleCache_iff, ?_⟩
  intro endpoint format ruleType raw fetched header valid clean written fits
  have cached : CachedList platform endpoint format ruleType raw fetched := ⟨valid, clean⟩
  refine ⟨cached.recovered json header written fits, ?_, ?_⟩
  · intro now apart clean
    obtain ⟨-, -, -, -, early, late⟩ := cached.bound json collisionFree empty clean
    rcases apart with before | after
    · linarith
    · linarith
  · intro requested requestedFormat requestedType other now later differs
    rw [Bool.eq_false_iff]
    intro usable
    refine differs ?_
    have clean : (decodeSubscriptionCache platform
        (encodeSubscriptionCache platform endpoint format
          (parseSubscriptionRules platform raw format ruleType fetched) other)
        requested requestedFormat requestedType now).error = "" := by
      simp only [SubscriptionRules.isUsable, Bool.and_eq_true, beq_iff_eq] at usable
      exact usable.1.1.1
    obtain ⟨same, inputFormat, type, bytes, -⟩ := cached.bound json collisionFree empty clean
    exact ⟨same, inputFormat, type, bytes⟩

/-- A length may be written with a plus sign. -/
theorem signed_length_is_read : ¬∀ cache manifest payload,
    decodeRuleCache cache = some (manifest, payload) → cache = encodeRuleCache manifest payload := by
  intro only
  have read : decodeRuleCache (43 :: 49 :: newline :: [65, 66]) = some ([65], [66]) := by decide
  have same := only _ _ _ read
  rw [encodeRuleCache_eq] at same
  exact absurd same (by decide)

def feedEndpoint : GURL := GURL.mk "https://rules.example.com/list"

def feedText : Bytes := utf8 "example.com\n"

def feedRules (platform : SubscriptionPlatform) : SubscriptionRules :=
  parseSubscriptionRules platform feedText "domains" "host_exact" 0

-- The JSON text of the one header that is written here.
def feedHeader : Bytes :=
  utf8 "\x7b\"format\":1,\"url\":\"https://rules.example.com/list\",\"fetchedAt\":0.0\x7d"

def feedEntries : DictValue :=
  [("fetchedAt", .double (.finite 0)), ("sha256", .string (hexEncode feedText)),
    ("ruleType", .string "host_exact"), ("inputFormat", .string "domains"),
    ("url", .string feedEndpoint.possiblyInvalidSpec), ("format", .int 1)]

def writesFeed : DictValue → Bool
  | [(fetchedAt, .double (.finite time)), (sha256, .string digest), (ruleType, .string type),
      (inputFormat, .string format), (url, .string spec), (version, .int number)] =>
      fetchedAt = "fetchedAt" && time = 0 && sha256 = "sha256" &&
        digest = hexEncode feedText && ruleType = "ruleType" && type = "host_exact" &&
        inputFormat = "inputFormat" && format = "domains" && url = "url" &&
        spec = feedEndpoint.possiblyInvalidSpec && version = "format" && number = 1
  | _ => false

def feedPlatform : SubscriptionPlatform :=
  { listPlatform with
    isValid := fun url => url ≠ {}
    readDict := fun bytes => if bytes = feedHeader then some feedEntries else none
    writeJson := fun dict => if writesFeed dict then some feedHeader else none }

theorem writesFeed_only (dict : DictValue) (written : writesFeed dict = true) :
    dict = feedEntries := by
  unfold writesFeed at written
  split at written
  next =>
    simp only [Bool.and_eq_true, decide_eq_true_eq] at written
    simp [written, feedEntries]
  next => cases written

theorem feedPlatform_reads : ReadsWritten feedPlatform := by
  intro dict bytes written
  simp only [feedPlatform] at written ⊢
  split at written
  next feed =>
    rw [writesFeed_only dict feed]
    cases written
    exact if_pos rfl
  next => cases written

theorem rule_caches_round_trip_feed :
    (decodeSubscriptionCache feedPlatform
      (encodeSubscriptionCache feedPlatform feedEndpoint "domains" (feedRules feedPlatform) feedText)
      feedEndpoint "domains" "host_exact" 5).hashes = (feedRules feedPlatform).hashes := by
  obtain ⟨-, -, subscriptions⟩ := rule_caches_round_trip feedPlatform feedPlatform_reads
    Function.injective_id (by decide)
  have back := subscriptions feedEndpoint "domains" "host_exact" feedText 0 feedHeader
    (by decide +kernel) (by decide +kernel) (by decide +kernel)
    ⟨by decide +kernel, by decide +kernel⟩
  rw [feedRules, back.within 5 (by decide) (by decide)]

end ChromiumHmos.UrlProtection
