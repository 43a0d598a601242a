import ChromiumHmos.UrlProtection.RuleActivation

set_option autoImplicit false

/-!
# Freshness, online and after a restart

A restart adopts a verified download whenever the packaged rules are not usable. `OnManifest`
compares generation times without asking that.
-/

namespace ChromiumHmos.UrlProtection

open Base Transition UpdaterHost

variable (platform : Platform)

namespace RuleUpdater

/-- The update ended because its manifest is older than the rules in force. -/
def RefusedAsStale (u : RuleUpdater) : Prop := u.loader = none ∧ u.reason = "stale_source"

instance (u : RuleUpdater) : Decidable u.RefusedAsStale :=
  inferInstanceAs (Decidable (u.loader = none ∧ u.reason = "stale_source"))

theorem schedule_loader (u : RuleUpdater) (clock : Clock) (delay : TimeDelta) :
    (u.schedule clock delay).loader = u.loader := by
  unfold schedule
  split <;> rfl

theorem schedule_reason (u : RuleUpdater) (clock : Clock) (delay : TimeDelta) :
    (u.schedule clock delay).reason = u.reason := by
  unfold schedule
  split <;> rfl

theorem fail_reason (u : RuleUpdater) (clock : Clock) (reason : String) : (u.fail clock reason).reason = reason := by
  unfold fail
  exact schedule_reason _ _ _

theorem fail_loader (u : RuleUpdater) (clock : Clock) (reason : String) :
    (u.fail clock reason).loader = u.loader := by
  unfold fail
  exact schedule_loader _ _ _

variable {u : RuleUpdater} {clock : Clock} {json : Bytes} {manifest : RuleManifest}

theorem onManifest_verified
    (verified : verifyRuleManifest platform json u.config u.sequence clock.now = some manifest)
    (accepted : acceptRuleSequence manifest u.sequence u.digest = true)
    (unusable : u.rules.isUsable clock.now = false) :
    u.onManifest platform clock (some json) =
      if manifest.generated < u.rules.generated
      then ({ u with loader := none } : RuleUpdater).fail clock "stale_source"
      else { u with manifestJson := json, manifest := manifest, loader := some .payload } := by
  unfold onManifest
  simp [verified, accepted, unusable]

theorem refusedAsStale_iff
    (verified : verifyRuleManifest platform json u.config u.sequence clock.now = some manifest)
    (accepted : acceptRuleSequence manifest u.sequence u.digest = true)
    (unusable : u.rules.isUsable clock.now = false) :
    (u.onManifest platform clock (some json)).RefusedAsStale ↔ manifest.generated < u.rules.generated := by
  rw [onManifest_verified platform verified accepted unusable]
  split
  next older => exact iff_of_true ⟨fail_loader _ _ _, fail_reason _ _ _⟩ older
  next fresh => exact iff_of_false (fun refused => absurd refused.1 nofun) fresh

end RuleUpdater

variable {minimum : Int} {manifest : RuleManifest}

theorem initializeRules_adopts {view : WorkerView} {cache : StoredFile} {digest : String} {rules : LocalRules}
    (cached : readRuleCache platform cache (loadConfig platform view.configFile) minimum digest view =
      some (manifest, rules))
    (unusable : (loadLocalRules platform view.rulesFile view.packageNow).isUsable view.usableNow = false) :
    (initializeRules platform view cache minimum digest true).rules = rules /\
      (initializeRules platform view cache minimum digest true).source = .download := by
  unfold initializeRules
  simp [cached, unusable]

theorem verified_recent {json : Bytes} {config : UpdateConfig} {now : Time}
    (verified : verifyRuleManifest platform json config minimum now = some manifest) :
    now - days 7 < manifest.generated := by
  obtain ⟨-, current, short⟩ := (verifyRuleManifest_spec platform json config minimum now manifest verified).1.window
  linarith

/--
The restart path always adopts. The online path does so unless the unusable rules carry a later date, which rules that
are missing, loading or unreadable never do.
-/
theorem online_agrees_iff (u : RuleUpdater) (clock : Clock) (json : Bytes) (manifest : RuleManifest)
    (verified : verifyRuleManifest platform json u.config u.sequence clock.now = some manifest)
    (accepted : acceptRuleSequence manifest u.sequence u.digest = true)
    (unusable : u.rules.isUsable clock.now = false) :
    (¬ (u.onManifest platform clock (some json)).RefusedAsStale ↔ u.rules.generated ≤ manifest.generated) ∧
    (u.rules.generated = 0 → days 7 ≤ clock.now → ¬ (u.onManifest platform clock (some json)).RefusedAsStale) ∧
    (∀ (view : WorkerView) (cache : StoredFile) (rules : LocalRules),
      readRuleCache platform cache (loadConfig platform view.configFile) u.sequence u.digest view =
        some (manifest, rules) →
      (loadLocalRules platform view.rulesFile view.packageNow).isUsable view.usableNow = false →
      (initializeRules platform view cache u.sequence u.digest true).rules = rules ∧
        (initializeRules platform view cache u.sequence u.digest true).source = .download) := by
  have stale := RuleUpdater.refusedAsStale_iff platform verified accepted unusable
  refine ⟨by rw [stale, not_lt], fun undated recent refused => ?_, fun view cache rules cached broken =>
    initializeRules_adopts platform cached broken⟩
  have older := stale.mp refused
  have made := verified_recent platform verified
  linarith

instance decidableUpdaterPermitted (s : UpdaterHost) : (op : UpdaterOp) → Decidable (s.permitted op)
  | .timer clock => inferInstanceAs (Decidable (∃ due, s.updater.timer = some due ∧ due ≤ clock.ticks))
  | .manifest .. => inferInstanceAs (Decidable (s.updater.loader = some .manifest))
  | .payload .. => inferInstanceAs (Decidable (s.updater.loader = some .payload))
  | .acquire _ | .release | .requestUpdate _ | .work _ | .reply _ | .flush | .tamper _ | .restart _ =>
    inferInstanceAs (Decidable True)

def hourMs : Rat := 3600 * 1000

def exampleDigest : String := String.ofList (List.replicate 64 '0')

def examplePackage (generatedAt expiresAt : Rat) : DictValue :=
  [("format", .int 1), ("version", .string (String.ofList (List.replicate 40 '0'))),
    ("source", .string "Phishing.Database"), ("urls", .list [.string "https://example.com/"]),
    ("generatedAt", .double (.finite generatedAt)), ("expiresAt", .double (.finite expiresAt))]

-- The texts of the files, each under one byte of its own.
def exampleTexts : List (Bytes × DictValue) :=
  [([1], [("format", .int 1), ("manifestUrl", .string "https://example.com/"), ("minimumSequence", .int 0),
      ("keys", .dict [("key", .string "key")])]),
    -- made after the manifest, and already expired
    ([2], examplePackage (120 * hourMs) (144 * hourMs)),
    ([3], [("format", .int 1), ("keyId", .string "key"), ("signed", .string "signed"),
      ("signature", .string "signature")]),
    ([4], [("format", .int 1), ("sequence", .int 1), ("size", .int 1), ("count", .int 1),
      ("generatedAt", .double (.finite (96 * hourMs))), ("expiresAt", .double (.finite (240 * hourMs))),
      ("rulesUrl", .string "https://example.com/"), ("sha256", .string exampleDigest),
      ("version", .string (String.ofList (List.replicate 40 '0')))]),
    ([5], examplePackage (96 * hourMs) (240 * hourMs))]

def updatePlatform : Platform :=
  { counterPlatform with
    readDict := fun bytes => exampleTexts.lookup bytes
    timeFromMilliseconds := fun ms => 11644473600000000 + (ms * 1000).floor
    sha256 := fun _ => List.replicate 32 0
    ed25519Verify := fun _ _ _ => true
    base64Decode := fun text =>
      if text = "key" then some (List.replicate 32 0)
      else if text = "signed" then some [4]
      else if text = "signature" then some (List.replicate 64 0)
      else none }

-- Seven days after the epoch the files count from.
def exampleNow : Time := 11644473600000000 + days 7

def exampleWorkerView : WorkerView where
  configFile := .content [1]
  rulesFile := .content [2]
  temporary := .missing
  packageNow := exampleNow
  manifestNow := exampleNow
  payloadNow := exampleNow
  usableNow := exampleNow
  writes := true

def exampleClock (ticks : TimeTicks) : Clock := ⟨exampleNow, ticks, seconds 10⟩

def expiredPackage : List UpdaterOp :=
  [.work exampleWorkerView, .reply (exampleClock 0), .acquire (exampleClock 0), .work exampleWorkerView,
    .reply (exampleClock 0), .timer (exampleClock (seconds 10))]

def expiredHost : UpdaterHost := expiredPackage.foldl (next updatePlatform) (start [] .missing true)

-- A reachable state in which the two paths disagree.
theorem expired_rules_refuse :
    (∃ trace, Trace (updaterStep updatePlatform) (start [] .missing true) trace expiredHost) ∧
    expiredHost.permitted (.manifest (exampleClock (seconds 11)) (some [3])) ∧
    (∃ manifest, verifyRuleManifest updatePlatform [3] expiredHost.updater.config expiredHost.updater.sequence
      exampleNow = some manifest ∧
      acceptRuleSequence manifest expiredHost.updater.sequence expiredHost.updater.digest = true) ∧
    expiredHost.updater.rules.isUsable exampleNow = false ∧
    (expiredHost.updater.onManifest updatePlatform (exampleClock (seconds 11)) (some [3])).RefusedAsStale ∧
    (initializeRules updatePlatform exampleWorkerView (.content (encodeRuleCache [3] [5])) expiredHost.updater.sequence
      expiredHost.updater.digest true).source = .download := by
  have follows : Follows UpdaterHost.permitted (next updatePlatform) (start [] .missing true) expiredPackage := by
    decide
  obtain ⟨trace, run, -⟩ := follows.trace
  exact ⟨⟨trace, run⟩, by decide +kernel, by decide +kernel, by decide +kernel, by decide +kernel, by decide +kernel⟩

theorem online_agrees_expired : ∃ manifest : RuleManifest, manifest.sequence = 1 ∧
    (¬ (expiredHost.updater.onManifest updatePlatform (exampleClock (seconds 11)) (some [3])).RefusedAsStale ↔
      expiredHost.updater.rules.generated ≤ manifest.generated) := by
  obtain ⟨manifest, verified, accepted, first⟩ : ∃ manifest, verifyRuleManifest updatePlatform [3]
      expiredHost.updater.config expiredHost.updater.sequence exampleNow = some manifest ∧
      acceptRuleSequence manifest expiredHost.updater.sequence expiredHost.updater.digest = true ∧
      manifest.sequence = 1 := by decide +kernel
  have unusable : expiredHost.updater.rules.isUsable exampleNow = false := by decide +kernel
  have agrees := online_agrees_iff updatePlatform expiredHost.updater (exampleClock (seconds 11)) [3] manifest verified
    accepted unusable
  exact ⟨manifest, first, agrees.1⟩

end ChromiumHmos.UrlProtection
