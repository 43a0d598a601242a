import ChromiumHmos.UrlProtection.RuleUpdater

set_option autoImplicit false

/-!
# What a verified update is

The checks of a manifest and of a payload, each read back from the function that makes it.
-/

namespace ChromiumHmos.UrlProtection

open Base

variable (platform : Platform)

/-- `manifest` was read from exactly the bytes a configured key signed. -/
structure ManifestVerified (config : UpdateConfig) (json : Bytes) (minimum : Int) (now : Time)
    (manifest : RuleManifest) : Prop where
  signed : ∃ envelope id encoded signature key message decoded,
    platform.readDict json = some envelope ∧
      DictValue.findString envelope "keyId" = some id ∧ config.keys[id]? = some key ∧
      DictValue.findString envelope "signed" = some encoded ∧
      platform.base64Decode encoded = some message ∧
      DictValue.findString envelope "signature" = some signature ∧
      platform.base64Decode signature = some decoded ∧
      platform.ed25519Verify message decoded key = true ∧
      parseManifest platform message config minimum = some manifest
  window : manifest.generated ≤ now ∧ now < manifest.expires ∧
    manifest.expires - manifest.generated ≤ days 7
  floor : minimum ≤ manifest.sequence ∧ config.minimumSequence ≤ manifest.sequence

structure PayloadVerified (payload : Bytes) (manifest : RuleManifest) (now : Time)
    (rules : LocalRules) : Prop where
  size : (payload.length : Int) = manifest.size
  digest : hexEncode (platform.sha256 payload) = manifest.sha256
  count : ∃ root urls, platform.readDict payload = some root ∧
    DictValue.findList root "urls" = some urls ∧ (urls.length : Int) = manifest.count
  version : rules.version = manifest.version
  window : rules.generated = manifest.generated ∧ rules.expires = manifest.expires
  parsed : rules = parseLocalRules platform payload now
  usable : rules.isUsable now = true

theorem signedMessage_spec (json : Bytes) (config : UpdateConfig) (message : Bytes)
    (found : signedMessage platform json config = some message) :
    ∃ envelope id encoded signature key decoded,
      platform.readDict json = some envelope /\
        DictValue.findString envelope "keyId" = some id ∧ config.keys[id]? = some key ∧
        DictValue.findString envelope "signed" = some encoded ∧
        platform.base64Decode encoded = some message /\
        DictValue.findString envelope "signature" = some signature ∧
        platform.base64Decode signature = some decoded /\
        platform.ed25519Verify message decoded key = true := by
  unfold signedMessage at found
  cases read : platform.readDict json with
  | none => simp [read] at found
  | some envelope =>
    simp only [read] at found
    split at found
    · contradiction
    split at found
    next id encoded signature keyId signed_ proof =>
      split at found
      next key bytes decoded key_ message_ decoded_ =>
        split at found
        next accepted =>
          obtain rfl := Option.some.inj found
          simp only [Bool.and_eq_true] at accepted
          exact ⟨envelope, id, encoded, signature, key, decoded, rfl, keyId, key_, signed_,
            message_, proof, decoded_, accepted.2⟩
        · contradiction
      · contradiction
    · contradiction

theorem parseManifest_floor (message : Bytes) (config : UpdateConfig) (minimum : Int)
    (manifest : RuleManifest) (parsed : parseManifest platform message config minimum = some manifest) :
    1 <= manifest.sequence /\ minimum <= manifest.sequence /\
      config.minimumSequence ≤ manifest.sequence ∧ manifest.sha256 ≠ "" := by
  unfold parseManifest at parsed
  cases read : platform.readDict message with
  | none => simp [read] at parsed
  | some root =>
    simp only [read] at parsed
    split at parsed
    · contradiction
    split at parsed
    next sequence size count generated expires url digest version _ _ _ _ _ _ _ _ =>
      split at parsed
      · contradiction
      next accepted =>
        obtain rfl := Option.some.inj parsed
        simp only [not_or, not_lt, Bool.not_eq_true, Bool.not_eq_false'] at accepted
        obtain ⟨positive, floor, -, -, -, -, hex, -⟩ := accepted
        refine ⟨positive, le_trans (le_max_left _ _) floor, le_trans (le_max_right _ _) floor, ?_⟩
        rintro rfl
        simp [hexString] at hex
    · contradiction

theorem verifyRuleManifest_spec (json : Bytes) (config : UpdateConfig) (minimum : Int) (now : Time)
    (manifest : RuleManifest)
    (verified : verifyRuleManifest platform json config minimum now = some manifest) :
    ManifestVerified platform config json minimum now manifest ∧ manifest.sha256 ≠ "" := by
  unfold verifyRuleManifest at verified
  split at verified
  · contradiction
  cases signed_ : signedMessage platform json config with
  | none => simp [signed_] at verified
  | some message =>
    simp only [signed_] at verified
    cases parsed : parseManifest platform message config minimum with
    | none => simp [parsed] at verified
    | some found =>
      simp only [parsed] at verified
      split at verified
      next current =>
        obtain rfl := Option.some.inj verified
        obtain ⟨envelope, id, encoded, signature, key, decoded, read, keyId, key_, signed_,
          message_, proof, decoded_, accepted⟩ := signedMessage_spec platform json config message signed_
        obtain ⟨-, floor, minimum_, digest⟩ :=
          parseManifest_floor platform message config minimum found parsed
        simp only [manifestCurrent, Bool.and_eq_true, decide_eq_true_eq] at current
        exact ⟨⟨⟨envelope, id, encoded, signature, key, message, decoded, read, keyId, key_,
          signed_, message_, proof, decoded_, accepted, parsed⟩,
          ⟨current.1.1.1.2, current.1.1.2, current.2⟩, ⟨floor, minimum_⟩⟩, digest⟩
      · contradiction

theorem verifyRulePayload_spec (payload : Bytes) (manifest : RuleManifest) (now : Time)
    (rules : LocalRules) (verified : verifyRulePayload platform payload manifest now = some rules) :
    PayloadVerified platform payload manifest now rules := by
  unfold verifyRulePayload at verified
  split at verified
  · contradiction
  next sized =>
    simp only [not_or, ne_eq, not_not] at sized
    cases listed : (platform.readDict payload).bind fun root => root.findList "urls" with
    | none => simp [listed] at verified
    | some urls =>
      simp only [listed] at verified
      obtain ⟨root, read, found⟩ := Option.bind_eq_some_iff.mp listed
      split at verified
      · contradiction
      next counted =>
        split at verified
        · contradiction
        next matching =>
          obtain rfl := Option.some.inj verified
          simp only [Bool.or_eq_true, Bool.not_eq_true', decide_eq_true_eq, not_or, ne_eq,
            not_not, Bool.not_eq_false] at matching
          obtain ⟨⟨⟨usable, version⟩, generated⟩, expires⟩ := matching
          exact ⟨sized.1, sized.2, ⟨root, urls, read, found, not_not.mp counted⟩, version,
            ⟨generated, expires⟩, rfl, usable⟩

theorem acceptRuleSequence_spec (manifest : RuleManifest) (sequence : Int) (digest : String)
    (accepted : acceptRuleSequence manifest sequence digest = true) :
    sequence < manifest.sequence \/ sequence = manifest.sequence /\ digest = manifest.sha256 := by
  simp only [acceptRuleSequence, Bool.or_eq_true, Bool.and_eq_true, decide_eq_true_eq, beq_iff_eq]
    at accepted
  rcases accepted with newer | ⟨⟨same, -⟩, equal⟩
  · exact .inl newer
  · exact .inr ⟨same.symm, equal.symm⟩

end ChromiumHmos.UrlProtection
