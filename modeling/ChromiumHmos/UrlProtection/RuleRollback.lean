import ChromiumHmos.UrlProtection.RuleWatermark

set_option autoImplicit false

/-!
# No rollback across process lifetimes

Each operation of the host moves the core of the updater and keeps the preference in memory
equal to its watermark; a restart begins a new core from whatever the last flush left.
-/

namespace ChromiumHmos.UrlProtection

open Base Transition

variable (platform : Platform)

namespace RuleUpdater

open UpdaterCore (Moves)

@[simp] theorem schedule_core (u : RuleUpdater) (clock : Clock) (delay : TimeDelta) :
    (u.schedule clock delay).core = u.core := by
  unfold schedule
  split <;> rfl

@[simp] theorem finish_core (u : RuleUpdater) (clock : Clock) :
    (u.finish clock).core = { u.core with updating := false } := by
  rw [finish, schedule_core]
  rfl

@[simp] theorem fail_core (u : RuleUpdater) (clock : Clock) (reason : String) :
    (u.fail clock reason).core = { u.core with updating := false } := by
  rw [fail, schedule_core]
  rfl

variable (u : RuleUpdater)

theorem acquire_moves (clock : Clock) : Moves platform u.core (u.acquire clock).core := by
  have scheduled (v : RuleUpdater) (delay : TimeDelta) :
      (if v.clients = 1 then v.schedule clock delay else v).core = v.core := by
    split <;> simp
  rw [acquire, scheduled]
  split
  next unloaded =>
    simp only [Bool.and_eq_true, Bool.not_eq_true'] at unloaded
    dsimp only
    split
    · exact .after (.hide { status := .loading } unloaded.1) (.load unloaded.1 unloaded.2)
    · exact .hide _ unloaded.1
  · exact .stay _

theorem release_moves : Moves platform u.core u.release.core := by
  unfold release
  split
  · exact .stay _
  · dsimp only
    split
    · exact .stay _
    split
    next loading => exact .stop loading
    · exact .stay _

theorem requestUpdate_moves (clock : Clock) :
    Moves platform u.core (u.requestUpdate clock).2.core := by
  unfold requestUpdate
  split
  · exact .stay _
  next loaded =>
    simp only [Bool.or_eq_true, Bool.not_eq_true', not_or, Bool.not_eq_false] at loaded
    split
    · exact .stay _
    split
    · exact .stay _
    split
    · exact .stay _
    next idle =>
      split
      · exact .stay _
      · exact .request loaded.2 (by simpa [core] using idle)

theorem onManifest_moves (clock : Clock) (body : Option Bytes)
    (loading : u.loader = some .manifest) :
    Moves platform u.core (u.onManifest platform clock body).core := by
  have stop : Moves platform u.core { u.core with loader := none, updating := false } :=
    .stop (by simp [core, loading])
  have failed (reason : String) :
      Moves platform u.core (({ u with loader := none } : RuleUpdater).fail clock reason).core := by
    rw [fail_core]
    exact stop
  unfold onManifest
  cases body with
  | none => exact failed _
  | some json =>
    dsimp only
    split
    · exact failed _
    next manifest verified =>
      split
      · exact failed _
      split
      · exact failed _
      next accepted =>
        split
        · rw [finish_core]
          exact stop
        · have signed := (verifyRuleManifest_spec platform json u.config u.sequence clock.now
            manifest verified).1
          have newer := accept_newer manifest u.sequence u.digest (by simpa using accepted)
          exact .fetch json manifest loading ⟨⟨u.config, clock.now, signed⟩, newer⟩

theorem onPayload_moves (clock : Clock) (arrived : Bool) (loading : u.loader = some .payload) :
    Moves platform u.core (u.onPayload clock arrived).core := by
  unfold onPayload
  cases arrived with
  | false =>
    simp only [Bool.not_false, if_true, fail_core]
    exact .stop (by simp [core, loading])
  | true => exact .verify loading

end RuleUpdater

theorem readRuleCache_spec (cache : StoredFile) (config : UpdateConfig) (minimum : Int)
    (digest : String) (view : WorkerView) (manifest : RuleManifest) (rules : LocalRules)
    (found : readRuleCache platform cache config minimum digest view = some (manifest, rules)) :
    ∃ json, Accepted platform (minimum, digest) json manifest ∧ manifest.sha256 ≠ "" ∧
      ∃ payload, PayloadVerified platform payload manifest view.payloadNow rules := by
  unfold readRuleCache at found
  split at found
  · contradiction
  split at found
  · contradiction
  next json payload _ =>
    split at found
    · contradiction
    next read verified =>
      split at found
      next accepted =>
        obtain ⟨rules, payload_, same⟩ := Option.map_eq_some_iff.mp found
        obtain ⟨rfl, rfl⟩ := Prod.mk.inj same
        obtain ⟨signed, digest_⟩ := verifyRuleManifest_spec platform json config minimum
          view.manifestNow _ verified
        exact ⟨json, ⟨⟨config, view.manifestNow, signed⟩, accept_newer _ _ _ accepted⟩, digest_,
          payload, verifyRulePayload_spec platform _ _ _ _ payload_⟩
      · contradiction

theorem initializeRules_restored (view : WorkerView) (cache : StoredFile) (minimum : Int)
    (digest : String) (loadRules : Bool) :
    Restored platform (minimum, digest)
      (initializeRules platform view cache minimum digest loadRules) := by
  unfold initializeRules
  cases loadRules with
  | false => exact .inl ⟨rfl, by simp⟩
  | true =>
    simp only [Bool.not_true, Bool.false_eq_true, if_false]
    split
    · exact .inl ⟨rfl, by simp⟩
    next manifest rules found =>
      obtain ⟨json, accepted, digest_, payload, verified⟩ :=
        readRuleCache_spec platform cache _ minimum digest view manifest rules found
      refine .inr ⟨json, manifest, accepted, ?_⟩
      split
      · exact ⟨digest_, rfl, fun _ => ⟨payload, view.payloadNow, verified⟩⟩
      · exact ⟨digest_, rfl, by simp⟩

theorem verifyAndInstall_installable (view : WorkerView) (manifestJson : Bytes)
    (manifest : RuleManifest) :
    Installable platform manifest (verifyAndInstall platform view manifestJson manifest).1 := by
  intro rules
  unfold verifyAndInstall
  split
  · simp
  next payload _ =>
    split
    · simp
    next found verified =>
      split
      · intro same
        obtain rfl := Option.some.inj same
        exact ⟨payload, view.payloadNow, verifyRulePayload_spec platform _ _ _ _ verified⟩
      · simp

namespace UpdaterHost

open UpdaterCore (Moves)

def mark (s : UpdaterHost) : Int × String := s.updater.core.mark

structure Inv (s : UpdaterHost) : Prop where
  core : s.updater.core.Inv platform
  pref : watermarkOf s.pref = s.mark
  disk : Newer (watermarkOf s.disk) s.mark

theorem persistWatermark_pref (s : UpdaterHost) (nonneg : 0 <= s.updater.sequence) :
    watermarkOf s.persistWatermark.pref = s.mark := by
  simp [watermarkOf, persistWatermark, DictValue.findInt, DictValue.findString, DictValue.find_set,
    mark, UpdaterCore.mark, RuleUpdater.core, nonneg]

theorem persistWatermark_mark (s t : UpdaterHost) (same : s.mark = t.mark) :
    s.persistWatermark.pref = t.persistWatermark.pref := by
  obtain ⟨sequence, digest⟩ := Prod.mk.inj same
  have sequence_ : s.updater.sequence = t.updater.sequence := sequence
  have digest_ : s.updater.digest = t.updater.digest := digest
  simp only [persistWatermark, sequence_, digest_]

theorem start_inv (disk : DictValue) (cache : StoredFile) (assets : Bool) :
    (start disk cache assets).Inv platform := by
  have nonneg : 0 <= (watermarkOf disk).1 := le_max_left _ _
  cases assets with
  | false =>
    exact ⟨.quiet rfl rfl rfl rfl rfl rfl nonneg, rfl, .refl _⟩
  | true =>
    refine ⟨⟨rfl, ?_, rfl, ?_, nonneg, ?_, ?_, ?_, ?_, ?_, ?_⟩, rfl, .refl _⟩ <;>
      simp [start, RuleUpdater.initializeState, RuleUpdater.core]

inductive Advances (s t : UpdaterHost) : Prop
  | moves (core : Moves platform s.updater.core t.updater.core) (pref : t.pref = s.pref)
  | marks (core : UpdaterCore.Marks s.updater.core t.updater.core)
      (pref : t.pref = t.persistWatermark.pref)

variable {platform}

theorem Advances.core_inv {s t : UpdaterHost} (advances : Advances platform s t)
    (inv : s.updater.core.Inv platform) : t.updater.core.Inv platform := by
  cases advances with
  | moves core pref => exact UpdaterCore.moves_inv core inv
  | marks core pref => exact UpdaterCore.marks_inv core inv

theorem Advances.newer {s t : UpdaterHost} (advances : Advances platform s t)
    (inv : s.updater.core.Inv platform) : Newer s.mark t.mark := by
  cases advances with
  | moves core pref => exact .inr (UpdaterCore.moves_mark core).symm
  | marks core pref => exact UpdaterCore.marks_newer core inv

theorem Advances.inv {s t : UpdaterHost} (advances : Advances platform s t)
    (disk : t.disk = s.disk) (inv : s.Inv platform) : t.Inv platform := by
  have core := advances.core_inv inv.core
  have newer := advances.newer inv.core
  refine ⟨core, ?_, by rw [disk]; exact inv.disk.trans newer⟩
  cases advances with
  | moves moved pref =>
    rw [pref, inv.pref]
    exact (UpdaterCore.moves_mark moved).symm
  | marks marked pref =>
    rw [pref]
    exact persistWatermark_pref t core.nonneg

variable (platform)

theorem work_moves (s : UpdaterHost) (view : WorkerView) :
    Moves platform s.updater.core (s.work platform view).updater.core /\
      (s.work platform view).pref = s.pref /\ (s.work platform view).disk = s.disk := by
  unfold work
  split
  · exact ⟨.stay _, rfl, rfl⟩
  next minimum digest loadRules rest head =>
    exact ⟨.loaded _ head (initializeRules_restored platform view s.cache minimum digest
      loadRules), rfl, rfl⟩
  next json manifest rest head =>
    exact ⟨.wrote _ head (verifyAndInstall_installable platform view json manifest), rfl, rfl⟩

theorem onInstalled_advances (s : UpdaterHost) (clock : Clock) (sequence : Int)
    (installed : InstalledRules) (rest : List WorkerReply)
    (head : s.updater.replies = .installed sequence installed :: rest) :
    Advances platform s
      ({ s with updater := { s.updater with replies := rest } }.onInstalled clock sequence
        installed) := by
  unfold onInstalled
  split
  · refine .moves ?_ rfl
    rw [RuleUpdater.fail_core]
    exact .refused head
  next rules found =>
    refine .marks ?_ (persistWatermark_mark _ _ ?_)
    · rw [RuleUpdater.finish_core]
      exact .activated head found
    · simp only [mark, RuleUpdater.finish_core]
      rfl

theorem loadOrSchedule_moves (s : UpdaterHost) (clock : Clock) :
    Moves platform s.updater.core (s.loadOrSchedule clock).updater.core := by
  unfold loadOrSchedule
  split
  next waiting =>
    simp only [Bool.and_eq_true, Bool.not_eq_true'] at waiting
    exact .load waiting.1.2 waiting.2
  · rw [RuleUpdater.schedule_core]
    exact .stay _

theorem loadOrSchedule_loaded (s : UpdaterHost) (clock : Clock)
    (loaded : s.updater.rulesLoaded = true) :
    (s.loadOrSchedule clock).updater.core = s.updater.core := by
  simp [loadOrSchedule, loaded]

theorem loadOrSchedule_pref (s : UpdaterHost) (clock : Clock) :
    (s.loadOrSchedule clock).pref = s.pref := by
  unfold loadOrSchedule
  split <;> rfl

theorem loadOrSchedule_disk (s : UpdaterHost) (clock : Clock) :
    (s.loadOrSchedule clock).disk = s.disk := by
  unfold loadOrSchedule
  split <;> rfl

theorem onInitialized_advances (s : UpdaterHost) (clock : Clock) (loadedRules : Bool)
    (initial : InitialState) (rest : List WorkerReply)
    (head : s.updater.replies = .initialized loadedRules initial :: rest)
    (inv : s.updater.core.Inv platform) :
    Advances platform s
      ({ s with updater := { s.updater with replies := rest } }.onInitialized clock loadedRules
        initial) := by
  unfold onInitialized
  cases loadedRules with
  | false =>
    have popped : Moves platform s.updater.core { s.updater.core with replies := rest } :=
      .configured head
    simp only [Bool.false_eq_true, if_false]
    exact .moves (popped.after (loadOrSchedule_moves platform
      { s with updater :=
        { s.updater with replies := rest, ready := true, config := initial.config } } clock))
      (loadOrSchedule_pref _ _)
  | true =>
    have report : Restored platform s.updater.core.mark initial :=
      inv.loadReply initial (by rw [RuleUpdater.core, head]; exact List.mem_cons_self)
    simp only [if_true]
    split
    next found =>
      simp only [ge_iff_le, ne_eq, Bool.and_eq_true, decide_eq_true_eq, decide_not,
        Bool.not_eq_true', decide_eq_false_iff_not] at found
      refine .marks ?_ ?_
      · rw [loadOrSchedule_loaded _ _ rfl]
        refine .restored _ head found.2 found.1 ?_
        by_cases missing : initial.rules.status = .missing <;> simp [persistWatermark, missing]
      · rw [loadOrSchedule_pref]
        refine persistWatermark_mark _ _ ?_
        rw [mark, mark, loadOrSchedule_loaded _ _ rfl]
        rfl
    next stale =>
      refine .moves ?_ (loadOrSchedule_pref _ _)
      rw [loadOrSchedule_loaded _ _ rfl]
      rcases report with ⟨empty, plain⟩ | ⟨json, manifest, accepted, found, same, -⟩
      · refine .packaged _ head ?_ empty
        by_cases missing : initial.rules.status = .missing <;> simp [missing, plain]
      · have higher := accepted.2.sequence
        rw [<- same] at higher
        simp [found, show s.updater.sequence <= initial.sequence from higher] at stale

theorem reply_advances (s : UpdaterHost) (clock : Clock) (inv : s.updater.core.Inv platform) :
    Advances platform s (s.reply clock) := by
  unfold reply
  split
  · exact .moves (.stay _) rfl
  next loadedRules initial rest head =>
    exact onInitialized_advances platform s clock loadedRules initial rest head inv
  next sequence installed rest head =>
    exact onInstalled_advances platform s clock sequence installed rest head

theorem reply_disk (s : UpdaterHost) (clock : Clock) : (s.reply clock).disk = s.disk := by
  unfold reply
  split
  · rfl
  next loadedRules initial rest head =>
    rw [onInitialized, loadOrSchedule_disk]
    cases loadedRules with
    | false => rfl
    | true =>
      simp only [if_true]
      split <;> rfl
  next sequence installed rest head =>
    unfold onInstalled
    cases installed.rules <;> rfl

def inLifetime : UpdaterOp → Bool
  | .flush | .tamper _ | .restart _ => false
  | _ => true

theorem next_moves (s : UpdaterHost) (op : UpdaterOp) (inside : inLifetime op = true)
    (other : ∀ clock, op ≠ .reply clock) (allowed : s.permitted op) :
    Moves platform s.updater.core (s.next platform op).updater.core /\
      (s.next platform op).pref = s.pref /\ (s.next platform op).disk = s.disk := by
  cases op with
  | acquire clock => exact ⟨s.updater.acquire_moves platform clock, rfl, rfl⟩
  | release => exact ⟨s.updater.release_moves platform, rfl, rfl⟩
  | requestUpdate clock => exact ⟨s.updater.requestUpdate_moves platform clock, rfl, rfl⟩
  | timer clock =>
    exact ⟨RuleUpdater.requestUpdate_moves platform { s.updater with timer := none } clock, rfl,
      rfl⟩
  | manifest clock body => exact ⟨s.updater.onManifest_moves platform clock body allowed, rfl, rfl⟩
  | payload clock arrived =>
    exact ⟨s.updater.onPayload_moves platform clock arrived allowed, rfl, rfl⟩
  | work view => exact work_moves platform s view
  | reply clock => exact absurd rfl (other clock)
  | flush | tamper | restart => simp [inLifetime] at inside

theorem next_advances (s : UpdaterHost) (op : UpdaterOp) (inside : inLifetime op = true)
    (allowed : s.permitted op) (inv : s.updater.core.Inv platform) :
    Advances platform s (s.next platform op) /\ (s.next platform op).disk = s.disk := by
  by_cases reply : ∃ clock, op = .reply clock
  · obtain ⟨clock, rfl⟩ := reply
    exact ⟨reply_advances platform s clock inv, reply_disk s clock⟩
  · obtain ⟨moves, pref, disk⟩ :=
      next_moves platform s op inside (fun clock same => reply ⟨clock, same⟩) allowed
    exact ⟨.moves moves pref, disk⟩

theorem next_inv (s : UpdaterHost) (op : UpdaterOp) (inv : s.Inv platform)
    (allowed : s.permitted op) : (s.next platform op).Inv platform := by
  cases inside : inLifetime op with
  | true =>
    obtain ⟨advances, disk⟩ := next_advances platform s op inside allowed inv.core
    exact advances.inv disk inv
  | false =>
    cases op with
    | flush => exact ⟨inv.core, inv.pref, .inr inv.pref⟩
    | tamper cache => exact ⟨inv.core, inv.pref, inv.disk⟩
    | restart assets => exact start_inv platform s.disk s.cache assets
    | _ => simp [inLifetime] at inside

theorem next_disk (s : UpdaterHost) (op : UpdaterOp) (inv : s.Inv platform)
    (allowed : s.permitted op) :
    Newer (watermarkOf s.disk) (watermarkOf (s.next platform op).disk) := by
  cases inside : inLifetime op with
  | true => exact .inr (by rw [(next_advances platform s op inside allowed inv.core).2])
  | false =>
    cases op with
    | flush => simpa [next, inv.pref] using inv.disk
    | tamper cache => exact .refl _
    | restart assets => exact .inr (by cases assets <;> rfl)
    | _ => simp [inLifetime] at inside

theorem next_newer (s : UpdaterHost) (op : UpdaterOp) (inv : s.Inv platform)
    (allowed : s.permitted op) (survives : ∀ assets, op ≠ .restart assets) :
    Newer s.mark (s.next platform op).mark := by
  cases inside : inLifetime op with
  | true => exact (next_advances platform s op inside allowed inv.core).1.newer inv.core
  | false =>
    cases op with
    | flush => exact .refl _
    | tamper cache => exact .refl _
    | restart assets => exact absurd rfl (survives assets)
    | _ => simp [inLifetime] at inside

end UpdaterHost

end ChromiumHmos.UrlProtection
