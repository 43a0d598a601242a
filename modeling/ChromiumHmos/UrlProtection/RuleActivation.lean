import ChromiumHmos.UrlProtection.RuleRollback

set_option autoImplicit false

/-!
# Which rules become active

An activation is a reply that installs rules of the cache or of the network. Each one was
verified, lies at or above every earlier watermark, and is at once the watermark itself.
-/

namespace ChromiumHmos.UrlProtection

open Base Transition

structure Activation where
  sequence : Int
  digest : String
  rules : LocalRules

variable (platform : Platform)

/-- The rules of a manifest that verified at or above `minimum`, and of its payload. -/
def Activation.Verified (minimum : Int) (a : Activation) : Prop :=
  ∃ config json manifest payload manifestNow payloadNow,
    ManifestVerified platform config json minimum manifestNow manifest ∧
      PayloadVerified platform payload manifest payloadNow a.rules ∧
      a.sequence = manifest.sequence ∧ a.digest = manifest.sha256

namespace UpdaterHost

def activation (s : UpdaterHost) : UpdaterOp → Option Activation
  | .reply _ =>
    match s.updater.replies with
    | .initialized true initial :: _ =>
      if initial.source = .download then
        some { sequence := initial.sequence, digest := initial.digest, rules := initial.rules }
      else none
    | .installed sequence installed :: _ =>
      installed.rules.map fun rules =>
        { sequence := sequence, digest := s.updater.manifest.sha256, rules := rules }
    | _ => none
  | _ => none

theorem activation_reply (s : UpdaterHost) (op : UpdaterOp) (a : Activation)
    (found : s.activation op = some a) :
    ∃ clock rest, op = .reply clock /\
      ((∃ initial, s.updater.replies = .initialized true initial :: rest /\
          initial.source = .download /\
          a = { sequence := initial.sequence, digest := initial.digest, rules := initial.rules }) \/
        ∃ sequence installed, s.updater.replies = .installed sequence installed :: rest /\
          installed.rules = some a.rules /\ a.sequence = sequence /\
          a.digest = s.updater.manifest.sha256) := by
  cases op with
  | reply clock =>
    simp only [activation] at found
    split at found
    next initial rest head =>
      split at found
      next source =>
        exact ⟨clock, rest, rfl, .inl ⟨initial, head, source, (Option.some.inj found).symm⟩⟩
      · contradiction
    next sequence installed rest head =>
      obtain ⟨rules, present, rfl⟩ := Option.map_eq_some_iff.mp found
      exact ⟨clock, rest, rfl, .inr ⟨sequence, installed, head, present, rfl, rfl⟩⟩
    · contradiction
  | _ => simp [activation] at found

theorem activation_spec (s : UpdaterHost) (op : UpdaterOp) (a : Activation) (inv : s.Inv platform)
    (found : s.activation op = some a) :
    a.Verified platform s.updater.sequence /\ Newer s.mark (a.sequence, a.digest) := by
  obtain ⟨clock, rest, rfl, reply⟩ := activation_reply s op a found
  rcases reply with ⟨initial, head, source, rfl⟩ | ⟨sequence, installed, head, present, rfl, digest⟩
  · have report : Restored platform s.mark initial :=
      inv.core.loadReply initial (by rw [RuleUpdater.core, head]; exact List.mem_cons_self)
    rcases report with ⟨-, plain⟩ | ⟨json, manifest, accepted, -, same, verified⟩
    · exact absurd source plain
    · obtain ⟨⟨config, manifestNow, signed⟩, newer⟩ := accepted
      obtain ⟨payload, payloadNow, payload_⟩ := verified source
      obtain ⟨sequence_, digest_⟩ := Prod.mk.inj same
      exact ⟨⟨config, json, manifest, payload, manifestNow, payloadNow, signed, payload_,
        sequence_, digest_⟩, by rw [same]; exact newer⟩
  · obtain ⟨same, ⟨json, accepted⟩, installable⟩ :=
      inv.core.installReply a.sequence installed
        (by rw [RuleUpdater.core, head]; exact List.mem_cons_self)
    obtain ⟨⟨config, manifestNow, signed⟩, newer⟩ := accepted
    obtain ⟨payload, payloadNow, payload_⟩ := installable a.rules present
    refine ⟨⟨config, json, s.updater.manifest, payload, manifestNow, payloadNow, signed, payload_,
      same, digest⟩, ?_⟩
    rw [same, digest]
    exact newer

theorem onInitialized_active (s : UpdaterHost) (clock : Clock) (initial : InitialState) :
    (s.onInitialized clock true initial).updater.core.rules = initial.rules /\
      (s.onInitialized clock true initial).updater.core.source =
        if initial.rules.status = .missing then .none else initial.source := by
  unfold onInitialized
  simp only [if_true]
  split
  · rw [loadOrSchedule_loaded _ _ rfl]
    exact ⟨rfl, rfl⟩
  · rw [loadOrSchedule_loaded _ _ rfl]
    exact ⟨rfl, rfl⟩

theorem onInitialized_mark (s : UpdaterHost) (clock : Clock) (initial : InitialState)
    (newer : s.updater.sequence ≤ initial.sequence) (found : initial.digest ≠ "") :
    (s.onInitialized clock true initial).mark = (initial.sequence, initial.digest) := by
  unfold onInitialized
  simp only [if_true, ge_iff_le, newer, found, ne_eq, not_false_eq_true, decide_true, Bool.and_self]
  rw [mark, loadOrSchedule_loaded _ _ rfl]
  rfl

theorem onInstalled_core (s : UpdaterHost) (clock : Clock) (sequence : Int)
    (installed : InstalledRules) (rules : LocalRules) (present : installed.rules = some rules) :
    (s.onInstalled clock sequence installed).updater.core =
      { s.updater.core with
        updating := false
        sequence := sequence
        digest := s.updater.manifest.sha256
        rules := rules
        source := .download } := by
  simp only [onInstalled, present, RuleUpdater.finish_core]
  rfl

theorem marks_activation (s : UpdaterHost) (clock : Clock) {d : UpdaterCore}
    (marks : UpdaterCore.Marks s.updater.core d) (active : d.source = .download) :
    ∃ a, s.activation (.reply clock) = some a /\ a.rules = d.rules := by
  cases marks with
  | @restored initial rest source head found higher download =>
    have replies : s.updater.replies = _ := head
    exact ⟨{ sequence := initial.sequence, digest := initial.digest, rules := initial.rules },
      by simp [activation, replies, download active], rfl⟩
  | @activated sequence installed rules rest head found =>
    have replies : s.updater.replies = _ := head
    exact ⟨{ sequence := sequence, digest := s.updater.manifest.sha256, rules := rules },
      by simp [activation, replies, found], rfl⟩

theorem activation_installs (s : UpdaterHost) (op : UpdaterOp) (a : Activation)
    (inv : s.Inv platform) (found : s.activation op = some a) :
    (s.next platform op).updater.rules = a.rules /\
      (s.next platform op).updater.source = .download /\
      (s.next platform op).mark = (a.sequence, a.digest) := by
  obtain ⟨clock, rest, rfl, reply⟩ := activation_reply s op a found
  rcases reply with ⟨initial, head, source, rfl⟩ | ⟨sequence, installed, head, present, same, digest⟩
  · have report : Restored platform s.mark initial :=
      inv.core.loadReply initial (by rw [RuleUpdater.core, head]; exact List.mem_cons_self)
    rcases report with ⟨-, plain⟩ | ⟨json, manifest, accepted, found_, same, verified⟩
    · exact absurd source plain
    · obtain ⟨payload, now, verified⟩ := verified source
      have present : initial.rules.status ≠ .missing := by
        intro missing
        have usable := verified.usable
        simp [LocalRules.isUsable, missing] at usable
      have newer := accepted.2.sequence
      rw [<- same] at newer
      have active := onInitialized_active { s with updater := { s.updater with replies := rest } }
        clock initial
      rw [if_neg present, source] at active
      simp only [next, UpdaterHost.reply, head]
      exact ⟨active.1, active.2, onInitialized_mark _ clock initial newer found_⟩
  · have core := onInstalled_core { s with updater := { s.updater with replies := rest } } clock
      sequence installed a.rules present
    simp only [next, UpdaterHost.reply, head]
    refine ⟨congrArg UpdaterCore.rules core, congrArg UpdaterCore.source core, ?_⟩
    rw [mark, core, same, digest]
    rfl

theorem active_only (s : UpdaterHost) (op : UpdaterOp) (inv : s.Inv platform)
    (allowed : s.permitted op) (active : (s.next platform op).updater.source = .download) :
    (s.updater.source = .download /\ s.updater.rules = (s.next platform op).updater.rules) \/
      ∃ a, s.activation op = some a /\ a.rules = (s.next platform op).updater.rules := by
  cases inside : inLifetime op with
  | true =>
    by_cases reply : ∃ clock, op = .reply clock
    · obtain ⟨clock, rfl⟩ := reply
      cases reply_advances platform s clock inv.core with
      | moves core pref => exact .inl (UpdaterCore.moves_active core inv.core active)
      | marks core pref => exact .inr (marks_activation s clock core active)
    · obtain ⟨moves, -⟩ :=
        next_moves platform s op inside (fun clock same => reply ⟨clock, same⟩) allowed
      exact .inl (UpdaterCore.moves_active moves inv.core active)
  | false =>
    cases op with
    | flush => exact .inl ⟨active, rfl⟩
    | tamper cache => exact .inl ⟨active, rfl⟩
    | restart assets => cases assets <;> simp [next, start, RuleUpdater.initializeState] at active
    | _ => simp [inLifetime] at inside

end UpdaterHost

open UpdaterHost

def updaterStep : UpdaterHost → UpdaterOp → UpdaterHost → Prop :=
  guarded UpdaterHost.permitted (UpdaterHost.next platform)

/-- What a run of any number of process lifetimes never does to the watermark. -/
structure NoRollback (trace : List (UpdaterHost × UpdaterOp)) (s : UpdaterHost) : Prop where
  persisted : ∀ before u op after v, trace = before ++ (u, op) :: after →
    v ∈ after.map Prod.fst ++ [s] →
      (watermarkOf u.disk).1 ≤ (watermarkOf v.disk).1 ∧
        ((watermarkOf u.disk).1 = (watermarkOf v.disk).1 → watermarkOf u.disk = watermarkOf v.disk)
  verified : ∀ u op a, (u, op) ∈ trace → u.activation op = some a →
    a.Verified platform (watermarkOf u.pref).1 ∧
      (u.next platform op).updater.rules = a.rules ∧
      watermarkOf (u.next platform op).pref = (a.sequence, a.digest)
  -- Later activations agree with the watermark of any earlier moment.
  activated : ∀ before u op after v last a, trace = before ++ (u, op) :: after →
    (v, last) ∈ (u, op) :: after → v.activation last = some a →
      (watermarkOf u.disk).1 ≤ a.sequence ∧
        ((watermarkOf u.disk).1 = a.sequence → (watermarkOf u.disk).2 = a.digest)
  once : ∀ before u op after v first w second a b, trace = before ++ (u, op) :: after →
    (v, first) ∈ (u, op) :: after → (w, second) ∈ (u, op) :: after →
    v.activation first = some a → w.activation second = some b → a.sequence = b.sequence →
    a.sequence ≤ (watermarkOf u.disk).1 → a.digest = b.digest
  -- Within one lifetime the watermark in memory binds already.
  lifetime : ∀ before u op middle v last after a,
    trace = before ++ ((u, op) :: middle ++ (v, last) :: after) →
    (∀ entry ∈ (u, op) :: middle, ∀ assets, entry.2 ≠ .restart assets) →
    v.activation last = some a →
      (watermarkOf u.pref).1 ≤ a.sequence ∧
        ((watermarkOf u.pref).1 = a.sequence → (watermarkOf u.pref).2 = a.digest)
  active : s.updater.source = .download →
    ∃ u op a, (u, op) ∈ trace ∧ u.activation op = some a ∧ a.rules = s.updater.rules

/-- Anti-rollback, from any stored watermark and any cache file. -/
def UpdaterSound : Prop :=
  ∀ disk cache assets trace s, Trace (updaterStep platform) (start disk cache assets) trace s →
    NoRollback platform trace s

theorem step_inv (s : UpdaterHost) (op : UpdaterOp) (t : UpdaterHost) (inv : s.Inv platform)
    (moved : updaterStep platform s op t) : t.Inv platform := by
  obtain ⟨allowed, rfl⟩ := moved
  exact next_inv platform s op inv allowed

variable {s t : UpdaterHost} {trace : List (UpdaterHost × UpdaterOp)}

theorem run_disk
    (run : Trace (updaterStep platform) s trace t) (inv : s.Inv platform) :
    (∀ entry ∈ trace, Newer (watermarkOf s.disk) (watermarkOf entry.1.disk) /\
        entry.1.Inv platform) /\
      Newer (watermarkOf s.disk) (watermarkOf t.disk) /\ t.Inv platform := by
  let below (u v : UpdaterHost) : Prop := Newer (watermarkOf u.disk) (watermarkOf v.disk)
  have related (u : UpdaterHost) (op : UpdaterOp) (v : UpdaterHost) (inv : u.Inv platform)
      (_ : True) (moved : updaterStep platform u op v) : below u v := by
    obtain ⟨allowed, rfl⟩ := moved
    exact next_disk platform u op inv allowed
  exact run.later (fun _ => True) below (fun _ => .refl _) (fun _ _ _ => Newer.trans)
    (step_inv platform) related (fun _ _ => trivial) inv

theorem run_mark
    (run : Trace (updaterStep platform) s trace t) (inv : s.Inv platform)
    (survives : ∀ entry ∈ trace, ∀ assets, entry.2 ≠ .restart assets) : Newer s.mark t.mark := by
  let below (u v : UpdaterHost) : Prop := Newer u.mark v.mark
  have related (u : UpdaterHost) (op : UpdaterOp) (v : UpdaterHost) (inv : u.Inv platform)
      (kept : ∀ assets, op ≠ .restart assets) (moved : updaterStep platform u op v) :
      below u v := by
    obtain ⟨allowed, rfl⟩ := moved
    exact next_newer platform u op inv allowed kept
  have later := run.later (fun op => ∀ assets, op ≠ .restart assets) below (fun _ => .refl _)
    (fun _ _ _ => Newer.trans) (step_inv platform) related survives inv
  exact later.2.1

theorem run_active
    (run : Trace (updaterStep platform) s trace t) (inv : s.Inv platform)
    (active : t.updater.source = .download) :
    (s.updater.source = .download /\ s.updater.rules = t.updater.rules) \/
      ∃ u op a, (u, op) ∈ trace /\ u.activation op = some a /\ a.rules = t.updater.rules := by
  induction run with
  | nil s => exact .inl ⟨active, rfl⟩
  | @cons s u t op rest moved _ ih =>
    rcases ih (step_inv platform s op u inv moved) active with ⟨source, rules⟩ | later
    · obtain ⟨allowed, rfl⟩ := moved
      rcases active_only platform s op inv allowed source with ⟨source', rules'⟩ | ⟨a, found, same⟩
      · exact .inl ⟨source', rules'.trans rules⟩
      · exact .inr ⟨s, op, a, List.mem_cons_self, found, same.trans rules⟩
    · obtain ⟨v, last, a, mem, found, same⟩ := later
      exact .inr ⟨v, last, a, List.mem_cons_of_mem _ mem, found, same⟩

end ChromiumHmos.UrlProtection
