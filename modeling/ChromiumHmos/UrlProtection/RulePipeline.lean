import ChromiumHmos.UrlProtection.RuleFreshness

set_option autoImplicit false

/-!
# One update at a time

An update is a download or one verification, it runs for somebody who asked, and where none runs
the timer will start the next. What is stored at its end belongs to the manifest it verified.
-/

namespace ChromiumHmos.UrlProtection

open Base Transition UpdaterHost

variable (platform : Platform)

namespace RuleUpdater

/-- Somebody is there, updates are possible, and none is under way. -/
def Waiting (u : RuleUpdater) : Prop :=
  u.ready = true ∧ u.rulesLoaded = true ∧ u.config.valid = true ∧ 0 < u.clients ∧ u.updating = false

structure Attended (u : RuleUpdater) : Prop where
  clients : 0 ≤ u.clients
  requested : u.loader.isSome = true → 0 < u.clients
  stopped : u.updating = true → u.timer = none
  -- A timer that fires is not rate limited.
  due : ∀ due, u.timer = some due → u.notBefore ≤ due

structure Scheduled (u : RuleUpdater) : Prop extends Attended u where
  armed : u.Waiting → u.timer.isSome = true

variable {u : RuleUpdater}

theorem schedule_scheduled (attended : u.Attended) (clock : Clock) (delay : TimeDelta) :
    (u.schedule clock delay).Scheduled := by
  unfold schedule
  split
  · next refused =>
    refine ⟨attended, fun ⟨ready, loaded, valid, present, idle⟩ => ?_⟩
    have someone : u.clients ≠ 0 := by omega
    simp [ready, loaded, valid, idle, someone] at refused
  · next takes =>
    simp only [Bool.or_eq_true, not_or, Bool.not_eq_true] at takes
    refine ⟨⟨attended.clients, attended.requested, fun busy => ?_, fun due armed => ?_⟩, fun _ => rfl⟩
    · exact absurd busy (by simp [takes.2])
    · obtain rfl := Option.some.inj armed
      have late := le_max_left (max delay (u.notBefore - clock.ticks)) (seconds 1)
      have later := le_max_right delay (u.notBefore - clock.ticks)
      dsimp only
      linarith

theorem finish_scheduled (attended : u.Attended) (clock : Clock) : (u.finish clock).Scheduled := by
  unfold finish
  apply schedule_scheduled
  exact ⟨attended.clients, attended.requested, fun busy => absurd busy Bool.false_ne_true, attended.due⟩

-- A failure moves `notBefore`, so no older timer may be running.
theorem fail_scheduled (attended : u.Attended) (busy : u.updating = true) (clock : Clock)
    (reason : String) : (u.fail clock reason).Scheduled := by
  unfold fail
  apply schedule_scheduled
  refine ⟨attended.clients, attended.requested, fun busy => absurd busy Bool.false_ne_true, fun due armed => ?_⟩
  exact absurd ((attended.stopped busy).symm.trans armed) nofun

theorem Attended.unload (attended : u.Attended) : ({ u with loader := none } : RuleUpdater).Attended :=
  ⟨attended.clients, nofun, attended.stopped, attended.due⟩

theorem acquire_scheduled (scheduled : u.Scheduled) (clock : Clock) : (u.acquire clock).Scheduled := by
  have one := scheduled.clients
  have joined (v : RuleUpdater) (clients : v.clients = u.clients + 1) (loader : v.loader = u.loader)
      (updating : v.updating = u.updating) (timer : v.timer = u.timer) (before : v.notBefore = u.notBefore)
      (waiting : v.Waiting -> u.clients ≠ 0 -> u.Waiting) (delay : TimeDelta) :
      (if v.clients = 1 then v.schedule clock delay else v).Scheduled := by
    have attended : v.Attended := by
      refine ⟨by omega, fun _ => by omega, ?_, ?_⟩
      · rw [updating, timer]
        exact scheduled.stopped
      · rw [timer, before]
        exact scheduled.due
    split
    · exact schedule_scheduled attended clock delay
    · next others =>
      refine ⟨attended, fun waits => ?_⟩
      rw [timer]
      exact scheduled.armed (waiting waits (by omega))
  have waits (v : RuleUpdater) (ready : v.ready = u.ready) (loaded : v.rulesLoaded = u.rulesLoaded)
      (config : v.config = u.config) (updating : v.updating = u.updating) (waiting : v.Waiting)
      (present : u.clients ≠ 0) : u.Waiting := by
    obtain ⟨isReady, isLoaded, isValid, -, isIdle⟩ := waiting
    exact ⟨ready ▸ isReady, loaded ▸ isLoaded, config ▸ isValid, by omega, updating ▸ isIdle⟩
  unfold acquire
  dsimp only
  split
  · split
    · refine joined _ ?_ ?_ ?_ ?_ ?_ (waits _ ?_ ?_ ?_ ?_) _ <;> rfl
    · refine joined _ ?_ ?_ ?_ ?_ ?_ (waits _ ?_ ?_ ?_ ?_) _ <;> rfl
  · refine joined _ ?_ ?_ ?_ ?_ ?_ (waits _ ?_ ?_ ?_ ?_) _ <;> rfl

theorem release_scheduled (scheduled : u.Scheduled) : u.release.Scheduled := by
  unfold release
  split
  · exact scheduled
  dsimp only
  split
  · next present others =>
    have left : 0 < u.clients - 1 := by
      have some_left : u.clients - 1 ≠ 0 := others
      omega
    refine ⟨⟨left.le, fun _ => left, scheduled.stopped, scheduled.due⟩, fun waiting => ?_⟩
    obtain ⟨ready, loaded, valid, -, idle⟩ := waiting
    exact scheduled.armed ⟨ready, loaded, valid, by omega, idle⟩
  · next present last =>
    have left : u.clients - 1 = 0 := by simpa using last
    split
    · exact ⟨⟨by simp [left], nofun, fun _ => rfl, nofun⟩, fun waiting => absurd waiting.2.2.2.1 (by simp [left])⟩
    · next idle =>
      exact ⟨⟨by simp [left], fun loading => absurd loading idle, fun _ => rfl, nofun⟩,
        fun waiting => absurd waiting.2.2.2.1 (by simp [left])⟩

def requested (u : RuleUpdater) (clock : Clock) : RuleUpdater :=
  { u with
    timer := none
    nextCheck := none
    updating := true
    reason := ""
    lastCheck := some clock.now
    notBefore := clock.ticks + minutes 1
    loader := some .manifest }

theorem requestUpdate_cases (clients : 0 <= u.clients) (clock : Clock) :
    (u.requestUpdate clock).2 = u.requested clock /\ u.Waiting \/
      (u.requestUpdate clock).2 = u /\ (u.Waiting -> clock.ticks < u.notBefore) := by
  unfold requestUpdate
  split
  · next unloaded =>
    exact .inr ⟨rfl, fun waiting => by simp [waiting.1, waiting.2.1] at unloaded⟩
  split
  · next free =>
    exact .inr ⟨rfl, fun waiting => absurd waiting.2.2.2.1 (by omega)⟩
  split
  · next invalid =>
    exact .inr ⟨rfl, fun waiting => by simp [waiting.2.2.1] at invalid⟩
  split
  · next busy =>
    exact .inr ⟨rfl, fun waiting => by simp [waiting.2.2.2.2] at busy⟩
  split
  next limited => exact .inr ⟨rfl, fun _ => limited⟩
  · next loaded free valid busy _ =>
    simp only [Bool.or_eq_true, Bool.not_eq_true', not_or, Bool.not_eq_false] at loaded
    exact .inl ⟨rfl, loaded.1, loaded.2, by simpa using valid, by omega, by simpa using busy⟩

theorem requested_scheduled (waiting : u.Waiting) (clock : Clock) : (u.requested clock).Scheduled :=
  ⟨⟨waiting.2.2.2.1.le, fun _ => waiting.2.2.2.1, fun _ => rfl, nofun⟩, fun again => absurd again.2.2.2.2 nofun⟩

theorem requestUpdate_scheduled (scheduled : u.Scheduled) (clock : Clock) :
    (u.requestUpdate clock).2.Scheduled := by
  rcases requestUpdate_cases scheduled.clients clock with ⟨same, waiting⟩ | ⟨same, -⟩
  · rw [same]
    exact requested_scheduled waiting clock
  · rw [same]
    exact scheduled

theorem timer_scheduled (scheduled : u.Scheduled) (clock : Clock) (due : TimeTicks)
    (armed : u.timer = some due) (fires : due <= clock.ticks) :
    (({ u with timer := none } : RuleUpdater).requestUpdate clock).2.Scheduled := by
  have clients : 0 <= ({ u with timer := none } : RuleUpdater).clients := scheduled.clients
  rcases requestUpdate_cases clients clock with ⟨same, waiting⟩ | ⟨same, limited⟩
  · rw [same]
    exact requested_scheduled waiting clock
  · rw [same]
    refine ⟨⟨scheduled.clients, scheduled.requested, fun _ => rfl, nofun⟩, fun waiting => ?_⟩
    have early : clock.ticks < u.notBefore := limited waiting
    have late := scheduled.due due armed
    exact absurd (late.trans fires) (not_le.mpr early)

theorem onManifest_scheduled (scheduled : u.Scheduled) (clock : Clock) (body : Option Bytes)
    (loading : u.loader = some .manifest) (busy : u.updating = true) :
    (u.onManifest platform clock body).Scheduled := by
  have stopped := scheduled.toAttended.unload
  have failed (reason : String) := fail_scheduled stopped busy clock reason
  have present := scheduled.requested (by rw [loading]; rfl)
  unfold onManifest
  cases body with
  | none => exact failed _
  | some json =>
    dsimp only
    split
    · exact failed _
    split
    · exact failed _
    split
    · exact failed _
    split
    · exact finish_scheduled stopped clock
    · exact ⟨⟨scheduled.clients, fun _ => present, scheduled.stopped, scheduled.due⟩,
        fun waiting => absurd (busy.symm.trans waiting.2.2.2.2) nofun⟩

theorem onPayload_scheduled (scheduled : u.Scheduled) (clock : Clock) (arrived : Bool)
    (busy : u.updating = true) : (u.onPayload clock arrived).Scheduled := by
  have stopped := scheduled.toAttended.unload
  unfold onPayload
  dsimp only
  split
  · exact fail_scheduled stopped busy clock _
  · exact ⟨⟨stopped.clients, stopped.requested, stopped.stopped, stopped.due⟩,
      fun waiting => absurd (busy.symm.trans waiting.2.2.2.2) nofun⟩

end RuleUpdater

namespace UpdaterHost

open RuleUpdater (Attended Scheduled)

variable {s : UpdaterHost}

theorem loadOrSchedule_scheduled (attended : s.updater.Attended) (clock : Clock) :
    (s.loadOrSchedule clock).updater.Scheduled := by
  unfold loadOrSchedule
  split
  · next unloaded =>
    simp only [Bool.and_eq_true, Bool.not_eq_true'] at unloaded
    exact ⟨⟨attended.clients, attended.requested, attended.stopped, attended.due⟩,
      fun waiting => absurd (unloaded.1.2.symm.trans waiting.2.1) nofun⟩
  · exact RuleUpdater.schedule_scheduled attended clock _

theorem onInitialized_scheduled (attended : s.updater.Attended) (clock : Clock) (loadedRules : Bool)
    (initial : InitialState) : (s.onInitialized clock loadedRules initial).updater.Scheduled := by
  unfold onInitialized
  refine loadOrSchedule_scheduled ?_ clock
  split
  · dsimp only
    split
    · exact ⟨attended.clients, attended.requested, attended.stopped, attended.due⟩
    · exact ⟨attended.clients, attended.requested, attended.stopped, attended.due⟩
  · exact ⟨attended.clients, attended.requested, attended.stopped, attended.due⟩

theorem onInstalled_scheduled (attended : s.updater.Attended) (busy : s.updater.updating = true)
    (clock : Clock) (sequence : Int) (installed : InstalledRules) :
    (s.onInstalled clock sequence installed).updater.Scheduled := by
  unfold onInstalled
  split
  · exact RuleUpdater.fail_scheduled attended busy clock _
  · dsimp only
    apply RuleUpdater.finish_scheduled
    exact ⟨attended.clients, attended.requested, attended.stopped, attended.due⟩

theorem work_scheduled (scheduled : s.updater.Scheduled) (view : WorkerView) :
    (s.work platform view).updater.Scheduled := by
  unfold work
  split
  · exact scheduled
  all_goals
    exact ⟨⟨scheduled.clients, scheduled.requested, scheduled.stopped, scheduled.due⟩, scheduled.armed⟩

theorem reply_scheduled (scheduled : s.updater.Scheduled) (inv : s.updater.core.Inv platform)
    (clock : Clock) : (s.reply clock).updater.Scheduled := by
  unfold reply
  cases waiting : s.updater.replies with
  | nil => exact scheduled
  | cons head rest =>
    have taken : ({ s.updater with replies := rest } : RuleUpdater).Attended :=
      ⟨scheduled.clients, scheduled.requested, scheduled.stopped, scheduled.due⟩
    cases head with
    | initialized loadedRules initial => exact onInitialized_scheduled taken clock loadedRules initial
    | installed sequence installed =>
      have busy := (inv.installing (by simp [UpdaterCore.installs, RuleUpdater.core, waiting, WorkerReply.installs])).1
      exact onInstalled_scheduled (s := { s with updater := { s.updater with replies := rest } }) taken busy clock
        sequence installed

theorem start_scheduled (disk : DictValue) (cache : StoredFile) (assets : Bool) :
    (start disk cache assets).updater.Scheduled := by
  cases assets <;> exact ⟨⟨le_rfl, nofun, nofun, nofun⟩, fun waiting => absurd waiting.2.2.2.1 (lt_irrefl 0)⟩

theorem next_scheduled (s : UpdaterHost) (op : UpdaterOp) (scheduled : s.updater.Scheduled) (inv : s.Inv platform)
    (allowed : s.permitted op) : (s.next platform op).updater.Scheduled := by
  cases op with
  | acquire clock => exact RuleUpdater.acquire_scheduled scheduled clock
  | release => exact RuleUpdater.release_scheduled scheduled
  | requestUpdate clock => exact RuleUpdater.requestUpdate_scheduled scheduled clock
  | timer clock =>
    obtain ⟨due, armed, fires⟩ := allowed
    exact RuleUpdater.timer_scheduled scheduled clock due armed fires
  | manifest clock body =>
    have busy := (inv.core.downloading (by rw [RuleUpdater.core, allowed]; rfl)).1
    exact RuleUpdater.onManifest_scheduled platform scheduled clock body allowed busy
  | payload clock arrived =>
    have busy := (inv.core.downloading (by rw [RuleUpdater.core, allowed]; rfl)).1
    exact RuleUpdater.onPayload_scheduled scheduled clock arrived busy
  | work view => exact work_scheduled platform scheduled view
  | reply clock => exact reply_scheduled platform scheduled inv.core clock
  | flush => exact scheduled
  | tamper cache => exact scheduled
  | restart assets => exact start_scheduled s.disk s.cache assets

/-- In this step the worker verified the payload of `manifest`, and wrote both to the cache. -/
def Writes (v : UpdaterHost) (view : WorkerView) (manifest : RuleManifest) (rules : LocalRules) : Prop :=
  ∃ json payload rest, v.updater.worker = .verifyAndInstall json manifest :: rest ∧
    view.temporary.read kMaxRuleBytes = some payload ∧
    verifyRulePayload platform payload manifest view.payloadNow = some rules ∧
    (v.next platform (.work view)).cache = .content (encodeRuleCache json payload)

/-- Every successful reply on its way was written by an earlier step, for the manifest in memory. -/
def Recorded (past : List (UpdaterHost × UpdaterOp)) (s : UpdaterHost) : Prop :=
  ∀ sequence installed rules, .installed sequence installed ∈ s.updater.replies → installed.rules = some rules →
    ∃ v view, (v, .work view) ∈ past ∧ Writes platform v view s.updater.manifest rules

variable {platform}

variable {past : List (UpdaterHost × UpdaterOp)}

theorem Recorded.keep {t : UpdaterHost} (recorded : Recorded platform past s)
    (step : UpdaterHost × UpdaterOp)
    (replies : ∀ sequence installed, .installed sequence installed ∈ t.updater.replies ->
      .installed sequence installed ∈ s.updater.replies /\ t.updater.manifest = s.updater.manifest) :
    Recorded platform (past ++ [step]) t := by
  intro sequence installed rules waiting found
  obtain ⟨before, same⟩ := replies sequence installed waiting
  obtain ⟨v, view, mem, writes⟩ := recorded sequence installed rules before found
  exact ⟨v, view, List.mem_append_left _ mem, same ▸ writes⟩

variable (platform)

variable {json : Bytes} {manifest : RuleManifest}

theorem verifyAndInstall_cases {view : WorkerView} {rules : LocalRules}
    (found : (verifyAndInstall platform view json manifest).1.rules = some rules) :
    ∃ payload, view.temporary.read kMaxRuleBytes = some payload /\
      verifyRulePayload platform payload manifest view.payloadNow = some rules /\
      (verifyAndInstall platform view json manifest).2 = some (encodeRuleCache json payload) := by
  unfold verifyAndInstall at found ⊢
  split at found
  · contradiction
  · next payload read =>
    split at found
    · contradiction
    · next verifiedRules verified =>
      split at found
      · next writes =>
        obtain rfl := Option.some.inj found
        exact ⟨payload, read, verified, by simp [writes]⟩
      · contradiction

theorem work_install {rest : List WorkerTask}
    (worker : s.updater.worker = .verifyAndInstall json manifest :: rest) (view : WorkerView) :
    s.work platform view =
      { s with
        updater := { s.updater with
          worker := rest
          replies := s.updater.replies ++
            [.installed manifest.sequence (verifyAndInstall platform view json manifest).1] }
        cache := match (verifyAndInstall platform view json manifest).2 with
          | some bytes => .content bytes
          | none => s.cache } := by
  cases installed : (verifyAndInstall platform view json manifest).2 <;>
    simp only [work, worker, installed]

theorem work_recorded (recorded : Recorded platform past s)
    (inv : s.updater.core.Inv platform) (view : WorkerView) :
    Recorded platform (past ++ [(s, .work view)]) (s.work platform view) := by
  cases worker : s.updater.worker with
  | nil =>
    have same : s.work platform view = s := by
      unfold work
      rw [worker]
    rw [same]
    exact recorded.keep _ fun _ _ waiting => ⟨waiting, rfl⟩
  | cons task rest =>
    cases task with
    | initializeRules minimum digest loadRules =>
      unfold work
      rw [worker]
      refine recorded.keep _ fun sequence installed waiting => ⟨?_, rfl⟩
      simpa using waiting
    | verifyAndInstall json manifest =>
      have bound : manifest = s.updater.manifest :=
        (inv.installTask json manifest (by rw [RuleUpdater.core, worker]; exact List.mem_cons_self)).1
      subst bound
      intro sequence installed rules waiting found
      rw [work_install platform worker view] at waiting ⊢
      rcases List.mem_append.mp waiting with before | now
      · obtain ⟨v, seen, mem, writes⟩ := recorded sequence installed rules before found
        exact ⟨v, seen, List.mem_append_left _ mem, writes⟩
      · obtain ⟨-, rfl⟩ := WorkerReply.installed.inj (List.mem_singleton.mp now)
        obtain ⟨payload, read, verified, written⟩ := verifyAndInstall_cases platform found
        refine ⟨s, view, List.mem_append_right _ List.mem_cons_self, json, payload, rest, worker, read, verified, ?_⟩
        show (s.work platform view).cache = _
        rw [work_install platform worker view, written]

end UpdaterHost

namespace RuleUpdater

def held (u : RuleUpdater) : List WorkerReply × RuleManifest := (u.replies, u.manifest)

theorem held_of_core {u v : RuleUpdater} (same : u.core = v.core) : u.held = v.held :=
  Prod.ext (congrArg UpdaterCore.replies same) (congrArg UpdaterCore.manifest same)

@[simp] theorem schedule_held (u : RuleUpdater) (clock : Clock) (delay : TimeDelta) :
    (u.schedule clock delay).held = u.held :=
  held_of_core (schedule_core u clock delay)

@[simp] theorem finish_held (u : RuleUpdater) (clock : Clock) : (u.finish clock).held = u.held := by
  unfold finish
  exact schedule_held _ _ _

@[simp] theorem fail_held (u : RuleUpdater) (clock : Clock) (reason : String) :
    (u.fail clock reason).held = u.held := by
  unfold fail
  exact schedule_held _ _ _

variable (u : RuleUpdater)

theorem acquire_held (clock : Clock) : (u.acquire clock).held = u.held := by
  have scheduled (v : RuleUpdater) (delay : TimeDelta) :
      (if v.clients = 1 then v.schedule clock delay else v).held = v.held := by
    split
    · exact schedule_held _ _ _
    · rfl
  unfold acquire
  dsimp only
  rw [scheduled]
  split
  · split <;> rfl
  · rfl

theorem release_held : u.release.held = u.held := by
  unfold release
  split
  · rfl
  dsimp only
  split
  · rfl
  split <;> rfl

theorem requestUpdate_held (clock : Clock) : (u.requestUpdate clock).2.held = u.held := by
  unfold requestUpdate
  split
  · rfl
  split
  · rfl
  split
  · rfl
  split
  · rfl
  split <;> rfl

theorem onPayload_held (clock : Clock) (arrived : Bool) :
    (u.onPayload clock arrived).held = u.held := by
  unfold onPayload
  dsimp only
  split
  · exact fail_held _ _ _
  · rfl

theorem onManifest_replies (clock : Clock) (body : Option Bytes) :
    (u.onManifest platform clock body).replies = u.replies := by
  have failed (reason : String) : (({ u with loader := none } : RuleUpdater).fail clock reason).replies = u.replies :=
    congrArg Prod.fst (fail_held _ _ _)
  unfold onManifest
  cases body with
  | none => exact failed _
  | some json =>
    dsimp only
    split
    · exact failed _
    split
    · exact failed _
    split
    · exact failed _
    split
    · exact congrArg Prod.fst (finish_held ({ u with loader := none } : RuleUpdater) clock)
    · rfl

end RuleUpdater

namespace UpdaterHost

theorem loadOrSchedule_held (s : UpdaterHost) (clock : Clock) :
    (s.loadOrSchedule clock).updater.held = s.updater.held := by
  unfold loadOrSchedule
  split
  · rfl
  · exact RuleUpdater.schedule_held _ _ _

theorem onInitialized_held (s : UpdaterHost) (clock : Clock) (loadedRules : Bool) (initial : InitialState) :
    (s.onInitialized clock loadedRules initial).updater.held = s.updater.held := by
  unfold onInitialized
  dsimp only
  rw [loadOrSchedule_held]
  split
  · split <;> rfl
  · rfl

theorem onInstalled_held (s : UpdaterHost) (clock : Clock) (sequence : Int) (installed : InstalledRules) :
    (s.onInstalled clock sequence installed).updater.held = s.updater.held := by
  unfold onInstalled
  split
  · exact RuleUpdater.fail_held _ _ _
  · exact RuleUpdater.finish_held _ _

variable {past : List (UpdaterHost × UpdaterOp)} {s : UpdaterHost}

-- Only the reply that is taken leaves.
theorem reply_recorded (recorded : Recorded platform past s)
    (clock : Clock) : Recorded platform (past ++ [(s, .reply clock)]) (s.reply clock) := by
  unfold reply
  cases replies : s.updater.replies with
  | nil => exact recorded.keep _ fun _ _ waiting => ⟨waiting, rfl⟩
  | cons head rest =>
    have left (t : UpdaterHost) (held : t.updater.held = (rest, s.updater.manifest)) :
        Recorded platform (past ++ [(s, .reply clock)]) t := by
      obtain ⟨taken, manifest⟩ := Prod.mk.inj held
      refine recorded.keep _ fun sequence installed waiting => ⟨?_, manifest⟩
      rw [taken] at waiting
      rw [replies]
      exact List.mem_cons_of_mem _ waiting
    cases head with
    | initialized loadedRules initial => exact left _ (onInitialized_held _ clock loadedRules initial)
    | installed sequence installed => exact left _ (onInstalled_held _ clock sequence installed)

theorem next_recorded (past : List (UpdaterHost × UpdaterOp)) (s : UpdaterHost) (op : UpdaterOp)
    (recorded : Recorded platform past s) (inv : s.updater.core.Inv platform) (allowed : s.permitted op) :
    Recorded platform (past ++ [(s, op)]) (s.next platform op) := by
  have same {t : UpdaterHost} (held : t.updater.held = s.updater.held) :
      Recorded platform (past ++ [(s, op)]) t := by
    obtain ⟨replies, manifest⟩ := Prod.mk.inj held
    exact recorded.keep _ fun sequence installed waiting => ⟨replies ▸ waiting, manifest⟩
  cases op with
  | acquire clock => exact same (RuleUpdater.acquire_held _ clock)
  | release => exact same (RuleUpdater.release_held _)
  | requestUpdate clock => exact same (RuleUpdater.requestUpdate_held _ clock)
  | timer clock => exact same (RuleUpdater.requestUpdate_held { s.updater with timer := none } clock)
  | manifest clock body =>
    have quiet := (inv.downloading (by rw [RuleUpdater.core, allowed]; rfl)).2
    simp only [UpdaterCore.installs, Nat.add_eq_zero_iff, List.countP_eq_zero] at quiet
    intro sequence installed rules waiting found
    have before : .installed sequence installed ∈ s.updater.replies :=
      RuleUpdater.onManifest_replies platform s.updater clock body ▸ waiting
    exact absurd rfl (quiet.2 _ before)
  | payload clock arrived => exact same (RuleUpdater.onPayload_held _ clock arrived)
  | work view => exact work_recorded platform recorded inv view
  | reply clock => exact reply_recorded platform recorded clock
  | flush => exact same rfl
  | tamper cache => exact same rfl
  | restart assets =>
    intro sequence installed rules waiting
    cases assets <;> exact absurd waiting List.not_mem_nil

structure Pipeline (past : List (UpdaterHost × UpdaterOp)) (s : UpdaterHost) : Prop where
  inv : s.Inv platform
  scheduled : s.updater.Scheduled
  recorded : Recorded platform past s

theorem run_pipeline {disk : DictValue} {cache : StoredFile} {assets : Bool} (run : Trace (updaterStep platform) (start disk cache assets) past s) :
    Pipeline platform past s := by
  refine Trace.history (P := Pipeline platform) (fun past s op t before step => ?_) ?_ run
  · obtain ⟨allowed, rfl⟩ := step
    exact ⟨next_inv platform s op before.inv allowed, next_scheduled platform s op before.scheduled before.inv allowed,
      next_recorded platform past s op before.recorded before.inv.core allowed⟩
  · refine ⟨start_inv platform disk cache assets, start_scheduled disk cache assets, ?_⟩
    intro sequence installed rules waiting
    cases assets <;> exact absurd waiting List.not_mem_nil

end UpdaterHost

/--
In every run: `updating` counts the one download or verification there is; what `OnInstalled` stores is of a manifest
whose payload was verified and written; nothing is requested without a client; and the timer runs whenever it should.
-/
theorem update_pipeline (disk : DictValue) (cache : StoredFile) (assets : Bool) (s : UpdaterHost)
    (past : List (UpdaterHost × UpdaterOp)) (run : Trace (updaterStep platform) (start disk cache assets) past s) :
    s.updater.core.downloads + s.updater.core.installs = (if s.updater.updating then 1 else 0) ∧
    (∀ (before after : List (UpdaterHost × UpdaterOp)) (u : UpdaterHost) (clock : Clock) (sequence : Int)
      (installed : InstalledRules) (rest : List WorkerReply) (rules : LocalRules),
      past = before ++ (u, .reply clock) :: after → u.updater.replies = .installed sequence installed :: rest →
      installed.rules = some rules →
      ∃ v view manifest, (v, .work view) ∈ before ∧ Writes platform v view manifest rules ∧
        (u.next platform (.reply clock)).updater.rules = rules ∧
        (u.next platform (.reply clock)).mark = (manifest.sequence, manifest.sha256) ∧
        watermarkOf (u.next platform (.reply clock)).pref = (manifest.sequence, manifest.sha256)) ∧
    (s.updater.loader.isSome = true → 0 < s.updater.clients) ∧
    (s.updater.Waiting → s.updater.timer.isSome = true) := by
  have now := run_pipeline platform run
  refine ⟨now.inv.core.updates, ?_, now.scheduled.requested, now.scheduled.armed⟩
  rintro before after u clock sequence installed rest rules rfl replies found
  obtain ⟨w, earlier, step, -⟩ := run.split_cons
  have then_ := run_pipeline platform earlier
  have waiting : .installed sequence installed ∈ u.updater.replies := by
    rw [replies]
    exact List.mem_cons_self
  obtain ⟨v, view, mem, writes⟩ := then_.recorded sequence installed rules waiting found
  have same := (then_.inv.core.installReply sequence installed waiting).1
  have active : u.activation (.reply clock) =
      some { sequence := sequence, digest := u.updater.manifest.sha256, rules := rules } := by
    simp [activation, replies, found]
  obtain ⟨installedRules, -, mark⟩ := activation_installs platform u (.reply clock) _ then_.inv active
  refine ⟨v, view, u.updater.manifest, mem, writes, installedRules, ?_, ?_⟩
  · rw [mark, same]
    rfl
  · rw [(next_inv platform u (.reply clock) then_.inv step.1).pref, mark, same]
    rfl

-- Two initialisations later the first client waits for its timer.
theorem update_pipeline_waiting :
    ((expiredPackage.take 5).foldl (next updatePlatform) (start [] .missing true)).updater.timer.isSome = true := by
  have follows : Follows UpdaterHost.permitted (next updatePlatform) (start [] .missing true) (expiredPackage.take 5) := by
    decide
  obtain ⟨past, run, -⟩ := follows.trace
  have waiting : ((expiredPackage.take 5).foldl (next updatePlatform) (start [] .missing true)).updater.Waiting :=
    ⟨by decide, by decide, by decide, by decide, by decide⟩
  exact (update_pipeline updatePlatform [] .missing true _ past run).2.2.2 waiting

end ChromiumHmos.UrlProtection
