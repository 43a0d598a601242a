import ChromiumHmos.UrlProtection.SourceTimer

set_option autoImplicit false

/-!
# The refresh timer over whole runs

The timer stops for good in one way only: a `Tick` whose refresh is refused. That takes a source
that is due before it may be checked again, and only an installation under an earlier wall clock
makes one.
-/

namespace ChromiumHmos.UrlProtection

open Base OrderedMap Transition RuleSources

variable (platform : SubscriptionPlatform)

namespace RuleSources

structure Timed (s t : RuleSources) : Prop where
  runs : s.Runs → t.Runs
  armed : s.Runs → s.Armed → t.Dated → t.Armed

theorem Timed.of_same {s t : RuleSources} (timer : t.timer = s.timer) (ready : t.ready = s.ready)
    (clients : t.clients = s.clients) (active : t.active = s.active) (entries : t.entries = s.entries) : Timed s t :=
  ⟨fun runs => runs.of_same timer ready clients active,
    fun _ armed _ => armed.of_same timer ready clients active entries⟩

theorem Timed.schedule {s t : RuleSources} (active : s.Runs → t.active ≠ "" → t.ready = true) (clock : Clock) :
    Timed s (t.schedule clock) := by
  refine ⟨fun runs => schedule_runs (active runs) clock, fun _ _ dated => schedule_armed (fun id entry found => ?_) clock⟩
  exact dated id entry ((congrArg (·[id]?) (schedule_entries t clock)).trans found)

theorem fail_timed {s t : RuleSources} {clock : Clock} {id : String} {entry : Entry} {error : String} :
    Timed s (t.fail clock id entry error) := by
  unfold fail
  exact .schedule (fun _ busy => absurd rfl busy) clock

theorem acquire_timed (s : RuleSources) (clock : Clock) : Timed s (s.acquire clock) := by
  unfold acquire
  exact .schedule (s := s) (t := { s with clients := s.clients + 1 }) Runs.active clock

theorem release_timed (s : RuleSources) : Timed s s.release := by
  unfold release
  split
  · exact .of_same rfl rfl rfl rfl rfl
  dsimp only
  split
  · next present others =>
    refine ⟨fun runs => ⟨fun armed => ?_, runs.active⟩, fun _ armed _ waits => ?_⟩
    · obtain ⟨ready, -, idle⟩ := runs.timer armed
      exact ⟨ready, others, idle⟩
    · obtain ⟨ready, clients, idle, enabled⟩ := waits
      exact armed ⟨ready, by omega, idle, enabled⟩
  · next present last =>
    have left : s.clients - 1 = 0 := by simpa using last
    have stopped (t : RuleSources) (timer : t.timer = none) (clients : t.clients = s.clients - 1)
        (active : s.Runs → t.active ≠ "" → t.ready = true) : Timed s t := by
      refine ⟨fun runs => ⟨fun armed => ?_, active runs⟩, fun _ _ _ waits => ?_⟩
      · rw [timer] at armed
        exact absurd armed Bool.false_ne_true
      · have none_left := waits.clients
        omega
    split
    · exact stopped _ rfl rfl Runs.active
    · split
      · exact stopped _ rfl rfl Runs.active
      · exact stopped _ rfl rfl fun _ busy => absurd rfl busy

theorem onDownloaded_timed (s : RuleSources) (clock : Clock) (id : String) (generation : Int) (arrived : Bool) :
    Timed s (s.onDownloaded clock id generation arrived) := by
  unfold onDownloaded
  split
  · split <;> exact .of_same rfl rfl rfl rfl rfl
  · dsimp only
    split
    · exact fail_timed
    · exact .of_same rfl rfl rfl rfl rfl

theorem onParsed_timed {s : RuleSources} {rest : List Reply} (clock : Clock) (id : String) (generation : Int)
    (parsed : ParsedDownload) : Timed s (({ s with replies := rest } : RuleSources).onParsed clock id generation parsed) := by
  unfold onParsed
  split
  · exact .of_same rfl rfl rfl rfl rfl
  · split
    · exact fail_timed
    · split
      · exact fail_timed
      · exact .of_same rfl rfl rfl rfl rfl

theorem onInstalled_timed {s : RuleSources} {rest : List Reply} (clock : Clock) (id : String) (generation : Int)
    (rules : SubscriptionRules) (success : Bool) :
    Timed s (({ s with replies := rest } : RuleSources).onInstalled clock id generation rules success) := by
  unfold onInstalled
  split
  · exact .of_same rfl rfl rfl rfl rfl
  · split
    · exact fail_timed
    · exact .schedule (fun _ busy => absurd rfl busy) clock

theorem onRestored_timed {s : RuleSources} {rest : List Reply} (clock : Clock)
    (restored : Std.ExtTreeMap String SubscriptionRules) :
    Timed s (({ s with replies := rest } : RuleSources).onRestored clock restored) := by
  unfold onRestored
  exact .schedule (fun _ _ => rfl) clock

theorem refresh_timed {s : RuleSources} (ready : s.ready = true) (clock : Clock) (id : String) (entry : Entry)
    (named : id ≠ "") : Timed s (s.refresh clock id entry).2 := by
  rcases refresh_cases s clock id entry with same | ⟨active, timer, kept⟩
  · rw [same]
    exact .of_same rfl rfl rfl rfl rfl
  · refine ⟨fun _ => ⟨fun armed => ?_, fun _ => kept.trans ready⟩, fun _ _ _ waits => ?_⟩
    · rw [timer] at armed
      exact absurd armed Bool.false_ne_true
    · exact absurd (active.symm.trans waits.idle) named

variable {s : RuleSources} (runs : s.Runs) (fires : s.timer.isSome = true) (clock : Clock)

include runs fires

theorem tick_runs : (s.tick clock).Runs := by
  obtain ⟨ready, -, idle⟩ := runs.timer fires
  have stopped : ({ s with timer := none } : RuleSources).Runs := ⟨fun armed => absurd armed Bool.false_ne_true, runs.active⟩
  unfold tick
  dsimp only
  split
  · next id entry found =>
    rcases refresh_cases { s with timer := none } clock id entry with same | ⟨-, timer, kept⟩
    · rw [same]
      exact stopped
    · refine ⟨fun armed => ?_, fun _ => kept.trans ready⟩
      rw [timer] at armed
      exact absurd armed Bool.false_ne_true
  · exact schedule_runs runs.active clock

theorem tick_armed (named : ∀ (id : String) (entry : Entry), s.entries[id]? = some entry → id ≠ "")
    (allowed : ¬ s.RateLimited clock) (dated : (s.tick clock).Dated) : (s.tick clock).Armed := by
  obtain ⟨ready, clients, idle⟩ := runs.timer fires
  unfold tick at dated ⊢
  dsimp only at dated ⊢
  split
  · next id entry found =>
    have member := Std.ExtTreeMap.mem_toList_iff_getElem?_eq_some.mp (List.mem_of_find?_eq_some found)
    have enabled : entry.config.enabled = true := by
      have picked := List.find?_some found
      simp only [Bool.and_eq_true] at picked
      exact picked.1
    have begun := refresh_active (s := { s with timer := none }) clients enabled idle (named id entry member)
      fun early => allowed ⟨(id, entry), found, early⟩
    exact fun waits => absurd (begun.symm.trans waits.idle) (named id entry member)
  · next nothing =>
    rw [nothing] at dated
    exact schedule_armed (fun id entry found => dated id entry ((congrArg (·[id]?) (schedule_entries _ clock)).trans found))
      clock

theorem tick_refused (present : 0 <= s.clients) (limited : s.RateLimited clock) : ¬ (s.tick clock).Armed := by
  obtain ⟨ready, clients, idle⟩ := runs.timer fires
  obtain ⟨⟨id, entry⟩, found, early⟩ := limited
  have member := Std.ExtTreeMap.mem_toList_iff_getElem?_eq_some.mp (List.mem_of_find?_eq_some found)
  have enabled : entry.config.enabled = true := by
    have picked := List.find?_some found
    simp only [Bool.and_eq_true] at picked
    exact picked.1
  have refused : s.tick clock = { s with timer := none } := by
    unfold tick
    dsimp only
    rw [found]
    dsimp only
    unfold refresh
    by_cases own : s.active = id
    · rw [if_neg (by simp [clients, enabled]), if_pos own]
    · rw [if_neg (by simp [clients, enabled]), if_neg own, if_neg (not_not.mpr idle), if_pos early]
  rw [refused]
  intro armed
  have waits : ({ s with timer := none } : RuleSources).Waits :=
    ⟨ready, lt_of_le_of_ne present clients.symm, idle, id, entry, member, enabled⟩
  exact absurd (armed waits) Bool.false_ne_true

end RuleSources

namespace SourcesHost

theorem commit_timed {s : RuleSources} (host : SourcesHost) (clock : Clock) (sources : RuleSources)
    (active : s.Runs → sources.active ≠ "" → sources.ready = true) :
    Timed s (host.commit clock sources).sources := by
  unfold commit
  exact .schedule (s := s) (t := { sources with revision := sources.revision + 1 }) active clock

theorem interrupt_ready (s : RuleSources) (id : String) : (s.interrupt id).ready = s.ready := by
  unfold interrupt
  split <;> rfl

theorem update_ready (s : RuleSources) (clock : Clock) (id : String) (entry : Entry) (config : Config) :
    (s.update clock id entry config).ready = s.ready := by
  unfold update
  dsimp only
  split <;> exact interrupt_ready s id

theorem mutate_timed (s : SourcesHost) (clock : Clock) (modifiable : Bool) (token action : String)
    (command : DictValue)
    (named : ∀ (id : String) (entry : Entry), s.sources.entries[id]? = some entry → id ≠ "") :
    Timed s.sources (s.mutate platform clock modifiable token action command).2.sources := by
  unfold mutate
  dsimp only
  split
  · exact .of_same rfl rfl rfl rfl rfl
  · next notReady =>
    have ready : s.sources.ready = true := by simpa using notReady
    split
    · exact .of_same rfl rfl rfl rfl rfl
    split
    · exact .of_same rfl rfl rfl rfl rfl
    split
    · split
      · exact .of_same rfl rfl rfl rfl rfl
      · exact commit_timed _ clock _ fun _ _ => ready
    · split
      · exact .of_same rfl rfl rfl rfl rfl
      · next entry found =>
        split
        · exact refresh_timed ready clock _ entry (named _ entry found)
        split
        · split
          · exact .of_same rfl rfl rfl rfl rfl
          · exact commit_timed _ clock _ fun _ _ => (update_ready _ _ _ _ _).trans ready
        split
        · exact commit_timed _ clock _ fun _ _ => (interrupt_ready _ _).trans ready
        · exact .of_same rfl rfl rfl rfl rfl

theorem work_timed (s : SourcesHost) (view : WorkerView) : Timed s.sources (s.work platform view).sources := by
  unfold work
  split
  · exact .of_same rfl rfl rfl rfl rfl
  dsimp only
  split
  · exact .of_same rfl rfl rfl rfl rfl
  · exact .of_same rfl rfl rfl rfl rfl
  · split <;> exact .of_same rfl rfl rfl rfl rfl
  · exact .of_same rfl rfl rfl rfl rfl
  · exact .of_same rfl rfl rfl rfl rfl

theorem reply_timed (s : SourcesHost) (clock : Clock) : Timed s.sources (s.reply clock).sources := by
  unfold reply
  split
  · exact .of_same rfl rfl rfl rfl rfl
  dsimp only
  split
  · exact onRestored_timed clock _
  · exact onParsed_timed clock _ _ _
  · exact onInstalled_timed clock _ _ _ _

structure Kept (s : SourcesHost) : Prop where
  inv : s.core.Inv
  runs : s.sources.Runs
  dated : s.sources.Dated

variable {s : SourcesHost}

theorem inv_named (inv : s.core.Inv) (id : String) (entry : Entry)
    (found : s.sources.entries[id]? = some entry) : id ≠ "" :=
  (inv.named id entry.config entry.generation (core_view s.cache s.issued found)).1

theorem next_dated {op : SourcesOp} (dated : s.sources.Dated)
    (valid : ∀ clock, clockOf op = some clock -> clock.Valid) : (s.next platform op).sources.Dated := by
  have soon : 0 < seconds 15 := by decide
  have minute : 0 < minutes 1 := by decide
  have eight : 0 < hours 8 := by decide
  intro id after found
  rcases next_redates platform s op id after found with ⟨before, present, redated⟩ | ⟨⟨clock, reads, due⟩, -⟩
  · cases redated with
    | kept notBefore due => exact due ▸ dated id before present
    | begun clock reads notBefore due =>
      have now := (valid clock reads).1
      linarith
    | failed clock delay reads positive notBefore due =>
      obtain ⟨now, jitter⟩ := valid clock reads
      linarith
    | installed clock other generation rules rest is head live notBefore due =>
      obtain ⟨now, jitter⟩ := valid clock (is ▸ rfl)
      linarith
    | updated clock reads notBefore due =>
      have now := (valid clock reads).1
      have late := le_max_right before.notBefore (clock.now + seconds 15)
      linarith
    | restored clock restored rest is head notBefore due =>
      have now := (valid clock (is ▸ rfl)).1
      linarith
  · have now := (valid clock reads).1
    linarith

theorem next_timed (inv : s.core.Inv) (op : SourcesOp) (other : ∀ clock, op ≠ .tick clock) :
    Timed s.sources (s.next platform op).sources := by
  cases op with
  | acquire clock => exact acquire_timed _ clock
  | release => exact release_timed _
  | tick clock => exact absurd rfl (other clock)
  | downloaded clock arrived =>
    show Timed s.sources (s.downloaded clock arrived).sources
    unfold downloaded
    split
    · exact .of_same rfl rfl rfl rfl rfl
    · exact onDownloaded_timed _ clock _ _ arrived
  | mutate clock modifiable token action command =>
    exact mutate_timed platform s clock modifiable token action command (inv_named inv)
  | work view => exact work_timed platform s view
  | reply clock => exact reply_timed s clock

theorem next_runs (inv : s.core.Inv) (runs : s.sources.Runs) (op : SourcesOp) (allowed : s.permitted op) :
    (s.next platform op).sources.Runs := by
  by_cases ticks : ∃ clock, op = .tick clock
  · obtain ⟨clock, rfl⟩ := ticks
    obtain ⟨due, armed, -⟩ := allowed
    exact tick_runs runs (by rw [armed]; rfl) clock
  · exact (next_timed platform inv op fun clock same => ticks ⟨clock, same⟩).runs runs

theorem next_kept (kept : s.Kept) (op : SourcesOp) (allowed : s.permitted op)
    (valid : ∀ clock, clockOf op = some clock -> clock.Valid) : (s.next platform op).Kept :=
  ⟨RefreshCore.moves_inv (next_moves platform s op allowed kept.inv) kept.inv,
    next_runs platform kept.inv kept.runs op allowed, next_dated platform kept.dated valid⟩

theorem next_armed (kept : s.Kept) (armed : s.sources.Armed) (op : SourcesOp)
    (allowed : s.permitted op) (valid : ∀ clock, clockOf op = some clock -> clock.Valid)
    (unlimited : ∀ clock, op = .tick clock -> ¬ s.sources.RateLimited clock) : (s.next platform op).sources.Armed := by
  have dated := next_dated platform kept.dated valid
  by_cases ticks : ∃ clock, op = .tick clock
  · obtain ⟨clock, rfl⟩ := ticks
    obtain ⟨due, fires, -⟩ := allowed
    exact tick_armed kept.runs (by rw [fires]; rfl) clock (inv_named kept.inv) (unlimited clock rfl) dated
  · exact (next_timed platform kept.inv op fun clock same => ticks ⟨clock, same⟩).armed kept.runs armed dated

theorem loadConfigs_entries {clock : Clock} {P : Entry -> Prop}
    (new : ∀ config, P { config := config, due := clock.now + seconds 15 }) (values : List Value)
    (entries : Std.ExtTreeMap String Entry)
    (before : ∀ (id : String) (entry : Entry), entries[id]? = some entry -> P entry) (id : String) (entry : Entry)
    (found : (loadConfigs platform entries clock values).1[id]? = some entry) : P entry := by
  induction values generalizing entries with
  | nil => exact before id entry found
  | cons value rest ih =>
    cases value with
    | dict dict =>
      rw [loadConfigs] at found
      dsimp only at found
      split at found
      · exact ih entries before found
      · refine ih _ (fun other present mem => ?_) found
        rcases (getElem?_insert_some _ _ _ _ _).mp mem with ⟨-, rfl⟩ | ⟨-, old⟩
        · exact new _
        · exact before other present old
    | none | bool | int | double | string | list => exact ih entries before found

theorem start_kept (clock : Clock) (valid : clock.Valid) (pref : List Value)
    (files : Std.ExtTreeMap String StoredFile) : (start platform clock pref files).Kept := by
  refine ⟨start_core_inv platform clock pref files, ⟨nofun, fun busy => absurd rfl busy⟩, ?_⟩
  have soon : 0 < clock.now + seconds 15 := by
    have now := valid.1
    have later : 0 < seconds 15 := by decide
    linarith
  exact loadConfigs_entries platform (fun _ => soon) pref ∅ (by simp)

end SourcesHost

def RuleSources.Task.restores : Task → Bool
  | .restore _ => true
  | _ => false

def RuleSources.Reply.restores : RuleSources.Reply → Bool
  | .restored _ => true
  | _ => false

namespace RefreshCore

-- The restorations on their way; the constructor posts the only one.
def restores (c : RefreshCore) : Nat := c.worker.countP Task.restores + c.replies.countP Reply.restores

theorem moves_restores {c d : RefreshCore} (moves : Moves c d) : d.restores <= c.restores := by
  cases moves with
  | stay | join | leave | cancel | begin | abort | add => exact le_rfl
  | arrive loading live found => simp [restores, Task.restores]
  | restored head => simp [restores, head, List.countP_cons]
  | stale head bound dead => simp [restores, head, List.countP_cons]
  | finish head bound live => simp [restores, head, List.countP_cons]
  | parsed head live found present => simp [restores, head, List.countP_cons, Task.restores]
  | workRestore rules head =>
    simp only [restores, head, List.countP_append, List.countP_cons, List.countP_nil, Task.restores, Reply.restores,
      if_true]
    omega
  | workParse parsed head typed => simp [restores, head, Task.restores, Reply.restores]
  | workInstall file head feed => simp [restores, head, Task.restores, Reply.restores]
  | workRefuse head => simp [restores, head, Task.restores, Reply.restores]
  | workDelete head => simp [restores, head, List.countP_cons]
  | workTemporary head => simp [restores, head, List.countP_cons]
  | change changed deletes found named only needed =>
    have none_posted : deletes.countP Task.restores = 0 := by
      refine List.countP_eq_zero.mpr fun task mem => ?_
      rw [only task mem]
      exact Bool.false_ne_true
    simp [restores, List.countP_append, none_posted]

end RefreshCore

namespace SourcesHost

structure Later (s : SourcesHost) : Prop where
  once : s.core.restores ≤ 1
  restored : s.sources.ready = true → s.core.restores = 0
  unchecked : s.sources.ready = false →
    ∀ (id : String) (entry : Entry), s.sources.entries[id]? = some entry → entry.notBefore = 0
  later : ∀ (id : String) (entry : Entry), s.sources.entries[id]? = some entry → entry.notBefore ≤ entry.due

/-- A download is installed no more than eight hours, by the wall clock, before its source may be checked again. -/
def InTime (s : SourcesHost) (op : SourcesOp) : Prop :=
  ∀ clock id generation rules rest entry, op = .reply clock →
    s.sources.replies = .installed id generation rules true :: rest → s.sources.current id generation = some entry →
    entry.notBefore ≤ clock.now + hours 8 + clock.jitter

variable {s : SourcesHost}

theorem next_unready (kept : s.Kept) (unready : s.sources.ready = false) (op : SourcesOp)
    (allowed : s.permitted op) (still : (s.next platform op).sources.ready = false) :
    (s.next platform op).sources.entries = s.sources.entries := by
  have idle : s.sources.active = "" := by
    by_contra busy
    exact absurd ((kept.runs.active busy).symm.trans unready) nofun
  have stale (id : String) (generation : Int) (t : RuleSources) (entries : t.entries = s.sources.entries)
      (active : t.active = s.sources.active) : t.current id generation = none := by
    cases found : t.current id generation with
    | none => rfl
    | some entry =>
      obtain ⟨present, -, live⟩ := current_spec s.cache s.issued t id generation entry found
      have same : s.sources.active = id := active.symm.trans live.1
      exact absurd (same.symm.trans idle) (inv_named kept.inv id entry (entries ▸ present))
  cases op with
  | acquire clock => exact schedule_entries _ _
  | release =>
    show s.sources.release.entries = _
    unfold release
    split
    · rfl
    dsimp only
    split
    · rfl
    · rw [idle]
      split
      · rfl
      · rfl
  | tick clock =>
    obtain ⟨due, armed, -⟩ := allowed
    have ready := (kept.runs.timer (by rw [armed]; rfl)).1
    exact absurd (ready.symm.trans unready) nofun
  | downloaded clock arrived =>
    show (s.downloaded clock arrived).sources.entries = _
    unfold downloaded
    split
    · rfl
    · unfold onDownloaded
      rw [stale _ _ s.sources rfl rfl]
      dsimp only
      split <;> rfl
  | mutate clock modifiable token action command =>
    show (s.mutate platform clock modifiable token action command).2.sources.entries = _
    unfold mutate
    dsimp only
    rw [if_pos (by simp [unready])]
  | work view =>
    show (s.work platform view).sources.entries = _
    unfold work
    split
    · rfl
    dsimp only
    split
    · rfl
    · rfl
    · split <;> rfl
    · rfl
    · rfl
  | reply clock =>
    show (s.reply clock).sources.entries = _
    have still : (s.reply clock).sources.ready = false := still
    unfold reply at still ⊢
    split
    · rfl
    · next head rest replies =>
      rw [replies] at still
      cases head with
      | restored restored =>
        dsimp only [onRestored] at still
        rw [schedule_eq] at still
        exact absurd still nofun
      | parsed id generation parsed =>
        dsimp only
        unfold onParsed
        rw [stale _ _ { s.sources with replies := rest } rfl rfl]
      | installed id generation rules success =>
        dsimp only
        unfold onInstalled
        rw [stale _ _ { s.sources with replies := rest } rfl rfl]

theorem next_ready (inv : s.core.Inv) (op : SourcesOp) (allowed : s.permitted op)
    (ready : s.sources.ready = true) : (s.next platform op).sources.ready = true := by
  cases next_holdings platform s op allowed inv with
  | kept _ same => exact same.trans ready
  | installed _ _ _ _ _ _ _ _ _ _ same => exact same.trans ready
  | restored _ _ _ _ same => exact same
  | added _ _ _ _ _ _ same => exact same.trans ready
  | updated _ _ _ _ _ _ _ _ _ _ same => exact same.trans ready
  | removed _ _ same => exact same.trans ready

theorem becomes_ready (op : SourcesOp) (unready : s.sources.ready = false)
    (ready : (s.next platform op).sources.ready = true) :
    (s.next platform op).core.restores + 1 = s.core.restores := by
  have same {t : RuleSources} {P : Prop} (next : t.ready = true) (kept : t.ready = s.sources.ready) : P :=
    absurd (next.symm.trans (kept.trans unready)) nofun
  cases op with
  | acquire clock => exact same ready (schedule_ready _ _)
  | release => exact same ready s.sources.release_holdings.2
  | tick clock => exact same ready (s.sources.tick_holdings clock).2
  | downloaded clock arrived =>
    refine same ready ?_
    show (s.downloaded clock arrived).sources.ready = _
    unfold downloaded
    split
    · rfl
    · exact (onDownloaded_holdings _ clock _ _ arrived).2
  | mutate clock modifiable token action command =>
    refine same ready ?_
    show (s.mutate platform clock modifiable token action command).2.sources.ready = _
    unfold mutate
    dsimp only
    rw [if_pos (by simp [unready])]
  | work view =>
    refine same ready ?_
    show (s.work platform view).sources.ready = _
    unfold work
    split
    · rfl
    dsimp only
    split
    · rfl
    · rfl
    · split <;> rfl
    · rfl
    · rfl
  | reply clock =>
    have ready : (s.reply clock).sources.ready = true := ready
    show (s.reply clock).core.restores + 1 = _
    unfold reply at ready ⊢
    cases replies : s.sources.replies with
    | nil =>
      rw [replies] at ready
      exact absurd (ready.symm.trans unready) nofun
    | cons head rest =>
      rw [replies] at ready
      cases head with
      | restored restored =>
        simp only [core, RuleSources.core, onRestored, RefreshCore.restores, replies, List.countP_cons,
          Reply.restores, if_true]
        rw [schedule_eq]
        dsimp only
        omega
      | parsed id generation parsed => exact same ready (onParsed_holdings _ clock id generation parsed).2
      | installed id generation rules success =>
        exact same ready (onInstalled_holdings _ clock id generation rules success).1

theorem next_later (kept : s.Kept) (later : s.Later) (op : SourcesOp) (allowed : s.permitted op)
    (valid : ∀ clock, clockOf op = some clock -> clock.Valid) (inTime : s.InTime op) : (s.next platform op).Later := by
  have fewer := RefreshCore.moves_restores (next_moves platform s op allowed kept.inv)
  refine ⟨fewer.trans later.once, fun ready => ?_, fun unready id entry found => ?_, fun id after found => ?_⟩
  · cases before : s.sources.ready with
    | true => exact Nat.le_zero.mp (fewer.trans (later.restored before).le)
    | false =>
      have one := becomes_ready platform op before ready
      have most := later.once
      omega
  · have before : s.sources.ready = false := by
      cases before : s.sources.ready with
      | false => rfl
      | true => exact absurd ((next_ready platform kept.inv op allowed before).symm.trans unready) nofun
    exact later.unchecked before id entry (next_unready platform kept before op allowed unready ▸ found)
  · have soon : 0 < seconds 15 := by decide
    rcases next_redates platform s op id after found with ⟨before, present, redated⟩ | ⟨⟨clock, reads, due⟩, fresh⟩
    · have earlier := later.later id before present
      cases redated with
      | kept notBefore due => rw [notBefore, due]; exact earlier
      | begun clock reads notBefore due => rw [notBefore, due]
      | failed clock delay reads positive notBefore due =>
        have jitter := (valid clock reads).2
        linarith
      | installed clock other generation rules rest is head live notBefore due =>
        rw [notBefore, due]
        exact inTime clock other generation rules rest before is head live
      | updated clock reads notBefore due =>
        rw [notBefore, due]
        exact le_max_left _ _
      | restored clock restored rest is head notBefore due =>
        have unready : s.sources.ready = false := by
          cases ready : s.sources.ready with
          | false => rfl
          | true =>
            have none_left := later.restored ready
            simp [RefreshCore.restores, core, RuleSources.core, head, Reply.restores] at none_left
        have never := later.unchecked unready id before present
        have now := (valid clock (is ▸ rfl)).1
        linarith
    · have now := (valid clock reads).1
      linarith

theorem start_later (clock : Clock) (valid : clock.Valid) (pref : List Value)
    (files : Std.ExtTreeMap String StoredFile) : (start platform clock pref files).Later := by
  have entries (id : String) (entry : Entry) (found : (start platform clock pref files).sources.entries[id]? = some entry) :
      entry.notBefore = 0 /\ entry.due = clock.now + seconds 15 :=
    loadConfigs_entries platform (P := fun entry => entry.notBefore = 0 /\ entry.due = clock.now + seconds 15)
      (fun _ => ⟨rfl, rfl⟩) pref ∅ (by simp) id entry found
  refine ⟨le_rfl, nofun, fun _ id entry found => (entries id entry found).1, fun id entry found => ?_⟩
  obtain ⟨unchecked, due⟩ := entries id entry found
  have now := valid.1
  have soon : 0 < seconds 15 := by decide
  linarith

theorem Later.unlimited (later : s.Later) (clock : Clock) : ¬ s.sources.RateLimited clock := by
  rintro ⟨⟨id, entry⟩, found, early⟩
  have member := Std.ExtTreeMap.mem_toList_iff_getElem?_eq_some.mp (List.mem_of_find?_eq_some found)
  have due := List.find?_some found
  simp only [Bool.and_eq_true, decide_eq_true_eq] at due
  exact absurd ((later.later id entry member).trans due.2) (not_le.mpr early)

end SourcesHost

open SourcesHost

theorem step_permitted {s : SourcesHost} {past : List (SourcesHost × SourcesOp)} {t : SourcesHost}
    (run : Trace (SourcesHost.step platform) s past t) : ∀ step ∈ past, step.1.permitted step.2 := by
  induction run with
  | nil => simp
  | cons first tail ih =>
    intro step mem
    rcases List.mem_cons.mp mem with rfl | later
    · exact first.1
    · exact ih step later

/--
The timer is armed after every operation of a run exactly if no `Tick` picks a source that may not be checked yet; and
none does while downloads are installed in time.
-/
theorem timer_armed_iff (clock : Clock) (valid : clock.Valid) (pref : List Value)
    (files : Std.ExtTreeMap String StoredFile) (s : SourcesHost) (past : List (SourcesHost × SourcesOp))
    (run : Trace (SourcesHost.step platform) (start platform clock pref files) past s)
    (readings : ∀ step ∈ past, ∀ reading, clockOf step.2 = some reading → reading.Valid) :
    ((∀ step ∈ past, (step.1.next platform step.2).sources.Armed) ↔
      ∀ step ∈ past, ∀ reading, step.2 = .tick reading → ¬ step.1.sources.RateLimited reading) ∧
    ((∀ step ∈ past, step.1.InTime step.2) → ∀ step ∈ past, (step.1.next platform step.2).sources.Armed) := by
  have permitted := step_permitted platform run
  have started := start_kept platform clock valid pref files
  have kept := (run.throughout (P := Kept) (Q := fun _ op => ∀ reading, clockOf op = some reading → reading.Valid)
    (fun u op v before reads (moved : SourcesHost.step platform u op v) =>
      moved.2 ▸ next_kept platform before op moved.1 reads) readings started).1
  have armed (unlimited : ∀ step ∈ past, ∀ reading, step.2 = .tick reading → ¬ step.1.sources.RateLimited reading) :
      ∀ step ∈ past, (step.1.next platform step.2).sources.Armed := by
    have still := (run.throughout (P := fun u => u.Kept ∧ u.sources.Armed)
      (Q := fun u op => (∀ reading, clockOf op = some reading → reading.Valid) ∧
        ∀ reading, op = .tick reading → ¬ u.sources.RateLimited reading)
      (fun u op v before allowed (moved : SourcesHost.step platform u op v) =>
        moved.2 ▸ ⟨next_kept platform before.1 op moved.1 allowed.1,
          next_armed platform before.1 before.2 op moved.1 allowed.1 allowed.2⟩)
      (fun step mem => ⟨readings step mem, unlimited step mem⟩) ⟨started, fun waits => absurd waits.ready nofun⟩).1
    intro step mem
    exact next_armed platform (still step mem).1 (still step mem).2 step.2 (permitted step mem) (readings step mem)
      (unlimited step mem)
  refine ⟨⟨fun always step mem reading ticks limited => ?_, armed⟩, fun inTime => armed fun step mem reading ticks => ?_⟩
  · have fires : step.1.sources.timer.isSome = true := by
      have allowed := permitted step mem
      rw [ticks] at allowed
      obtain ⟨due, fires, -⟩ := allowed
      rw [fires]
      rfl
    have stopped := tick_refused (kept step mem).runs fires reading (kept step mem).inv.clients limited
    have left := always step mem
    rw [ticks] at left
    exact stopped left
  · have later := (run.throughout (P := fun u => u.Kept ∧ u.Later)
      (Q := fun u op => (∀ reading, clockOf op = some reading → reading.Valid) ∧ u.InTime op)
      (fun u op v before allowed (moved : SourcesHost.step platform u op v) =>
        moved.2 ▸ ⟨next_kept platform before.1 op moved.1 allowed.1,
          next_later platform before.1 before.2 op moved.1 allowed.1 allowed.2⟩)
      (fun step mem => ⟨readings step mem, inTime step mem⟩)
      ⟨started, start_later platform clock valid pref files⟩).1
    exact (later step mem).2.unlimited reading

instance decidableSourcesPermitted (s : SourcesHost) : (op : SourcesOp) → Decidable (s.permitted op)
  | .tick clock => inferInstanceAs (Decidable (∃ due, s.sources.timer = some due ∧ due ≤ clock.ticks))
  | .downloaded .. => inferInstanceAs (Decidable (s.sources.loader.isSome = true))
  | .mutate _ _ token _ _ => inferInstanceAs (Decidable (token ∉ s.issued ∧ s.cache[token]? = none))
  | .acquire _ | .release | .work _ | .reply _ => inferInstanceAs (Decidable True)

def subscriptionPlatform : SubscriptionPlatform :=
  { counterPlatform with
    isStringUTF8 := fun _ => true
    hostIsIPAddress := fun _ => false
    canonicalHostRegistry := fun _ => some "com"
    writeJson := fun _ => some (utf8 "header")
    millisecondsFromTime := fun _ => 0 }

def subscribed : List Value :=
  [.dict [("sourceId", .string "source"), ("name", .string "Example"), ("url", .string "https://example.com/"),
    ("format", .string "domains"), ("ruleType", .string "host_suffix"), ("enabled", .bool true)]]

-- A wall clock, hours after the first reading, and the ticks since then.
def readingAt (wall ticks : Int) : Clock := ⟨days 1000 + hours wall, hours ticks, 0⟩

def downloadView : SourcesHost.WorkerView where
  temporary := .content (utf8 "example.com")
  now := days 1000
  writes := true

-- The first refresh installs its download when the wall clock reads `wall` hours later.
def refreshed (wall : Int) : List SourcesOp :=
  [.work downloadView, .acquire (readingAt 0 0), .reply (readingAt 0 0), .tick (readingAt 1 1),
    .downloaded (readingAt 1 1) true, .work downloadView, .reply (readingAt 1 1), .work downloadView,
    .reply (readingAt wall 1), .tick (readingAt (wall + 8) 9)]

def subscribedHost : SourcesHost := start subscriptionPlatform (readingAt 0 0) subscribed ∅

-- Set back by nine hours, the clock reads less than `not_before` when the source is due.
theorem timer_stalls : ∃ past, Trace (SourcesHost.step subscriptionPlatform) subscribedHost past
      ((refreshed (-8)).foldl (next subscriptionPlatform) subscribedHost) ∧
    (∀ op ∈ refreshed (-8), ∀ reading, clockOf op = some reading → reading.Valid) ∧
    ¬ ((refreshed (-8)).foldl (next subscriptionPlatform) subscribedHost).sources.Armed := by
  have follows : Follows SourcesHost.permitted (next subscriptionPlatform) subscribedHost (refreshed (-8)) := by
    decide +kernel
  obtain ⟨past, run, -⟩ := follows.trace
  refine ⟨past, run, ?_, fun armed => ?_⟩
  · intro op mem reading reads
    simp only [refreshed, List.mem_cons, List.not_mem_nil, or_false] at mem
    rcases mem with rfl | rfl | rfl | rfl | rfl | rfl | rfl | rfl | rfl | rfl <;> cases reads <;>
      exact ⟨by decide, by decide⟩
  · have enabled : ∃ entry, ((refreshed (-8)).foldl (next subscriptionPlatform) subscribedHost).sources.entries["source"]? =
        some entry ∧ entry.config.enabled = true := by decide +kernel
    have waits : ((refreshed (-8)).foldl (next subscriptionPlatform) subscribedHost).sources.Waits :=
      ⟨by decide +kernel, by decide +kernel, by decide +kernel, "source", enabled⟩
    have timer := armed waits
    revert timer
    decide +kernel

-- Under a clock that only moves on, the second refresh begins.
theorem timer_armed_refreshed : ∃ past, Trace (SourcesHost.step subscriptionPlatform) subscribedHost past
      ((refreshed 1).foldl (next subscriptionPlatform) subscribedHost) ∧ past.map Prod.snd = refreshed 1 ∧
    ((∀ step ∈ past, (step.1.next subscriptionPlatform step.2).sources.Armed) ↔
      ∀ step ∈ past, ∀ reading, step.2 = .tick reading → ¬ step.1.sources.RateLimited reading) := by
  have follows : Follows SourcesHost.permitted (next subscriptionPlatform) subscribedHost (refreshed 1) := by
    decide +kernel
  obtain ⟨past, run, ran⟩ := follows.trace
  have readings : ∀ step ∈ past, ∀ reading, clockOf step.2 = some reading → reading.Valid := by
    intro step mem reading reads
    have ops : step.2 ∈ refreshed 1 := ran ▸ List.mem_map_of_mem mem
    generalize step.2 = op at ops reads
    simp only [refreshed, List.mem_cons, List.not_mem_nil, or_false] at ops
    rcases ops with rfl | rfl | rfl | rfl | rfl | rfl | rfl | rfl | rfl | rfl <;> cases reads <;>
      exact ⟨by decide, by decide⟩
  exact ⟨past, run, ran, (timer_armed_iff subscriptionPlatform (readingAt 0 0) ⟨by decide, by decide⟩ subscribed ∅ _ past
    run readings).1⟩

end ChromiumHmos.UrlProtection
