import ChromiumHmos.UrlProtection.SourceAtomicity
import ChromiumHmos.UrlProtection.SourceBudget

set_option autoImplicit false

/-!
# When the refresh timer runs

`Schedule` arms the timer for the first source that is due, and `Tick` refreshes that source. The
refresh may be refused when the source is due before it may be checked again.
-/

namespace ChromiumHmos.UrlProtection

open Base OrderedMap Transition RuleSources

variable (platform : SubscriptionPlatform)

/-- `base::Time::Now()` is no earlier than the null time, and a random delay is not negative. -/
def Clock.Valid (clock : Clock) : Prop := 0 ≤ clock.now ∧ 0 ≤ clock.jitter

-- The clock the operation reads.
def clockOf : SourcesOp → Option Clock
  | .acquire clock | .tick clock | .downloaded clock _ | .mutate clock _ _ _ _ | .reply clock => some clock
  | .release | .work _ => none

inductive Redated (s : SourcesHost) (op : SourcesOp) (before after : Entry) : Prop
  | kept (notBefore : after.notBefore = before.notBefore) (due : after.due = before.due)
  | begun (clock : Clock) (reads : clockOf op = some clock) (notBefore : after.notBefore = clock.now + minutes 1)
      (due : after.due = clock.now + minutes 1)
  | failed (clock : Clock) (delay : TimeDelta) (reads : clockOf op = some clock) (positive : 0 < delay)
      (notBefore : after.notBefore = clock.now + delay) (due : after.due = clock.now + delay + clock.jitter)
  | installed (clock : Clock) (id : String) (generation : Int) (rules : SubscriptionRules)
      (rest : List RuleSources.Reply) (is : op = .reply clock)
      (head : s.sources.replies = .installed id generation rules true :: rest)
      (live : s.sources.current id generation = some before) (notBefore : after.notBefore = before.notBefore)
      (due : after.due = clock.now + hours 8 + clock.jitter)
  | updated (clock : Clock) (reads : clockOf op = some clock) (notBefore : after.notBefore = before.notBefore)
      (due : after.due = max before.notBefore (clock.now + seconds 15))
  | restored (clock : Clock) (restored : Std.ExtTreeMap String SubscriptionRules) (rest : List RuleSources.Reply)
      (is : op = .reply clock) (head : s.sources.replies = .restored restored :: rest)
      (notBefore : after.notBefore = before.notBefore) (due : clock.now + seconds 15 ≤ after.due)

structure NewlyDated (op : SourcesOp) (after : Entry) : Prop where
  clock : ∃ clock, clockOf op = some clock ∧ after.due = clock.now + seconds 15
  notBefore : after.notBefore = 0

def Redates (s : SourcesHost) (op : SourcesOp) (t : RuleSources) : Prop :=
  ∀ (id : String) (after : Entry), t.entries[id]? = some after →
    (∃ before, s.sources.entries[id]? = some before ∧ Redated s op before after) ∨ NewlyDated op after

variable {s : SourcesHost} {op : SourcesOp} {t : RuleSources}

theorem redates_same (same : t.entries = s.sources.entries) : Redates s op t :=
  fun _ after found => .inl ⟨after, same ▸ found, .kept rfl rfl⟩

theorem redates_insert {id : String} {before after : Entry}
    (found : s.sources.entries[id]? = some before) (redated : Redated s op before after)
    (entries : t.entries = s.sources.entries.insert id after) : Redates s op t := by
  intro other entry present
  rw [entries] at present
  rcases (getElem?_insert_some _ _ _ _ _).mp present with ⟨rfl, rfl⟩ | ⟨-, old⟩
  · exact .inl ⟨before, found, redated⟩
  · exact .inl ⟨entry, old, .kept rfl rfl⟩

namespace RuleSources

theorem schedule_entries (s : RuleSources) (clock : Clock) : (s.schedule clock).entries = s.entries := by
  rw [schedule_eq]

theorem backoff_positive (failures : Int) : 0 < min (minutes (5 * 2 ^ (failures - 1).toNat)) (hours 6) := by
  have power : 0 < (2 : Int) ^ (failures - 1).toNat := by positivity
  have longer : (0 : Int) < minutes (5 * 2 ^ (failures - 1).toNat) := by
    unfold minutes seconds milliseconds
    linarith
  exact lt_min longer (by decide)

def failedEntry (clock : Clock) (entry : Entry) (error : String) : Entry :=
  let failures := min (entry.failures + 1) 7
  let notBefore := clock.now + min (minutes (5 * 2 ^ (failures - 1).toNat)) (hours 6)
  { entry with
    error := error
    failures := failures
    notBefore := notBefore
    due := notBefore + clock.jitter }

theorem fail_entries (s : RuleSources) (clock : Clock) (id : String) (entry : Entry) (error : String) :
    (s.fail clock id entry error).entries = s.entries.insert id (failedEntry clock entry error) := by
  unfold fail
  rw [schedule_entries]
  rfl

variable {s : SourcesHost} {op : SourcesOp} {clock : Clock}

variable {t : RuleSources} {id : String} {entry : Entry}

theorem fail_redates
    (reads : clockOf op = some clock) (found : s.sources.entries[id]? = some entry)
    (same : t.entries = s.sources.entries) (error : String) : Redates s op (t.fail clock id entry error) := by
  have redated : Redated s op entry (failedEntry clock entry error) :=
    .failed clock _ reads (backoff_positive _) rfl rfl
  exact redates_insert found redated (by rw [fail_entries, same])

theorem refresh_redates (reads : clockOf op = some clock) (found : s.sources.entries[id]? = some entry)
    (same : t.entries = s.sources.entries) : Redates s op (t.refresh clock id entry).2 := by
  unfold refresh
  split
  · exact redates_same same
  split
  · exact redates_same same
  split
  · exact redates_same same
  split
  · exact redates_same same
  · dsimp only
    rw [same]
    exact redates_insert found (.begun clock reads rfl rfl) rfl

theorem onDownloaded_redates (reads : clockOf op = some clock)
    (id : String) (generation : Int) (arrived : Bool) :
    Redates s op (s.sources.onDownloaded clock id generation arrived) := by
  unfold onDownloaded
  split
  · split <;> exact redates_same rfl
  · next entry live =>
    have found := (current_spec s.cache s.issued s.sources id generation entry live).1
    dsimp only
    split
    · exact fail_redates (t := { s.sources with loader := none }) reads found rfl _
    · exact redates_same rfl

theorem onParsed_redates
    (reads : clockOf op = some clock) (same : t.entries = s.sources.entries) (id : String) (generation : Int)
    (parsed : ParsedDownload) : Redates s op (t.onParsed clock id generation parsed) := by
  unfold onParsed
  split
  · exact redates_same same
  · next entry live =>
    have found := (current_spec s.cache s.issued t id generation entry live).1
    rw [same] at found
    split
    · exact fail_redates reads found same _
    · split
      · exact fail_redates reads found same _
      · exact redates_same same

end RuleSources

namespace SourcesHost

theorem commit_entries (s : SourcesHost) (clock : Clock) (sources : RuleSources) :
    (s.commit clock sources).sources.entries = sources.entries := by
  unfold commit
  dsimp only
  rw [schedule_entries]
  rfl

variable {s : SourcesHost} {clock : Clock} {rest : List RuleSources.Reply}

theorem onInstalled_redates {id : String} {generation : Int}
    {rules : SubscriptionRules} {success : Bool}
    (head : s.sources.replies = .installed id generation rules success :: rest) :
    Redates s (.reply clock)
      (({ s.sources with replies := rest } : RuleSources).onInstalled clock id generation rules success) := by
  unfold onInstalled
  split
  · exact redates_same rfl
  · next entry live =>
    have found : s.sources.entries[id]? = some entry := (current_spec s.cache s.issued _ id generation entry live).1
    cases success with
    | false => exact fail_redates (t := { s.sources with replies := rest }) rfl found rfl _
    | true =>
      have redated : Redated s (.reply clock) entry
          { entry with
            rules := some rules
            error := ""
            failures := 0
            revision := entry.revision + 1
            due := clock.now + hours 8 + clock.jitter } :=
        .installed clock id generation rules rest rfl head live rfl rfl
      exact redates_insert found redated (schedule_entries _ _)

theorem onRestored_redates {restored : Std.ExtTreeMap String SubscriptionRules} (head : s.sources.replies = .restored restored :: rest) :
    Redates s (.reply clock) (({ s.sources with replies := rest } : RuleSources).onRestored clock restored) := by
  intro id after found
  unfold onRestored at found
  dsimp only at found
  rw [schedule_entries, Std.ExtTreeMap.getElem?_map] at found
  obtain ⟨before, present, rfl⟩ := Option.map_eq_some_iff.mp found
  refine .inl ⟨before, present, ?_⟩
  split
  · exact .kept rfl rfl
  · split
    · exact .kept rfl rfl
    · exact .restored clock restored rest rfl head rfl (le_max_left _ _)

theorem mutate_redates (s : SourcesHost) (clock : Clock) (modifiable : Bool) (token action : String)
    (command : DictValue) :
    Redates s (.mutate clock modifiable token action command)
      (s.mutate platform clock modifiable token action command).2.sources := by
  unfold mutate
  dsimp only
  split
  · exact redates_same rfl
  split
  · exact redates_same rfl
  split
  · exact redates_same rfl
  split
  · split
    · exact redates_same rfl
    · next config added =>
      intro id after found
      dsimp only at found
      rw [commit_entries, add, Std.ExtTreeMap.getElem?_insertIfNew] at found
      split at found
      · obtain rfl := Option.some.inj found
        exact .inr ⟨⟨clock, rfl, rfl⟩, rfl⟩
      · exact .inl ⟨after, found, .kept rfl rfl⟩
  · split
    · exact redates_same rfl
    · next entry present =>
      split
      · exact refresh_redates rfl present rfl
      split
      · split
        · exact redates_same rfl
        · next config updated =>
          have redated : Redated s (.mutate clock modifiable token action command) entry
              (updatedEntry clock entry config) := .updated clock rfl rfl rfl
          exact redates_insert present redated ((commit_entries _ _ _).trans (update_entries _ _ _ _ _))
      split
      · intro id after found
        dsimp only at found
        rw [commit_entries, remove, deleteCache, interrupt_entries] at found
        exact .inl ⟨after, ((getElem?_erase_some _ _ _ _).mp found).2, .kept rfl rfl⟩
      · exact redates_same rfl

theorem next_redates (s : SourcesHost) (op : SourcesOp) : Redates s op (s.next platform op).sources := by
  cases op with
  | acquire clock => exact redates_same (schedule_entries _ _)
  | release =>
    show Redates s .release s.sources.release
    unfold release
    split
    · exact redates_same rfl
    dsimp only
    split
    · exact redates_same rfl
    cases found : s.sources.entries[s.sources.active]? with
    | none => exact redates_same rfl
    | some entry =>
      dsimp only
      split
      · exact redates_same rfl
      · have cancelled : Redated s .release entry
            { entry with generation := entry.generation + 1, error := "cancelled" } := .kept rfl rfl
        exact redates_insert found cancelled rfl
  | tick clock =>
    show Redates s (.tick clock) (s.sources.tick clock)
    unfold tick
    dsimp only
    split
    · next id entry found =>
      have member := List.mem_of_find?_eq_some found
      exact refresh_redates (t := { s.sources with timer := none }) rfl
        (Std.ExtTreeMap.mem_toList_iff_getElem?_eq_some.mp member) rfl
    · exact redates_same (schedule_entries _ _)
  | downloaded clock arrived =>
    show Redates s _ (s.downloaded clock arrived).sources
    unfold downloaded
    cases s.sources.loader with
    | none => exact redates_same rfl
    | some loading => exact onDownloaded_redates rfl loading.1 loading.2 arrived
  | mutate clock modifiable token action command => exact mutate_redates platform s clock modifiable token action command
  | work view =>
    show Redates s _ (s.work platform view).sources
    unfold work
    split
    · exact redates_same rfl
    dsimp only
    split
    · exact redates_same rfl
    · exact redates_same rfl
    · split <;> exact redates_same rfl
    · exact redates_same rfl
    · exact redates_same rfl
  | reply clock =>
    show Redates s _ (s.reply clock).sources
    unfold reply
    cases head : s.sources.replies with
    | nil => exact redates_same rfl
    | cons first rest =>
      cases first with
      | restored restored => exact onRestored_redates head
      | parsed id generation parsed =>
        exact onParsed_redates (t := { s.sources with replies := rest }) rfl rfl id generation parsed
      | installed id generation rules success => exact onInstalled_redates head

end SourcesHost

namespace RuleSources

/-- Somebody waits for a refresh, and none is under way. -/
structure Waits (s : RuleSources) : Prop where
  ready : s.ready = true
  clients : 0 < s.clients
  idle : s.active = ""
  enabled : ∃ (id : String) (entry : Entry), s.entries[id]? = some entry ∧ entry.config.enabled = true

def Armed (s : RuleSources) : Prop := s.Waits → s.timer.isSome = true

def Dated (s : RuleSources) : Prop := ∀ (id : String) (entry : Entry), s.entries[id]? = some entry → 0 < entry.due

structure Runs (s : RuleSources) : Prop where
  timer : s.timer.isSome = true → s.ready = true ∧ s.clients ≠ 0 ∧ s.active = ""
  active : s.active ≠ "" → s.ready = true

/-- The source `Tick` picks may not be checked again yet. -/
def RateLimited (s : RuleSources) (clock : Clock) : Prop :=
  ∃ picked : String × Entry, s.entries.toList.find? (fun entry => entry.2.config.enabled && entry.2.due ≤ clock.now) = some picked ∧
    clock.now < picked.2.notBefore

theorem foldl_enabledDue (entries : List (String × Entry)) (next : Time) (dated : ∀ entry ∈ entries, 0 < entry.2.due)
    (before : 0 <= next) (some_enabled : 0 < next \/ ∃ entry ∈ entries, entry.2.config.enabled = true) :
    0 < entries.foldl enabledDue next := by
  induction entries generalizing next with
  | nil => exact some_enabled.elim id fun ⟨_, mem, _⟩ => absurd mem List.not_mem_nil
  | cons first rest ih =>
    have due := dated first List.mem_cons_self
    rw [List.foldl_cons]
    refine ih (enabledDue next first) (fun entry mem => dated entry (List.mem_cons_of_mem _ mem)) ?_ ?_
    · unfold enabledDue
      split
      · exact due.le
      · exact before
    · rcases some_enabled with positive | ⟨entry, mem, enabled⟩
      · refine .inl ?_
        unfold enabledDue
        split
        · exact due
        · exact positive
      · rcases List.mem_cons.mp mem with rfl | later
        · refine .inl ?_
          unfold enabledDue
          split
          · exact due
          · next skipped =>
            rcases before.lt_or_eq with positive | zero
            · exact positive
            · exact absurd ⟨enabled, .inl zero.symm⟩ skipped
        · exact .inr ⟨entry, later, enabled⟩

variable {s : RuleSources}

theorem schedule_armed (dated : s.Dated) (clock : Clock) : (s.schedule clock).Armed := by
  intro waits
  have entries := schedule_entries s clock
  obtain ⟨ready, clients, idle, id, entry, found, enabled⟩ := waits
  rw [schedule_eq] at ready clients idle
  rw [entries] at found
  have someone : s.clients ≠ 0 := ne_of_gt clients
  have next : 0 < s.entries.toList.foldl enabledDue 0 := by
    refine foldl_enabledDue _ 0 (fun other mem => ?_) le_rfl (.inr ⟨(id, entry), ?_, enabled⟩)
    · exact dated other.1 other.2 (Std.ExtTreeMap.mem_toList_iff_getElem?_eq_some.mp mem)
    · exact Std.ExtTreeMap.mem_toList_iff_getElem?_eq_some.mpr found
  have isReady : s.ready = true := ready
  have isIdle : s.active = "" := idle
  unfold schedule
  simp [isReady, someone, isIdle, next.ne']

theorem schedule_runs (active : s.active ≠ "" → s.ready = true) (clock : Clock) :
    (s.schedule clock).Runs := by
  refine ⟨fun armed => ?_, fun busy => ?_⟩
  · unfold schedule at armed ⊢
    dsimp only at armed ⊢
    split at armed
    · exact absurd armed Bool.false_ne_true
    · next open_ =>
      rw [if_neg open_]
      simp only [Bool.or_eq_true, Bool.not_eq_true', decide_eq_true_eq, not_or, Bool.not_eq_false, ne_eq, not_not]
        at open_
      split <;> exact ⟨open_.1.1, open_.1.2, open_.2⟩
  · rw [schedule_eq] at busy ⊢
    exact active busy

variable {t : RuleSources}

theorem Runs.of_same (runs : s.Runs) (timer : t.timer = s.timer) (ready : t.ready = s.ready)
    (clients : t.clients = s.clients) (active : t.active = s.active) : t.Runs := by
  refine ⟨?_, ?_⟩
  · rw [timer, ready, clients, active]
    exact runs.timer
  · rw [active, ready]
    exact runs.active

theorem Armed.of_same (armed : s.Armed) (timer : t.timer = s.timer) (ready : t.ready = s.ready)
    (clients : t.clients = s.clients) (active : t.active = s.active) (entries : t.entries = s.entries) : t.Armed := by
  intro waits
  rw [timer]
  obtain ⟨isReady, someone, idle, id, entry, found, enabled⟩ := waits
  exact armed ⟨ready ▸ isReady, clients ▸ someone, active ▸ idle, id, entry, entries ▸ found, enabled⟩

theorem refresh_active {clock : Clock} {id : String} {entry : Entry} (clients : s.clients ≠ 0)
    (enabled : entry.config.enabled = true) (idle : s.active = "") (named : id ≠ "")
    (allowed : ¬ clock.now < entry.notBefore) : (s.refresh clock id entry).2.active = id := by
  unfold refresh
  have other : s.active ≠ id := fun same => named (same.symm.trans idle)
  rw [if_neg (by simp [clients, enabled]), if_neg other, if_neg (not_not.mpr idle), if_neg allowed]

theorem refresh_cases (s : RuleSources) (clock : Clock) (id : String) (entry : Entry) :
    (s.refresh clock id entry).2 = s \/ (s.refresh clock id entry).2.active = id /\
      (s.refresh clock id entry).2.timer = none /\ (s.refresh clock id entry).2.ready = s.ready := by
  unfold refresh
  split
  · exact .inl rfl
  split
  · exact .inl rfl
  split
  · exact .inl rfl
  split
  · exact .inl rfl
  · exact .inr ⟨rfl, rfl, rfl⟩

end RuleSources

end ChromiumHmos.UrlProtection
