import ChromiumHmos.UrlProtection.SourceProgress

set_option autoImplicit false

/-!
# Interrupted refreshes change nothing

The guarantees of the sources over a whole run of one process: one refresh at a time, no effect
of an interrupted one, and no file left behind for a feed its source no longer has.
-/

namespace ChromiumHmos.UrlProtection

open Base Transition RuleSources

variable (platform : SubscriptionPlatform)

structure NewEntry (id : String) (entry : Entry) : Prop where
  named : entry.config.id = id
  valid : entry.config.validate platform = true
  generation : entry.generation = 0
  rules : entry.rules = none

namespace SourcesHost

open RefreshCore

variable (clock : Clock)

theorem loadConfigs_new (values : List Value) (entries : Std.ExtTreeMap String Entry)
    (new : ∀ id entry, entries[id]? = some entry -> NewEntry platform id entry) :
    ∀ id entry, (loadConfigs platform entries clock values).1[id]? = some entry ->
      NewEntry platform id entry := by
  induction values generalizing entries with
  | nil => exact new
  | cons value rest ih =>
    cases value with
    | dict dict =>
      rw [loadConfigs]
      dsimp only
      split
      · exact ih entries new
      next kept =>
        simp only [Bool.or_eq_true, decide_eq_true_eq, Bool.not_eq_true', not_or,
          Bool.not_eq_false, ge_iff_le, not_le] at kept
        refine ih _ fun id entry found => ?_
        rcases (OrderedMap.getElem?_insert_some _ _ _ _ _).mp found with ⟨rfl, rfl⟩ | ⟨-, old⟩
        · exact ⟨rfl, kept.1.2, rfl, rfl⟩
        · exact new id entry old
    | none | bool | int | double | string | list => exact ih entries new

theorem start_new (pref : List Value) (files : Std.ExtTreeMap String StoredFile)
    (id : String) (entry : Entry)
    (found : (start platform clock pref files).sources.entries[id]? = some entry) :
    NewEntry platform id entry :=
  loadConfigs_new platform clock pref ∅ (by simp) id entry found

theorem start_core_inv (pref : List Value)
    (files : Std.ExtTreeMap String StoredFile) : (start platform clock pref files).core.Inv := by
  refine ⟨le_rfl, ?_, ?_, ?_, ?_⟩
  · intro id config generation found
    obtain ⟨entry, present, same⟩ := Option.map_eq_some_iff.mp found
    obtain ⟨rfl, rfl⟩ := Prod.mk.inj same
    have new := start_new platform clock pref files id entry present
    refine ⟨new.named ▸ validate_named platform _ new.valid, new.named, ?_⟩
    exact Std.ExtTreeMap.mem_keys.mpr
      (Std.ExtTreeMap.mem_iff_isSome_getElem?.mpr (by
        have present_ : (loadConfigs platform ∅ clock pref).1[id]? = some entry := present
        rw [present_]
        rfl))
  · intro running
    exact absurd rfl running
  · intro id generation mem
    simp [RefreshCore.continuations, core, RuleSources.core, start, Task.continuation] at mem
  · intro id generation loading
    simp [core, RuleSources.core, start] at loading

theorem start_files_inv (pref : List Value) (files : Std.ExtTreeMap String StoredFile) :
    (start platform clock pref files).core.FilesInv := by
  refine ⟨?_, ?_, trivial, ?_⟩
  · intro id generation config mem
    simp [core, RuleSources.core, start] at mem
  · intro id generation parsed rules mem
    simp [core, RuleSources.core, start] at mem
  · intro id file found known
    have present : ((start platform clock pref files).sources.entries[id]?).isSome :=
      Std.ExtTreeMap.mem_iff_isSome_getElem?.mp (Std.ExtTreeMap.mem_keys.mp known)
    obtain ⟨entry, present⟩ := Option.isSome_iff_exists.mp present
    have entry_ : (loadConfigs platform ∅ clock pref).1[id]? = some entry := present
    simp only [core, RuleSources.core, start, Std.ExtTreeMap.getElem?_map, Option.map_eq_some_iff]
      at found
    obtain ⟨stored, -, rfl⟩ := found
    exact ⟨entry.config.feed, by simp [entry_], .inl ⟨_, _, core_view _ _ present, rfl⟩⟩

/-- The continuation an operation runs. -/
def runs (s : SourcesHost) : SourcesOp → Option Continuation
  | .downloaded .. => s.sources.loader
  | .reply _ => s.sources.replies.head?.bind Reply.continuation
  | _ => none

/-- The source is removed or updated, or the last client leaves. -/
def interrupts (s : SourcesHost) (id : String) : SourcesOp → Prop
  | .mutate clock modifiable token action command =>
    (action = "updateProtectionRuleSource" ∨ action = "removeProtectionRuleSource") ∧
      stringOf command "sourceId" = id ∧
      (s.mutate platform clock modifiable token action command).1 = ""
  | .release => s.sources.clients = 1
  | _ => False

end SourcesHost

namespace RefreshCore

/-- The continuation lies behind the generation of its entry, or the entry is gone. -/
def Dead (c : RefreshCore) (id : String) (generation : Int) : Prop :=
  id ∈ c.issued ∧ ∀ config latest, c.view id = some (config, latest) → generation < latest

variable {c : RefreshCore} {id : String} {generation : Int}

theorem Dead.update (dead : c.Dead id generation)
    (other : String) (config : Config) (latest : Int) (changed : Option (Config × Int))
    (found : c.view other = some (config, latest))
    (newer : ∀ new now, changed = some (new, now) -> latest <= now) (d : RefreshCore)
    (issued : d.issued = c.issued) (view : d.view = Function.update c.view other changed) :
    d.Dead id generation := by
  refine ⟨issued ▸ dead.1, fun new now found' => ?_⟩
  rw [view] at found'
  by_cases same : id = other
  · subst same
    rw [Function.update_self] at found'
    exact lt_of_lt_of_le (dead.2 config latest found) (newer new now found')
  · rw [Function.update_of_ne same] at found'
    exact dead.2 new now found'

theorem moves_dead {d : RefreshCore} (moves : Moves c d)
    (dead : c.Dead id generation) : d.Dead id generation := by
  cases moves with
  | cancel last running found =>
    refine dead.update _ _ _ _ found ?_ _ rfl rfl
    rintro new now ⟨⟩
    omega
  | begin found enabled wanted resting =>
    refine dead.update _ _ _ _ found ?_ _ rfl rfl
    rintro new now ⟨⟩
    omega
  | add config fresh unused named =>
    refine ⟨List.mem_cons_of_mem _ dead.1, fun new now found => dead.2 new now ?_⟩
    have distinct : id ≠ config.id := fun same => fresh (same ▸ dead.1)
    dsimp only at found
    rwa [Function.update_of_ne distinct] at found
  | @change other config latest changed deletes found named only needed =>
    refine dead.update _ _ _ _ found ?_ _ rfl rfl
    intro new now same
    obtain ⟨_, -, rest⟩ := Option.map_eq_some_iff.mp same
    obtain ⟨-, rfl⟩ := Prod.mk.inj rest
    omega
  | _ => exact dead

end RefreshCore

namespace SourcesHost

open RefreshCore

theorem current_dead (s : SourcesHost) (id : String) (generation : Int)
    (dead : s.core.Dead id generation) : s.sources.current id generation = none := by
  cases found : s.sources.current id generation with
  | none => rfl
  | some entry =>
    obtain ⟨present, same, -⟩ := current_spec s.cache s.issued s.sources id generation entry found
    have behind := dead.2 _ _ (core_view _ _ present)
    omega

/-- What a refresh can change. -/
def effects (s : SourcesHost) :
    Std.ExtTreeMap String Entry × Int × String × List Value :=
  (s.sources.entries, s.sources.revision, s.sources.active, s.pref)

theorem dead_effects (s : SourcesHost) (op : SourcesOp) (id : String) (generation : Int)
    (dead : s.core.Dead id generation) (runs : s.runs op = some (id, generation)) :
    (s.next platform op).effects = s.effects := by
  have gone := current_dead s id generation dead
  cases op with
  | downloaded clock arrived =>
    have loading : s.sources.loader = some (id, generation) := runs
    simp only [next, downloaded, loading, onDownloaded, gone]
    cases arrived <;> rfl
  | reply clock =>
    simp only [SourcesHost.runs] at runs
    cases replies : s.sources.replies with
    | nil => simp [replies] at runs
    | cons head rest =>
      have bound : head.continuation = some (id, generation) := by
        simpa [replies] using runs
      have gone' : ({ s.sources with replies := rest } : RuleSources).current id generation =
          none := gone
      cases head with
      | restored => simp [Reply.continuation] at bound
      | parsed id' generation' parsed =>
        obtain ⟨rfl, rfl⟩ := Prod.mk.inj (Option.some.inj bound)
        simp only [next, reply, replies, onParsed, gone']
        rfl
      | installed id' generation' rules success =>
        obtain ⟨rfl, rfl⟩ := Prod.mk.inj (Option.some.inj bound)
        simp only [next, reply, replies, onInstalled, gone']
        rfl
  | _ => simp [SourcesHost.runs] at runs

theorem dead_of_inactive (s : SourcesHost) (id : String) (generation : Int) (inv : s.core.Inv)
    (outstanding : (id, generation) ∈ s.core.continuations) (other : s.sources.active ≠ id) :
    s.core.Dead id generation := by
  obtain ⟨known, bound⟩ := inv.bounded id generation outstanding
  refine ⟨known, fun config latest found => ?_⟩
  obtain ⟨older, current⟩ := bound config latest found
  exact lt_of_le_of_ne older fun same => other (current same)

theorem updatedConfig_error (sources : RuleSources) (id : String) (config : Config)
    (command : DictValue) (reason : String)
    (refused : sources.updatedConfig platform id config command = .error reason) : reason ≠ "" := by
  unfold updatedConfig at refused
  dsimp only at refused
  split_ifs at refused <;> simp [<- Except.error.inj refused]

theorem mutate_interrupts (s : SourcesHost) (clock : Clock) (modifiable : Bool)
    (token action : String) (command : DictValue)
    (changes : action = "updateProtectionRuleSource" ∨ action = "removeProtectionRuleSource")
    (accepted : (s.mutate platform clock modifiable token action command).1 = "") :
    ∃ entry, s.sources.entries[stringOf command "sourceId"]? = some entry ∧
      (s.mutate platform clock modifiable token action command).2.issued = s.issued /\
      ∀ config generation,
        (s.mutate platform clock modifiable token action command).2.core.view
          (stringOf command "sourceId") = some (config, generation) →
        generation = entry.generation + 1 := by
  have added : action ≠ "addProtectionRuleSource" := by
    rcases changes with rfl | rfl <;> decide
  have refreshed : action ≠ "refreshProtectionRuleSource" := by
    rcases changes with rfl | rfl <;> decide
  unfold mutate at accepted ⊢
  dsimp only at accepted ⊢
  simp only [if_neg added, if_neg refreshed] at accepted ⊢
  split at accepted
  · simp at accepted
  split at accepted
  · simp at accepted
  split at accepted
  · simp at accepted
  next ready fresh modifiable_ =>
    simp only [if_neg ready, if_neg fresh, if_neg modifiable_]
    split at accepted
    · simp at accepted
    next entry found =>
      refine ⟨entry, found, ?_⟩
      rcases changes with rfl | rfl
      · simp only [if_true] at accepted ⊢
        split at accepted
        next reason refused =>
          exact absurd accepted (updatedConfig_error platform _ _ _ _ _ refused)
        next config updated =>
          rw [commit_core]
          refine ⟨rfl, fun config' generation viewed => ?_⟩
          simp only [update, RuleSources.core, view_insert, Function.update_self] at viewed
          exact (Prod.mk.inj (Option.some.inj viewed)).2.symm
      · simp only [String.reduceEq, if_false, if_true]
        rw [commit_core]
        refine ⟨rfl, fun config' generation viewed => ?_⟩
        simp [remove, RuleSources.core, view_erase] at viewed

theorem interrupts_dead (s : SourcesHost) (op : SourcesOp) (id : String) (generation : Int)
    (inv : s.core.Inv) (allowed : s.permitted op) (interrupted : s.interrupts platform id op)
    (outstanding : (id, generation) ∈ s.core.continuations) :
    (s.next platform op).core.Dead id generation := by
  by_cases running : s.sources.active = id
  · obtain ⟨known, bound⟩ := inv.bounded id generation outstanding
    cases op with
    | release =>
      have last : s.sources.clients = 1 := interrupted
      subst running
      by_cases resting : s.sources.active = ""
      · have dead : s.core.Dead s.sources.active generation :=
          ⟨known, fun config latest found => absurd resting (inv.named _ _ _ found).1⟩
        exact moves_dead (next_moves platform s .release allowed inv) dead
      · obtain ⟨config, latest, found, -⟩ := inv.single resting
        obtain ⟨entry, present, same⟩ := Option.map_eq_some_iff.mp found
        have present_ : s.sources.entries[s.sources.active]? = some entry := present
        have older := (bound _ _ found).1
        refine ⟨known, fun config' now found' => ?_⟩
        have released : (s.next platform .release).core.view s.sources.active =
            some (entry.config, entry.generation + 1) := by
          simp [next, core, RuleSources.core, release, last, present_, resting, view_insert]
        obtain ⟨-, rfl⟩ := Prod.mk.inj (Option.some.inj (released.symm.trans found'))
        obtain ⟨-, rfl⟩ := Prod.mk.inj same
        omega
    | mutate clock modifiable token action command =>
      obtain ⟨changes, rfl, accepted⟩ := interrupted
      obtain ⟨entry, found, issued, newer⟩ :=
        mutate_interrupts platform s clock modifiable token action command changes accepted
      refine ⟨(congrArg (_ ∈ ·) issued).mpr known, fun config latest found' => ?_⟩
      have older := (bound _ _ (core_view _ _ found)).1
      have latest_ := newer config latest found'
      omega
    | _ => exact interrupted.elim
  · exact moves_dead (next_moves platform s op allowed inv)
      (dead_of_inactive s id generation inv outstanding running)

end SourcesHost

open SourcesHost

/-- What every run of the sources of one process keeps. -/
structure SourcesGuarantees (trace : List (SourcesHost × SourcesOp)) (s : SourcesHost) : Prop where
  single : s.sources.active ≠ "" → ∃ entry,
    s.sources.entries[s.sources.active]? = some entry ∧ entry.config.enabled = true ∧
      0 < s.sources.clients ∧
      s.sources.continuations.count (s.sources.active, entry.generation) = 1
  stale : ∀ before u op middle v last after id generation,
    trace = before ++ (u, op) :: (middle ++ (v, last) :: after) →
    (id, generation) ∈ u.sources.continuations → u.interrupts platform id op →
    v.runs last = some (id, generation) → (v.next platform last).effects = v.effects
  removed : ∀ (u : SourcesHost) (op : SourcesOp) (id : String), (u, op) ∈ trace →
    (u.sources.entries[id]?).isSome → s.sources.worker = [] → s.sources.entries[id]? = none →
      s.cache[id]? = none
  changed : ∀ (u : SourcesHost) (op : SourcesOp) (id : String) (entry : Entry) (file : CacheFile),
    (u, op) ∈ trace → (u.sources.entries[id]?).isSome → s.sources.worker = [] →
      s.sources.entries[id]? = some entry → s.cache[id]? = some file →
        file.feed = some entry.config.feed

/-- One refresh at a time and stale isolation, from any preference and any cache files. -/
structure SourcesSound : Prop where
  run : ∀ clock pref files trace s,
    Trace (SourcesHost.step platform) (start platform clock pref files) trace s →
      SourcesGuarantees platform trace s
  -- No refresh stays active for ever.
  ends : ∀ run : Run platform, run.Fair →
    (∃ clock pref files, run.state 0 = start platform clock pref files) →
      ∀ n, ∃ m, n ≤ m ∧ (run.state m).sources.active = ""

theorem step_invs (s : SourcesHost) (op : SourcesOp) (t : SourcesHost)
    (inv : s.core.Inv /\ s.core.FilesInv) (moved : SourcesHost.step platform s op t) :
    t.core.Inv /\ t.core.FilesInv := by
  obtain ⟨allowed, rfl⟩ := moved
  have moves := next_moves platform s op allowed inv.1
  exact ⟨RefreshCore.moves_inv moves inv.1, RefreshCore.moves_files moves inv.1 inv.2⟩

theorem moves_issued {c d : RefreshCore} (moves : RefreshCore.Moves c d) :
    ∀ id ∈ c.issued, id ∈ d.issued := by
  cases moves with
  | add config fresh unused named => exact fun id known => List.mem_cons_of_mem _ known
  | _ => exact fun id known => known

variable {s t : SourcesHost} {trace : List (SourcesHost × SourcesOp)}

theorem run_invs
    (run : Trace (SourcesHost.step platform) s trace t) (inv : s.core.Inv /\ s.core.FilesInv) :
    (∀ entry ∈ trace, (∀ id ∈ s.issued, id ∈ entry.1.issued) /\
        entry.1.core.Inv /\ entry.1.core.FilesInv) /\
      (∀ id ∈ s.issued, id ∈ t.issued) /\ t.core.Inv /\ t.core.FilesInv := by
  let kept (u v : SourcesHost) : Prop := ∀ id ∈ u.issued, id ∈ v.issued
  have related (u : SourcesHost) (op : SourcesOp) (v : SourcesHost)
      (inv : u.core.Inv /\ u.core.FilesInv) (_ : True) (moved : SourcesHost.step platform u op v) :
      kept u v := by
    obtain ⟨allowed, rfl⟩ := moved
    exact moves_issued (next_moves platform u op allowed inv.1)
  exact run.later (fun _ => True) kept (fun _ _ known => known)
    (fun _ _ _ left right id known => right id (left id known)) (step_invs platform) related
    (fun _ _ => trivial) inv

theorem run_dead {id : String}
    {generation : Int} (run : Trace (SourcesHost.step platform) s trace t)
    (inv : s.core.Inv /\ s.core.FilesInv) (dead : s.core.Dead id generation) :
    t.core.Dead id generation := by
  have kept : ∀ u op v, ((u.core.Inv /\ u.core.FilesInv) /\ u.core.Dead id generation) ->
      SourcesHost.step platform u op v ->
      (v.core.Inv /\ v.core.FilesInv) /\ v.core.Dead id generation := by
    intro u op v ⟨inv, dead⟩ moved
    refine ⟨step_invs platform u op v inv moved, ?_⟩
    obtain ⟨allowed, rfl⟩ := moved
    exact RefreshCore.moves_dead (next_moves platform u op allowed inv.1) dead
  exact (run.preserves kept ⟨inv, dead⟩).2

theorem drained (s : SourcesHost) (files : s.core.FilesInv) (idle : s.sources.worker = [])
    (id : String) (file : CacheFile) (found : s.cache[id]? = some file) (known : id ∈ s.issued) :
    ∃ entry, s.sources.entries[id]? = some entry /\ file.feed = some entry.config.feed := by
  obtain ⟨feed, written, has | deleted⟩ := files.files id file found known
  · obtain ⟨config, generation, viewed, rfl⟩ := has
    obtain ⟨entry, present, same⟩ := Option.map_eq_some_iff.mp viewed
    obtain ⟨rfl, -⟩ := Prod.mk.inj same
    exact ⟨entry, present, written⟩
  · have nothing : s.core.worker = [] := idle
    rw [nothing] at deleted
    simp at deleted

theorem sources_sound (platform : SubscriptionPlatform) : SourcesSound platform := by
  have initial := fun clock pref files =>
    And.intro (start_core_inv platform clock pref files) (start_files_inv platform clock pref files)
  refine ⟨fun clock pref files trace s run => ?_, ?_⟩
  · obtain ⟨entries, -, inv, files_⟩ := run_invs platform run (initial clock pref files)
    have issued : ∀ (u : SourcesHost) (op : SourcesOp) (id : String), (u, op) ∈ trace →
        (u.sources.entries[id]?).isSome → id ∈ s.issued := by
      intro u op id mem present
      obtain ⟨before, after, rfl⟩ := List.append_of_mem mem
      obtain ⟨v, earlier, moved, later⟩ := run.split_cons
      have inv := (run_invs platform earlier (initial clock pref files)).2.2
      obtain ⟨entry, present⟩ := Option.isSome_iff_exists.mp present
      exact (run_invs platform (.cons moved later) inv).2.1 id
        (inv.1.named _ _ _ (core_view _ _ present)).2.2
    constructor
    · intro running
      obtain ⟨config, generation, found, enabled, wanted, one⟩ := inv.single running
      obtain ⟨entry, present, same⟩ := Option.map_eq_some_iff.mp found
      obtain ⟨rfl, rfl⟩ := Prod.mk.inj same
      exact ⟨entry, present, enabled, wanted, one⟩
    · rintro before u op middle v last after id generation rfl outstanding interrupted runs
      obtain ⟨w, earlier, moved, rest⟩ := run.split_cons
      obtain ⟨allowed, rfl⟩ := moved
      obtain ⟨x, between, -, -⟩ := rest.split_cons
      have inv := (run_invs platform earlier (initial clock pref files)).2.2
      have dead := interrupts_dead platform u op id generation inv.1 allowed interrupted outstanding
      have next := step_invs platform u op _ inv ⟨allowed, rfl⟩
      exact dead_effects platform v last id generation (run_dead platform between next dead) runs
    · intro u op id mem present idle gone
      cases found : s.cache[id]? with
      | none => rfl
      | some file =>
        obtain ⟨entry, present', -⟩ :=
          drained s files_ idle id file found (issued u op id mem present)
        rw [gone] at present'
        contradiction
    · intro u op id entry file mem present idle now found
      obtain ⟨entry', present', written⟩ :=
        drained s files_ idle id file found (issued u op id mem present)
      rw [now] at present'
      rwa [← Option.some.inj present'] at written
  · rintro run fair ⟨clock, pref, files, start_⟩
    exact active_ends run fair (start_ ▸ start_core_inv platform clock pref files)

end ChromiumHmos.UrlProtection
