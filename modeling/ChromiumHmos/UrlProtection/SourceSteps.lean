import ChromiumHmos.UrlProtection.SourceFiles

set_option autoImplicit false

/-!
# What each operation of the sources does to the core
-/

namespace ChromiumHmos.UrlProtection

open Base Transition

open RefreshCore (Moves)

theorem parseLines_ruleType (platform : SubscriptionPlatform) (format : String)
    (rules parsed : SubscriptionRules) (lines : List Bytes)
    (ok : parseLines platform format rules lines = .ok parsed) :
    parsed.ruleType = rules.ruleType := by
  induction lines generalizing rules with
  | nil => rw [parseLines, Except.ok.injEq] at ok; rw [ok]
  | cons line rest ih =>
    rw [parseLines] at ok
    generalize canonicalRule platform format (trimWhitespaceASCII line) = rule at ok
    obtain ⟨canonical, broad⟩ := rule
    dsimp only at ok
    split_ifs at ok
    · exact ih _ ok
    · exact (ih _ ok).trans rfl
    · refine (ih _ ok).trans ?_
      unfold SubscriptionRules.push SubscriptionRules.reserve
      dsimp only
      split <;> rfl

theorem parseLines_error (platform : SubscriptionPlatform) (format : String)
    (rules failed : SubscriptionRules) (lines : List Bytes)
    (stopped : parseLines platform format rules lines = .error failed) : failed.error ≠ "" := by
  induction lines generalizing rules with
  | nil => simp [parseLines] at stopped
  | cons line rest ih =>
    rw [parseLines] at stopped
    generalize canonicalRule platform format (trimWhitespaceASCII line) = rule at stopped
    obtain ⟨canonical, broad⟩ := rule
    dsimp only at stopped
    split_ifs at stopped
    · exact ih _ stopped
    · simp [<- Except.error.inj stopped]
    · exact ih _ stopped
    · simp [<- Except.error.inj stopped]
    · exact ih _ stopped

theorem parseSubscriptionRules_ruleType (platform : SubscriptionPlatform) (text : Bytes)
    (format ruleType : String) (fetched : Time)
    (valid : (parseSubscriptionRules platform text format ruleType fetched).error = "") :
    (parseSubscriptionRules platform text format ruleType fetched).ruleType = ruleType := by
  unfold parseSubscriptionRules at valid ⊢
  dsimp only at valid ⊢
  split at valid
  · simp at valid
  split at valid
  · simp at valid
  split at valid
  · simp at valid
  next format_ bytes_ utf8_ =>
    rw [if_neg format_, if_neg bytes_, if_neg utf8_]
    split at valid
    next failed stopped => exact absurd valid (parseLines_error platform format _ failed _ stopped)
    next rules parsed =>
      exact parseLines_ruleType platform format _ rules _ parsed

theorem parseDownload_typed (platform : SubscriptionPlatform) (temporary : StoredFile)
    (config : RuleSources.Config) (now : Time) (rules : SubscriptionRules)
    (present : (RuleSources.parseDownload platform temporary config now).rules = some rules) :
    rules.ruleType = config.ruleType := by
  unfold RuleSources.parseDownload at present
  split at present
  · contradiction
  · dsimp only at present
    split at present
    next valid =>
      obtain rfl := Option.some.inj present
      exact parseSubscriptionRules_ruleType platform _ _ _ _ valid
    · contradiction

namespace RuleSources

variable {cache : CacheDirectory} {issued : List String}

variable (s : RuleSources)

theorem schedule_eq (clock : Clock) :
    s.schedule clock = { s with timer := (s.schedule clock).timer } := by
  unfold schedule
  dsimp only
  split
  · rfl
  · split <;> rfl

@[simp] theorem schedule_core (s : RuleSources) (clock : Clock) :
    (s.schedule clock).core cache issued = s.core cache issued := by
  rw [schedule_eq]
  rfl

theorem current_spec (cache : CacheDirectory) (issued : List String) (s : RuleSources)
    (id : String) (generation : Int) (entry : Entry)
    (found : s.current id generation = some entry) :
    s.entries[id]? = some entry /\ entry.generation = generation /\
      (s.core cache issued).Live id generation := by
  unfold current at found
  split at found
  · contradiction
  next present =>
    split at found
    next live =>
      obtain rfl := Option.some.inj found
      obtain ⟨same, active, wanted, enabled⟩ := live
      refine ⟨present, same, active, wanted, ?_⟩
      exact ⟨_, by simp [core, view, present, same], enabled⟩
    · contradiction

theorem current_of_live (id : String) (generation : Int)
    (live : (s.core cache issued).Live id generation) :
    ∃ entry, s.current id generation = some entry := by
  obtain ⟨active, wanted, config, found, enabled⟩ := live
  obtain ⟨entry, present, same⟩ := Option.map_eq_some_iff.mp found
  obtain ⟨rfl, rfl⟩ := Prod.mk.inj same
  refine ⟨entry, ?_⟩
  have active_ : s.active = id := active
  have wanted_ : s.clients ≠ 0 := wanted
  simp [current, present, active_, wanted_, enabled]

theorem not_live {s : RuleSources} {id : String} {generation : Int} (absent : s.current id generation = none) :
    ¬(s.core cache issued).Live id generation := by
  intro live
  obtain ⟨entry, found⟩ := current_of_live s id generation live
  exact Option.some_ne_none _ (found.symm.trans absent)

theorem core_view (cache : CacheDirectory) (issued : List String) {s : RuleSources}
    {id : String} {entry : Entry} (found : s.entries[id]? = some entry) :
    (s.core cache issued).view id = some (entry.config, entry.generation) := by
  simp [core, view, found]

theorem fail_core (clock : Clock) (id : String) (entry : Entry) (error : String)
    (found : s.entries[id]? = some entry) :
    (s.fail clock id entry error).core cache issued =
      { s.core cache issued with active := "" } := by
  rw [fail, schedule_core]
  simp only [core]
  rw [view_insert_same s.entries id entry _ found]
  · rfl
  · rfl

theorem refresh_moves (clock : Clock) (id : String) (entry : Entry)
    (found : s.entries[id]? = some entry) :
    Moves (s.core cache issued) ((s.refresh clock id entry).2.core cache issued) := by
  unfold refresh
  split
  · exact .stay _
  next open_ =>
    split
    · exact .stay _
    split
    · exact .stay _
    next resting =>
      split
      · exact .stay _
      · simp only [Bool.or_eq_true, decide_eq_true_eq, Bool.not_eq_true', not_or,
          Bool.not_eq_false] at open_
        have begun := Moves.begin (core_view cache issued found) open_.2
          open_.1 (not_not.mp resting)
        simpa only [core, view_insert] using begun

theorem tick_moves (clock : Clock) :
    Moves (s.core cache issued) ((s.tick clock).core cache issued) := by
  unfold tick
  dsimp only
  split
  next id entry found =>
    have member := List.mem_of_find?_eq_some found
    exact refresh_moves { s with timer := none } clock id entry
      (Std.ExtTreeMap.mem_toList_iff_getElem?_eq_some.mp member)
  · rw [schedule_core]
    exact .stay _

theorem release_moves (inv : (s.core cache issued).Inv) :
    Moves (s.core cache issued) (s.release.core cache issued) := by
  unfold release
  split
  · exact .stay _
  next some_ =>
    dsimp only
    split
    next more => exact .leave (by simp only [core]; omega) fun last => absurd last (by
        simp only [core]; omega)
    next last =>
      have one : s.clients = 1 := by omega
      split
      next absent =>
        refine .leave (by simp only [core]; omega) fun _ => ?_
        by_contra running
        obtain ⟨config, generation, found, -⟩ := inv.single running
        have missing : view s.entries s.active = none := by simp [view, absent]
        exact absurd (found.symm.trans missing) (by simp)
      next entry present =>
        split
        next resting => exact .leave (by simp only [core]; omega) fun _ => resting
        next running =>
          have cancelled := Moves.cancel (c := s.core cache issued) one running
            (core_view cache issued present)
          simpa only [core, view_insert] using cancelled

theorem acquire_moves (clock : Clock) :
    Moves (s.core cache issued) ((s.acquire clock).core cache issued) := by
  rw [acquire, schedule_core]
  exact .join _

theorem onRestored_moves (clock : Clock)
    (rules : Std.ExtTreeMap String SubscriptionRules) (rest : List Reply)
    (head : s.replies = .restored rules :: rest) :
    Moves (s.core cache issued)
      (({ s with replies := rest }.onRestored clock rules).core cache issued) := by
  have same : view ({ s with replies := rest }.onRestored clock rules).entries =
      view s.entries := by
    funext id
    rw [onRestored, schedule_eq]
    simp only [view, Std.ExtTreeMap.getElem?_map, Option.map_map]
    congr 1
    funext entry
    simp only [Function.comp_apply]
    split
    · rfl
    · split <;> rfl
  have moved : ({ s with replies := rest }.onRestored clock rules).core cache issued =
      { s.core cache issued with replies := rest } := by
    rw [onRestored, schedule_eq] at same ⊢
    simp only [core] at same ⊢
    rw [same]
  rw [moved]
  exact .restored head

theorem onDownloaded_moves (clock : Clock) (id : String) (generation : Int)
    (arrived : Bool) (inv : (s.core cache issued).Inv) (loading : s.loader = some (id, generation)) :
    Moves (s.core cache issued) ((s.onDownloaded clock id generation arrived).core cache issued) := by
  have live := inv.loading_live loading
  obtain ⟨entry, found⟩ := current_of_live s id generation live
  obtain ⟨present, same, -⟩ := current_spec cache issued s id generation entry
    found
  unfold onDownloaded
  simp only [found]
  cases arrived with
  | false =>
    simp only [Bool.not_false, if_true]
    rw [fail_core { s with loader := none } clock id entry _ present]
    exact .abort loading live
  | true =>
    simp only [Bool.not_true, Bool.false_eq_true, if_false]
    exact .arrive loading live (by rw [core_view cache issued present, same])

theorem onParsed_moves (clock : Clock) (id : String) (generation : Int)
    (parsed : ParsedDownload) (rest : List Reply)
    (head : s.replies = .parsed id generation parsed :: rest) :
    Moves (s.core cache issued)
      (({ s with replies := rest }.onParsed clock id generation parsed).core cache issued) := by
  unfold onParsed
  split
  next absent =>
    exact .stale head rfl (@not_live cache issued s id generation absent)
  next entry found =>
    obtain ⟨present, same, live⟩ := current_spec cache issued _ id generation entry found
    have failed (error : String) : Moves (s.core cache issued)
        ((({ s with replies := rest } : RuleSources).fail clock id entry error).core cache
          issued) := by
      rw [fail_core _ _ _ _ _ present]
      exact .finish head rfl live
    split
    · exact failed _
    next rules present_ =>
      split
      · exact failed _
      · have found_ : (s.core cache issued).view id = some (entry.config, generation) := by
          rw [core_view cache issued (s := s) present, same]
        exact .parsed head live found_ present_

theorem onInstalled_moves (clock : Clock) (id : String) (generation : Int)
    (rules : SubscriptionRules) (success : Bool) (rest : List Reply)
    (head : s.replies = .installed id generation rules success :: rest) :
    Moves (s.core cache issued)
      (({ s with replies := rest }.onInstalled clock id generation rules success).core cache
        issued) := by
  unfold onInstalled
  split
  next absent =>
    exact .stale head rfl (@not_live cache issued s id generation absent)
  next entry found =>
    obtain ⟨present, same, live⟩ := current_spec cache issued _ id generation entry found
    split
    · rw [fail_core _ _ _ _ _ present]
      exact .finish head rfl live
    · rw [schedule_core]
      simp only [core]
      rw [view_insert_same _ id entry _ present]
      · exact .finish (c := s.core cache issued) head rfl live
      · rfl
      · rfl

end RuleSources

namespace SourcesHost

open RuleSources

variable (platform : SubscriptionPlatform)

variable (s : SourcesHost)

theorem work_moves (view : WorkerView) : Moves s.core (s.work platform view).core := by
  unfold work
  split
  · exact .stay _
  next task rest head =>
    dsimp only
    split
    next configs => exact .workRestore _ head
    next id generation config =>
      exact .workParse _ head fun rules present =>
        parseDownload_typed platform view.temporary config view.now rules present
    next id generation config rules raw =>
      split
      next file written =>
        refine .workInstall file head ?_
        unfold RuleSources.install at written
        dsimp only at written
        split at written
        · rw [<- Option.some.inj written]
        · contradiction
      · exact .workRefuse head
    next id =>
      have deleted := Moves.workDelete (c := s.core) head
      simpa only [core, RuleSources.core, List.append_nil] using deleted
    · have dropped := Moves.workTemporary (c := s.core) head
      simpa only [core, RuleSources.core, List.append_nil] using dropped

theorem reply_moves (clock : Clock) : Moves s.core (s.reply clock).core := by
  unfold reply
  split
  · exact .stay _
  next reply rest head =>
    dsimp only
    split
    next restored => exact s.sources.onRestored_moves clock restored rest head
    next id generation parsed => exact s.sources.onParsed_moves clock id generation parsed rest head
    next id generation rules success =>
      exact s.sources.onInstalled_moves clock id generation rules success rest head

theorem downloaded_moves (clock : Clock) (arrived : Bool) (inv : s.core.Inv) :
    Moves s.core (s.downloaded clock arrived).core := by
  unfold downloaded
  split
  · exact .stay _
  next id generation loading =>
    exact s.sources.onDownloaded_moves clock id generation arrived inv loading

@[simp] theorem commit_core (s : SourcesHost) (clock : Clock) (sources : RuleSources) :
    (s.commit clock sources).core = sources.core s.cache s.issued := by
  unfold commit
  dsimp only
  rw [core, schedule_core]
  rfl

theorem validate_named (config : Config) (valid : config.validate platform = true) :
    config.id ≠ "" := by
  rintro empty
  simp [Config.validate, empty] at valid

variable (sources : RuleSources)

theorem addedConfig_spec (token : String) (command : DictValue)
    (config : Config) (added : sources.addedConfig platform token command = .ok config) :
    sources.entries.size < kSubscriptionMaxSources /\ config.id = token /\
      config.validate platform = true /\ sources.duplicate none config = false := by
  unfold addedConfig at added
  split at added
  · contradiction
  next room =>
    dsimp only at added
    split at added
    · contradiction
    next base chosen =>
      split at added
      · contradiction
      next enabled _ =>
        split at added
        · contradiction
        next valid =>
          split at added
          · contradiction
          next single =>
            obtain rfl := Except.ok.inj added
            have named : base.id = token := by
              split at chosen
              · obtain ⟨item, -, rfl⟩ := Option.map_eq_some_iff.mp chosen
                rfl
              · rw [<- Option.some.inj chosen]
            exact ⟨not_le.mp room, named, by simpa using valid, by simpa using single⟩

theorem updatedConfig_spec (id : String) (config updated : Config) (command : DictValue)
    (changed : sources.updatedConfig platform id config command = .ok updated) :
    updated.id = config.id /\ updated.validate platform = true /\
      sources.duplicate (some id) updated = false := by
  unfold updatedConfig at changed
  dsimp only at changed
  split at changed
  · contradiction
  split at changed
  · contradiction
  next valid =>
    split at changed
    · contradiction
    next single =>
      obtain rfl := Except.ok.inj changed
      simp only [Bool.or_eq_true, Bool.not_eq_true', not_or, Bool.not_eq_false] at valid
      exact ⟨rfl, valid.2, by simpa using single⟩

theorem add_moves (clock : Clock) (config : Config) (fresh : config.id ∉ s.issued)
    (unused : s.cache[config.id]? = none) (named : config.id ≠ "") (inv : s.core.Inv) :
    Moves s.core ((s.sources.add clock config).core s.cache (config.id :: s.issued)) := by
  have absent : s.sources.entries[config.id]? = none := by
    cases found : s.sources.entries[config.id]? with
    | none => rfl
    | some entry => exact absurd (inv.named _ _ _ (core_view _ _ found)).2.2 fresh
  have added := Moves.add (c := s.core) config fresh unused named
  unfold add
  simp only [RuleSources.core, OrderedMap.insertIfNew_fresh _ _ _ absent, view_insert]
  exact added

theorem interrupt_core (cache : CacheDirectory) (issued : List String) (id : String) :
    ∃ deletes : List Task, (∀ task ∈ deletes, task = .deleteCache id) /\
      (sources.interrupt id).core cache issued =
        { sources.core cache issued with
          active := if sources.active = id then "" else sources.active
          loader := if sources.active = id then none else sources.loader
          worker := sources.worker ++ deletes } /\
      (sources.interrupt id).entries = sources.entries := by
  unfold interrupt
  split
  next running =>
    refine ⟨[.deleteCache id], by simp, ?_, rfl⟩
    simp [RuleSources.core, deleteCache]
  next other =>
    refine ⟨[], by simp, ?_, rfl⟩
    simp [RuleSources.core]

theorem remove_moves (id : String) (entry : Entry) (found : s.sources.entries[id]? = some entry) :
    Moves s.core ((s.sources.remove id).core s.cache s.issued) := by
  obtain ⟨deletes, only, core_, entries_⟩ := interrupt_core s.sources s.cache s.issued id
  have removed := Moves.change (c := s.core) none (deletes ++ [.deleteCache id]) (core_view _ _ found)
    (by simp) (by simpa [or_imp, forall_and] using only) (by simp)
  have same : (s.sources.remove id).core s.cache s.issued =
      { (s.sources.interrupt id).core s.cache s.issued with
        view := Function.update (view s.sources.entries) id none
        worker := ((s.sources.interrupt id).core s.cache s.issued).worker ++ [.deleteCache id] } := by
    simp only [remove, deleteCache, RuleSources.core, view_erase, entries_]
  rw [same, core_]
  simp only [List.append_assoc]
  exact removed

theorem update_moves (clock : Clock) (id : String) (entry : Entry)
    (config : Config) (found : s.sources.entries[id]? = some entry) (named : config.id = id) :
    Moves s.core ((s.sources.update clock id entry config).core s.cache s.issued) := by
  obtain ⟨deletes, only, core_, entries_⟩ := interrupt_core s.sources s.cache s.issued id
  let more : List Task := if config.feed ≠ entry.config.feed then [.deleteCache id] else []
  have updated := Moves.change (c := s.core) (some config) (deletes ++ more) (core_view _ _ found)
    (by rintro new ⟨⟩; exact named)
    (by
      intro task mem
      rcases List.mem_append.mp mem with mem | mem
      · exact only task mem
      · simp only [more] at mem
        split at mem <;> simp_all)
    (by
      intro none
      refine ⟨config, rfl, ?_⟩
      have kept : more = [] := (List.append_eq_nil_iff.mp none).2
      by_contra changed
      simp [more, changed] at kept)
  have same : (s.sources.update clock id entry config).core s.cache s.issued =
      { (s.sources.interrupt id).core s.cache s.issued with
        view := Function.update (view s.sources.entries) id (some (config, entry.generation + 1))
        worker := ((s.sources.interrupt id).core s.cache s.issued).worker ++ more } := by
    by_cases changed : config.feed = entry.config.feed
    · simp [update, RuleSources.core, view_insert, entries_, changed, more]
    · simp [update, RuleSources.core, view_insert, entries_, changed, more, deleteCache]
  rw [same, core_]
  simp only [List.append_assoc]
  exact updated

theorem mutate_moves (clock : Clock) (modifiable : Bool) (token action : String)
    (command : DictValue) (fresh : token ∉ s.issued) (unused : s.cache[token]? = none)
    (inv : s.core.Inv) :
    Moves s.core (s.mutate platform clock modifiable token action command).2.core := by
  unfold mutate
  dsimp only
  split
  · exact .stay _
  split
  · exact .stay _
  split
  · exact .stay _
  split
  · split
    · exact .stay _
    next config added =>
      obtain ⟨-, rfl, valid, -⟩ := addedConfig_spec platform s.sources token command config added
      rw [commit_core]
      exact add_moves s clock config fresh unused (validate_named platform config valid) inv
  · split
    · exact .stay _
    next entry found =>
      split
      · exact refresh_moves s.sources clock _ entry found
      split
      · split
        · exact .stay _
        next config updated =>
          have spec := updatedConfig_spec platform s.sources _ entry.config config command updated
          have own := (inv.named _ _ _ (core_view _ _ found)).2.1
          rw [commit_core]
          exact update_moves s clock _ entry config found (spec.1.trans own)
      split
      · rw [commit_core]
        exact remove_moves s _ entry found
      · exact .stay _

theorem next_moves (op : SourcesOp) (allowed : s.permitted op)
    (inv : s.core.Inv) : Moves s.core (s.next platform op).core := by
  cases op with
  | acquire clock => exact s.sources.acquire_moves clock
  | release => exact s.sources.release_moves inv
  | tick clock => exact s.sources.tick_moves clock
  | downloaded clock arrived => exact s.downloaded_moves clock arrived inv
  | mutate clock modifiable token action command =>
    exact mutate_moves platform s clock modifiable token action command allowed.1 allowed.2 inv
  | work view => exact work_moves platform s view
  | reply clock => exact s.reply_moves clock

end SourcesHost

end ChromiumHmos.UrlProtection
