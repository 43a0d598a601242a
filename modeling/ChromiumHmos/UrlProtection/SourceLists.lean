import ChromiumHmos.UrlProtection.SourceAtomicity
import ChromiumHmos.UrlProtection.SourceTimerRuns

set_option autoImplicit false

/-!
# The list of sources across restarts

It keeps to its limit, without duplicates, and a process that starts with what was stored has the same list.
-/

namespace ChromiumHmos.UrlProtection

open Base OrderedMap Transition RuleSources SourcesHost

open Std (ExtTreeMap)

variable (platform : SubscriptionPlatform)

structure Listable (configs : Configs) : Prop where
  few : configs.size ≤ kSubscriptionMaxSources
  valid : ∀ (id : String) (config : Config), configs[id]? = some config → config.id = id ∧ config.validate platform = true
  single : ∀ (id other : String) (first second : Config), configs[id]? = some first → configs[other]? = some second →
    first.url = second.url → first.ruleType = second.ruleType → id = other

/-- What `Persist` has written in this process or an earlier one. -/
inductive Stored : List Value → Prop
  | empty : Stored []
  | written {pref : List Value} {clock : Clock} {files : ExtTreeMap String StoredFile} {s : SourcesHost}
      {trace : List (SourcesHost × SourcesOp)} (stored : Stored pref)
      (run : Trace (SourcesHost.step platform) (start platform clock pref files) trace s) : Stored s.persist.pref

variable {platform} {configs : Configs} {s t : SourcesHost}

theorem Listable.insert (listable : Listable platform configs) {id : String} {config : Config} (named : config.id = id)
    (valid : config.validate platform = true) (room : id ∈ configs \/ configs.size < kSubscriptionMaxSources)
    (alone : ∀ (other : String) (found : Config), other ≠ id -> configs[other]? = some found -> found.url = config.url ->
      found.ruleType ≠ config.ruleType) : Listable platform (configs.insert id config) := by
  refine ⟨?_, fun other found held => ?_, fun other another first second held held' url ruleType => ?_⟩
  · rw [ExtTreeMap.size_insert]
    split
    · exact listable.few
    · next absent => exact room.resolve_left absent
  · rcases (getElem?_insert_some _ _ _ _ _).mp held with ⟨rfl, rfl⟩ | ⟨-, held⟩
    · exact ⟨named, valid⟩
    · exact listable.valid other found held
  · rcases (getElem?_insert_some _ _ _ _ _).mp held with ⟨rfl, rfl⟩ | ⟨away, old⟩ <;>
      rcases (getElem?_insert_some _ _ _ _ _).mp held' with ⟨rfl, rfl⟩ | ⟨away', old'⟩
    · rfl
    · exact absurd ruleType.symm (alone another second away' old' url.symm)
    · exact absurd ruleType (alone other first away old url)
    · exact listable.single other another first second old old' url ruleType

theorem duplicate_alone {own : Option String} {config : Config} (single : s.sources.duplicate own config = false)
    (other : String) (found : Config) (away : some other ≠ own) (held : s.sources.configs[other]? = some found)
    (url : found.url = config.url) : found.ruleType ≠ config.ruleType := by
  rw [RuleSources.configs, ExtTreeMap.getElem?_map] at held
  obtain ⟨entry, present, rfl⟩ := Option.map_eq_some_iff.mp held
  intro ruleType
  have checked := List.any_eq_false.mp single (other, entry) (ExtTreeMap.mem_toList_iff_getElem?_eq_some.mpr present)
  simp [away, url, ruleType] at checked

theorem configs_holdings (sources : RuleSources) :
    sources.configs = sources.holdings.map fun _ holding => holding.config := by
  ext id : 1
  simp [RuleSources.configs, holdings, Entry.holding]

@[simp] theorem adopt_config (restored : ExtTreeMap String SubscriptionRules) (id : String) (holding : Holding) :
    (adopt restored id holding).config = holding.config := by
  unfold adopt
  split
  · rfl
  · split <;> rfl

theorem SourcesHost.HoldingsStep.listable (step : HoldingsStep platform s t) (listable : Listable platform s.sources.configs) :
    Listable platform t.sources.configs := by
  cases step with
  | kept holdings => rwa [configs_holdings, holdings, <- configs_holdings]
  | installed id generation rules success rest entry head live ended holdings =>
    have found := (current_spec s.cache s.issued s.sources id generation entry live).1
    have same : s.sources.configs[id]? = some entry.config := by simp [RuleSources.configs, found]
    rwa [configs_holdings, holdings, map_insert, <- configs_holdings, insert_same _ _ _ same]
  | restored restored rest head holdings =>
    have same : t.sources.configs = s.sources.configs := by
      rw [configs_holdings, holdings, configs_holdings]
      ext id : 1
      simp
    rwa [same]
  | added config fresh room valid single holdings =>
    rw [configs_holdings, holdings, map_insert, <- configs_holdings]
    refine listable.insert rfl valid (.inr ?_) fun other found _ => duplicate_alone single other found (by simp)
    rwa [configs_holdings, ExtTreeMap.size_map]
  | updated id entry config rules found valid named single fewer holdings =>
    have held : s.sources.configs[id]? = some entry.config := by simp [RuleSources.configs, found]
    rw [configs_holdings, holdings, map_insert, <- configs_holdings]
    refine listable.insert (named.trans (listable.valid id _ held).1) valid (.inl ?_) fun other found away =>
      duplicate_alone single other found (away ∘ Option.some.inj)
    rw [ExtTreeMap.mem_iff_isSome_getElem?, held]
    rfl
  | removed id holdings =>
    rw [configs_holdings, holdings, map_erase, <- configs_holdings]
    have held {other : String} {config : Config} (found : (s.sources.configs.erase id)[other]? = some config) :
        s.sources.configs[other]? = some config := ((getElem?_erase_some _ _ _ _).mp found).2
    exact ⟨ExtTreeMap.size_erase_le.trans listable.few, fun other config found => listable.valid other config (held found),
      fun other another first second found found' => listable.single other another first second (held found) (held found')⟩

theorem fromValue_toValue (config : Config) : Config.fromValue config.toValue = config := rfl

theorem loadConfigs_stored (clock : Clock) (items : List (String × Config)) (entries : ExtTreeMap String Entry)
    (distinct : items.Pairwise fun a b => b.1 ≠ a.1)
    (valid : ∀ item ∈ items, item.2.id = item.1 /\ item.2.validate platform = true)
    (fresh : ∀ item ∈ items, entries[item.1]? = none) (room : entries.size + items.length <= kSubscriptionMaxSources)
    (id : String) (config : Config) :
    ((loadConfigs platform entries clock (items.map fun item => .dict item.2.toValue)).1[id]?).map Entry.config = some config ↔
      (id, config) ∈ items \/ (entries[id]?).map Entry.config = some config := by
  induction items generalizing entries with
  | nil => simp [loadConfigs]
  | cons head rest ih =>
    obtain ⟨key, own⟩ := head
    obtain rfl : own.id = key := (valid _ List.mem_cons_self).1
    obtain ⟨apart, distinct⟩ := List.pairwise_cons.mp distinct
    obtain ⟨⟨-, validated⟩, valid⟩ := List.forall_mem_cons.mp valid
    obtain ⟨absent, fresh⟩ := List.forall_mem_cons.mp fresh
    rw [List.length_cons] at room
    have kept : ¬ (entries.size ≥ kSubscriptionMaxSources \/ own.id ∈ entries) := by
      rw [ExtTreeMap.mem_iff_isSome_getElem?, absent]
      simp
      omega
    rw [List.map_cons, loadConfigs]
    dsimp only
    rw [fromValue_toValue, if_neg (by simpa [validated] using kept)]
    have grown : (entries.insert own.id { config := own, due := clock.now + seconds 15 }).size <= entries.size + 1 :=
      ExtTreeMap.size_insert_le
    rw [ih _ distinct valid (fun item mem => by rw [getElem?_insert_of_ne _ _ _ _ (apart item mem)]; exact fresh item mem)
      (by omega), List.mem_cons]
    by_cases same : id = own.id
    · subst same
      simp [absent, eq_comm, or_comm]
    · simp [getElem?_insert_of_ne _ _ _ _ same, same]

theorem start_configs (listable : Listable platform s.sources.configs) (clock : Clock)
    (files : ExtTreeMap String StoredFile) :
    (start platform clock s.persist.pref files).sources.configs = s.sources.configs := by
  have pref : s.persist.pref = s.sources.configs.toList.map fun item => .dict item.2.toValue := by
    rw [RuleSources.configs, ExtTreeMap.toList_map, List.map_map]
    rfl
  have held (item : String × Config) (mem : item ∈ s.sources.configs.toList) :=
    listable.valid _ _ (ExtTreeMap.mem_toList_iff_getElem?_eq_some.mp mem)
  have distinct : s.sources.configs.toList.Pairwise fun a b => b.1 ≠ a.1 :=
    (ExtTreeMap.distinct_keys_toList (t := s.sources.configs)).imp fun apart same => apart (by simp [same])
  ext id : 1
  refine Option.ext fun config => ?_
  have loaded := loadConfigs_stored clock s.sources.configs.toList ∅ distinct held (by simp)
    (by simpa [ExtTreeMap.length_toList] using listable.few) id config
  rw [RuleSources.configs, ExtTreeMap.getElem?_map, pref]
  refine loaded.trans ?_
  simp [ExtTreeMap.mem_toList_iff_getElem?_eq_some]

theorem step_listable (s : SourcesHost) (op : SourcesOp) (t : SourcesHost)
    (before : s.core.Inv /\ Listable platform s.sources.configs) (moved : SourcesHost.step platform s op t) :
    t.core.Inv /\ Listable platform t.sources.configs := by
  obtain ⟨inv, listable⟩ := before
  obtain ⟨allowed, rfl⟩ := moved
  exact ⟨RefreshCore.moves_inv (next_moves platform s op allowed inv) inv,
    (next_holdings platform s op allowed inv).listable listable⟩

variable {pref : List Value} {clock : Clock} {files : ExtTreeMap String StoredFile}
  {trace : List (SourcesHost × SourcesOp)}

theorem run_listable (initial : Listable platform (start platform clock pref files).sources.configs)
    (run : Trace (SourcesHost.step platform) (start platform clock pref files) trace s) :
    Listable platform s.sources.configs :=
  (run.preserves step_listable ⟨start_core_inv platform clock pref files, initial⟩).2

theorem Stored.listable (stored : Stored platform pref) (clock : Clock) (files : ExtTreeMap String StoredFile) :
    Listable platform (start platform clock pref files).sources.configs := by
  induction stored generalizing clock files with
  | empty => exact ⟨Nat.zero_le _, by rintro _ _ ⟨⟩, by rintro _ _ _ _ ⟨⟩⟩
  | written stored run ih =>
    have listable := run_listable (ih _ _) run
    rwa [start_configs listable]

/-- In every process the list of sources keeps to its limit, without duplicates, and the next one starts with it. -/
theorem sources_survive_restarts (stored : Stored platform pref)
    (run : Trace (SourcesHost.step platform) (start platform clock pref files) trace s) :
    Listable platform s.sources.configs /\ ∀ later files,
      (start platform later s.persist.pref files).sources.configs = s.sources.configs := by
  have listable := run_listable (stored.listable clock files) run
  exact ⟨listable, start_configs listable⟩

def addExample : DictValue :=
  [("expectedRevision", .int 1), ("name", .string "Example"), ("url", .string "https://example.com/"),
    ("format", .string "domains"), ("ruleType", .string "host_suffix"), ("enabled", .bool true)]

theorem sources_survive_restarts_added : ∃ s : SourcesHost, s.sources.configs.toList.map Prod.fst = ["token"] ∧
    (start subscriptionPlatform (readingAt 1 0) s.persist.pref ∅).sources.configs = s.sources.configs := by
  have follows : Follows SourcesHost.permitted (next subscriptionPlatform) (start subscriptionPlatform (readingAt 0 0) [] ∅)
      [.work downloadView, .reply (readingAt 0 0), .mutate (readingAt 0 0) true "token" "addProtectionRuleSource" addExample] := by
    decide
  obtain ⟨past, run, -⟩ := follows.trace
  exact ⟨_, by decide +kernel, (sources_survive_restarts .empty run).2 (readingAt 1 0) ∅⟩

end ChromiumHmos.UrlProtection
