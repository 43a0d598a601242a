import ChromiumHmos.UrlProtection.SourceHoldings

set_option autoImplicit false

/-!
# The record budget

The budget is checked when a download is parsed and used when it is installed. In between the
refresh is the live one, so no other source gains records, and the check still holds.
-/

namespace ChromiumHmos.UrlProtection

open Base Transition RuleSources

variable (platform : SubscriptionPlatform)

namespace SourcesHost

open RefreshCore

/-- How one operation changes the holdings. -/
inductive HoldingsStep (s t : SourcesHost) : Prop
  | kept (holdings : t.sources.holdings = s.sources.holdings)
      (ready : t.sources.ready = s.sources.ready)
  | installed (id : String) (generation : Int) (rules : SubscriptionRules) (success : Bool)
      (rest : List RuleSources.Reply) (entry : Entry)
      (head : s.sources.replies = .installed id generation rules success :: rest)
      (live : s.sources.current id generation = some entry) (ended : t.sources.active = "")
      (holdings : t.sources.holdings =
        s.sources.holdings.insert id { config := entry.config, rules := some rules })
      (ready : t.sources.ready = s.sources.ready)
  | restored (restored : Std.ExtTreeMap String SubscriptionRules) (rest : List RuleSources.Reply)
      (head : s.sources.replies = .restored restored :: rest)
      (holdings : t.sources.holdings = s.sources.holdings.map (adopt restored))
      (ready : t.sources.ready = true)
  | added (config : Config) (fresh : s.sources.entries[config.id]? = none)
      (room : s.sources.holdings.size < kSubscriptionMaxSources)
      (valid : config.validate platform = true) (single : s.sources.duplicate none config = false)
      (holdings : t.sources.holdings =
        s.sources.holdings.insert config.id { config := config, rules := none })
      (ready : t.sources.ready = s.sources.ready)
  | updated (id : String) (entry : Entry) (config : Config)
      (rules : Option SubscriptionRules) (found : s.sources.entries[id]? = some entry)
      (valid : config.validate platform = true) (named : config.id = entry.config.id)
      (single : s.sources.duplicate (some id) config = false)
      (fewer : rules = entry.rules ∨ rules = none)
      (holdings : t.sources.holdings =
        s.sources.holdings.insert id { config := config, rules := rules })
      (ready : t.sources.ready = s.sources.ready)
  | removed (id : String) (holdings : t.sources.holdings = s.sources.holdings.erase id)
      (ready : t.sources.ready = s.sources.ready)

variable (s : SourcesHost)

theorem commit_holdings (clock : Clock) (sources : RuleSources) :
    (s.commit clock sources).sources.holdings = sources.holdings /\
      (s.commit clock sources).sources.ready = sources.ready := by
  unfold commit
  dsimp only
  exact ⟨schedule_holdings _ _, schedule_ready _ _⟩

theorem reply_holdings (clock : Clock) : HoldingsStep platform s (s.reply clock) := by
  unfold reply
  split
  · exact .kept rfl rfl
  next reply rest head =>
    dsimp only
    split
    next restored =>
      refine .restored restored rest head (onRestored_holdings _ clock restored) ?_
      rw [onRestored, schedule_ready]
    next id generation parsed =>
      obtain ⟨same, ready⟩ :=
        onParsed_holdings { s.sources with replies := rest } clock id generation parsed
      exact .kept same ready
    next id generation rules success =>
      obtain ⟨ready, same | ⟨entry, live, ended, same⟩⟩ :=
        onInstalled_holdings { s.sources with replies := rest } clock id generation rules success
      · exact .kept same ready
      · exact .installed id generation rules success rest entry head live ended same ready

theorem mutate_holdings (clock : Clock) (modifiable : Bool)
    (token action : String) (command : DictValue) (fresh : token ∉ s.issued) (inv : s.core.Inv) :
    HoldingsStep platform s (s.mutate platform clock modifiable token action command).2 := by
  unfold mutate
  dsimp only
  split
  · exact .kept rfl rfl
  split
  · exact .kept rfl rfl
  split
  · exact .kept rfl rfl
  split
  · split
    · exact .kept rfl rfl
    next config added =>
      obtain ⟨room, rfl, valid, single⟩ :=
        addedConfig_spec platform s.sources token command config added
      have absent : s.sources.entries[config.id]? = none := by
        cases found : s.sources.entries[config.id]? with
        | none => rfl
        | some entry => exact absurd (inv.named _ _ _ (core_view _ _ found)).2.2 fresh
      obtain ⟨holdings, ready⟩ :=
        commit_holdings { s with issued := config.id :: s.issued } clock (s.sources.add clock config)
      refine .added config absent ?_ valid single (holdings.trans ?_) ready
      · rwa [RuleSources.holdings, Std.ExtTreeMap.size_map]
      · exact add_holdings s.sources clock config absent
  · split
    · exact .kept rfl rfl
    next entry found =>
      split
      · obtain ⟨same, ready⟩ := refresh_holdings s.sources clock _ entry found
        exact .kept same ready
      split
      · split
        · exact .kept rfl rfl
        next config updated =>
          obtain ⟨named, valid, single⟩ :=
            updatedConfig_spec platform s.sources _ entry.config config command updated
          obtain ⟨ready_, holdings_⟩ :=
            s.sources.update_holdings clock (stringOf command "sourceId") entry config
          obtain ⟨holdings, ready⟩ := commit_holdings s clock
            (s.sources.update clock (stringOf command "sourceId") entry config)
          refine .updated _ entry config _ found valid named single ?_ (holdings.trans holdings_)
            (ready.trans ready_)
          split
          · exact .inr rfl
          · exact .inl rfl
      split
      · obtain ⟨holdings_, ready_⟩ := s.sources.remove_holdings (stringOf command "sourceId")
        obtain ⟨holdings, ready⟩ :=
          commit_holdings s clock (s.sources.remove (stringOf command "sourceId"))
        exact .removed _ (holdings.trans holdings_) (ready.trans ready_)
      · exact .kept rfl rfl

theorem next_holdings (op : SourcesOp) (allowed : s.permitted op)
    (inv : s.core.Inv) : HoldingsStep platform s (s.next platform op) := by
  cases op with
  | acquire clock => exact .kept (schedule_holdings _ _) (schedule_ready _ _)
  | release => exact .kept s.sources.release_holdings.1 s.sources.release_holdings.2
  | tick clock => exact .kept (s.sources.tick_holdings clock).1 (s.sources.tick_holdings clock).2
  | downloaded clock arrived =>
    simp only [next, downloaded]
    split
    · exact .kept rfl rfl
    next id generation loading =>
      obtain ⟨same, ready⟩ := s.sources.onDownloaded_holdings clock id generation arrived
      exact .kept same ready
  | mutate clock modifiable token action command =>
    exact mutate_holdings platform s clock modifiable token action command allowed.1 inv
  | work view =>
    simp only [next, work]
    split
    · exact .kept rfl rfl
    next task rest head =>
      split
      · exact .kept rfl rfl
      · exact .kept rfl rfl
      · split <;> exact .kept rfl rfl
      · exact .kept rfl rfl
      · exact .kept rfl rfl
  | reply clock => exact reply_holdings platform s clock

end SourcesHost

end ChromiumHmos.UrlProtection
