import ChromiumHmos.UrlProtection.SourceIsolation

set_option autoImplicit false

/-!
# What the sources hold

The configuration and the installed rules of every entry, and how each operation changes them.
-/

namespace ChromiumHmos.UrlProtection

open Base Transition

structure Holding where
  config : RuleSources.Config
  rules : Option SubscriptionRules

abbrev Holdings := Std.ExtTreeMap String Holding

namespace RuleSources

def Entry.holding (entry : Entry) : Holding where
  config := entry.config
  rules := entry.rules

def holdings (s : RuleSources) : Holdings := s.entries.map fun _ entry => entry.holding

theorem holdings_found {s : RuleSources} {id : String} {entry : Entry}
    (found : s.entries[id]? = some entry) : s.holdings[id]? = some entry.holding := by
  simp [holdings, found]

theorem holdings_kept (s t : RuleSources) (id : String) (old new : Entry)
    (found : s.entries[id]? = some old) (entries : t.entries = s.entries.insert id new)
    (same : new.holding = old.holding) : t.holdings = s.holdings := by
  rw [holdings, entries, OrderedMap.map_insert, same]
  exact OrderedMap.insert_same _ _ _ (holdings_found found)

@[simp] theorem schedule_holdings (s : RuleSources) (clock : Clock) :
    (s.schedule clock).holdings = s.holdings := by
  rw [schedule_eq]
  rfl

@[simp] theorem schedule_ready (s : RuleSources) (clock : Clock) :
    (s.schedule clock).ready = s.ready := by
  rw [schedule_eq]

variable (s : RuleSources)

theorem fail_holdings (clock : Clock) (id : String) (entry : Entry)
    (error : String) (found : s.entries[id]? = some entry) :
    (s.fail clock id entry error).holdings = s.holdings := by
  rw [fail, schedule_holdings]
  exact holdings_kept s _ id entry _ found rfl rfl

theorem refresh_holdings (clock : Clock) (id : String) (entry : Entry)
    (found : s.entries[id]? = some entry) :
    (s.refresh clock id entry).2.holdings = s.holdings /\
      (s.refresh clock id entry).2.ready = s.ready := by
  unfold refresh
  split
  · exact ⟨rfl, rfl⟩
  split
  · exact ⟨rfl, rfl⟩
  split
  · exact ⟨rfl, rfl⟩
  split
  · exact ⟨rfl, rfl⟩
  · exact ⟨holdings_kept s _ id entry _ found rfl rfl, rfl⟩

theorem tick_holdings (clock : Clock) :
    (s.tick clock).holdings = s.holdings /\ (s.tick clock).ready = s.ready := by
  unfold tick
  dsimp only
  split
  next id entry found =>
    have member := List.mem_of_find?_eq_some found
    exact refresh_holdings { s with timer := none } clock id entry
      (Std.ExtTreeMap.mem_toList_iff_getElem?_eq_some.mp member)
  · exact ⟨schedule_holdings _ _, schedule_ready _ _⟩

theorem release_holdings : s.release.holdings = s.holdings /\ s.release.ready = s.ready := by
  unfold release
  split
  · exact ⟨rfl, rfl⟩
  dsimp only
  split
  · exact ⟨rfl, rfl⟩
  split
  · exact ⟨rfl, rfl⟩
  next entry found =>
    split
    · exact ⟨rfl, rfl⟩
    · exact ⟨holdings_kept s _ s.active entry _ found rfl rfl, rfl⟩

theorem onDownloaded_holdings (clock : Clock) (id : String) (generation : Int) (arrived : Bool) :
    (s.onDownloaded clock id generation arrived).holdings = s.holdings /\
      (s.onDownloaded clock id generation arrived).ready = s.ready := by
  unfold onDownloaded
  split
  · split <;> exact ⟨rfl, rfl⟩
  next entry found =>
    have present := (current_spec ∅ [] s id generation entry found).1
    dsimp only
    split
    · exact ⟨fail_holdings { s with loader := none } clock id entry _ present, schedule_ready _ _⟩
    · exact ⟨rfl, rfl⟩

theorem onParsed_holdings (clock : Clock) (id : String) (generation : Int)
    (parsed : ParsedDownload) :
    (s.onParsed clock id generation parsed).holdings = s.holdings /\
      (s.onParsed clock id generation parsed).ready = s.ready := by
  unfold onParsed
  split
  · exact ⟨rfl, rfl⟩
  next entry found =>
    have present := (current_spec ∅ [] s id generation entry found).1
    split
    · exact ⟨fail_holdings s clock id entry _ present, schedule_ready _ _⟩
    · split
      · exact ⟨fail_holdings s clock id entry _ present, schedule_ready _ _⟩
      · exact ⟨rfl, rfl⟩

theorem onInstalled_holdings (clock : Clock) (id : String) (generation : Int)
    (rules : SubscriptionRules) (success : Bool) :
    (s.onInstalled clock id generation rules success).ready = s.ready /\
      ((s.onInstalled clock id generation rules success).holdings = s.holdings \/
        ∃ entry, s.current id generation = some entry /\
          (s.onInstalled clock id generation rules success).active = "" ∧
          (s.onInstalled clock id generation rules success).holdings =
            s.holdings.insert id { config := entry.config, rules := some rules }) := by
  unfold onInstalled
  split
  · exact ⟨rfl, .inl rfl⟩
  next entry found =>
    have present := (current_spec ∅ [] s id generation entry found).1
    split
    · exact ⟨schedule_ready _ _, .inl (fail_holdings s clock id entry _ present)⟩
    · refine ⟨schedule_ready _ _, .inr ⟨entry, found, by rw [schedule_eq], ?_⟩⟩
      rw [schedule_holdings, holdings, OrderedMap.map_insert]
      rfl

def adopt (restored : Std.ExtTreeMap String SubscriptionRules) (id : String) (holding : Holding) :
    Holding :=
  match restored[id]? with
  | none => holding
  | some rules => if rules.error ≠ "" then holding else { holding with rules := some rules }

theorem onRestored_holdings (clock : Clock) (restored : Std.ExtTreeMap String SubscriptionRules) :
    (s.onRestored clock restored).holdings = s.holdings.map (adopt restored) := by
  rw [onRestored, schedule_holdings]
  refine Std.ExtTreeMap.ext_getElem? fun id => ?_
  simp only [holdings, Std.ExtTreeMap.getElem?_map, Option.map_map]
  congr 1
  funext entry
  simp only [Function.comp_apply, adopt]
  cases restored[id]? with
  | none => rfl
  | some rules =>
    dsimp only
    split <;> rfl

theorem interrupt_holdings (id : String) :
    (s.interrupt id).holdings = s.holdings /\ (s.interrupt id).ready = s.ready := by
  unfold interrupt
  split <;> exact ⟨rfl, rfl⟩

theorem remove_holdings (id : String) :
    (s.remove id).holdings = s.holdings.erase id /\ (s.remove id).ready = s.ready := by
  obtain ⟨same, ready⟩ := s.interrupt_holdings id
  refine ⟨?_, ready⟩
  rw [<- same]
  exact OrderedMap.map_erase _ _ _

theorem update_holdings (clock : Clock) (id : String) (entry : Entry) (config : Config) :
    (s.update clock id entry config).ready = s.ready /\
      (s.update clock id entry config).holdings =
        s.holdings.insert id
          { config := config
            rules := if config.feed ≠ entry.config.feed then none else entry.rules } := by
  obtain ⟨same, ready⟩ := s.interrupt_holdings id
  by_cases changed : config.feed = entry.config.feed
  · refine ⟨by simpa [update, changed] using ready, ?_⟩
    rw [<- same, holdings, holdings, update]
    simp [changed, OrderedMap.map_insert, Entry.holding]
  · refine ⟨by simpa [update, changed, deleteCache] using ready, ?_⟩
    rw [<- same, holdings, holdings, update]
    simp [changed, OrderedMap.map_insert, Entry.holding, deleteCache]

theorem add_holdings (clock : Clock) (config : Config) (fresh : s.entries[config.id]? = none) :
    (s.add clock config).holdings =
      s.holdings.insert config.id { config := config, rules := none } := by
  rw [add, holdings, OrderedMap.insertIfNew_fresh _ _ _ fresh, OrderedMap.map_insert]
  rfl

end RuleSources

end ChromiumHmos.UrlProtection
