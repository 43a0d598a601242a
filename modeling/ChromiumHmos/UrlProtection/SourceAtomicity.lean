import ChromiumHmos.UrlProtection.SourceIsolation

set_option autoImplicit false

/-!
# A change of the sources takes place as a whole

`SourceChange` is a change of the list of configurations by itself. `Mutate` refuses and leaves
everything as it was, or makes one such change, counts it once and stores the list it leads to.
-/

namespace ChromiumHmos.UrlProtection

open Base RuleSources

variable (platform : SubscriptionPlatform)

abbrev Configs := Std.ExtTreeMap String Config

inductive SourceChange
  | add (config : Config)
  | update (id : String) (config : Config)
  | remove (id : String)

def SourceChange.apply (configs : Configs) : SourceChange → Configs
  | .add config => configs.insertIfNew config.id config
  | .update id config => configs.insert id config
  | .remove id => configs.erase id

-- What `Persist` writes of a list of configurations.
def storedConfigs (configs : Configs) : List Value := configs.toList.map fun entry => .dict entry.2.toValue

namespace RuleSources

def configs (s : RuleSources) : Configs := s.entries.map fun _ entry => entry.config

/-- What the command asks for, and passes every check of. -/
def Accepts (s : RuleSources) (token action : String) (command : DictValue) : SourceChange → Prop
  | .add config => action = "addProtectionRuleSource" ∧ s.addedConfig platform token command = .ok config
  | .update id config => action = "updateProtectionRuleSource" ∧ id = stringOf command "sourceId" ∧
      ∃ entry, s.entries[id]? = some entry ∧ s.updatedConfig platform id entry.config command = .ok config
  | .remove id => action = "removeProtectionRuleSource" ∧ id = stringOf command "sourceId" ∧
      (s.entries[id]?).isSome = true

variable (s : RuleSources)

theorem addedConfig_error (token : String) (command : DictValue) (reason : String)
    (refused : s.addedConfig platform token command = .error reason) : reason ≠ "" := by
  unfold addedConfig at refused
  split at refused
  · simp [<- Except.error.inj refused]
  dsimp only at refused
  generalize (if stringOf command "recommendationId" ≠ "" then _ else _ : Option Config) = config at refused
  cases config with
  | none => simp [<- Except.error.inj refused]
  | some config =>
    dsimp only at refused
    split at refused
    · simp [<- Except.error.inj refused]
    · split_ifs at refused <;> simp [<- Except.error.inj refused]

theorem add_configs (clock : Clock) (config : Config) :
    (s.add clock config).configs = (SourceChange.add config).apply s.configs := by
  unfold configs add SourceChange.apply
  ext id : 1
  simp only [Std.ExtTreeMap.getElem?_map, Std.ExtTreeMap.getElem?_insertIfNew, Std.ExtTreeMap.mem_map]
  split <;> rfl

theorem interrupt_entries (id : String) : (s.interrupt id).entries = s.entries := by
  unfold interrupt
  split <;> rfl

theorem interrupt_revision (id : String) : (s.interrupt id).revision = s.revision := by
  unfold interrupt
  split <;> rfl

theorem remove_configs (id : String) :
    (s.remove id).configs = (SourceChange.remove id).apply s.configs := by
  unfold configs remove SourceChange.apply
  ext other : 1
  simp only [deleteCache, interrupt_entries, Std.ExtTreeMap.getElem?_map, Std.ExtTreeMap.getElem?_erase]
  split <;> rfl

theorem remove_revision (id : String) : (s.remove id).revision = s.revision :=
  interrupt_revision s id

def updatedEntry (clock : Clock) (entry : Entry) (config : Config) : Entry :=
  { entry with
    generation := entry.generation + 1
    rules := if decide (config.feed ≠ entry.config.feed) then none else entry.rules
    config := config
    revision := entry.revision + 1
    error := ""
    due := max entry.notBefore (clock.now + seconds 15) }

theorem update_entries (clock : Clock) (id : String) (entry : Entry) (config : Config) :
    (s.update clock id entry config).entries = s.entries.insert id (updatedEntry clock entry config) := by
  have entries : (if decide (config.feed ≠ entry.config.feed) = true then (s.interrupt id).deleteCache id
      else s.interrupt id).entries = s.entries := by
    split <;> exact interrupt_entries s id
  unfold update
  dsimp only
  rw [entries]
  rfl

theorem update_configs (clock : Clock) (id : String) (entry : Entry) (config : Config) :
    (s.update clock id entry config).configs = (SourceChange.update id config).apply s.configs := by
  unfold configs SourceChange.apply
  ext other : 1
  simp only [update_entries, Std.ExtTreeMap.getElem?_map, Std.ExtTreeMap.getElem?_insert]
  split <;> rfl

theorem update_revision (clock : Clock) (id : String) (entry : Entry) (config : Config) :
    (s.update clock id entry config).revision = s.revision := by
  unfold update
  dsimp only
  split <;> exact interrupt_revision s id

theorem refresh_refused (clock : Clock) (id : String) (entry : Entry)
    (refused : (s.refresh clock id entry).1 ≠ "") : (s.refresh clock id entry).2 = s := by
  unfold refresh at refused ⊢
  split at refused
  next disabled => rw [if_pos disabled]
  split at refused
  next usable already => rw [if_neg usable, if_pos already]
  split at refused
  next usable other busy => rw [if_neg usable, if_neg other, if_pos busy]
  split at refused
  next usable other idle limited => rw [if_neg usable, if_neg other, if_neg idle, if_pos limited]
  · exact absurd rfl refused

end RuleSources

namespace SourcesHost

/-- The change was made once, and the new list is stored. -/
structure Changed (s : SourcesHost) (change : SourceChange) (t : SourcesHost) : Prop where
  configs : t.sources.configs = change.apply s.sources.configs
  revision : t.sources.revision = s.sources.revision + 1
  pref : t.pref = storedConfigs t.sources.configs

theorem commit_changed (s : SourcesHost) (clock : Clock) (sources : RuleSources) (change : SourceChange)
    (configs : sources.configs = change.apply s.sources.configs) (revision : sources.revision = s.sources.revision) :
    Changed s change (s.commit clock sources) := by
  have entries : (s.commit clock sources).sources.entries = sources.entries := by
    unfold commit
    dsimp only
    rw [schedule_eq]
    rfl
  refine ⟨?_, ?_, ?_⟩
  · rw [<- configs, RuleSources.configs, RuleSources.configs, entries]
  · unfold commit
    dsimp only
    rw [schedule_eq, <- revision]
    rfl
  · rw [storedConfigs, RuleSources.configs, entries, Std.ExtTreeMap.toList_map, List.map_map]
    rfl

end SourcesHost

/-- A refused `Mutate` leaves the host as it was; any other than a refresh makes the change it asks for. -/
theorem mutate_atomic (s : SourcesHost) (clock : Clock) (modifiable : Bool) (token action : String)
    (command : DictValue) :
    ((s.mutate platform clock modifiable token action command).1 ≠ "" →
      (s.mutate platform clock modifiable token action command).2 = s) ∧
    ((s.mutate platform clock modifiable token action command).1 = "" → action ≠ "refreshProtectionRuleSource" →
      ∃ change, s.sources.Accepts platform token action command change ∧
        s.Changed change (s.mutate platform clock modifiable token action command).2) := by
  have refuses (reason : String) (named : reason ≠ "") : (reason ≠ "" → s = s) ∧
      (reason = "" → action ≠ "refreshProtectionRuleSource" →
        ∃ change, s.sources.Accepts platform token action command change ∧ s.Changed change s) :=
    ⟨fun _ => rfl, fun empty => absurd empty named⟩
  unfold SourcesHost.mutate
  dsimp only
  split
  · exact refuses "initializing" (by decide)
  split
  · exact refuses "stale_sources" (by decide)
  split
  · exact refuses "managed" (by decide)
  split
  · next adds =>
    cases added : s.sources.addedConfig platform token command with
    | error reason => exact refuses _ (addedConfig_error platform _ _ _ _ added)
    | ok config =>
      refine ⟨fun refused => absurd rfl refused, fun _ _ => ⟨.add config, ⟨adds, added⟩, ?_⟩⟩
      obtain ⟨configs, revision, pref⟩ := SourcesHost.commit_changed { s with issued := config.id :: s.issued } clock
        (s.sources.add clock config) (.add config) (add_configs s.sources clock config) rfl
      exact ⟨configs, revision, pref⟩
  · cases found : s.sources.entries[stringOf command "sourceId"]? with
    | none => exact refuses "unknown_source" (by decide)
    | some entry =>
      dsimp only
      split
      · next refreshes =>
        refine ⟨fun refused => ?_, fun _ other => absurd refreshes other⟩
        rw [refresh_refused s.sources clock _ entry refused]
      split
      · next updates =>
        cases updated : s.sources.updatedConfig platform (stringOf command "sourceId") entry.config command with
        | error reason => exact refuses _ (SourcesHost.updatedConfig_error platform _ _ _ _ _ updated)
        | ok config =>
          refine ⟨fun refused => absurd rfl refused, fun _ _ =>
            ⟨.update _ config, ⟨updates, rfl, entry, found, updated⟩, ?_⟩⟩
          exact SourcesHost.commit_changed s clock _ _ (update_configs s.sources clock _ entry config)
            (update_revision s.sources clock _ entry config)
      split
      · next removes =>
        refine ⟨fun refused => absurd rfl refused, fun _ _ => ⟨.remove _, ⟨removes, rfl, ?_⟩, ?_⟩⟩
        · rw [found]
          rfl
        · exact SourcesHost.commit_changed s clock _ _ (remove_configs s.sources _) (remove_revision s.sources _)
      · exact refuses "invalid_request" (by decide)

end ChromiumHmos.UrlProtection
