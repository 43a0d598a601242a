import ChromiumHmos.Lib.History
import ChromiumHmos.Adblock.Service

set_option autoImplicit false

/-!
# The update pipeline of the ad blocker

Of a configuration a compilation takes the sources and the user's rules, its content. What the
service is to remember is the fold of the changes it has acknowledged.
-/

namespace ChromiumHmos.Adblock

open Base Std Transition History
open UrlProtection (GURL UrlLibrary)

theorem Source.settings_settings (source : Source) : source.settings.settings = source.settings := rfl

def Config.content (config : Config) : List Source × String :=
  (config.sources.map Source.settings, config.user)

variable {id : String} {change : Source → Source}

theorem modifySource_settings
    (respects : ∀ source, (change source).settings = (change source.settings).settings)
    (sources : List Source) :
    (modifySource id change sources).map Source.settings =
      modifySource id (fun source => (change source).settings) (sources.map Source.settings) := by
  induction sources with
  | nil => rfl
  | cons source rest ih =>
    have sameId : source.settings.id = source.id := rfl
    by_cases found : source.id = id
    · simp [modifySource, found, sameId, respects source]
    · simp [modifySource, found, sameId, ih]

theorem modifySource_kept
    (kept : ∀ source, (change source).settings = source.settings) (sources : List Source) :
    (modifySource id change sources).map Source.settings = sources.map Source.settings := by
  induction sources with
  | nil => rfl
  | cons source rest ih =>
    by_cases found : source.id = id
    · simp [modifySource, found, kept source]
    · simp [modifySource, found, ih]

theorem findSource_settings (sources : List Source) (id : String) :
    (findSource sources id).isSome = (findSource (sources.map Source.settings) id).isSome := by
  induction sources with
  | nil => rfl
  | cons source rest ih =>
    have sameId : source.settings.id = source.id := rfl
    by_cases found : source.id = id
    · simp [findSource, found, sameId]
    · simpa [findSource, found, sameId] using ih

namespace Config

variable {c d : Config}

theorem sources_of_content (same : c.content = d.content) :
    c.sources.map Source.settings = d.sources.map Source.settings := congrArg Prod.fst same

theorem user_of_content (same : c.content = d.content) : c.user = d.user :=
  congrArg Prod.snd same

theorem settings_eq :
    c.settings = d.settings ↔ c.content = d.content /\ c.enabled = d.enabled /\
      c.autoUpdate = d.autoUpdate /\ c.exceptions = d.exceptions := by
  simp only [settings, content, Config.mk.injEq, Prod.mk.injEq, and_true]
  tauto

theorem settings_settings (config : Config) : config.settings.settings = config.settings := by
  simp [settings, Function.comp_def, Source.settings_settings]

variable {id : String} {change : Source → Source}

theorem modify_content (same : c.content = d.content)
    (respects : ∀ source, (change source).settings = (change source.settings).settings) :
    (c.modify id change).content = (d.modify id change).content := by
  have user : c.user = d.user := user_of_content same
  refine Prod.ext ?_ user
  simp only [content, modify, modifySource_settings respects, sources_of_content same]

theorem modify_kept (config : Config)
    (kept : ∀ source, (change source).settings = source.settings) :
    (config.modify id change).settings = config.settings := by
  simp only [settings, modify, modifySource_kept kept]

theorem find_of_content (same : c.content = d.content) (id : String) :
    (c.find id).isSome = (d.find id).isSome := by
  rw [find, find, findSource_settings, sources_of_content same, <- findSource_settings]

theorem append_content (same : c.content = d.content) (source : Source) :
    ({ c with sources := c.sources ++ [source] } : Config).content =
      ({ d with sources := d.sources ++ [source] } : Config).content := by
  simp only [content, List.map_append, sources_of_content same, user_of_content same]

theorem saveSource_content (same : c.content = d.content) (id name url : String) :
    (c.saveSource id name url).content = (d.saveSource id name url).content := by
  unfold saveSource
  apply modify_content
  · rw [find_of_content same id]
    split
    · exact same
    · exact append_content same _
  · intro source
    by_cases url' : source.url = url <;> simp [Source.settings, url']

theorem removeSource_content (same : c.content = d.content) (id : String) :
    (c.removeSource id).content = (d.removeSource id).content := by
  have filtered (config : Config) : (config.removeSource id).sources.map Source.settings =
      (config.sources.map Source.settings).filter fun source => source.id ≠ id := by
    rw [List.filter_map]
    rfl
  have user : c.user = d.user := user_of_content same
  refine Prod.ext ?_ user
  change (c.removeSource id).sources.map _ = (d.removeSource id).sources.map _
  rw [filtered, filtered, sources_of_content same]

end Config

variable {c d : Config}

theorem Edit.content (same : c.content = d.content) (edit : Edit) :
    (edit.apply c).content = (edit.apply d).content := by
  cases edit with
  | sourceEnabled id enabled => exact Config.modify_content same fun _ => rfl
  | saved id name url => exact Config.saveSource_content same id name url
  | removed id => exact Config.removeSource_content same id
  | userRules text =>
    have sources := Config.sources_of_content same
    exact Prod.ext sources rfl
  | imported id name text updated => exact Config.append_content same _
  | downloaded id text updated etag modified => exact Config.modify_content same fun _ => rfl
  | unchanged id updated => exact Config.modify_content same fun _ => rfl

theorem Edit.apart (edit : Edit) (config : Config) :
    (edit.apply config).enabled = config.enabled /\
      (edit.apply config).autoUpdate = config.autoUpdate /\
      (edit.apply config).exceptions = config.exceptions := by
  cases edit with
  | saved id name url =>
    simp only [apply, Config.saveSource, Config.modify]
    split <;> exact ⟨rfl, rfl, rfl⟩
  | _ => exact ⟨rfl, rfl, rfl⟩

theorem Change.settings (same : c.settings = d.settings) (change : Change) :
    (change.apply c).settings = (change.apply d).settings := by
  obtain ⟨content, enabled, autoUpdate, exceptions⟩ := Config.settings_eq.mp same
  cases change with
  | enabled value => exact Config.settings_eq.mpr ⟨content, rfl, autoUpdate, exceptions⟩
  | autoUpdate value => exact Config.settings_eq.mpr ⟨content, enabled, rfl, exceptions⟩
  | exception host excepted =>
    refine Config.settings_eq.mpr ⟨content, enabled, autoUpdate, ?_⟩
    simp only [apply, exceptions]
  | content edit =>
    obtain ⟨left, left', left''⟩ := edit.apart c
    obtain ⟨right, right', right''⟩ := edit.apart d
    refine Config.settings_eq.mpr ⟨edit.content content, ?_, ?_, ?_⟩
    · exact left.trans (enabled.trans right.symm)
    · exact left'.trans (autoUpdate.trans right'.symm)
    · exact left''.trans (exceptions.trans right''.symm)

def Change.toContent : Change → Bool
  | .content _ => true
  | _ => false

theorem Change.content_kept {change : Change} (apart : change.toContent = false) (config : Config) :
    (change.apply config).content = config.content := by
  cases change with
  | content edit => cases apart
  | _ => rfl

namespace Config

theorem engineSources_of_content {c d : Config} (same : c.content = d.content) :
    c.engineSources = d.engineSources := by
  have settled (config : Config) : config.engineSources =
      ((config.sources.map Source.settings).filter Source.enabled).map (fun source =>
        { id := source.id, text := source.text, bundled := source.kind = .builtin }) ++
      [{ id := "user", text := config.user, strict := true }] := by
    rw [List.filter_map, List.map_map]
    rfl
  rw [settled, settled, sources_of_content same, user_of_content same]

variable (config : Config)

theorem count_settings (c : RuleCount) : (config.count c).settings = config.settings := by
  unfold count
  split <;> exact modify_kept _ fun _ => rfl

theorem counts_settings (counts : List RuleCount) (config : Config) :
    (counts.foldl count config).settings = config.settings := by
  induction counts generalizing config with
  | nil => rfl
  | cons c rest ih => exact (ih _).trans (count_settings config c)

theorem compile_settings (a : EngineAnswer) :
    (config.compile a).config.settings = config.settings := by
  unfold compile
  split
  · rfl
  · exact counts_settings _ _

theorem compile_engine (a : EngineAnswer) :
    (config.compile a).engine = none \/ (config.compile a).engine = some config.engineSources := by
  unfold compile
  split
  · exact .inl rfl
  · cases a.handle
    · exact .inl rfl
    · exact .inr rfl

theorem compile_content (a : EngineAnswer) : (config.compile a).config.content = config.content :=
  (settings_eq.mp (config.compile_settings a)).1

theorem compiled_engine (a : EngineAnswer) :
    (config.compile a).engine = none \/
      (config.compile a).engine = some (config.compile a).config.engineSources := by
  rw [engineSources_of_content (config.compile_content a)]
  exact config.compile_engine a

theorem modify_engine (id : String) {change : Source -> Source}
    (kept : ∀ source, (change source).enabled = source.enabled /\ (change source).id = source.id /\
      (change source).text = source.text /\ (change source).kind = source.kind)
    (config : Config) : (config.modify id change).engineSources = config.engineSources := by
  have sources (all : List Source) :
      ((modifySource id change all).filter Source.enabled).map (fun source => ({
        id := source.id, text := source.text, bundled := source.kind = .builtin } : EngineSource)) =
      (all.filter Source.enabled).map (fun source => {
        id := source.id, text := source.text, bundled := source.kind = .builtin }) := by
    induction all with
    | nil => rfl
    | cons source rest ih =>
      obtain ⟨enabled, sameId, text, kind⟩ := kept source
      by_cases found : source.id = id
      · by_cases on : source.enabled = true <;>
          simp [modifySource, found, enabled, on, sameId, text, kind]
      · by_cases on : source.enabled = true <;> simp [modifySource, found, on, ih]
  simp only [engineSources, modify, sources]

theorem touchSource_engine (id : String) (updated : Rat) :
    (config.touchSource id updated).engineSources = config.engineSources := by
  apply modify_engine
  exact fun _ => ⟨rfl, rfl, rfl, rfl⟩

theorem failSource_settings (id : String) :
    (config.failSource id).settings = config.settings := config.modify_kept fun _ => rfl

end Config

end ChromiumHmos.Adblock
