import ChromiumHmos.UrlProtection.SourceRefresh

set_option autoImplicit false

/-!
# Cache files follow the configuration

The worker runs its tasks in the order they were posted. So a file, or a write still queued,
for a feed its source no longer has is always behind a deletion queued after it.
-/

namespace ChromiumHmos.UrlProtection

open Base RuleSources

namespace RefreshCore

def Feeds (c : RefreshCore) (id : String) (feed : Config.Feed) : Prop :=
  ∃ config generation, c.view id = some (config, generation) ∧ config.feed = feed

def installFeed (config : Config) (rules : SubscriptionRules) : Config.Feed where
  url := config.url
  format := config.format
  ruleType := rules.ruleType

/-- Every queued write is for the feed of its source, or has a deletion behind it. -/
def Covered (feeds : String → Config.Feed → Prop) : List Task → Prop
  | [] => True
  | .install id _ config rules _ :: rest =>
    (config.id = id ∧ (feeds id (installFeed config rules) ∨ .deleteCache id ∈ rest)) ∧
      Covered feeds rest
  | _ :: rest => Covered feeds rest

theorem Covered.append {feeds feeds' : String -> Config.Feed -> Prop} {tasks more : List Task}
    (covered : Covered feeds tasks)
    (kept : ∀ id feed, feeds id feed -> feeds' id feed \/ .deleteCache id ∈ more)
    (last : Covered feeds' more) : Covered feeds' (tasks ++ more) := by
  induction tasks with
  | nil => exact last
  | cons task rest ih =>
    cases task with
    | install id generation config rules raw =>
      obtain ⟨⟨own, safe⟩, covered⟩ := covered
      refine ⟨⟨own, ?_⟩, ih covered⟩
      rcases safe with has | deleted
      · rcases kept _ _ has with has | deleted
        · exact .inl has
        · exact .inr (List.mem_append_right _ deleted)
      · exact .inr (List.mem_append_left _ deleted)
    | restore | parseDownload | deleteCache | deleteTemporary => exact ih covered

variable {task : Task} {rest : List Task}

theorem Covered.tail {feeds : String -> Config.Feed -> Prop}
    (covered : Covered feeds (task :: rest)) : Covered feeds rest := by
  cases task with
  | install => exact covered.2
  | restore | parseDownload | deleteCache | deleteTemporary => exact covered

variable {id : String}

theorem covered_deletes {feeds : String -> Config.Feed -> Prop} {tasks : List Task}
    (only : ∀ task ∈ tasks, task = .deleteCache id) : Covered feeds tasks := by
  induction tasks with
  | nil => trivial
  | cons task rest ih =>
    obtain rfl := only _ List.mem_cons_self
    exact ih fun task mem => only task (List.mem_cons_of_mem _ mem)

structure FilesInv (c : RefreshCore) : Prop where
  parses : ∀ id generation config, .parseDownload id generation config ∈ c.worker →
    ∀ current, c.view id = some (current, generation) → config = current
  parsed : ∀ id generation parsed rules, .parsed id generation parsed ∈ c.replies →
    parsed.rules = some rules → ∀ config, c.view id = some (config, generation) →
      rules.ruleType = config.ruleType
  installs : Covered c.Feeds c.worker
  files : ∀ id file, c.cache[id]? = some file → id ∈ c.issued →
    ∃ feed, file.feed = some feed ∧ (c.Feeds id feed ∨ .deleteCache id ∈ c.worker)

variable {c d : RefreshCore}

theorem Feeds.congr {feed : Config.Feed} (feeds : c.Feeds id feed)
    (same : d.view id = c.view id) : d.Feeds id feed := by
  obtain ⟨config, generation, found, has⟩ := feeds
  exact ⟨config, generation, same.trans found, has⟩

theorem FilesInv.posts (inv : c.FilesInv) (more : List Task)
    (view : d.view = c.view) (worker : d.worker = c.worker ++ more)
    (replies : d.replies <:+ c.replies) (cache : d.cache = c.cache) (issued : d.issued = c.issued)
    (parses : ∀ id generation config, .parseDownload id generation config ∈ more ->
      c.view id = some (config, generation))
    (installs : Covered c.Feeds more) : d.FilesInv := by
  have feeds : d.Feeds = c.Feeds := by
    funext id feed
    rw [Feeds, Feeds, view]
  constructor
  · rw [worker, view]
    intro id generation config mem current found
    rcases List.mem_append.mp mem with earlier | new
    · exact inv.parses id generation config earlier current found
    · have same := (parses id generation config new).symm.trans found
      exact congrArg Prod.fst (Option.some.inj same)
  · intro id generation parsed rules mem
    rw [view]
    exact inv.parsed id generation parsed rules (replies.subset mem)
  · rw [worker, feeds]
    exact inv.installs.append (fun _ _ => .inl) installs
  · rw [cache, issued, worker, feeds]
    intro id file found known
    obtain ⟨feed, written, safe⟩ := inv.files id file found known
    exact ⟨feed, written, safe.imp_right (List.mem_append_left _)⟩

theorem FilesInv.works (inv : c.FilesInv)
    (head : c.worker = task :: rest) (replies : List RuleSources.Reply) (view : d.view = c.view)
    (worker : d.worker = rest) (posted : d.replies = c.replies ++ replies)
    (issued : d.issued = c.issued)
    (parsed : ∀ id generation parsed rules, .parsed id generation parsed ∈ replies ->
      parsed.rules = some rules -> ∀ config, c.view id = some (config, generation) ->
        rules.ruleType = config.ruleType)
    (files : ∀ id file, d.cache[id]? = some file -> id ∈ c.issued ->
      ∃ feed, file.feed = some feed /\ (c.Feeds id feed \/ .deleteCache id ∈ rest)) : d.FilesInv := by
  have feeds : d.Feeds = c.Feeds := by
    funext id feed
    rw [Feeds, Feeds, view]
  constructor
  · rw [worker, view]
    intro id generation config mem
    exact inv.parses id generation config (by rw [head]; exact List.mem_cons_of_mem _ mem)
  · rw [posted, view]
    intro id generation parsed_ rules mem
    rcases List.mem_append.mp mem with earlier | new
    · exact inv.parsed id generation parsed_ rules earlier
    · exact parsed id generation parsed_ rules new
  · rw [worker, feeds]
    have covered := inv.installs
    rw [head] at covered
    exact covered.tail
  · rw [issued, worker, feeds]
    exact files

theorem FilesInv.kept (inv : c.FilesInv)
    (head : c.worker = task :: rest) (other : ∀ id, task ≠ .deleteCache id) :
    ∀ id file, c.cache[id]? = some file -> id ∈ c.issued ->
      ∃ feed, file.feed = some feed /\ (c.Feeds id feed \/ .deleteCache id ∈ rest) := by
  intro id file found known
  obtain ⟨feed, written, safe⟩ := inv.files id file found known
  refine ⟨feed, written, safe.imp_right fun deleted => ?_⟩
  rw [head, List.mem_cons] at deleted
  exact deleted.resolve_left fun same => other id same.symm

variable {generation : Int}

theorem parse_mem {config : Config}
    (mem : .parseDownload id generation config ∈ c.worker) : (id, generation) ∈ c.continuations := by
  have bound : (id, generation) ∈ c.worker.filterMap Task.continuation :=
    List.mem_filterMap.mpr ⟨_, mem, rfl⟩
  simp [continuations, bound]

theorem parsed_mem {parsed : ParsedDownload}
    (mem : .parsed id generation parsed ∈ c.replies) : (id, generation) ∈ c.continuations := by
  have bound : (id, generation) ∈ c.replies.filterMap Reply.continuation :=
    List.mem_filterMap.mpr ⟨_, mem, rfl⟩
  simp [continuations, bound]

theorem FilesInv.changes (inv : c.FilesInv) (id : String) (deletes : List Task)
    (others : ∀ other, other ≠ id -> d.view other = c.view other)
    (behind : ∀ config generation, d.view id = some (config, generation) ->
      (id, generation) ∉ c.continuations)
    (worker : d.worker = c.worker ++ deletes) (replies : d.replies = c.replies)
    (cache : d.cache = c.cache) (issued : ∀ id ∈ d.issued, id ∈ c.issued \/ c.cache[id]? = none)
    (only : ∀ task ∈ deletes, task = .deleteCache id)
    (covers : ∀ feed, c.Feeds id feed -> d.Feeds id feed \/ .deleteCache id ∈ deletes) :
    d.FilesInv := by
  have kept : ∀ other feed, c.Feeds other feed -> d.Feeds other feed \/ .deleteCache other ∈ deletes := by
    intro other feed has
    by_cases same : other = id
    · exact same ▸ covers feed (same ▸ has)
    · exact .inl (has.congr (others other same))
  constructor
  · intro other generation config mem current found
    rw [worker] at mem
    rcases List.mem_append.mp mem with earlier | new
    · by_cases same : other = id
      · subst same
        exact absurd (parse_mem earlier) (behind current generation found)
      · rw [others other same] at found
        exact inv.parses other generation config earlier current found
    · exact absurd (only _ new) (by simp)
  · intro other generation parsed rules mem present config found
    rw [replies] at mem
    by_cases same : other = id
    · subst same
      exact absurd (parsed_mem mem) (behind config generation found)
    · rw [others other same] at found
      exact inv.parsed other generation parsed rules mem present config found
  · rw [worker]
    exact inv.installs.append kept (covered_deletes only)
  · rw [cache, worker]
    intro other file found known
    rcases issued other known with known | absent
    · obtain ⟨feed, written, safe⟩ := inv.files other file found known
      refine ⟨feed, written, ?_⟩
      rcases safe with has | deleted
      · exact (kept other feed has).imp_right (List.mem_append_right _)
      · exact .inr (List.mem_append_left _ deleted)
    · rw [found] at absent
      contradiction

theorem Inv.above (inv : c.Inv) {config : Config} (found : c.view id = some (config, generation)) :
    (id, generation + 1) ∉ c.continuations := by
  intro mem
  have bound := ((inv.bounded id _ mem).2 config generation found).1
  omega

theorem FilesInv.restarts (files : c.FilesInv) (inv : c.Inv) {config : Config}
    (found : c.view id = some (config, generation))
    (view : d.view = Function.update c.view id (some (config, generation + 1)))
    (worker : d.worker = c.worker) (replies : d.replies = c.replies) (cache : d.cache = c.cache)
    (issued : d.issued = c.issued) : d.FilesInv := by
  refine files.changes id [] ?_ ?_ (by simp [worker]) replies cache (fun _ known => .inl (issued ▸ known)) (by simp) ?_
  · intro other distinct
    rw [view, Function.update_of_ne distinct]
  · intro config' latest found'
    rw [view, Function.update_self] at found'
    obtain ⟨-, rfl⟩ := Prod.mk.inj (Option.some.inj found')
    exact inv.above found
  · rintro feed ⟨config', latest, found', has⟩
    obtain rfl : config = config' := congrArg Prod.fst (Option.some.inj (found.symm.trans found'))
    exact .inl ⟨config, generation + 1, by rw [view, Function.update_self], has⟩

theorem moves_files (moves : Moves c d) (inv : c.Inv) (files : c.FilesInv) : d.FilesInv := by
  cases moves with
  | stay => exact files
  | join | leave => exact ⟨files.parses, files.parsed, files.installs, files.files⟩
  | @cancel config generation last running found =>
    exact files.restarts inv found rfl rfl rfl rfl rfl
  | @begin id config generation found enabled wanted resting =>
    exact files.restarts inv found rfl rfl rfl rfl rfl
  | abort => exact ⟨files.parses, files.parsed, files.installs, files.files⟩
  | @arrive id generation config loading live found =>
    refine files.posts [.parseDownload id generation config] rfl rfl (List.suffix_refl _) rfl rfl ?_
      trivial
    rintro id' generation' config' mem
    obtain ⟨rfl, rfl, rfl⟩ := Task.parseDownload.inj (List.mem_singleton.mp mem)
    exact found
  | restored head | stale head | finish head =>
    refine files.posts [] rfl (by simp) ?_ rfl rfl (by simp) trivial
    rw [head]
    exact List.suffix_cons _ _
  | @parsed id generation parsed rules config rest head live found present =>
    refine files.posts [.install id generation config rules parsed.raw] rfl rfl ?_ rfl rfl
      (by simp) ?_
    · rw [head]
      exact List.suffix_cons _ _
    · have typed := files.parsed id generation parsed rules (by rw [head]; exact List.mem_cons_self)
        present config found
      refine ⟨⟨(inv.named _ _ _ found).2.1, .inl ⟨config, generation, found, ?_⟩⟩, trivial⟩
      rw [installFeed, typed]
      rfl
  | workRestore rules head =>
    exact files.works head _ rfl rfl rfl rfl (by simp) (files.kept head (by simp))
  | @workParse id generation config rest parsed head typed =>
    refine files.works head _ rfl rfl rfl rfl ?_ (files.kept head (by simp))
    intro id' generation' parsed' rules mem present current found
    obtain ⟨rfl, rfl, rfl⟩ := Reply.parsed.inj (List.mem_singleton.mp mem)
    have same := files.parses id' generation' config (by rw [head]; exact List.mem_cons_self)
      current found
    rw [typed rules present, same]
  | @workInstall id generation config rules raw rest file head feed =>
    refine files.works head _ rfl rfl rfl rfl (by simp) ?_
    intro id' file' found known
    have covered := files.installs
    rw [head] at covered
    obtain ⟨⟨own, safe⟩, -⟩ := covered
    rcases (OrderedMap.getElem?_insert_some _ _ _ _ _).mp found with ⟨rfl, rfl⟩ | ⟨-, kept⟩
    · rw [own]
      exact ⟨_, feed, safe⟩
    · exact files.kept head (by simp) id' file' kept known
  | workRefuse head =>
    exact files.works head _ rfl rfl rfl rfl (by simp) (files.kept head (by simp))
  | @workDelete id rest head =>
    refine files.works head [] rfl rfl (by simp) rfl (by simp) ?_
    intro id' file found known
    obtain ⟨distinct, kept⟩ := (OrderedMap.getElem?_erase_some _ _ _ _).mp found
    obtain ⟨feed, written, safe⟩ := files.files id' file kept known
    refine ⟨feed, written, safe.imp_right fun deleted => ?_⟩
    rw [head, List.mem_cons] at deleted
    exact deleted.resolve_left fun same => distinct (Task.deleteCache.inj same)
  | workTemporary head =>
    exact files.works head [] rfl rfl (by simp) rfl (by simp) (files.kept head (by simp))
  | add config fresh unused named =>
    refine files.changes config.id [] ?_ ?_ (by simp) rfl rfl ?_ (by simp) ?_
    · exact fun other distinct => Function.update_of_ne distinct _ _
    · intro config' generation _ mem
      exact fresh (inv.bounded _ _ mem).1
    · intro id known
      rcases List.mem_cons.mp known with rfl | known
      · exact .inr unused
      · exact .inl known
    · rintro feed ⟨config', generation, found, -⟩
      exact absurd (inv.named _ _ _ found).2.2 fresh
  | @change id config generation changed deletes found named only needed =>
    refine files.changes id deletes ?_ ?_ rfl rfl rfl (fun _ => .inl) only ?_
    · exact fun other distinct => Function.update_of_ne distinct _ _
    · intro config' latest found'
      dsimp only at found'
      rw [Function.update_self, Option.map_eq_some_iff] at found'
      obtain ⟨new, -, same⟩ := found'
      obtain ⟨-, rfl⟩ := Prod.mk.inj same
      exact inv.above found
    · rintro feed ⟨config', latest, found', has⟩
      obtain rfl : config = config' := congrArg Prod.fst (Option.some.inj (found.symm.trans found'))
      cases deletes with
      | cons task rest =>
        right
        rw [only task List.mem_cons_self]
        exact List.mem_cons_self
      | nil =>
        obtain ⟨new, rfl, same⟩ := needed rfl
        exact .inl ⟨new, generation + 1, Function.update_self .., same.trans has⟩

end RefreshCore

end ChromiumHmos.UrlProtection
