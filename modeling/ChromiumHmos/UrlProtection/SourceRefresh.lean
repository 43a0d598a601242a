import ChromiumHmos.Lib.OrderedMap
import ChromiumHmos.UrlProtection.RuleSources

set_option autoImplicit false

/-!
# One refresh at a time

A refresh is a continuation bound to an id and a generation: first a download, then a task of
the worker or its reply. `RefreshCore` keeps of the sources what such continuations meet.
-/

namespace ChromiumHmos.UrlProtection

open Base Transition

namespace RuleSources

abbrev Continuation := String × Int

def Task.continuation : Task → Option Continuation
  | .parseDownload id generation _ => some (id, generation)
  | .install id generation .. => some (id, generation)
  | _ => none

def Reply.continuation : Reply → Option Continuation
  | .parsed id generation _ => some (id, generation)
  | .installed id generation .. => some (id, generation)
  | .restored _ => none

def continuations (s : RuleSources) : List Continuation :=
  s.loader.toList ++
    (s.worker.filterMap Task.continuation ++ s.replies.filterMap Reply.continuation)

def view (entries : Std.ExtTreeMap String Entry) (id : String) : Option (Config × Int) :=
  (entries[id]?).map fun entry => (entry.config, entry.generation)

variable (entries : Std.ExtTreeMap String Entry)

theorem view_insert (id : String) (entry : Entry) :
    view (entries.insert id entry) =
      Function.update (view entries) id (some (entry.config, entry.generation)) := by
  funext other
  by_cases same : other = id
  · simp [view, same]
  · simp [view, same, OrderedMap.getElem?_insert_of_ne _ _ _ _ same]

theorem view_erase (id : String) :
    view (entries.erase id) = Function.update (view entries) id none := by
  funext other
  by_cases same : other = id
  · simp [view, same]
  · simp [view, same, OrderedMap.getElem?_erase_of_ne _ _ _ same]

theorem view_insert_same (id : String) (old new : Entry)
    (found : entries[id]? = some old) (config : new.config = old.config)
    (generation : new.generation = old.generation) :
    view (entries.insert id new) = view entries := by
  rw [view_insert, config, generation]
  refine Function.update_eq_self_iff.mpr ?_
  simp [view, found]

end RuleSources

open RuleSources

structure RefreshCore where
  view : String → Option (Config × Int)
  clients : Int
  active : String
  loader : Option Continuation
  worker : List Task
  replies : List RuleSources.Reply
  cache : CacheDirectory
  issued : List String

def RuleSources.core (s : RuleSources) (cache : CacheDirectory) (issued : List String) :
    RefreshCore where
  view := view s.entries
  clients := s.clients
  active := s.active
  loader := s.loader
  worker := s.worker
  replies := s.replies
  cache := cache
  issued := issued

def SourcesHost.core (s : SourcesHost) : RefreshCore := s.sources.core s.cache s.issued

namespace RefreshCore

def continuations (c : RefreshCore) : List Continuation :=
  c.loader.toList ++
    (c.worker.filterMap Task.continuation ++ c.replies.filterMap Reply.continuation)

def Live (c : RefreshCore) (id : String) (generation : Int) : Prop :=
  c.active = id ∧ c.clients ≠ 0 ∧
    ∃ config, c.view id = some (config, generation) ∧ config.enabled = true

/-- Everything an operation can do to the core. -/
inductive Moves : RefreshCore → RefreshCore → Prop
  | stay (c : RefreshCore) : Moves c c
  | join (c : RefreshCore) : Moves c { c with clients := c.clients + 1 }
  | leave {c : RefreshCore} (some : 0 < c.clients) (resting : c.clients = 1 → c.active = "") :
      Moves c { c with clients := c.clients - 1 }
  | cancel {c : RefreshCore} {config : Config} {generation : Int} (last : c.clients = 1)
      (running : c.active ≠ "") (found : c.view c.active = some (config, generation)) :
      Moves c
        { c with
          clients := c.clients - 1
          view := Function.update c.view c.active (some (config, generation + 1))
          active := ""
          loader := none }
  | begin {c : RefreshCore} {id : String} {config : Config} {generation : Int}
      (found : c.view id = some (config, generation)) (enabled : config.enabled = true)
      (wanted : c.clients ≠ 0) (resting : c.active = "") :
      Moves c
        { c with
          view := Function.update c.view id (some (config, generation + 1))
          active := id
          loader := some (id, generation + 1) }
  | abort {c : RefreshCore} {id : String} {generation : Int}
      (loading : c.loader = some (id, generation)) (live : c.Live id generation) :
      Moves c { c with loader := none, active := "" }
  | arrive {c : RefreshCore} {id : String} {generation : Int} {config : Config}
      (loading : c.loader = some (id, generation)) (live : c.Live id generation)
      (found : c.view id = some (config, generation)) :
      Moves c
        { c with loader := none, worker := c.worker ++ [.parseDownload id generation config] }
  | restored {c : RefreshCore} {rules : Std.ExtTreeMap String SubscriptionRules}
      {rest : List RuleSources.Reply} (head : c.replies = .restored rules :: rest) :
      Moves c { c with replies := rest }
  | stale {c : RefreshCore} {reply : RuleSources.Reply} {rest : List RuleSources.Reply}
      {id : String} {generation : Int} (head : c.replies = reply :: rest)
      (bound : reply.continuation = some (id, generation)) (dead : ¬ c.Live id generation) :
      Moves c { c with replies := rest }
  | finish {c : RefreshCore} {reply : RuleSources.Reply} {rest : List RuleSources.Reply}
      {id : String} {generation : Int} (head : c.replies = reply :: rest)
      (bound : reply.continuation = some (id, generation)) (live : c.Live id generation) :
      Moves c { c with replies := rest, active := "" }
  | parsed {c : RefreshCore} {id : String} {generation : Int} {parsed : ParsedDownload}
      {rules : SubscriptionRules} {config : Config} {rest : List RuleSources.Reply}
      (head : c.replies = .parsed id generation parsed :: rest) (live : c.Live id generation)
      (found : c.view id = some (config, generation)) (present : parsed.rules = some rules) :
      Moves c
        { c with
          replies := rest
          worker := c.worker ++ [.install id generation config rules parsed.raw] }
  | workRestore {c : RefreshCore} {configs : List Config} {rest : List Task}
      (rules : Std.ExtTreeMap String SubscriptionRules)
      (head : c.worker = .restore configs :: rest) :
      Moves c { c with worker := rest, replies := c.replies ++ [.restored rules] }
  | workParse {c : RefreshCore} {id : String} {generation : Int} {config : Config}
      {rest : List Task} (parsed : ParsedDownload)
      (head : c.worker = .parseDownload id generation config :: rest)
      (typed : ∀ rules, parsed.rules = some rules → rules.ruleType = config.ruleType) :
      Moves c
        { c with worker := rest, replies := c.replies ++ [.parsed id generation parsed] }
  | workInstall {c : RefreshCore} {id : String} {generation : Int} {config : Config}
      {rules : SubscriptionRules} {raw : Bytes} {rest : List Task} (file : CacheFile)
      (head : c.worker = .install id generation config rules raw :: rest)
      (feed : file.feed =
        some { url := config.url, format := config.format, ruleType := rules.ruleType }) :
      Moves c
        { c with
          worker := rest
          replies := c.replies ++ [.installed id generation rules true]
          cache := c.cache.insert config.id file }
  | workRefuse {c : RefreshCore} {id : String} {generation : Int} {config : Config}
      {rules : SubscriptionRules} {raw : Bytes} {rest : List Task}
      (head : c.worker = .install id generation config rules raw :: rest) :
      Moves c
        { c with
          worker := rest
          replies := c.replies ++ [.installed id generation rules false] }
  | workDelete {c : RefreshCore} {id : String} {rest : List Task}
      (head : c.worker = .deleteCache id :: rest) :
      Moves c { c with worker := rest, cache := c.cache.erase id }
  | workTemporary {c : RefreshCore} {rest : List Task} (head : c.worker = .deleteTemporary :: rest) :
      Moves c { c with worker := rest }
  | add {c : RefreshCore} (config : Config) (fresh : config.id ∉ c.issued)
      (unused : c.cache[config.id]? = none) (named : config.id ≠ "") :
      Moves c
        { c with
          view := Function.update c.view config.id (some (config, 0))
          issued := config.id :: c.issued }
  -- `changed` is the new configuration, or none when the source is removed.
  | change {c : RefreshCore} {id : String} {config : Config} {generation : Int}
      (changed : Option Config) (deletes : List Task)
      (found : c.view id = some (config, generation))
      (named : ∀ new, changed = some new → new.id = id)
      (only : ∀ task ∈ deletes, task = .deleteCache id)
      (needed : deletes = [] → ∃ new, changed = some new ∧ new.feed = config.feed) :
      Moves c
        { c with
          view := Function.update c.view id (changed.map fun new => (new, generation + 1))
          active := if c.active = id then "" else c.active
          loader := if c.active = id then none else c.loader
          worker := c.worker ++ deletes }

structure Inv (c : RefreshCore) : Prop where
  clients : 0 ≤ c.clients
  named : ∀ id config generation, c.view id = some (config, generation) →
    id ≠ "" ∧ config.id = id ∧ id ∈ c.issued
  single : c.active ≠ "" → ∃ config generation, c.view c.active = some (config, generation) ∧
    config.enabled = true ∧ 0 < c.clients ∧ c.continuations.count (c.active, generation) = 1
  bounded : ∀ id generation, (id, generation) ∈ c.continuations → id ∈ c.issued ∧
    ∀ config latest, c.view id = some (config, latest) →
      generation ≤ latest ∧ (generation = latest → c.active = id)
  loader : ∀ id generation, c.loader = some (id, generation) →
    c.active = id ∧ ∃ config, c.view id = some (config, generation)

variable {c d : RefreshCore}

theorem Inv.moved (inv : c.Inv) (view : d.view = c.view)
    (clients : d.clients = c.clients) (active : d.active = c.active) (issued : d.issued = c.issued)
    (loader : d.loader = c.loader \/ d.loader = none)
    (same : d.continuations.Perm c.continuations) : d.Inv := by
  constructor
  · rw [clients]
    exact inv.clients
  · rw [view, issued]
    exact inv.named
  · rw [active, view, clients]
    intro running
    obtain ⟨config, generation, found, enabled, wanted, one⟩ := inv.single running
    exact ⟨config, generation, found, enabled, wanted, by rw [same.count_eq]; exact one⟩
  · intro id generation mem
    rw [view, active, issued]
    exact inv.bounded id generation (same.mem_iff.mp mem)
  · intro id generation loading
    rw [view, active]
    rcases loader with kept | gone
    · exact inv.loader id generation (kept ▸ loading)
    · rw [gone] at loading
      contradiction

variable {id : String} {generation : Int}

theorem Inv.stale (inv : c.Inv) (view : d.view = c.view)
    (clients : d.clients = c.clients) (active : d.active = c.active) (issued : d.issued = c.issued)
    (loader : d.loader = c.loader)
    (used : c.continuations.Perm ((id, generation) :: d.continuations))
    (dead : ¬ c.Live id generation) : d.Inv := by
  constructor
  · rw [clients]
    exact inv.clients
  · rw [view, issued]
    exact inv.named
  · rw [active, view, clients]
    intro running
    obtain ⟨config, latest, found, enabled, wanted, one⟩ := inv.single running
    refine ⟨config, latest, found, enabled, wanted, ?_⟩
    have other : (id, generation) ≠ (c.active, latest) := by
      intro same
      obtain ⟨rfl, rfl⟩ := Prod.mk.inj same
      exact dead ⟨rfl, by omega, config, found, enabled⟩
    rw [used.count_eq, List.count_cons_of_ne other] at one
    exact one
  · intro other latest mem
    rw [view, active, issued]
    exact inv.bounded other latest (used.mem_iff.mpr (List.mem_cons_of_mem _ mem))
  · rw [view, active, loader]
    exact inv.loader

theorem Inv.finished (inv : c.Inv) (view : d.view = c.view)
    (clients : d.clients = c.clients) (active : d.active = "") (issued : d.issued = c.issued)
    (loader : d.loader = none) (used : c.continuations.Perm ((id, generation) :: d.continuations))
    (live : c.Live id generation) : d.Inv := by
  obtain ⟨rfl, wanted, config, found, enabled⟩ := live
  have running : c.active ≠ "" := (inv.named _ _ _ found).1
  obtain ⟨config', generation', found', -, -, one⟩ := inv.single running
  obtain ⟨rfl, rfl⟩ := Prod.mk.inj (Option.some.inj (found.symm.trans found'))
  have gone : (c.active, generation) ∉ d.continuations := by
    rw [used.count_eq, List.count_cons_self] at one
    exact List.count_eq_zero.mp (by omega)
  constructor
  · rw [clients]
    exact inv.clients
  · rw [view, issued]
    exact inv.named
  · simp [active]
  · intro other latest mem
    rw [view, issued]
    obtain ⟨known, bound⟩ := inv.bounded other latest (used.mem_iff.mpr (List.mem_cons_of_mem _ mem))
    refine ⟨known, fun config'' now found'' => ⟨(bound config'' now found'').1, ?_⟩⟩
    rintro rfl
    have same := (bound config'' latest found'').2 rfl
    subst same
    obtain ⟨-, rfl⟩ := Prod.mk.inj (Option.some.inj (found.symm.trans found''))
    exact absurd mem gone
  · simp [loader]

theorem Inv.interrupted (inv : c.Inv) {config : Config} (found : c.view id = some (config, generation))
    (changed : Option Config) (named : ∀ new, changed = some new -> new.id = id)
    (view : d.view = Function.update c.view id (changed.map fun new => (new, generation + 1)))
    (clients : d.clients = c.clients \/ 0 <= d.clients /\ c.active = id)
    (active : d.active = if c.active = id then "" else c.active) (issued : d.issued = c.issued)
    (loader : d.loader = if c.active = id then none else c.loader)
    (tasks : d.worker.filterMap Task.continuation = c.worker.filterMap Task.continuation)
    (replies : d.replies = c.replies) : d.Inv := by
  have members : ∀ x ∈ d.continuations, x ∈ c.continuations := by
    intro x
    simp only [continuations, tasks, replies, loader, List.mem_append]
    rintro (loading | rest)
    · split at loading
      · simp at loading
      · exact .inl loading
    · exact .inr rest
  constructor
  · rcases clients with same | ⟨rest, -⟩
    · rw [same]
      exact inv.clients
    · exact rest
  · intro other config' latest found'
    rw [issued]
    rw [view] at found'
    by_cases same : other = id
    · subst same
      simp only [Function.update_self, Option.map_eq_some_iff] at found'
      obtain ⟨new, present, rest⟩ := found'
      obtain ⟨rfl, rfl⟩ := Prod.mk.inj rest
      have old := inv.named _ _ _ found
      exact ⟨old.1, named new present, old.2.2⟩
    · rw [Function.update_of_ne same] at found'
      exact inv.named _ _ _ found'
  · intro running
    rw [active] at running
    split at running
    · exact absurd rfl running
    next other =>
      have clients' : d.clients = c.clients := by
        rcases clients with same | ⟨-, same⟩
        · exact same
        · exact absurd same other
      obtain ⟨config', latest, found', enabled, wanted, one⟩ := inv.single running
      rw [active, if_neg other, view, clients']
      refine ⟨config', latest, by rw [Function.update_of_ne other, found'], enabled, wanted, ?_⟩
      simpa only [continuations, tasks, replies, loader, if_neg other] using one
  · intro other latest mem
    obtain ⟨known, bound⟩ := inv.bounded other latest (members _ mem)
    rw [issued, view, active]
    refine ⟨known, fun config' now found' => ?_⟩
    by_cases same : other = id
    · subst same
      simp only [Function.update_self, Option.map_eq_some_iff] at found'
      obtain ⟨new, -, rest⟩ := found'
      obtain ⟨rfl, rfl⟩ := Prod.mk.inj rest
      have older := (bound config generation found).1
      exact ⟨by omega, fun same => by omega⟩
    · rw [Function.update_of_ne same] at found'
      obtain ⟨older, current⟩ := bound config' now found'
      refine ⟨older, fun latest => ?_⟩
      rw [current latest, if_neg same]
  · intro other latest loading
    rw [loader] at loading
    rw [active, view]
    split at loading
    · contradiction
    next running =>
      obtain ⟨rfl, config', found'⟩ := inv.loader other latest loading
      rw [if_neg running, Function.update_of_ne running]
      exact ⟨rfl, config', found'⟩

theorem Inv.loading_live (inv : c.Inv)
    (loading : c.loader = some (id, generation)) : c.Live id generation := by
  obtain ⟨rfl, config, found⟩ := inv.loader id generation loading
  obtain ⟨config', latest, found', enabled, wanted, -⟩ := inv.single (inv.named _ _ _ found).1
  obtain rfl : config = config' := congrArg Prod.fst (Option.some.inj (found.symm.trans found'))
  exact ⟨rfl, by omega, config, found, enabled⟩

theorem Inv.not_loading (inv : c.Inv) (live : c.Live id generation)
    (elsewhere : (id, generation) ∈ c.worker.filterMap Task.continuation ++
      c.replies.filterMap Reply.continuation) : c.loader = none := by
  obtain ⟨rfl, wanted, config, found, enabled⟩ := live
  cases loading : c.loader with
  | none => rfl
  | some x =>
    obtain ⟨same, config', found'⟩ := inv.loader x.1 x.2 loading
    obtain ⟨config'', latest, found'', -, -, one⟩ := inv.single (inv.named _ _ _ found).1
    have latest_ : generation = latest :=
      congrArg Prod.snd (Option.some.inj (found.symm.trans found''))
    rw [<- same] at found'
    have loaded : generation = x.2 :=
      congrArg Prod.snd (Option.some.inj (found.symm.trans found'))
    have both : x = (c.active, generation) := Prod.ext same.symm loaded.symm
    rw [<- latest_, continuations, loading, both, Option.toList_some, List.singleton_append,
      List.count_cons_self] at one
    have more := List.count_pos_iff.mpr elsewhere
    omega

variable (loader : Option Continuation)

theorem continuations_push (worker : List Task) (task : Task)
    (replies : List RuleSources.Reply) (x : Continuation) (bound : task.continuation = some x) :
    (loader.toList ++ ((worker ++ [task]).filterMap Task.continuation ++
      replies.filterMap Reply.continuation)).Perm
    (x :: (loader.toList ++ (worker.filterMap Task.continuation ++
      replies.filterMap Reply.continuation))) := by
  have pushed : (worker ++ [task]).filterMap Task.continuation =
      worker.filterMap Task.continuation ++ [x] := by
    simp [List.filterMap_append, bound]
  rw [pushed, List.append_assoc, <- List.append_assoc loader.toList]
  exact List.perm_middle.trans (by simp)

theorem continuations_pop (worker : List Task)
    (reply : RuleSources.Reply) (rest : List RuleSources.Reply) (x : Continuation)
    (bound : reply.continuation = some x) :
    (loader.toList ++ (worker.filterMap Task.continuation ++
      (reply :: rest).filterMap Reply.continuation)).Perm
    (x :: (loader.toList ++ (worker.filterMap Task.continuation ++
      rest.filterMap Reply.continuation))) := by
  rw [List.filterMap_cons_some bound, <- List.append_assoc, <- List.append_assoc]
  exact List.perm_middle

theorem continuations_work (task : Task) (rest : List Task)
    (reply : RuleSources.Reply) (replies : List RuleSources.Reply)
    (same : task.continuation = reply.continuation) :
    (loader.toList ++ (rest.filterMap Task.continuation ++
      (replies ++ [reply]).filterMap Reply.continuation)).Perm
    (loader.toList ++ ((task :: rest).filterMap Task.continuation ++
      replies.filterMap Reply.continuation)) := by
  refine List.Perm.append_left _ ?_
  cases bound : reply.continuation with
  | none =>
    rw [List.filterMap_cons_none (same.trans bound)]
    simp [List.filterMap_append, bound]
  | some x =>
    rw [List.filterMap_cons_some (same.trans bound)]
    simp only [List.filterMap_append, List.filterMap_cons_some bound, List.filterMap_nil]
    rw [<- List.append_assoc]
    exact List.perm_append_singleton x _

theorem moves_inv (moves : Moves c d) (inv : c.Inv) : d.Inv := by
  have unloaded : c.active = "" → c.loader = none := by
    intro resting
    cases loading : c.loader with
    | none => rfl
    | some x =>
      obtain ⟨same, config, found⟩ := inv.loader x.1 x.2 loading
      exact absurd (same.symm.trans resting) (inv.named _ _ _ found).1
  cases moves with
  | stay => exact inv
  | join =>
    refine { inv with clients := ?_, single := ?_ }
    · exact le_trans inv.clients (by simp)
    · intro running
      obtain ⟨config, generation, found, enabled, wanted, one⟩ := inv.single running
      exact ⟨config, generation, found, enabled, lt_trans wanted (by simp), one⟩
  | leave some resting =>
    refine { inv with clients := ?_, single := ?_ }
    · exact (by omega : 0 <= c.clients - 1)
    · intro running
      obtain ⟨config, generation, found, enabled, wanted, one⟩ := inv.single running
      have more : c.clients ≠ 1 := fun last => running (resting last)
      exact ⟨config, generation, found, enabled, (by omega : 0 < c.clients - 1), one⟩
  | @cancel config generation last running found =>
    refine inv.interrupted found (some config) ?_ rfl (.inr ⟨by simp [last], rfl⟩) ?_ rfl ?_ rfl rfl
    · rintro new ⟨⟩
      exact (inv.named _ _ _ found).2.1
    · simp
    · simp
  | @begin id config generation found enabled wanted resting =>
    have idle := unloaded resting
    have older : ∀ latest, (id, latest) ∈ c.continuations -> latest <= generation :=
      fun latest mem => ((inv.bounded id latest mem).2 config generation found).1
    have kept : ∀ other, other ≠ id ->
        Function.update c.view id (some (config, generation + 1)) other = c.view other :=
      fun other distinct => Function.update_of_ne distinct _ _
    constructor
    · exact inv.clients
    · intro other config' latest found'
      dsimp only at found'
      by_cases same : other = id
      · subst same
        rw [Function.update_self] at found'
        obtain ⟨rfl, rfl⟩ := Prod.mk.inj (Option.some.inj found')
        exact inv.named _ _ _ found
      · rw [kept other same] at found'
        exact inv.named _ _ _ found'
    · intro _
      refine ⟨config, generation + 1, Function.update_self .., enabled, ?_, ?_⟩
      · have bound := inv.clients
        exact (by omega : 0 < c.clients)
      · have absent : (id, generation + 1) ∉ c.continuations := by
          intro mem
          have bound := older _ mem
          omega
        simp only [continuations, idle, Option.toList_none, List.nil_append] at absent
        simp only [continuations, Option.toList_some, List.singleton_append, List.count_cons_self,
          List.count_eq_zero.mpr absent]
    · intro other latest mem
      simp only [continuations, Option.toList_some, List.singleton_append, List.mem_cons] at mem
      rcases mem with same | mem
      · obtain ⟨rfl, rfl⟩ := Prod.mk.inj same
        refine ⟨(inv.named _ _ _ found).2.2, fun config' now found' => ?_⟩
        dsimp only at found'
        rw [Function.update_self] at found'
        obtain ⟨-, rfl⟩ := Prod.mk.inj (Option.some.inj found')
        exact ⟨le_rfl, fun _ => rfl⟩
      · have mem' : (other, latest) ∈ c.continuations := List.mem_append_right _ mem
        obtain ⟨known, bound⟩ := inv.bounded other latest mem'
        refine ⟨known, fun config' now found' => ?_⟩
        dsimp only at found'
        by_cases same : other = id
        · subst same
          rw [Function.update_self] at found'
          obtain ⟨-, rfl⟩ := Prod.mk.inj (Option.some.inj found')
          exact ⟨le_trans (older latest mem') (by simp), fun _ => rfl⟩
        · rw [kept other same] at found'
          obtain ⟨bound, current⟩ := bound config' now found'
          refine ⟨bound, fun latest => ?_⟩
          have empty := (current latest).symm.trans resting
          exact absurd empty (inv.named _ _ _ found').1
    · intro other latest loading
      obtain ⟨rfl, rfl⟩ := Prod.mk.inj (Option.some.inj loading)
      exact ⟨rfl, config, Function.update_self ..⟩
  | @abort id generation loading live =>
    refine inv.finished rfl rfl rfl rfl rfl ?_ live
    simp [continuations, loading]
  | @arrive id generation config loading live found =>
    refine inv.moved rfl rfl rfl rfl (.inr rfl) ?_
    simpa [continuations, loading] using
      continuations_push none c.worker _ c.replies (id, generation) rfl
  | restored head =>
    refine inv.moved rfl rfl rfl rfl (.inl rfl) ?_
    simp only [continuations, head]
    rw [List.filterMap_cons_none rfl]
  | stale head bound dead =>
    refine inv.stale rfl rfl rfl rfl rfl ?_ dead
    simpa [continuations, head] using continuations_pop c.loader c.worker _ _ _ bound
  | @finish reply rest id generation head bound live =>
    have elsewhere : (id, generation) ∈ c.worker.filterMap Task.continuation ++
        c.replies.filterMap Reply.continuation := by
      rw [head, List.filterMap_cons_some bound]
      simp
    refine inv.finished rfl rfl rfl rfl (inv.not_loading live elsewhere) ?_ live
    simpa [continuations, head] using continuations_pop c.loader c.worker _ _ _ bound
  | @parsed id generation parsed rules config rest head live found present =>
    refine inv.moved rfl rfl rfl rfl (.inl rfl) ?_
    have popped := continuations_pop c.loader c.worker (.parsed id generation parsed) rest _ rfl
    have pushed := continuations_push c.loader c.worker
      (.install id generation config rules parsed.raw) rest _ rfl
    simpa only [continuations, head] using pushed.trans popped.symm
  | workRestore rules head =>
    refine inv.moved rfl rfl rfl rfl (.inl rfl) ?_
    simpa only [continuations, head] using continuations_work c.loader _ _ _ c.replies rfl
  | workParse parsed head typed =>
    refine inv.moved rfl rfl rfl rfl (.inl rfl) ?_
    simpa only [continuations, head] using continuations_work c.loader _ _ _ c.replies rfl
  | workInstall file head feed =>
    refine inv.moved rfl rfl rfl rfl (.inl rfl) ?_
    simpa only [continuations, head] using continuations_work c.loader _ _ _ c.replies rfl
  | workRefuse head =>
    refine inv.moved rfl rfl rfl rfl (.inl rfl) ?_
    simpa only [continuations, head] using continuations_work c.loader _ _ _ c.replies rfl
  | workDelete head =>
    refine inv.moved rfl rfl rfl rfl (.inl rfl) ?_
    simp only [continuations, head]
    rw [List.filterMap_cons_none rfl]
  | workTemporary head =>
    refine inv.moved rfl rfl rfl rfl (.inl rfl) ?_
    simp only [continuations, head]
    rw [List.filterMap_cons_none rfl]
  | add config fresh unused named =>
    have kept : ∀ id, id ∈ c.issued -> Function.update c.view config.id (some (config, 0)) id =
        c.view id := by
      intro id known
      refine Function.update_of_ne ?_ _ _
      rintro rfl
      exact fresh known
    constructor
    · exact inv.clients
    · intro id config' generation found
      dsimp only at found
      by_cases same : id = config.id
      · subst same
        rw [Function.update_self] at found
        obtain ⟨rfl, rfl⟩ := Prod.mk.inj (Option.some.inj found)
        exact ⟨named, rfl, List.mem_cons_self⟩
      · rw [Function.update_of_ne same] at found
        obtain ⟨nonempty, own, known⟩ := inv.named _ _ _ found
        exact ⟨nonempty, own, List.mem_cons_of_mem _ known⟩
    · intro running
      obtain ⟨config', generation, found, rest⟩ := inv.single running
      exact ⟨config', generation, (kept _ (inv.named _ _ _ found).2.2).trans found, rest⟩
    · intro id generation mem
      obtain ⟨known, bound⟩ := inv.bounded id generation mem
      dsimp only
      rw [kept id known]
      exact ⟨List.mem_cons_of_mem _ known, bound⟩
    · intro id generation loading
      obtain ⟨same, config', found⟩ := inv.loader id generation loading
      exact ⟨same, config', (kept _ (inv.named _ _ _ found).2.2).trans found⟩
  | change changed deletes found named only needed =>
    refine inv.interrupted found changed named rfl (.inl rfl) rfl rfl rfl ?_ rfl
    have none : deletes.filterMap Task.continuation = [] := by
      rw [List.filterMap_eq_nil_iff]
      intro task mem
      rw [only task mem]
      rfl
    simp [List.filterMap_append, none]

end RefreshCore

end ChromiumHmos.UrlProtection
