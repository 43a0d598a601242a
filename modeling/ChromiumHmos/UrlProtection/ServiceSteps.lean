import ChromiumHmos.UrlProtection.ServiceLedger

set_option autoImplicit false

/-!
# One operation of the service

Each operation as a step, what it does to the entries, and the invariant all of them keep.
-/

namespace ChromiumHmos.UrlProtection

open Base OrderedMap

inductive ServiceOp
  | check (view : View) (args : Service.CheckArgs)
  | onCloud (view : View) (id : String) (revision : Int) (reply : Reply)
  | onRules (view : View)
  | onSources (policyChanged : Bool)
  | timeout (id : String)
  | cancel (id : String)
  | configure (view : View) (command : DictValue)
  | setSiteEnabled (view : View) (url : GURL) (enabled : Bool)
  | notified
  | destroy (view : View)

def Pending.open (call : Pending) : Prop :=
  call.result.dangerous = false ∧ (call.waitingLocal || call.waitingCloud) = true

namespace Service

variable (platform : Platform)

def next (s : Service) : ServiceOp → Service
  | .check view args => (s.check platform view args).2
  | .onCloud view id revision reply => s.onCloud platform view id revision reply
  | .onRules view => s.onRules platform view
  | .onSources policyChanged => s.onSources policyChanged
  | .timeout id => s.timeout id
  | .cancel id => s.cancel id
  | .configure view command => (s.configure platform view command).2
  | .setSiteEnabled view url enabled => (s.setSiteEnabled platform view url enabled).2
  | .notified => s.notified
  | .destroy view => s.destroy view

-- A callback object, a token and a bridge id are each drawn once.
structure Fresh (s : Service) (args : CheckArgs) : Prop where
  token : ∀ delay, Effect.postTimeout args.token delay ∉ s.effects
  posted : s.posts args.callback = 0
  owed : s.owed args.callback = 0
  bridge : args.bridgeId ≠ 0 → s.calls args.bridgeId = 0

-- Observers of a policy change only issue and cancel checks.
def permitted (s : Service) (op : ServiceOp) : Prop :=
  s.destroyed = false ∧
    match op with
    | .check _ args => s.Fresh args
    | .cancel _ => True
    | .notified => s.notifying.isSome
    | _ => s.notifying = none

def waits (s : Service) : Prop :=
  ∀ (id : String) (call : Pending), s.pending[id]? = some call → call.open

variable (s : Service)

theorem maybeComplete_entry (id other : String) (call : Pending)
    (found : (s.maybeComplete id).pending[other]? = some call) :
    s.pending[other]? = some call /\ (other = id -> call.open) := by
  unfold maybeComplete at found
  cases present : s.pending[id]? with
  | none =>
    simp only [present] at found
    refine ⟨found, ?_⟩
    rintro rfl
    simp [present] at found
  | some entry =>
    simp only [present] at found
    split at found
    next waiting =>
      refine ⟨found, ?_⟩
      rintro rfl
      obtain rfl : entry = call := by simpa [present] using found
      simpa [Pending.open] using waiting
    next =>
      have kept := (getElem?_erase_some _ _ _ _).mp found
      exact ⟨kept.2, fun same => absurd same kept.1⟩

theorem foldl_maybeComplete_entry (ids : List String) (other : String)
    (call : Pending) (found : (ids.foldl maybeComplete s).pending[other]? = some call) :
    s.pending[other]? = some call /\ (other ∈ ids -> call.open) := by
  induction ids generalizing s with
  | nil => exact ⟨found, by simp⟩
  | cons id rest ih =>
    obtain ⟨here, later⟩ := ih (s.maybeComplete id) found
    obtain ⟨before, now⟩ := maybeComplete_entry s id other call here
    refine ⟨before, fun member => ?_⟩
    rcases List.mem_cons.mp member with same | rest
    · exact now same
    · exact later rest

theorem maybeComplete_waits (id : String)
    (others : ∀ (other : String) (call : Pending), other ≠ id ->
      s.pending[other]? = some call -> call.open) : (s.maybeComplete id).waits := by
  intro other call found
  obtain ⟨before, now⟩ := maybeComplete_entry s id other call found
  by_cases same : other = id
  · exact now same
  · exact others other call same before

theorem update_waits (id : String) (call : Pending) (waits : s.waits) :
    (({ s with pending := s.pending.insert id call } : Service).maybeComplete id).waits := by
  apply maybeComplete_waits
  intro other entry distinct found
  rw [getElem?_insert_of_ne _ _ _ _ distinct] at found
  exact waits other entry found

theorem checkLocal_same (view : View) (call : Pending) :
    (s.checkLocal platform view call).callback = call.callback /\
      (s.checkLocal platform view call).bridgeId = call.bridgeId := by
  unfold checkLocal
  grind

theorem onRules_settles (view : View) : Settles s (s.onRules platform view) := by
  unfold onRules
  cases view.updater with
  | none => exact .refl s
  | some rules =>
    have loaded : Settles s
        { s with rules := rules, loading := rules.status == .loading } :=
      ⟨.of_same rfl rfl, rfl, rfl, rfl, rfl⟩
    dsimp only
    split
    · refine loaded.trans (.trans (.trans (map_settles _ _ ?_ ?_)
        (foldl_maybeComplete_settles _ _)) (emit_settles _ _ (List.forall_mem_singleton.mpr rfl)))
      · exact fun id call => (checkLocal_same platform _ view _).1
      · exact fun id call => (checkLocal_same platform _ view _).2
    · exact loaded.trans (emit_settles _ _ (List.forall_mem_singleton.mpr rfl))

theorem onRules_waits (view : View) (waits : s.waits) : (s.onRules platform view).waits := by
  unfold onRules
  cases view.updater with
  | none => exact waits
  | some rules =>
    dsimp only
    split
    · intro id call found
      obtain ⟨mapped, completed⟩ := foldl_maybeComplete_entry _ _ id call found
      refine completed ?_
      rw [Std.ExtTreeMap.getElem?_map, Option.map_eq_some_iff] at mapped
      obtain ⟨old, present, -⟩ := mapped
      rw [Std.ExtTreeMap.mem_keys, Std.ExtTreeMap.mem_iff_isSome_getElem?, present]
      rfl
    · exact waits

theorem lease_settles (view : View) (acquired : Bool) (event : Effect) (neutral : event.neutral = true) :
    Settles s (if view.updaterNotifies then
      (({ s with rulesAcquired := acquired } : Service).emit [event]).onRules platform view
      else ({ s with rulesAcquired := acquired } : Service).emit [event]) := by
  have marked : Settles s { s with rulesAcquired := acquired } := ⟨.of_same rfl rfl, rfl, rfl, rfl, rfl⟩
  have leased := marked.trans (emit_settles _ [event] (List.forall_mem_singleton.mpr neutral))
  split
  · exact leased.trans (onRules_settles platform _ view)
  · exact leased

theorem ensureRules_settles (view : View) : Settles s (s.ensureRules platform view) := by
  unfold ensureRules
  split
  · exact .refl s
  · have notified := lease_settles platform s view true .acquireUpdater rfl
    dsimp only
    split
    · exact notified.trans (emit_settles _ [.acquireSources] (List.forall_mem_singleton.mpr rfl))
    · exact notified

theorem ensureRules_waits (view : View) (waits : s.waits) :
    (s.ensureRules platform view).waits := by
  unfold ensureRules
  split
  · exact waits
  · dsimp only
    have notified := onRules_waits platform
      (({ s with rulesAcquired := true } : Service).emit [.acquireUpdater]) view waits
    split <;> split <;> assumption

theorem releaseRules_settles (view : View) : Settles s (s.releaseRules platform view) := by
  unfold releaseRules
  split
  · exact .refl s
  · have notified := lease_settles platform s view false .releaseUpdater rfl
    dsimp only
    split
    · exact notified
    · have sources := notified.trans (emit_settles _ [.releaseSources] (List.forall_mem_singleton.mpr rfl))
      split
      · exact sources.trans (emit_settles _ sourcesEvents (by simp [Effect.neutral, sourcesEvents]))
      · exact sources

theorem update_maybeComplete_settles (id : String) (old call : Pending)
    (found : s.pending[id]? = some old) (callback : call.callback = old.callback)
    (bridge : call.bridgeId = old.bridgeId) :
    Settles s (({ s with pending := s.pending.insert id call } : Service).maybeComplete id) :=
  (update_settles s id old call found callback bridge).trans (maybeComplete_settles _ id)

theorem timeout_settles (id : String) : Settles s (s.timeout id) := by
  unfold timeout
  cases found : s.pending[id]? with
  | none => exact .refl s
  | some call => exact update_maybeComplete_settles s id call _ found rfl rfl

theorem timeout_waits (id : String) (waits : s.waits) : (s.timeout id).waits := by
  unfold timeout
  cases s.pending[id]? with
  | none => exact waits
  | some call => exact update_waits s id _ waits

theorem maybeComplete_closed (id : String) (call : Pending)
    (found : s.pending[id]? = some call) (closed : ¬ call.open) :
    (s.maybeComplete id).pending[id]? = none := by
  by_contra present
  obtain ⟨entry, still⟩ := Option.ne_none_iff_exists'.mp present
  obtain ⟨before, opened⟩ := maybeComplete_entry s id id entry still
  rw [found, Option.some.injEq] at before
  exact closed (before ▸ opened rfl)

theorem timeout_removes (id : String) : (s.timeout id).pending[id]? = none := by
  unfold timeout
  cases found : s.pending[id]? with
  | none => exact found
  | some call =>
    exact maybeComplete_closed _ id { call with waitingLocal := false, waitingCloud := false }
      (by simp) (by simp [Pending.open])

theorem cancel_settles (id : String) : Settles s (s.cancel id) := by
  unfold cancel
  cases found : s.pending[id]? with
  | none => exact .refl s
  | some call => exact update_maybeComplete_settles s id call _ found rfl rfl

theorem cancel_waits (id : String) (waits : s.waits) : (s.cancel id).waits := by
  unfold cancel
  cases s.pending[id]? with
  | none => exact waits
  | some call => exact update_waits s id _ waits

theorem Balances.stays_empty {s t : Service} (balances : Balances s t)
    (empty : s.pending = ∅) : t.pending = ∅ := by
  refine Std.ExtTreeMap.ext_getElem? fun id => ?_
  cases found : t.pending[id]? with
  | none => simp
  | some call =>
    obtain ⟨old, present, -⟩ := balances.entries id call found
    simp [empty] at present

theorem waits_empty (empty : s.pending = ∅) : s.waits := by
  intro id call found
  simp [empty] at found

-- A policy change, up to the moment its observers run.
structure Restarts (s t : Service) : Prop extends Balances s t where
  pending : t.pending = ∅
  cache : t.cache = ∅
  revision : t.revision = s.revision + 1
  notifying : ∃ rest, t.notifying = some rest ∧ ∀ effect ∈ rest, effect.neutral = true
  destroyed : t.destroyed = s.destroyed

theorem changePolicy_balances : Balances s s.changePolicy :=
  (cancelAll_settles s "stale_policy").toBalances.trans (.of_same rfl rfl)

theorem restarts_of_settles (s changed t : Service) (rest : List Effect)
    (pending : changed.pending = s.changePolicy.pending)
    (effects : changed.effects = s.changePolicy.effects)
    (cache : changed.cache = ∅) (revision : changed.revision = s.revision + 1)
    (destroyed : changed.destroyed = s.destroyed) (settles : Settles changed t)
    (neutral : ∀ effect ∈ rest, effect.neutral = true) : Restarts s (t.notify rest) where
  toBalances := (changePolicy_balances s).trans ((Balances.of_same pending effects).trans
    (settles.toBalances.trans (.of_same rfl rfl)))
  pending := settles.toBalances.stays_empty pending
  cache := settles.cache.trans cache
  revision := settles.revision.trans revision
  notifying := ⟨rest, rfl, neutral⟩
  destroyed := settles.destroyed.trans destroyed

theorem persist_settles : Settles s s.persist := by
  unfold persist
  split
  · exact .refl s
  · exact ⟨.of_same rfl rfl, rfl, rfl, rfl, rfl⟩

theorem switchRules_settles (view : View) :
    Settles s (if s.usesLocal then s.ensureRules platform view else s.releaseRules platform view) := by
  split
  · exact ensureRules_settles platform s view
  · exact releaseRules_settles platform s view

theorem applyConfig_restarts (view : View) (enabled consent : Bool) (provider : Provider) :
    Restarts s (s.applyConfig platform view enabled consent provider) := by
  unfold applyConfig
  dsimp only
  refine restarts_of_settles s _ _ _ ?_ ?_ ?_ ?_ ?_
    ((persist_settles _).trans ((switchRules_settles platform _ view).trans
      (emit_settles _ _ (List.forall_mem_singleton.mpr rfl))))
    (List.forall_mem_singleton.mpr rfl)
  all_goals rfl

theorem configure_cases (view : View) (command : DictValue) :
    (s.configure platform view command).2 = s \/
      Restarts s (s.configure platform view command).2 := by
  unfold configure
  dsimp only
  split
  · split
    · exact .inr (applyConfig_restarts platform s view _ _ _)
    · exact .inl rfl
  · exact .inl rfl

theorem setSiteEnabled_cases (view : View) (url : GURL) (enabled : Bool) :
    (s.setSiteEnabled platform view url enabled).2 = s \/
      Restarts s (s.setSiteEnabled platform view url enabled).2 := by
  unfold setSiteEnabled
  dsimp only
  split
  · exact .inl rfl
  split
  · exact .inl rfl
  split
  · exact .inl rfl
  · refine .inr (restarts_of_settles s _ _ _ ?_ ?_ ?_ ?_ ?_
      ((persist_settles _).trans (emit_settles _ _ (List.forall_mem_singleton.mpr rfl)))
      (List.forall_mem_singleton.mpr rfl))
    all_goals rfl

theorem onSources_cases (policyChanged : Bool) :
    Settles s (s.onSources policyChanged) /\
        (s.onSources policyChanged).pending = s.pending \/
      Restarts s (s.onSources policyChanged) := by
  unfold onSources
  have quiet : ∀ effect ∈ sourcesEvents, effect.neutral = true := by
    simp [sourcesEvents, Effect.neutral]
  split
  · refine .inr (restarts_of_settles s _ _ _ ?_ ?_ ?_ ?_ ?_
      (emit_settles _ _ (List.forall_mem_singleton.mpr rfl)) quiet)
    all_goals rfl
  · exact .inl ⟨emit_settles s _ quiet, rfl⟩

theorem notified_balances
    (neutral : ∀ rest, s.notifying = some rest -> ∀ effect ∈ rest, effect.neutral = true) :
    Balances s s.notified := by
  unfold notified
  cases pending : s.notifying with
  | none => exact .refl s
  | some rest =>
    have finished : Balances s { s with notifying := none } := .of_same rfl rfl
    exact finished.trans (emit_settles _ rest (neutral rest pending)).toBalances

theorem destroy_balances (view : View) : Balances s (s.destroy view) := by
  unfold destroy
  dsimp only
  have released (t : Service) (condition : Bool) (effect : Effect)
      (neutral : effect.neutral = true) :
      Balances t (if condition then t.emit [effect] else t) := by
    split
    · exact (emit_settles t [effect] (by simpa using neutral)).toBalances
    · exact .refl t
  have updater := released s (view.updater.isSome && s.rulesAcquired) .releaseUpdater rfl
  generalize (if view.updater.isSome && s.rulesAcquired then s.emit [.releaseUpdater] else s) = u
    at updater ⊢
  have sources := released u (view.sources.isSome && u.rulesAcquired) .releaseSources rfl
  generalize (if view.sources.isSome && u.rulesAcquired then u.emit [.releaseSources] else u) = v
    at sources ⊢
  have cancelled := (cancelAll_settles v "context_closed").toBalances
  have closed := emit_settles (v.cancelAll "context_closed")
    [.sendControl "closeContext" none (v.cancelAll "context_closed").identity]
    (List.forall_mem_singleton.mpr rfl)
  exact updater.trans (sources.trans (cancelled.trans (closed.toBalances.trans (.of_same rfl rfl))))

end Service

end ChromiumHmos.UrlProtection
