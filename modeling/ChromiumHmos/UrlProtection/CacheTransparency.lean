import ChromiumHmos.UrlProtection.CheckDominance

set_option autoImplicit false

/-!
# A cached reply and the bridge's

The same check is followed twice: answered from the cache, and answered by the bridge with the
reply that filled the entry.
-/

namespace ChromiumHmos.UrlProtection

open Base OrderedMap Transition

namespace Service

variable (platform : Platform)

def resultFor (callback : Nat) : Effect → Option Result
  | .postResult posted result => if posted = callback then some result else none
  | _ => none

def results (s : Service) (callback : Nat) : List Result := s.effects.filterMap (resultFor callback)

theorem results_emit (s : Service) (sent : List Effect) (callback : Nat) :
    (s.emit sent).results callback = s.results callback ++ sent.filterMap (resultFor callback) :=
  List.filterMap_append

theorem results_eq_nil (s : Service) (callback : Nat) : s.results callback = [] ↔ s.posts callback = 0 := by
  rw [results, List.filterMap_eq_nil_iff, posts, List.countP_eq_zero]
  refine forall₂_congr fun effect _ => ?_
  cases effect <;> simp [resultFor, Effect.postsTo]

theorem completion_results (s : Service) (id : String) (call : Pending) (result : Result) :
    (s.completion id call result).filterMap (resultFor call.callback) = [result] := by
  by_cases bridged : call.bridgeId ≠ 0 <;> simp [completion, bridged, resultFor, List.filterMap_cons]

theorem neutral_results {sent : List Effect} (neutral : ∀ effect ∈ sent, effect.neutral = true) (callback : Nat) :
    sent.filterMap (resultFor callback) = [] := by
  refine List.filterMap_eq_nil_iff.mpr fun effect mem => ?_
  have quiet := neutral effect mem
  cases effect <;> first | rfl | cases quiet

/-- The results for this check if nothing comes any more before its time is up. -/
def told (s : Service) (args : CheckArgs) : List Result := (s.timeout args.token).results args.callback

theorem retired_results (s : Service) (id : String) (call : Pending) (pending : Std.ExtTreeMap String Pending) :
    (({ s with pending := pending } : Service).emit (s.completion id call call.result)).results call.callback =
      s.results call.callback ++ [call.result] := by
  rw [results_emit, completion_results]
  rfl

theorem timeout_results (s : Service) (id : String) (call : Pending) (found : s.pending[id]? = some call) :
    (s.timeout id).results call.callback = s.results call.callback ++ [call.result] := by
  unfold timeout maybeComplete
  simp only [found, Std.ExtTreeMap.getElem?_insert_self, Bool.or_false, Bool.and_false, Bool.false_eq_true, if_false]
  exact retired_results s id { call with waitingLocal := false, waitingCloud := false } _

theorem settled_told (s : Service) (args : CheckArgs) (call : Pending) (found : s.pending[args.token]? = some call)
    (owner : call.callback = args.callback) (silent : s.results args.callback = []) (sent : List Effect)
    (neutral : ∀ effect ∈ sent, effect.neutral = true) :
    ((s.maybeComplete args.token).emit sent).told args = [call.result] := by
  have quiet := neutral_results neutral args.callback
  unfold told maybeComplete
  simp only [found]
  split
  · have still : (s.emit sent).pending[args.token]? = some call := found
    have posted := timeout_results (s.emit sent) args.token call still
    rwa [owner, results_emit, silent, quiet] at posted
  · have gone : (({ s with pending := s.pending.erase args.token } : Service).emit
        (s.completion args.token call call.result) |>.emit sent).pending[args.token]? = none := by
      simp [emit]
    have posted := retired_results s args.token call (s.pending.erase args.token)
    rw [owner, silent] at posted
    unfold timeout
    rw [gone, results_emit, posted, quiet]
    rfl

def sourcesUsable (view : View) : Bool :=
  match view.sources with
  | some sources => sources.usable
  | none => false

-- The rules after `EnsureRules`.
def takenRules (s : Service) (view : View) : LocalRules :=
  if !s.rulesAcquired && view.updaterNotifies then view.updater.getD s.rules else s.rules

/-- The local rules or the subscriptions can say that a URL is in none of them. -/
def localUsable (s : Service) (view : View) : Bool :=
  s.usesLocal && ((s.takenRules view).isUsable view.wall || sourcesUsable view)

theorem onRules_rules (s : Service) (view : View) : (s.onRules platform view).rules = view.updater.getD s.rules := by
  unfold onRules
  cases view.updater with
  | none => rfl
  | some rules =>
    dsimp only
    split
    · obtain ⟨pending, sent, completed, -⟩ := foldl_maybeComplete_frame
        { s with
          rules := rules
          loading := rules.status == .loading
          pending := s.pending.map fun _ call =>
            ({ s with rules := rules, loading := rules.status == .loading } : Service).checkLocal platform view
              { call with waitingLocal := sourcesWaiting view } } s.pending.keys
      rw [completed]
      rfl
    · rfl

theorem ensureRules_rules (s : Service) (view : View) : (s.ensureRules platform view).rules = s.takenRules view := by
  unfold ensureRules takenRules
  cases acquired : s.rulesAcquired with
  | true => simp
  | false =>
    cases gone : view.updater with
    | none => simp
    | some rules =>
      have ran := onRules_rules platform (({ s with rulesAcquired := true } : Service).emit [.acquireUpdater]) view
      rw [gone] at ran
      simp only [Option.isNone_some, Bool.or_self, Bool.false_eq_true, if_false, Bool.not_false, Bool.true_and,
        Option.getD_some]
      cases view.updaterNotifies <;> cases view.sources <;> simp_all [emit]

theorem takesUp_usesLocal (s : Service) (view : View) (args : CheckArgs) :
    (s.takesUp platform view args).usesLocal = s.usesLocal := by
  unfold takesUp
  obtain ⟨acquired, rules, loading, pending, sent, same, -⟩ := ensureRules_frame platform s view
  split
  · rw [same]
    rfl
  · rfl

theorem takesUp_rules (s : Service) (view : View) (args : CheckArgs) (uses : s.usesLocal = true)
    (accepted : (s.check platform view args).1.isSome = true) :
    (s.takesUp platform view args).rules = s.takenRules view := by
  rw [takesUp, accepted, uses]
  exact ensureRules_rules platform s view

theorem localPending_result (s : Service) (view : View) (args : CheckArgs)
    (safe : s.localDanger platform view args.url = false) : (s.localPending platform view args).result =
      if s.usesLocal && (s.rules.isUsable view.wall || sourcesUsable view)
      then { verdict := .noMatch, source := "local", reason := "no_match", url := args.url }
      else unknownResult args.url "unavailable" := by
  unfold localPending localDanger sourcesUsable at *
  cases uses : s.usesLocal with
  | false => simp
  | true =>
    rw [uses, Bool.true_and, Bool.or_eq_false_iff] at safe
    obtain ⟨subscribed, missing⟩ := safe
    simp only [if_true, Bool.true_and, checkLocal, uses, Bool.not_true, Bool.false_eq_true, if_false, missing]
    cases held : view.sources with
    | none => cases s.rules.isUsable view.wall <;> simp [unknownResult_dangerous]
    | some sources =>
      rw [held] at subscribed
      have clear : (sources.matchUrl args.url).dangerous = false := subscribed
      cases s.rules.isUsable view.wall <;> cases usable : sources.usable <;>
        simp [clear, usable, unknownResult_dangerous]

def Filled (s : Service) : Prop :=
  ∀ (key : String) (cached : Cached), s.cache[key]? = some cached → ∃ verdict url,
    verdict ≠ .unknown ∧ cached.result = cloudResult verdict url

theorem storeCached_some (cache : Std.ExtTreeMap String Cached) (key other : String) (entry cached : Cached)
    (held : (storeCached cache key entry)[other]? = some cached) : cached = entry \/ cache[other]? = some cached := by
  unfold storeCached at held
  rcases (getElem?_insert_some _ _ _ _ _).mp held with ⟨-, is⟩ | ⟨-, before⟩
  · exact .inl is
  · refine .inr ?_
    split at before
    · split at before
      · exact ((getElem?_erase_some _ _ _ _).mp before).2
      · exact before
    · exact before

variable {s t : Service}

theorem Filled.of_cache (filled : s.Filled) (cache : t.cache = s.cache \/ t.cache = ∅) : t.Filled := by
  intro key cached held
  rcases cache with same | empty
  · exact filled key cached (same ▸ held)
  · simp [empty] at held

theorem onCloud_filled (filled : s.Filled) (view : View) (id : String) (revision : Int) (reply : Reply) :
    (s.onCloud platform view id revision reply).Filled := by
  have completed (u : Service) (sent : List Effect) (filled : u.Filled) : ((u.maybeComplete id).emit sent).Filled :=
    filled.of_cache (.inl (maybeComplete_settles u id).cache)
  by_cases stale : revision ≠ s.revision \/ s.pending[id]? = none
  · rw [onCloud_stale platform s view id revision reply stale]
    exact filled
  · simp only [not_or, ne_eq, not_not] at stale
    obtain ⟨rfl, present⟩ := stale
    obtain ⟨call, found⟩ := Option.ne_none_iff_exists'.mp present
    unfold onCloud
    simp only [found, ne_eq, not_true_eq_false, if_false]
    apply completed
    split
    · next known =>
      intro key cached held
      rcases storeCached_some _ _ _ _ _ held with rfl | before
      · exact ⟨_, _, fun unknown => known ((cloudResult_verdict _ _).trans unknown), rfl⟩
      · exact filled key cached before
    · exact filled

theorem next_filled (filled : s.Filled) (op : ServiceOp) : (s.next platform op).Filled := by
  cases op with
  | check view args =>
    rcases check_cases platform s view args with ⟨result, outcome⟩ | ⟨-, outcome⟩
    · rw [next, outcome]
      exact filled
    · obtain ⟨u, call, url, settles, -, -, -, registered⟩ := registerCheck_eq platform s view args
      rw [next, outcome, registered]
      exact filled.of_cache (.inl ((maybeComplete_settles _ _).cache.trans settles.cache))
  | onCloud view id revision reply => exact onCloud_filled platform filled view id revision reply
  | onRules view => exact filled.of_cache (.inl (onRules_settles platform s view).cache)
  | onSources policyChanged =>
    rcases onSources_cases s policyChanged with ⟨settles, -⟩ | restarts
    · exact filled.of_cache (.inl settles.cache)
    · exact filled.of_cache (.inr restarts.cache)
  | timeout id => exact filled.of_cache (.inl (timeout_settles s id).cache)
  | cancel id => exact filled.of_cache (.inl (cancel_settles s id).cache)
  | configure view command =>
    rcases configure_cases platform s view command with same | restarts
    · exact filled.of_cache (.inl (by rw [next, same]))
    · exact filled.of_cache (.inr restarts.cache)
  | setSiteEnabled view url enabled =>
    rcases setSiteEnabled_cases platform s view url enabled with same | restarts
    · exact filled.of_cache (.inl (by rw [next, same]))
    · exact filled.of_cache (.inr restarts.cache)
  | notified =>
    unfold next notified
    cases s.notifying <;> exact filled
  | destroy view =>
    refine filled.of_cache (.inl ?_)
    simp only [next, destroy, emit, cancelAll]
    split <;> split <;> rfl

theorem run_filled {start : Service} {trace : List (Service × ServiceOp)} (initial : constructed platform start)
    (run : Trace (serviceStep platform) start trace s) : s.Filled := by
  refine run.preserves (fun t op u filled moved => ?_) ?_
  · obtain ⟨-, rfl⟩ := moved
    exact next_filled platform filled op
  · obtain ⟨view, config, offTheRecord, contextId, rfl⟩ := initial
    have fresh (start : Service) (empty : start.cache = ∅) :
        (if start.usesLocal then start.ensureRules platform view else start).Filled := by
      intro key cached held
      split at held
      · simp [(ensureRules_settles platform start view).cache, empty] at held
      · simp [empty] at held
    exact fresh _ rfl

-- What a navigation is told by.
def answer (result : Result) : Verdict × String × String := (result.verdict, result.source, result.reason)

theorem check_accepts (s : Service) (view : View) (args : CheckArgs) :
    (s.check platform view args).1.isSome = (s.isSiteEnabled platform args.url &&
      !(s.knownRisk platform view args.url).dangerous && !(!s.enabled || !platform.isPublicHttpUrl args.url ||
        args.timeout <= 0 || s.pending.size ≥ 128)) := by
  unfold check
  cases s.isSiteEnabled platform args.url with
  | false => rfl
  | true =>
    cases danger : (s.knownRisk platform view args.url).dangerous with
    | true => simp [danger]
    | false =>
      simp only [Bool.not_true, Bool.false_eq_true, if_false, danger, Bool.not_false, Bool.and_self, Bool.true_and]
      generalize (!s.enabled || !platform.isPublicHttpUrl args.url || args.timeout <= 0 || s.pending.size ≥ 128) = turned
      cases turned <;> rfl

theorem cloudResult_answer (verdict : Verdict) (url url' : GURL) :
    answer (cloudResult verdict url) = answer (cloudResult verdict url') := by
  cases verdict <;> rfl

theorem cloudResult_source (verdict : Verdict) (url : GURL) : (cloudResult verdict url).source = "huawei" := by
  cases verdict <;> rfl

theorem takesUp_silent (s : Service) (view : View) (args : CheckArgs) (waits : s.waits) (fresh : s.Fresh args) :
    (s.takesUp platform view args).results args.callback = [] := by
  rw [results_eq_nil]
  by_contra posts
  obtain ⟨result, posted⟩ := (posted_iff _ _).mp (Nat.pos_of_ne_zero posts)
  rcases (takesUp_tells platform s view args waits).posts _ _ posted with before | ⟨id, call, found, owner, -⟩
  · have posts := (posted_iff s args.callback).mpr ⟨result, before⟩
    rw [fresh.posted] at posts
    omega
  · have owed := (owed_iff s args.callback).mpr ⟨id, call, found, owner⟩
    rw [fresh.owed] at owed
    omega

theorem accepted_told_results (s : Service) (view : View) (args : CheckArgs) (waits : s.waits) (fresh : s.Fresh args)
    (unused : s.pending[args.token]? = none) (accepted : (s.check platform view args).1.isSome = true) :
    (s.check platform view args).2.told args =
      [((s.takesUp platform view args).newPending platform view args).result] := by
  have taken : s.check platform view args = (some args.token, s.registerCheck platform view args) := by
    rcases check_cases platform s view args with ⟨result, outcome⟩ | ⟨-, outcome⟩
    · rw [outcome] at accepted
      cases accepted
    · exact outcome
  have silent := takesUp_silent platform s view args waits fresh
  have tells := takesUp_tells platform s view args waits
  rw [taken, registered_eq platform taken]
  generalize s.takesUp platform view args = u at silent tells ⊢
  have gone : u.pending[args.token]? = none := by
    by_contra present
    obtain ⟨entry, found⟩ := Option.ne_none_iff_exists'.mp present
    obtain ⟨old, here, -⟩ := tells.kept args.token entry found
    rw [unused] at here
    cases here
  have owner := (newPending_same platform u view args).1
  dsimp only
  generalize u.newPending platform view args = call at owner ⊢
  rw [insertIfNew_fresh _ _ _ gone]
  have requests : (requested u.identity args call.waitingCloud (platform.spec call.checkedUrl)
      (min args.timeout kBudget)).filterMap (resultFor args.callback) = [] := by
    cases call.waitingCloud <;> rfl
  have before : (({ u with pending := u.pending.insert args.token call } : Service).emit
      (requested u.identity args call.waitingCloud (platform.spec call.checkedUrl)
        (min args.timeout kBudget))).results args.callback = [] := by
    rw [results_emit, requests, List.append_nil]
    exact silent
  have settled := settled_told _ args call (by simp [emit]) owner before [] nofun
  simpa only [emit, List.append_nil] using settled

theorem newPending_called (s : Service) (view : View) (args : CheckArgs)
    (missing : s.cache[platform.spec (platform.cloudCheckUrl args.url)]? = none)
    (called : (s.newPending platform view args).waitingCloud = true) :
    s.newPending platform view args = { s.localPending platform view args with
        waitingCloud := true
        bridgeId := args.bridgeId } /\
      s.localDanger platform view args.url = false /\ s.usesCloud = true /\
      platform.isValid (platform.cloudCheckUrl args.url) = true := by
  have quiet : (s.localPending platform view args).waitingCloud = false := by
    unfold localPending checkLocal
    grind
  rw [newPending_eq, missing] at called
  rw [newPending_eq, missing, <- localPending_dangerous platform s view args]
  dsimp only at called ⊢
  split at called
  · next asks =>
    simp only [Bool.and_eq_true, Bool.not_eq_true'] at asks
    rw [if_pos (by simp [asks.1.1, asks.1.2, asks.2])]
    exact ⟨rfl, asks.1.1, asks.1.2, asks.2⟩
  · rw [quiet] at called
    cases called

theorem newPending_found (s : Service) (view : View) (args : CheckArgs) {cached : Cached}
    (held : s.cache[platform.spec (platform.cloudCheckUrl args.url)]? = some cached)
    (unexpired : view.laterTicks < cached.expires) (safe : s.localDanger platform view args.url = false)
    (uses : s.usesCloud = true) (valid : platform.isValid (platform.cloudCheckUrl args.url) = true) :
    (s.newPending platform view args).result = { cached.result with url := args.url } := by
  rw [newPending_eq, held]
  rw [<- localPending_dangerous platform s view args] at safe
  simp [safe, uses, valid, unexpired]

theorem onCloud_told_results (s : Service) (view : View) (args : CheckArgs) (reply : Reply) (call : Pending)
    (found : s.pending[args.token]? = some call) (owner : call.callback = args.callback)
    (silent : s.results args.callback = [])
    (known : s.cloudVerdict platform args.token s.revision reply call ≠ .unknown) :
    (s.onCloud platform view args.token s.revision reply).told args =
      [(mergeCloud call (cloudResult (s.cloudVerdict platform args.token s.revision reply call) call.url)).result] := by
  have settled (u : Service) (entry : Pending) (own : entry.callback = args.callback) (effects : u.effects = s.effects) :
      ((({ u with pending := s.pending.insert args.token entry } : Service).maybeComplete args.token).emit
        [.broadcast "urlProtectionStateChanged"]).told args = [entry.result] := by
    refine settled_told _ args entry (by simp) own ?_ _ (List.forall_mem_singleton.mpr rfl)
    rw [results]
    exact effects ▸ silent
  have same (cloud : Result) : (mergeCloud { call with waitingCloud := false, bridgeId := 0 } cloud).result =
      (mergeCloud call cloud).result := by
    unfold mergeCloud
    dsimp only
    split <;> rfl
  unfold onCloud
  simp only [found, ne_eq, not_true_eq_false, if_false, cloudResult_verdict]
  have verdict : s.cloudVerdict platform args.token s.revision reply { call with waitingCloud := false, bridgeId := 0 } =
      s.cloudVerdict platform args.token s.revision reply call := rfl
  rw [verdict, if_pos known, <- same]
  exact settled { s with
    cloudStatus := .available
    cloudReason := ""
    cache := storeCached s.cache (platform.spec call.checkedUrl)
      ⟨cloudResult (s.cloudVerdict platform args.token s.revision reply call) call.url,
        view.ticks + minutes (if (cloudResult (s.cloudVerdict platform args.token s.revision reply call)
          call.url).dangerous then 30 else 5)⟩ } _ ((mergeCloud_same _ _).1.trans owner) rfl

/-- The service as it would be without this entry of the cache. -/
def forgetting (s : Service) (url : GURL) : Service :=
  { s with cache := s.cache.erase (platform.spec (platform.cloudCheckUrl url)) }

theorem forgetting_inv (inv : s.Inv) (url : GURL) : (s.forgetting platform url).Inv :=
  ⟨inv.bounded, inv.waits, inv.registered, inv.requests, inv.bridges, inv.neutral⟩

variable {args : CheckArgs}

theorem forgetting_fresh (fresh : s.Fresh args) (url : GURL) :
    (s.forgetting platform url).Fresh args := ⟨fresh.token, fresh.posted, fresh.owed, fresh.bridge⟩

/-- A check that calls the bridge without the cached entry: its entry, and what its reply then leads to. -/
structure Asked (s : Service) (view : View) (args : CheckArgs) (t : Service) (entry : Pending) : Prop where
  asks : (s.forgetting platform args.url).check platform view args = (some args.token, t)
  waiting : t.pending[args.token]? = some entry
  called : entry.waitingCloud = true

theorem localDanger_congr (view : View) (url : GURL) (uses : t.usesLocal = s.usesLocal)
    (rules : s.usesLocal = true -> t.rules = s.rules) :
    t.localDanger platform view url = s.localDanger platform view url := by
  unfold localDanger
  rw [uses]
  cases local_ : s.usesLocal with
  | false => rfl
  | true => rw [rules local_]

theorem Asked.accepted {view : View} {entry : Pending}
    (asked : Asked platform s view args t entry) :
    ((s.forgetting platform args.url).check platform view args).1.isSome = true := by
  rw [asked.asks]
  rfl

theorem Asked.entry_eq {view : View} {entry : Pending}
    (asked : Asked platform s view args t entry) (waits : s.waits) (unused : s.pending[args.token]? = none) :
    entry = ((s.forgetting platform args.url).takesUp platform view args).newPending platform view args := by
  have taken : (s.forgetting platform args.url).check platform view args =
      (some args.token, (s.forgetting platform args.url).registerCheck platform view args) := by
    rcases check_cases platform (s.forgetting platform args.url) view args with ⟨result, outcome⟩ | ⟨-, outcome⟩
    · have accepted := asked.accepted platform
      rw [outcome] at accepted
      cases accepted
    · exact outcome
  have registered := registered_eq platform taken
  have is : t = (s.forgetting platform args.url).registerCheck platform view args :=
    (Prod.ext_iff.mp (asked.asks.symm.trans taken)).2
  have tells := takesUp_tells platform (s.forgetting platform args.url) view args waits
  have waiting := asked.waiting
  rw [is, registered] at waiting
  generalize (s.forgetting platform args.url).takesUp platform view args = u at tells waiting ⊢
  obtain ⟨held, -⟩ := maybeComplete_entry _ _ _ _ waiting
  have gone : u.pending[args.token]? = none := by
    by_contra present
    obtain ⟨old, found⟩ := Option.ne_none_iff_exists'.mp present
    obtain ⟨before, here, -⟩ := tells.kept args.token old found
    rw [show (s.forgetting platform args.url).pending[args.token]? = none from unused] at here
    cases here
  dsimp only [emit] at held
  rw [insertIfNew_fresh _ _ _ gone] at held
  simpa using held.symm

structure Asks (s : Service) (view : View) (args : CheckArgs) (entry : Pending) : Prop where
  url : entry.url = args.url
  callback : entry.callback = args.callback
  result : entry.result = if s.localUsable view
    then { verdict := .noMatch, source := "local", reason := "no_match", url := args.url }
    else unknownResult args.url "unavailable"
  site : s.isSiteEnabled platform args.url = true
  cloud : s.usesCloud = true
  valid : platform.isValid (platform.cloudCheckUrl args.url) = true
  safe : s.localDanger platform view args.url = false
  still : (s.check platform view args).1.isSome = true →
    (s.takesUp platform view args).localDanger platform view args.url = false
  room : (!s.enabled || !platform.isPublicHttpUrl args.url || args.timeout ≤ 0 || s.pending.size ≥ 128) = false

theorem checkLocal_url (s : Service) (view : View) (call : Pending) :
    (s.checkLocal platform view call).url = call.url := by
  unfold checkLocal
  grind

theorem localPending_url (s : Service) (view : View) (args : CheckArgs) :
    (s.localPending platform view args).url = args.url := by
  unfold localPending
  dsimp only
  split
  · exact checkLocal_url platform s view _
  · rfl

theorem Asked.asks_for {view : View} {entry : Pending}
    (asked : Asked platform s view args t entry) (waits : s.waits) (unused : s.pending[args.token]? = none) :
    Asks platform s view args entry := by
  have accepted := asked.accepted platform
  have is := asked.entry_eq platform waits unused
  have missing : ((s.forgetting platform args.url).takesUp platform view args).cache[
      platform.spec (platform.cloudCheckUrl args.url)]? = none := by
    rw [(takesUp_frame platform _ view args).2]
    simp [forgetting]
  have called := asked.called
  rw [is] at called
  obtain ⟨entryIs, still, cloud, valid⟩ := newPending_called platform _ view args missing called
  have uses := takesUp_usesLocal platform (s.forgetting platform args.url) view args
  have rules := takesUp_rules platform (s.forgetting platform args.url) view args
  rw [check_accepts] at accepted
  simp only [Bool.and_eq_true, Bool.not_eq_true'] at accepted
  obtain ⟨⟨site, quiet⟩, room⟩ := accepted
  rw [knownRisk_dangerous platform _ view args.url site, Bool.or_eq_false_iff] at quiet
  constructor
  · rw [is, entryIs]
    exact localPending_url platform _ view args
  · exact is ▸ (newPending_same platform _ view args).1
  · have usable : (((s.forgetting platform args.url).takesUp platform view args).usesLocal &&
        (((s.forgetting platform args.url).takesUp platform view args).rules.isUsable view.wall ||
          sourcesUsable view)) = s.localUsable view := by
      rw [uses]
      cases local_ : (s.forgetting platform args.url).usesLocal with
      | false =>
        have unused : s.usesLocal = false := local_
        simp [localUsable, unused]
      | true =>
        have used : s.usesLocal = true := local_
        rw [rules local_ (asked.accepted platform), localUsable, used]
        rfl
    rw [is, entryIs, <- usable]
    exact localPending_result platform _ view args still
  · exact site
  · exact (takesUp_frame platform (s.forgetting platform args.url) view args).1.symm.trans cloud
  · exact valid
  · exact quiet.1
  · intro taken
    refine (localDanger_congr platform view args.url ?_ fun used => ?_).trans still
    · exact (takesUp_usesLocal platform s view args).trans uses.symm
    · rw [uses] at used
      rw [takesUp_rules platform s view args used taken, rules used (asked.accepted platform)]
      rfl
  · exact room

/-- A check is answered from the cache as by the bridge exactly where the cached reply is a danger, or the local rules
have no answer of their own. -/
theorem cached_answer_iff (start s t : Service) (trace : List (Service × ServiceOp)) (view later : View)
    (args : CheckArgs) (cached : Cached) (entry : Pending) (reply : Reply) (initial : constructed platform start)
    (run : Trace (serviceStep platform) start trace s) (permitted : s.permitted (.check view args))
    (held : s.cache[platform.spec (platform.cloudCheckUrl args.url)]? = some cached)
    (clock : view.ticks ≤ view.laterTicks) (unexpired : view.laterTicks < cached.expires)
    (asked : Asked platform s view args t entry)
    (fills : t.cloudVerdict platform args.token t.revision reply entry = cached.result.verdict) :
    ((s.check platform view args).2.told args).map answer =
        ((t.onCloud platform later args.token t.revision reply).told args).map answer ↔
      cached.result.dangerous = true ∨ s.localUsable view = false := by
  have inv := run_inv platform run (constructed_inv platform start initial)
  have fresh : s.Fresh args := permitted.2
  have unused := fresh.unused inv
  obtain ⟨verdict, url, known, filled⟩ := run_filled platform initial run _ cached held
  have asks := asked.asks_for platform inv.waits unused
  rw [filled, cloudResult_verdict] at fills
  -- The bridge's reply.
  have follows := check_follows platform (s.forgetting platform args.url) view args args.token
    (forgetting_inv platform inv args.url) (forgetting_fresh platform fresh args.url) (by rw [asked.asks])
  rw [asked.asks] at follows
  have silent : t.results args.callback = [] := by
    rw [results_eq_nil, follows.posts, asked.waiting]
    rfl
  have replied := onCloud_told_results platform t later args reply entry asked.waiting asks.callback silent
    (by rw [fills]; exact known)
  rw [fills] at replied
  rw [replied]
  have cloudUrl : answer (cloudResult verdict entry.url) = answer cached.result := by
    rw [filled]
    exact cloudResult_answer verdict _ _
  have cloudDanger : (cloudResult verdict entry.url).dangerous = cached.result.dangerous := by
    rw [filled]
    cases verdict <;> rfl
  have risk := knownRisk_dangerous platform s view args.url asks.site
  rw [asks.safe, Bool.false_or, cachedUntil, asks.cloud, Bool.true_and, held] at risk
  have good : view.ticks < cached.expires := lt_of_le_of_lt clock unexpired
  have entrySafe : entry.result.dangerous = false := by
    rw [asks.result]
    split <;> rfl
  cases danger : cached.result.dangerous with
  | true =>
    -- `KnownRisk` finds it, and the reply is taken over whatever the local rules have to say.
    have knownIs : s.knownRisk platform view args.url = { cached.result with url := args.url } := by
      rw [knownRisk_cached platform s view args.url asks.site asks.safe, cachedRisk, asks.cloud, if_pos rfl, held]
      simp [good, danger]
    have refused : s.check platform view args =
        (none, s.emit [.postResult args.callback { cached.result with url := args.url }]) := by
      rw [check, asks.site, knownIs]
      simp [dangerous_elsewhere, danger]
    have here : (s.check platform view args).2.told args = [{ cached.result with url := args.url }] := by
      have gone : (s.emit [.postResult args.callback { cached.result with url := args.url }]).pending[args.token]? =
          none := unused
      rw [refused, told, timeout, gone]
      simp [results_emit, (results_eq_nil s args.callback).mpr fresh.posted, resultFor]
    have merged : (mergeCloud entry (cloudResult verdict entry.url)).result = cloudResult verdict entry.url := by
      rw [mergeCloud, entrySafe, cloudDanger, danger]
      rfl
    rw [here, merged, List.map_singleton, List.map_singleton, cloudUrl]
    exact iff_of_true rfl (.inl rfl)
  | false =>
    have quiet : (s.knownRisk platform view args.url).dangerous = false := by simpa [danger] using risk
    have accepted : (s.check platform view args).1.isSome = true := by
      rw [check_accepts, asks.site, quiet, asks.room]
      rfl
    obtain ⟨cloud, cache⟩ := takesUp_frame platform s view args
    have here := accepted_told_results platform s view args inv.waits fresh unused accepted
    rw [newPending_found platform _ view args (cache ▸ held) unexpired (asks.still accepted)
      (cloud.trans asks.cloud) asks.valid] at here
    have source : cached.result.source = "huawei" := by
      rw [filled]
      exact cloudResult_source verdict url
    rw [here, List.map_singleton, List.map_singleton]
    have is := asks.result
    cases usable : s.localUsable view with
    | true =>
      -- The local answer stands against the reply, but not against the cache.
      rw [usable, if_pos rfl] at is
      have stands : (mergeCloud entry (cloudResult verdict entry.url)).result = entry.result := by
        simp [mergeCloud, cloudDanger, danger, is]
      refine iff_of_false (fun same => ?_) (by simp)
      rw [stands, is] at same
      have sources : cached.result.source = "local" :=
        (Prod.ext_iff.mp (Prod.ext_iff.mp (List.singleton_inj.mp same)).2).1
      rw [source] at sources
      exact absurd sources (by decide)
    | false =>
      rw [usable, if_neg Bool.false_ne_true] at is
      have replaced : (mergeCloud entry (cloudResult verdict entry.url)).result = cloudResult verdict entry.url := by
        rw [mergeCloud, entrySafe, cloudDanger, danger, is]
        rfl
      rw [replaced, cloudUrl]
      exact iff_of_true rfl (.inr rfl)

def otherCached : Cached := ⟨cloudResult .other ⟨"https://example.com/"⟩, minutes 5⟩

-- The first check has filled the cache.
def firstOps (provider : String) : List ServiceOp :=
  [.configure bothView (enabling provider), .notified, .check bothView (exampleCheck "token" 1 7),
    .onCloud bothView "token" 2 (exampleReply "token" "other")]

def answeredOnce (provider : String) : Service := (firstOps provider).foldl (next counterPlatform) (newService bothView)

def askedAgain (provider : String) : Service :=
  (((answeredOnce provider).forgetting counterPlatform ⟨"https://example.com/"⟩).check counterPlatform bothView
    (exampleCheck "second" 2 8)).2

def waitingEntry (result : Result) : Pending where
  url := ⟨"https://example.com/"⟩
  checkedUrl := ⟨"https://example.com/"⟩
  callback := 2
  result := result
  waitingCloud := true
  bridgeId := 8
  deadline := kBudget

def noLocalMatch : Result where
  verdict := .noMatch
  source := "local"
  reason := "no_match"
  url := ⟨"https://example.com/"⟩

-- Only the cloud is in use, and the cache answers as the bridge did.
theorem cached_answer_huawei :
    (((answeredOnce "huawei").check counterPlatform bothView (exampleCheck "second" 2 8)).2.told
        (exampleCheck "second" 2 8)).map answer =
      (((askedAgain "huawei").onCloud counterPlatform bothView "second" (askedAgain "huawei").revision
        (exampleReply "second" "other")).told (exampleCheck "second" 2 8)).map answer := by
  have follows : Transition.Follows permitted (next counterPlatform) (newService bothView) (firstOps "huawei") := by
    decide
  obtain ⟨trace, run, -⟩ := follows.trace
  exact (cached_answer_iff counterPlatform _ (answeredOnce "huawei") (askedAgain "huawei") trace bothView bothView
    (exampleCheck "second" 2 8) otherCached (waitingEntry (unknownResult ⟨"https://example.com/"⟩ "unavailable"))
    (exampleReply "second" "other") ⟨bothView, [], false, "context", rfl⟩ run (by decide +kernel) (by decide +kernel)
    (by decide) (by decide) ⟨Prod.ext (by decide +kernel) rfl, by decide +kernel, rfl⟩ (by decide +kernel)).mpr
      (.inr (by decide +kernel))

-- With usable local rules the cached `other` takes the place of their answer.
theorem cached_answer_differs :
    ¬ ∀ (platform : Platform) (start s t : Service) (trace : List (Service × ServiceOp)) (view later : View)
      (args : CheckArgs) (cached : Cached) (entry : Pending) (reply : Reply), constructed platform start →
      Trace (serviceStep platform) start trace s → s.permitted (.check view args) →
      s.cache[platform.spec (platform.cloudCheckUrl args.url)]? = some cached → view.ticks ≤ view.laterTicks →
      view.laterTicks < cached.expires → Asked platform s view args t entry →
      t.cloudVerdict platform args.token t.revision reply entry = cached.result.verdict →
      ((s.check platform view args).2.told args).map answer =
        ((t.onCloud platform later args.token t.revision reply).told args).map answer := by
  intro every
  have follows : Transition.Follows permitted (next counterPlatform) (newService bothView) (firstOps "both") := by
    decide
  obtain ⟨trace, run, -⟩ := follows.trace
  have same := every counterPlatform _ (answeredOnce "both") (askedAgain "both") trace bothView bothView
    (exampleCheck "second" 2 8) otherCached (waitingEntry noLocalMatch) (exampleReply "second" "other") ⟨bothView, [], false, "context", rfl⟩ run
    (by decide +kernel) (by decide +kernel) (by decide) (by decide)
    ⟨Prod.ext (by decide +kernel) rfl, by decide +kernel, rfl⟩ (by decide +kernel)
  exact absurd same (by decide +kernel)

end Service

end ChromiumHmos.UrlProtection
