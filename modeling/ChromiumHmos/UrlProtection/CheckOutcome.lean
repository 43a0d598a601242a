import ChromiumHmos.UrlProtection.ServiceCompletion
import ChromiumHmos.UrlProtection.ServiceFrame

set_option autoImplicit false

/-!
# What one check is told

An operation may have an outcome for an entry that waits, from the local rules or from the
cloud. `Tells` says that a dangerous outcome is posted with the operation that has it, and
that nothing else is ever posted as dangerous.
-/

namespace ChromiumHmos.UrlProtection

open Base OrderedMap Transition

namespace Service

variable (platform : Platform)

/-- A subscription or the rules know the URL. -/
def localDanger (s : Service) (view : View) (url : GURL) : Bool :=
  s.usesLocal &&
    ((match view.sources with
      | some sources => (sources.matchUrl url).dangerous
      | none => false) || s.rules.matchesUrl platform url view.wall)

/-- The rules that `OnRules` takes over know the URL. -/
def ruleDanger (s : Service) (view : View) (url : GURL) : Bool :=
  match view.updater with
  | none => false
  | some rules =>
    rules.status ≠ .loading &&
      ({ s with rules := rules, loading := rules.status == .loading } : Service).localDanger platform view url

/-- The reply is taken, and is a dangerous one. -/
def cloudDanger (s : Service) (id : String) (revision : Int) (reply : Reply) (call : Pending) : Bool :=
  decide (revision = s.revision) && (cloudResult (s.cloudVerdict platform id revision reply call) call.url).dangerous

-- `Check` takes the local rules up, and `OnRules` runs before it goes on.
def rulesRun (s : Service) (view : View) (args : CheckArgs) : Bool :=
  (s.check platform view args).1.isSome && s.usesLocal && !s.rulesAcquired && view.updaterNotifies

def takesUp (s : Service) (view : View) (args : CheckArgs) : Service :=
  if (s.check platform view args).1.isSome && s.usesLocal then s.ensureRules platform view else s

/-- The cache has a dangerous result that is good at this time. -/
def cachedUntil (s : Service) (url : GURL) (now : TimeTicks) : Bool :=
  s.usesCloud &&
    match s.cache[platform.spec (platform.cloudCheckUrl url)]? with
    | some cached => cached.expires > now && cached.result.dangerous
    | none => false

def cachedDanger (s : Service) (view : View) (args : CheckArgs) : Bool :=
  s.cachedUntil platform args.url view.ticks ||
    (s.check platform view args).1.isSome && platform.isValid (platform.cloudCheckUrl args.url) &&
      s.cachedUntil platform args.url view.laterTicks

/-- What `Check` finds by itself, before and after it has taken the local rules up. -/
def checkDanger (s : Service) (view : View) (args : CheckArgs) : Bool :=
  s.isSiteEnabled platform args.url &&
    (s.localDanger platform view args.url || (s.takesUp platform view args).localDanger platform view args.url ||
      s.cachedDanger platform view args)

def entryDanger (s : Service) (op : ServiceOp) (id : String) (call : Pending) : Bool :=
  match op with
  | .check view args => s.rulesRun platform view args && s.ruleDanger platform view call.url
  | .onRules view => s.ruleDanger platform view call.url
  | .onCloud _ target revision reply => decide (target = id) && s.cloudDanger platform id revision reply call
  | _ => false

/-- What the operation says of the check with this callback. -/
def outcome (s : Service) (op : ServiceOp) (callback : Nat) (danger : Bool) : Prop :=
  (∃ (id : String) (call : Pending), s.pending[id]? = some call ∧ call.callback = callback ∧
    danger = s.entryDanger platform op id call) ∨
  ∃ view args, op = .check view args ∧ args.callback = callback ∧ danger = s.checkDanger platform view args

theorem unknownResult_dangerous (url : GURL) (reason : String) : (unknownResult url reason).dangerous = false := rfl

theorem phishing_dangerous (source reason : String) (url : GURL) :
    ({ verdict := .phishing, source := source, reason := reason, url := url } : Result).dangerous = true := rfl

theorem dangerous_elsewhere (result : Result) (url : GURL) :
    ({ result with url := url } : Result).dangerous = result.dangerous := rfl

theorem takesUp_frame (s : Service) (view : View) (args : CheckArgs) :
    (s.takesUp platform view args).usesCloud = s.usesCloud /\ (s.takesUp platform view args).cache = s.cache := by
  unfold takesUp
  obtain ⟨acquired, rules, loading, pending, sent, same, -⟩ := ensureRules_frame platform s view
  split
  · rw [same]
    exact ⟨rfl, rfl⟩
  · exact ⟨rfl, rfl⟩

/-- What is posted between the two, and for which entries nothing dangerous has come. -/
structure Tells (danger : String → Pending → Bool) (s t : Service) : Prop where
  posts : ∀ callback result, .postResult callback result ∈ t.effects → .postResult callback result ∈ s.effects ∨
    ∃ (id : String) (call : Pending), s.pending[id]? = some call ∧ call.callback = callback ∧
      result.dangerous = danger id call
  kept : ∀ (id : String) (call : Pending), t.pending[id]? = some call → ∃ old : Pending,
    s.pending[id]? = some old ∧ call.callback = old.callback ∧ danger id old = false

def calm (_ : String) (_ : Pending) : Bool := false

variable {s t : Service}

variable {danger : String → Pending → Bool}

theorem Tells.of_same (pending : t.pending = s.pending)
    (effects : t.effects = s.effects) (calm : ∀ id call, danger id call = false) : Tells danger s t where
  posts := fun _ _ posted => .inl (effects ▸ posted)
  kept := fun id call found => ⟨call, pending ▸ found, rfl, calm id call⟩

theorem Tells.emit (tells : Tells danger s t)
    {sent : List Effect} (neutral : ∀ effect ∈ sent, effect.neutral = true) : Tells danger s (t.emit sent) where
  posts := by
    intro callback result posted
    rcases List.mem_append.mp posted with before | added
    · exact tells.posts callback result before
    · cases neutral _ added
  kept := tells.kept

theorem checkLocal_dangerous (s : Service) (view : View) (call : Pending) :
    (s.checkLocal platform view call).result.dangerous =
      (call.result.dangerous || s.localDanger platform view call.url) := by
  unfold checkLocal localDanger
  cases s.usesLocal with
  | false => simp
  | true =>
    cases view.sources with
    | none =>
      dsimp only
      cases s.rules.matchesUrl platform call.url view.wall <;>
        cases dangerous : call.result.dangerous <;>
          cases s.rules.isUsable view.wall <;>
            simp_all [Result.dangerous]
    | some sources =>
      dsimp only
      cases subscribed : (sources.matchUrl call.url).dangerous <;>
        cases s.rules.matchesUrl platform call.url view.wall <;>
          cases dangerous : call.result.dangerous <;>
            cases s.rules.isUsable view.wall <;> cases sources.usable <;>
              simp_all [Result.dangerous]

theorem foldl_maybeComplete_posts (s : Service) (ids : List String) (callback : Nat) (result : Result)
    (posted : .postResult callback result ∈ (ids.foldl maybeComplete s).effects) :
    .postResult callback result ∈ s.effects \/ ∃ id ∈ ids, ∃ call : Pending,
      s.pending[id]? = some call /\ call.callback = callback /\ call.result = result := by
  induction ids generalizing s with
  | nil => exact .inl posted
  | cons id rest ih =>
    rcases ih (s.maybeComplete id) posted with before | ⟨other, mem, call, found, same, is⟩
    · unfold maybeComplete at before
      cases present : s.pending[id]? with
      | none =>
        simp only [present] at before
        exact .inl before
      | some call =>
        simp only [present] at before
        split at before
        · exact .inl before
        · rcases List.mem_append.mp before with old | sent
          · exact .inl old
          · refine .inr ⟨id, List.mem_cons_self, call, present, ?_⟩
            simp only [completion, List.mem_append, List.mem_singleton, Effect.postResult.injEq] at sent
            rcases sent with early | ⟨same, is⟩
            · split at early <;> simp at early
            · exact ⟨same.symm, is.symm⟩
    · exact .inr ⟨other, List.mem_cons_of_mem _ mem, call, (maybeComplete_entry s id other call found).1, same, is⟩

theorem maybeComplete_posts (s : Service) (id : String) (callback : Nat) (result : Result)
    (posted : .postResult callback result ∈ (s.maybeComplete id).effects) :
    .postResult callback result ∈ s.effects \/ ∃ call : Pending,
      s.pending[id]? = some call /\ call.callback = callback /\ call.result = result := by
  rcases foldl_maybeComplete_posts s [id] callback result posted with before | ⟨other, mem, found⟩
  · exact .inl before
  · exact .inr (List.mem_singleton.mp mem ▸ found)

theorem onRules_tells (s : Service) (view : View) (waits : s.waits) :
    Tells (fun _ call => s.ruleDanger platform view call.url) s (s.onRules platform view) := by
  unfold onRules ruleDanger
  cases view.updater with
  | none => exact .of_same rfl rfl fun _ _ => rfl
  | some rules =>
    dsimp only
    split
    · next listens =>
      simp only [Bool.and_eq_true, Bool.not_eq_true'] at listens
      have loaded : rules.status ≠ .loading := by
        intro loading
        simp [loading] at listens
      refine .emit ⟨fun callback result posted => ?_, fun id call found => ?_⟩
        (List.forall_mem_singleton.mpr rfl)
      · rcases foldl_maybeComplete_posts _ _ callback result posted with
          before | ⟨id, -, call, mapped, same, is⟩
        · exact .inl before
        · rw [Std.ExtTreeMap.getElem?_map, Option.map_eq_some_iff] at mapped
          obtain ⟨old, present, rfl⟩ := mapped
          have own := (checkLocal_same platform { s with rules := rules, loading := rules.status == .loading } view
            { old with waitingLocal := sourcesWaiting view }).1
          refine .inr ⟨id, old, present, own.symm.trans same, ?_⟩
          rw [<- is, checkLocal_dangerous]
          simp [(waits id old present).1, loaded]
      · obtain ⟨mapped, completed⟩ := foldl_maybeComplete_entry _ _ id call found
        rw [Std.ExtTreeMap.getElem?_map, Option.map_eq_some_iff] at mapped
        obtain ⟨old, present, rfl⟩ := mapped
        refine ⟨old, present, (checkLocal_same platform _ view _).1, ?_⟩
        have mem : id ∈ s.pending.keys := by
          rw [Std.ExtTreeMap.mem_keys, Std.ExtTreeMap.mem_iff_isSome_getElem?, present]
          rfl
        have opened := (completed mem).1
        rw [checkLocal_dangerous, Bool.or_eq_false_iff] at opened
        simpa using fun _ => opened.2
    · next quiet =>
      have silent (url : GURL) : (decide (rules.status ≠ .loading) &&
          ({ s with rules := rules, loading := rules.status == .loading } : Service).localDanger platform view url) =
            false := by
        by_contra danger
        simp only [Bool.not_eq_false, Bool.and_eq_true, decide_eq_true_eq, localDanger] at danger
        refine quiet (by simpa [danger.2.1] using danger.1)
      have same : Tells (fun _ call => decide (rules.status ≠ .loading) &&
          ({ s with rules := rules, loading := rules.status == .loading } : Service).localDanger platform view call.url)
          s { s with rules := rules, loading := rules.status == .loading } :=
        .of_same rfl rfl fun _ call => silent call.url
      exact same.emit (List.forall_mem_singleton.mpr rfl)

theorem ensureRules_tells (s : Service) (view : View) (waits : s.waits) :
    Tells (fun _ call => !s.rulesAcquired && view.updaterNotifies && s.ruleDanger platform view call.url) s
      (s.ensureRules platform view) := by
  unfold ensureRules
  split
  · next quiet =>
    refine .of_same rfl rfl fun _ call => ?_
    simp only [Bool.or_eq_true, Option.isNone_iff_eq_none] at quiet
    rcases quiet with gone | acquired
    · simp [ruleDanger, gone]
    · simp [acquired]
  · next takes =>
    have fresh : s.rulesAcquired = false := by
      simp only [Bool.or_eq_true, not_or, Bool.not_eq_true] at takes
      exact takes.2
    have ran : Tells (fun _ call => !s.rulesAcquired && view.updaterNotifies && s.ruleDanger platform view call.url) s
        (if view.updaterNotifies then
          (({ s with rulesAcquired := true } : Service).emit [.acquireUpdater]).onRules platform view
        else ({ s with rulesAcquired := true } : Service).emit [.acquireUpdater]) := by
      split
      · next notifies =>
        have heard := onRules_tells platform
          (({ s with rulesAcquired := true } : Service).emit [.acquireUpdater]) view waits
        simp only [fresh, notifies, Bool.not_false, Bool.true_and]
        refine ⟨fun callback result posted => ?_, heard.kept⟩
        rcases heard.posts callback result posted with before | told
        · exact .inl (by simpa [emit] using before)
        · exact .inr told
      · next silent =>
        have acquired : Tells (fun _ call => !s.rulesAcquired && view.updaterNotifies &&
            s.ruleDanger platform view call.url) s { s with rulesAcquired := true } :=
          .of_same rfl rfl fun _ _ => by simp [silent]
        exact acquired.emit (List.forall_mem_singleton.mpr rfl)
    dsimp only
    split
    · exact ran.emit (List.forall_mem_singleton.mpr rfl)
    · exact ran

-- What `KnownRisk` makes of the cache.
def cachedRisk (s : Service) (view : View) (url : GURL) : Result :=
  match (if s.usesCloud then s.cache[platform.spec (platform.cloudCheckUrl url)]? else none) with
  | some found =>
    if found.expires > view.ticks && found.result.dangerous then { found.result with url := url }
    else unknownResult url "not_checked"
  | none => unknownResult url "not_checked"

theorem cachedRisk_dangerous (s : Service) (view : View) (url : GURL) :
    (s.cachedRisk platform view url).dangerous = s.cachedUntil platform url view.ticks := by
  unfold cachedRisk cachedUntil
  cases s.usesCloud with
  | false => rfl
  | true =>
    cases s.cache[platform.spec (platform.cloudCheckUrl url)]? with
    | none => rfl
    | some found =>
      simp only [if_true, Bool.true_and]
      split
      · next danger =>
        rw [dangerous_elsewhere, danger]
        exact (Bool.and_eq_true_iff.mp danger).2
      · next safe =>
        rw [unknownResult_dangerous]
        exact (Bool.not_eq_true _ ▸ safe).symm

theorem knownRisk_eq (s : Service) (view : View) (url : GURL) (enabled : s.isSiteEnabled platform url = true) :
    s.knownRisk platform view url =
      (let subscription := match view.sources with
        | some sources => if s.usesLocal then sources.matchUrl url else {}
        | none => {}
      if subscription.dangerous then subscription
      else if s.usesLocal && s.rules.matchesUrl platform url view.wall then
        { verdict := .phishing, source := "local", reason := "matched", url := url }
      else s.cachedRisk platform view url) := by
  unfold knownRisk
  rw [enabled]
  rfl

theorem knownRisk_cached (s : Service) (view : View) (url : GURL) (enabled : s.isSiteEnabled platform url = true)
    (safe : s.localDanger platform view url = false) :
    s.knownRisk platform view url = s.cachedRisk platform view url := by
  rw [knownRisk_eq platform s view url enabled]
  unfold localDanger at safe
  cases uses : s.usesLocal with
  | false => cases view.sources <;> simp
  | true =>
    rw [uses, Bool.true_and, Bool.or_eq_false_iff] at safe
    obtain ⟨subscribed, missing⟩ := safe
    cases held : view.sources with
    | none => simp [missing]
    | some sources =>
      rw [held] at subscribed
      have clear : (sources.matchUrl url).dangerous = false := subscribed
      simp [missing, clear]

theorem knownRisk_dangerous (s : Service) (view : View) (url : GURL)
    (enabled : s.isSiteEnabled platform url = true) :
    (s.knownRisk platform view url).dangerous =
      (s.localDanger platform view url || s.cachedUntil platform url view.ticks) := by
  rw [knownRisk_eq platform s view url enabled, <- cachedRisk_dangerous]
  unfold localDanger
  cases s.usesLocal with
  | false => cases view.sources <;> simp
  | true =>
    cases view.sources with
    | none =>
      cases s.rules.matchesUrl platform url view.wall <;> simp [phishing_dangerous]
    | some sources =>
      cases subscribed : (sources.matchUrl url).dangerous <;>
        cases s.rules.matchesUrl platform url view.wall <;> simp [subscribed, phishing_dangerous]

def localPending (s : Service) (view : View) (args : CheckArgs) : Pending :=
  let call : Pending :=
    { url := args.url
      callback := args.callback
      result := unknownResult args.url "unavailable"
      deadline := view.laterTicks + min args.timeout kBudget }
  let call :=
    if s.usesLocal then
      s.checkLocal platform view { call with waitingLocal := s.loading || sourcesWaiting view }
    else call
  { call with checkedUrl := platform.cloudCheckUrl args.url }

theorem localPending_dangerous (s : Service) (view : View) (args : CheckArgs) :
    (s.localPending platform view args).result.dangerous = s.localDanger platform view args.url := by
  unfold localPending
  dsimp only
  split
  · rw [checkLocal_dangerous, unknownResult_dangerous, Bool.false_or]
  next unused => simp [localDanger, unused, unknownResult_dangerous]

theorem newPending_eq (s : Service) (view : View) (args : CheckArgs) :
    s.newPending platform view args =
      (let call := s.localPending platform view args
      if !call.result.dangerous && s.usesCloud && platform.isValid (platform.cloudCheckUrl args.url) then
        match s.cache[platform.spec (platform.cloudCheckUrl args.url)]? with
        | some cached =>
          if cached.expires > view.laterTicks then
            { call with result := { cached.result with url := args.url } }
          else { call with waitingCloud := true, bridgeId := args.bridgeId }
        | none => { call with waitingCloud := true, bridgeId := args.bridgeId }
      else call) := rfl

theorem newPending_dangerous (s : Service) (view : View) (args : CheckArgs) :
    (s.newPending platform view args).result.dangerous = (s.localDanger platform view args.url ||
      platform.isValid (platform.cloudCheckUrl args.url) && s.cachedUntil platform args.url view.laterTicks) := by
  rw [newPending_eq, <- localPending_dangerous]
  unfold cachedUntil
  generalize s.localPending platform view args = call
  dsimp only
  cases safe : call.result.dangerous with
  | true => simp [safe]
  | false =>
    cases platform.isValid (platform.cloudCheckUrl args.url) with
    | false => simp [safe]
    | true =>
      cases s.usesCloud with
      | false => simp [safe]
      | true =>
        cases s.cache[platform.spec (platform.cloudCheckUrl args.url)]? with
        | none => simp [safe]
        | some cached =>
          by_cases good : cached.expires > view.laterTicks
          · simp [good, dangerous_elsewhere]
          · simp [good, safe]

/-- What an operation posts, and for which entries nothing dangerous has come with it. -/
structure Told (s : Service) (op : ServiceOp) (t : Service) : Prop where
  posts : ∀ callback result, .postResult callback result ∈ t.effects → .postResult callback result ∈ s.effects ∨
    s.outcome platform op callback result.dangerous
  kept : ∀ (id : String) (call : Pending), t.pending[id]? = some call → s.outcome platform op call.callback false

variable {op : ServiceOp}

theorem Tells.told (tells : Tells danger s t)
    (same : ∀ (id : String) (call : Pending), s.pending[id]? = some call ->
      danger id call = s.entryDanger platform op id call) : Told platform s op t where
  posts := by
    intro callback result posted
    rcases tells.posts callback result posted with before | ⟨id, call, found, owner, is⟩
    · exact .inl before
    · exact .inr (.inl ⟨id, call, found, owner, is.trans (same id call found)⟩)
  kept := by
    intro id call found
    obtain ⟨old, here, callback, calm⟩ := tells.kept id call found
    exact .inl ⟨id, old, here, callback.symm, calm.symm.trans (same id old here)⟩

theorem takesUp_tells (s : Service) (view : View) (args : CheckArgs) (waits : s.waits) :
    Tells (fun _ call => s.rulesRun platform view args && s.ruleDanger platform view call.url) s
      (s.takesUp platform view args) := by
  unfold takesUp rulesRun
  split
  · next takes =>
    rw [takes, Bool.true_and]
    exact ensureRules_tells platform s view waits
  · next quiet =>
    refine .of_same rfl rfl fun _ _ => ?_
    rw [Bool.not_eq_true] at quiet
    simp [quiet]

theorem refused_told (s : Service) (view : View) (args : CheckArgs) (result : Result)
    (refused : s.check platform view args = (none, s.emit [.postResult args.callback result]))
    (is : result.dangerous = s.checkDanger platform view args) :
    Told platform s (.check view args) (s.check platform view args).2 := by
  have quiet (call : Pending) : (s.rulesRun platform view args && s.ruleDanger platform view call.url) = false := by
    simp [rulesRun, refused]
  rw [refused]
  refine ⟨fun callback posted mem => ?_, fun id call found => ?_⟩
  · rcases List.mem_append.mp mem with before | now
    · exact .inl before
    · obtain ⟨rfl, rfl⟩ := Effect.postResult.inj (List.mem_singleton.mp now)
      exact .inr (.inr ⟨view, args, rfl, rfl, is⟩)
  · exact .inl ⟨id, call, found, rfl, (quiet call).symm⟩

theorem takesUp_accepted {view : View} {args : CheckArgs}
    (accepted : s.check platform view args = (some args.token, s.registerCheck platform view args)) :
    s.takesUp platform view args = if s.usesLocal then s.ensureRules platform view else s := by
  simp [takesUp, accepted]

theorem registered_eq {view : View} {args : CheckArgs}
    (accepted : s.check platform view args = (some args.token, s.registerCheck platform view args)) :
    s.registerCheck platform view args =
      (let u := s.takesUp platform view args
      let call := u.newPending platform view args
      (({ u with pending := u.pending.insertIfNew args.token call } : Service).emit
        (requested u.identity args call.waitingCloud (platform.spec call.checkedUrl) (min args.timeout kBudget))).maybeComplete
          args.token) := by
  rw [takesUp_accepted platform accepted]
  rfl

theorem accepted_told (s : Service) (view : View) (args : CheckArgs) (waits : s.waits)
    (unused : s.pending[args.token]? = none)
    (accepted : s.check platform view args = (some args.token, s.registerCheck platform view args))
    (is : ((s.takesUp platform view args).newPending platform view args).result.dangerous =
      s.checkDanger platform view args) :
    Told platform s (.check view args) (s.check platform view args).2 := by
  have tells := takesUp_tells platform s view args waits
  rw [accepted, registered_eq platform accepted]
  generalize s.takesUp platform view args = u at tells is ⊢
  have callback := (newPending_same platform u view args).1
  dsimp only
  generalize u.newPending platform view args = call at is callback ⊢
  have silent : ∀ callback result, .postResult callback result ∉ requested u.identity args call.waitingCloud
      (platform.spec call.checkedUrl) (min args.timeout kBudget) := by
    intro callback result
    cases call.waitingCloud <;> simp [requested]
  generalize requested u.identity args call.waitingCloud (platform.spec call.checkedUrl) (min args.timeout kBudget) = sent
    at silent ⊢
  have fresh : u.pending[args.token]? = none := by
    by_contra present
    obtain ⟨entry, found⟩ := Option.ne_none_iff_exists'.mp present
    obtain ⟨old, here, -⟩ := tells.kept args.token entry found
    rw [unused] at here
    cases here
  rw [insertIfNew_fresh _ _ _ fresh]
  refine ⟨fun target result posted => ?_, fun id entry found => ?_⟩
  · rcases maybeComplete_posts _ _ target result posted with before | ⟨entry, found, owner, rfl⟩
    · rcases List.mem_append.mp before with before | now
      · rcases tells.posts target result before with before | ⟨id, old, here, owner, danger⟩
        · exact .inl before
        · exact .inr (.inl ⟨id, old, here, owner, danger⟩)
      · exact absurd now (silent target result)
    · have own : call = entry := by simpa [emit] using found
      subst own
      exact .inr (.inr ⟨view, args, rfl, callback.symm.trans owner, is⟩)
  · obtain ⟨before, opened⟩ := maybeComplete_entry _ _ _ _ found
    rcases (getElem?_insert_some _ _ _ _ _).mp before with ⟨rfl, rfl⟩ | ⟨-, there⟩
    · exact .inr ⟨view, args, rfl, callback.symm, (opened rfl).1.symm.trans is⟩
    · obtain ⟨old, here, same, calm⟩ := tells.kept id entry there
      exact .inl ⟨id, old, here, same.symm, calm.symm⟩

theorem check_told (s : Service) (view : View) (args : CheckArgs) (waits : s.waits)
    (unused : s.pending[args.token]? = none) :
    Told platform s (.check view args) (s.check platform view args).2 := by
  by_cases site : s.isSiteEnabled platform args.url = true
  case neg =>
    refine refused_told platform s view args (unknownResult args.url "site_disabled") ?_ ?_
    · simp [check, site]
    · simp [checkDanger, site, unknownResult_dangerous]
  have known := knownRisk_dangerous platform s view args.url site
  cases danger : (s.knownRisk platform view args.url).dangerous with
  | true =>
    refine refused_told platform s view args (s.knownRisk platform view args.url) (by simp [check, site, danger]) ?_
    rw [danger] at known ⊢
    simp only [checkDanger, cachedDanger, site, Bool.true_and]
    rcases Bool.or_eq_true_iff.mp known.symm with here | cached
    · simp [here]
    · simp [cached]
  | false =>
    rw [danger] at known
    obtain ⟨here, cached⟩ := Bool.or_eq_false_iff.mp known.symm
    by_cases turned : (!s.enabled || !platform.isPublicHttpUrl args.url || args.timeout <= 0 ||
        s.pending.size ≥ 128) = true
    · have refused : s.check platform view args =
          (none, s.emit [.postResult args.callback (unknownResult args.url "not_checked")]) := by
        simp only [check, site, Bool.not_true, Bool.false_eq_true, if_false, danger]
        exact if_pos turned
      refine refused_told platform s view args _ refused ?_
      simp [checkDanger, cachedDanger, takesUp, refused, here, cached, unknownResult_dangerous]
    · have accepted : s.check platform view args = (some args.token, s.registerCheck platform view args) := by
        simp only [check, site, Bool.not_true, Bool.false_eq_true, if_false, danger]
        exact if_neg turned
      refine accepted_told platform s view args waits unused accepted ?_
      obtain ⟨cloud, kept⟩ := takesUp_frame platform s view args
      have same : (s.takesUp platform view args).cachedUntil platform args.url view.laterTicks =
          s.cachedUntil platform args.url view.laterTicks := by
        simp only [cachedUntil, cloud, kept]
      rw [newPending_dangerous, same]
      simp [checkDanger, cachedDanger, accepted, site, here, cached]

theorem update_tells (s : Service) (id : String) (old call : Pending) (found : s.pending[id]? = some old)
    (callback : call.callback = old.callback) :
    Tells (fun other _ => decide (other = id) && call.result.dangerous) s
      (({ s with pending := s.pending.insert id call } : Service).maybeComplete id) where
  posts := by
    intro target result posted
    rcases maybeComplete_posts _ _ target result posted with before | ⟨entry, found', owner, rfl⟩
    · exact .inl before
    · have own : call = entry := by simpa using found'
      subst own
      exact .inr ⟨id, old, found, callback.symm.trans owner, by simp⟩
  kept := by
    intro other entry present
    obtain ⟨before, opened⟩ := maybeComplete_entry _ _ _ _ present
    rcases (getElem?_insert_some _ _ _ _ _).mp before with ⟨rfl, rfl⟩ | ⟨apart, there⟩
    · exact ⟨old, found, callback, by simp [(opened rfl).1]⟩
    · exact ⟨entry, there, rfl, by simp [apart]⟩

theorem mergeCloud_dangerous (call : Pending) (cloud : Result) (safe : call.result.dangerous = false) :
    (mergeCloud call cloud).result.dangerous = cloud.dangerous := by
  unfold mergeCloud
  cases danger : cloud.dangerous <;> cases unknown : call.result.verdict <;> simp [safe, danger]

theorem cloudResult_verdict (verdict : Verdict) (url : GURL) : (cloudResult verdict url).verdict = verdict := by
  cases verdict <;> rfl

theorem cloudResult_unknown (url : GURL) : (cloudResult .unknown url).dangerous = false := rfl

theorem onCloud_told (s : Service) (view : View) (id : String) (revision : Int) (reply : Reply) (waits : s.waits) :
    Told platform s (.onCloud view id revision reply) (s.onCloud platform view id revision reply) := by
  by_cases stale : revision ≠ s.revision \/ s.pending[id]? = none
  · rw [onCloud_stale platform s view id revision reply stale]
    have same : Tells calm s s := .of_same rfl rfl fun _ _ => rfl
    refine same.told platform fun other call found => ?_
    rcases stale with older | missing
    · simp [calm, entryDanger, cloudDanger, older]
    · have apart : id ≠ other := by
        rintro rfl
        rw [missing] at found
        cases found
      simp [calm, entryDanger, apart]
  · simp only [not_or, ne_eq, not_not] at stale
    obtain ⟨rfl, present⟩ := stale
    obtain ⟨call, found⟩ := Option.ne_none_iff_exists'.mp present
    have safe := (waits id call found).1
    have answered (u : Service) (entry : Pending) (pending : u.pending = s.pending) (effects : u.effects = s.effects)
        (callback : entry.callback = call.callback)
        (is : entry.result.dangerous = s.cloudDanger platform id s.revision reply call) :
        Told platform s (.onCloud view id s.revision reply)
          ((({ u with pending := s.pending.insert id entry } : Service).maybeComplete id).emit
            [.broadcast "urlProtectionStateChanged"]) := by
      have tells := update_tells u id call entry (pending ▸ found) callback
      rw [pending] at tells
      have shifted : Tells (fun other _ => decide (other = id) && entry.result.dangerous) s
          (({ u with pending := s.pending.insert id entry } : Service).maybeComplete id) :=
        ⟨fun target result posted => by simpa only [pending, effects] using tells.posts target result posted,
          fun other held there => by simpa only [pending] using tells.kept other held there⟩
      refine (shifted.emit (List.forall_mem_singleton.mpr rfl)).told platform fun other old here => ?_
      by_cases same : other = id
      · subst same
        obtain rfl : old = call := Option.some.inj (here.symm.trans found)
        simp [entryDanger, is]
      · simp [entryDanger, same, Ne.symm same]
    unfold onCloud
    simp only [found, ne_eq, not_true_eq_false, if_false, cloudResult_verdict]
    by_cases unknown : s.cloudVerdict platform id s.revision reply call = .unknown
    · have quiet : s.cloudVerdict platform id s.revision reply { call with waitingCloud := false, bridgeId := 0 } =
          .unknown := unknown
      rw [if_neg (not_not.mpr quiet)]
      refine answered { s with
        cloudStatus := .unavailable
        cloudReason := s.cloudReasonOf id s.revision reply } { call with waitingCloud := false, bridgeId := 0 } rfl rfl rfl ?_
      simp [cloudDanger, unknown, cloudResult_unknown, safe]
    · have known : s.cloudVerdict platform id s.revision reply { call with waitingCloud := false, bridgeId := 0 } ≠
          .unknown := unknown
      rw [if_pos known]
      have same : s.cloudVerdict platform id s.revision reply { call with waitingCloud := false, bridgeId := 0 } =
          s.cloudVerdict platform id s.revision reply call := rfl
      rw [same]
      have danger : (cloudResult (s.cloudVerdict platform id s.revision reply call) call.url).dangerous =
          s.cloudDanger platform id s.revision reply call := by simp [cloudDanger]
      generalize cloudResult (s.cloudVerdict platform id s.revision reply call) call.url = cloud at danger ⊢
      refine answered { s with
        cloudStatus := .available
        cloudReason := ""
        cache := storeCached s.cache (platform.spec call.checkedUrl)
          ⟨cloud, view.ticks + minutes (if cloud.dangerous then 30 else 5)⟩ }
        (mergeCloud { call with waitingCloud := false, bridgeId := 0 } cloud) rfl rfl (mergeCloud_same _ _).1 ?_
      exact (mergeCloud_dangerous { call with waitingCloud := false, bridgeId := 0 } cloud safe).trans danger

theorem update_told {id : String} {old call : Pending}
    (found : s.pending[id]? = some old) (callback : call.callback = old.callback)
    (safe : call.result.dangerous = false)
    (quiet : ∀ (other : String) (entry : Pending), s.entryDanger platform op other entry = false) :
    Told platform s op (({ s with pending := s.pending.insert id call } : Service).maybeComplete id) :=
  (update_tells s id old call found callback).told platform fun other entry _ => by simp [safe, quiet]

theorem kept_told (pending : t.pending = s.pending) (effects : t.effects = s.effects)
    (quiet : ∀ (other : String) (entry : Pending), s.entryDanger platform op other entry = false) :
    Told platform s op t :=
  (Tells.of_same pending effects quiet).told platform fun _ _ _ => rfl

theorem timeout_told (s : Service) (id : String) (waits : s.waits) :
    Told platform s (.timeout id) (s.timeout id) := by
  unfold timeout
  cases found : s.pending[id]? with
  | none => exact kept_told platform rfl rfl fun _ _ => rfl
  | some call => exact update_told platform found rfl (waits id call found).1 fun _ _ => rfl

theorem cancel_told (s : Service) (id : String) : Told platform s (.cancel id) (s.cancel id) := by
  unfold cancel
  cases found : s.pending[id]? with
  | none => exact kept_told platform rfl rfl fun _ _ => rfl
  | some call => exact update_told platform found rfl (unknownResult_dangerous _ _) fun _ _ => rfl

def Silent (s t : Service) : Prop :=
  ∀ callback result, .postResult callback result ∈ t.effects → .postResult callback result ∈ s.effects

theorem Silent.emit (silent : Silent s t) {sent : List Effect}
    (neutral : ∀ effect ∈ sent, effect.neutral = true) : Silent s (t.emit sent) := by
  intro callback result posted
  rcases List.mem_append.mp posted with before | added
  · exact silent callback result before
  · cases neutral _ added

theorem Silent.ran (silent : Silent s t) (view : View) (empty : t.pending = ∅) :
    Silent s (if view.updaterNotifies then t.onRules platform view else t) := by
  intro callback result posted
  split at posted
  · rcases (onRules_tells platform t view (waits_empty t empty)).posts callback result posted with
      before | ⟨id, call, found, -⟩
    · exact silent callback result before
    · simp [empty] at found
  · exact silent callback result posted

theorem switchRules_silent (s : Service) (view : View) (empty : s.pending = ∅) :
    Silent s (if s.usesLocal then s.ensureRules platform view else s.releaseRules platform view) := by
  have start : Silent s s := fun _ _ posted => posted
  split
  · unfold ensureRules
    split
    · exact start
    · have marked : Silent s (({ s with rulesAcquired := true } : Service).emit [.acquireUpdater]) :=
        start.emit (List.forall_mem_singleton.mpr rfl)
      have ran := marked.ran platform view empty
      dsimp only
      split
      · exact ran.emit (List.forall_mem_singleton.mpr rfl)
      · exact ran
  · unfold releaseRules
    split
    · exact start
    · have marked : Silent s (({ s with rulesAcquired := false } : Service).emit [.releaseUpdater]) :=
        start.emit (List.forall_mem_singleton.mpr rfl)
      have ran := marked.ran platform view empty
      dsimp only
      split
      · exact ran
      · have released := ran.emit (List.forall_mem_singleton.mpr (show Effect.neutral .releaseSources = true from rfl))
        split
        · exact released.emit (by simp [sourcesEvents, Effect.neutral])
        · exact released

theorem cancelAll_posts (s : Service) (reason : String) (callback : Nat) (result : Result)
    (posted : .postResult callback result ∈ (s.cancelAll reason).effects) :
    .postResult callback result ∈ s.effects \/ ∃ (id : String) (call : Pending), s.pending[id]? = some call /\
      call.callback = callback /\ result.dangerous = false := by
  rcases List.mem_append.mp posted with before | sent
  · exact .inl before
  · obtain ⟨⟨id, call⟩, mem, sent⟩ := List.mem_flatMap.mp sent
    refine .inr ⟨id, call, Std.ExtTreeMap.mem_toList_iff_getElem?_eq_some.mp mem, ?_⟩
    simp only [completion, List.mem_append, List.mem_singleton, Effect.postResult.injEq] at sent
    rcases sent with early | ⟨rfl, rfl⟩
    · split at early <;> simp at early
    · exact ⟨rfl, rfl⟩

theorem Silent.configured {s u : Service} (silent : Silent s u) (rest : List Effect) :
    Silent s ((u.emit [.sendControl "configure" none u.identity]).notify rest) :=
  silent.emit (List.forall_mem_singleton.mpr rfl)

theorem restart_told {u : Service} {reason : String} (cancelled : u = s.cancelAll reason)
    (empty : t.pending = ∅) (silent : Silent u t)
    (quiet : ∀ (other : String) (entry : Pending), s.entryDanger platform op other entry = false) :
    Told platform s op t where
  posts := by
    intro callback result posted
    rcases cancelAll_posts s reason callback result (cancelled ▸ silent callback result posted) with
      before | ⟨id, call, found, owner, safe⟩
    · exact .inl before
    · exact .inr (.inl ⟨id, call, found, owner, safe.trans (quiet id call).symm⟩)
  kept := by
    intro id call found
    simp [empty] at found

theorem persist_same (s : Service) : s.persist.effects = s.effects /\ s.persist.pending = s.pending := by
  unfold persist
  split <;> exact ⟨rfl, rfl⟩

theorem applyConfig_told (s : Service) (view : View) (command : DictValue) (enabled consent : Bool)
    (provider : Provider) : Told platform s (.configure view command)
      (s.applyConfig platform view enabled consent provider) := by
  refine restart_told platform (u := s.cancelAll "stale_policy") rfl
    (applyConfig_restarts platform s view enabled consent provider).pending ?_ fun _ _ => rfl
  unfold applyConfig
  dsimp only
  have changed (t : Service) (effects : t.effects = (s.cancelAll "stale_policy").effects) (empty : t.pending = ∅) :
      Silent (s.cancelAll "stale_policy")
        (if t.persist.usesLocal then t.persist.ensureRules platform view else t.persist.releaseRules platform view) := by
    intro callback result posted
    have before := switchRules_silent platform t.persist view ((persist_same t).2.trans empty) callback result posted
    rwa [(persist_same t).1, effects] at before
  refine Silent.configured (changed { s.changePolicy with
    enabled := enabled
    provider := provider
    consent := enabled && provider ≠ .localRules && consent
    cloudStatus := .unverified
    cloudReason := "" } rfl rfl) _

theorem configure_told (s : Service) (view : View) (command : DictValue) :
    Told platform s (.configure view command) (s.configure platform view command).2 := by
  unfold configure
  dsimp only
  split
  · split
    · exact applyConfig_told platform s view command _ _ _
    · exact kept_told platform rfl rfl fun _ _ => rfl
  · exact kept_told platform rfl rfl fun _ _ => rfl

theorem setSiteEnabled_told (s : Service) (view : View) (url : GURL) (enabled : Bool) :
    Told platform s (.setSiteEnabled view url enabled) (s.setSiteEnabled platform view url enabled).2 := by
  unfold setSiteEnabled
  dsimp only
  split
  · exact kept_told platform rfl rfl fun _ _ => rfl
  split
  · exact kept_told platform rfl rfl fun _ _ => rfl
  split
  · exact kept_told platform rfl rfl fun _ _ => rfl
  · have persisted (t : Service) (effects : t.effects = (s.cancelAll "stale_policy").effects) :
        Silent (s.cancelAll "stale_policy") t.persist := by
      intro callback result posted
      rwa [(persist_same t).1, effects] at posted
    refine restart_told platform (u := s.cancelAll "stale_policy") rfl ((persist_same _).2.trans rfl) ?_ fun _ _ => rfl
    exact Silent.configured (persisted { s.changePolicy with siteExceptions := _ } rfl) _

theorem onSources_told (s : Service) (policyChanged : Bool) :
    Told platform s (.onSources policyChanged) (s.onSources policyChanged) := by
  unfold onSources
  split
  · refine restart_told platform (u := s.cancelAll "stale_policy") rfl rfl ?_ fun _ _ => rfl
    exact Silent.configured (u := s.changePolicy) (fun _ _ posted => posted) _
  · exact ((Tells.of_same rfl rfl fun _ _ => rfl).emit (by simp [sourcesEvents, Effect.neutral])).told platform
      fun _ _ _ => rfl

theorem notified_told (s : Service)
    (neutral : ∀ rest, s.notifying = some rest -> ∀ effect ∈ rest, effect.neutral = true) :
    Told platform s .notified s.notified := by
  unfold notified
  cases pending : s.notifying with
  | none => exact kept_told platform rfl rfl fun _ _ => rfl
  | some rest =>
    have finished : Tells calm s { s with notifying := none } := .of_same rfl rfl fun _ _ => rfl
    exact (finished.emit (neutral rest pending)).told platform fun _ _ _ => rfl

theorem destroy_told (s : Service) (view : View) : Told platform s (.destroy view) (s.destroy view) := by
  unfold destroy
  dsimp only
  have released (t : Service) (condition : Bool) (effect : Effect) (neutral : effect.neutral = true)
      (same : t.pending = s.pending) (silent : Silent s t) :
      (if condition then t.emit [effect] else t).pending = s.pending /\
        Silent s (if condition then t.emit [effect] else t) := by
    cases condition with
    | true => exact ⟨same, silent.emit (List.forall_mem_singleton.mpr neutral)⟩
    | false => exact ⟨same, silent⟩
  have updater := released s (view.updater.isSome && s.rulesAcquired) .releaseUpdater rfl rfl fun _ _ posted => posted
  generalize (if (view.updater.isSome && s.rulesAcquired) = true then s.emit [.releaseUpdater] else s) = t at updater ⊢
  have sources := released t (view.sources.isSome && t.rulesAcquired) .releaseSources rfl updater.1 updater.2
  generalize (if (view.sources.isSome && t.rulesAcquired) = true then t.emit [.releaseSources] else t) = u at sources ⊢
  refine ⟨fun callback result posted => ?_, fun id call found => ?_⟩
  · rcases List.mem_append.mp posted with before | closed
    · rcases cancelAll_posts u _ callback result before with before | ⟨id, call, found, owner, safe⟩
      · exact .inl (sources.2 callback result before)
      · exact .inr (.inl ⟨id, call, sources.1 ▸ found, owner, safe⟩)
    · simp at closed
  · simp [emit, cancelAll] at found

theorem next_told (s : Service) (op : ServiceOp) (inv : s.Inv) (permitted : s.permitted op) :
    Told platform s op (s.next platform op) := by
  cases op with
  | check view args => exact check_told platform s view args inv.waits (Fresh.unused permitted.2 inv)
  | onCloud view id revision reply => exact onCloud_told platform s view id revision reply inv.waits
  | onRules view => exact (onRules_tells platform s view inv.waits).told platform fun _ _ _ => rfl
  | onSources policyChanged => exact onSources_told platform s policyChanged
  | timeout id => exact timeout_told platform s id inv.waits
  | cancel id => exact cancel_told platform s id
  | configure view command => exact configure_told platform s view command
  | setSiteEnabled view url enabled => exact setSiteEnabled_told platform s view url enabled
  | notified => exact notified_told platform s inv.neutral
  | destroy view => exact destroy_told platform s view

end Service

end ChromiumHmos.UrlProtection
