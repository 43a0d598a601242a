import ChromiumHmos.UrlProtection.CheckDominance

set_option autoImplicit false

/-!
# Settings, exceptions and the references a service holds

A refused change leaves the service as it was. What a service has acquired and not released is
what `rulesAcquired` says, and the exceptions survive the preference they are written to.
-/

namespace ChromiumHmos.UrlProtection

open Base OrderedMap Transition

-- The updater and the sources are still there.
def View.alive (view : View) : Bool := view.updater.isSome && view.sources.isSome

namespace Service

variable (platform : Platform)

-- How often the updater was acquired more than it was released.
def updaterBalance (effects : List Effect) : Int :=
  effects.count .acquireUpdater - effects.count .releaseUpdater

def sourcesBalance (effects : List Effect) : Int :=
  effects.count .acquireSources - effects.count .releaseSources

theorem updaterBalance_append (effects sent : List Effect) : updaterBalance (effects ++ sent) =
    updaterBalance effects + updaterBalance (sent.filter Effect.isLease) := by
  have taken := List.count_filter (p := Effect.isLease) (a := .acquireUpdater) (l := sent) rfl
  have given := List.count_filter (p := Effect.isLease) (a := .releaseUpdater) (l := sent) rfl
  simp only [updaterBalance, List.count_append, taken, given]
  omega

theorem sourcesBalance_append (effects sent : List Effect) : sourcesBalance (effects ++ sent) =
    sourcesBalance effects + sourcesBalance (sent.filter Effect.isLease) := by
  have taken := List.count_filter (p := Effect.isLease) (a := .acquireSources) (l := sent) rfl
  have given := List.count_filter (p := Effect.isLease) (a := .releaseSources) (l := sent) rfl
  simp only [sourcesBalance, List.count_append, taken, given]
  omega

structure Keeps (leases : List Effect) (s t : Service) : Prop where
  usesLocal : t.usesLocal = s.usesLocal
  siteExceptions : t.siteExceptions = s.siteExceptions
  config : t.config = s.config
  offTheRecord : t.offTheRecord = s.offTheRecord
  acquired : leases = [] → t.rulesAcquired = s.rulesAcquired
  sent : ∃ sent, t.effects = s.effects ++ sent ∧ sent.filter Effect.isLease = leases
  destroyed : t.destroyed = s.destroyed
  notifying : ∀ rest, t.notifying = some rest → s.notifying = some rest ∨ quiet rest

variable {s t : Service}

theorem Keeps.of_same (usesLocal : t.usesLocal = s.usesLocal)
    (siteExceptions : t.siteExceptions = s.siteExceptions) (config : t.config = s.config)
    (offTheRecord : t.offTheRecord = s.offTheRecord) (acquired : t.rulesAcquired = s.rulesAcquired)
    (effects : t.effects = s.effects) (destroyed : t.destroyed = s.destroyed)
    (notifying : t.notifying = s.notifying) : Keeps [] s t :=
  ⟨usesLocal, siteExceptions, config, offTheRecord, fun _ => acquired,
    ⟨[], effects.trans (List.append_nil _).symm, rfl⟩, destroyed, fun _ same => .inl (notifying ▸ same)⟩

theorem Keeps.refl (s : Service) : Keeps [] s s := .of_same rfl rfl rfl rfl rfl rfl rfl rfl

variable {leases : List Effect}

theorem Keeps.trans {u : Service} (first : Keeps leases s t) (second : Keeps [] t u) :
    Keeps leases s u where
  usesLocal := second.usesLocal.trans first.usesLocal
  siteExceptions := second.siteExceptions.trans first.siteExceptions
  config := second.config.trans first.config
  offTheRecord := second.offTheRecord.trans first.offTheRecord
  acquired none := (second.acquired rfl).trans (first.acquired none)
  sent := by
    obtain ⟨sent, effects, is⟩ := first.sent
    obtain ⟨more, effects', silent⟩ := second.sent
    refine ⟨sent ++ more, by rw [effects', effects, List.append_assoc], ?_⟩
    rw [List.filter_append, is, silent, List.append_nil]
  destroyed := second.destroyed.trans first.destroyed
  notifying rest waiting := by
    rcases second.notifying rest waiting with before | silent
    · exact first.notifying rest before
    · exact .inr silent

theorem Keeps.emit (keeps : Keeps leases s t) {sent : List Effect}
    (silent : quiet sent) : Keeps leases s (t.emit sent) :=
  keeps.trans ⟨rfl, rfl, rfl, rfl, fun _ => rfl, ⟨sent, rfl, silent⟩, rfl, fun _ same => .inl same⟩

theorem maybeComplete_keeps (s : Service) (id : String) : Keeps [] s (s.maybeComplete id) := by
  obtain ⟨pending, sent, same, silent⟩ := maybeComplete_frame s id
  rw [same]
  exact ⟨rfl, rfl, rfl, rfl, fun _ => rfl, ⟨sent, rfl, silent⟩, rfl, fun _ same => .inl same⟩

theorem update_keeps (s : Service) (pending : Std.ExtTreeMap String Pending) (id : String) :
    Keeps [] s (({ s with pending := pending } : Service).maybeComplete id) :=
  (Keeps.of_same (s := s) (t := { s with pending := pending }) rfl rfl rfl rfl rfl rfl rfl rfl).trans (maybeComplete_keeps _ id)

theorem onRules_keeps (s : Service) (view : View) : Keeps [] s (s.onRules platform view) := by
  obtain ⟨rules, loading, pending, sent, same, silent⟩ := onRules_frame platform s view
  rw [same]
  exact ⟨rfl, rfl, rfl, rfl, fun _ => rfl, ⟨sent, rfl, silent⟩, rfl, fun _ same => .inl same⟩

theorem acquires_eq_nil (s : Service) (view : View) :
    s.acquires view = [] ↔ view.updater.isNone = true \/ s.rulesAcquired = true := by
  unfold acquires
  rw [<- Bool.or_eq_true]
  split
  next still => exact iff_of_true rfl still
  · next takes =>
    refine iff_of_false ?_ takes
    split <;> simp

theorem ensureRules_keeps (s : Service) (view : View) :
    Keeps (s.acquires view) s (s.ensureRules platform view) := by
  obtain ⟨acquired, rules, loading, pending, sent, same, leases, is⟩ := ensureRules_frame platform s view
  rw [same]
  refine ⟨rfl, rfl, rfl, rfl, fun none => ?_, ⟨sent, rfl, leases⟩, rfl, fun _ same => .inl same⟩
  rcases (acquires_eq_nil s view).mp none with gone | already
  · rw [is]
    cases updater : view.updater <;> simp_all
  · simp [is, already]

theorem onCloud_keeps (s : Service) (view : View) (id : String) (revision : Int) (reply : Reply) :
    Keeps [] s (s.onCloud platform view id revision reply) := by
  unfold onCloud
  cases s.pending[id]? with
  | none => exact .refl s
  | some call =>
    dsimp only
    split
    · exact .refl s
    · refine .emit (Keeps.trans ?_ (maybeComplete_keeps _ id)) (quiet_broadcast _)
      split <;> exact .of_same rfl rfl rfl rfl rfl rfl rfl rfl

theorem requested_quiet (identity : Identity) (args : CheckArgs) (cloud : Bool) (url : String) (delay : TimeDelta) :
    quiet (requested identity args cloud url delay) := by
  cases cloud <;> rfl

theorem check_keeps (s : Service) (view : View) (args : CheckArgs) : ∃ leases,
    Keeps leases s (s.check platform view args).2 /\ (leases = [] \/ s.usesLocal = true /\ leases = s.acquires view) := by
  rcases check_cases platform s view args with ⟨result, outcome⟩ | ⟨-, outcome⟩
  · refine ⟨[], ?_, .inl rfl⟩
    rw [outcome]
    exact (Keeps.refl s).emit (quiet_result _ _)
  · have registered := registered_eq platform outcome
    have taken := takesUp_accepted platform outcome
    rw [outcome, registered]
    have later (u : Service) (pending : Std.ExtTreeMap String Pending) (sent : List Effect) (silent : quiet sent) :
        Keeps [] u ((({ u with pending := pending } : Service).emit sent).maybeComplete args.token) :=
      ((Keeps.of_same (s := u) (t := { u with pending := pending }) rfl rfl rfl rfl rfl rfl rfl rfl).emit silent).trans
        (maybeComplete_keeps _ _)
    by_cases uses : s.usesLocal = true
    · rw [if_pos uses] at taken
      rw [taken]
      exact ⟨_, (ensureRules_keeps platform s view).trans (later _ _ _ (requested_quiet _ _ _ _ _)), .inr ⟨uses, rfl⟩⟩
    · rw [if_neg uses] at taken
      rw [taken]
      exact ⟨[], later s _ _ (requested_quiet _ _ _ _ _), .inl rfl⟩

theorem timeout_keeps (s : Service) (id : String) : Keeps [] s (s.timeout id) := by
  unfold timeout
  cases s.pending[id]? with
  | none => exact .refl s
  | some call => exact update_keeps s _ id

theorem cancel_keeps (s : Service) (id : String) : Keeps [] s (s.cancel id) := by
  unfold cancel
  cases s.pending[id]? with
  | none => exact .refl s
  | some call => exact update_keeps s _ id

theorem changePolicy_keeps (s : Service) : Keeps [] s s.changePolicy := by
  obtain ⟨sent, same, silent⟩ := cancelAll_frame s "stale_policy"
  unfold changePolicy
  rw [same]
  exact ⟨rfl, rfl, rfl, rfl, fun _ => rfl, ⟨sent, rfl, silent⟩, rfl, fun _ same => .inl same⟩

theorem Keeps.notify {rest : List Effect} (keeps : Keeps leases s t) (silent : quiet rest) :
    Keeps leases s (t.notify rest) :=
  keeps.trans ⟨rfl, rfl, rfl, rfl, fun _ => rfl, ⟨[], (List.append_nil _).symm, rfl⟩, rfl, fun other is => by
    obtain rfl : rest = other := Option.some.inj is
    exact .inr silent⟩

theorem onSources_keeps (s : Service) (policyChanged : Bool) : Keeps [] s (s.onSources policyChanged) := by
  unfold onSources
  split
  · exact ((changePolicy_keeps s).emit (quiet_control _ _ _)).notify rfl
  · exact (Keeps.refl s).emit (show quiet sourcesEvents from rfl)

theorem notified_keeps (s : Service) (silent : ∀ rest, s.notifying = some rest -> quiet rest) :
    Keeps [] s s.notified := by
  unfold notified
  cases waiting : s.notifying with
  | none => exact .refl s
  | some rest =>
    have ended : Keeps [] s { s with notifying := none } :=
      ⟨rfl, rfl, rfl, rfl, fun _ => rfl, ⟨[], (List.append_nil _).symm, rfl⟩, rfl, nofun⟩
    exact ended.emit (silent rest waiting)

structure Leased (s : Service) : Prop where
  updater : updaterBalance s.effects = if s.rulesAcquired && !s.destroyed then 1 else 0
  sources : sourcesBalance s.effects = if s.rulesAcquired && !s.destroyed then 1 else 0
  taken : s.usesLocal = true → s.rulesAcquired = true
  rest : ∀ rest, s.notifying = some rest → quiet rest

theorem Keeps.leased (keeps : Keeps [] s t) (leased : s.Leased) : t.Leased := by
  obtain ⟨sent, effects, silent⟩ := keeps.sent
  have same := keeps.acquired rfl
  refine ⟨?_, ?_, ?_, fun rest waiting => ?_⟩
  · rw [effects, updaterBalance_append, silent, same, keeps.destroyed, leased.updater]
    exact add_zero _
  · rw [effects, sourcesBalance_append, silent, same, keeps.destroyed, leased.sources]
    exact add_zero _
  · rw [keeps.usesLocal, same]
    exact leased.taken
  · exact (keeps.notifying rest waiting).elim (leased.rest rest) id

theorem switchRules_leased (s : Service) (view : View) (alive : view.alive = true) (running : s.destroyed = false)
    (updater : updaterBalance s.effects = if s.rulesAcquired then 1 else 0)
    (sources : sourcesBalance s.effects = if s.rulesAcquired then 1 else 0)
    (rest : ∀ rest, s.notifying = some rest -> quiet rest) :
    Leased (if s.usesLocal then s.ensureRules platform view else s.releaseRules platform view) := by
  simp only [View.alive, Bool.and_eq_true] at alive
  obtain ⟨updated, sourced⟩ := alive
  have there : view.updater.isNone = false := by
    cases held : view.updater <;> simp_all
  by_cases uses : s.usesLocal = true
  · obtain ⟨acquired, rules, loading, pending, sent, same, leases, is⟩ := ensureRules_frame platform s view
    rw [updated, Bool.or_true] at is
    subst is
    rw [if_pos uses, same]
    refine ⟨?_, ?_, fun _ => rfl, rest⟩
    · rw [updaterBalance_append, updater, leases, acquires, there, sourced, running]
      cases s.rulesAcquired <;> rfl
    · rw [sourcesBalance_append, sources, leases, acquires, there, sourced, running]
      cases s.rulesAcquired <;> rfl
  · obtain ⟨acquired, rules, loading, pending, sent, same, leases, is⟩ := releaseRules_frame platform s view
    rw [there, Bool.and_false] at is
    subst is
    rw [if_neg uses, same]
    refine ⟨?_, ?_, fun used => absurd used uses, rest⟩
    · rw [updaterBalance_append, updater, leases, releases, there, sourced]
      cases s.rulesAcquired <;> rfl
    · rw [sourcesBalance_append, sources, leases, releases, there, sourced]
      cases s.rulesAcquired <;> rfl

theorem persist_frame (s : Service) : ∃ config, s.persist = { s with config := config } := by
  unfold persist
  split
  · exact ⟨s.config, rfl⟩
  · exact ⟨_, rfl⟩

theorem applyConfig_leased (s : Service) (view : View) (enabled consent : Bool) (provider : Provider)
    (leased : s.Leased) (alive : view.alive = true) (running : s.destroyed = false) :
    (s.applyConfig platform view enabled consent provider).Leased := by
  have changed := (changePolicy_keeps s).leased leased
  have still : s.changePolicy.destroyed = false := (changePolicy_keeps s).destroyed.trans running
  have updater := changed.updater
  have sources := changed.sources
  rw [still, Bool.not_false, Bool.and_true] at updater sources
  have switched (t : Service) (effects : t.effects = s.changePolicy.effects)
      (acquired : t.rulesAcquired = s.changePolicy.rulesAcquired) (destroyed : t.destroyed = false)
      (notifying : t.notifying = s.changePolicy.notifying) :
      Leased (if t.persist.usesLocal then t.persist.ensureRules platform view
        else t.persist.releaseRules platform view) := by
    obtain ⟨config, persisted⟩ := persist_frame t
    rw [persisted]
    refine switchRules_leased platform _ view alive destroyed ?_ ?_ ?_
    · rw [<- acquired, <- effects] at updater
      exact updater
    · rw [<- acquired, <- effects] at sources
      exact sources
    · rw [show ({ t with config := config } : Service).notifying = s.changePolicy.notifying from notifying]
      exact changed.rest
  unfold applyConfig
  have after := switched { s.changePolicy with
    enabled := enabled
    provider := provider
    consent := enabled && provider ≠ .localRules && consent
    cloudStatus := .unverified
    cloudReason := "" } rfl rfl still rfl
  exact (((Keeps.refl _).emit (quiet_control _ _ _)).notify (quiet_broadcast _)).leased after

theorem setSiteEnabled_leased (s : Service) (view : View) (url : GURL) (enabled : Bool) (leased : s.Leased) :
    (s.setSiteEnabled platform view url enabled).2.Leased := by
  have changed := (changePolicy_keeps s).leased leased
  have persisted (t : Service) (effects : t.effects = s.changePolicy.effects)
      (acquired : t.rulesAcquired = s.changePolicy.rulesAcquired) (destroyed : t.destroyed = s.changePolicy.destroyed)
      (uses : t.usesLocal = s.changePolicy.usesLocal) (notifying : t.notifying = s.changePolicy.notifying) :
      t.persist.Leased := by
    obtain ⟨config, persisted⟩ := persist_frame t
    rw [persisted]
    refine ⟨?_, ?_, ?_, ?_⟩
    · simpa only [effects, acquired, destroyed] using changed.updater
    · simpa only [effects, acquired, destroyed] using changed.sources
    · exact fun used => acquired.trans (changed.taken (uses.symm.trans used))
    · exact fun rest waiting => changed.rest rest (notifying.symm.trans waiting)
  unfold setSiteEnabled
  dsimp only
  split
  · exact leased
  split
  · exact leased
  split
  · exact leased
  · have after (exceptions : Std.ExtTreeSet String) :=
      persisted { s.changePolicy with siteExceptions := exceptions } rfl rfl rfl rfl rfl
    exact (((Keeps.refl _).emit (quiet_control _ _ _)).notify (quiet_broadcast _)).leased (after _)

structure Beside (s t : Service) : Prop where
  acquired : t.rulesAcquired = s.rulesAcquired
  usesLocal : t.usesLocal = s.usesLocal
  notifying : t.notifying = s.notifying

theorem closing_leased {u : Service} (leased : s.Leased) (beside : Beside s u)
    (updater : updaterBalance u.effects = 0) (sources : sourcesBalance u.effects = 0) :
    Leased { (u.cancelAll "context_closed").emit
      [.sendControl "closeContext" none (u.cancelAll "context_closed").identity] with destroyed := true } := by
  obtain ⟨sent, same, silent⟩ := cancelAll_frame u "context_closed"
  rw [same]
  refine ⟨?_, ?_, fun uses => ?_, fun rest waiting => leased.rest rest (beside.notifying.symm.trans waiting)⟩
  · rw [emit, updaterBalance_append, updaterBalance_append, updater, silent, Bool.not_true, Bool.and_false]
    rfl
  · rw [emit, sourcesBalance_append, sourcesBalance_append, sources, silent, Bool.not_true, Bool.and_false]
    rfl
  · exact beside.acquired.trans (leased.taken (beside.usesLocal.symm.trans uses))

theorem destroy_leased (s : Service) (view : View) (leased : s.Leased) (alive : view.alive = true)
    (running : s.destroyed = false) : (s.destroy view).Leased := by
  simp only [View.alive, Bool.and_eq_true] at alive
  have updater := leased.updater
  have sources := leased.sources
  rw [running, Bool.not_false, Bool.and_true] at updater sources
  unfold destroy
  rw [alive.1, alive.2]
  dsimp only
  have gave (t : Service) (effect : Effect) (is : Beside s t) :
      Beside s (if (true && t.rulesAcquired) = true then t.emit [effect] else t) := by
    split
    · exact ⟨is.acquired, is.usesLocal, is.notifying⟩
    · exact is
  have first := gave s .releaseUpdater ⟨rfl, rfl, rfl⟩
  have balanced : updaterBalance (if (true && s.rulesAcquired) = true then s.emit [.releaseUpdater] else s).effects = 0 /\
      sourcesBalance (if (true && s.rulesAcquired) = true then s.emit [.releaseUpdater] else s).effects =
        if s.rulesAcquired then 1 else 0 := by
    cases acquired : s.rulesAcquired with
    | true =>
      rw [acquired] at updater sources
      exact ⟨(updaterBalance_append s.effects [.releaseUpdater]).trans (by rw [updater]; rfl),
        (sourcesBalance_append s.effects [.releaseUpdater]).trans (by rw [sources]; rfl)⟩
    | false =>
      rw [acquired] at updater sources
      exact ⟨updater, sources⟩
  generalize (if (true && s.rulesAcquired) = true then s.emit [.releaseUpdater] else s) = t at first balanced ⊢
  have second := gave t .releaseSources first
  have settled : updaterBalance (if (true && t.rulesAcquired) = true then t.emit [.releaseSources] else t).effects = 0 /\
      sourcesBalance (if (true && t.rulesAcquired) = true then t.emit [.releaseSources] else t).effects = 0 := by
    rw [<- first.acquired] at balanced
    cases acquired : t.rulesAcquired with
    | true =>
      rw [acquired] at balanced
      exact ⟨(updaterBalance_append t.effects [.releaseSources]).trans (by rw [balanced.1]; rfl),
        (sourcesBalance_append t.effects [.releaseSources]).trans (by rw [balanced.2]; rfl)⟩
    | false =>
      rw [acquired] at balanced
      exact balanced
  exact closing_leased leased second settled.1 settled.2

-- What the operation reads of the updater and the sources.
def viewOf : ServiceOp → Option View
  | .check view _ | .onCloud view _ _ _ | .onRules view | .configure view _ | .setSiteEnabled view _ _
  | .destroy view => some view
  | _ => none

theorem next_leased (s : Service) (op : ServiceOp) (leased : s.Leased) (running : s.destroyed = false)
    (alive : ∀ view, viewOf op = some view -> view.alive = true) : (s.next platform op).Leased := by
  cases op with
  | check view args =>
    obtain ⟨leases, keeps, is⟩ := check_keeps platform s view args
    have none : leases = [] := by
      rcases is with none | ⟨uses, rfl⟩
      · exact none
      · exact (acquires_eq_nil s view).mpr (.inr (leased.taken uses))
    exact (none ▸ keeps : Keeps [] s (s.check platform view args).2).leased leased
  | onCloud view id revision reply => exact (onCloud_keeps platform s view id revision reply).leased leased
  | onRules view => exact (onRules_keeps platform s view).leased leased
  | onSources policyChanged => exact (onSources_keeps s policyChanged).leased leased
  | timeout id => exact (timeout_keeps s id).leased leased
  | cancel id => exact (cancel_keeps s id).leased leased
  | configure view command =>
    unfold next configure
    dsimp only
    split
    · split
      · exact applyConfig_leased platform s view _ _ _ leased (alive view rfl) running
      · exact leased
    · exact leased
  | setSiteEnabled view url enabled => exact setSiteEnabled_leased platform s view url enabled leased
  | notified => exact (notified_keeps s leased.rest).leased leased
  | destroy view => exact destroy_leased s view leased (alive view rfl) running

/-- What `url::Origin` and `GURL` promise of the origin of an http(s) URL: it reads as one of the same host. -/
structure OriginLaws : Prop where
  isValid : ∀ url, platform.isValid url = true → platform.schemeIsHTTPOrHTTPS url = true →
    platform.isValid (platform.parse (platform.serializedOrigin url)) = true
  scheme : ∀ url, platform.isValid url = true → platform.schemeIsHTTPOrHTTPS url = true →
    platform.scheme (platform.parse (platform.serializedOrigin url)) = platform.scheme url
  hostNoBrackets : ∀ url, platform.isValid url = true → platform.schemeIsHTTPOrHTTPS url = true →
    platform.hostNoBrackets (platform.parse (platform.serializedOrigin url)) = platform.hostNoBrackets url
  anonymous : ∀ url, platform.isValid url = true → platform.schemeIsHTTPOrHTTPS url = true →
    platform.hasUsername (platform.parse (platform.serializedOrigin url)) = false ∧
      platform.hasPassword (platform.parse (platform.serializedOrigin url)) = false
  spec : ∀ url, platform.isValid url = true → platform.schemeIsHTTPOrHTTPS url = true →
    (platform.spec (platform.parse (platform.serializedOrigin url))).utf8ByteSize ≤ (platform.spec url).utf8ByteSize
  again : ∀ url, platform.isValid url = true → platform.schemeIsHTTPOrHTTPS url = true →
    platform.serializedOrigin (platform.parse (platform.serializedOrigin url)) = platform.serializedOrigin url

def Canonical (origin : String) : Prop :=
  platform.isPublicHttpUrl (platform.parse origin) = true ∧ platform.serializedOrigin (platform.parse origin) = origin

variable {platform}

theorem OriginLaws.canonical (laws : OriginLaws platform) (url : GURL)
    (isPublic : platform.isPublicHttpUrl url = true) : Canonical platform (platform.serializedOrigin url) := by
  unfold UrlLibrary.isPublicHttpUrl at isPublic
  split at isPublic
  · cases isPublic
  · next shaped =>
    simp only [Bool.or_eq_true, Bool.not_eq_true', not_or, Bool.not_eq_true, decide_eq_true_eq, Bool.not_eq_false,
      not_lt] at shaped
    obtain ⟨⟨⟨⟨valid, scheme⟩, -⟩, -⟩, short⟩ := shaped
    refine ⟨?_, laws.again url valid scheme⟩
    have same : platform.schemeIsHTTPOrHTTPS (platform.parse (platform.serializedOrigin url)) = true := by
      rw [<- scheme]
      unfold UrlLibrary.schemeIsHTTPOrHTTPS
      rw [laws.scheme url valid scheme]
    have spec := (laws.spec url valid scheme).trans short
    obtain ⟨user, password⟩ := laws.anonymous url valid scheme
    unfold UrlLibrary.isPublicHttpUrl
    rw [laws.isValid url valid scheme, same, user, password, laws.hostNoBrackets url valid scheme, if_neg]
    · exact isPublic
    · simp [spec]

variable (platform)

def takeException (loaded : Std.ExtTreeSet String) (item : Value) : Std.ExtTreeSet String :=
  match item with
  | .string text =>
    let url := platform.parse text
    if loaded.size < 1000 && platform.isPublicHttpUrl url && platform.serializedOrigin url == text
    then loaded.insert text else loaded
  | _ => loaded

theorem loadExceptions_eq (items : List Value) :
    loadExceptions platform items = items.foldl (takeException platform) ∅ := rfl

structure Exceptions (loaded : Std.ExtTreeSet String) : Prop where
  bounded : loaded.size ≤ 1000
  canonical : ∀ origin ∈ loaded, Canonical platform origin

theorem takeException_kept {loaded : Std.ExtTreeSet String} (kept : Exceptions platform loaded) (item : Value) :
    Exceptions platform (takeException platform loaded item) := by
  unfold takeException
  cases item with
  | string text =>
    dsimp only
    split
    · next taken =>
      simp only [Bool.and_eq_true, decide_eq_true_eq, beq_iff_eq] at taken
      refine ⟨Std.ExtTreeSet.size_insert_le.trans taken.1.1, fun origin mem => ?_⟩
      rcases Std.ExtTreeSet.mem_insert.mp mem with same | before
      · rw [<- compare_eq_iff_eq.mp same]
        exact ⟨taken.1.2, taken.2⟩
      · exact kept.canonical origin before
    · exact kept
  | _ => exact kept

theorem loadExceptions_kept (items : List Value) : Exceptions platform (loadExceptions platform items) := by
  rw [loadExceptions_eq]
  have start : Exceptions platform (∅ : Std.ExtTreeSet String) := ⟨by simp, by simp⟩
  generalize (∅ : Std.ExtTreeSet String) = loaded at start ⊢
  induction items generalizing loaded with
  | nil => exact start
  | cons item rest ih => exact ih (takeException platform loaded item) (takeException_kept platform start item)

theorem foldl_takeException (origins : List String) (loaded : Std.ExtTreeSet String)
    (room : loaded.size + origins.length <= 1000) (canonical : ∀ origin ∈ origins, Canonical platform origin)
    (origin : String) : origin ∈ (origins.map .string).foldl (takeException platform) loaded ↔
      origin ∈ loaded \/ origin ∈ origins := by
  induction origins generalizing loaded with
  | nil => simp
  | cons first rest ih =>
    obtain ⟨isPublic, same⟩ := canonical first List.mem_cons_self
    rw [List.length_cons] at room
    have taken : takeException platform loaded (.string first) = loaded.insert first := by
      unfold takeException
      have space : loaded.size < 1000 := by omega
      simp [space, isPublic, same]
    have grown : (loaded.insert first).size <= loaded.size + 1 := Std.ExtTreeSet.size_insert_le
    rw [List.map_cons, List.foldl_cons, taken,
      ih (loaded.insert first) (by omega) fun other mem => canonical other (List.mem_cons_of_mem _ mem),
      Std.ExtTreeSet.mem_insert, compare_eq_iff_eq, List.mem_cons, eq_comm, or_assoc, or_left_comm]

theorem loadExceptions_stored {loaded : Std.ExtTreeSet String} (kept : Exceptions platform loaded) :
    loadExceptions platform (loaded.toList.map .string) = loaded := by
  refine Std.ExtTreeSet.ext_mem fun origin => ?_
  rw [loadExceptions_eq, foldl_takeException platform loaded.toList ∅ ?_ ?_, Std.ExtTreeSet.mem_toList]
  · simp
  · simpa using kept.bounded
  · exact fun origin mem => kept.canonical origin (Std.ExtTreeSet.mem_toList.mp mem)

structure Stored (s : Service) : Prop where
  kept : Exceptions platform s.siteExceptions
  stored : s.offTheRecord = false →
    loadExceptions platform ((s.config.findList "siteExceptions").getD []) = s.siteExceptions

variable {platform}

theorem Stored.of_same (stored : s.Stored platform) (siteExceptions : t.siteExceptions = s.siteExceptions)
    (config : t.config = s.config) (offTheRecord : t.offTheRecord = s.offTheRecord) : t.Stored platform := by
  obtain ⟨kept, same⟩ := stored
  rw [<- siteExceptions, <- config, <- offTheRecord] at same
  exact ⟨siteExceptions ▸ kept, same⟩

theorem Stored.sends (stored : s.Stored platform) (sent rest : List Effect) :
    ((s.emit sent).notify rest).Stored platform :=
  stored.of_same rfl rfl rfl

theorem Keeps.stored (keeps : Keeps leases s t) (stored : s.Stored platform) : t.Stored platform :=
  stored.of_same keeps.siteExceptions keeps.config keeps.offTheRecord

variable (platform)

theorem persist_siteExceptions (s : Service) : s.persist.siteExceptions = s.siteExceptions := by
  unfold persist
  split <;> rfl

theorem persist_offTheRecord (s : Service) : s.persist.offTheRecord = s.offTheRecord := by
  unfold persist
  split <;> rfl

theorem persist_stored (s : Service) (kept : Exceptions platform s.siteExceptions) : s.persist.Stored platform := by
  refine ⟨(persist_siteExceptions s).symm ▸ kept, fun ordinary => ?_⟩
  rw [persist_offTheRecord] at ordinary
  unfold persist
  rw [if_neg (by simp [ordinary])]
  have found (config : DictValue) (items : List Value) :
      (DictValue.set config "siteExceptions" (.list items)).findList "siteExceptions" = some items := by
    simp [DictValue.findList, DictValue.find_set]
  rw [found]
  exact loadExceptions_stored platform kept

theorem ensureRules_stored (s : Service) (view : View) (stored : s.Stored platform) :
    (s.ensureRules platform view).Stored platform := by
  obtain ⟨acquired, rules, loading, pending, sent, same, -⟩ := ensureRules_frame platform s view
  rw [same]
  exact stored.of_same rfl rfl rfl

theorem releaseRules_stored (s : Service) (view : View) (stored : s.Stored platform) :
    (s.releaseRules platform view).Stored platform := by
  obtain ⟨acquired, rules, loading, pending, sent, same, -⟩ := releaseRules_frame platform s view
  rw [same]
  exact stored.of_same rfl rfl rfl

theorem applyConfig_stored (s : Service) (view : View) (enabled consent : Bool) (provider : Provider)
    (stored : s.Stored platform) : (s.applyConfig platform view enabled consent provider).Stored platform := by
  have kept := ((changePolicy_keeps s).stored stored).kept
  unfold applyConfig
  have written := persist_stored platform { s.changePolicy with
    enabled := enabled
    provider := provider
    consent := enabled && provider ≠ .localRules && consent
    cloudStatus := .unverified
    cloudReason := "" } kept
  refine Stored.sends ?_ _ _
  split
  · exact ensureRules_stored platform _ view written
  · exact releaseRules_stored platform _ view written

theorem setSiteEnabled_stored (laws : OriginLaws platform) (s : Service) (view : View) (url : GURL) (enabled : Bool)
    (stored : s.Stored platform) : (s.setSiteEnabled platform view url enabled).2.Stored platform := by
  unfold setSiteEnabled
  dsimp only
  split
  · exact stored
  split
  · exact stored
  split
  · exact stored
  · next isPublic _ room =>
    have kept := ((changePolicy_keeps s).stored stored).kept
    have canonical := laws.canonical url (by simpa using isPublic)
    refine (persist_stored platform _ ?_).sends _ _
    dsimp only
    split
    · exact ⟨Std.ExtTreeSet.size_erase_le.trans kept.bounded,
        fun origin mem => kept.canonical origin (Std.ExtTreeSet.mem_of_mem_erase mem)⟩
    · next adds =>
      refine ⟨?_, fun origin mem => ?_⟩
      · -- an origin already there takes no room
        by_cases held : s.changePolicy.siteExceptions.contains (platform.serializedOrigin url) = true
        · rw [Std.ExtTreeSet.size_insert, if_pos held]
          exact kept.bounded
        · have space : s.siteExceptions.size < 1000 := by
            rw [(changePolicy_keeps s).siteExceptions] at held
            simpa [adds, held] using room
          rw [(changePolicy_keeps s).siteExceptions]
          exact Std.ExtTreeSet.size_insert_le.trans space
      · rcases Std.ExtTreeSet.mem_insert.mp mem with same | before
        · exact compare_eq_iff_eq.mp same ▸ canonical
        · exact kept.canonical origin before

theorem destroy_stored (s : Service) (view : View) (stored : s.Stored platform) : (s.destroy view).Stored platform := by
  have gave (t : Service) (stored : t.Stored platform) (given : Bool) (effect : Effect) :
      (if given = true then t.emit [effect] else t).Stored platform := by
    split
    · exact stored.of_same rfl rfl rfl
    · exact stored
  exact (gave _ (gave s stored _ _) _ _).of_same rfl rfl rfl

theorem next_stored (laws : OriginLaws platform) (s : Service) (op : ServiceOp) (stored : s.Stored platform) :
    (s.next platform op).Stored platform := by
  cases op with
  | check view args =>
    obtain ⟨leases, keeps, -⟩ := check_keeps platform s view args
    exact keeps.stored stored
  | onCloud view id revision reply => exact (onCloud_keeps platform s view id revision reply).stored stored
  | onRules view => exact (onRules_keeps platform s view).stored stored
  | onSources policyChanged => exact (onSources_keeps s policyChanged).stored stored
  | timeout id => exact (timeout_keeps s id).stored stored
  | cancel id => exact (cancel_keeps s id).stored stored
  | configure view command =>
    unfold next configure
    dsimp only
    split
    · split
      · exact applyConfig_stored platform s view _ _ _ stored
      · exact stored
    · exact stored
  | setSiteEnabled view url enabled => exact setSiteEnabled_stored platform laws s view url enabled stored
  | notified =>
    show s.notified.Stored platform
    unfold notified
    split
    · exact stored.of_same rfl rfl rfl
    · exact stored
  | destroy view => exact destroy_stored platform s view stored

theorem construct_leased (view : View) (config : DictValue) (offTheRecord : Bool) (contextId : String)
    (alive : view.alive = true) : (construct platform view config offTheRecord contextId).Leased := by
  have started (s : Service) (effects : s.effects = []) (free : s.rulesAcquired = false) (running : s.destroyed = false)
      (returned : s.notifying = none) : Leased (if s.usesLocal then s.ensureRules platform view else s) := by
    have idle : s.releaseRules platform view = s := by
      unfold releaseRules
      simp [free]
    have switched := switchRules_leased platform s view alive running (by rw [effects, free]; rfl)
      (by rw [effects, free]; rfl) fun rest waiting => absurd (returned.symm.trans waiting) nofun
    rwa [idle] at switched
  exact started _ rfl rfl rfl rfl

theorem construct_siteExceptions (view : View) (config : DictValue) (offTheRecord : Bool) (contextId : String) :
    (construct platform view config offTheRecord contextId).siteExceptions =
      if offTheRecord then ∅ else loadExceptions platform ((config.findList "siteExceptions").getD []) := by
  have started (s : Service) :
      (if s.usesLocal then s.ensureRules platform view else s).siteExceptions = s.siteExceptions := by
    split
    · exact (ensureRules_keeps platform s view).siteExceptions
    · rfl
  exact started _

theorem construct_stored (view : View) (config : DictValue) (offTheRecord : Bool) (contextId : String) :
    (construct platform view config offTheRecord contextId).Stored platform := by
  have started (s : Service) (stored : s.Stored platform) :
      (if s.usesLocal then s.ensureRules platform view else s).Stored platform := by
    split
    · exact ensureRules_stored platform s view stored
    · exact stored
  refine started _ ⟨?_, fun ordinary => ?_⟩
  · dsimp only
    split
    · exact ⟨by simp, by simp⟩
    · exact loadExceptions_kept platform _
  · dsimp only at ordinary ⊢
    rw [ordinary, if_neg Bool.false_ne_true]

/-- A refused change alters nothing; the references held are those `rulesAcquired` says; the exceptions survive. -/
theorem configuration_atomic (laws : OriginLaws platform) (view : View) (config : DictValue) (offTheRecord : Bool)
    (contextId : String) (s : Service) (history : List (Service × ServiceOp))
    (trace : Trace (guarded permitted (next platform)) (construct platform view config offTheRecord contextId) history s) :
    (∀ (now : View) (command : DictValue), (s.configure platform now command).1 ≠ "" →
      (s.configure platform now command).2 = s) ∧
    (∀ (now : View) (url : GURL) (enabled : Bool), (s.setSiteEnabled platform now url enabled).1 ≠ "" →
      (s.setSiteEnabled platform now url enabled).2 = s) ∧
    (view.alive = true → (∀ step ∈ history, ∀ seen, viewOf step.2 = some seen → seen.alive = true) →
      updaterBalance s.effects = (if s.rulesAcquired && !s.destroyed then 1 else 0) ∧
      sourcesBalance s.effects = (if s.rulesAcquired && !s.destroyed then 1 else 0) ∧
      (s.usesLocal = true → s.rulesAcquired = true)) ∧
    s.siteExceptions.size ≤ 1000 ∧
    (s.offTheRecord = false → ∀ (later : View) (context : String),
      (construct platform later s.persist.config false context).siteExceptions = s.siteExceptions) := by
  have stored : s.Stored platform := trace.preserves
    (fun t op u before step => step.2 ▸ next_stored platform laws t op before)
    (construct_stored platform view config offTheRecord contextId)
  refine ⟨fun now command refused => ?_, fun now url enabled refused => ?_, fun alive live => ?_, stored.kept.bounded,
    fun ordinary later context => ?_⟩
  · unfold configure at refused ⊢
    dsimp only at refused ⊢
    split at refused
    · split at refused
      next accepted => exact absurd accepted refused
      next rejected => rw [if_neg rejected]
    · rfl
  · unfold setSiteEnabled at refused ⊢
    dsimp only at refused ⊢
    split at refused
    next bad => rw [if_pos bad]
    split at refused
    next good managed => rw [if_neg good, if_pos managed]
    split at refused
    next good free full => rw [if_neg good, if_neg free, if_pos full]
    · exact absurd rfl refused
  · have leased : s.Leased := by
      have held := Trace.history (P := fun past t =>
        (∀ step ∈ past, ∀ seen, viewOf step.2 = some seen → seen.alive = true) → t.Leased) ?_ ?_ trace
      · exact held live
      · intro past t op u before step seen
        have earlier := before fun entry mem => seen entry (List.mem_append_left _ mem)
        rw [step.2]
        exact next_leased platform t op earlier step.1.1 (seen (t, op) (List.mem_append_right _ List.mem_cons_self))
      · exact fun _ => construct_leased platform view config offTheRecord contextId alive
    exact ⟨leased.updater, leased.sources, leased.taken⟩
  · rw [construct_siteExceptions, if_neg Bool.false_ne_true]
    have kept := (persist_stored platform s stored.kept).stored
    rw [persist_offTheRecord, persist_siteExceptions] at kept
    exact kept ordinary

def originPlatform : Platform :=
  { counterPlatform with
    parse := fun text => if text = "https://example.com" then ⟨"https://example.com/"⟩ else ⟨text⟩
    isValid := fun url => url.possiblyInvalidSpec == "https://example.com/" }

theorem originPlatform_laws : OriginLaws originPlatform where
  isValid _ _ _ := rfl
  scheme _ _ _ := rfl
  hostNoBrackets _ _ _ := rfl
  anonymous _ _ _ := ⟨rfl, rfl⟩
  spec url valid _ := by
    unfold UrlLibrary.spec
    rw [if_pos valid, eq_of_beq valid]
    exact le_rfl
  again _ _ _ := rfl

def excepting : List ServiceOp :=
  [.configure bothView (enabling "both"), .notified, .setSiteEnabled bothView ⟨"https://example.com/"⟩ false, .notified]

-- The rules are in use, and one site was excepted.
theorem configuration_atomic_excepted :
    updaterBalance (excepting.foldl (next originPlatform) (construct originPlatform bothView [] false "context")).effects
      = 1 ∧
    (construct originPlatform bothView
      (excepting.foldl (next originPlatform) (construct originPlatform bothView [] false "context")).persist.config
      false "again").siteExceptions.contains "https://example.com" = true := by
  have follows : Transition.Follows permitted (next originPlatform)
      (construct originPlatform bothView [] false "context") excepting := by decide
  obtain ⟨history, trace, ran⟩ := follows.trace
  obtain ⟨-, -, leased, -, reloaded⟩ := configuration_atomic originPlatform originPlatform_laws bothView [] false
    "context" _ history trace
  refine ⟨(leased rfl fun step mem seen same => ?_).1.trans ?_, ?_⟩
  · have ops : step.2 ∈ excepting := ran ▸ List.mem_map_of_mem mem
    generalize step.2 = op at ops same
    simp only [excepting, List.mem_cons, List.not_mem_nil, or_false] at ops
    rcases ops with rfl | rfl | rfl | rfl <;> cases same <;> rfl
  · decide
  · rw [reloaded (by decide)]
    decide

end Service

end ChromiumHmos.UrlProtection
