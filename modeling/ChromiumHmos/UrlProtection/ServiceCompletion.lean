import ChromiumHmos.UrlProtection.ServiceInvariant

set_option autoImplicit false

/-!
# The life of one check

A registered check is followed from the operation that took it to the end of a run: its
callback is owed by its own entry until it is posted, its bridge call held by that entry until
it is answered or cancelled.
-/

namespace ChromiumHmos.UrlProtection

open Base OrderedMap Transition

namespace Service

variable (platform : Platform)

abbrev serviceStep : Service → ServiceOp → Service → Prop :=
  guarded permitted (next platform)

def constructed (s : Service) : Prop :=
  ∃ view config offTheRecord contextId,
    s = construct platform view config offTheRecord contextId

theorem constructed_inv (s : Service) (initial : constructed platform s) : s.Inv := by
  obtain ⟨view, config, offTheRecord, contextId, rfl⟩ := initial
  have fresh (start : Service) (empty : start.pending = ∅) (silent : start.effects = [])
      (quiet : start.notifying = none) :
      (if start.usesLocal then start.ensureRules platform view else start).Inv := by
    have settles : Settles start
        (if start.usesLocal then start.ensureRules platform view else start) := by
      split
      · exact ensureRules_settles platform start view
      · exact .refl start
    generalize (if start.usesLocal then start.ensureRules platform view else start) = t
      at settles ⊢
    have pending := settles.toBalances.stays_empty empty
    refine ⟨by simp [pending], waits_empty t pending, ?_, ?_, ?_, ?_⟩
    · intro id call found
      simp [pending] at found
    · intro bridgeId id url delay identity called
      simpa [silent] using settles.requests _ called rfl
    · intro bridgeId used
      rw [settles.cancelled bridgeId used]
      simp [cancels, held, empty, silent]
    · intro rest waiting
      simp [settles.notifying, quiet] at waiting
  exact fresh _ rfl rfl rfl

variable {s t : Service} {trace : List (Service × ServiceOp)}

theorem run_inv
    (run : Trace (serviceStep platform) s trace t) (inv : s.Inv) : t.Inv := by
  refine run.preserves ?_ inv
  rintro u op v before ⟨permitted, rfl⟩
  exact next_inv platform u op before permitted

/-- The callback of a registered check is owed by the entry of its token and by no other. -/
structure Follows (args : CheckArgs) (t : Service) : Prop where
  balance : t.posts args.callback + t.owed args.callback = 1
  owner : ∀ (id : String) (call : Pending), t.pending[id]? = some call →
    call.callback = args.callback → id = args.token
  entry : ∀ call : Pending, t.pending[args.token]? = some call → call.callback = args.callback
  registered : ∃ delay, .postTimeout args.token delay ∈ t.effects

theorem owed_of_entry (t : Service) (id : String) (call : Pending)
    (found : t.pending[id]? = some call) : 1 <= t.owed call.callback := by
  have bound := le_total (owes call.callback) t.pending id call found
  simpa [owed, owes] using bound

theorem held_of_entry (t : Service) (id : String) (call : Pending)
    (found : t.pending[id]? = some call) : 1 <= t.held call.bridgeId := by
  have bound := le_total (holds call.bridgeId) t.pending id call found
  simpa [held, holds] using bound

variable {args : CheckArgs}

theorem Follows.posts (follows : Follows args t) :
    t.posts args.callback = if t.pending[args.token]?.isSome then 0 else 1 := by
  have balance := follows.balance
  cases found : t.pending[args.token]? with
  | some call =>
    have owed := owed_of_entry t args.token call found
    rw [follows.entry call found] at owed
    simp only [Option.isSome_some, if_true]
    omega
  | none =>
    have none : t.owed args.callback = 0 := by
      refine (total_eq_zero _ _).mpr fun id call present => ?_
      have other : call.callback ≠ args.callback := by
        intro same
        rw [follows.owner id call present same, found] at present
        contradiction
      simp [owes, other]
    simp only [Option.isSome_none, Bool.false_eq_true, if_false]
    omega

theorem Follows.other {later : CheckArgs} (follows : Follows args t)
    (fresh : t.Fresh later) : later.callback ≠ args.callback /\ later.token ≠ args.token := by
  constructor
  · intro same
    have balance := follows.balance
    have posted := fresh.posted
    have owed := fresh.owed
    rw [same] at posted owed
    omega
  · intro same
    obtain ⟨delay, posted⟩ := follows.registered
    exact fresh.token delay (same ▸ posted)

theorem Follows.next {op : ServiceOp} (follows : Follows args t)
    (inv : t.Inv) (permitted : t.permitted op) : Follows args (t.next platform op) := by
  have moves := next_moves platform t op inv permitted
  generalize t.next platform op = u at moves
  have others : ∀ later, op.registers later ->
      later.callback ≠ args.callback /\ later.token ≠ args.token :=
    fun later registers => follows.other (permitted_check_fresh permitted registers)
  constructor
  · have silent : op.issues args.callback = 0 := by
      cases op with
      | check view later => simp [ServiceOp.issues, (others later ⟨view, rfl⟩).1]
      | _ => rfl
    rw [moves.posted, silent]
    exact follows.balance
  · intro id call found same
    rcases moves.entries id call found with ⟨old, here, callback, -⟩ | ⟨later, registers, -, callback, -⟩
    · exact follows.owner id old here (callback.symm.trans same)
    · exact absurd (callback.symm.trans same) (others later registers).1
  · intro call found
    rcases moves.entries args.token call found with ⟨old, here, callback, -⟩ |
      ⟨later, registers, token, -⟩
    · exact callback.trans (follows.entry old here)
    · exact absurd token.symm (others later registers).2
  · obtain ⟨delay, posted⟩ := follows.registered
    exact ⟨delay, moves.grows posted⟩

theorem Follows.gone {op : ServiceOp} (follows : Follows args t)
    (inv : t.Inv) (permitted : t.permitted op) (gone : t.pending[args.token]? = none) :
    (t.next platform op).pending[args.token]? = none := by
  have moves := next_moves platform t op inv permitted
  by_contra present
  obtain ⟨call, found⟩ := Option.ne_none_iff_exists'.mp present
  rcases moves.entries args.token call found with ⟨old, here, -⟩ | ⟨later, registers, token, -⟩
  · rw [gone] at here
    contradiction
  · exact (follows.other (permitted_check_fresh permitted registers)).2 token.symm

structure FollowsBridge (args : CheckArgs) (answered : Bool) (t : Service) : Prop where
  called : t.calls args.bridgeId = 1
  balance : t.cancels args.bridgeId + t.held args.bridgeId + (if answered then 1 else 0) = 1
  owner : ∀ (id : String) (call : Pending), t.pending[id]? = some call →
    call.bridgeId = args.bridgeId → id = args.token
  entry : ∀ call : Pending, t.pending[args.token]? = some call →
    call.bridgeId = if answered then 0 else args.bridgeId

theorem FollowsBridge.cancels {answered : Bool} (follows : FollowsBridge args answered t) :
    t.cancels args.bridgeId = if t.pending[args.token]?.isSome || answered then 0 else 1 := by
  have balance := follows.balance
  cases answered with
  | true =>
    simp only [if_true] at balance
    simp only [Bool.or_true, if_true]
    omega
  | false =>
    cases found : t.pending[args.token]? with
    | some call =>
      have held := held_of_entry t args.token call found
      rw [follows.entry call found] at held
      simp only [Bool.false_eq_true, if_false, Option.isSome_some, Bool.true_or, if_true]
        at balance held ⊢
      omega
    | none =>
      have none : t.held args.bridgeId = 0 := by
        refine (total_eq_zero _ _).mpr fun id call present => ?_
        have other : call.bridgeId ≠ args.bridgeId := by
          intro same
          rw [follows.owner id call present same, found] at present
          contradiction
        simp [holds, other]
      simpa [none] using balance

theorem FollowsBridge.answered_eq {answered : Bool}
    (follows : FollowsBridge args answered t) (used : args.bridgeId ≠ 0) (op : ServiceOp) :
    op.answered t args.bridgeId = if op.answers t args.token && !answered then 1 else 0 := by
  cases op with
  | onCloud view id revision reply =>
    by_cases current : revision = t.revision
    · cases found : t.pending[id]? with
      | none =>
        by_cases same : id = args.token
        · subst same
          simp [ServiceOp.answered, ServiceOp.answers, current, found,
            Std.ExtTreeMap.contains_eq_isSome_getElem?]
        · simp [ServiceOp.answered, ServiceOp.answers, current, found, same]
      | some call =>
        by_cases same : id = args.token
        · subst same
          have bridge := follows.entry call found
          cases answered <;>
            simp_all [ServiceOp.answered, ServiceOp.answers, holds, used.symm,
              Std.ExtTreeMap.contains_eq_isSome_getElem?]
        · have other : call.bridgeId ≠ args.bridgeId :=
            fun equal => same (follows.owner id call found equal)
          simp [ServiceOp.answered, ServiceOp.answers, current, found, same, holds, other]
    · simp [ServiceOp.answered, ServiceOp.answers, current]
  | _ => simp [ServiceOp.answered, ServiceOp.answers]

theorem FollowsBridge.next {answered : Bool} {op : ServiceOp}
    (bridge : FollowsBridge args answered t) (follows : Follows args t) (used : args.bridgeId ≠ 0)
    (inv : t.Inv) (permitted : t.permitted op) :
    FollowsBridge args (answered || op.answers t args.token) (t.next platform op) := by
  have moves := next_moves platform t op inv permitted
  generalize t.next platform op = u at moves
  have others : ∀ later, op.registers later ->
      later.bridgeId ≠ args.bridgeId /\ later.token ≠ args.token := by
    intro later registers
    have fresh := permitted_check_fresh permitted registers
    refine ⟨fun same => ?_, (follows.other fresh).2⟩
    have unused := fresh.bridge (same ▸ used)
    rw [same, bridge.called] at unused
    contradiction
  have called : u.calls args.bridgeId = t.calls args.bridgeId := by
    rcases moves.called args.bridgeId with same | ⟨later, registers, reused, -⟩
    · exact same
    · exact absurd reused (others later registers).1
  constructor
  · rw [called, bridge.called]
  · have moved := moves.cancelled args.bridgeId used
    have balance := bridge.balance
    rw [bridge.answered_eq used op, called] at moved
    cases answered <;> cases taken : op.answers t args.token <;> simp_all
  · intro id call found same
    rcases moves.entries id call found with ⟨old, here, -, kept⟩ | ⟨later, registers, -, -, drawn, -⟩
    · by_cases detached : op.answers t id
      · rw [detached] at kept
        exact absurd (same.symm.trans kept) (by simpa using used)
      · exact bridge.owner id old here (by simpa [detached, same] using kept.symm)
    · rcases drawn with drawn | ⟨drawn, -⟩
      · exact absurd (drawn.symm.trans same) (others later registers).1
      · exact absurd (same.symm.trans drawn) used
  · intro call found
    rcases moves.entries args.token call found with ⟨old, here, -, kept⟩ |
      ⟨later, registers, token, -⟩
    · have before := bridge.entry old here
      cases answered <;> cases taken : op.answers t args.token <;> simp_all
    · exact absurd token.symm (others later registers).2

theorem check_registers (s : Service) (view : View) (args : CheckArgs) (id : String)
    (accepted : (s.check platform view args).1 = some id) :
    id = args.token /\
      .postTimeout args.token (min args.timeout kBudget) ∈ (s.check platform view args).2.effects := by
  rcases check_cases platform s view args with ⟨result, outcome⟩ | ⟨-, outcome⟩
  · simp [outcome] at accepted
  · obtain ⟨u, call, url, -, -, -, -, registered⟩ := registerCheck_eq platform s view args
    rw [outcome] at accepted
    refine ⟨(Option.some.inj accepted).symm, ?_⟩
    rw [outcome, registered]
    exact (maybeComplete_settles _ args.token).grows (by simp [emit, requested])

theorem check_follows (s : Service) (view : View) (args : CheckArgs) (id : String)
    (inv : s.Inv) (fresh : s.Fresh args) (accepted : (s.check platform view args).1 = some id) :
    Follows args (s.check platform view args).2 := by
  have moves := check_moves platform s view args (fresh.unused inv)
  have posted := (check_registers platform s view args id accepted).2
  generalize (s.check platform view args).2 = t at moves posted
  constructor
  · rw [moves.posted, fresh.posted, fresh.owed]
    simp [ServiceOp.issues]
  · intro other call found same
    rcases moves.entries other call found with ⟨old, here, callback, -⟩ | ⟨later, ⟨_, equal⟩, token, -⟩
    · have owed := owed_of_entry s other old here
      rw [<- callback, same, fresh.owed] at owed
      contradiction
    · obtain ⟨-, rfl⟩ := ServiceOp.check.inj equal
      exact token
  · intro call found
    rcases moves.entries args.token call found with ⟨old, here, -⟩ | ⟨later, ⟨_, equal⟩, -, callback, -⟩
    · rw [fresh.unused inv] at here
      contradiction
    · obtain ⟨-, rfl⟩ := ServiceOp.check.inj equal
      exact callback
  · exact ⟨_, posted⟩

theorem check_followsBridge (s : Service) (view : View) (args : CheckArgs) (inv : s.Inv)
    (fresh : s.Fresh args) (used : args.bridgeId ≠ 0)
    (called : 0 < (s.check platform view args).2.calls args.bridgeId) :
    FollowsBridge args false (s.check platform view args).2 := by
  have moves := check_moves platform s view args (fresh.unused inv)
  generalize (s.check platform view args).2 = t at moves called
  have unused := fresh.bridge used
  have one : t.calls args.bridgeId = 1 := by
    rcases moves.called args.bridgeId with same | ⟨-, -, -, more⟩ <;> omega
  have before := inv.bridges args.bridgeId used
  constructor
  · exact one
  · have moved := moves.cancelled args.bridgeId used
    simp only [ServiceOp.answered, Bool.false_eq_true, if_false] at moved ⊢
    omega
  · intro other call found same
    rcases moves.entries other call found with ⟨old, here, -, kept⟩ | ⟨later, ⟨_, equal⟩, token, -⟩
    · have held := held_of_entry s other old here
      simp only [ServiceOp.answers, Bool.false_eq_true, if_false] at kept
      rw [<- kept, same] at held
      omega
    · obtain ⟨-, rfl⟩ := ServiceOp.check.inj equal
      exact token
  · intro call found
    rcases moves.entries args.token call found with ⟨old, here, -⟩ |
      ⟨later, ⟨_, equal⟩, -, -, drawn, -⟩
    · rw [fresh.unused inv] at here
      contradiction
    · obtain ⟨-, rfl⟩ := ServiceOp.check.inj equal
      rcases drawn with drawn | ⟨-, same⟩
      · simpa using drawn
      · omega

-- The reply of this request was taken.
def wasAnswered (trace : List (Service × ServiceOp)) (id : String) : Bool :=
  trace.any fun entry => entry.2.answers entry.1 id

def ends (op : ServiceOp) (id : String) : Prop :=
  op = .timeout id ∨ ∃ view, op = .destroy view

theorem ends_removes (s : Service) (op : ServiceOp) (id : String) (last : ends op id) :
    (s.next platform op).pending[id]? = none := by
  rcases last with rfl | ⟨view, rfl⟩
  · exact timeout_removes s id
  · simp [Service.next, destroy, emit]

theorem run_follows
    (run : Trace (serviceStep platform) s trace t) (inv : s.Inv) (follows : Follows args s) :
    Follows args t /\ ((∃ entry ∈ trace, ends entry.2 args.token) ->
      t.pending[args.token]? = none) := by
  let followed (trace : List (Service × ServiceOp)) (t : Service) : Prop :=
    t.Inv /\ Follows args t /\
      ((∃ entry ∈ trace, ends entry.2 args.token) -> t.pending[args.token]? = none)
  have history : followed trace t := by
    refine run.history ?_ ⟨inv, follows, by simp⟩
    rintro past u op v ⟨before, follows, gone⟩ ⟨permitted, rfl⟩
    refine ⟨next_inv platform u op before permitted, follows.next platform before permitted, ?_⟩
    rintro ⟨entry, member, last⟩
    rcases List.mem_append.mp member with earlier | now
    · exact follows.gone platform before permitted (gone ⟨entry, earlier, last⟩)
    · obtain rfl := List.mem_singleton.mp now
      exact ends_removes platform u op args.token last
  exact history.2

theorem run_followsBridge
    (run : Trace (serviceStep platform) s trace t) (inv : s.Inv) (follows : Follows args s)
    (used : args.bridgeId ≠ 0) (bridge : FollowsBridge args false s) :
    FollowsBridge args (wasAnswered trace args.token) t := by
  let bridged (trace : List (Service × ServiceOp)) (t : Service) : Prop :=
    t.Inv /\ Follows args t /\ FollowsBridge args (wasAnswered trace args.token) t
  have history : bridged trace t := by
    refine run.history ?_ ⟨inv, follows, bridge⟩
    rintro past u op v ⟨before, follows, held⟩ ⟨permitted, rfl⟩
    refine ⟨next_inv platform u op before permitted, follows.next platform before permitted, ?_⟩
    have moved := held.next platform follows used before permitted
    simpa [wasAnswered] using moved
  exact history.2.2

theorem run_rejected {callback : Nat} (run : Trace (serviceStep platform) s trace t) (inv : s.Inv)
    (posted : s.posts callback = 1) (owed : s.owed callback = 0) : t.posts callback = 1 := by
  let settled (t : Service) : Prop := t.Inv /\ t.posts callback = 1 /\ t.owed callback = 0
  have kept : settled t := by
    refine run.preserves ?_ ⟨inv, posted, owed⟩
    rintro u op v ⟨before, done, free⟩ ⟨permitted, rfl⟩
    have moves := next_moves platform u op before permitted
    have others : ∀ later, op.registers later -> later.callback ≠ callback := by
      intro later registers same
      have unused := (permitted_check_fresh permitted registers).posted
      rw [same, done] at unused
      contradiction
    have silent : op.issues callback = 0 := by
      cases op with
      | check view later => simp [ServiceOp.issues, others later ⟨view, rfl⟩]
      | _ => rfl
    have total := moves.posted callback
    have none : (u.next platform op).owed callback = 0 := by
      refine (total_eq_zero _ _).mpr fun id call found => ?_
      have other : call.callback ≠ callback := by
        intro same
        rcases moves.entries id call found with ⟨old, here, kept, -⟩ | ⟨later, registers, -, kept, -⟩
        · have bound := owed_of_entry u id old here
          rw [<- kept, same] at bound
          omega
        · exact others later registers (kept.symm.trans same)
      simp [owes, other]
    exact ⟨next_inv platform u op before permitted, by omega, none⟩
  exact kept.2.1

theorem check_rejected (s : Service) (view : View) (args : CheckArgs) (fresh : s.Fresh args)
    (rejected : (s.check platform view args).1 = none) :
    (s.check platform view args).2.posts args.callback = 1 /\
      (s.check platform view args).2.owed args.callback = 0 := by
  rcases check_cases platform s view args with ⟨result, outcome⟩ | ⟨-, outcome⟩
  · rw [outcome]
    have posted := fresh.posted
    simp only [posts] at posted
    exact ⟨by simp [emit, posts, posted, Effect.postsTo], fresh.owed⟩
  · simp [outcome] at rejected

end Service

-- `empties` picks the moments at which a policy change must have left nothing behind.
structure ServiceGuarantees (platform : Platform) (empties : Service → ServiceOp → Prop)
    (trace : List (Service × ServiceOp)) (t : Service) : Prop where
  bounded : t.pending.size ≤ 128
  waiting : ∀ (id : String) (call : Pending), t.pending[id]? = some call →
    call.result.dangerous = false ∧ (call.waitingLocal || call.waitingCloud) = true
  -- Known risks, a full table and refused addresses are posted at once.
  rejected : ∀ before u view args after, trace = before ++ (u, ServiceOp.check view args) :: after →
    (u.check platform view args).1 = none → t.posts args.callback = 1
  once : ∀ before u view args after id,
    trace = before ++ (u, ServiceOp.check view args) :: after →
    (u.check platform view args).1 = some id →
    t.posts args.callback = if t.pending[id]?.isSome then 0 else 1
  timely : ∀ before u view args after id,
    trace = before ++ (u, ServiceOp.check view args) :: after →
    (u.check platform view args).1 = some id →
    Effect.postTimeout id (min args.timeout kBudget) ∈ (u.check platform view args).2.effects ∧
      ((∃ entry ∈ after, entry.2 = .timeout id ∨ ∃ view, entry.2 = .destroy view) →
        t.posts args.callback = 1)
  cancelled : ∀ before u view args after id,
    trace = before ++ (u, ServiceOp.check view args) :: after →
    (u.check platform view args).1 = some id → args.bridgeId ≠ 0 →
    0 < (u.check platform view args).2.calls args.bridgeId →
    t.cancels args.bridgeId =
      if t.pending[id]?.isSome || Service.wasAnswered after id then 0 else 1
  emptied : ∀ before u op after, trace = before ++ (u, op) :: after → empties u op →
    (u.next platform op).pending = ∅ ∧ (u.next platform op).cache = ∅
  isolated : ∀ view id revision reply,
    revision ≠ t.revision ∨ (∃ bridgeId url delay identity,
      Effect.callCheck bridgeId id url delay identity ∈ t.effects ∧
        identity.policyRevision < t.revision) →
    t.onCloud platform view id revision reply = t

/-- The guarantees at every moment of every run of a service. -/
def ServiceSound (platform : Platform) (empties : Service → ServiceOp → Prop) : Prop :=
  ∀ start trace t, Service.constructed platform start →
    Trace (Service.serviceStep platform) start trace t →
    ServiceGuarantees platform empties trace t

def beforeObservers (platform : Platform) (s : Service) (op : ServiceOp) : Prop :=
  (s.next platform op).revision ≠ s.revision

-- The return of an operation that changed the revision, its observers' own calls made.
def afterObservers (_ : Service) (op : ServiceOp) : Prop := op = .notified

open Service in
theorem service_sound (platform : Platform) :
    ServiceSound platform (beforeObservers platform) := by
  intro start trace t initial run
  have inv := run_inv platform run (constructed_inv platform start initial)
  have at_ : ∀ before u op after, trace = before ++ (u, op) :: after →
      u.Inv ∧ u.permitted op ∧ Trace (serviceStep platform) (u.next platform op) after t := by
    rintro before u op after rfl
    obtain ⟨v, earlier, ⟨permitted, rfl⟩, later⟩ := run.split_cons
    exact ⟨run_inv platform earlier (constructed_inv platform start initial), permitted, later⟩
  have follow : ∀ before u view args after id,
      trace = before ++ (u, ServiceOp.check view args) :: after →
      (u.check platform view args).1 = some id →
      id = args.token ∧ Follows args t ∧ ((∃ entry ∈ after, ends entry.2 args.token) →
        t.pending[args.token]? = none) := by
    intro before u view args after id split accepted
    obtain ⟨started, permitted, later⟩ := at_ before u _ after split
    have registered := check_registers platform u view args id accepted
    have follows := check_follows platform u view args id started permitted.2 accepted
    exact ⟨registered.1, run_follows platform later (next_inv platform u _ started permitted) follows⟩
  constructor
  · exact inv.bounded
  · exact inv.waits
  · intro before u view args after split rejected
    obtain ⟨started, permitted, later⟩ := at_ before u _ after split
    obtain ⟨posted, owed⟩ := check_rejected platform u view args permitted.2 rejected
    exact run_rejected platform later (next_inv platform u _ started permitted) posted owed
  · intro before u view args after id split accepted
    obtain ⟨rfl, follows, -⟩ := follow before u view args after id split accepted
    exact follows.posts
  · intro before u view args after id split accepted
    have registered := check_registers platform u view args id accepted
    obtain ⟨rfl, follows, gone⟩ := follow before u view args after id split accepted
    refine ⟨registered.2, fun finished => ?_⟩
    rw [follows.posts, gone finished]
    rfl
  · intro before u view args after id split accepted used called
    obtain ⟨rfl, -⟩ := follow before u view args after id split accepted
    obtain ⟨started, permitted, later⟩ := at_ before u _ after split
    have follows := check_follows platform u view args _ started permitted.2 accepted
    have bridge := check_followsBridge platform u view args started permitted.2 used called
    exact (run_followsBridge platform later (next_inv platform u _ started permitted) follows used
      bridge).cancels
  · intro before u op after split changed
    obtain ⟨started, permitted, -⟩ := at_ before u op after split
    rcases (next_moves platform u op started permitted).revision with same | ⟨-, empty, cache, -⟩
    · exact absurd same changed
    · exact ⟨empty, cache⟩
  · intro view id revision reply old
    refine onCloud_stale platform t view id revision reply ?_
    rcases old with older | ⟨bridgeId, url, delay, identity, called, older⟩
    · exact .inl older
    · exact .inr ((inv.requests bridgeId id url delay identity called).2.2 older)

def counterView : View where
  updater := some { status := .loading }
  sources := none
  updaterNotifies := false
  sourcesNotify := false
  userModifiable := true
  wall := 0
  ticks := 0
  laterTicks := 0

def counterService : Service :=
  Service.construct counterPlatform counterView [] false "context"

def counterCommand : Base.DictValue :=
  [("contextId", .string "context"), ("expectedRevision", .int 1), ("enabled", .bool true),
    ("cloudConsent", .bool false), ("provider", .string "local")]

def counterConfigured : Service :=
  counterService.next counterPlatform (.configure counterView counterCommand)

-- The check a navigation restarts when its policy changes.
def counterRecheck : Service.CheckArgs :=
  { url := ⟨"https://example.com/"⟩, timeout := kBudget, callback := 1, token := "token", bridgeId := 0 }

def counterRechecked : Service :=
  counterConfigured.next counterPlatform (.check counterView counterRecheck)

theorem pending_after_policy_change : ¬ ServiceSound counterPlatform afterObservers := by
  intro sound
  have configure : Service.serviceStep counterPlatform counterService
      (.configure counterView counterCommand) counterConfigured := ⟨⟨rfl, rfl⟩, rfl⟩
  have recheck : Service.serviceStep counterPlatform counterConfigured
      (.check counterView counterRecheck) counterRechecked := by
    have effects : counterConfigured.effects =
        [.acquireUpdater, .sendControl "configure" none ⟨"context", 2⟩] := by decide
    exact ⟨⟨by decide, by simp [effects], by decide, by decide, by decide⟩, rfl⟩
  have returns : Service.serviceStep counterPlatform counterRechecked .notified
      counterRechecked.notified := ⟨⟨by decide, by decide⟩, rfl⟩
  have guarantees := sound counterService _ _ ⟨counterView, [], false, "context", rfl⟩
    (.cons configure (.cons recheck (.cons returns (.nil _))))
  have empty := (guarantees.emptied [_, _] counterRechecked .notified [] rfl rfl).1
  have one : (counterRechecked.next counterPlatform .notified).pending.size = 1 := by decide
  rw [empty] at one
  simp at one

end ChromiumHmos.UrlProtection
