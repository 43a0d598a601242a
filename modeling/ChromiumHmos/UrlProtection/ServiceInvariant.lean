import ChromiumHmos.UrlProtection.ServiceSteps

set_option autoImplicit false

/-!
# The invariant of the service

`Moves` says once what a step may do to the entries, the posted results and the bridge
calls; the invariant and the life of one check are derived from it.
-/

namespace ChromiumHmos.UrlProtection

open Base OrderedMap

namespace ServiceOp

def issues (op : ServiceOp) (callback : Nat) : Nat :=
  match op with
  | .check _ args => if args.callback = callback then 1 else 0
  | _ => 0

-- A reply `OnCloud` takes: its request waits and was issued under this revision.
def answers (op : ServiceOp) (s : Service) (id : String) : Bool :=
  match op with
  | .onCloud _ other revision _ => other == id && revision == s.revision && s.pending.contains id
  | _ => false

-- How many waiting bridge calls with this id the step answers.
def answered (op : ServiceOp) (s : Service) (bridgeId : Int) : Nat :=
  match op with
  | .onCloud _ id revision _ =>
    if revision = s.revision then
      match s.pending[id]? with
      | some call => Service.holds bridgeId id call
      | none => 0
    else 0
  | _ => 0

def registers (op : ServiceOp) (args : Service.CheckArgs) : Prop :=
  ∃ view, op = .check view args

end ServiceOp

namespace Service

variable (platform : Platform)

structure Moves (s : Service) (op : ServiceOp) (t : Service) : Prop where
  entries : ∀ (id : String) (call : Pending), t.pending[id]? = some call →
    (∃ old : Pending, s.pending[id]? = some old ∧ call.callback = old.callback ∧
      call.bridgeId = if op.answers s id then 0 else old.bridgeId) ∨
    (∃ args, op.registers args ∧ id = args.token ∧ call.callback = args.callback ∧
      (call.bridgeId = args.bridgeId ∨
        call.bridgeId = 0 ∧ t.calls args.bridgeId = s.calls args.bridgeId) ∧
      ∃ delay, .postTimeout args.token delay ∈ t.effects)
  posted : ∀ callback, t.posts callback + t.owed callback =
    s.posts callback + s.owed callback + op.issues callback
  cancelled : ∀ bridgeId, bridgeId ≠ 0 →
    t.cancels bridgeId + t.held bridgeId + op.answered s bridgeId + s.calls bridgeId =
      s.cancels bridgeId + s.held bridgeId + t.calls bridgeId
  called : ∀ bridgeId, t.calls bridgeId = s.calls bridgeId ∨
    ∃ args, op.registers args ∧ args.bridgeId = bridgeId ∧
      t.calls bridgeId = s.calls bridgeId + 1
  grows : s.effects ⊆ t.effects
  requests : ∀ effect ∈ t.effects, effect.requests → effect ∈ s.effects ∨
    ∃ args, op.registers args ∧
      ((∃ delay, effect = .postTimeout args.token delay) ∨
        (∃ url delay identity, effect = .callCheck args.bridgeId args.token url delay identity ∧
          identity.policyRevision = s.revision ∧ .postTimeout args.token delay ∈ t.effects))
  bounded : s.pending.size ≤ 128 → t.pending.size ≤ 128
  revision : t.revision = s.revision ∨
    (t.revision = s.revision + 1 ∧ t.pending = ∅ ∧ t.cache = ∅ ∧ t.notifying.isSome)
  notifying : ∀ rest, t.notifying = some rest → s.notifying = some rest ∨
    ∀ effect ∈ rest, effect.neutral = true

variable {s t : Service} {op : ServiceOp}

theorem moves_of_balances (balances : Balances s t)
    (issues : ∀ callback, op.issues callback = 0) (answers : ∀ id, op.answers s id = false)
    (answered : ∀ bridgeId, op.answered s bridgeId = 0)
    (revision : t.revision = s.revision \/
      (t.revision = s.revision + 1 /\ t.pending = ∅ /\ t.cache = ∅ /\ t.notifying.isSome))
    (notifying : ∀ rest, t.notifying = some rest -> s.notifying = some rest \/
      ∀ effect ∈ rest, effect.neutral = true) : Moves s op t where
  entries := by
    intro id call found
    obtain ⟨old, present, callback, bridge⟩ := balances.entries id call found
    exact .inl ⟨old, present, callback, by simpa [answers] using bridge⟩
  posted := fun callback => by rw [balances.posted, issues]; rfl
  cancelled := by
    intro bridgeId used
    rw [balances.cancelled bridgeId used, balances.called, answered, Nat.add_zero]
  called := fun bridgeId => .inl (balances.called bridgeId)
  grows := balances.grows
  requests := fun effect member request => .inl (balances.requests effect member request)
  bounded := le_trans balances.size
  revision := revision
  notifying := notifying

theorem moves_of_settles (settles : Settles s t)
    (issues : ∀ callback, op.issues callback = 0) (answers : ∀ id, op.answers s id = false)
    (answered : ∀ bridgeId, op.answered s bridgeId = 0) : Moves s op t :=
  moves_of_balances settles.toBalances issues answers answered (.inl settles.revision)
    fun _ pending => .inl (settles.notifying ▸ pending)

theorem moves_of_restarts (restarts : Restarts s t)
    (issues : ∀ callback, op.issues callback = 0) (answers : ∀ id, op.answers s id = false)
    (answered : ∀ bridgeId, op.answered s bridgeId = 0) : Moves s op t := by
  obtain ⟨rest, pending, neutral⟩ := restarts.notifying
  refine moves_of_balances restarts.toBalances issues answers answered
    (.inr ⟨restarts.revision, restarts.pending, restarts.cache, by simp [pending]⟩) ?_
  intro other same
  rw [pending, Option.some.injEq] at same
  exact .inr (same ▸ neutral)

theorem onCloud_stale (s : Service) (view : View) (id : String) (revision : Int) (reply : Reply)
    (stale : revision ≠ s.revision \/ s.pending[id]? = none) :
    s.onCloud platform view id revision reply = s := by
  unfold onCloud
  cases found : s.pending[id]? with
  | none => rfl
  | some call =>
    have older : revision ≠ s.revision := by simpa [found] using stale
    simp [older]

theorem mergeCloud_same (call : Pending) (cloud : Result) :
    (mergeCloud call cloud).callback = call.callback /\
      (mergeCloud call cloud).bridgeId = call.bridgeId := by
  unfold mergeCloud
  split <;> exact ⟨rfl, rfl⟩

theorem Moves.settle {u : Service} (moves : Moves s op u)
    (settles : Settles u t) : Moves s op t where
  entries := by
    intro id call found
    obtain ⟨middle, present, callback, bridge⟩ := settles.entries id call found
    rcases moves.entries id middle present with ⟨old, here, oldCallback, oldBridge⟩ |
      ⟨args, registers, token, oldCallback, oldBridge, delay, posted⟩
    · exact .inl ⟨old, here, callback.trans oldCallback, bridge.trans oldBridge⟩
    · refine .inr ⟨args, registers, token, callback.trans oldCallback, ?_, delay,
        settles.grows posted⟩
      rw [bridge, settles.called]
      exact oldBridge
  posted := fun callback => (settles.posted callback).trans (moves.posted callback)
  cancelled := by
    intro bridgeId used
    rw [settles.cancelled bridgeId used, settles.called]
    exact moves.cancelled bridgeId used
  called := fun bridgeId => by simpa [settles.called] using moves.called bridgeId
  grows := List.Subset.trans moves.grows settles.grows
  requests := by
    intro effect member request
    rcases moves.requests effect (settles.requests effect member request) request with
      before | ⟨args, registers, timeout | ⟨url, delay, identity, called, current, posted⟩⟩
    · exact .inl before
    · exact .inr ⟨args, registers, .inl timeout⟩
    · exact .inr ⟨args, registers, .inr ⟨url, delay, identity, called, current,
        settles.grows posted⟩⟩
  bounded := fun bound => le_trans settles.size (moves.bounded bound)
  revision := by
    rcases moves.revision with same | ⟨next, pending, cache, notifying⟩
    · exact .inl (settles.revision.trans same)
    · exact .inr ⟨settles.revision.trans next, settles.toBalances.stays_empty pending,
        settles.cache.trans cache, settles.notifying ▸ notifying⟩
  notifying := fun rest pending => moves.notifying rest (settles.notifying ▸ pending)

theorem onCloud_answers (s : Service) (view : View) (id : String) (reply : Reply)
    (call : Pending) (found : s.pending[id]? = some call) :
    ∃ (u : Service) (entry : Pending),
      s.onCloud platform view id s.revision reply =
        (u.maybeComplete id).emit [.broadcast "urlProtectionStateChanged"] ∧
      u.pending = s.pending.insert id entry /\ entry.callback = call.callback /\
      entry.bridgeId = 0 /\ u.effects = s.effects /\ u.revision = s.revision /\
      u.notifying = s.notifying := by
  unfold onCloud
  simp only [found, ne_eq, not_true_eq_false, if_false]
  split
  · exact ⟨_, _, rfl, rfl, (mergeCloud_same _ _).1, (mergeCloud_same _ _).2, rfl, rfl, rfl⟩
  · exact ⟨_, _, rfl, rfl, rfl, rfl, rfl, rfl, rfl⟩

theorem size_insert_found (entries : Std.ExtTreeMap String Pending) (id : String)
    (old call : Pending) (found : entries[id]? = some old) :
    (entries.insert id call).size = entries.size := by
  have known : id ∈ entries := by
    rw [Std.ExtTreeMap.mem_iff_isSome_getElem?, found]
    rfl
  simp [Std.ExtTreeMap.size_insert, known]

theorem onCloud_moves (s : Service) (view : View) (id : String) (revision : Int) (reply : Reply) :
    Moves s (.onCloud view id revision reply) (s.onCloud platform view id revision reply) := by
  by_cases stale : revision ≠ s.revision \/ s.pending[id]? = none
  · rw [onCloud_stale platform s view id revision reply stale]
    refine moves_of_settles (.refl s) (fun _ => rfl) ?_ ?_
    · intro other
      rcases stale with older | missing
      · simp [ServiceOp.answers, older]
      · by_cases same : id = other
        · subst same
          simp [ServiceOp.answers, Std.ExtTreeMap.contains_eq_isSome_getElem?, missing]
        · simp [ServiceOp.answers, same]
    · intro bridgeId
      rcases stale with older | missing
      · simp [ServiceOp.answered, older]
      · simp [ServiceOp.answered, missing]
  · simp only [not_or, ne_eq, not_not] at stale
    obtain ⟨rfl, present⟩ := stale
    obtain ⟨call, found⟩ := Option.ne_none_iff_exists'.mp present
    obtain ⟨u, entry, outcome, pending, callback, detached, effects, revision, notifying⟩ :=
      onCloud_answers platform s view id reply call found
    have answered : Moves s (.onCloud view id s.revision reply) u := by
      constructor
      · intro other held here
        rw [pending] at here
        rcases (getElem?_insert_some _ _ _ _ _).mp here with ⟨rfl, rfl⟩ | ⟨distinct, kept⟩
        · exact .inl ⟨call, found, callback, by
            simp [ServiceOp.answers, Std.ExtTreeMap.contains_eq_isSome_getElem?, found, detached]⟩
        · exact .inl ⟨held, kept, rfl, by simp [ServiceOp.answers, distinct.symm]⟩
      · intro target
        have moved := total_insert_found (owes target) s.pending id call entry found
        simp only [owes, callback, Nat.add_right_cancel_iff] at moved
        simp only [posts, owed, effects, pending, moved, ServiceOp.issues, Nat.add_zero]
      · intro target used
        have moved := total_insert_found (holds target) s.pending id call entry found
        have released : holds target id entry = 0 := by simp [holds, detached, used.symm]
        simp only [cancels, held, calls, effects, pending, ServiceOp.answered, if_true, found]
        omega
      · exact fun target => .inl (by simp only [calls, effects])
      · rw [effects]
        exact List.Subset.refl _
      · intro effect member request
        exact .inl (effects ▸ member)
      · intro bound
        rw [pending, size_insert_found _ _ _ _ found]
        exact bound
      · exact .inl revision
      · exact fun rest waiting => .inl (notifying ▸ waiting)
    rw [outcome]
    exact answered.settle ((maybeComplete_settles u id).trans
      (emit_settles _ _ (List.forall_mem_singleton.mpr rfl)))

theorem newPending_same (s : Service) (view : View) (args : CheckArgs) :
    (s.newPending platform view args).callback = args.callback /\
      (s.newPending platform view args).bridgeId =
        if (s.newPending platform view args).waitingCloud then args.bridgeId else 0 := by
  have local_ (call : Pending) :
      (s.checkLocal platform view call).callback = call.callback /\
        (s.checkLocal platform view call).bridgeId = call.bridgeId /\
          (s.checkLocal platform view call).waitingCloud = call.waitingCloud := by
    unfold checkLocal
    grind
  unfold newPending
  grind

-- What `Check` sends for an entry it registers.
def requested (identity : Identity) (args : CheckArgs) (cloud : Bool) (url : String)
    (delay : TimeDelta) : List Effect :=
  (if cloud then [.callCheck args.bridgeId args.token url delay identity] else []) ++
    [.postTimeout args.token delay]

theorem requested_counts (identity : Identity) (args : CheckArgs) (cloud : Bool) (url : String)
    (delay : TimeDelta) :
    (∀ callback, (requested identity args cloud url delay).countP (Effect.postsTo callback) = 0) /\
      (∀ bridgeId,
        (requested identity args cloud url delay).countP (Effect.cancelsBridge bridgeId) = 0) /\
      (∀ bridgeId, (requested identity args cloud url delay).countP (Effect.callsBridge bridgeId) =
        if cloud /\ args.bridgeId = bridgeId then 1 else 0) := by
  cases cloud <;> simp [requested, Effect.postsTo, Effect.cancelsBridge, Effect.callsBridge,
    List.countP_cons]

theorem register_moves (s : Service) (view : View) (args : CheckArgs) (call : Pending)
    (url : String) (delay : TimeDelta) (fresh : s.pending[args.token]? = none)
    (callback : call.callback = args.callback)
    (bridge : call.bridgeId = if call.waitingCloud then args.bridgeId else 0)
    (room : s.pending.size < 128) :
    Moves s (.check view args) (({ s with pending := s.pending.insertIfNew args.token call } :
      Service).emit (requested s.identity args call.waitingCloud url delay)) := by
  obtain ⟨posted, cancelled, called⟩ := requested_counts s.identity args call.waitingCloud url delay
  rw [insertIfNew_fresh _ _ _ fresh]
  constructor
  · intro other entry found
    rcases (getElem?_insert_some _ _ _ _ _).mp found with ⟨rfl, rfl⟩ | ⟨-, kept⟩
    · refine .inr ⟨args, ⟨view, rfl⟩, rfl, callback, ?_, delay, by simp [emit, requested]⟩
      by_cases cloud : entry.waitingCloud
      · exact .inl (by simpa [cloud] using bridge)
      · exact .inr (by simp [bridge, cloud, emit, calls, requested, Effect.callsBridge])
    · exact .inl ⟨entry, kept, rfl, rfl⟩
  · intro target
    have added := total_insert_fresh (owes target) s.pending args.token call fresh
    simp only [emit, posts, owed, List.countP_append, added, posted, ServiceOp.issues, owes,
      callback]
    omega
  · intro target used
    have added := total_insert_fresh (holds target) s.pending args.token call fresh
    have held : holds target args.token call =
        if call.waitingCloud /\ args.bridgeId = target then 1 else 0 := by
      by_cases cloud : call.waitingCloud <;> simp [holds, bridge, cloud, used.symm]
    simp only [emit, cancels, Service.held, calls, List.countP_append, added, cancelled, called,
      held, ServiceOp.answered]
    omega
  · intro target
    simp only [emit, calls, List.countP_append, called]
    by_cases asked : call.waitingCloud /\ args.bridgeId = target
    · exact .inr ⟨args, ⟨view, rfl⟩, asked.2, by simp [asked]⟩
    · exact .inl (by simp [asked])
  · simp [emit]
  · intro effect member request
    rcases List.mem_append.mp member with before | added
    · exact .inl before
    · refine .inr ⟨args, ⟨view, rfl⟩, ?_⟩
      rcases List.mem_append.mp added with asked | posted
      · by_cases cloud : call.waitingCloud
        · simp only [cloud, if_true, List.mem_singleton] at asked
          exact .inr ⟨url, delay, s.identity, asked, rfl, by simp [emit, requested]⟩
        · simp [cloud] at asked
      · exact .inl ⟨delay, List.mem_singleton.mp posted⟩
  · intro _
    exact le_trans Std.ExtTreeMap.size_insert_le room
  · exact .inl rfl
  · exact fun _ waiting => .inl waiting

theorem reject_moves (s : Service) (view : View) (args : CheckArgs) (result : Result) :
    Moves s (.check view args) (s.emit [.postResult args.callback result]) where
  entries := fun _ call found => .inl ⟨call, found, rfl, rfl⟩
  posted := by
    intro target
    simp only [emit, posts, owed, ServiceOp.issues, List.countP_append, List.countP_singleton,
      Effect.postsTo, beq_iff_eq]
    omega
  cancelled := by
    intro target _
    simp [emit, cancels, held, calls, ServiceOp.answered, Effect.cancelsBridge, Effect.callsBridge]
  called := fun target => .inl (by simp [emit, calls, Effect.callsBridge])
  grows := by simp [emit]
  requests := by
    intro effect member request
    rcases List.mem_append.mp member with before | added
    · exact .inl before
    · simp [List.mem_singleton.mp added, Effect.requests] at request
  bounded := fun bound => bound
  revision := .inl rfl
  notifying := fun _ waiting => .inl waiting

theorem Settles.moves {u : Service} (settles : Settles s u)
    (moves : Moves u op t) (answers : ∀ v id, op.answers v id = false)
    (answered : ∀ v bridgeId, op.answered v bridgeId = 0) : Moves s op t where
  entries := by
    intro id call found
    rcases moves.entries id call found with ⟨middle, present, callback, bridge⟩ |
      ⟨args, registers, token, callback, bridge, posted⟩
    · obtain ⟨old, here, oldCallback, oldBridge⟩ := settles.entries id middle present
      refine .inl ⟨old, here, callback.trans oldCallback, ?_⟩
      simpa [answers, oldBridge] using bridge
    · exact .inr ⟨args, registers, token, callback, by rwa [<- settles.called], posted⟩
  posted := by
    intro callback
    rw [moves.posted, settles.posted]
  cancelled := by
    intro bridgeId used
    have first := settles.cancelled bridgeId used
    have second := moves.cancelled bridgeId used
    rw [answered] at second ⊢
    rw [<- settles.called]
    omega
  called := fun bridgeId => by simpa [settles.called] using moves.called bridgeId
  grows := List.Subset.trans settles.grows moves.grows
  requests := by
    intro effect member request
    rcases moves.requests effect member request with before | ⟨args, registers, sent⟩
    · exact .inl (settles.requests effect before request)
    · rw [settles.revision] at sent
      exact .inr ⟨args, registers, sent⟩
  bounded := fun bound => moves.bounded (le_trans settles.size bound)
  revision := by
    rcases moves.revision with same | ⟨next, rest⟩
    · exact .inl (same.trans settles.revision)
    · exact .inr ⟨by rw [next, settles.revision], rest⟩
  notifying := by
    intro rest waiting
    rw [<- settles.notifying]
    exact moves.notifying rest waiting

theorem registerCheck_eq (s : Service) (view : View) (args : CheckArgs) :
    ∃ u call url, Settles s u /\ (s.waits -> u.waits) /\
      call.callback = args.callback /\
      (call.bridgeId = if call.waitingCloud then args.bridgeId else 0) /\
      s.registerCheck platform view args =
        (({ u with pending := u.pending.insertIfNew args.token call } : Service).emit
          (requested u.identity args call.waitingCloud url (min args.timeout kBudget))).maybeComplete
            args.token := by
  unfold registerCheck
  split
  · exact ⟨_, _, _, ensureRules_settles platform s view, ensureRules_waits platform s view,
      (newPending_same platform _ view args).1, (newPending_same platform _ view args).2, rfl⟩
  · exact ⟨s, _, _, .refl s, fun waits => waits, (newPending_same platform _ view args).1,
      (newPending_same platform _ view args).2, rfl⟩

theorem check_cases (s : Service) (view : View) (args : CheckArgs) :
    (∃ result, s.check platform view args = (none, s.emit [.postResult args.callback result])) \/
      (s.pending.size < 128 /\
        s.check platform view args = (some args.token, s.registerCheck platform view args)) := by
  unfold check
  split
  · exact .inl ⟨_, rfl⟩
  dsimp only
  split
  · exact .inl ⟨_, rfl⟩
  split
  · exact .inl ⟨_, rfl⟩
  next room =>
    refine .inr ⟨?_, rfl⟩
    simp only [Bool.or_eq_true, not_or, decide_eq_true_eq] at room
    omega

theorem check_moves (s : Service) (view : View) (args : CheckArgs)
    (fresh : s.pending[args.token]? = none) :
    Moves s (.check view args) (s.check platform view args).2 := by
  rcases check_cases platform s view args with ⟨result, outcome⟩ | ⟨room, outcome⟩
  · rw [outcome]
    exact reject_moves s view args result
  · obtain ⟨u, call, url, settles, -, callback, bridge, registered⟩ :=
      registerCheck_eq platform s view args
    rw [outcome, registered]
    have unused : u.pending[args.token]? = none := by
      by_contra present
      obtain ⟨entry, found⟩ := Option.ne_none_iff_exists'.mp present
      obtain ⟨old, here, -⟩ := settles.entries args.token entry found
      simp [fresh] at here
    have moves := register_moves u view args call url (min args.timeout kBudget) unused callback
      bridge (lt_of_le_of_lt settles.size room)
    exact (settles.moves moves (fun _ _ => rfl) (fun _ _ => rfl)).settle (maybeComplete_settles _ _)

theorem check_waits (s : Service) (view : View) (args : CheckArgs) (waits : s.waits) :
    (s.check platform view args).2.waits := by
  rcases check_cases platform s view args with ⟨result, outcome⟩ | ⟨-, outcome⟩
  · rw [outcome]
    exact waits
  · obtain ⟨u, call, url, settles, kept, -, -, registered⟩ :=
      registerCheck_eq platform s view args
    rw [outcome, registered]
    refine maybeComplete_waits _ args.token fun other entry distinct found => ?_
    simp only [emit, Std.ExtTreeMap.getElem?_insertIfNew, compare_eq_iff_eq, distinct.symm,
      false_and, if_false] at found
    exact kept waits other entry found

structure Inv (s : Service) : Prop where
  bounded : s.pending.size ≤ 128
  waits : s.waits
  registered : ∀ (id : String) (call : Pending), s.pending[id]? = some call →
    ∃ delay, .postTimeout id delay ∈ s.effects
  requests : ∀ bridgeId id url delay identity,
    .callCheck bridgeId id url delay identity ∈ s.effects →
      (∃ wait, .postTimeout id wait ∈ s.effects) ∧ identity.policyRevision ≤ s.revision ∧
        (identity.policyRevision < s.revision → s.pending[id]? = none)
  bridges : ∀ bridgeId, bridgeId ≠ 0 → s.cancels bridgeId + s.held bridgeId ≤ s.calls bridgeId
  neutral : ∀ rest, s.notifying = some rest → ∀ effect ∈ rest, effect.neutral = true

theorem Fresh.unused {args : CheckArgs} (fresh : s.Fresh args) (inv : s.Inv) :
    s.pending[args.token]? = none := by
  by_contra present
  obtain ⟨call, found⟩ := Option.ne_none_iff_exists'.mp present
  obtain ⟨delay, posted⟩ := inv.registered args.token call found
  exact fresh.token delay posted

theorem next_moves (s : Service) (op : ServiceOp) (inv : s.Inv) (permitted : s.permitted op) :
    Moves s op (s.next platform op) := by
  obtain ⟨-, allowed⟩ := permitted
  cases op with
  | check view args => exact check_moves platform s view args (allowed.unused inv)
  | onCloud view id revision reply => exact onCloud_moves platform s view id revision reply
  | onRules view =>
    exact moves_of_settles (onRules_settles platform s view) (fun _ => rfl) (fun _ => rfl)
      (fun _ => rfl)
  | onSources policyChanged =>
    rcases onSources_cases s policyChanged with ⟨settles, -⟩ | restarts
    · exact moves_of_settles settles (fun _ => rfl) (fun _ => rfl) (fun _ => rfl)
    · exact moves_of_restarts restarts (fun _ => rfl) (fun _ => rfl) (fun _ => rfl)
  | timeout id =>
    exact moves_of_settles (timeout_settles s id) (fun _ => rfl) (fun _ => rfl) (fun _ => rfl)
  | cancel id =>
    exact moves_of_settles (cancel_settles s id) (fun _ => rfl) (fun _ => rfl) (fun _ => rfl)
  | configure view command =>
    rcases configure_cases platform s view command with same | restarts
    · rw [next, same]
      exact moves_of_settles (.refl s) (fun _ => rfl) (fun _ => rfl) (fun _ => rfl)
    · exact moves_of_restarts restarts (fun _ => rfl) (fun _ => rfl) (fun _ => rfl)
  | setSiteEnabled view url enabled =>
    rcases setSiteEnabled_cases platform s view url enabled with same | restarts
    · rw [next, same]
      exact moves_of_settles (.refl s) (fun _ => rfl) (fun _ => rfl) (fun _ => rfl)
    · exact moves_of_restarts restarts (fun _ => rfl) (fun _ => rfl) (fun _ => rfl)
  | notified =>
    refine moves_of_balances (notified_balances s inv.neutral) (fun _ => rfl) (fun _ => rfl)
      (fun _ => rfl) (.inl ?_) ?_
    · unfold next notified
      cases s.notifying <;> rfl
    · intro rest waiting
      unfold next notified at waiting
      cases pending : s.notifying <;> simp [pending, emit] at waiting
  | destroy view =>
    refine moves_of_balances (destroy_balances s view) (fun _ => rfl) (fun _ => rfl)
      (fun _ => rfl) (.inl ?_) ?_
    · simp only [next, destroy, emit, cancelAll]
      split <;> split <;> rfl
    · intro rest waiting
      refine .inl (waiting.symm.trans ?_).symm
      simp only [next, destroy, emit, cancelAll]
      split <;> split <;> rfl

theorem next_waits (s : Service) (op : ServiceOp) (waits : s.waits) :
    (s.next platform op).waits := by
  cases op with
  | check view args => exact check_waits platform s view args waits
  | onCloud view id revision reply =>
    by_cases stale : revision ≠ s.revision \/ s.pending[id]? = none
    · rw [next, onCloud_stale platform s view id revision reply stale]
      exact waits
    · simp only [not_or, ne_eq, not_not] at stale
      obtain ⟨rfl, present⟩ := stale
      obtain ⟨call, found⟩ := Option.ne_none_iff_exists'.mp present
      obtain ⟨u, entry, outcome, pending, -⟩ :=
        onCloud_answers platform s view id reply call found
      rw [next, outcome]
      refine maybeComplete_waits u id fun other call distinct here => ?_
      rw [pending, getElem?_insert_of_ne _ _ _ _ distinct] at here
      exact waits other call here
  | onRules view => exact onRules_waits platform s view waits
  | onSources policyChanged =>
    rcases onSources_cases s policyChanged with ⟨-, same⟩ | restarts
    · intro id call found
      rw [next, same] at found
      exact waits id call found
    · exact waits_empty _ restarts.pending
  | timeout id => exact timeout_waits s id waits
  | cancel id => exact cancel_waits s id waits
  | configure view command =>
    rcases configure_cases platform s view command with same | restarts
    · rw [next, same]
      exact waits
    · exact waits_empty _ restarts.pending
  | setSiteEnabled view url enabled =>
    rcases setSiteEnabled_cases platform s view url enabled with same | restarts
    · rw [next, same]
      exact waits
    · exact waits_empty _ restarts.pending
  | notified =>
    unfold next notified
    cases s.notifying <;> exact waits
  | destroy view => exact waits_empty _ rfl

theorem permitted_check_fresh (permitted : s.permitted op)
    {args : CheckArgs} (registers : op.registers args) : s.Fresh args := by
  obtain ⟨view, rfl⟩ := registers
  exact permitted.2

theorem next_inv (s : Service) (op : ServiceOp) (inv : s.Inv) (permitted : s.permitted op) :
    (s.next platform op).Inv := by
  have moves := next_moves platform s op inv permitted
  generalize target : s.next platform op = t at moves ⊢
  refine ⟨moves.bounded inv.bounded, target ▸ next_waits platform s op inv.waits, ?_, ?_, ?_, ?_⟩
  · intro id call found
    rcases moves.entries id call found with ⟨old, here, -⟩ | ⟨args, -, rfl, -, -, posted⟩
    · obtain ⟨delay, posted⟩ := inv.registered id old here
      exact ⟨delay, moves.grows posted⟩
    · exact posted
  · intro bridgeId id url delay identity called
    rcases moves.requests _ called rfl with before | ⟨args, registers, ⟨wait, sent⟩ |
      ⟨page, wait, issued, sent, current, posted⟩⟩
    · obtain ⟨⟨wait, posted⟩, bound, gone⟩ := inv.requests bridgeId id url delay identity before
      refine ⟨⟨wait, moves.grows posted⟩, ?_, fun older => ?_⟩
      · rcases moves.revision with same | ⟨next, -⟩ <;> omega
      · by_contra present
        obtain ⟨call, found⟩ := Option.ne_none_iff_exists'.mp present
        rcases moves.revision with same | ⟨-, empty, -⟩
        · rcases moves.entries id call found with ⟨old, here, -⟩ | ⟨args, registers, rfl, -⟩
          · rw [gone (same ▸ older)] at here
            contradiction
          · exact (permitted_check_fresh permitted registers).token wait posted
        · simp [empty] at found
    · contradiction
    · obtain ⟨-, rfl, -, -, rfl⟩ := Effect.callCheck.inj sent
      refine ⟨⟨wait, posted⟩, ?_, fun older => ?_⟩
      · rcases moves.revision with same | ⟨next, -⟩ <;> omega
      · rcases moves.revision with same | ⟨-, empty, -⟩
        · omega
        · simp [empty]
  · intro bridgeId used
    have before := inv.bridges bridgeId used
    have moved := moves.cancelled bridgeId used
    omega
  · intro rest waiting
    rcases moves.notifying rest waiting with before | neutral
    · exact inv.neutral rest before
    · exact neutral

end Service

end ChromiumHmos.UrlProtection
