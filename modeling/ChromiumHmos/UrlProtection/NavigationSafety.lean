import ChromiumHmos.UrlProtection.NavigationThrottle

set_option autoImplicit false

namespace ChromiumHmos.UrlProtection

open Base Transition

def ThrottleEffect.resolves : ThrottleEffect → Bool
  | .resume | .cancelDeferredNavigation _ => true
  | .report .. => false

namespace Navigation

-- The callbacks the throttle will still take.
def valid (s : Navigation) : Nat :=
  s.callbacks.countP fun callback => callback.generation == s.throttle.generation

def resolutions (s : Navigation) : Nat := s.effects.countP ThrottleEffect.resolves

def resumes (s : Navigation) : Nat := s.effects.count .resume

structure Inv (s : Navigation) : Prop where
  alive : s.alive = true
  counted : s.throttle.pending = s.valid
  bound : ∀ callback ∈ s.callbacks,
    callback.generation = s.throttle.generation ∧ callback.revision = s.revision ∨
      callback.generation < s.throttle.generation ∧ callback.revision < s.revision
  waits : s.throttle.deferred = true → 0 < s.throttle.pending ∧ s.throttle.risk.dangerous = false
  phase : s.throttle.deferred = true ↔ s.phase = .deferred

@[simp] theorem reportState_throttle (s : Navigation) : s.reportState.throttle = s.throttle := rfl
@[simp] theorem reportState_valid (s : Navigation) : s.reportState.valid = s.valid := rfl

@[simp] theorem reportState_resolutions (s : Navigation) :
    s.reportState.resolutions = s.resolutions := by
  simp [reportState, emit, resolutions, ThrottleEffect.resolves]

@[simp] theorem reportState_resumes (s : Navigation) : s.reportState.resumes = s.resumes := by
  simp [reportState, emit, resumes]

structure Checks (s t : Navigation) : Prop where
  alive : t.alive = s.alive
  revision : t.revision = s.revision
  generation : t.throttle.generation = s.throttle.generation
  deferred : t.throttle.deferred = s.throttle.deferred
  phase : t.phase = s.phase
  risk : s.throttle.risk.dangerous = true → t.throttle.risk.dangerous = true
  pending : t.throttle.pending - s.throttle.pending = t.valid - s.valid
  bound : ∀ callback ∈ t.callbacks, callback ∈ s.callbacks ∨
    callback.generation = s.throttle.generation ∧ callback.revision = s.revision
  resolutions : t.resolutions = s.resolutions
  resumes : t.resumes = s.resumes

theorem Checks.refl (s : Navigation) : Checks s s :=
  ⟨rfl, rfl, rfl, rfl, rfl, id, by simp, fun _ member => .inl member, rfl, rfl⟩

variable {s t : Navigation}

theorem Checks.trans {u : Navigation} (first : Checks s t) (second : Checks t u) :
    Checks s u where
  alive := second.alive.trans first.alive
  revision := second.revision.trans first.revision
  generation := second.generation.trans first.generation
  deferred := second.deferred.trans first.deferred
  phase := second.phase.trans first.phase
  risk := fun dangerous => second.risk (first.risk dangerous)
  pending := by
    have left := first.pending
    have right := second.pending
    omega
  bound := by
    intro callback member
    rcases second.bound callback member with before | ⟨generation, revision⟩
    · exact first.bound callback before
    · exact .inr ⟨generation.trans first.generation, revision.trans first.revision⟩
  resolutions := second.resolutions.trans first.resolutions
  resumes := second.resumes.trans first.resumes

theorem check_checks (s : Navigation) (url : GURL) (id : String) : Checks s (s.check url id) := by
  constructor <;> simp [check, valid, Navigation.resolutions, Navigation.resumes]
  intro callback member
  rcases member with before | rfl
  · exact .inl before
  · exact .inr ⟨rfl, rfl⟩

theorem foldl_check_checks (s : Navigation) (hops : List (GURL × Nat)) (ids : Nat -> String) :
    Checks s (hops.foldl (fun s hop => s.check hop.1 (ids hop.2)) s) /\
      (hops.foldl (fun s hop => s.check hop.1 (ids hop.2)) s).throttle.risk =
        s.throttle.risk := by
  induction hops generalizing s with
  | nil => exact ⟨.refl s, rfl⟩
  | cons hop rest ih =>
    have later := ih (s.check hop.1 (ids hop.2))
    exact ⟨(check_checks s hop.1 (ids hop.2)).trans later.1, later.2⟩

theorem reportState_checks (s : Navigation) : Checks s s.reportState :=
  ⟨rfl, rfl, rfl, rfl, rfl, id, by simp, fun _ member => .inl member, by simp, by simp⟩

theorem checkCurrentUrl_checks (s : Navigation) (hop : Hop) : Checks s (s.checkCurrentUrl hop) := by
  have observed : Checks s { s with throttle := { s.throttle with
      urls := s.throttle.urls ++ [hop.url]
      latestResult := { reason := "not_checked", url := hop.url } } } :=
    ⟨rfl, rfl, rfl, rfl, rfl, id, by simp [valid], fun _ member => .inl member, rfl, rfl⟩
  unfold checkCurrentUrl
  dsimp only
  split
  · exact observed
  split
  · exact ⟨rfl, rfl, rfl, rfl, rfl, id, by simp [valid], fun _ member => .inl member, rfl, rfl⟩
  split
  next dangerous =>
    exact ⟨rfl, rfl, rfl, rfl, rfl, fun _ => dangerous, by simp [valid],
      fun _ member => .inl member, rfl, rfl⟩
  · refine observed.trans (.trans ?_ (check_checks _ hop.url hop.id))
    exact ⟨rfl, rfl, rfl, rfl, rfl, id, by simp [valid], fun _ member => .inl member, rfl, rfl⟩

theorem Checks.inv (checks : Checks s t) (inv : s.Inv)
    (idle : s.throttle.deferred = false) : t.Inv where
  alive := checks.alive.trans inv.alive
  counted := by
    have counted := inv.counted
    have added := checks.pending
    omega
  bound := by
    intro callback member
    rw [checks.generation, checks.revision]
    rcases checks.bound callback member with before | fresh
    · exact inv.bound callback before
    · exact .inl fresh
  waits := by simp [checks.deferred, idle]
  phase := by
    rw [checks.deferred, checks.phase]
    exact inv.phase

theorem phase_idle {phase : NavigationPhase} (inv : s.Inv)
    (here : s.phase = phase) (settled : phase ≠ .deferred) : s.throttle.deferred = false := by
  by_contra deferred
  exact settled (here.symm.trans (inv.phase.mp (by simpa using deferred)))

theorem willStartRequest_checks (s : Navigation) (hop : Hop) (prerendered : Bool) :
    Checks s (s.willStartRequest hop prerendered).2 /\
      (s.willStartRequest hop prerendered).1 ≠ .defer := by
  have dated : Checks s { s with throttle :=
      { s.throttle with deadline := hop.now + kNavigationBudget } } :=
    ⟨rfl, rfl, rfl, rfl, rfl, id, by simp [valid], fun _ member => .inl member, rfl, rfl⟩
  have checked := dated.trans ((checkCurrentUrl_checks _ hop).trans (reportState_checks _))
  unfold willStartRequest
  split
  · exact ⟨.refl s, by simp⟩
  dsimp only
  split
  · exact ⟨checked.trans (reportState_checks _), by simp [block]⟩
  · exact ⟨checked, by simp⟩

theorem willRedirectRequest_checks (s : Navigation) (hop : Hop) :
    Checks s (s.willRedirectRequest hop).2 /\ (s.willRedirectRequest hop).1 ≠ .defer := by
  have checked := (checkCurrentUrl_checks s hop).trans (reportState_checks _)
  unfold willRedirectRequest
  split
  · exact ⟨reportState_checks s, by simp [block]⟩
  dsimp only
  split
  · exact ⟨checked.trans (reportState_checks _), by simp [block]⟩
  · exact ⟨checked, by simp⟩

/-- How an event meets a deferred navigation: it keeps waiting or is decided, once. -/
inductive Decides (s t : Navigation) : Prop
  | waits (deferred : t.throttle.deferred = s.throttle.deferred) (phase : t.phase = s.phase)
      (resolutions : t.resolutions = s.resolutions) (resumes : t.resumes = s.resumes)
      (open_ : s.throttle.deferred = true →
        t.throttle.risk.dangerous = false ∧ t.throttle.pending ≠ 0)
  | stops (before : s.throttle.deferred = true) (deferred : t.throttle.deferred = false)
      (phase : t.phase = .stopped) (resolutions : t.resolutions = s.resolutions + 1)
      (resumes : t.resumes = s.resumes)
  | resumes (before : s.throttle.deferred = true) (deferred : t.throttle.deferred = false)
      (phase : t.phase = .allowed) (resolutions : t.resolutions = s.resolutions + 1)
      (safe : t.throttle.risk.dangerous = false)

structure SameService (s t : Navigation) : Prop where
  alive : t.alive = s.alive
  revision : t.revision = s.revision
  callbacks : t.callbacks = s.callbacks

theorem resume_effects (s : Navigation) : s.resume.resolutions = s.resolutions + 1 := by
  simp [resume, emit, Navigation.resolutions, ThrottleEffect.resolves]

theorem cancelDeferredNavigation_effects (s : Navigation) :
    s.cancelDeferredNavigation.resolutions = s.resolutions + 1 /\
      s.cancelDeferredNavigation.resumes = s.resumes := by
  simp [cancelDeferredNavigation, block, reportState, emit, Navigation.resolutions,
    Navigation.resumes, ThrottleEffect.resolves]

theorem takeResult_spec (throttle : NavigationThrottle) (result : Result) :
    (throttle.takeResult result).pending = throttle.pending - 1 /\
      (throttle.takeResult result).generation = throttle.generation /\
      (throttle.takeResult result).deferred = throttle.deferred /\
      (throttle.takeResult result).risk.dangerous =
        (throttle.risk.dangerous || result.dangerous) := by
  unfold NavigationThrottle.takeResult
  dsimp only
  split <;> split <;> simp_all

theorem onResult_decides (s : Navigation) (result : Result) (alive : s.alive = true) :
    Decides s (s.onResult s.revision result) /\ SameService s (s.onResult s.revision result) /\
      (s.onResult s.revision result).throttle.pending = s.throttle.pending - 1 /\
      (s.onResult s.revision result).throttle.generation = s.throttle.generation /\
      (s.onResult s.revision result).throttle.risk.dangerous =
        (s.throttle.risk.dangerous || result.dangerous) := by
  obtain ⟨pending, generation, deferred, risk⟩ := takeResult_spec s.throttle result
  set taken := s.throttle.takeResult result with takenDef
  set u := ({ s with throttle := taken } : Navigation).reportState with uDef
  have quiet : u.resolutions = s.resolutions /\ u.resumes = s.resumes := by
    simp [uDef, Navigation.resolutions, Navigation.resumes, reportState, emit,
      ThrottleEffect.resolves]
  have outcome : s.onResult s.revision result =
      if taken.deferred && (taken.risk.dangerous || taken.pending = 0) then
        if taken.risk.dangerous then
          cancelDeferredNavigation { u with throttle := { taken with deferred := false } }
        else resume { u with throttle := { taken with deferred := false } }
      else u := by
    simp [onResult, alive, uDef, takenDef]
  rw [outcome]
  split
  next decided =>
    simp only [Bool.and_eq_true] at decided
    have before : s.throttle.deferred = true := deferred.symm.trans decided.1
    split
    next dangerous =>
      have effects := cancelDeferredNavigation_effects
        { u with throttle := { taken with deferred := false } }
      exact ⟨.stops before rfl rfl (effects.1.trans (congrArg (· + 1) quiet.1))
        (effects.2.trans quiet.2), ⟨rfl, rfl, rfl⟩, pending, generation, risk⟩
    next safe =>
      have effects := resume_effects { u with throttle := { taken with deferred := false } }
      exact ⟨.resumes before rfl rfl (effects.trans (congrArg (· + 1) quiet.1))
        (Bool.eq_false_iff.mpr safe), ⟨rfl, rfl, rfl⟩, pending, generation, risk⟩
  next undecided =>
    refine ⟨.waits deferred rfl quiet.1 quiet.2 fun before => ?_, ⟨rfl, rfl, rfl⟩, pending,
      generation, risk⟩
    have held : taken.deferred = true := deferred.trans before
    simp only [held, Bool.true_and, Bool.or_eq_true, decide_eq_true_eq, not_or,
      Bool.not_eq_true] at undecided
    exact undecided

theorem onPolicyChanged_decides (s : Navigation) (ids : Nat -> String) :
    Decides s (s.onPolicyChanged ids) /\ (s.onPolicyChanged ids).alive = s.alive /\
      (s.onPolicyChanged ids).revision = s.revision /\
      (s.onPolicyChanged ids).throttle.generation = s.throttle.generation + 1 /\
      (∀ callback ∈ (s.onPolicyChanged ids).callbacks, callback ∈ s.callbacks \/
        callback.generation = s.throttle.generation + 1 /\ callback.revision = s.revision) /\
      ((∀ callback ∈ s.callbacks, callback.generation <= s.throttle.generation) ->
        (s.onPolicyChanged ids).throttle.pending = (s.onPolicyChanged ids).valid) := by
  let restarted : Navigation :=
    { s with
      throttle :=
        { s.throttle with
          generation := s.throttle.generation + 1
          pending := 0
          risk := {}
          latestResult := {} }
      bypass := none }
  have rechecked : ∃ u, Checks restarted u /\ u.throttle.risk.dangerous = false /\
      s.onPolicyChanged ids =
        if u.throttle.deferred && u.throttle.pending = 0 then
          resume { u with throttle := { u.throttle with deferred := false } }
        else u := by
    unfold onPolicyChanged
    dsimp only
    split
    · have hops := foldl_check_checks restarted s.throttle.urls.zipIdx ids
      exact ⟨_, hops.1.trans (reportState_checks _), by
        rw [reportState_throttle, hops.2]
        rfl, rfl⟩
    · exact ⟨_, reportState_checks restarted, rfl, rfl⟩
  obtain ⟨u, checks, safe, outcome⟩ := rechecked
  have counted : (∀ callback ∈ s.callbacks, callback.generation <= s.throttle.generation) ->
      u.throttle.pending = u.valid := by
    intro older
    have added := checks.pending
    have none : restarted.valid = 0 := by
      refine List.countP_eq_zero.mpr fun callback member => ?_
      have bound := older callback member
      simp only [restarted, beq_iff_eq]
      omega
    simp only [none, restarted] at added
    omega
  rw [outcome]
  split
  next decided =>
    simp only [Bool.and_eq_true] at decided
    have effects := resume_effects { u with throttle := { u.throttle with deferred := false } }
    exact ⟨.resumes (checks.deferred.symm.trans decided.1) rfl rfl
      (effects.trans (congrArg (· + 1) checks.resolutions)) safe, checks.alive, checks.revision,
      checks.generation, checks.bound, counted⟩
  next undecided =>
    refine ⟨.waits checks.deferred checks.phase checks.resolutions checks.resumes
      fun before => ⟨safe, ?_⟩, checks.alive, checks.revision, checks.generation, checks.bound,
      counted⟩
    have held : u.throttle.deferred = true := checks.deferred.trans before
    simpa [held] using undecided

theorem Decides.deferred (decides : Decides s t)
    (phase : s.throttle.deferred = true ↔ s.phase = .deferred)
    (counted : t.throttle.pending = t.valid) :
    (t.throttle.deferred = true -> 0 < t.throttle.pending /\ t.throttle.risk.dangerous = false) /\
      (t.throttle.deferred = true ↔ t.phase = .deferred) := by
  cases decides with
  | waits deferred same _ _ waiting =>
    refine ⟨fun now => ?_, by rw [deferred, same]; exact phase⟩
    obtain ⟨safe, some⟩ := waiting (deferred.symm.trans now)
    exact ⟨by omega, safe⟩
  | stops _ deferred phase => simp [deferred, phase]
  | resumes _ deferred phase => simp [deferred, phase]

theorem runCallback_eq (s : Navigation) (index : Nat) (result : Result)
    (callback : ResultCallback) (found : s.callbacks[index]? = some callback) :
    s.runCallback index result =
      if callback.generation = s.throttle.generation then
        { s with callbacks := s.callbacks.eraseIdx index }.onResult callback.revision result
      else { s with callbacks := s.callbacks.eraseIdx index } := by
  simp [runCallback, found]

theorem valid_eraseIdx (s : Navigation) (index : Nat) (callback : ResultCallback)
    (found : s.callbacks[index]? = some callback) :
    ({ s with callbacks := s.callbacks.eraseIdx index } : Navigation).valid +
      (if callback.generation = s.throttle.generation then 1 else 0) = s.valid := by
  obtain ⟨bound, equal⟩ := List.getElem?_eq_some_iff.mp found
  have moved := (List.getElem_cons_eraseIdx_perm bound).countP_eq
    fun callback => callback.generation == s.throttle.generation
  rw [equal, List.countP_cons] at moved
  simpa [valid] using moved

theorem runCallback_inv (s : Navigation) (index : Nat) (result : Result) (inv : s.Inv) :
    (s.runCallback index result).Inv := by
  cases found : s.callbacks[index]? with
  | none => simpa [runCallback, found] using inv
  | some callback =>
    rw [runCallback_eq s index result callback found]
    have taken := valid_eraseIdx s index callback found
    have counted := inv.counted
    have kept : ∀ other ∈ s.callbacks.eraseIdx index, other ∈ s.callbacks :=
      fun other member => List.mem_of_mem_eraseIdx member
    split
    next current =>
      rw [if_pos current] at taken
      have revision : callback.revision = s.revision := by
        rcases inv.bound callback (List.mem_of_getElem? found) with fresh | stale
        · exact fresh.2
        · omega
      rw [revision]
      set u : Navigation := { s with callbacks := s.callbacks.eraseIdx index }
      obtain ⟨decides, same, pending, generation, -⟩ := onResult_decides u result inv.alive
      have counts : (u.onResult s.revision result).throttle.pending =
          (u.onResult s.revision result).valid := by
        rw [pending, valid, same.callbacks, generation]
        change s.throttle.pending - 1 = (u.valid : Int)
        omega
      have decided := decides.deferred inv.phase counts
      refine ⟨same.alive.trans inv.alive, counts, ?_, decided.1, decided.2⟩
      rw [same.callbacks, same.revision, generation]
      exact fun other member => inv.bound other (kept other member)
    next stale =>
      rw [if_neg stale, Nat.add_zero] at taken
      exact ⟨inv.alive, counted.trans (congrArg Nat.cast taken.symm),
        fun other member => inv.bound other (kept other member), inv.waits, inv.phase⟩

theorem changePolicy_inv (s : Navigation) (revision : Int) (enabled : Bool) (ids : Nat -> String)
    (inv : s.Inv) (newer : s.revision < revision) : (s.changePolicy revision enabled ids).Inv := by
  set u : Navigation := { s with revision := revision, enabled := enabled }
  obtain ⟨decides, alive, same, generation, bound, counted⟩ := onPolicyChanged_decides u ids
  have older : ∀ callback ∈ s.callbacks, callback.generation <= s.throttle.generation /\
      callback.revision <= s.revision := by
    intro callback member
    rcases inv.bound callback member with ⟨fresh, current⟩ | ⟨stale, outdated⟩ <;> omega
  have counts := counted fun callback member => (older callback member).1
  have decided := decides.deferred inv.phase counts
  refine ⟨alive.trans inv.alive, counts, ?_, decided.1, decided.2⟩
  intro callback member
  rw [changePolicy, generation, same]
  rcases bound callback member with before | fresh
  · have stale := older callback before
    refine .inr ⟨Nat.lt_succ_of_le stale.1, lt_of_le_of_lt stale.2 newer⟩
  · exact .inl fresh

theorem answered_inv (s t : Navigation) (proceeds : NavigationPhase) (answer : ThrottleCheckResult)
    (checks : Checks s t) (inv : s.Inv) (idle : s.throttle.deferred = false)
    (settled : answer ≠ .defer) (open_ : proceeds ≠ .deferred) :
    (answered proceeds (answer, t)).Inv := by
  obtain ⟨alive, counted, bound, waits, -⟩ := checks.inv inv idle
  have waiting : t.throttle.deferred = false := checks.deferred.trans idle
  refine ⟨alive, counted, bound, waits, ?_⟩
  cases answer <;> simp_all [answered]

theorem willProcessResponse_inv (s : Navigation) (inv : s.Inv)
    (idle : s.throttle.deferred = false) : (answered .allowed s.willProcessResponse).Inv := by
  unfold willProcessResponse
  split
  · exact answered_inv s _ _ _ (reportState_checks s) inv idle (by simp) (by simp)
  next safe =>
    split
    next some =>
      exact ⟨inv.alive, inv.counted, inv.bound, fun _ => ⟨some, Bool.eq_false_iff.mpr safe⟩, by
        simp [answered]⟩
    · exact answered_inv s _ _ _ (.refl s) inv idle (by simp) (by simp)

theorem next_inv (s : Navigation) (op : NavigationOp) (inv : s.Inv) (permitted : s.permitted op) :
    (s.next op).Inv := by
  cases op with
  | willStartRequest hop prerendered =>
    have idle := phase_idle inv permitted (by simp)
    have checks := willStartRequest_checks s hop prerendered
    exact answered_inv s _ _ _ checks.1 inv idle checks.2 (by simp)
  | willRedirectRequest hop =>
    have idle := phase_idle inv permitted (by simp)
    have checks := willRedirectRequest_checks s hop
    exact answered_inv s _ _ _ checks.1 inv idle checks.2 (by simp)
  | willProcessResponse =>
    exact willProcessResponse_inv s inv (phase_idle inv permitted (by simp))
  | result index result => exact runCallback_inv s index result inv
  | policyChange revision enabled ids => exact changePolicy_inv s revision enabled ids inv permitted
  | setBypass bypass => exact ⟨inv.alive, inv.counted, inv.bound, inv.waits, inv.phase⟩

def delivered (entry : Navigation × NavigationOp) : Option (ResultCallback × Result) :=
  match entry.2 with
  | .result index result =>
    match entry.1.callbacks[index]? with
    | some callback =>
      if callback.generation = entry.1.throttle.generation then some (callback, result)
      else none
    | none => none
  | _ => none

def defers (entry : Navigation × NavigationOp) : Bool :=
  match entry.2 with
  | .willProcessResponse => entry.1.willProcessResponse.1 == .defer
  | _ => false

-- `PROCEED` from `WillProcessResponse`, or `Resume`.
def allows (s : Navigation) (op : NavigationOp) : Prop :=
  op = .willProcessResponse ∧ s.willProcessResponse.1 = .proceed ∨ s.resumes < (s.next op).resumes

-- Answers owed: a deferred navigation is owed one.
def decided (s : Navigation) : Nat := s.resolutions + if s.throttle.deferred then 1 else 0

theorem Checks.decided (checks : Checks s t) : t.decided = s.decided := by
  simp [Navigation.decided, checks.resolutions, checks.deferred]

theorem Decides.decided (decides : Decides s t) : t.decided = s.decided := by
  cases decides with
  | waits deferred _ resolutions => simp [Navigation.decided, deferred, resolutions]
  | stops before deferred _ resolutions => simp [Navigation.decided, before, deferred, resolutions]
  | resumes before deferred _ resolutions => simp [Navigation.decided, before, deferred, resolutions]

theorem Decides.early (decides : Decides s t)
    (early : t.phase = .created \/ t.phase = .requesting) : t.phase = s.phase := by
  cases decides with
  | waits _ same => exact same
  | stops _ _ stopped => simp [stopped] at early
  | resumes _ _ allowed => simp [allowed] at early

theorem Decides.safe (decides : Decides s t)
    (resumed : s.resumes < t.resumes) : t.throttle.risk.dangerous = false := by
  cases decides with
  | waits _ _ _ same => omega
  | stops _ _ _ _ same => omega
  | resumes _ _ _ _ safe => exact safe

structure Steps (s : Navigation) (op : NavigationOp) (t : Navigation) : Prop where
  decided : t.decided = s.decided + if defers (s, op) then 1 else 0
  early : t.phase = .created ∨ t.phase = .requesting →
    (s.phase = .created ∨ s.phase = .requesting) ∧ defers (s, op) = false
  ready : defers (s, op) = true → s.phase = .requesting
  revision : t.revision = s.revision ∧
      (s.throttle.risk.dangerous = true → t.throttle.risk.dangerous = true) ∨
    s.revision < t.revision ∧ delivered (s, op) = none
  heard : ∀ callback result, delivered (s, op) = some (callback, result) →
    callback.revision = t.revision ∧
      (result.dangerous = true → t.throttle.risk.dangerous = true)
  safe : allows s op → t.throttle.risk.dangerous = false

theorem steps_of_checks {op : NavigationOp} {answer : ThrottleCheckResult}
    (checks : Checks s t) (quiet : defers (s, op) = false) (silent : delivered (s, op) = none)
    (early : s.phase = .created \/ s.phase = .requesting)
    (next : s.next op = answered .requesting (answer, t))
    (other : op ≠ .willProcessResponse) : Steps s op (s.next op) := by
  rw [next]
  refine ⟨by rw [quiet]; exact checks.decided, fun _ => ⟨early, quiet⟩, by simp [quiet],
    .inl ⟨checks.revision, checks.risk⟩, by simp [silent], ?_⟩
  rintro (⟨processing, -⟩ | resumed)
  · exact absurd processing other
  · rw [next] at resumed
    exact absurd checks.resumes (Nat.ne_of_gt resumed)

theorem willProcessResponse_steps (s : Navigation) (early : s.phase = .requesting)
    (idle : s.throttle.deferred = false) :
    Steps s .willProcessResponse (s.next .willProcessResponse) := by
  by_cases dangerous : s.throttle.risk.dangerous = true
  · have outcome : s.willProcessResponse = s.block := by simp [willProcessResponse, dangerous]
    have quiet : defers (s, .willProcessResponse) = false := by simp [defers, outcome, block]
    have next : s.next .willProcessResponse = answered .allowed s.block := by
      simp [Navigation.next, outcome]
    rw [next]
    refine ⟨by rw [quiet]; exact (reportState_checks s).decided, fun _ => ⟨.inr early, quiet⟩,
      fun _ => early, .inl ⟨rfl, id⟩, by simp [delivered], ?_⟩
    rintro (⟨-, proceeds⟩ | resumed)
    · simp [outcome, block] at proceeds
    · rw [next] at resumed
      exact absurd (reportState_resumes s) (Nat.ne_of_gt resumed)
  · by_cases waiting : s.throttle.pending > 0
    · have outcome : s.willProcessResponse =
          (.defer, { s with throttle := { s.throttle with deferred := true } }) := by
        simp [willProcessResponse, dangerous, waiting]
      have quiet : defers (s, .willProcessResponse) = true := by simp [defers, outcome]
      have next : s.next .willProcessResponse = answered .allowed
          (.defer, { s with throttle := { s.throttle with deferred := true } }) := by
        simp [Navigation.next, outcome]
      rw [next]
      refine ⟨?_, ?_, fun _ => early, .inl ⟨rfl, id⟩, by simp [delivered],
        fun _ => Bool.eq_false_iff.mpr dangerous⟩
      · simp [quiet, decided, idle, answered, Navigation.resolutions]
      · simp [answered]
    · have outcome : s.willProcessResponse = (.proceed, s) := by
        simp [willProcessResponse, dangerous, waiting]
      have quiet : defers (s, .willProcessResponse) = false := by simp [defers, outcome]
      have next : s.next .willProcessResponse = answered .allowed (.proceed, s) := by
        simp [Navigation.next, outcome]
      rw [next]
      exact ⟨by rw [quiet]; rfl, fun _ => ⟨.inr early, quiet⟩, fun _ => early, .inl ⟨rfl, id⟩,
        by simp [delivered], fun _ => Bool.eq_false_iff.mpr dangerous⟩

theorem steps_of_decides {u : Navigation} {op : NavigationOp} (decides : Decides u t)
    (decided : u.decided = s.decided) (phase : u.phase = s.phase)
    (resumes : u.resumes = s.resumes) (quiet : defers (s, op) = false)
    (other : op ≠ .willProcessResponse) (next : s.next op = t)
    (revision : t.revision = s.revision /\
        (s.throttle.risk.dangerous = true -> t.throttle.risk.dangerous = true) \/
      s.revision < t.revision /\ delivered (s, op) = none)
    (heard : ∀ callback result, delivered (s, op) = some (callback, result) ->
      callback.revision = t.revision /\
        (result.dangerous = true -> t.throttle.risk.dangerous = true)) : Steps s op t where
  decided := by rw [decides.decided, decided, quiet]; rfl
  early := by
    intro early
    have same := decides.early early
    rw [same, phase] at early
    exact ⟨early, quiet⟩
  ready := by simp [quiet]
  revision := revision
  heard := heard
  safe := by
    rintro (⟨processing, -⟩ | resumed)
    · exact absurd processing other
    · rw [next, <- resumes] at resumed
      exact decides.safe resumed

theorem runCallback_steps (s : Navigation) (index : Nat) (result : Result) (inv : s.Inv) :
    Steps s (.result index result) (s.next (.result index result)) := by
  have unchanged (t : Navigation) (throttle : t.throttle = s.throttle) (phase : t.phase = s.phase)
      (effects : t.effects = s.effects) : Decides s t := by
    have same : t.resolutions = s.resolutions /\ t.resumes = s.resumes := by
      simp [Navigation.resolutions, Navigation.resumes, effects]
    refine .waits (by rw [throttle]) phase same.1 same.2 fun deferred => ?_
    obtain ⟨some, safe⟩ := inv.waits deferred
    rw [throttle]
    exact ⟨safe, ne_of_gt some⟩
  cases found : s.callbacks[index]? with
  | none =>
    have next : s.next (.result index result) = s := by
      simp [Navigation.next, runCallback, found]
    rw [next]
    exact steps_of_decides (unchanged s rfl rfl rfl) rfl rfl rfl rfl (by simp) next
      (.inl ⟨rfl, id⟩) (by simp [delivered, found])
  | some callback =>
    have outcome := runCallback_eq s index result callback found
    by_cases current : callback.generation = s.throttle.generation
    · have revision : callback.revision = s.revision := by
        rcases inv.bound callback (List.mem_of_getElem? found) with fresh | stale
        · exact fresh.2
        · omega
      rw [if_pos current, revision] at outcome
      set u : Navigation := { s with callbacks := s.callbacks.eraseIdx index }
      obtain ⟨decides, same, -, -, risk⟩ := onResult_decides u result inv.alive
      rw [<- outcome] at decides same risk
      refine steps_of_decides (u := u) decides rfl rfl rfl rfl (by simp) rfl
        (.inl ⟨same.revision, fun dangerous => ?_⟩) ?_
      · change (s.runCallback index result).throttle.risk.dangerous = true
        rw [risk]
        simp [u, dangerous]
      · intro heard verdict came
        simp only [delivered, found, current, if_true, Option.some.injEq, Prod.mk.injEq] at came
        obtain ⟨rfl, rfl⟩ := came
        refine ⟨revision.trans same.revision.symm, fun dangerous => ?_⟩
        change (s.runCallback index result).throttle.risk.dangerous = true
        rw [risk]
        simp [dangerous]
    · rw [if_neg current] at outcome
      have decides := unchanged (s.runCallback index result) (by rw [outcome]) (by rw [outcome])
        (by rw [outcome])
      have same : (s.runCallback index result).revision = s.revision := by rw [outcome]
      refine steps_of_decides (u := s) decides rfl rfl rfl rfl (by simp) rfl
        (.inl ⟨same, fun dangerous => ?_⟩) (by
          simp [delivered, found, current])
      change (s.runCallback index result).throttle.risk.dangerous = true
      rw [outcome]
      exact dangerous

theorem changePolicy_steps (s : Navigation) (revision : Int) (enabled : Bool)
    (ids : Nat -> String) (newer : s.revision < revision) :
    Steps s (.policyChange revision enabled ids) (s.next (.policyChange revision enabled ids)) := by
  obtain ⟨decides, -, same, -⟩ :=
    onPolicyChanged_decides { s with revision := revision, enabled := enabled } ids
  refine steps_of_decides decides rfl rfl rfl rfl (by simp) rfl (.inr ⟨?_, rfl⟩) (by
    simp [delivered])
  exact lt_of_lt_of_eq newer same.symm

theorem next_steps (s : Navigation) (op : NavigationOp) (inv : s.Inv) (permitted : s.permitted op) :
    Steps s op (s.next op) := by
  cases op with
  | willStartRequest hop prerendered =>
    exact steps_of_checks (willStartRequest_checks s hop prerendered).1 rfl rfl (.inl permitted)
      rfl (by simp)
  | willRedirectRequest hop =>
    exact steps_of_checks (willRedirectRequest_checks s hop).1 rfl rfl (.inr permitted) rfl
      (by simp)
  | willProcessResponse =>
    exact willProcessResponse_steps s permitted (phase_idle inv permitted (by simp))
  | result index result => exact runCallback_steps s index result inv
  | policyChange revision enabled ids => exact changePolicy_steps s revision enabled ids permitted
  | setBypass bypass =>
    exact ⟨rfl, fun early => ⟨early, rfl⟩, by simp [defers], .inl ⟨rfl, id⟩, by simp [delivered],
      by rintro (⟨other, -⟩ | resumed)
         · simp at other
         · exact absurd resumed (lt_irrefl _)⟩

abbrev navigationStep : Navigation → NavigationOp → Navigation → Prop :=
  guarded permitted next

def heard (trace : List (Navigation × NavigationOp)) : List (ResultCallback × Result) :=
  trace.filterMap delivered

def deferrals (trace : List (Navigation × NavigationOp)) : Nat := trace.countP defers

structure HistoryInv (trace : List (Navigation × NavigationOp)) (t : Navigation) : Prop where
  inv : t.Inv
  decided : t.decided = deferrals trace
  early : t.phase = .created ∨ t.phase = .requesting → deferrals trace = 0
  once : deferrals trace ≤ 1
  heard : ∀ entry ∈ heard trace, entry.1.revision ≤ t.revision ∧
    (entry.1.revision = t.revision → entry.2.dangerous = true →
      t.throttle.risk.dangerous = true)

theorem history_step (trace : List (Navigation × NavigationOp)) (t : Navigation)
    (op : NavigationOp) (history : HistoryInv trace t) (permitted : t.permitted op) :
    HistoryInv (trace ++ [(t, op)]) (t.next op) := by
  have steps := next_steps t op history.inv permitted
  have inv := next_inv t op history.inv permitted
  generalize t.next op = u at steps inv
  have count : deferrals (trace ++ [(t, op)]) =
      deferrals trace + if defers (t, op) then 1 else 0 := by
    simp [deferrals, List.countP_append, List.countP_cons]
  refine ⟨inv, ?_, ?_, ?_, ?_⟩
  · rw [count, steps.decided, history.decided]
  · intro early
    obtain ⟨before, quiet⟩ := steps.early early
    rw [count, history.early before, quiet]
    rfl
  · rw [count]
    by_cases deferring : defers (t, op) = true
    · rw [history.early (.inr (steps.ready deferring))]
      split <;> omega
    · simpa [deferring] using history.once
  · intro entry member
    rw [heard, List.filterMap_append, List.mem_append] at member
    rcases member with before | now
    · obtain ⟨older, risky⟩ := history.heard entry before
      rcases steps.revision with ⟨same, kept⟩ | ⟨newer, -⟩
      · rw [same]
        exact ⟨older, fun current dangerous => kept (risky current dangerous)⟩
      · exact ⟨by omega, fun current => by omega⟩
    · obtain ⟨_, single, came⟩ := List.mem_filterMap.mp now
      obtain rfl := List.mem_singleton.mp single
      obtain ⟨current, risky⟩ := steps.heard entry.1 entry.2 came
      exact ⟨le_of_eq current, fun _ => risky⟩

/-- What holds of a navigation after the events of `trace`. -/
structure Guarantees (trace : List (Navigation × NavigationOp)) (t : Navigation) : Prop where
  counted : t.throttle.pending = t.valid
  waits : t.throttle.deferred = true → 0 < t.throttle.pending ∧ t.throttle.risk.dangerous = false
  once : t.resolutions ≤ 1
  undeferred : (∀ entry ∈ trace, defers entry = false) → t.resolutions = 0
  resolved : (∃ entry ∈ trace, defers entry = true) → t.valid = 0 → t.resolutions = 1
  safe : ∀ before u op after, trace = before ++ (u, op) :: after → allows u op →
    ∀ entry ∈ heard (before ++ [(u, op)]), entry.1.revision = (u.next op).revision →
      entry.2.dangerous = false

def started (s : Navigation) : Prop :=
  ∃ revision enabled bypass, s = { revision := revision, enabled := enabled, bypass := bypass }

theorem started_history (s : Navigation) (initial : s.started) : HistoryInv [] s := by
  obtain ⟨revision, enabled, bypass, rfl⟩ := initial
  refine ⟨⟨rfl, rfl, by simp, by simp, by simp⟩, rfl, fun _ => rfl, by simp [deferrals], by
    simp [heard]⟩

theorem navigation_safe (start : Navigation) (trace : List (Navigation × NavigationOp))
    (t : Navigation) (initial : start.started) (run : Trace navigationStep start trace t) :
    Guarantees trace t := by
  have along : ∀ past u, Trace navigationStep start past u → HistoryInv past u := by
    intro past u run
    refine run.history ?_ (started_history start initial)
    rintro past u op v history ⟨permitted, rfl⟩
    exact history_step past u op history permitted
  obtain ⟨inv, decided, -, once, -⟩ := along trace t run
  have owed : t.resolutions ≤ t.decided := Nat.le_add_right _ _
  refine ⟨inv.counted, inv.waits, by omega, ?_, ?_, ?_⟩
  · intro never
    have none : deferrals trace = 0 := by
      simpa [deferrals, List.countP_eq_zero] using never
    omega
  · intro deferred finished
    have some : 0 < deferrals trace := by
      simpa [deferrals, List.countP_pos_iff] using deferred
    have settled : t.throttle.deferred = false := by
      by_contra waiting
      have open_ := (inv.waits (by simpa using waiting)).1
      rw [inv.counted, finished] at open_
      exact absurd open_ (lt_irrefl _)
    simp only [Navigation.decided, settled, Bool.false_eq_true, if_false, Nat.add_zero] at decided
    omega
  · rintro before u op after rfl allowed entry member current
    obtain ⟨v, earlier, ⟨permitted, rfl⟩, -⟩ := run.split_cons
    have now := along _ _ (earlier.snoc ⟨permitted, rfl⟩)
    have calm := (next_steps u op (along before u earlier).inv permitted).safe allowed
    by_contra dangerous
    have risky := (now.heard entry member).2 current (by simpa using dangerous)
    rw [calm] at risky
    contradiction

def blockedHop : Hop :=
  { url := ⟨"https://example.com/"⟩, now := 0, known := {}, id := "1" }

def blockedStart : Navigation := { enabled := true }

def blockedChecking : Navigation := blockedStart.next (.willStartRequest blockedHop false)

def blockedDeferred : Navigation := blockedChecking.next .willProcessResponse

def blockedResult : Result :=
  { verdict := .phishing, source := "huawei", reason := "matched", url := blockedHop.url }

theorem navigation_safe_blocked :
    Guarantees [(blockedStart, .willStartRequest blockedHop false),
        (blockedChecking, .willProcessResponse), (blockedDeferred, .result 0 blockedResult)]
      (blockedDeferred.next (.result 0 blockedResult)) ∧
      (blockedDeferred.next (.result 0 blockedResult)).phase = .stopped := by
  have begin : navigationStep blockedStart (.willStartRequest blockedHop false)
      blockedChecking := ⟨rfl, rfl⟩
  have requested : blockedChecking.phase = .requesting := by decide
  have respond : navigationStep blockedChecking .willProcessResponse blockedDeferred :=
    ⟨requested, rfl⟩
  have owed : 0 < blockedDeferred.callbacks.length := by decide
  have deliver : navigationStep blockedDeferred (.result 0 blockedResult)
      (blockedDeferred.next (.result 0 blockedResult)) := ⟨owed, rfl⟩
  exact ⟨navigation_safe blockedStart _ _ ⟨1, true, none, rfl⟩
    (.cons begin (.cons respond (.cons deliver (.nil _)))), by decide⟩

end Navigation

end ChromiumHmos.UrlProtection
