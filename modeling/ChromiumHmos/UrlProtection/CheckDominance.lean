import ChromiumHmos.UrlProtection.CheckOutcome

set_option autoImplicit false

/-!
# Danger comes first

Over a run: the result of a check is dangerous exactly where a dangerous outcome has come for
it, whatever else came before or with it.
-/

namespace ChromiumHmos.UrlProtection

open Base OrderedMap Transition

namespace Service

variable (platform : Platform)

theorem posted_iff (s : Service) (callback : Nat) :
    0 < s.posts callback ↔ ∃ result, .postResult callback result ∈ s.effects := by
  rw [posts, List.countP_pos_iff]
  constructor
  · rintro ⟨effect, mem, is⟩
    cases effect with
    | postResult posted result =>
      obtain rfl : posted = callback := by simpa [Effect.postsTo] using is
      exact ⟨result, mem⟩
    | _ => cases is
  · rintro ⟨result, mem⟩
    exact ⟨_, mem, by simp [Effect.postsTo]⟩

theorem owed_iff (s : Service) (callback : Nat) : 0 < s.owed callback ↔ ∃ (id : String) (call : Pending),
    s.pending[id]? = some call /\ call.callback = callback := by
  constructor
  · intro owing
    by_contra none
    push Not at none
    have zero : s.owed callback = 0 :=
      (total_eq_zero _ _).mpr fun id call found => if_neg (none id call found)
    omega
  · rintro ⟨id, call, found, rfl⟩
    exact owed_of_entry s id call found

def Single (s : Service) (op : ServiceOp) (callback : Nat) : Prop :=
  s.posts callback + s.owed callback + op.issues callback = 1

variable {s : Service} {op : ServiceOp} {callback : Nat}

theorem Single.entry (single : Single s op callback)
    {id id' : String} {call call' : Pending} (found : s.pending[id]? = some call)
    (found' : s.pending[id']? = some call') (owner : call.callback = callback) (owner' : call'.callback = callback) :
    id = id' := by
  by_contra distinct
  have both := add_le_total (owes callback) s.pending distinct found found'
  simp only [owes, owner, owner', if_true] at both
  unfold Single owed at single
  omega

theorem Single.outcome_owed {danger : Bool}
    (heard : s.outcome platform op callback danger) : 0 < s.owed callback + op.issues callback := by
  rcases heard with ⟨id, call, found, owner, -⟩ | ⟨view, args, rfl, owner, -⟩
  · have owed := (owed_iff s callback).mpr ⟨id, call, found, owner⟩
    omega
  · simp [ServiceOp.issues, owner]

theorem Single.outcome_unique (single : Single s op callback)
    {danger danger' : Bool} (heard : s.outcome platform op callback danger)
    (heard' : s.outcome platform op callback danger') : danger = danger' := by
  have apart {view : View} {args : CheckArgs} (is : op = .check view args) (owner : args.callback = callback)
      {id : String} {call : Pending} (found : s.pending[id]? = some call) (owner' : call.callback = callback) :
      False := by
    have owed := (owed_iff s callback).mpr ⟨id, call, found, owner'⟩
    subst is
    simp only [Single, ServiceOp.issues, owner, if_true] at single
    omega
  rcases heard with ⟨id, call, found, owner, rfl⟩ | ⟨view, args, is, owner, rfl⟩ <;>
    rcases heard' with ⟨id', call', found', owner', rfl⟩ | ⟨view', args', is', owner', rfl⟩
  · obtain rfl := single.entry found found' owner owner'
    rw [Option.some.inj (found.symm.trans found')]
  · exact (apart is' owner' found owner).elim
  · exact (apart is owner found' owner').elim
  · obtain ⟨rfl, rfl⟩ := ServiceOp.check.inj (is.symm.trans is')
    rfl

/-- Of a check under way: what it was told is what has come, and while it waits no danger has. -/
structure Dominated (callback : Nat) (trace : List (Service × ServiceOp)) (t : Service) : Prop where
  balance : t.posts callback + t.owed callback = 1
  posted : ∀ result, .postResult callback result ∈ t.effects →
    (result.dangerous = true ↔ ∃ step ∈ trace, step.1.outcome platform step.2 callback true)
  waiting : 0 < t.owed callback → ∀ step ∈ trace, ¬ step.1.outcome platform step.2 callback true

theorem Single.next (single : Single s op callback) (inv : s.Inv)
    (permitted : s.permitted op) {trace : List (Service × ServiceOp)}
    (posted : ∀ result, .postResult callback result ∈ s.effects ->
      (result.dangerous = true ↔ ∃ step ∈ trace, step.1.outcome platform step.2 callback true))
    (waiting : 0 < s.owed callback + op.issues callback ->
      ∀ step ∈ trace, ¬ step.1.outcome platform step.2 callback true) :
    Dominated platform callback (trace ++ [(s, op)]) (s.next platform op) := by
  have moved := (next_moves platform s op inv permitted).posted callback
  have told := next_told platform s op inv permitted
  have also : (∃ step ∈ trace ++ [(s, op)], step.1.outcome platform step.2 callback true) ↔
      (∃ step ∈ trace, step.1.outcome platform step.2 callback true) \/ s.outcome platform op callback true := by
    simp only [List.mem_append, List.mem_singleton, or_and_right, exists_or, exists_eq_left]
  refine ⟨moved.trans single, fun result mem => ?_, fun owing step mem now => ?_⟩
  · rw [also]
    rcases told.posts callback result mem with before | heard
    · -- It had its result before, so that nothing is said of it any more.
      have done := (posted_iff s callback).mpr ⟨result, before⟩
      have silent : ¬ s.outcome platform op callback true := fun heard => by
        have owing := Single.outcome_owed platform heard
        unfold Single at single
        omega
      rw [posted result before, or_iff_left silent]
    · have quiet := waiting (Single.outcome_owed platform heard)
      have none : ¬ ∃ step ∈ trace, step.1.outcome platform step.2 callback true :=
        fun ⟨step, mem, now⟩ => quiet step mem now
      rw [or_iff_right none]
      exact ⟨fun danger => danger ▸ heard, fun danger => single.outcome_unique platform heard danger⟩
  · obtain ⟨id, call, found, owner⟩ := (owed_iff _ callback).mp owing
    have calm := owner ▸ told.kept id call found
    rcases also.mp ⟨step, mem, now⟩ with ⟨other, mem, before⟩ | heard
    · exact waiting (Single.outcome_owed platform calm) other mem before
    · exact Bool.false_ne_true (single.outcome_unique platform calm heard)

theorem Single.at_once (single : Single s op callback) (inv : s.Inv)
    (permitted : s.permitted op) (heard : s.outcome platform op callback true) :
    ∃ result, .postResult callback result ∈ (s.next platform op).effects /\ result.dangerous = true := by
  have moved := (next_moves platform s op inv permitted).posted callback
  have told := next_told platform s op inv permitted
  have owing := Single.outcome_owed platform heard
  have gone : ¬ 0 < (s.next platform op).owed callback := by
    intro owed
    obtain ⟨id, call, found, owner⟩ := (owed_iff _ callback).mp owed
    exact Bool.false_ne_true (single.outcome_unique platform (owner ▸ told.kept id call found) heard)
  have posts : 0 < (s.next platform op).posts callback := by
    unfold Single at single
    omega
  obtain ⟨result, mem⟩ := (posted_iff _ callback).mp posts
  refine ⟨result, mem, ?_⟩
  rcases told.posts callback result mem with before | now
  · have done := (posted_iff s callback).mpr ⟨result, before⟩
    unfold Single at single
    omega
  · exact single.outcome_unique platform now heard

theorem Dominated.single {trace : List (Service × ServiceOp)} {t : Service}
    (dominated : Dominated platform callback trace t) (permitted : t.permitted op) :
    Single t op callback := by
  have balance := dominated.balance
  have silent : op.issues callback = 0 := by
    cases op with
    | check view later =>
      refine if_neg fun same => ?_
      obtain ⟨-, posted, owed, -⟩ := permitted.2
      rw [same] at posted owed
      omega
    | _ => rfl
  unfold Single
  omega

/-- Whatever the order in which the local rules and the cloud answer, or the cache does: a check is told of a danger
if and only if a dangerous outcome has come for it, and it is told so by the operation the outcome comes with. -/
theorem danger_dominates (start s t : Service) (trace before after : List (Service × ServiceOp)) (view : View)
    (args : CheckArgs) (initial : constructed platform start) (run : Trace (serviceStep platform) start trace t)
    (split : trace = before ++ (s, .check view args) :: after) :
    t.posts args.callback + t.owed args.callback = 1 ∧
    (∀ result, .postResult args.callback result ∈ t.effects → (result.dangerous = true ↔
      ∃ step ∈ (s, .check view args) :: after, step.1.outcome platform step.2 args.callback true)) ∧
    ∀ step ∈ (s, .check view args) :: after, step.1.outcome platform step.2 args.callback true →
      ∃ result, .postResult args.callback result ∈ (step.1.next platform step.2).effects ∧ result.dangerous = true := by
  subst split
  obtain ⟨u, earlier, ⟨permitted, rfl⟩, later⟩ := run.split_cons
  have inv := run_inv platform earlier (constructed_inv platform start initial)
  have fresh : s.Fresh args := permitted.2
  have first : Single s (.check view args) args.callback := by
    simp [Single, fresh.posted, fresh.owed, ServiceOp.issues]
  have begun : Dominated platform args.callback [(s, .check view args)] (s.next platform (.check view args)) := by
    show Dominated platform args.callback ([] ++ [(s, .check view args)]) _
    refine first.next platform inv permitted (fun result mem => ?_) (by simp)
    have posts := (posted_iff s args.callback).mpr ⟨result, mem⟩
    rw [fresh.posted] at posts
    omega
  let followed (trace : List (Service × ServiceOp)) (t : Service) : Prop :=
    t.Inv ∧ Dominated platform args.callback trace t ∧ ∀ step ∈ trace,
      step.1.outcome platform step.2 args.callback true → ∃ result,
        .postResult args.callback result ∈ (step.1.next platform step.2).effects ∧ result.dangerous = true
  have history : followed ([(s, .check view args)] ++ after) t := by
    refine later.history_from ?_ ⟨next_inv platform s _ inv permitted, begun, ?_⟩
    · rintro past v op w ⟨before, dominated, prompt⟩ ⟨permitted, rfl⟩
      have single := dominated.single platform permitted
      refine ⟨next_inv platform v op before permitted,
        single.next platform before permitted dominated.posted fun owing => ?_, fun step mem heard => ?_⟩
      · refine dominated.waiting ?_
        have balance := dominated.balance
        unfold Single at single
        omega
      · rcases List.mem_append.mp mem with old | now
        · exact prompt step old heard
        · obtain rfl := List.mem_singleton.mp now
          exact single.at_once platform before permitted heard
    · intro step mem heard
      obtain rfl := List.mem_singleton.mp mem
      exact first.at_once platform inv permitted heard
  exact ⟨history.2.1.balance, history.2.1.posted, history.2.2⟩

instance (s : Service) (args : CheckArgs) : Decidable (s.Fresh args) :=
  decidable_of_iff ((∀ effect ∈ s.effects, (match effect with
      | .postTimeout id _ => decide (id ≠ args.token)
      | _ => true) = true) ∧ s.posts args.callback = 0 ∧ s.owed args.callback = 0 ∧
      (args.bridgeId ≠ 0 → s.calls args.bridgeId = 0)) (by
    constructor
    · rintro ⟨tokens, posted, owed, bridge⟩
      exact ⟨fun delay mem => by simpa using tokens _ mem, posted, owed, bridge⟩
    · rintro ⟨tokens, posted, owed, bridge⟩
      refine ⟨fun effect mem => ?_, posted, owed, bridge⟩
      cases effect with
      | postTimeout id delay => exact decide_eq_true fun (same : id = args.token) => tokens delay (same ▸ mem)
      | _ => rfl)

instance (s : Service) : (op : ServiceOp) → Decidable (s.permitted op)
  | .check _ args => inferInstanceAs (Decidable (s.destroyed = false ∧ s.Fresh args))
  | .cancel _ => inferInstanceAs (Decidable (s.destroyed = false ∧ True))
  | .notified => inferInstanceAs (Decidable (s.destroyed = false ∧ s.notifying.isSome = true))
  | .onCloud _ _ _ _ | .onRules _ | .onSources _ | .timeout _ | .configure _ _ | .setSiteEnabled _ _ _
  | .destroy _ => inferInstanceAs (Decidable (s.destroyed = false ∧ s.notifying = none))

def bothView : View :=
  { counterView with
    updater := some { status := .ready, expires := 100 }
    sources := some { ready := true, usable := true, matchUrl := fun _ => {} } }

def enabling (provider : String) : DictValue :=
  [("contextId", .string "context"), ("expectedRevision", .int 1), ("enabled", .bool true),
    ("cloudConsent", .bool true), ("provider", .string provider)]

def newService (view : View) : Service := construct counterPlatform view [] false "context"

def exampleCheck (token : String) (callback : Nat) (bridgeId : Int) : CheckArgs :=
  { url := ⟨"https://example.com/"⟩, timeout := kBudget, callback := callback, token := token, bridgeId := bridgeId }

def exampleReply (requestId verdict : String) : Reply where
  ok := true
  result := [("protocolVersion", .int 1), ("policyRevision", .int 2), ("requestId", .string requestId),
    ("contextId", .string "context"), ("checkedUrl", .string "https://example.com/"), ("verdict", .string verdict)]

-- The local rules have no match, and the cloud answers after them.
theorem danger_dominates_cloud : ∃ (s t : Service) (after : List (Service × ServiceOp)) (result : Result),
    .postResult 1 result ∈ t.effects ∧ result.verdict = .phishing ∧
      ∃ step ∈ (s, .check bothView (exampleCheck "token" 1 7)) :: after, step.1.outcome counterPlatform step.2 1 true := by
  have follows : Transition.Follows permitted (next counterPlatform) (newService bothView)
      [.configure bothView (enabling "both"), .notified] := by decide
  obtain ⟨before, earlier, -⟩ := follows.trace
  have checks : Transition.Follows permitted (next counterPlatform)
      ([.configure bothView (enabling "both"), .notified].foldl (next counterPlatform) (newService bothView))
      [.check bothView (exampleCheck "token" 1 7)] := by decide
  have answers : Transition.Follows permitted (next counterPlatform)
      (([.configure bothView (enabling "both"), .notified].foldl (next counterPlatform) (newService bothView)).next
        counterPlatform (.check bothView (exampleCheck "token" 1 7)))
      [.onCloud bothView "token" 2 (exampleReply "token" "phishing")] := by decide
  obtain ⟨after, later, -⟩ := answers.trace
  have dominated := danger_dominates counterPlatform _ _ _ _ before after bothView (exampleCheck "token" 1 7)
    ⟨bothView, [], false, "context", rfl⟩ (earlier.append (.cons ⟨checks.1, rfl⟩ later)) rfl
  have posted : .postResult 1 (cloudResult .phishing ⟨"https://example.com/"⟩) ∈
      ((([.configure bothView (enabling "both"), .notified] : List ServiceOp).foldl (next counterPlatform)
        (newService bothView)).next counterPlatform (.check bothView (exampleCheck "token" 1 7)) |>.next counterPlatform
          (.onCloud bothView "token" 2 (exampleReply "token" "phishing"))).effects := by decide +kernel
  exact ⟨_, _, after, _, posted, rfl, (dominated.2.1 _ posted).mp rfl⟩

end Service

end ChromiumHmos.UrlProtection
