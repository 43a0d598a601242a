import ChromiumHmos.Lib.OrderedMap
import ChromiumHmos.UrlProtection.Service

set_option autoImplicit false

/-!
# What the service still owes

Every callback is either posted or owed by a pending entry, and every bridge call is
cancelled, answered or held by one. `Settles` is a move that keeps both sums: it completes
entries or rewrites their results, and takes in no new request.
-/

namespace ChromiumHmos.UrlProtection

open OrderedMap

namespace Effect

def postsTo (callback : Nat) : Effect → Bool
  | .postResult posted _ => posted == callback
  | _ => false

def cancelsBridge (bridgeId : Int) : Effect → Bool
  | .cancelCall cancelled => cancelled == bridgeId
  | _ => false

def callsBridge (bridgeId : Int) : Effect → Bool
  | .callCheck called .. => called == bridgeId
  | _ => false

-- What a registered check leaves behind for later.
def requests : Effect → Bool
  | .callCheck .. | .postTimeout .. => true
  | _ => false

def neutral : Effect → Bool
  | .postResult .. | .cancelCall .. | .callCheck .. | .postTimeout .. => false
  | _ => true

end Effect

namespace Service

def posts (s : Service) (callback : Nat) : Nat := s.effects.countP (Effect.postsTo callback)

def cancels (s : Service) (bridgeId : Int) : Nat :=
  s.effects.countP (Effect.cancelsBridge bridgeId)

def calls (s : Service) (bridgeId : Int) : Nat := s.effects.countP (Effect.callsBridge bridgeId)

def owes (callback : Nat) (_ : String) (call : Pending) : Nat :=
  if call.callback = callback then 1 else 0

def holds (bridgeId : Int) (_ : String) (call : Pending) : Nat :=
  if call.bridgeId = bridgeId then 1 else 0

def owed (s : Service) (callback : Nat) : Nat := total (owes callback) s.pending

def held (s : Service) (bridgeId : Int) : Nat := total (holds bridgeId) s.pending

structure Balances (s t : Service) : Prop where
  entries : ∀ (id : String) (call : Pending), t.pending[id]? = some call →
    ∃ old : Pending, s.pending[id]? = some old ∧ call.callback = old.callback ∧
      call.bridgeId = old.bridgeId
  size : t.pending.size ≤ s.pending.size
  posted : ∀ callback, t.posts callback + t.owed callback = s.posts callback + s.owed callback
  cancelled : ∀ bridgeId, bridgeId ≠ 0 →
    t.cancels bridgeId + t.held bridgeId = s.cancels bridgeId + s.held bridgeId
  grows : s.effects ⊆ t.effects
  requests : ∀ effect ∈ t.effects, effect.requests → effect ∈ s.effects
  called : ∀ bridgeId, t.calls bridgeId = s.calls bridgeId

structure Settles (s t : Service) : Prop extends Balances s t where
  revision : t.revision = s.revision
  cache : t.cache = s.cache
  notifying : t.notifying = s.notifying
  destroyed : t.destroyed = s.destroyed

variable (s : Service)

theorem Balances.refl : Balances s s where
  entries := fun _ call found => ⟨call, found, rfl, rfl⟩
  size := le_rfl
  posted := fun _ => rfl
  cancelled := fun _ _ => rfl
  grows := List.Subset.refl _
  requests := fun _ member _ => member
  called := fun _ => rfl

theorem Balances.trans {s t u : Service} (first : Balances s t) (second : Balances t u) :
    Balances s u where
  entries := by
    intro id call found
    obtain ⟨middle, present, callback, bridge⟩ := second.entries id call found
    obtain ⟨old, here, oldCallback, oldBridge⟩ := first.entries id middle present
    exact ⟨old, here, callback.trans oldCallback, bridge.trans oldBridge⟩
  size := le_trans second.size first.size
  posted := fun callback => (second.posted callback).trans (first.posted callback)
  cancelled := fun bridgeId used =>
    (second.cancelled bridgeId used).trans (first.cancelled bridgeId used)
  grows := List.Subset.trans first.grows second.grows
  requests := fun effect member request =>
    first.requests effect (second.requests effect member request) request
  called := fun bridgeId => (second.called bridgeId).trans (first.called bridgeId)

theorem Balances.of_same {s t : Service} (pending : t.pending = s.pending)
    (effects : t.effects = s.effects) : Balances s t := by
  have kept := Balances.refl s
  obtain ⟨entries, size, posted, cancelled, grows, requests, called⟩ := kept
  constructor <;> simp only [posts, cancels, calls, owed, held, pending, effects] at * <;> assumption

theorem Settles.refl : Settles s s := ⟨.refl s, rfl, rfl, rfl, rfl⟩

theorem Settles.trans {s t u : Service} (first : Settles s t) (second : Settles t u) :
    Settles s u where
  toBalances := first.toBalances.trans second.toBalances
  revision := second.revision.trans first.revision
  cache := second.cache.trans first.cache
  notifying := second.notifying.trans first.notifying
  destroyed := second.destroyed.trans first.destroyed

theorem Effect.neutral_quiet (effect : Effect) (neutral : effect.neutral = true) :
    (∀ callback, effect.postsTo callback = false) /\
      (∀ bridgeId, effect.cancelsBridge bridgeId = false) /\
      (∀ bridgeId, effect.callsBridge bridgeId = false) /\ effect.requests = false := by
  cases effect <;> simp_all [Effect.neutral, Effect.postsTo, Effect.cancelsBridge,
    Effect.callsBridge, Effect.requests]

theorem emit_settles (sent : List Effect)
    (neutral : ∀ effect ∈ sent, effect.neutral = true) : Settles s (s.emit sent) := by
  have quiet := fun effect member => Effect.neutral_quiet effect (neutral effect member)
  have none (p : Effect -> Bool) (h : ∀ effect ∈ sent, p effect = false) : sent.countP p = 0 :=
    List.countP_eq_zero.mpr fun effect member => by simp [h effect member]
  refine ⟨?_, rfl, rfl, rfl, rfl⟩
  constructor
  · exact fun _ call found => ⟨call, found, rfl, rfl⟩
  · exact le_rfl
  · intro callback
    simp [emit, posts, owed, none _ fun effect member => (quiet effect member).1 callback]
  · intro bridgeId _
    simp [emit, cancels, held, none _ fun effect member => (quiet effect member).2.1 bridgeId]
  · simp [emit]
  · intro effect member request
    rcases List.mem_append.mp member with before | added
    · exact before
    · simp [(quiet effect added).2.2.2] at request
  · intro bridgeId
    simp [emit, calls, none _ fun effect member => (quiet effect member).2.2.1 bridgeId]

theorem completion_posts (id : String) (call : Pending) (result : Result)
    (callback : Nat) : (s.completion id call result).countP (Effect.postsTo callback) =
      owes callback id call := by
  by_cases bridged : call.bridgeId ≠ 0 <;>
    by_cases same : call.callback = callback <;>
      simp [completion, bridged, same, owes, Effect.postsTo]

theorem completion_cancels (id : String) (call : Pending) (result : Result)
    (bridgeId : Int) (used : bridgeId ≠ 0) :
    (s.completion id call result).countP (Effect.cancelsBridge bridgeId) =
      holds bridgeId id call := by
  by_cases bridged : call.bridgeId = 0
  · simp [completion, bridged, used.symm, holds, Effect.cancelsBridge]
  · by_cases same : call.bridgeId = bridgeId <;>
      simp [completion, bridged, same, used, holds, Effect.cancelsBridge]

theorem completion_calls (id : String) (call : Pending) (result : Result)
    (bridgeId : Int) : (s.completion id call result).countP (Effect.callsBridge bridgeId) = 0 := by
  by_cases bridged : call.bridgeId ≠ 0 <;> simp [completion, bridged, Effect.callsBridge]

theorem completion_requests (id : String) (call : Pending) (result : Result)
    (effect : Effect) (member : effect ∈ s.completion id call result) :
    effect.requests = false := by
  simp only [completion, List.mem_append, List.mem_singleton] at member
  rcases member with early | rfl
  · by_cases bridged : call.bridgeId ≠ 0
    · simp only [bridged, ne_eq, not_false_eq_true, if_true, List.mem_cons,
        List.not_mem_nil, or_false] at early
      rcases early with rfl | rfl <;> rfl
    · simp [bridged] at early
  · rfl

theorem retire_settles (id : String) (call : Pending) (result : Result)
    (found : s.pending[id]? = some call) :
    Settles s (({ s with pending := s.pending.erase id } : Service).emit
      (s.completion id call result)) := by
  refine ⟨?_, rfl, rfl, rfl, rfl⟩
  constructor
  · intro other entry present
    have kept := (getElem?_erase_some _ _ _ _).mp present
    exact ⟨entry, kept.2, rfl, rfl⟩
  · exact Std.ExtTreeMap.size_erase_le
  · intro callback
    have moved := total_erase (owes callback) s.pending id call found
    have posted := completion_posts s id call result callback
    simp only [emit, posts, owed, List.countP_append] at *
    omega
  · intro bridgeId used
    have moved := total_erase (holds bridgeId) s.pending id call found
    have cancelled := completion_cancels s id call result bridgeId used
    simp only [emit, cancels, held, List.countP_append] at *
    omega
  · simp [emit]
  · intro effect member request
    rcases List.mem_append.mp member with before | added
    · exact before
    · simp [completion_requests s id call result effect added] at request
  · intro bridgeId
    simp [emit, calls, completion_calls]

theorem maybeComplete_settles (id : String) : Settles s (s.maybeComplete id) := by
  unfold maybeComplete
  cases found : s.pending[id]? with
  | none => exact .refl s
  | some call =>
    dsimp only
    split
    · exact .refl s
    · exact retire_settles s id call call.result found

theorem countP_flatMap_total {p : Effect -> Bool} (entries : Std.ExtTreeMap String Pending)
    (sent : String × Pending -> List Effect) (weight : String -> Pending -> Nat)
    (each : ∀ entry, (sent entry).countP p = weight entry.1 entry.2) :
    (entries.toList.flatMap sent).countP p = total weight entries := by
  simp only [List.countP_flatMap, total, Function.comp_def, each]

theorem cancelAll_settles (reason : String) : Settles s (s.cancelAll reason) := by
  unfold cancelAll
  refine ⟨?_, rfl, rfl, rfl, rfl⟩
  constructor
  · intro id call found
    simp [emit] at found
  · simp [emit]
  · intro callback
    simp only [emit, posts, owed, List.countP_append, total_empty]
    rw [countP_flatMap_total s.pending _ (owes callback) fun entry =>
      completion_posts s entry.1 entry.2 _ callback]
    rfl
  · intro bridgeId used
    simp only [emit, cancels, held, List.countP_append, total_empty]
    rw [countP_flatMap_total s.pending _ (holds bridgeId) fun entry =>
      completion_cancels s entry.1 entry.2 _ bridgeId used]
    rfl
  · simp [emit]
  · intro effect member request
    rcases List.mem_append.mp member with before | added
    · exact before
    · obtain ⟨entry, -, sent⟩ := List.mem_flatMap.mp added
      simp [completion_requests _ _ _ _ effect sent] at request
  · intro bridgeId
    simp [emit, calls, List.countP_flatMap, Function.comp_def, completion_calls]

@[simp] theorem cancelAll_pending (s : Service) (reason : String) :
    (s.cancelAll reason).pending = ∅ := rfl

theorem update_settles (id : String) (old call : Pending)
    (found : s.pending[id]? = some old) (callback : call.callback = old.callback)
    (bridge : call.bridgeId = old.bridgeId) :
    Settles s { s with pending := s.pending.insert id call } := by
  refine ⟨?_, rfl, rfl, rfl, rfl⟩
  constructor
  · intro other entry present
    rcases (getElem?_insert_some _ _ _ _ _).mp present with ⟨rfl, rfl⟩ | ⟨-, kept⟩
    · exact ⟨old, found, callback, bridge⟩
    · exact ⟨entry, kept, rfl, rfl⟩
  · have known : id ∈ s.pending := by
      rw [Std.ExtTreeMap.mem_iff_isSome_getElem?, found]
      rfl
    simp [Std.ExtTreeMap.size_insert, known]
  · intro target
    have moved := total_insert_found (owes target) s.pending id old call found
    simp only [owes, callback, Nat.add_right_cancel_iff] at moved
    simp [posts, owed, moved]
  · intro target _
    have moved := total_insert_found (holds target) s.pending id old call found
    simp only [holds, bridge, Nat.add_right_cancel_iff] at moved
    simp [cancels, held, moved]
  · exact List.Subset.refl _
  · exact fun _ member _ => member
  · exact fun _ => rfl

theorem map_settles (f : String -> Pending -> Pending)
    (callback : ∀ id call, (f id call).callback = call.callback)
    (bridge : ∀ id call, (f id call).bridgeId = call.bridgeId) :
    Settles s { s with pending := s.pending.map f } := by
  refine ⟨?_, rfl, rfl, rfl, rfl⟩
  constructor
  · intro id call found
    rw [Std.ExtTreeMap.getElem?_map, Option.map_eq_some_iff] at found
    obtain ⟨old, present, rfl⟩ := found
    exact ⟨old, present, callback id old, bridge id old⟩
  · simp
  · intro target
    simp only [posts, owed, total_map, owes, callback]
    rfl
  · intro target _
    simp only [cancels, held, total_map, holds, bridge]
    rfl
  · exact List.Subset.refl _
  · exact fun _ member _ => member
  · exact fun _ => rfl

theorem foldl_maybeComplete_settles (ids : List String) :
    Settles s (ids.foldl maybeComplete s) := by
  induction ids generalizing s with
  | nil => exact .refl s
  | cons id rest ih => exact (maybeComplete_settles s id).trans (ih _)

end Service

end ChromiumHmos.UrlProtection
