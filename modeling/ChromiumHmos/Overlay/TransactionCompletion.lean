import ChromiumHmos.Lib.Transition

set_option autoImplicit false

/-!
# Transaction completion

The owner's thread chooses a timestamp for each confirmed flush; callbacks on other threads
acknowledge registered timestamps, in any order and any number of times.
-/

namespace ChromiumHmos.Overlay

open Transition

/-- Above the handler's watermark and the previous submission, or 0 when there is no such value. -/
def nextCompletionTimestamp (now handler previous : UInt64) : UInt64 :=
  let floor := max handler previous
  if floor = UInt64.ofNat (2 ^ 64 - 1) then 0 else max now (floor + 1)

structure TransactionCompletion where
  expected : UInt64 := 0
  acknowledged : UInt64 := 0

-- Both loads happen on the thread that alone stores `expected`.
def TransactionCompletion.complete (completion : TransactionCompletion) : Bool :=
  completion.expected ≠ 0 && completion.acknowledged = completion.expected

/-- How far a call of `Acknowledge` has come. -/
inductive AckProgress
  | loading
  | comparing (old : UInt64)
  | returned
deriving DecidableEq

structure AckCall where
  timestamp : UInt64
  progress : AckProgress := .loading
deriving DecidableEq

structure CompletionState where
  completion : TransactionCompletion := {}
  -- Stored as expected; its callback is not registered yet.
  unregistered : Option UInt64 := none
  registered : List UInt64 := []
  calls : List AckCall := []
  drainFailed : Bool := false

inductive CompletionOp
  -- `ConfirmedFlush` up to its store of `expected`; no clock is `none`.
  | confirmedFlush (now : Option UInt64) (handler : UInt64)
  | transactionCallback (accepted : Bool)
  -- RS runs the callback of a registered timestamp.
  | callback (timestamp : UInt64)
  | load (call : Nat)
  -- One turn of the `while` in `Acknowledge`; a weak exchange may fail without a reason.
  | compareExchange (call : Nat) (spurious : Bool)

namespace CompletionState

def setCall (s : CompletionState) (i : Nat) (call : AckCall) : CompletionState :=
  { s with calls := s.calls.set i call }

def confirmedFlush (s : CompletionState) (now : Option UInt64) (handler : UInt64) :
    CompletionState :=
  match now with
  | none => { s with drainFailed := true }
  | some now =>
    let timestamp := nextCompletionTimestamp now handler s.completion.expected
    if timestamp = 0 then { s with drainFailed := true }
    else
      { s with
        completion := { s.completion with expected := timestamp }
        unregistered := some timestamp }

def transactionCallback (s : CompletionState) (accepted : Bool) : CompletionState :=
  match s.unregistered with
  | none => s
  | some timestamp =>
    if accepted then
      { s with registered := s.registered ++ [timestamp], unregistered := none }
    else { s with unregistered := none, drainFailed := true }

def load (s : CompletionState) (i : Nat) : CompletionState :=
  match s.calls[i]? with
  | some ⟨timestamp, .loading⟩ => s.setCall i ⟨timestamp, .comparing s.completion.acknowledged⟩
  | _ => s

def compareExchange (s : CompletionState) (i : Nat) (spurious : Bool) : CompletionState :=
  match s.calls[i]? with
  | some ⟨timestamp, .comparing old⟩ =>
    if old < timestamp then
      if s.completion.acknowledged = old ∧ spurious = false then
        { s.setCall i ⟨timestamp, .returned⟩ with
          completion := { s.completion with acknowledged := timestamp } }
      else s.setCall i ⟨timestamp, .comparing s.completion.acknowledged⟩
    else s.setCall i ⟨timestamp, .returned⟩
  | _ => s

def next (s : CompletionState) : CompletionOp → CompletionState
  | .confirmedFlush now handler => s.confirmedFlush now handler
  | .transactionCallback accepted => s.transactionCallback accepted
  | .callback timestamp => { s with calls := s.calls ++ [{ timestamp := timestamp }] }
  | .load call => s.load call
  | .compareExchange call spurious => s.compareExchange call spurious

/-- The owner finishes one flush before the next, and RS runs registered callbacks only. -/
def permitted (s : CompletionState) : CompletionOp → Prop
  | .confirmedFlush _ _ => s.unregistered = none
  | .transactionCallback _ => s.unregistered ≠ none
  | .callback timestamp => timestamp ∈ s.registered
  | .load _ => True
  | .compareExchange _ _ => True

instance decidablePermitted (s : CompletionState) (op : CompletionOp) : Decidable (s.permitted op) := by
  cases op <;> unfold permitted <;> infer_instance

def NewestAcknowledged (s : CompletionState) : Prop :=
  ∃ call ∈ s.calls, call.timestamp = s.completion.expected ∧ call.progress = .returned

structure CompletionInv (s : CompletionState) : Prop where
  called : ∀ call ∈ s.calls, call.timestamp ∈ s.registered
  issued : ∀ timestamp ∈ s.registered, timestamp ≤ s.completion.expected ∧ timestamp ≠ 0
  stored : ∀ timestamp, s.unregistered = some timestamp →
    timestamp = s.completion.expected ∧ timestamp ≠ 0
  loaded : ∀ call ∈ s.calls, ∀ old, call.progress = .comparing old →
    old ≤ s.completion.acknowledged
  returned : ∀ call ∈ s.calls, call.progress = .returned →
    call.timestamp ≤ s.completion.acknowledged
  source : s.completion.acknowledged = 0 ∨
    ∃ call ∈ s.calls, call.timestamp = s.completion.acknowledged ∧ call.progress = .returned

end CompletionState

theorem UInt64_le_max (a b : UInt64) : a <= max a b /\ b <= max a b := by
  have shape : max a b = if a <= b then b else a := rfl
  rw [shape]
  split
  next below => exact ⟨below, Std.le_refl b⟩
  next above => exact ⟨Std.le_refl a, Std.le_of_lt (Std.not_le.mp above)⟩

theorem UInt64_lt_succ (floor : UInt64) (room : floor ≠ UInt64.ofNat (2 ^ 64 - 1)) :
    floor < floor + 1 := by
  have bound := floor.toNat_lt
  have apart : floor.toNat ≠ 2 ^ 64 - 1 := fun same => room (UInt64.toNat_inj.mp (by simpa using same))
  rw [UInt64.lt_iff_toNat_lt, UInt64.toNat_add]
  simp only [UInt64.reduceToNat]
  omega

theorem nextCompletionTimestamp_above (now handler previous : UInt64)
    (chosen : nextCompletionTimestamp now handler previous ≠ 0) :
    handler < nextCompletionTimestamp now handler previous /\
      previous < nextCompletionTimestamp now handler previous /\
      now <= nextCompletionTimestamp now handler previous := by
  unfold nextCompletionTimestamp at chosen ⊢
  dsimp only at chosen ⊢
  split at chosen
  next => exact absurd rfl chosen
  next room =>
    rw [if_neg room]
    have above := UInt64_lt_succ _ room
    obtain ⟨clock, upper⟩ := UInt64_le_max now (max handler previous + 1)
    obtain ⟨watermark, last⟩ := UInt64_le_max handler previous
    have fresh : max handler previous < max now (max handler previous + 1) :=
      Std.lt_of_lt_of_le above upper
    exact ⟨Std.lt_of_le_of_lt watermark fresh, Std.lt_of_le_of_lt last fresh, clock⟩

namespace CompletionState

theorem confirmedFlush_cases (s : CompletionState) (now : Option UInt64) (handler : UInt64) :
    s.confirmedFlush now handler = { s with drainFailed := true } \/
      ∃ timestamp, timestamp ≠ 0 /\ handler < timestamp /\ s.completion.expected < timestamp /\
        s.confirmedFlush now handler =
          { s with
            completion := { s.completion with expected := timestamp }
            unregistered := some timestamp } := by
  unfold confirmedFlush
  cases now with
  | none => exact Or.inl rfl
  | some now =>
    dsimp only
    split
    next => exact Or.inl rfl
    next chosen =>
      obtain ⟨watermark, previous, -⟩ := nextCompletionTimestamp_above now handler _ chosen
      exact Or.inr ⟨_, chosen, watermark, previous, rfl⟩

/-- What a turn of a call may do to the shared state; a call that returned takes no more turns. -/
inductive CallStep (s t : CompletionState) : Prop
  | nothing : t = s → CallStep s t
  | loads (i : Nat) (call : AckCall) : s.calls[i]? = some call → call.progress ≠ .returned →
      t = s.setCall i ⟨call.timestamp, .comparing s.completion.acknowledged⟩ → CallStep s t
  | raises (i : Nat) (call : AckCall) : s.calls[i]? = some call → call.progress ≠ .returned →
      s.completion.acknowledged < call.timestamp →
      t = { s.setCall i ⟨call.timestamp, .returned⟩ with
        completion := { s.completion with acknowledged := call.timestamp } } → CallStep s t
  | passes (i : Nat) (call : AckCall) (old : UInt64) : s.calls[i]? = some call →
      call.progress = .comparing old → call.timestamp ≤ old →
      t = s.setCall i ⟨call.timestamp, .returned⟩ → CallStep s t

theorem load_step (s : CompletionState) (i : Nat) : CallStep s (s.load i) := by
  unfold load
  split
  next timestamp held => exact .loads i _ held (by simp) rfl
  next => exact .nothing rfl

theorem compareExchange_step (s : CompletionState) (i : Nat) (spurious : Bool) :
    CallStep s (s.compareExchange i spurious) := by
  unfold compareExchange
  split
  next timestamp old held =>
    split
    next below =>
      split
      next same =>
        refine .raises i _ held (by simp) ?_ rfl
        rw [same.1]
        exact below
      next => exact .loads i _ held (by simp) rfl
    next notBelow => exact .passes i _ old held rfl (Std.not_lt.mp notBelow) rfl
  next => exact .nothing rfl

theorem mem_setCall (s : CompletionState) (i : Nat) (call other : AckCall)
    (member : other ∈ (s.setCall i call).calls) : other ∈ s.calls \/ other = call :=
  List.mem_or_eq_of_mem_set member

theorem setCall_self (s : CompletionState) (i : Nat) (old call : AckCall)
    (held : s.calls[i]? = some old) : call ∈ (s.setCall i call).calls := by
  obtain ⟨inside, -⟩ := List.getElem?_eq_some_iff.mp held
  exact List.mem_iff_getElem?.mpr ⟨i, List.getElem?_set_self inside⟩

theorem setCall_keeps (s : CompletionState) (i : Nat) (old call other : AckCall)
    (held : s.calls[i]? = some old) (member : other ∈ s.calls) (differs : other ≠ old) :
    other ∈ (s.setCall i call).calls := by
  obtain ⟨j, found⟩ := List.mem_iff_getElem?.mp member
  have apart : i ≠ j := by
    rintro rfl
    exact differs (Option.some.inj (found.symm.trans held))
  exact List.mem_iff_getElem?.mpr ⟨j, (List.getElem?_set_ne apart).trans found⟩

variable {s : CompletionState}

theorem CompletionInv.called_setCall (inv : CompletionInv s) (i : Nat) (old call : AckCall)
    (held : s.calls[i]? = some old) (same : call.timestamp = old.timestamp) :
    ∀ other ∈ (s.setCall i call).calls, other.timestamp ∈ s.registered := by
  intro other member
  rcases mem_setCall s i call other member with before | rfl
  · exact inv.called other before
  · rw [same]
    exact inv.called old (List.mem_of_getElem? held)

theorem CompletionInv.source_setCall (inv : CompletionInv s) (i : Nat) (old call : AckCall)
    (held : s.calls[i]? = some old) (unfinished : old.progress ≠ .returned) :
    s.completion.acknowledged = 0 \/ ∃ other ∈ (s.setCall i call).calls,
      other.timestamp = s.completion.acknowledged /\ other.progress = .returned := by
  rcases inv.source with none | ⟨other, member, same, done⟩
  · exact Or.inl none
  · refine Or.inr ⟨other, setCall_keeps s i old call other held member ?_, same, done⟩
    rintro rfl
    exact unfinished done

theorem CompletionInv.callStep (inv : CompletionInv s) (t : CompletionState) (step : CallStep s t) :
    CompletionInv t := by
  cases step with
  | nothing same =>
    rw [same]
    exact inv
  | loads i call held unfinished same =>
    subst same
    refine ⟨inv.called_setCall i call _ held rfl, inv.issued, inv.stored, ?_, ?_,
      inv.source_setCall i call _ held unfinished⟩
    · intro other member old comparing
      rcases mem_setCall s i _ other member with before | rfl
      · exact inv.loaded other before old comparing
      · cases comparing
        exact Std.le_refl _
    · intro other member done
      rcases mem_setCall s i _ other member with before | rfl
      · exact inv.returned other before done
      · cases done
  | raises i call held unfinished above same =>
    subst same
    refine ⟨inv.called_setCall i call _ held rfl, inv.issued, inv.stored, ?_, ?_,
      Or.inr ⟨_, setCall_self s i call _ held, rfl, rfl⟩⟩
    · intro other member old comparing
      rcases mem_setCall s i _ other member with before | rfl
      · exact Std.le_trans (inv.loaded other before old comparing) (Std.le_of_lt above)
      · cases comparing
    · intro other member done
      rcases mem_setCall s i _ other member with before | rfl
      · exact Std.le_trans (inv.returned other before done) (Std.le_of_lt above)
      · exact Std.le_refl _
  | passes i call old held comparing reached same =>
    subst same
    have member := List.mem_of_getElem? held
    refine ⟨inv.called_setCall i call _ held rfl, inv.issued, inv.stored, ?_, ?_,
      inv.source_setCall i call _ held (by rw [comparing]; simp)⟩
    · intro other inside value loaded
      rcases mem_setCall s i _ other inside with before | rfl
      · exact inv.loaded other before value loaded
      · cases loaded
    · intro other inside done
      rcases mem_setCall s i _ other inside with before | rfl
      · exact inv.returned other before done
      · exact Std.le_trans reached (inv.loaded call member old comparing)

theorem CompletionInv.step (inv : CompletionInv s) (op : CompletionOp) (allowed : s.permitted op) :
    CompletionInv (s.next op) := by
  cases op with
  | confirmedFlush now handler =>
    rcases confirmedFlush_cases s now handler with same | ⟨timestamp, positive, _, newer, same⟩
    · rw [next, same]
      exact ⟨inv.called, inv.issued, inv.stored, inv.loaded, inv.returned, inv.source⟩
    · rw [next, same]
      refine ⟨inv.called, ?_, ?_, inv.loaded, inv.returned, inv.source⟩
      · intro other held
        exact ⟨Std.le_trans (inv.issued other held).1 (Std.le_of_lt newer), (inv.issued other held).2⟩
      · intro other stored
        cases stored
        exact ⟨rfl, positive⟩
  | transactionCallback accepted =>
    rw [next, transactionCallback]
    split
    next => exact inv
    next timestamp stored =>
      obtain ⟨rfl, positive⟩ := inv.stored timestamp stored
      split
      next =>
        refine ⟨fun call member => List.mem_append_left _ (inv.called call member), ?_, by simp,
          inv.loaded, inv.returned, inv.source⟩
        intro other held
        rcases List.mem_append.mp held with before | new
        · exact inv.issued other before
        · rw [List.mem_singleton.mp new]
          exact ⟨Std.le_refl _, positive⟩
      next =>
        exact ⟨inv.called, inv.issued, by simp, inv.loaded, inv.returned, inv.source⟩
  | callback timestamp =>
    rw [next]
    refine ⟨?_, inv.issued, inv.stored, ?_, ?_, ?_⟩
    · intro call member
      rcases List.mem_append.mp member with before | new
      · exact inv.called call before
      · rw [List.mem_singleton.mp new]
        exact allowed
    · intro call member old comparing
      rcases List.mem_append.mp member with before | new
      · exact inv.loaded call before old comparing
      · rw [List.mem_singleton.mp new] at comparing
        cases comparing
    · intro call member done
      rcases List.mem_append.mp member with before | new
      · exact inv.returned call before done
      · rw [List.mem_singleton.mp new] at done
        cases done
    · rcases inv.source with none | ⟨call, member, source⟩
      · exact Or.inl none
      · exact Or.inr ⟨call, List.mem_append_left _ member, source⟩
  | load call => exact inv.callStep _ (load_step s call)
  | compareExchange call spurious => exact inv.callStep _ (compareExchange_step s call spurious)

theorem initial_inv : CompletionInv {} :=
  ⟨by simp, by simp, by simp, by simp, by simp, Or.inl rfl⟩

theorem CompletionInv.complete_iff (inv : CompletionInv s) :
    s.completion.complete = true ↔ s.NewestAcknowledged := by
  simp only [TransactionCompletion.complete, Bool.and_eq_true, decide_eq_true_eq]
  constructor
  · rintro ⟨chosen, same⟩
    rcases inv.source with none | ⟨call, member, source, done⟩
    · exact absurd (same.symm.trans none) chosen
    · exact ⟨call, member, source.trans same, done⟩
  · rintro ⟨call, member, newest, done⟩
    have reached := inv.returned call member done
    obtain ⟨-, positive⟩ := inv.issued _ (inv.called call member)
    rw [newest] at reached positive
    refine ⟨positive, Std.le_antisymm ?_ reached⟩
    rcases inv.source with none | ⟨other, inside, source, -⟩
    · rw [none]
      exact UInt64.zero_le
    · rw [<- source]
      exact (inv.issued _ (inv.called other inside)).1

/-- Complete exactly when the newest timestamp, above all before it, was itself acknowledged. -/
theorem completion_is_of_the_newest (trace : List (CompletionState × CompletionOp))
    (final : CompletionState) (run : Trace (guarded permitted next) {} trace final) :
    (final.completion.complete = true ↔ final.NewestAcknowledged) ∧
      ∀ now handler, final.confirmedFlush now handler = { final with drainFailed := true } ∨
        ∃ timestamp, handler < timestamp ∧ final.completion.expected < timestamp ∧
          final.confirmedFlush now handler =
            { final with
              completion := { final.completion with expected := timestamp }
              unregistered := some timestamp } := by
  have inv : CompletionInv final := run.preserves
    (fun s op t (inv : CompletionInv s) moved => by
      rw [moved.2]
      exact inv.step op moved.1) initial_inv
  refine ⟨inv.complete_iff, fun now handler => ?_⟩
  rcases confirmedFlush_cases final now handler with same | ⟨timestamp, -, watermark, newer, same⟩
  · exact Or.inl same
  · exact Or.inr ⟨timestamp, watermark, newer, same⟩

-- The first timestamp is acknowledged late and twice, the second once.
def lateAcknowledgements : List CompletionOp :=
  [.confirmedFlush (some 5) 0, .transactionCallback true, .callback 5,
    .confirmedFlush (some 3) 9, .transactionCallback true, .load 0, .compareExchange 0 false,
    .callback 10, .callback 5, .load 1, .compareExchange 1 true, .compareExchange 1 false,
    .load 2, .compareExchange 2 false]

theorem completion_is_of_the_newest_late :
    (lateAcknowledgements.foldl next {}).completion.complete = true := by
  have follows : Follows permitted next {} lateAcknowledgements := by decide
  obtain ⟨trace, run, -⟩ := follows.trace
  exact (completion_is_of_the_newest trace _ run).1.mpr ⟨⟨10, .returned⟩, by decide⟩

end CompletionState

end ChromiumHmos.Overlay
