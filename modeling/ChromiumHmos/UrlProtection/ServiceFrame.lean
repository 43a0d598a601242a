import ChromiumHmos.UrlProtection.Service

set_option autoImplicit false

/-!
# What the operations leave alone

Completing entries and taking over rules touch a few fields only, and acquire and release nothing.
-/

namespace ChromiumHmos.UrlProtection

open Base

namespace Effect

def isLease : Effect → Bool
  | .acquireUpdater | .acquireSources | .releaseUpdater | .releaseSources => true
  | _ => false

end Effect

namespace Service

variable (platform : Platform)

def quiet (sent : List Effect) : Prop := sent.filter Effect.isLease = []

theorem quiet_append {sent more : List Effect} (first : quiet sent) (second : quiet more) : quiet (sent ++ more) := by
  rw [quiet, List.filter_append, first, second]
  rfl

theorem quiet_broadcast (event : String) : quiet [.broadcast event] := rfl

theorem quiet_result (callback : Nat) (result : Result) : quiet [.postResult callback result] := rfl

theorem quiet_control (method : String) (requestId : Option String) (identity : Identity) :
    quiet [.sendControl method requestId identity] := rfl

variable (s : Service)

theorem completion_quiet (id : String) (call : Pending) (result : Result) :
    quiet (s.completion id call result) := by
  unfold completion quiet
  split <;> rfl

theorem cancelAll_frame (reason : String) : ∃ sent,
    s.cancelAll reason = { s with pending := ∅, effects := s.effects ++ sent } /\ quiet sent := by
  refine ⟨_, rfl, ?_⟩
  rw [quiet, List.filter_flatMap, List.flatMap_eq_nil_iff]
  exact fun entry _ => completion_quiet s entry.1 entry.2 _

theorem maybeComplete_frame (id : String) : ∃ pending sent,
    s.maybeComplete id = { s with pending := pending, effects := s.effects ++ sent } /\ quiet sent := by
  unfold maybeComplete
  cases s.pending[id]? with
  | none => exact ⟨s.pending, [], by rw [List.append_nil], rfl⟩
  | some call =>
    dsimp only
    split
    · exact ⟨s.pending, [], by rw [List.append_nil], rfl⟩
    · exact ⟨s.pending.erase id, _, rfl, completion_quiet s id call call.result⟩

theorem foldl_maybeComplete_frame (ids : List String) : ∃ pending sent,
    ids.foldl maybeComplete s = { s with pending := pending, effects := s.effects ++ sent } /\ quiet sent := by
  induction ids generalizing s with
  | nil => exact ⟨s.pending, [], by rw [List.append_nil]; rfl, rfl⟩
  | cons id rest ih =>
    obtain ⟨pending, sent, first, silent⟩ := maybeComplete_frame s id
    obtain ⟨pending', sent', later, silent'⟩ := ih (s.maybeComplete id)
    refine ⟨pending', sent ++ sent', ?_, quiet_append silent silent'⟩
    rw [List.foldl_cons, later, first, List.append_assoc]

theorem onRules_frame (view : View) : ∃ rules loading pending sent,
    s.onRules platform view = { s with rules := rules, loading := loading, pending := pending,
                                       effects := s.effects ++ sent } /\ quiet sent := by
  unfold onRules
  cases view.updater with
  | none => exact ⟨s.rules, s.loading, s.pending, [], by rw [List.append_nil], rfl⟩
  | some rules =>
    dsimp only
    split
    · obtain ⟨pending, sent, completed, silent⟩ := foldl_maybeComplete_frame
        { s with
          rules := rules
          loading := rules.status == .loading
          pending := s.pending.map fun _ call =>
            ({ s with rules := rules, loading := rules.status == .loading } : Service).checkLocal platform view
              { call with waitingLocal := sourcesWaiting view } } s.pending.keys
      refine ⟨rules, rules.status == .loading, pending, sent ++ [.broadcast "urlProtectionStateChanged"], ?_, quiet_append silent (quiet_broadcast _)⟩
      rw [completed, emit, List.append_assoc]
    · exact ⟨rules, _, s.pending, _, rfl, rfl⟩

-- What one `EnsureRules` or `Release` may acquire and release.
def acquires (s : Service) (view : View) : List Effect :=
  if view.updater.isNone || s.rulesAcquired then []
  else if view.sources.isSome then [.acquireUpdater, .acquireSources] else [.acquireUpdater]

def releases (s : Service) (view : View) : List Effect :=
  if view.updater.isNone || !s.rulesAcquired then []
  else if view.sources.isSome then [.releaseUpdater, .releaseSources] else [.releaseUpdater]

/-- The updater's lease is taken or given back, and the updater may tell its observers at once. -/
theorem lease_frame (view : View) (acquired : Bool) (event : Effect) :
    ∃ rules loading pending sent, (if view.updaterNotifies
      then (({ s with rulesAcquired := acquired } : Service).emit [event]).onRules platform view
      else ({ s with rulesAcquired := acquired } : Service).emit [event]) =
        { s with rulesAcquired := acquired, rules := rules, loading := loading, pending := pending,
                 effects := s.effects ++ event :: sent } /\ quiet sent := by
  obtain ⟨rules, loading, pending, sent, ran, silent⟩ := onRules_frame platform
    (({ s with rulesAcquired := acquired } : Service).emit [event]) view
  split
  · refine ⟨rules, loading, pending, sent, ran.trans ?_, silent⟩
    simp [emit]
  · exact ⟨s.rules, s.loading, s.pending, [], rfl, rfl⟩

theorem ensureRules_frame (view : View) : ∃ acquired rules loading pending sent,
    s.ensureRules platform view = { s with rulesAcquired := acquired, rules := rules, loading := loading,
                                           pending := pending, effects := s.effects ++ sent } /\
      sent.filter Effect.isLease = s.acquires view /\ acquired = (s.rulesAcquired || view.updater.isSome) := by
  unfold ensureRules acquires
  split
  · next still =>
    refine ⟨s.rulesAcquired, s.rules, s.loading, s.pending, [], by rw [List.append_nil], rfl, ?_⟩
    cases acquired : s.rulesAcquired <;> simp_all
  · next takes =>
    have held : (s.rulesAcquired || view.updater.isSome) = true := by
      cases gone : view.updater <;> simp_all
    obtain ⟨rules, loading, pending, sent, took, silent⟩ := lease_frame platform s view true .acquireUpdater
    dsimp only
    rw [took]
    split
    · refine ⟨true, rules, loading, pending, .acquireUpdater :: sent ++ [.acquireSources], ?_, ?_, held.symm⟩
      · simp [emit]
      · rw [List.filter_append, List.filter_cons_of_pos rfl, silent]
        rfl
    · refine ⟨true, rules, loading, pending, .acquireUpdater :: sent, rfl, ?_, held.symm⟩
      rw [List.filter_cons_of_pos rfl, silent]

theorem releaseRules_frame (view : View) : ∃ acquired rules loading pending sent,
    s.releaseRules platform view = { s with rulesAcquired := acquired, rules := rules, loading := loading,
                                            pending := pending, effects := s.effects ++ sent } /\
      sent.filter Effect.isLease = s.releases view /\ acquired = (s.rulesAcquired && view.updater.isNone) := by
  unfold releaseRules releases
  split
  · next still =>
    refine ⟨s.rulesAcquired, s.rules, s.loading, s.pending, [], by rw [List.append_nil], rfl, ?_⟩
    cases acquired : s.rulesAcquired <;> simp_all
  · next gives =>
    have held : (s.rulesAcquired && view.updater.isNone) = false := by
      cases gone : view.updater <;> simp_all
    obtain ⟨rules, loading, pending, sent, gave, silent⟩ := lease_frame platform s view false .releaseUpdater
    dsimp only
    rw [gave]
    cases view.sources with
    | none =>
      refine ⟨false, rules, loading, pending, .releaseUpdater :: sent, rfl, ?_, held.symm⟩
      rw [List.filter_cons_of_pos rfl, silent]
      rfl
    | some sources =>
      have released (more : List Effect) (silent' : quiet more) :
          (.releaseUpdater :: sent ++ (.releaseSources :: more)).filter Effect.isLease =
            [.releaseUpdater, .releaseSources] := by
        rw [List.filter_append, List.filter_cons_of_pos rfl, silent, List.filter_cons_of_pos rfl, silent']
        rfl
      dsimp only [Option.isNone_some]
      split
      · contradiction
      split
      · refine ⟨false, rules, loading, pending, _, ?_, released sourcesEvents rfl, held.symm⟩
        simp [emit]
      · refine ⟨false, rules, loading, pending, _, ?_, released [] rfl, held.symm⟩
        simp [emit]

end Service

end ChromiumHmos.UrlProtection
