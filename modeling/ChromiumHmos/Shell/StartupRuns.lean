import ChromiumHmos.Shell.StartupProof

set_option autoImplicit false

/-!
# The startup handoff over all runs

Navigation, another tab and the end of the contents reach the handoff before anything else does.
-/

namespace ChromiumHmos.Shell

open Std Transition History OrderedMap Base

namespace StartupHandoff

variable {s : StartupHandoff}

theorem Newest.snoc (newest : s.Newest) {event : HandoffEvent} (other : event.isRequested = false) :
    Newest (s.note event) := fun named positive => (newest named positive).snoc other

theorem HandoffInv.settledNote (inv : HandoffInv s) (idle : s.pending = false) (event : HandoffEvent)
    (opens : event.opens = false) (check : AckOk s.log event)
    (ack : ∀ token phase status requestId work shown, event ≠ .ack token phase status requestId work shown) :
    HandoffInv (s.note event) :=
  inv.note event opens check ack fun pending => absurd (idle.symm.trans pending) nofun

theorem mainFrameNavigated_inv (inv : HandoffInv s) (newest : s.Newest) (contents : Nat)
    (sameDocument finished : Bool) : HandoffInv (s.mainFrameNavigated contents sameDocument finished) /\
      Newest (s.mainFrameNavigated contents sameDocument finished) := by
  have later : Newest (s.note (.navigated contents)) := newest.snoc rfl
  -- What is under way is over before the event counts.
  have flagged (retry : Bool) : HandoffInv ({ s.invalidate with retryAfterSameDocument := retry }.note
      (.navigated contents)) := (inv.invalidate retry).settledNote rfl _ rfl trivial nofun
  unfold mainFrameNavigated
  dsimp only
  split
  · next other =>
    refine ⟨inv.note _ rfl trivial nofun fun _ watched is => ?_, later⟩
    have apart : contents ≠ watched := fun same => other (same ▸ is)
    exact decide_eq_false apart
  · split
    · exact ⟨flagged false, later⟩
    · split
      · unfold sameDocumentNavigationFinished
        split
        · exact ⟨(flagged true).await (fun other => absurd rfl other) fun other => absurd rfl other, later⟩
        · exact ⟨flagged false, later⟩
      · exact ⟨flagged _, later⟩

theorem activate_inv (inv : HandoffInv s) (newest : s.Newest) (contents : Option Nat) :
    HandoffInv ({ s with active := contents }.follow contents) /\ Newest ({ s with active := contents }.follow contents) := by
  unfold follow
  split
  · next same =>
    refine ⟨⟨.inr same, inv.work, inv.began, inv.probed, inv.acked, inv.ids, fun id callback held => ?_, inv.alone,
      inv.checks⟩, newest⟩
    refine ⟨(inv.live id callback held).1, fun live waits => ?_⟩
    have working := (inv.live id callback held).2 live waits
    exact ⟨working.pending, working.work, working.phase, working.proof⟩
  · refine ⟨?_, newest.snoc rfl⟩
    have moved : HandoffInv { s.invalidate with active := contents, watched := contents } :=
      inv.ended.settled rfl ⟨.inr rfl, rfl, rfl, rfl, rfl, rfl, rfl, rfl, rfl⟩
    exact moved.settledNote rfl _ rfl trivial nofun

section Platform

variable (parse : String → Option String)

theorem destroy_inv (inv : HandoffInv s) (newest : s.Newest) (contents : Nat) :
    HandoffInv (s.next parse (.destroy contents)) /\ Newest (s.next parse (.destroy contents)) := by
  unfold next
  dsimp only
  split
  · next watched =>
    have gone : s.active.filter (fun active => active ≠ contents) = none := by
      rcases inv.tabs with closed | same
      · rw [closed]
        rfl
      · rw [same, watched]
        simp
    exact ⟨inv.ended.settled rfl ⟨.inl gone, rfl, rfl, rfl, rfl, rfl, rfl, rfl, rfl⟩, newest⟩
  · next other =>
    have kept : s.active.filter (fun active => active ≠ contents) = s.active := by
      rcases inv.tabs with closed | same
      · rw [closed]
        rfl
      · rw [same]
        cases watched : s.watched with
        | none => rfl
        | some tab =>
          have apart : tab ≠ contents := fun is => other (is ▸ watched)
          simp [apart]
    exact ⟨inv.aside ⟨kept, rfl, rfl, rfl, rfl, rfl, rfl, rfl, rfl, rfl, rfl, rfl⟩ fun _ positive => positive, newest⟩

theorem answer_inv (inv : HandoffInv s) (newest : s.Newest) {callback : Nat} {answer : Answer}
    (permitted : s.permitted (.answer callback answer)) :
    HandoffInv (s.next parse (.answer callback answer)) /\ Newest (s.next parse (.answer callback answer)) := by
  obtain ⟨held, is, takes⟩ := permitted
  simp only [next, is]
  split
  · next live =>
    obtain ⟨awaited, weak, work⟩ := held
    cases awaited <;> cases answer <;> try cases takes
    case script value => exact onReady_inv inv newest is live rfl value
    case visualState success hasCompositor => exact onSubmitted_inv inv newest is live rfl success hasCompositor
    case presentation => exact onPresented_inv inv newest is live rfl
    case retry => exact retry_inv (inv.erase callback) newest
  · exact ⟨inv.erase callback, newest⟩

/-- While accepted work is under way, no command of the transaction comes without a positive request id. -/
def Meets (s : StartupHandoff) : HandoffOp → Prop
  | .probe widget command =>
    s.pending = true → s.takesUp widget command = true → 0 < (command.findInt "requestId").getD 0
  | _ => True

instance (s : StartupHandoff) : (op : HandoffOp) → Decidable (s.Meets op)
  | .probe widget command => inferInstanceAs (Decidable (s.pending = true → s.takesUp widget command = true →
      0 < (command.findInt "requestId").getD 0))
  | .startNavigation _ _ _ | .finishNavigation _ _ _ | .primaryPageChanged _ | .change _ _ _ _ | .add _ _
  | .activate _ | .destroy _ | .setWindow _ | .answer _ _ | .tick _ => isTrue trivial

theorem next_inv (inv : HandoffInv s) (newest : s.Newest) {op : HandoffOp} (permitted : s.permitted op)
    (meets : s.Meets op) : HandoffInv (s.next parse op) /\ Newest (s.next parse op) := by
  have beside {t : StartupHandoff} (aside : Aside s t) (same : t.requestId = s.requestId) :
      HandoffInv t /\ Newest t := by
    refine ⟨inv.aside aside fun _ positive => same ▸ positive, ?_⟩
    unfold Newest
    rw [aside.token, aside.phase, aside.log, same]
    exact newest
  cases op with
  | probe widget command => exact request_inv inv newest widget command meets
  | startNavigation contents sameDocument page =>
    obtain ⟨loaded, newest⟩ := beside (t := { s with contents := s.contents.insert contents page })
      ⟨rfl, rfl, rfl, rfl, rfl, rfl, rfl, rfl, rfl, rfl, rfl, rfl⟩ rfl
    exact mainFrameNavigated_inv loaded newest contents sameDocument false
  | finishNavigation contents sameDocument page =>
    obtain ⟨loaded, newest⟩ := beside (t := { s with contents := s.contents.insert contents page })
      ⟨rfl, rfl, rfl, rfl, rfl, rfl, rfl, rfl, rfl, rfl, rfl, rfl⟩ rfl
    exact mainFrameNavigated_inv loaded newest contents sameDocument true
  | primaryPageChanged contents =>
    unfold next
    dsimp only
    split
    · exact ⟨inv.ended, newest⟩
    · exact ⟨inv, newest⟩
  | activate contents => exact activate_inv inv newest contents
  | destroy contents => exact destroy_inv parse inv newest contents
  | answer callback answer => exact answer_inv parse inv newest permitted
  | change | add | setWindow | tick => exact beside ⟨rfl, rfl, rfl, rfl, rfl, rfl, rfl, rfl, rfl, rfl, rfl, rfl⟩ rfl

def carefulStep : StartupHandoff → HandoffOp → StartupHandoff → Prop :=
  guarded (fun s op => s.permitted op ∧ s.Meets op) (next parse)

/-- Where no malformed retry comes while work is under way, every answer to the shell carries the newest request
of its transaction, no work is answered twice, and the shell is told of a presentation only when it happened. -/
theorem acks_proven (window : Option Nat) (now : TimeTicks) (trace : List (StartupHandoff × HandoffOp))
    (s : StartupHandoff) (run : Trace (carefulStep parse) { window := window, now := now } trace s) :
    Throughout AckOk s.log := by
  have preserved (t : StartupHandoff) (op : HandoffOp) (u : StartupHandoff) (inv : HandoffInv t ∧ Newest t)
      (moved : carefulStep parse t op u) : HandoffInv u ∧ Newest u := by
    obtain ⟨⟨permitted, meets⟩, rfl⟩ := moved
    exact next_inv parse inv.1 inv.2 permitted meets
  exact (run.preserves preserved (initial_inv window now)).1.checks

end Platform

def probeCommand (phase : String) (more : DictValue) : DictValue :=
  [("startupToken", .string "T"), ("startupPhase", .string phase)] ++ more

-- The probe's page is up, another document takes its place, and it is presented.
theorem acks_proven_presented :
    ∃ s : StartupHandoff, .ack "T" .frame .presented 2 (some 2) (some 2) ∈ s.log ∧ Throughout AckOk s.log := by
  have follows : Follows (fun s op => s.permitted op ∧ s.Meets op) (next some) { window := some 5 }
      [.add 1 { document := 1, url := "probe" }, .activate (some 1),
        .probe 5 (probeCommand "ready" [("requestId", .int 1)]), .answer 0 (.script (.string "T")),
        .startNavigation 1 false { document := 1, url := "probe" },
        .finishNavigation 1 false { document := 2, url := "page" },
        .probe 5 (probeCommand "frame" [("requestId", .int 2)]), .answer 1 (.visualState true true),
        .answer 2 .presentation] := by decide
  obtain ⟨trace, run, -⟩ := follows.trace
  exact ⟨_, by decide, acks_proven some _ _ trace _ run⟩

-- A retry without its id comes while the page is still asked for the token.
theorem malformed_retry_rewrites :
    ¬ ∀ (parse : String → Option String) (window : Option Nat) (now : TimeTicks)
      (trace : List (StartupHandoff × HandoffOp)) (s : StartupHandoff),
      Trace (step parse) { window := window, now := now } trace s → Throughout AckOk s.log := by
  intro every
  have follows : Follows permitted (next some) { window := some 5 }
      [.add 1 { document := 1, url := "probe" }, .activate (some 1),
        .probe 5 (probeCommand "ready" [("requestId", .int 1)]), .probe 5 (probeCommand "ready" []),
        .answer 0 (.script (.string "T"))] := by decide
  obtain ⟨trace, run, -⟩ := follows.trace
  have told := every some _ _ trace _ run
    [.switched (some 1), .began "T", .requested "T" .ready 1, .accepted 1 "T" .ready 1 1 "probe" "",
      .carried 1 (some "T") "probe"] (.ack "T" .ready .ready 0 (some 1) (some 1)) [] (by decide)
  exact absurd told.1 (by decide)

end StartupHandoff

end ChromiumHmos.Shell
