import ChromiumHmos.Overlay.SessionProgress
import ChromiumHmos.Overlay.HostGenerations

set_option autoImplicit false

/-!
# Teardown of the overlay host

A host whose owner detached it is freed once the render service has answered for what its session
still holds: every tick ends, the next one closes the session, and the one that finds it closed
tears the host down.
-/

namespace ChromiumHmos.Overlay

open Std Transition

namespace WireHost

section

variable {W P : Type} (backend : Backend W P)

def turn : WireHostOp W → Prop
  | .connect .. | .detach | .world _ => False
  | _ => True

theorem quiet_next (s : WireHost W) (op : WireHostOp W) (quiet : ¬ turn op) :
    (s.next backend op).phase = s.phase /\ (s.next backend op).outgoing = s.outgoing := by
  cases op with
  | connect lost made =>
    simp only [next, connect]
    split <;> exact ⟨rfl, rfl⟩
  | detach =>
    simp only [next, detach]
    split <;> exact ⟨rfl, rfl⟩
  | world after => exact ⟨rfl, rfl⟩
  | _ => exact absurd trivial quiet

variable {s : WireHost W}

theorem reply_closing (closing : s.closing = true)
    (operation : WireOp) (channel sequence plane result : Nat) :
    (s.reply operation channel sequence plane result).closing = true := by
  unfold reply
  split
  · exact closing
  · split
    · rfl
    · exact closing

theorem runSession_closing (closing : s.closing = true) (step : Session.Step W) :
    (s.runSession step).closing = true := by
  have released : ∀ (objects : List Nat) (t : WireHost W), t.closing = true ->
      (objects.foldl release t).closing = true := by
    intro objects
    induction objects with
    | nil => exact fun t closing => closing
    | cons object rest ih =>
      intro t closing
      refine ih _ ?_
      unfold release
      split
      · exact closing
      · exact reply_closing closing _ _ _ _ _
  exact released _ _ closing

theorem runSession_detached (s : WireHost W) (step : Session.Step W) :
    (s.runSession step).detached = s.detached :=
  (runSession_replied s step).detached

theorem closeSession_detached (s : WireHost W) : (s.closeSession backend).detached = s.detached := by
  unfold closeSession
  split
  · exact runSession_detached _ _
  · rfl

theorem noteProcessed_detached (s : WireHost W) :
    (s.noteProcessed backend).detached = s.detached := by
  unfold noteProcessed
  split
  · exact (reply_replied s _ _ _ _ _).detached
  · rfl

theorem pollSession_detached (s : WireHost W) : (s.pollSession backend).detached = s.detached := by
  have all := (noteProcessed_detached backend _).trans
    ((runSession_detached (s.closeSession backend) ((s.closeSession backend).host.session.poll
      backend (s.closeSession backend).host.world)).trans (closeSession_detached backend s))
  unfold pollSession
  dsimp only
  split <;> exact all

theorem offer_detached (s : WireHost W) (a : SubmitAnswers) (arrival : Arrival)
    (primary : HostBuffer) (video : Option HostBuffer) :
    (s.offer backend a arrival primary video).1.detached = s.detached := by
  unfold offer
  split
  · rfl
  · exact runSession_detached _ _

theorem submitArrival_detached (s : WireHost W) (a : SubmitAnswers) (arrival : Arrival) :
    (s.submitArrival backend a arrival).detached = s.detached := by
  unfold submitArrival
  dsimp only
  split
  · exact (reply_replied s _ _ _ _ _).detached
  · split
    · exact (reply_replied s _ _ _ _ _).detached
    · have offered := offer_detached backend s a arrival
      split
      · exact (reply_replied _ _ _ _ _ _).detached.trans (offered _ _)
      · exact offered _ _
      · exact (reply_replied _ _ _ _ _ _).detached.trans (offered _ _)

theorem submit_detached (s : WireHost W) (a : SubmitAnswers) :
    (s.submit backend a).detached = s.detached := by
  unfold submit
  split
  · rfl
  · exact submitArrival_detached backend s a _

theorem takeMessage_detached (s : WireHost W) (socket : Nat) (m : WireMessage) :
    (s.takeMessage socket m).detached = s.detached := by
  unfold takeMessage
  split
  · rfl
  · dsimp only
    split <;> rfl

theorem receive_detached (s : WireHost W) (answer : ReceiveAnswer) :
    (s.receive answer).detached = s.detached := by
  unfold receive
  split
  · rfl
  · dsimp only
    split
    · rfl
    · rfl
    · exact takeMessage_detached _ _ _

theorem detached_next (s : WireHost W) (op : WireHostOp W) (detached : s.detached = true) :
    (s.next backend op).detached = true := by
  cases op with
  | connect lost made =>
    simp only [next, connect]
    split <;> exact detached
  | detach =>
    simp only [next, detach]
    split
    · rfl
    · exact detached
  | world after => exact detached
  | enter =>
    simp only [next, enter]
    split <;> exact detached
  | losePeer lost =>
    simp only [next, losePeer]
    split <;> exact detached
  | pollSession =>
    exact (pollSession_detached backend s).trans detached
  | retire => exact detached
  | recreate created =>
    simp only [next, recreate]
    rw [if_pos detached]
    exact detached
  | activate =>
    simp only [next, activate]
    split <;> exact detached
  | send answer =>
    simp only [next, send]
    split
    · exact detached
    · exact detached
    · split <;> exact detached
  | receive answer =>
    exact (receive_detached s answer).trans detached
  | submit answers =>
    exact (submit_detached backend s answers).trans detached
  | free => exact detached

def leavingPhase : TickPhase → Prop
  | .idle | .peer | .session | .retire | .recreate | .uvClosing | .freed => True
  | .activate | .sending | .receiving | .submitting => False

structure Leaving (s : WireHost W) : Prop where
  detached : s.detached = true
  closing : s.closing = true
  phase : leavingPhase s.phase

-- The steps of the session in a step of such a host: a tick closes it and polls it.
def sessionOps (s : WireHost W) : WireHostOp W → HostOp W × HostOp W
  | .pollSession => (.close, .poll)
  | .world after => (.world after, .world after)
  | _ => (.world s.host.world, .world s.host.world)

theorem pollSession_closing (s : WireHost W) (closing : s.closing = true) :
    (s.pollSession backend).host = (s.host.next backend .close).next backend .poll /\
      (s.pollSession backend).closing = true /\
      (s.pollSession backend).phase =
        if ((s.host.next backend .close).next backend .poll).session.state = .closed then .retire
        else .idle := by
  have closed : (s.closeSession backend).host = s.host.next backend .close /\
      (s.closeSession backend).closing = true := by
    unfold closeSession
    rw [if_pos closing]
    let dropped : WireHost W := { s.dropPending with current := fun _ => none }
    exact ⟨(runSession_replied dropped _).host, runSession_closing (s := dropped) closing _⟩
  have noted : ∀ t : WireHost W, t.closing = true -> (t.noteProcessed backend).host = t.host /\
      (t.noteProcessed backend).closing = true := by
    intro t closing
    unfold noteProcessed
    split
    · exact ⟨(reply_replied t _ _ _ _ _).host, reply_closing closing _ _ _ _ _⟩
    · exact ⟨rfl, closing⟩
  let polled := (s.closeSession backend).runSession
    ((s.closeSession backend).host.session.poll backend (s.closeSession backend).host.world)
  have host : polled.host = (s.host.next backend .close).next backend .poll := by
    rw [(runSession_replied _ _).host, closed.1]
    rfl
  obtain ⟨kept, still⟩ := noted polled (runSession_closing closed.2 _)
  have all : (s.pollSession backend) = { polled.noteProcessed backend with
      phase := if (polled.noteProcessed backend).host.session.state = .closed then .retire
        else .idle } := by
    unfold pollSession
    exact if_pos still
  rw [all]
  exact ⟨kept.trans host, still, by rw [<- host, <- kept]⟩

theorem next_leaving {op : WireHostOp W} (leaving : Leaving s) (allowed : s.permitted op) :
    Leaving (s.next backend op) /\ (s.next backend op).host =
      (s.host.next backend (sessionOps s op).1).next backend (sessionOps s op).2 := by
  have detached := detached_next backend s op leaving.detached
  have phase := leaving.phase
  cases op with
  | connect lost made =>
    simp only [next, connect, leaving.detached, true_or, or_true, if_true]
    exact ⟨leaving, rfl⟩
  | detach =>
    simp only [next, detach]
    split
    · exact ⟨⟨rfl, leaving.closing, phase⟩, rfl⟩
    · exact ⟨leaving, rfl⟩
  | world after => exact ⟨⟨leaving.detached, leaving.closing, phase⟩, rfl⟩
  | enter =>
    simp only [next, enter]
    rw [if_pos leaving.detached]
    exact ⟨⟨leaving.detached, rfl, trivial⟩, rfl⟩
  | losePeer lost =>
    simp only [next, losePeer]
    split
    · exact ⟨⟨leaving.detached, rfl, trivial⟩, rfl⟩
    · exact ⟨⟨leaving.detached, leaving.closing, trivial⟩, rfl⟩
  | pollSession =>
    obtain ⟨host, closing, left⟩ := pollSession_closing backend s leaving.closing
    refine ⟨⟨detached, closing, ?_⟩, host⟩
    simp only [next, left]
    split <;> trivial
  | retire => exact ⟨⟨leaving.detached, leaving.closing, trivial⟩, rfl⟩
  | recreate created =>
    simp only [next, recreate]
    rw [if_pos leaving.detached]
    exact ⟨⟨leaving.detached, leaving.closing, trivial⟩, rfl⟩
  | free => exact ⟨⟨leaving.detached, leaving.closing, trivial⟩, rfl⟩
  | activate | send _ | receive _ | submit _ =>
    have at_ : s.phase = _ := allowed
    rw [at_] at phase
    exact phase.elim

structure Life where
  state : ℕ → WireHost W
  op : ℕ → WireHostOp W
  step : ∀ n, WireHost.step backend (state n) (op n) (state (n + 1))

namespace Life

variable {backend}

/-- The UI thread takes its turns, and a closing session is given what it waits for. -/
structure Served (life : Life backend) : Prop where
  turns : ∀ n, (life.state n).phase ≠ .freed → ∃ m, n ≤ m ∧ turn (life.op m)
  released : ∀ (n id : Nat) (held : Held), (life.state n).closing →
    (life.state n).host.session.leases[id]? = some held → ¬ (held.released ∧ held.fenceReady) →
      ∃ m, n ≤ m ∧ life.op m = .pollSession ∧
        ∃ event ∈ (backend.pollReleases (life.state m).host.world).2, event.frees held
  ready : ∀ (n id : Nat) (held : Held), (life.state n).closing →
    (life.state n).host.session.leases[id]? = some held →
      ∃ m, n ≤ m ∧ life.op m = .pollSession ∧
        backend.producerReady (pollWorld backend (life.state m).host) held.lease
  processed : ∀ n, (life.state n).closing →
    (life.state n).host.session.state = .waitingForCommands →
      ∃ m, n ≤ m ∧ life.op m = .pollSession ∧ ((life.state m).host.session.lastSubmission = 0 ∨
        backend.commandsProcessed (pollWorld backend (life.state m).host)
          (life.state m).host.session.lastSubmission)
  drained : ∀ n, (life.state n).closing → (life.state n).host.session.state = .draining →
    ∃ m, n ≤ m ∧ life.op m = .pollSession ∧
      backend.drainCommandsProcessed (pollWorld backend (life.state m).host)

variable (life : Life backend)

theorem next_turn (served : life.Served) {n : ℕ} (running : (life.state n).phase ≠ .freed) :
    ∃ m, n <= m /\ turn (life.op m) /\ (life.state m).phase = (life.state n).phase /\
      (life.state m).outgoing = (life.state n).outgoing := by
  classical
  have some_ := served.turns n running
  obtain ⟨later, turns⟩ := Nat.find_spec some_
  refine ⟨Nat.find some_, later, turns, ?_⟩
  have quiet : ∀ m, n <= m -> m <= Nat.find some_ ->
      (life.state m).phase = (life.state n).phase /\
        (life.state m).outgoing = (life.state n).outgoing := by
    intro m after
    induction m, after using Nat.le_induction with
    | base => exact fun _ => ⟨rfl, rfl⟩
    | succ m after ih =>
      intro before
      have silent : ¬ turn (life.op m) := fun turns =>
        Nat.find_min some_ (by omega : m < Nat.find some_) ⟨after, turns⟩
      obtain ⟨phase, outgoing⟩ := quiet_next backend (life.state m) (life.op m) silent
      obtain ⟨phase', outgoing'⟩ := ih (by omega)
      rw [(life.step m).2]
      exact ⟨phase.trans phase', outgoing.trans outgoing'⟩
  exact quiet _ later le_rfl

end Life

def stage : TickPhase → ℕ
  | .peer => 6
  | .session => 5
  | .activate => 4
  | .sending => 3
  | .receiving => 2
  | .submitting => 1
  | .idle | .retire | .recreate | .uvClosing | .freed => 0

def tickRank (s : WireHost W) : ℕ ×ₗ ℕ := toLex (stage s.phase, s.outgoing.length)

theorem tickRank_lower {t : WireHost W} (old new : TickPhase) (before : s.phase = old)
    (after : t.phase = new) (lower : stage new < stage old) : tickRank t < tickRank s :=
  Prod.Lex.toLex_lt_toLex.mpr (.inl (by rw [before, after]; exact lower))

theorem turn_falls {op : WireHostOp W} (allowed : s.permitted op)
    (turns : turn op) (within : 0 < stage s.phase) : tickRank (s.next backend op) < tickRank s := by
  cases op with
  | connect | detach | world => exact turns.elim
  | enter | retire | recreate | free =>
    have at_ : s.phase = _ := allowed
    rw [at_] at within
    contradiction
  | losePeer lost =>
    simp only [next, losePeer]
    split
    · exact tickRank_lower .peer .session allowed rfl (by decide)
    · exact tickRank_lower .peer .session allowed rfl (by decide)
  | pollSession =>
    simp only [next, pollSession]
    split
    · split
      · exact tickRank_lower .session .retire allowed rfl (by decide)
      · exact tickRank_lower .session .idle allowed rfl (by decide)
    · exact tickRank_lower .session .activate allowed rfl (by decide)
  | activate =>
    have left : s.activate.phase = if s.channel.activate.active = none then .idle else .sending := by
      unfold activate
      rfl
    split at left
    · exact tickRank_lower .activate .idle allowed left (by decide)
    · exact tickRank_lower .activate .sending allowed left (by decide)
  | send answer =>
    simp only [next, send]
    split
    · split
      · exact tickRank_lower .sending .idle allowed rfl (by decide)
      · split
        · exact tickRank_lower .sending .submitting allowed rfl (by decide)
        · exact tickRank_lower .sending .receiving allowed rfl (by decide)
    · exact tickRank_lower .sending .idle allowed rfl (by decide)
    next reply rest socket outgoing active =>
      split
      · have shorter : rest.length < s.outgoing.length := by simp [outgoing]
        exact Prod.Lex.toLex_lt_toLex.mpr (.inr ⟨rfl, shorter⟩)
      · exact tickRank_lower .sending .idle allowed rfl (by decide)
      · exact tickRank_lower .sending .idle allowed rfl (by decide)
  | receive answer =>
    rcases receive_phase s answer with left | left
    · exact tickRank_lower .receiving .idle allowed left (by decide)
    · exact tickRank_lower .receiving .submitting allowed left (by decide)
  | submit answers => exact tickRank_lower .submitting .idle allowed (submit_phase backend s answers) (by decide)

variable {life : Life backend}

theorem Life.tick_ends (served : life.Served) (n : ℕ) :
    ∃ m, n <= m /\ stage (life.state m).phase = 0 := by
  refine eventually_of_rank life.state (fun s => stage s.phase = 0) (fun s r => tickRank s = r)
    ?_ n _ rfl
  rintro n _ rfl
  by_cases ended : stage (life.state n).phase = 0
  · exact ⟨n, le_rfl, .inl ended⟩
  · have running : (life.state n).phase ≠ .freed := fun freed => ended (by rw [freed]; rfl)
    obtain ⟨m, later, turns, phase, outgoing⟩ := life.next_turn served running
    obtain ⟨allowed, moved⟩ := life.step m
    refine ⟨m + 1, by omega, .inr ⟨_, ?_, rfl⟩⟩
    have same : tickRank (life.state m) = tickRank (life.state n) := by
      simp only [tickRank, phase, outgoing]
    rw [<- same, moved]
    exact turn_falls backend allowed turns (by rw [phase]; omega)

variable {backend}

theorem Life.host_inv {world : W} (initial : life.state 0 = start world)
    (n : ℕ) : HostInv (life.state n) := by
  induction n with
  | zero =>
    rw [initial]
    exact start_host world
  | succ n ih => exact next_host backend ih (life.step n)

variable {n : ℕ}

theorem Life.detached_later {m : ℕ} (later : n <= m)
    (detached : (life.state n).detached = true) : (life.state m).detached = true := by
  induction m, later using Nat.le_induction with
  | base => exact detached
  | succ m _ ih =>
    rw [(life.step m).2]
    exact detached_next backend _ _ ih

theorem Life.leaving_later {m : ℕ} (later : n <= m)
    (leaving : Leaving (life.state n)) : Leaving (life.state m) := by
  induction m, later using Nat.le_induction with
  | base => exact leaving
  | succ m _ ih =>
    rw [(life.step m).2]
    exact (next_leaving backend ih (life.step m).1).1

theorem Life.leaves {world : W} (initial : life.state 0 = start world)
    (served : life.Served) (detached : (life.state n).detached = true) :
    ∃ m, n <= m /\ Leaving (life.state m) := by
  obtain ⟨m, later, ended⟩ := life.tick_ends backend served n
  have still := life.detached_later later detached
  have phase := (life.host_inv initial m).phase
  cases at_ : (life.state m).phase with
  | idle =>
    obtain ⟨k, after, turns, same, -⟩ := life.next_turn served (n := m) (by rw [at_]; decide)
    refine ⟨k + 1, by omega, ?_⟩
    obtain ⟨allowed, moved⟩ := life.step k
    rw [at_] at same
    have entered : life.op k = .enter := by
      cases op : life.op k with
      | enter => rfl
      | connect | detach | world =>
        rw [op] at turns
        exact turns.elim
      | _ =>
        rw [op] at allowed
        exact absurd (same.symm.trans allowed) (by decide)
    rw [moved, entered]
    simp only [next, enter]
    rw [if_pos (life.detached_later after still)]
    exact ⟨life.detached_later after still, rfl, trivial⟩
  | retire => exact ⟨m, later, still, (phase.retiring at_).1, by rw [at_]; trivial⟩
  | recreate => exact ⟨m, later, still, (phase.torn (.inl at_)).1, by rw [at_]; trivial⟩
  | uvClosing => exact ⟨m, later, still, (phase.torn (.inr (.inl at_))).1, by rw [at_]; trivial⟩
  | freed => exact ⟨m, later, still, (phase.torn (.inr (.inr at_))).1, by rw [at_]; trivial⟩
  | peer | session | activate | sending | receiving | submitting =>
    rw [at_] at ended
    contradiction

theorem sessionOps_permitted (s : WireHost W) (op : WireHostOp W) (h : Host W) :
    h.permitted (sessionOps s op).1 /\ h.permitted (sessionOps s op).2 := by
  cases op with
  | _ => exact ⟨trivial, trivial⟩

def Life.sessionRun (life : Life backend) (first : ℕ)
    (leaving : ∀ m, first ≤ m → Leaving (life.state m)) : Run backend where
  state i :=
    let h := (life.state (first + i / 2)).host
    if i % 2 = 0 then h
    else h.next backend (sessionOps (life.state (first + i / 2)) (life.op (first + i / 2))).1
  op i :=
    let ops := sessionOps (life.state (first + i / 2)) (life.op (first + i / 2))
    if i % 2 = 0 then ops.1 else ops.2
  step := by
    intro i
    rcases Nat.even_or_odd' i with ⟨k, rfl | rfl⟩
    · have half : (2 * k + 1) / 2 = k := by omega
      simp only [Nat.mul_div_cancel_left k (by decide : 0 < 2), half, Nat.mul_mod_right, if_true,
        Nat.mul_add_mod, Nat.one_mod, one_ne_zero, if_false]
      exact ⟨(sessionOps_permitted _ _ _).1, rfl⟩
    · have half : (2 * k + 1) / 2 = k := by omega
      have next : (2 * k + 1 + 1) / 2 = k + 1 := by omega
      have even : (2 * k + 1 + 1) % 2 = 0 := by omega
      simp only [half, next, even, Nat.mul_add_mod, Nat.one_mod, one_ne_zero, if_true, if_false]
      refine ⟨(sessionOps_permitted _ _ _).2, ?_⟩
      obtain ⟨allowed, moved⟩ := life.step (first + k)
      rw [← add_assoc, moved]
      exact (next_leaving backend (leaving (first + k) (by omega)) allowed).2

section

variable {life : Life backend} {first : ℕ} (leaving : ∀ m, first ≤ m → Leaving (life.state m))

theorem Life.sessionRun_even (k : ℕ) :
    (life.sessionRun first leaving).state (2 * k) = (life.state (first + k)).host /\
      (life.sessionRun first leaving).op (2 * k) =
        (sessionOps (life.state (first + k)) (life.op (first + k))).1 := by
  simp only [Life.sessionRun, Nat.mul_div_cancel_left k (by decide : 0 < 2), Nat.mul_mod_right,
    if_true, and_self]

theorem Life.sessionRun_owed (served : life.Served)
    (initial : LeaseInv (life.state first).host.session [] (life.state first).host.log)
    (closing : (life.state first).host.session.state ≠ .running) :
    (life.sessionRun first leaving).Owed := by
  have initial' : LeaseInv ((life.sessionRun first leaving).state 0).session []
      ((life.sessionRun first leaving).state 0).log := initial
  have stopped (i : ℕ) : ((life.sessionRun first leaving).state i).session.state ≠ .running :=
    (life.sessionRun first leaving).closing (Nat.zero_le i) closing
  have even (i : ℕ) : ∃ k, i <= 2 * k := ⟨i, by omega⟩
  have at_ (m : ℕ) (later : first <= m) (op : life.op m = .pollSession) :
      ∃ k, m = first + k /\ ((life.sessionRun first leaving).op (2 * k)).polls /\
        (life.sessionRun first leaving).state (2 * k) = (life.state m).host := by
    obtain ⟨k, rfl⟩ := Nat.exists_eq_add_of_le later
    obtain ⟨state, same⟩ := life.sessionRun_even leaving k
    refine ⟨k, rfl, ?_, state⟩
    rw [same, op]
    trivial
  refine ⟨fun i id held found flags => ?_, fun i id held found => ?_, fun i waiting => ?_,
    fun i draining => ?_⟩
  · obtain ⟨k, later⟩ := even i
    rcases ((life.sessionRun first leaving).stays initial' later (stopped i) id).2 held found with
      gone | ⟨noted, found', newer⟩
    · exact ⟨2 * k, later, .inl gone⟩
    · by_cases flags' : noted.released /\ noted.fenceReady
      · exact ⟨2 * k, later, .inr (.inl ⟨noted, found', flags'⟩)⟩
      · rw [(life.sessionRun_even leaving k).1] at found'
        obtain ⟨m, after, op, event, mem, frees⟩ := served.released (first + k) id noted
          (leaving _ (by omega)).closing found' flags'
        obtain ⟨j, rfl, polls, state⟩ := at_ m (by omega) op
        refine ⟨2 * j, by omega, .inr (.inr ⟨polls, event, by rw [state]; exact mem, ?_⟩)⟩
        rw [Release.frees, newer.use.1, newer.use.2.1, newer.use.2.2] at frees
        exact frees
  · obtain ⟨k, later⟩ := even i
    rcases ((life.sessionRun first leaving).stays initial' later (stopped i) id).2 held found with
      gone | ⟨noted, found', newer⟩
    · exact ⟨2 * k, later, .inl gone⟩
    · rw [(life.sessionRun_even leaving k).1] at found'
      obtain ⟨m, after, op, ready⟩ := served.ready (first + k) id noted
        (leaving _ (by omega)).closing found'
      obtain ⟨j, rfl, polls, state⟩ := at_ m (by omega) op
      refine ⟨2 * j, by omega, .inr ⟨polls, ?_⟩⟩
      rw [state, <- newer.use.1]
      exact ready
  · obtain ⟨k, later⟩ := even i
    have forward := (life.sessionRun first leaving).forward later
    rw [waiting] at forward
    by_cases begun : 1 < ((life.sessionRun first leaving).state (2 * k)).session.state.rank
    · exact ⟨2 * k, later, .inl begun⟩
    · have still : ((life.sessionRun first leaving).state (2 * k)).session.state =
          .waitingForCommands := by
        cases state : ((life.sessionRun first leaving).state (2 * k)).session.state with
        | waitingForCommands => rfl
        | running => exact absurd state (stopped (2 * k))
        | draining | closed =>
          rw [state] at begun
          exact absurd (by decide) begun
      rw [(life.sessionRun_even leaving k).1] at still
      obtain ⟨m, after, op, processed⟩ := served.processed (first + k)
        (leaving _ (by omega)).closing still
      obtain ⟨j, rfl, polls, state⟩ := at_ m (by omega) op
      refine ⟨2 * j, by omega, .inr ⟨polls, ?_⟩⟩
      rw [state]
      exact processed
  · obtain ⟨k, later⟩ := even i
    have forward := (life.sessionRun first leaving).forward later
    rw [draining] at forward
    cases state : ((life.sessionRun first leaving).state (2 * k)).session.state with
    | closed => exact ⟨2 * k, later, .inl state⟩
    | draining =>
      rw [(life.sessionRun_even leaving k).1] at state
      obtain ⟨m, after, op, drained⟩ := served.drained (first + k)
        (leaving _ (by omega)).closing state
      obtain ⟨j, rfl, polls, same⟩ := at_ m (by omega) op
      refine ⟨2 * j, by omega, .inr ⟨polls, ?_⟩⟩
      rw [same]
      exact drained
    | running | waitingForCommands =>
      rw [state] at forward
      exact absurd forward (by decide)

end

-- Where a turn of the teardown leads, but for the poll.
def afterTurn : TickPhase → TickPhase
  | .idle => .peer
  | .peer => .session
  | .retire => .recreate
  | .recreate => .uvClosing
  | .uvClosing => .freed
  | phase => phase

-- How many turns are left to the next poll, or to the end.
def turnsLeft : TickPhase → ℕ
  | .retire => 3
  | .idle | .recreate => 2
  | .peer | .uvClosing => 1
  | _ => 0

theorem turn_leaving {op : WireHostOp W} (leaving : Leaving s)
    (allowed : s.permitted op) (turns : turn op) :
    op = .pollSession \/ s.phase ≠ .session /\ (s.next backend op).phase = afterTurn s.phase := by
  have phase := leaving.phase
  cases op with
  | connect | detach | world => exact turns.elim
  | pollSession => exact .inl rfl
  | enter =>
    have at_ : s.phase = .idle := allowed
    rw [at_]
    refine .inr ⟨by decide, ?_⟩
    simp only [next, enter]
    rw [if_pos leaving.detached]
    rfl
  | losePeer lost =>
    have at_ : s.phase = .peer := allowed
    rw [at_]
    refine .inr ⟨by decide, ?_⟩
    simp only [next, losePeer]
    split <;> rfl
  | retire =>
    have at_ : s.phase = .retire := allowed
    exact .inr ⟨by rw [at_]; decide, by rw [at_]; rfl⟩
  | recreate created =>
    have at_ : s.phase = .recreate := allowed
    rw [at_]
    refine .inr ⟨by decide, ?_⟩
    simp only [next, recreate]
    rw [if_pos leaving.detached]
    rfl
  | free =>
    have at_ : s.phase = .uvClosing := allowed
    exact .inr ⟨by rw [at_]; decide, by rw [at_]; rfl⟩
  | activate | send _ | receive _ | submit _ =>
    have at_ : s.phase = _ := allowed
    rw [at_] at phase
    exact phase.elim

theorem Life.turn_comes (served : life.Served)
    (leaving : Leaving (life.state n)) (running : (life.state n).phase ≠ .freed) :
    ∃ m, n <= m /\ (life.state m).phase = (life.state n).phase /\ (life.op m = .pollSession \/
      (life.state n).phase ≠ .session /\
        (life.state (m + 1)).phase = afterTurn (life.state n).phase) := by
  obtain ⟨m, later, turns, phase, -⟩ := life.next_turn served running
  refine ⟨m, later, phase, ?_⟩
  obtain ⟨allowed, moved⟩ := life.step m
  rw [moved, <- phase]
  exact turn_leaving (life.leaving_later later leaving) allowed turns

-- From here there is no way back to a poll.
def torn : TickPhase → Prop
  | .retire | .recreate | .uvClosing | .freed => True
  | _ => False

theorem afterTurn_lower {phase : TickPhase} (leaving : leavingPhase phase)
    (polled : phase ≠ .session) (running : phase ≠ .freed) :
    turnsLeft (afterTurn phase) < turnsLeft phase /\ (torn phase -> torn (afterTurn phase)) := by
  cases phase with
  | idle | peer | retire | recreate | uvClosing => exact ⟨by decide, id⟩
  | session => exact absurd rfl polled
  | freed => exact absurd rfl running
  | activate | sending | receiving | submitting => exact leaving.elim

theorem Life.polls_again (served : life.Served) (leaving : Leaving (life.state n)) :
    ∃ m, n <= m /\ (life.op m = .pollSession /\ ¬ torn (life.state n).phase \/
      (life.state m).phase = .freed) := by
  induction left : turnsLeft (life.state n).phase using Nat.strong_induction_on generalizing n with
  | _ left ih =>
    by_cases freed : (life.state n).phase = .freed
    · exact ⟨n, le_rfl, .inr freed⟩
    obtain ⟨m, later, same, polls | ⟨polled, moved⟩⟩ := life.turn_comes served leaving freed
    · have at_ : (life.state m).phase = .session := by
        have allowed := (life.step m).1
        rw [polls] at allowed
        exact allowed
      refine ⟨m, later, .inl ⟨polls, ?_⟩⟩
      rw [<- same, at_]
      exact id
    · obtain ⟨lower, kept⟩ := afterTurn_lower leaving.phase polled freed
      have after := life.leaving_later (by omega : n <= m + 1) leaving
      rw [<- moved] at lower kept
      obtain ⟨k, further, ⟨polls, untorn⟩ | gone⟩ := ih _ (left ▸ lower) after rfl
      · exact ⟨k, by omega, .inl ⟨polls, fun torn => untorn (kept torn)⟩⟩
      · exact ⟨k, by omega, .inr gone⟩

theorem Life.polled {m : ℕ} (leaving : Leaving (life.state m)) (polls : life.op m = .pollSession) :
    (life.state (m + 1)).host =
        ((life.state m).host.next backend .close).next backend .poll /\
      ((life.state (m + 1)).host.session.state = .closed -> torn (life.state (m + 1)).phase) := by
  obtain ⟨host, -, left⟩ := pollSession_closing backend (life.state m) leaving.closing
  have moved : life.state (m + 1) = (life.state m).pollSession backend := by
    rw [(life.step m).2, polls]
    rfl
  rw [moved]
  refine ⟨host, fun closed => ?_⟩
  rw [host] at closed
  rw [left, if_pos closed]
  trivial

theorem Life.freed {world : W} (initial : life.state 0 = start world)
    (served : life.Served) (detached : (life.state n).detached = true) :
    ∃ m, n <= m /\ (life.state m).phase = .freed := by
  obtain ⟨l, later, leaves⟩ := life.leaves initial served detached
  obtain ⟨m, after, ⟨polls, -⟩ | gone⟩ := life.polls_again served leaves
  · have leaving : ∀ k, m + 1 <= k -> Leaving (life.state k) := fun k further =>
      life.leaving_later (by omega) leaves
    obtain ⟨host, -⟩ := life.polled (life.leaving_later after leaves) polls
    have stopped : (life.state (m + 1)).host.session.state ≠ .running := by
      rw [host]
      have forward := poll_forward backend ((life.state m).host.next backend .close).session
        ((life.state m).host.next backend .close).world
      have closing := State.rank_pos.mpr (close_stops backend (life.state m).host.session
        (life.state m).host.world)
      exact State.rank_pos.mp (closing.trans forward)
    have inv := (life.host_inv initial (m + 1)).session.leases
    obtain ⟨i, -, closed⟩ := (life.sessionRun (m + 1) leaving).closes inv
      (life.sessionRun_owed leaving served inv stopped) (n := 0) stopped
    have finished : ∀ k, i <= 2 * k -> (life.state (m + 1 + k)).host.session.state = .closed := by
      intro k further
      have forward := (life.sessionRun (m + 1) leaving).forward further
      rw [closed, (life.sessionRun_even leaving k).1] at forward
      cases state : (life.state (m + 1 + k)).host.session.state with
      | closed => rfl
      | running | waitingForCommands | draining =>
        rw [state] at forward
        exact absurd forward (by decide)
    obtain ⟨k, further, ⟨polls, -⟩ | gone⟩ :=
      life.polls_again served (leaving (m + 1 + i) (by omega))
    · obtain ⟨-, down⟩ := life.polled (leaving k (by omega)) polls
      have shut : torn (life.state (k + 1)).phase := by
        obtain ⟨j, rfl⟩ := Nat.exists_eq_add_of_le (by omega : m + 1 <= k)
        exact down (finished (j + 1) (by omega))
      obtain ⟨last, beyond, ⟨-, untorn⟩ | gone⟩ :=
        life.polls_again served (leaving (k + 1) (by omega))
      · exact absurd shut untorn
      · exact ⟨last, by omega, gone⟩
    · exact ⟨k, by omega, gone⟩
  · exact ⟨m, by omega, gone⟩

theorem Life.upTo (life : Life backend) (n : ℕ) :
    ∃ trace, Trace (WireHost.step backend) (life.state 0) trace (life.state n) := by
  induction n with
  | zero => exact ⟨[], .nil _⟩
  | succ n ih =>
    obtain ⟨trace, run⟩ := ih
    exact ⟨_, run.snoc (life.step n)⟩

end

/-- Safe wherever a run leads; and freed, once it is detached and its session is served. -/
theorem generations_safe {W P : Type} (backend : Backend W P) (world : W) :
    (∀ (trace : List (WireHost W × WireHostOp W)) (s : WireHost W),
      Trace (WireHost.step backend) (start world) trace s → GenerationsSafe s) ∧
    ∀ life : Life backend, life.state 0 = start world → life.Served →
      ∀ n, (life.state n).detached = true → ∃ m, n ≤ m ∧ (life.state m).phase = .freed := by
  refine ⟨fun trace s run => (run_host backend run).safe, fun life initial served n detached => ?_⟩
  exact life.freed initial served detached

-- A page of 64 by 64 is shown, then the host is detached.
def pageRect : Rect := ⟨.finite 0, .finite 0, .finite 64, .finite 64⟩

def pageFrame : WireMessage where
  packet :=
    { sequence := 1, fdCount := 2, tailBytes := 8
      primary := { content := 5, source := pageRect, destination := pageRect }
      header := #v[0, 1, 1, 2, 64, 256, 64, 16384, 12, 0, 0, 0, 0, 1], tail := List.replicate 8 0 }
  fds := [10, 11]

def pageAnswers : SubmitAnswers where
  readParcel _ := some { native := 1, width := 64, height := 64, format := 12 }
  videos _ := none
  convert _ _ _ := some { allocationId := 10, format := .rgba8, width := 64, height := 64 }

instance (s : WireHost Script) (op : WireHostOp Script) : Decidable (s.permitted op) :=
  match op with
  | .connect _ _ | .detach | .world _ => .isTrue trivial
  | .enter => inferInstanceAs (Decidable (s.phase = .idle))
  | .losePeer _ => inferInstanceAs (Decidable (s.phase = .peer))
  | .pollSession => inferInstanceAs (Decidable (s.phase = .session))
  | .retire => inferInstanceAs (Decidable (s.phase = .retire))
  | .recreate _ => inferInstanceAs (Decidable (s.phase = .recreate))
  | .activate => inferInstanceAs (Decidable (s.phase = .activate))
  | .send _ => inferInstanceAs (Decidable (s.phase = .sending))
  | .receive _ => inferInstanceAs (Decidable (s.phase = .receiving))
  | .submit _ => inferInstanceAs (Decidable (s.phase = .submitting))
  | .free => inferInstanceAs (Decidable (s.phase = .uvClosing))

def tickOps : List (WireHostOp Script) := [.enter, .losePeer fun _ => false, .pollSession]

def lifeOps : List (WireHostOp Script) :=
  [.connect (fun _ => false) true] ++ tickOps ++
    [.activate, .send .sent, .receive (.datagram (.of pageFrame)), .submit pageAnswers] ++
    tickOps ++ [.activate, .send .sent, .send .sent,
      .world { events := [⟨1, 10, 0, true, true⟩], processed := 1 }, .detach] ++
    tickOps ++ [.retire, .recreate none, .free]

def lifeState : ℕ → WireHost Script
  | 0 => start {}
  | n + 1 => (lifeState n).next scripted (lifeOps.getD n .detach)

theorem lifeState_freed (k : ℕ) : lifeState (22 + k) = lifeState 22 := by
  have gone : (lifeState 22).registered = false := by decide +kernel
  induction k with
  | zero => rfl
  | succ k ih =>
    have last : lifeOps.getD (22 + k) .detach = .detach := by
      refine List.getD_eq_default _ _ ?_
      have length : lifeOps.length = 22 := rfl
      omega
    show (lifeState (22 + k)).next scripted (lifeOps.getD (22 + k) .detach) = _
    rw [last, ih]
    simp only [next, detach, gone]
    rfl

def pageLife : Life scripted where
  state := lifeState
  op n := lifeOps.getD n .detach
  step := by
    intro n
    refine ⟨?_, rfl⟩
    by_cases early : n < 22
    · have follows : ∀ m < 22, (lifeState m).permitted (lifeOps.getD m .detach) := by
        decide +kernel
      exact follows n early
    · rw [List.getD_eq_default _ _ (Nat.le_of_not_lt early)]
      trivial

theorem pageLife_served : pageLife.Served := by
  have late (n : ℕ) (after : 22 <= n) : lifeState n = lifeState 22 := by
    obtain ⟨k, rfl⟩ := Nat.exists_eq_add_of_le after
    exact lifeState_freed k
  have settled (n : ℕ) : (lifeState n).host.session.state = .running \/
      (lifeState n).host.session.state = .closed := by
    have early : ∀ m ≤ 22, (lifeState m).host.session.state = .running \/
        (lifeState m).host.session.state = .closed := by
      decide +kernel
    rcases Nat.le_total n 22 with before | after
    · exact early n before
    · rw [late n after]
      exact early 22 le_rfl
  have held (n id : ℕ) (held : Held) (found : (lifeState n).host.session.leases[id]? = some held) :
      n <= 18 /\ (⟨1, 10, 0, true, true⟩ : Release).frees held := by
    have early : ∀ m ≤ 22, (lifeState m).host.session.leases.toList.all fun entry =>
        m <= 18 /\ entry.2.submission = 1 /\ entry.2.lease.allocationId = 10 /\ entry.2.plane = 0 := by
      decide +kernel
    have mem := Std.ExtTreeMap.mem_toList_iff_getElem?_eq_some.mpr found
    rcases Nat.le_total n 22 with before | after
    · have facts := List.all_eq_true.mp (early n before) _ mem
      simp only [decide_eq_true_eq] at facts
      exact ⟨facts.1, ⟨facts.2.1.symm, facts.2.2.1.symm, facts.2.2.2.symm⟩, rfl, rfl⟩
    · rw [late n after] at mem
      have facts := List.all_eq_true.mp (early 22 le_rfl) _ mem
      simp at facts
  refine ⟨fun n running => ?_, fun n id use _ found _ => ?_, fun n id use _ found => ?_, ?_, ?_⟩
  · have early : n <= 21 := by
      by_contra after
      refine running ?_
      show (lifeState n).phase = .freed
      rw [late n (by omega)]
      decide +kernel
    exact ⟨21, early, trivial⟩
  · obtain ⟨early, frees⟩ := held n id use found
    exact ⟨18, early, rfl, ⟨1, 10, 0, true, true⟩, by decide +kernel, frees⟩
  · exact ⟨18, (held n id use found).1, rfl, rfl⟩
  · intro n _ waiting
    have state : (lifeState n).host.session.state = .waitingForCommands := waiting
    rcases settled n with other | other <;> cases other.symm.trans state
  · intro n _ draining
    have state : (lifeState n).host.session.state = .draining := draining
    rcases settled n with other | other <;> cases other.symm.trans state

theorem generations_safe_page :
    (∃ s : WireHost Script, s.phase = .freed ∧ s.log.filter (fun event => event matches .wrote _ _) ≠ [] ∧
      GenerationsSafe s) ∧
    ∃ m, 16 ≤ m ∧ (pageLife.state m).phase = .freed := by
  obtain ⟨safe, freed⟩ := generations_safe scripted {}
  obtain ⟨trace, run⟩ := pageLife.upTo 22
  refine ⟨⟨lifeState 22, by decide +kernel, by decide +kernel, safe trace _ run⟩, ?_⟩
  exact freed pageLife rfl pageLife_served 16 (by decide +kernel)

end WireHost

end ChromiumHmos.Overlay
