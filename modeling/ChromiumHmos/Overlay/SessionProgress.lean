import ChromiumHmos.Overlay.SessionClose

set_option autoImplicit false

/-!
# Progress of a closing session

A closing session takes no lease, so the allocations it still holds and the states it still has to
go through only get fewer.
-/

namespace ChromiumHmos.Overlay

open Std Transition OrderedMap

structure Held.Later (old new : Held) : Prop where
  use : new.lease = old.lease ∧ new.submission = old.submission ∧ new.plane = old.plane
  released : old.released → new.released
  fenceReady : old.fenceReady → new.fenceReady

theorem Held.Later.refl (held : Held) : held.Later held := ⟨⟨rfl, rfl, rfl⟩, id, id⟩

theorem Held.Later.trans {first second third : Held} (one : first.Later second)
    (two : second.Later third) : first.Later third :=
  ⟨⟨two.use.1.trans one.use.1, two.use.2.1.trans one.use.2.1, two.use.2.2.trans one.use.2.2⟩,
    two.released ∘ one.released, two.fenceReady ∘ one.fenceReady⟩

/-- An event that gives this use of an allocation back for good. -/
def Release.frees (event : Release) (held : Held) : Prop :=
  event.names held.lease held.submission held.plane ∧ event.serverReturned ∧
    event.releaseFenceSignaled

theorem noteRelease_lookup (leases : ExtTreeMap Nat Held) (event : Release) (id : Nat) :
    (leases[id]? = none -> (Session.noteRelease leases event)[id]? = none) /\
    ∀ held, leases[id]? = some held -> held.lease.allocationId = id ->
      ∃ noted, (Session.noteRelease leases event)[id]? = some noted /\ held.Later noted /\
        (event.frees held -> noted.released /\ noted.fenceReady) := by
  unfold Session.noteRelease
  cases found : leases[event.allocation]? with
  | none =>
    refine ⟨fun absent => absent, fun held present key => ⟨held, present, .refl held, ?_⟩⟩
    rintro ⟨⟨-, allocation, -⟩, -⟩
    rw [allocation, key, present] at found
    contradiction
  | some other =>
    dsimp only
    split
    · rename_i distinct
      refine ⟨fun absent => absent, fun held present key => ⟨held, present, .refl held, ?_⟩⟩
      rintro ⟨⟨submission, allocation, plane⟩, -⟩
      rw [allocation, key, present] at found
      obtain rfl := Option.some.inj found
      exact absurd distinct (by simp [submission, plane])
    · by_cases same : id = event.allocation
      · subst same
        refine ⟨fun absent => absurd (absent.symm.trans found) (by simp), fun held present _ => ?_⟩
        obtain rfl := Option.some.inj (present.symm.trans found)
        refine ⟨_, ExtTreeMap.getElem?_insert_self, ⟨⟨rfl, rfl, rfl⟩,
          fun flag => Bool.or_eq_true_iff.mpr (.inl flag),
          fun flag => Bool.or_eq_true_iff.mpr (.inl flag)⟩, ?_⟩
        rintro ⟨-, returned, signaled⟩
        exact ⟨Bool.or_eq_true_iff.mpr (.inr returned), Bool.or_eq_true_iff.mpr
          (.inr (Bool.and_eq_true_iff.mpr ⟨returned, signaled⟩))⟩
      · rw [getElem?_insert_of_ne _ _ _ _ same]
        refine ⟨fun absent => absent, fun held present key => ⟨held, present, .refl held, ?_⟩⟩
        rintro ⟨⟨-, allocation, -⟩, -⟩
        exact absurd (key.symm.trans allocation.symm) same

theorem noteReleases_lookup (events : List Release) (leases : ExtTreeMap Nat Held) (id : Nat) :
    (leases[id]? = none -> (events.foldl Session.noteRelease leases)[id]? = none) /\
    ∀ held, leases[id]? = some held -> held.lease.allocationId = id ->
      ∃ noted, (events.foldl Session.noteRelease leases)[id]? = some noted /\ held.Later noted /\
        ((∃ event ∈ events, event.frees held) -> noted.released /\ noted.fenceReady) := by
  induction events generalizing leases with
  | nil => exact ⟨fun absent => absent, fun held present _ => ⟨held, present, .refl held, by simp⟩⟩
  | cons event rest ih =>
    obtain ⟨gone, kept⟩ := noteRelease_lookup leases event id
    obtain ⟨goneRest, keptRest⟩ := ih (Session.noteRelease leases event)
    refine ⟨fun absent => goneRest (gone absent), fun held present key => ?_⟩
    obtain ⟨one, presentOne, later, freed⟩ := kept held present key
    obtain ⟨two, presentTwo, later', freed'⟩ := keptRest one presentOne (later.use.1 ▸ key)
    refine ⟨two, presentTwo, later.trans later', ?_⟩
    rintro ⟨freeing, mem, frees⟩
    rcases List.mem_cons.mp mem with rfl | mem
    · obtain ⟨released, fenceReady⟩ := freed frees
      exact ⟨later'.released released, later'.fenceReady fenceReady⟩
    · refine freed' ⟨freeing, mem, ?_⟩
      rw [Release.frees, later.use.1, later.use.2.1, later.use.2.2]
      exact frees

section

variable {W P : Type} (backend : Backend W P)

-- The world in which a poll asks about producers and commands.
def pollWorld (h : Host W) : W := (backend.pollReleases h.world).1

theorem retiring_lookup (s : Session) (w : W) (id : Nat) :
    (s.leases[id]? = none -> (s.retiring backend w).session.leases[id]? = none) /\
    ∀ held, s.leases[id]? = some held -> held.lease.allocationId = id ->
      ((s.retiring backend w).session.leases[id]? = none \/
        ∃ noted, (s.retiring backend w).session.leases[id]? = some noted /\ held.Later noted /\
          ((∃ event ∈ (backend.pollReleases w).2, event.frees held) ->
            noted.released /\ noted.fenceReady)) /\
      (held.released -> held.fenceReady ->
        backend.producerReady (backend.pollReleases w).1 held.lease ->
          (s.retiring backend w).session.leases[id]? = none) := by
  obtain ⟨gone, kept⟩ := noteReleases_lookup (backend.pollReleases w).2 s.leases id
  have leases : (s.retiring backend w).session.leases[id]? =
      (((backend.pollReleases w).2.foldl Session.noteRelease s.leases)[id]?).filter
        fun held => !Session.retires backend (backend.pollReleases w).1 held :=
    ExtTreeMap.getElem?_filter'
  refine ⟨fun absent => by rw [leases, gone absent]; rfl, fun held present key => ?_⟩
  obtain ⟨noted, found, later, freed⟩ := kept held present key
  rw [leases, found]
  cases retires : Session.retires backend (backend.pollReleases w).1 noted with
  | true => exact ⟨.inl (by simp [retires]), fun _ _ _ => by simp [retires]⟩
  | false =>
    refine ⟨.inr ⟨noted, by simp [retires], later, freed⟩, fun released fenceReady ready => ?_⟩
    have all : Session.retires backend (backend.pollReleases w).1 noted = true := by
      simp [Session.retires, later.released released, later.fenceReady fenceReady, later.use.1,
        ready]
    exact absurd (all.symm.trans retires) (by simp)

theorem poll_leases (s : Session) (w : W) (unfinished : s.state ≠ .closed) :
    (s.poll backend w).session.leases = (s.retiring backend w).session.leases := by
  rw [poll_open backend s w unfinished]
  exact (finishDrain_quiet backend _ _).2.1.trans (startDrain_quiet backend _ _).2.1

def HostOp.polls {W : Type} : HostOp W → Prop
  | .poll | .close => True
  | _ => False

theorem poll_of_polls (h : Host W) (op : HostOp W) (polls : op.polls)
    (closing : h.session.state ≠ .running) :
    (h.next backend op).session = (h.session.poll backend h.world).session := by
  cases op with
  | poll => rfl
  | close =>
    show (h.session.close backend h.world).session = _
    unfold Session.close
    rw [if_neg closing]
  | submit => contradiction
  | world => contradiction

theorem closing_next (h : Host W) (op : HostOp W) (closing : h.session.state ≠ .running) :
    (op.polls /\ (h.next backend op).session = (h.session.poll backend h.world).session) \/
      (h.next backend op).session = h.session := by
  cases op with
  | poll => exact .inl ⟨trivial, rfl⟩
  | close => exact .inl ⟨trivial, poll_of_polls backend h .close trivial closing⟩
  | submit frame =>
    refine .inr ?_
    show (h.session.submit backend h.world frame).step.session = h.session
    unfold Session.submit
    rw [if_pos closing]
  | world => exact .inr rfl

theorem closing_lookup {h : Host W} (op : HostOp W) (closing : h.session.state ≠ .running)
    (keyed : ∀ (id : Nat) (held : Held), h.session.leases[id]? = some held ->
      held.lease.allocationId = id) (id : Nat) :
    (h.session.leases[id]? = none -> (h.next backend op).session.leases[id]? = none) /\
    ∀ held, h.session.leases[id]? = some held ->
      (h.next backend op).session.leases[id]? = none \/
        ∃ noted, (h.next backend op).session.leases[id]? = some noted /\ held.Later noted := by
  have same : (h.next backend op).session.leases = h.session.leases ->
      (h.session.leases[id]? = none -> (h.next backend op).session.leases[id]? = none) /\
      ∀ held, h.session.leases[id]? = some held ->
        (h.next backend op).session.leases[id]? = none \/
          ∃ noted, (h.next backend op).session.leases[id]? = some noted /\ held.Later noted := by
    intro same
    rw [same]
    exact ⟨fun absent => absent, fun held present => .inr ⟨held, present, .refl held⟩⟩
  rcases closing_next backend h op closing with ⟨-, polled⟩ | kept
  · by_cases closed : h.session.state = .closed
    · refine same ?_
      rw [polled, poll_closed backend h.session h.world closed]
    · rw [polled, poll_leases backend h.session h.world closed]
      obtain ⟨gone, present⟩ := retiring_lookup backend h.session h.world id
      refine ⟨gone, fun held found => ?_⟩
      rcases (present held found (keyed id held found)).1 with absent | ⟨noted, found', later, -⟩
      · exact .inl absent
      · exact .inr ⟨noted, found', later⟩
  · exact same (by rw [kept])

theorem poll_begins (s : Session) (w : W) (waiting : s.state = .waitingForCommands)
    (processed : s.lastSubmission = 0 \/
      backend.commandsProcessed (backend.pollReleases w).1 s.lastSubmission) :
    2 <= (s.poll backend w).session.state.rank := by
  have begun : (Session.startDrain backend (s.retiring backend w).session
      (s.retiring backend w).world).session.state = .draining := by
    unfold Session.startDrain
    split
    · rfl
    · rename_i stuck
      exact absurd ⟨waiting, processed⟩ stuck
  rw [poll_open backend s w (by simp [waiting])]
  dsimp only
  unfold Session.finishDrain
  split
  · simp [State.rank]
  · rw [begun]
    decide

theorem poll_waits (s : Session) (w : W) (unbegun : s.state.rank <= 1)
    (unprocessed : ¬ (s.lastSubmission = 0 \/
      backend.commandsProcessed (backend.pollReleases w).1 s.lastSubmission)) :
    (s.poll backend w).session.state = s.state := by
  have notClosed : s.state ≠ .closed := by
    intro closed
    rw [closed] at unbegun
    contradiction
  have notBegun : Session.startDrain backend (s.retiring backend w).session
      (s.retiring backend w).world =
        ⟨(s.retiring backend w).session, (s.retiring backend w).world, []⟩ := by
    unfold Session.startDrain
    rw [if_neg]
    exact fun begins => unprocessed begins.2
  rw [poll_open backend s w notClosed]
  dsimp only
  rw [notBegun]
  unfold Session.finishDrain
  rw [if_neg]
  · rfl
  · rintro ⟨draining, -⟩
    have state : s.state = .draining := draining
    rw [state] at unbegun
    contradiction

theorem close_waits (s : Session) (w : W) (unbegun : s.state.rank <= 1)
    (unprocessed : ¬ (s.lastSubmission = 0 \/
      backend.commandsProcessed (backend.pollReleases w).1 s.lastSubmission)) :
    (s.close backend w).session.state.rank <= 1 := by
  unfold Session.close
  dsimp only
  split
  · have waits := poll_waits backend { s with state := .waitingForCommands } w
      (by simp [State.rank]) unprocessed
    rw [waits]
    simp [State.rank]
  · rw [poll_waits backend s w unbegun unprocessed]
    exact unbegun

theorem poll_finishes (s : Session) (w : W) (draining : s.state = .draining)
    (empty : ∀ id : Nat, s.leases[id]? = none)
    (drained : backend.drainCommandsProcessed (backend.pollReleases w).1) :
    (s.poll backend w).session.state = .closed := by
  have notWaiting : Session.startDrain backend (s.retiring backend w).session
      (s.retiring backend w).world =
        ⟨(s.retiring backend w).session, (s.retiring backend w).world, []⟩ := by
    unfold Session.startDrain
    rw [if_neg]
    rintro ⟨waiting, -⟩
    exact absurd (draining.symm.trans waiting) (by decide)
  have none : (s.retiring backend w).session.leases = ∅ := by
    refine ExtTreeMap.ext_getElem? fun id => ?_
    rw [(retiring_lookup backend s w id).1 (empty id)]
    simp
  rw [poll_open backend s w (by simp [draining])]
  dsimp only
  rw [notWaiting]
  unfold Session.finishDrain
  split
  · rfl
  · rename_i stuck
    exact absurd ⟨draining, ExtTreeMap.isEmpty_iff.mpr none, drained⟩ stuck

theorem poll_frees (s : Session) (w : W) (unfinished : s.state ≠ .closed) {id : Nat} {held : Held}
    (found : s.leases[id]? = some held) (key : held.lease.allocationId = id)
    (freed : ∃ event ∈ (backend.pollReleases w).2, event.frees held) :
    (s.poll backend w).session.leases[id]? = none \/
      ∃ noted, (s.poll backend w).session.leases[id]? = some noted /\ noted.released /\
        noted.fenceReady := by
  rw [poll_leases backend s w unfinished]
  rcases ((retiring_lookup backend s w id).2 held found key).1 with absent | ⟨noted, found', -, flags⟩
  · exact .inl absent
  · exact .inr ⟨noted, found', flags freed⟩

theorem poll_retires (s : Session) (w : W) (unfinished : s.state ≠ .closed) {id : Nat} {held : Held}
    (found : s.leases[id]? = some held) (key : held.lease.allocationId = id)
    (flags : held.released /\ held.fenceReady)
    (ready : backend.producerReady (backend.pollReleases w).1 held.lease) :
    (s.poll backend w).session.leases[id]? = none := by
  rw [poll_leases backend s w unfinished]
  exact ((retiring_lookup backend s w id).2 held found key).2 flags.1 flags.2 ready

theorem State.rank_pos {state : State} : 1 <= state.rank ↔ state ≠ .running := by
  cases state <;> decide

structure Run where
  state : ℕ → Host W
  op : ℕ → HostOp W
  step : ∀ n, Host.step backend (state n) (op n) (state (n + 1))

namespace Run

variable {backend}

/-- What the server, the fences and the producers owe a closing session that keeps being polled. -/
structure Answers (run : Run backend) : Prop where
  released : ∀ (n id : Nat) (held : Held), (run.state n).session.leases[id]? = some held →
    ¬ (held.released ∧ held.fenceReady) → ∃ m, n ≤ m ∧ (run.op m).polls ∧
      ∃ event ∈ (backend.pollReleases (run.state m).world).2, event.frees held
  ready : ∀ (n id : Nat) (held : Held), (run.state n).session.leases[id]? = some held →
    ∃ m, n ≤ m ∧ (run.op m).polls ∧
      backend.producerReady (pollWorld backend (run.state m)) held.lease
  processed : ∀ n, (run.state n).session.state = .waitingForCommands →
    ∃ m, n ≤ m ∧ (run.op m).polls ∧ ((run.state m).session.lastSubmission = 0 ∨
      backend.commandsProcessed (pollWorld backend (run.state m))
        (run.state m).session.lastSubmission)
  drained : ∀ n, (run.state n).session.state = .draining →
    ∃ m, n ≤ m ∧ (run.op m).polls ∧
      backend.drainCommandsProcessed (pollWorld backend (run.state m))

/-- The same, where what a session waits for may also go some other way. -/
structure Owed (run : Run backend) : Prop where
  released : ∀ (n id : Nat) (held : Held), (run.state n).session.leases[id]? = some held →
    ¬ (held.released ∧ held.fenceReady) → ∃ m, n ≤ m ∧
      ((run.state m).session.leases[id]? = none ∨
        (∃ noted, (run.state m).session.leases[id]? = some noted ∧
          (noted.released ∧ noted.fenceReady)) ∨
        (run.op m).polls ∧ ∃ event ∈ (backend.pollReleases (run.state m).world).2,
          event.frees held)
  ready : ∀ (n id : Nat) (held : Held), (run.state n).session.leases[id]? = some held →
    ∃ m, n ≤ m ∧ ((run.state m).session.leases[id]? = none ∨ (run.op m).polls ∧
      backend.producerReady (pollWorld backend (run.state m)) held.lease)
  processed : ∀ n, (run.state n).session.state = .waitingForCommands →
    ∃ m, n ≤ m ∧ (1 < (run.state m).session.state.rank ∨ (run.op m).polls ∧
      ((run.state m).session.lastSubmission = 0 ∨
        backend.commandsProcessed (pollWorld backend (run.state m))
          (run.state m).session.lastSubmission))
  drained : ∀ n, (run.state n).session.state = .draining →
    ∃ m, n ≤ m ∧ ((run.state m).session.state = .closed ∨ (run.op m).polls ∧
      backend.drainCommandsProcessed (pollWorld backend (run.state m)))

theorem Answers.owed {run : Run backend} (answers : run.Answers) : run.Owed where
  released := fun n id held found flags =>
    (answers.released n id held found flags).imp fun _ => .imp_right fun frees => .inr (.inr frees)
  ready := fun n id held found => (answers.ready n id held found).imp fun _ => .imp_right .inr
  processed := fun n state => (answers.processed n state).imp fun _ => .imp_right .inr
  drained := fun n state => (answers.drained n state).imp fun _ => .imp_right .inr

variable (run : Run backend)

theorem leaseInv (initial : LeaseInv (run.state 0).session [] (run.state 0).log) (n : ℕ) :
    LeaseInv (run.state n).session [] (run.state n).log := by
  induction n with
  | zero => exact initial
  | succ n ih =>
    obtain ⟨allowed, next⟩ := run.step n
    rw [next]
    exact next_inv backend (run.state n) (run.op n) ih allowed

variable {n m : ℕ}

theorem forward (later : n <= m) :
    (run.state n).session.state.rank <= (run.state m).session.state.rank := by
  induction m, later using Nat.le_induction with
  | base => exact le_rfl
  | succ m _ ih =>
    rw [(run.step m).2]
    exact ih.trans (next_forward backend (run.state m) (run.op m))

theorem closing (later : n <= m) (closing : (run.state n).session.state ≠ .running) :
    (run.state m).session.state ≠ .running := by
  have before := State.rank_pos.mpr closing
  have moved := run.forward later
  exact State.rank_pos.mp (by omega)

theorem stays
    (initial : LeaseInv (run.state 0).session [] (run.state 0).log) (later : n <= m)
    (closing : (run.state n).session.state ≠ .running) (id : Nat) :
    ((run.state n).session.leases[id]? = none -> (run.state m).session.leases[id]? = none) /\
    ∀ held, (run.state n).session.leases[id]? = some held ->
      (run.state m).session.leases[id]? = none \/
        ∃ noted, (run.state m).session.leases[id]? = some noted /\ held.Later noted := by
  induction m, later using Nat.le_induction with
  | base => exact ⟨fun absent => absent, fun held found => .inr ⟨held, found, .refl held⟩⟩
  | succ m later ih =>
    obtain ⟨gone, kept⟩ := closing_lookup backend (run.op m) (run.closing later closing)
      (run.leaseInv initial m).keyed id
    rw [(run.step m).2]
    refine ⟨fun absent => gone (ih.1 absent), fun held found => ?_⟩
    rcases ih.2 held found with absent | ⟨noted, found', older⟩
    · exact .inl (gone absent)
    · rcases kept noted found' with absent | ⟨last, found'', newer⟩
      · exact .inl absent
      · exact .inr ⟨last, found'', older.trans newer⟩

-- The allocations that are still out.
def out (h : Host W) : Finset Nat := h.session.leases.keys.toFinset

variable {id : Nat}

theorem mem_out {h : Host W} : id ∈ out h ↔ ∃ held, h.session.leases[id]? = some held := by
  rw [out, List.mem_toFinset, ExtTreeMap.mem_keys, ExtTreeMap.mem_iff_isSome_getElem?,
    Option.isSome_iff_exists]

theorem out_subset
    (initial : LeaseInv (run.state 0).session [] (run.state 0).log) (later : n <= m)
    (closing : (run.state n).session.state ≠ .running) : out (run.state m) ⊆ out (run.state n) := by
  intro id mem
  obtain ⟨held, found⟩ := mem_out.mp mem
  refine mem_out.mpr (Option.ne_none_iff_exists'.mp fun absent => ?_)
  rw [(run.stays initial later closing id).1 absent] at found
  contradiction

def remaining (h : Host W) : Nat := 3 - h.session.state.rank + (out h).card

def Ranked (h : Host W) (rank : Nat) : Prop :=
  h.session.state ≠ .running ∧ remaining h = rank

theorem falls_of_rank
    (initial : LeaseInv (run.state 0).session [] (run.state 0).log) (later : n <= m)
    (closing : (run.state n).session.state ≠ .running)
    (higher : (run.state n).session.state.rank < (run.state m).session.state.rank) :
    ∃ rank, rank < remaining (run.state n) /\ Ranked (run.state m) rank := by
  refine ⟨_, ?_, run.closing later closing, rfl⟩
  have fewer := Finset.card_le_card (run.out_subset initial later closing)
  have bound : (run.state m).session.state.rank <= 3 := by
    cases (run.state m).session.state <;> decide
  unfold remaining
  omega

theorem falls_of_gone
    (initial : LeaseInv (run.state 0).session [] (run.state 0).log) (later : n <= m)
    (closing : (run.state n).session.state ≠ .running) (held : id ∈ out (run.state n))
    (gone : (run.state m).session.leases[id]? = none) :
    ∃ rank, rank < remaining (run.state n) /\ Ranked (run.state m) rank := by
  refine ⟨_, ?_, run.closing later closing, rfl⟩
  have missing : id ∉ out (run.state m) := by
    intro mem
    obtain ⟨held, found⟩ := mem_out.mp mem
    rw [gone] at found
    contradiction
  have fewer := Finset.card_lt_card (Finset.ssubset_iff_subset_ne.mpr
    ⟨run.out_subset initial later closing, fun same => missing (same ▸ held)⟩)
  have moved := run.forward later
  unfold remaining
  omega

theorem flagged_goes
    (initial : LeaseInv (run.state 0).session [] (run.state 0).log) (owed : run.Owed)
    (closing : (run.state n).session.state ≠ .running) {held : Held}
    (found : (run.state n).session.leases[id]? = some held)
    (flags : held.released /\ held.fenceReady) :
    ∃ m, n <= m /\ ((run.state m).session.state = .closed \/
      (run.state m).session.leases[id]? = none) := by
  obtain ⟨m, later, gone | ⟨polls, ready⟩⟩ := owed.ready n id held found
  · exact ⟨m, later, .inr gone⟩
  by_cases closed : (run.state m).session.state = .closed
  · exact ⟨m, later, .inl closed⟩
  rcases (run.stays initial later closing id).2 held found with absent | ⟨noted, found', newer⟩
  · exact ⟨m, later, .inr absent⟩
  · refine ⟨m + 1, by omega, .inr ?_⟩
    rw [(run.step m).2, poll_of_polls backend _ _ polls (run.closing later closing)]
    rw [<- newer.use.1] at ready
    exact poll_retires backend _ _ closed found' ((run.leaseInv initial m).keyed _ _ found')
      ⟨newer.released flags.1, newer.fenceReady flags.2⟩ ready

theorem held_goes
    (initial : LeaseInv (run.state 0).session [] (run.state 0).log) (owed : run.Owed)
    (closing : (run.state n).session.state ≠ .running) {held : Held}
    (found : (run.state n).session.leases[id]? = some held) :
    ∃ m, n <= m /\ ((run.state m).session.state = .closed \/
      (run.state m).session.leases[id]? = none) := by
  by_cases flags : held.released /\ held.fenceReady
  · exact run.flagged_goes initial owed closing found flags
  obtain ⟨m, later, gone | ⟨noted, found', flags⟩ | ⟨polls, event, mem, frees⟩⟩ :=
    owed.released n id held found flags
  · exact ⟨m, later, .inr gone⟩
  · obtain ⟨k, after, gone⟩ :=
      run.flagged_goes initial owed (run.closing later closing) found' flags
    exact ⟨k, by omega, gone⟩
  by_cases closed : (run.state m).session.state = .closed
  · exact ⟨m, later, .inl closed⟩
  rcases (run.stays initial later closing id).2 held found with absent | ⟨noted, found', newer⟩
  · exact ⟨m, later, .inr absent⟩
  have frees : event.frees noted := by
    rw [Release.frees, newer.use.1, newer.use.2.1, newer.use.2.2]
    exact frees
  have freed := poll_frees backend _ _ closed found' ((run.leaseInv initial m).keyed _ _ found')
    ⟨event, mem, frees⟩
  rw [<- poll_of_polls backend _ _ polls (run.closing later closing), <- (run.step m).2] at freed
  rcases freed with absent | ⟨last, found'', flags⟩
  · exact ⟨m + 1, by omega, .inr absent⟩
  · obtain ⟨k, after, gone⟩ := run.flagged_goes initial owed
      (run.closing (by omega : n <= m + 1) closing) found'' flags
    exact ⟨k, by omega, gone⟩

theorem ranked_falls
    (initial : LeaseInv (run.state 0).session [] (run.state 0).log) (owed : run.Owed)
    (n rank : ℕ) (ranked : Ranked (run.state n) rank) :
    ∃ m, n <= m /\ ((run.state m).session.state = .closed \/
      ∃ rank', rank' < rank /\ Ranked (run.state m) rank') := by
  obtain ⟨closing, rfl⟩ := ranked
  cases state : (run.state n).session.state with
  | running => contradiction
  | waitingForCommands =>
    obtain ⟨m, later, begun | ⟨polls, processed⟩⟩ := owed.processed n state
    · exact ⟨m, later, .inr (run.falls_of_rank initial later closing (by rw [state]; exact begun))⟩
    cases stateLater : (run.state m).session.state with
    | running => exact absurd stateLater (run.closing later closing)
    | waitingForCommands =>
      refine ⟨m + 1, by omega, .inr (run.falls_of_rank initial (by omega) closing ?_)⟩
      rw [(run.step m).2, poll_of_polls backend _ _ polls (run.closing later closing), state]
      exact poll_begins backend _ _ stateLater processed
    | draining =>
      refine ⟨m, later, .inr (run.falls_of_rank initial later closing ?_)⟩
      rw [state, stateLater]
      decide
    | closed => exact ⟨m, later, .inl stateLater⟩
  | draining =>
    by_cases empty : ∀ id : Nat, (run.state n).session.leases[id]? = none
    · obtain ⟨m, later, closed | ⟨polls, drained⟩⟩ := owed.drained n state
      · exact ⟨m, later, .inl closed⟩
      cases stateLater : (run.state m).session.state with
      | closed => exact ⟨m, later, .inl stateLater⟩
      | draining =>
        refine ⟨m + 1, by omega, .inl ?_⟩
        rw [(run.step m).2, poll_of_polls backend _ _ polls (run.closing later closing)]
        exact poll_finishes backend _ _ stateLater
          (fun id => (run.stays initial later closing id).1 (empty id)) drained
      | running => exact absurd stateLater (run.closing later closing)
      | waitingForCommands =>
        have moved := run.forward later
        rw [state, stateLater] at moved
        contradiction
    · obtain ⟨id, some_⟩ := not_forall.mp empty
      obtain ⟨held, found⟩ := Option.ne_none_iff_exists'.mp some_
      obtain ⟨m, later, closed | gone⟩ := run.held_goes initial owed closing found
      · exact ⟨m, later, .inl closed⟩
      · exact ⟨m, later, .inr
          (run.falls_of_gone initial later closing (mem_out.mpr ⟨held, found⟩) gone)⟩
  | closed => exact ⟨n, le_rfl, .inl state⟩

theorem closes
    (initial : LeaseInv (run.state 0).session [] (run.state 0).log) (owed : run.Owed)
    (closing : (run.state n).session.state ≠ .running) :
    ∃ m, n <= m /\ (run.state m).session.state = .closed :=
  eventually_of_rank run.state (fun h => h.session.state = .closed) Ranked
    (run.ranked_falls initial owed) n _ ⟨closing, rfl⟩

end Run

end

theorem close_stops {W P : Type} (backend : Backend W P) (s : Session) (w : W) :
    (s.close backend w).session.state ≠ .running := by
  have forward := poll_forward backend
    (if s.state = .running then { s with state := .waitingForCommands } else s) w
  refine State.rank_pos.mp (Nat.le_trans ?_ forward)
  split
  · simp [State.rank]
  · rename_i stopped
    exact State.rank_pos.mpr stopped

def scriptOps (processed : Nat) : ℕ → HostOp Script
  | 0 => .submit (webFrame 1 10)
  | 1 => .world { events := [⟨1, 10, 0, true, true⟩], processed }
  | _ + 2 => .close

def scriptState (processed : Nat) : ℕ → Host Script
  | 0 => .start 4 {}
  | n + 1 => (scriptState processed n).next scripted (scriptOps processed n)

def scriptRun (processed : Nat) : Run scripted where
  state := scriptState processed
  op := scriptOps processed
  step := by
    rintro (_ | _ | n)
    · exact ⟨⟨by decide, fun _ _ => List.not_mem_nil⟩, rfl⟩
    · exact ⟨trivial, rfl⟩
    · exact ⟨trivial, rfl⟩

theorem scripted_poll (s : Session) (w : Script) :
    (s.poll scripted w).world.processed = w.processed /\
      (s.poll scripted w).world.drained = w.drained := by
  have start (t : Session) (v : Script) : (Session.startDrain scripted t v).world = v := by
    unfold Session.startDrain
    split <;> rfl
  have finish (t : Session) (v : Script) :
      (Session.finishDrain scripted t v).world.processed = v.processed /\
        (Session.finishDrain scripted t v).world.drained = v.drained := by
    unfold Session.finishDrain
    split <;> exact ⟨rfl, rfl⟩
  by_cases closed : s.state = .closed
  · rw [poll_closed scripted s w closed]
    exact ⟨rfl, rfl⟩
  · rw [poll_open scripted s w closed]
    dsimp only
    rw [start]
    exact finish _ _

theorem scriptRun_begins :
    let first := ((Host.start 4 {}).next scripted (.submit (webFrame 1 10))).session
    (first.lastSubmission = 1 /\ first.leases.toList.map
      (fun entry => (entry.2.submission, entry.2.lease.allocationId, entry.2.plane)) = [(1, 10, 0)]) /\
    ((scriptRun 0).state 3).session.leases.isEmpty /\ ((scriptRun 1).state 3).session.leases.isEmpty /\
      ∀ n < 3, ((scriptRun 0).state n).session.state.rank <= 1 := by
  decide +kernel

theorem scriptRun_world (processed n : Nat) :
    ((scriptRun processed).state (n + 2)).session.lastSubmission = 1 /\
      ((scriptRun processed).state (n + 2)).world.processed = processed /\
      ((scriptRun processed).state (n + 2)).world.drained = true := by
  induction n with
  | zero => exact ⟨scriptRun_begins.1.1, rfl, rfl⟩
  | succ n ih =>
    obtain ⟨last, reported, drained⟩ := ih
    obtain ⟨processedSame, drainedSame⟩ := scripted_poll
      (if ((scriptRun processed).state (n + 2)).session.state = .running then
        { ((scriptRun processed).state (n + 2)).session with state := .waitingForCommands }
      else ((scriptRun processed).state (n + 2)).session) ((scriptRun processed).state (n + 2)).world
    refine ⟨?_, processedSame.trans reported, drainedSame.trans drained⟩
    exact (close_shrinks scripted _ _).last.trans last

theorem scriptRun_held (processed : Nat)
    (gone : ((scriptRun processed).state 3).session.leases.isEmpty) (n id : Nat) (held : Held)
    (found : ((scriptRun processed).state n).session.leases[id]? = some held) :
    n <= 2 /\ (⟨1, 10, 0, true, true⟩ : Release).frees held := by
  have one : ((Host.start 4 {}).next scripted (.submit (webFrame 1 10))).session.leases[id]? =
      some held -> (⟨1, 10, 0, true, true⟩ : Release).frees held := by
    intro found
    have mem := List.mem_map_of_mem
      (f := fun entry : Nat × Held => (entry.2.submission, entry.2.lease.allocationId, entry.2.plane))
      (ExtTreeMap.mem_toList_iff_getElem?_eq_some.mpr found)
    rw [scriptRun_begins.1.2, List.mem_singleton] at mem
    simp only [Prod.mk.injEq] at mem
    exact ⟨⟨mem.1.symm, mem.2.1.symm, mem.2.2.symm⟩, rfl, rfl⟩
  have stopped : ((scriptRun processed).state 3).session.state ≠ .running :=
    close_stops scripted _ _
  rcases n with _ | _ | _ | n
  · have none : ((scriptRun processed).state 0).session.leases[id]? = none := by
      show (∅ : ExtTreeMap Nat Held)[id]? = none
      simp
    rw [none] at found
    contradiction
  · exact ⟨by omega, one found⟩
  · exact ⟨le_rfl, one found⟩
  · have empty : ((scriptRun processed).state 3).session.leases[id]? = none := by
      rw [ExtTreeMap.isEmpty_iff.mp gone]
      simp
    rw [((scriptRun processed).stays (start_inv 4 ({} : Script)) (by omega : 3 <= n + 3) stopped id).1 empty] at found
    contradiction

theorem scriptRun_released (processed : Nat)
    (gone : ((scriptRun processed).state 3).session.leases.isEmpty) (n id : Nat) (held : Held)
    (found : ((scriptRun processed).state n).session.leases[id]? = some held) :
    ∃ m, n <= m /\ ((scriptRun processed).op m).polls /\
      ∃ event ∈ (scripted.pollReleases ((scriptRun processed).state m).world).2,
        event.frees held := by
  obtain ⟨early, frees⟩ := scriptRun_held processed gone n id held found
  exact ⟨2, early, trivial, _, List.mem_singleton_self _, frees⟩

end ChromiumHmos.Overlay
