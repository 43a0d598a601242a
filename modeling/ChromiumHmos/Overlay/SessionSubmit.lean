import ChromiumHmos.Overlay.SessionLeases

set_option autoImplicit false

namespace ChromiumHmos.Overlay

open Std Transition OrderedMap

structure Shrinks (s t : Session) : Prop where
  limit : t.maxAllocationsPerPlane = s.maxAllocationsPerPlane
  last : t.lastSubmission = s.lastSubmission
  current : t.current = s.current
  planes : ∀ (id : Nat) (held : Held), t.leases[id]? = some held →
    ∃ old, s.leases[id]? = some old ∧ old.plane = held.plane
  allocations : ∀ plane, t.allocations plane ≤ s.allocations plane

theorem Shrinks.refl (s : Session) : Shrinks s s :=
  ⟨rfl, rfl, rfl, fun _ held found => ⟨held, found, rfl⟩, fun _ => le_rfl⟩

variable {s t : Session}

theorem Shrinks.trans {u : Session} (first : Shrinks s t) (second : Shrinks t u) :
    Shrinks s u where
  limit := second.limit.trans first.limit
  last := second.last.trans first.last
  current := second.current.trans first.current
  planes := by
    intro id held found
    obtain ⟨old, found, same⟩ := second.planes id held found
    obtain ⟨older, found, same'⟩ := first.planes id old found
    exact ⟨older, found, same'.trans same⟩
  allocations := fun plane => (second.allocations plane).trans (first.allocations plane)

theorem Shrinks.framed (limit : t.maxAllocationsPerPlane = s.maxAllocationsPerPlane)
    (last : t.lastSubmission = s.lastSubmission) (current : t.current = s.current)
    (leases : t.leases = s.leases) : Shrinks s t := by
  refine ⟨limit, last, current, ?_, ?_⟩
  · rw [leases]
    exact fun _ held found => ⟨held, found, rfl⟩
  · intro plane
    rw [Session.allocations, leases]
    exact le_rfl

theorem noteRelease_shrinks (s : Session) (event : Release) :
    Shrinks s { s with leases := Session.noteRelease s.leases event } := by
  unfold Session.noteRelease
  cases found : s.leases[event.allocation]? with
  | none => exact .refl s
  | some held =>
    dsimp only
    split
    · exact .refl s
    · refine ⟨rfl, rfl, rfl, ?_, ?_⟩
      · intro id entry present
        rcases (getElem?_insert_some _ _ _ _ _).mp present with ⟨rfl, rfl⟩ | ⟨-, old⟩
        · exact ⟨_, found, rfl⟩
        · exact ⟨entry, old, rfl⟩
      · intro plane
        have moved := total_insert_found (fun _ held : _ => if held.plane = plane then 1 else 0)
          s.leases event.allocation held { held with
            released := held.released || event.serverReturned
            fenceReady := held.fenceReady ||
              (event.serverReturned && event.releaseFenceSignaled) } found
        dsimp only at moved
        simp only [Session.allocations]
        omega

theorem noteReleases_shrinks (events : List Release) (s : Session) :
    Shrinks s { s with leases := events.foldl Session.noteRelease s.leases } := by
  induction events generalizing s with
  | nil => exact .refl s
  | cons event rest ih => exact (noteRelease_shrinks s event).trans (ih _)

theorem filter_shrinks (s : Session) (kept : Nat -> Held -> Bool) :
    Shrinks s { s with leases := s.leases.filter kept } := by
  refine ⟨rfl, rfl, rfl, ?_, ?_⟩
  · intro id held found
    rw [ExtTreeMap.getElem?_filter'] at found
    exact ⟨held, (Option.filter_eq_some_iff.mp found).1, rfl⟩
  · intro plane
    have split := total_filter (fun _ held : _ => if held.plane = plane then 1 else 0) s.leases kept
    simp only [Session.allocations]
    omega

section

variable {W P : Type} (backend : Backend W P)

theorem startDrain_shrinks (s : Session) (w : W) : Shrinks s (s.startDrain backend w).session := by
  unfold Session.startDrain
  split <;> exact .framed rfl rfl rfl rfl

theorem finishDrain_shrinks (s : Session) (w : W) :
    Shrinks s (s.finishDrain backend w).session := by
  unfold Session.finishDrain
  split <;> exact .framed rfl rfl rfl rfl

theorem retiring_shrinks (s : Session) (w : W) : Shrinks s (s.retiring backend w).session := by
  have noted := noteReleases_shrinks (backend.pollReleases w).2 s
  have retired := filter_shrinks { s with
    leases := (backend.pollReleases w).2.foldl Session.noteRelease s.leases }
    fun _ held => !Session.retires backend (backend.pollReleases w).1 held
  exact (noted.trans retired).trans (.framed rfl rfl rfl rfl)

theorem poll_shrinks (s : Session) (w : W) : Shrinks s (s.poll backend w).session := by
  by_cases closed : s.state = .closed
  · rw [poll_closed backend s w closed]
    exact .framed rfl rfl rfl rfl
  · rw [poll_open backend s w closed]
    exact (retiring_shrinks backend s w).trans
      ((startDrain_shrinks backend _ _).trans (finishDrain_shrinks backend _ _))

theorem close_shrinks (s : Session) (w : W) : Shrinks s (s.close backend w).session := by
  unfold Session.close
  dsimp only
  split
  · exact (Shrinks.framed rfl rfl rfl rfl : Shrinks s { s with state := .waitingForCommands }).trans
      (poll_shrinks backend _ w)
  · exact poll_shrinks backend s w

end

-- The submission and the plane of every accepted lease, oldest first.
def acceptances (log : List Effect) : List (Nat × Nat) :=
  log.filterMap fun effect => match effect with
    | .accepted _ submission plane _ => some (submission, plane)
    | _ => none

@[simp] theorem acceptances_append (log more : List Effect) :
    acceptances (log ++ more) = acceptances log ++ acceptances more :=
  List.filterMap_append

theorem acceptances_eq_nil {log : List Effect} (none : Host.acceptedObjects log = []) :
    acceptances log = [] := by
  refine List.filterMap_eq_nil_iff.mpr fun effect mem => ?_
  have objects := List.filterMap_eq_nil_iff.mp none effect mem
  cases effect with
  | accepted => contradiction
  | _ => rfl

structure Holds (s t : Session) (p : Plane) (plane : Nat) : Prop where
  limit : t.maxAllocationsPerPlane = s.maxAllocationsPerPlane
  planes : ∀ (id : Nat) (held : Held), t.leases[id]? = some held →
    held.plane = plane ∨ ∃ old, s.leases[id]? = some old ∧ old.plane = held.plane
  other : ∀ plane', plane' ≠ plane → t.allocations plane' ≤ s.allocations plane'
  own : t.allocations plane ≤ s.allocations plane + if p.reuse then 0 else 1

theorem holdPlane_holds (s : Session) (p : Plane) (sequence plane : Nat) :
    Holds s (s.holdPlane p sequence plane).1 p plane /\
      acceptances (s.holdPlane p sequence plane).2 = p.lease.toList.map fun _ => (sequence, plane) := by
  unfold Session.holdPlane
  cases p.lease with
  | none => exact ⟨⟨rfl, fun _ held found => .inr ⟨held, found, rfl⟩, fun _ _ => le_rfl, by simp⟩, rfl⟩
  | some lease =>
    unfold Session.hold
    dsimp only
    split
    · exact ⟨⟨rfl, fun _ held found => .inr ⟨held, found, rfl⟩, fun _ _ => le_rfl, by
        simp [Session.allocations]⟩, rfl⟩
    · rename_i fresh
      have grown : ∀ plane', _ := fun plane' => total_insertIfNew_le
        (fun _ held : _ => if held.plane = plane' then 1 else 0) s.leases lease.allocationId
        { submission := sequence, plane, lease, format := p.format, width := p.width
          height := p.height, color := p.color }
      refine ⟨⟨rfl, ?_, ?_, ?_⟩, by split <;> rfl⟩
      · intro id held found
        rw [ExtTreeMap.getElem?_insertIfNew] at found
        split at found
        · exact .inl (Option.some.inj found ▸ rfl)
        · exact .inr ⟨held, found, rfl⟩
      · intro plane' distinct
        have grown := grown plane'
        rw [if_neg distinct.symm] at grown
        exact grown
      · have grown := grown plane
        rw [if_pos rfl] at grown
        rw [if_neg fresh]
        exact grown

theorem holdVideo_holds (s : Session) (video : Option Plane) (sequence : Nat) :
    (s.holdVideo video sequence).1.maxAllocationsPerPlane = s.maxAllocationsPerPlane /\
    (∀ (id : Nat) (held : Held), (s.holdVideo video sequence).1.leases[id]? = some held ->
      held.plane = 1 \/ ∃ old, s.leases[id]? = some old /\ old.plane = held.plane) /\
    (∀ plane, plane ≠ 1 -> (s.holdVideo video sequence).1.allocations plane <= s.allocations plane) /\
    (s.holdVideo video sequence).1.allocations 1 <=
      s.allocations 1 + (if video.all Plane.reuse then 0 else 1) /\
    acceptances (s.holdVideo video sequence).2 =
      (video.bind Plane.lease).toList.map fun _ => (sequence, 1) := by
  cases video with
  | none => exact ⟨rfl, fun _ held found => .inr ⟨held, found, rfl⟩, fun _ _ => le_rfl, le_rfl, rfl⟩
  | some video =>
    obtain ⟨holds, accepted⟩ := holdPlane_holds s video sequence 1
    exact ⟨holds.limit, holds.planes, holds.other, holds.own, accepted⟩

theorem blocked_room {p : Plane} {plane : Nat} (free : s.blocked p plane = false)
    (room : s.allocations plane <= s.maxAllocationsPerPlane) :
    s.allocations plane + (if p.reuse then 0 else 1) <= s.maxAllocationsPerPlane := by
  cases reuse : p.reuse with
  | true => simpa using room
  | false =>
    simp only [Session.blocked, reuse, Bool.not_false, Bool.true_and, Bool.or_eq_false_iff,
      decide_eq_false_iff_not] at free
    simp only [Bool.false_eq_true, if_false]
    omega

-- One id for the planes of a frame, the primary first, and a larger one for the next frame.
def Before (first second : Nat × Nat) : Prop :=
  first.1 < second.1 ∨ (first.1 = second.1 ∧ first.2 = 0 ∧ second.2 = 1)

structure SubmitInv (maxAllocationsPerPlane : Nat) (s : Session) (log : List Effect) : Prop where
  limit : s.maxAllocationsPerPlane = maxAllocationsPerPlane
  planes : ∀ (id : Nat) (held : Held), s.leases[id]? = some held → held.plane < 2
  bounded : ∀ plane, s.allocations plane ≤ maxAllocationsPerPlane
  increasing : (acceptances log).Pairwise Before
  latest : ∀ entry ∈ acceptances log, entry.1 ≤ s.lastSubmission
  representable : s.lastSubmission < UInt64.size

theorem SubmitInv.shrinks {maxAllocationsPerPlane : Nat} {log effects : List Effect}
    (inv : SubmitInv maxAllocationsPerPlane s log) (shrinks : Shrinks s t)
    (none : Host.acceptedObjects effects = []) :
    SubmitInv maxAllocationsPerPlane t (log ++ effects) where
  limit := shrinks.limit.trans inv.limit
  planes := by
    intro id held found
    obtain ⟨old, found, same⟩ := shrinks.planes id held found
    exact same ▸ inv.planes id old found
  bounded := fun plane => (shrinks.allocations plane).trans (inv.bounded plane)
  increasing := by
    rw [acceptances_append, acceptances_eq_nil none, List.append_nil]
    exact inv.increasing
  latest := by
    rw [acceptances_append, acceptances_eq_nil none, List.append_nil, shrinks.last]
    exact inv.latest
  representable := shrinks.last ▸ inv.representable

section

variable {W P : Type} (backend : Backend W P)

variable {maxAllocationsPerPlane : Nat}

theorem accept_inv {s : Session} {log effects : List Effect}
    (inv : SubmitInv maxAllocationsPerPlane s (log ++ effects)) (w : W) (f : Frame) (batch : P)
    (primary : s.blocked f.primary 0 = false) (video : ∀ video ∈ f.video, s.blocked video 1 = false)
    (last : s.lastSubmission ≠ UInt64.size - 1) :
    SubmitInv maxAllocationsPerPlane
      (s.accept backend w f batch (s.lastSubmission + 1) effects).step.session
      (log ++ (s.accept backend w f batch (s.lastSubmission + 1) effects).step.effects) := by
  have room := blocked_room primary (inv.limit ▸ inv.bounded 0)
  have roomVideo : s.allocations 1 + (if f.video.all Plane.reuse then 0 else 1) <=
      s.maxAllocationsPerPlane := by
    cases present : f.video with
    | none => simpa using inv.limit ▸ inv.bounded 1
    | some plane => exact blocked_room (video plane present) (inv.limit ▸ inv.bounded 1)
  unfold Session.accept
  dsimp only
  obtain ⟨one, first⟩ := holdPlane_holds s f.primary (s.lastSubmission + 1) 0
  obtain ⟨limit, planes, other, own, second⟩ := holdVideo_holds
    (s.holdPlane f.primary (s.lastSubmission + 1) 0).1 f.video (s.lastSubmission + 1)
  have earlier : ∀ plane, ∀ entry ∈ acceptances (log ++ effects),
      Before entry (s.lastSubmission + 1, plane) := fun _ entry mem =>
    .inl (Nat.lt_succ_of_le (inv.latest entry mem))
  refine ⟨limit.trans (one.limit.trans inv.limit), ?_, ?_, ?_, ?_, ?_⟩
  · intro id held found
    rcases planes id held found with video | ⟨old, found, same⟩
    · omega
    · rcases one.planes id old found with primary | ⟨older, found, same'⟩
      · omega
      · have bound := inv.planes id older found
        omega
  · intro plane
    have limit := inv.limit
    by_cases video : plane = 1
    · subst video
      have before := one.other 1 (by decide)
      exact own.trans (by omega)
    · have after := other plane video
      by_cases primary : plane = 0
      · subst primary
        have grown := one.own
        exact after.trans (by omega)
      · exact after.trans ((one.other plane primary).trans (inv.bounded plane))
  · rw [<- List.append_assoc, <- List.append_assoc, acceptances_append, acceptances_append, first,
      second]
    refine List.pairwise_append.mpr ⟨List.pairwise_append.mpr ⟨inv.increasing, ?_, ?_⟩, ?_, ?_⟩
    · cases f.primary.lease <;> simp
    · intro entry mem next mem'
      obtain ⟨-, -, rfl⟩ := List.mem_map.mp mem'
      exact earlier 0 entry mem
    · cases f.video.bind Plane.lease <;> simp
    · intro entry mem next mem'
      obtain ⟨-, -, rfl⟩ := List.mem_map.mp mem'
      rcases List.mem_append.mp mem with mem | mem
      · exact earlier 1 entry mem
      · obtain ⟨-, -, rfl⟩ := List.mem_map.mp mem
        exact .inr ⟨rfl, rfl, rfl⟩
  · rw [<- List.append_assoc, <- List.append_assoc, acceptances_append, acceptances_append, first,
      second]
    intro entry mem
    rcases List.mem_append.mp mem with mem | mem
    · rcases List.mem_append.mp mem with mem | mem
      · exact (inv.latest entry mem).trans (Nat.le_succ _)
      · obtain ⟨-, -, rfl⟩ := List.mem_map.mp mem
        exact le_rfl
    · obtain ⟨-, -, rfl⟩ := List.mem_map.mp mem
      exact le_rfl
  · have bound := inv.representable
    show s.lastSubmission + 1 < UInt64.size
    omega

theorem submit_submitInv {s : Session} {log : List Effect}
    (inv : SubmitInv maxAllocationsPerPlane s log) (w : W) (f : Frame) :
    SubmitInv maxAllocationsPerPlane (s.submit backend w f).step.session
      (log ++ (s.submit backend w f).step.effects) := by
  unfold Session.submit
  split
  · simpa using inv
  split
  · simpa using inv
  dsimp only
  have polled := inv.shrinks (poll_shrinks backend s w) (poll_accepts backend s w)
  split
  · exact polled
  · rename_i passed
    split
    · exact polled
    · obtain ⟨primary, video, -, -, last⟩ := refusal_none backend passed
      exact accept_inv backend polled _ f _ primary video last

theorem next_submitInv (h : Host W) (op : HostOp W)
    (inv : SubmitInv maxAllocationsPerPlane h.session h.log) :
    SubmitInv maxAllocationsPerPlane (h.next backend op).session (h.next backend op).log := by
  cases op with
  | submit frame => exact submit_submitInv backend inv h.world frame
  | poll => exact inv.shrinks (poll_shrinks backend _ _) (poll_accepts backend _ _)
  | close => exact inv.shrinks (close_shrinks backend _ _) (close_accepts backend _ _)
  | world after => exact inv

def Session.polls (s : Session) (w : W) (f : Frame) : Prop :=
  s.state = .running ∧ f.Valid ∧ backend.supports w f

theorem submit_unpolled (s : Session) (w : W) (f : Frame) (refused : ¬ s.polls backend w f) :
    (s.submit backend w f).step = ⟨s, w, []⟩ /\ (s.submit backend w f).frame = f := by
  unfold Session.submit
  by_cases running : s.state = .running
  · have refused : ¬ f.Valid \/ ¬ backend.supports w f :=
      not_and_or.mp fun both => refused ⟨running, both⟩
    rw [if_neg (not_not.mpr running), if_pos refused]
    exact ⟨rfl, rfl⟩
  · rw [if_pos running]
    exact ⟨rfl, rfl⟩

theorem submit_refused (s : Session) (w : W) (f : Frame) (reached : s.polls backend w f)
    (refused : (s.submit backend w f).result ≠ .accepted) :
    (s.submit backend w f).frame = f /\
      (s.submit backend w f).step.session = (s.poll backend w).session /\
      (s.submit backend w f).step.effects = (s.poll backend w).effects := by
  have supported : ¬ (¬ f.Valid \/ ¬ backend.supports w f) :=
    not_or.mpr ⟨not_not.mpr reached.2.1, not_not.mpr reached.2.2⟩
  unfold Session.submit at refused ⊢
  rw [if_neg (not_not.mpr reached.1), if_neg supported] at refused ⊢
  dsimp only at refused ⊢
  split at refused
  · exact ⟨rfl, rfl, rfl⟩
  · split at refused
    · exact ⟨rfl, rfl, rfl⟩
    · exact absurd rfl refused

structure SubmitSafe (maxAllocationsPerPlane : Nat) (h : Host W) : Prop where
  bounded : ∀ plane, h.session.allocations plane ≤ maxAllocationsPerPlane
  increasing : (acceptances h.log).Pairwise Before
  unpolled : ∀ f, ¬ h.session.polls backend h.world f →
    (h.session.submit backend h.world f).step = ⟨h.session, h.world, []⟩ ∧
      (h.session.submit backend h.world f).frame = f
  refused : ∀ f, h.session.polls backend h.world f →
    (h.session.submit backend h.world f).result ≠ .accepted →
      (h.session.submit backend h.world f).frame = f ∧
      (h.session.submit backend h.world f).step.session =
        (h.session.poll backend h.world).session ∧
      (h.session.submit backend h.world f).step.effects =
        (h.session.poll backend h.world).effects

theorem submit_safe {maxAllocationsPerPlane : Nat} {world : W} {trace : List (Host W × HostOp W)}
    {h : Host W} (run : Trace (Host.step backend) (Host.start maxAllocationsPerPlane world) trace h) :
    SubmitSafe backend maxAllocationsPerPlane h := by
  have initial : SubmitInv maxAllocationsPerPlane (Host.start maxAllocationsPerPlane world).session
      (Host.start maxAllocationsPerPlane world).log :=
    ⟨rfl, by simp [Host.start], by simp [Host.start, Session.allocations], .nil,
      by simp [Host.start, acceptances], by simp [Host.start]⟩
  have preserved : ∀ (h : Host W) (op : HostOp W) (t : Host W),
      SubmitInv maxAllocationsPerPlane h.session h.log → Host.step backend h op t →
      SubmitInv maxAllocationsPerPlane t.session t.log := by
    rintro h op t inv ⟨-, rfl⟩
    exact next_submitInv backend h op inv
  have inv := run.preserves preserved initial
  exact ⟨inv.bounded, inv.increasing, fun f => submit_unpolled backend h.session h.world f,
    fun f => submit_refused backend h.session h.world f⟩

end

theorem submit_safe_returned :
    SubmitSafe scripted 4 (returning.foldl (Host.next scripted) (Host.start 4 {})) := by
  have follows : Follows Host.permitted (Host.next scripted) (Host.start 4 {}) returning :=
    ⟨⟨by decide, by decide⟩, trivial, trivial, trivial, trivial, trivial⟩
  obtain ⟨trace, run, -⟩ := follows.trace
  exact submit_safe scripted run

-- The buffer of the first frame is back, and the next frame has no buffer at all: `Submit` returns
-- before it polls, where a poll would retire the lease.
theorem refused_before_poll :
    ¬ ∀ (trace : List (Host Script × HostOp Script)) (h : Host Script),
      Trace (Host.step scripted) (Host.start 4 {}) trace h →
      ∀ f, (h.session.submit scripted h.world f).result ≠ .accepted →
        (h.session.submit scripted h.world f).step.session.leases =
          (h.session.poll scripted h.world).session.leases := by
  intro every
  have follows : Follows Host.permitted (Host.next scripted) (Host.start 4 {})
      [.submit (webFrame 1 10), .world { events := [⟨1, 10, 0, true, true⟩] }] :=
    ⟨⟨by decide, by decide⟩, trivial, trivial⟩
  obtain ⟨trace, run, -⟩ := follows.trace
  have same := every trace _ run { primary := {} } (by decide +kernel)
  have held := congrArg (fun leases : ExtTreeMap Nat Held => leases[10]?.isSome) same
  exact absurd held (by decide +kernel)

end ChromiumHmos.Overlay
