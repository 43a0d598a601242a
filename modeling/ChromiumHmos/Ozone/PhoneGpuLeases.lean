import ChromiumHmos.Lib.History
import ChromiumHmos.Ozone.PhoneGpuChannel

set_option autoImplicit false

/-!
# Leases of the phone GPU channel

The history alone says which leases are outstanding; every event is judged by the events before it.
-/

namespace ChromiumHmos.Ozone.PhoneGpu

open History Transition

variable {p : SharedPacket}

theorem valid_ids {count : Nat} (valid : ValidSharedPacket p count) :
    p.sequence ≠ 0 /\ p.widget ≠ 0 := by
  simp only [ValidSharedPacket, SharedPacket.validHeader, Bool.and_eq_true, decide_eq_true_eq] at valid
  exact ⟨valid.1.2.2.2.1, valid.1.2.2.2.2.1⟩

theorem valid_plain (sequence : p.sequence ≠ 0) (widget : p.widget ≠ 0)
    (operation : p.operation = .reply \/ p.operation = .unavailable)
    (rest : p =
      { sequence := p.sequence, widget := p.widget, lease := p.lease
        operation := p.operation, result := p.result }) (result : p.result <= 2) :
    ValidSharedPacket p 0 := by
  rw [rest]
  rcases operation with same | same <;>
    simp [ValidSharedPacket, SharedPacket.validHeader, SharedPacket.validOperation, same,
      SharedPacket.plain, ValidOhosOutputColor, sequence, widget, result]

theorem Result.code_le (result : Result) : result.code <= 2 := by
  cases result <;> decide

theorem valid_timed (p : SharedPacket) (count : Nat) (timing : Option (Int × Int)) :
    ValidSharedPacket (Browser.timed p timing) count = ValidSharedPacket p count := by
  cases timing <;> rfl

theorem timed_ids (p : SharedPacket) (timing : Option (Int × Int)) :
    (Browser.timed p timing).sequence = p.sequence /\ (Browser.timed p timing).widget = p.widget := by
  cases timing <;> exact ⟨rfl, rfl⟩

theorem encode_some {parcel : Option NativeParcel} {m : SharedMessage}
    (encoded : encode p parcel = some m) :
    ValidSharedPacket m.packet m.fds.length /\ m.packet.fdCount < kSharedMaxFds /\
      m.packet = { p with
        header := m.packet.header, fdCount := m.packet.fdCount, tailBytes := m.packet.tailBytes
        tail := m.packet.tail } := by
  cases parcel with
  | none => cases encoded
  | some parcel =>
    unfold encode at encoded
    dsimp only at encoded
    generalize (if p.operation = .image then p.header[8] else OhosOutputNativeFormat p.color) =
      nativeFormat at encoded
    split at encoded
    · cases encoded
    next schema =>
      split at encoded
      next valid =>
        obtain rfl := Option.some.inj encoded
        refine ⟨valid, ?_, rfl⟩
        simp only [not_or] at schema
        have bound := schema.2.1
        simp only [kSharedMaxFds] at bound ⊢
        omega
      · cases encoded

theorem valid_fence {count : Nat} (valid : ValidSharedPacket p count)
    (buffer : p.operation = .buffer) (fence : p.hasFence = 0) (room : p.fdCount < kSharedMaxFds) :
    ValidSharedPacket { p with hasFence := 1 } (count + 1) := by
  simp only [ValidSharedPacket, SharedPacket.validHeader, SharedPacket.validOperation, buffer,
    fence, Bool.and_eq_true, decide_eq_true_eq, SharedPacket.validBuffer] at valid ⊢
  obtain ⟨⟨magic, color, generation, sequence, widget, -, fds, -, same, rest⟩, operation⟩ := valid
  refine ⟨⟨magic, color, generation, sequence, widget, le_rfl, fds, ?_, ?_, rest⟩, ?_⟩
  · simp only [kSharedMaxFds] at room ⊢
    omega
  · omega
  · simpa using operation

theorem acquireBuffer_acquired {ready : Bool} {a : AcquireAnswers}
    {m : SharedMessage} (buffer : p.operation = .buffer) (fence : p.hasFence = 0)
    (acquired : acquireBuffer ready p a = .acquired m) :
    ValidSharedPacket m.packet m.fds.length /\ m.packet.sequence = p.sequence /\
      m.packet.widget = p.widget /\ m.packet.lease = p.lease /\ m.packet.width = p.width /\
      m.packet.height = p.height /\ m.packet.color = p.color /\
      m.packet.colorGeneration = p.colorGeneration := by
  simp only [acquireBuffer] at acquired
  split at acquired
  · cases acquired
  · split at acquired
    · cases acquired
    · cases acquired
    next given _ =>
      split at acquired
      · cases acquired
      next m' encoded =>
        obtain ⟨encoded, -⟩ := Option.filter_eq_some_iff.mp encoded
        obtain ⟨valid, room, same⟩ := encode_some encoded
        have kept : m'.packet.operation = .buffer /\ m'.packet.hasFence = 0 := by
          rw [same]
          exact ⟨buffer, fence⟩
        have fields : m'.packet.sequence = p.sequence /\ m'.packet.widget = p.widget /\
            m'.packet.lease = p.lease /\ m'.packet.width = p.width /\
            m'.packet.height = p.height /\ m'.packet.color = p.color /\
            m'.packet.colorGeneration = p.colorGeneration := by
          rw [same]
          exact ⟨rfl, rfl, rfl, rfl, rfl, rfl, rfl⟩
        split at acquired
        · obtain rfl := AcquireResult.acquired.inj acquired
          exact ⟨valid, fields⟩
        · obtain rfl := AcquireResult.acquired.inj acquired
          refine ⟨?_, fields⟩
          rw [List.length_append]
          exact valid_fence valid kept.1 kept.2 room

def settle (c : Nat) (leases : List Pending) : ChannelEvent → List Pending
  | .granted connection lease _ => if connection = c then leases ++ [lease] else leases
  | .resolved connection id _ =>
    if connection = c then leases.filter fun pending => pending.packet.lease ≠ id else leases
  | _ => leases

def ChannelEvent.connection : ChannelEvent → Nat
  | .started c | .touched c .. | .granted c .. | .resolved c .. | .replied c .. | .retired c => c

def outstanding (c : Nat) (log : List ChannelEvent) : List Pending := log.foldl (settle c) []

theorem outstanding_snoc (c : Nat) (log : List ChannelEvent) (event : ChannelEvent) :
    outstanding c (log ++ [event]) = settle c (outstanding c log) event := by
  rw [outstanding, List.foldl_append]
  rfl

theorem outstanding_other {c : Nat} (log more : List ChannelEvent)
    (others : ∀ event ∈ more, event.connection ≠ c) :
    outstanding c (log ++ more) = outstanding c log := by
  induction more using List.reverseRecOn with
  | nil => rw [List.append_nil]
  | append_singleton rest event ih =>
    have apart := others event (by simp)
    rw [<- List.append_assoc, outstanding_snoc,
      ih fun other mem => others other (List.mem_append_left _ mem)]
    cases event with
    | granted connection lease surface => exact if_neg apart
    | resolved connection id how => exact if_neg apart
    | _ => rfl

/-- What was recorded when the lease was granted is what the request and the registry say. -/
structure Matches (lease : Pending) (p : SharedPacket) (surface : OhosNativeSurface)
    (active : Option ColorState) : Prop where
  widget : p.widget = lease.packet.widget
  color : p.color = lease.packet.color
  generation : p.colorGeneration = lease.packet.colorGeneration
  current : p.colorGeneration = 0 ∨ ∃ state, active = some state ∧
    state.generation = p.colorGeneration
  window : surface.window = lease.window
  width : surface.bounds.width = lease.packet.width
  height : surface.bounds.height = lease.packet.height

/-- Only the current connection uses window buffers, but for the leases one gives back. -/
def TouchAllowed (before : List ChannelEvent) (c : Nat) (current : Option Nat) : Touch → Prop
  | .detach _ => .retired c ∉ before
  | .flush lease p surface color =>
    current = some c ∧ lease ∈ outstanding c before ∧ Matches lease p surface color
  | .requestBuffer _ | .abort _ | .draw _ => current = some c

/-- A flushed buffer's surface is the registry's. -/
def Touch.Seen (registry : NativeWindowRegistry) : Touch → Prop
  | .flush _ p surface _ => registry.get (UInt32.ofNat p.widget) = some surface
  | _ => True

def ChannelEvent.Seen (registry : NativeWindowRegistry) : ChannelEvent → Prop
  | .touched _ _ touch => touch.Seen registry
  | _ => True

/-- What a grant records: the request, and the window and its size in the registry. -/
structure Recorded (lease : Pending) (surface : OhosNativeSurface) : Prop where
  id : lease.packet.lease = lease.packet.sequence
  window : surface.window = lease.window
  width : surface.bounds.width = lease.packet.width
  height : surface.bounds.height = lease.packet.height

def Judged (before : List ChannelEvent) : ChannelEvent → Prop
  | .started c => c = 0 ∨ .retired (c - 1) ∈ before
  | .touched c current touch => .started c ∈ before ∧ TouchAllowed before c current touch
  | .granted c lease surface => .started c ∈ before ∧ Recorded lease surface ∧
      (outstanding c before).length < 4 ∧ (∀ other, other ≠ c → outstanding other before = []) ∧
      ∀ older seen, .granted c older seen ∈ before → older.packet.lease < lease.packet.lease
  | .resolved c id _ => ∃ lease ∈ outstanding c before, lease.packet.lease = id
  | .replied _ request reply count =>
    reply.sequence = request.sequence ∧ reply.widget = request.widget ∧
      ValidSharedPacket reply count
  | .retired c => outstanding c before = []

variable {log : List ChannelEvent}

theorem outstanding_granted (judged : Throughout Judged log) (c : Nat) :
    (outstanding c log).Pairwise (fun older newer => older.packet.lease < newer.packet.lease) /\
      ∀ lease ∈ outstanding c log, ∃ surface, .granted c lease surface ∈ log := by
  induction log using List.reverseRecOn with
  | nil => exact ⟨.nil, fun lease mem => by cases mem⟩
  | append_singleton log event ih =>
    obtain ⟨old, new⟩ := throughout_snoc.mp judged
    obtain ⟨sorted, granted⟩ := ih old
    have kept : ∀ lease ∈ outstanding c log, ∃ surface, .granted c lease surface ∈ log ++ [event] :=
      fun lease mem => (granted lease mem).imp fun surface mem => List.mem_append_left _ mem
    rw [outstanding_snoc]
    cases event with
    | granted connection lease surface =>
      rw [settle]
      split
      next same =>
        subst same
        obtain ⟨-, -, -, -, newest⟩ := new
        refine ⟨List.pairwise_append.mpr ⟨sorted, List.pairwise_singleton _ _, ?_⟩, ?_⟩
        · intro older mem last is
          obtain rfl := List.mem_singleton.mp is
          obtain ⟨seen, mem⟩ := granted older mem
          exact newest older seen mem
        · intro other mem
          rcases List.mem_append.mp mem with mem | mem
          · exact kept other mem
          · obtain rfl := List.mem_singleton.mp mem
            exact ⟨surface, List.mem_append_right _ (List.mem_singleton_self _)⟩
      · exact ⟨sorted, kept⟩
    | resolved connection id how =>
      rw [settle]
      split
      · exact ⟨sorted.filter _, fun lease mem => kept lease (List.mem_of_mem_filter mem)⟩
      · exact ⟨sorted, kept⟩
    | _ => exact ⟨sorted, kept⟩

def ChannelEvent.isGrant (c id : Nat) : ChannelEvent → Bool
  | .granted connection lease _ => connection = c ∧ lease.packet.lease = id
  | _ => false

def ChannelEvent.isResolution (c id : Nat) : ChannelEvent → Bool
  | .resolved connection lease _ => connection = c ∧ lease = id
  | _ => false

theorem no_grant {c id : Nat}
    (newest : ∀ older seen, .granted c older seen ∈ log -> older.packet.lease < id) :
    log.countP (ChannelEvent.isGrant c id) = 0 := by
  refine List.countP_eq_zero.mpr fun event mem => ?_
  cases event with
  | granted connection lease surface =>
    simp only [ChannelEvent.isGrant, decide_eq_true_eq, not_and]
    rintro rfl same
    exact (newest lease surface mem).ne same
  | _ => exact Bool.false_ne_true

theorem granted_once (judged : Throughout Judged log) (c id : Nat) :
    log.countP (ChannelEvent.isGrant c id) <= 1 /\
      log.countP (ChannelEvent.isGrant c id) =
        log.countP (ChannelEvent.isResolution c id) +
          (outstanding c log).countP fun lease => lease.packet.lease = id := by
  induction log using List.reverseRecOn with
  | nil => exact ⟨Nat.zero_le 1, rfl⟩
  | append_singleton log event ih =>
    obtain ⟨old, new⟩ := throughout_snoc.mp judged
    obtain ⟨once, balance⟩ := ih old
    rw [outstanding_snoc]
    simp only [List.countP_append, List.countP_singleton]
    cases event with
    | granted connection lease surface =>
      simp only [ChannelEvent.isGrant, ChannelEvent.isResolution, settle, decide_eq_true_eq]
      by_cases same : connection = c
      · subst same
        by_cases mine : lease.packet.lease = id
        · have fresh := no_grant (mine ▸ new.2.2.2.2)
          simp [mine, fresh]
          omega
        · simpa [mine] using ⟨once, balance⟩
      · simpa [same] using ⟨once, balance⟩
    | resolved connection lease how =>
      simp only [ChannelEvent.isGrant, ChannelEvent.isResolution, settle, decide_eq_true_eq]
      by_cases same : connection = c
      · subst same
        by_cases mine : lease = id
        · subst mine
          have held : 0 < (outstanding connection log).countP fun pending =>
              pending.packet.lease = lease := by
            obtain ⟨pending, mem, is⟩ := new
            exact List.countP_pos_iff.mpr ⟨pending, mem, by simpa using is⟩
          simp [List.countP_filter]
          omega
        · simp [mine, List.countP_filter]
          refine ⟨once, balance.trans (congrArg _ (List.countP_congr fun pending _ => ?_))⟩
          grind
      · simpa [same] using ⟨once, balance⟩
    | _ => simpa [ChannelEvent.isGrant, ChannelEvent.isResolution, settle] using ⟨once, balance⟩

def Grown (base s : Browser) (c : Nat) : Prop :=
  ∃ more, s.log = base.log ++ more ∧
    ∀ event ∈ more, event.connection = c ∧ event.Seen base.registry

/-- `base` is the system as the receiver found it, `limit` bounds the ids given out. -/
structure Working (c : Nat) (base : Browser) (limit : Nat) (s : Browser)
    (conn : Connection) : Prop where
  judged : Throughout Judged s.log
  connections : s.connections = base.connections
  current : s.current = base.current
  grown : Grown base s c
  started : .started c ∈ s.log
  unretired : .retired c ∉ s.log
  alone : ∀ other, other ≠ c → outstanding other s.log = []
  mine : outstanding c s.log = conn.leases
  older : ∀ lease surface, .granted c lease surface ∈ s.log → lease.packet.lease < limit
  bound : conn.leases.length ≤ 4

namespace Working

variable {c limit : Nat} {base : Browser} {s : Browser} {conn : Connection}

theorem grow (work : Working c base limit s conn) {event : ChannelEvent}
    (mine : event.connection = c) (seen : event.Seen base.registry) :
    Grown base (s.note event) c := by
  obtain ⟨more, log, all⟩ := work.grown
  refine ⟨more ++ [event], ?_, ?_⟩
  · rw [<- List.append_assoc, <- log]
    rfl
  · intro other mem
    rcases List.mem_append.mp mem with mem | mem
    · exact all other mem
    · rw [List.mem_singleton.mp mem]
      exact ⟨mine, seen⟩

theorem touch (work : Working c base limit s conn) {t : Touch}
    (allowed : TouchAllowed s.log c s.current t) (seen : t.Seen base.registry) : Working c base limit (s.touch c t) conn where
  judged := work.judged.snoc ⟨work.started, allowed⟩
  connections := work.connections
  current := work.current
  grown := work.grow rfl seen
  started := List.mem_append_left _ work.started
  unretired := by simpa [Browser.touch, Browser.note] using work.unretired
  alone := fun other apart => (outstanding_snoc other _ _).trans (work.alone other apart)
  mine := (outstanding_snoc c _ _).trans work.mine
  older := fun lease surface mem => work.older lease surface (by simpa [Browser.touch, Browser.note] using mem)
  bound := work.bound

theorem detach (work : Working c base limit s conn) (lease : Pending) (detached : Bool) :
    Working c base limit (s.detachLease c lease detached) conn :=
  touch (s := { s with allocatorReady := s.allocatorReady && detached }) { work with }
    work.unretired trivial

theorem grant (work : Working c base limit s conn) {lease : Pending} {surface : OhosNativeSurface}
    (recorded : Recorded lease surface) (room : conn.leases.length < 4)
    (id : lease.packet.lease = limit) {granted : Connection}
    (leases : granted.leases = conn.leases ++ [lease]) :
    Working c base (limit + 1) (s.note (.granted c lease surface)) granted where
  judged := work.judged.snoc ⟨work.started, recorded, by rw [work.mine]; exact room, work.alone,
    fun older seen mem => id ▸ work.older older seen mem⟩
  connections := work.connections
  current := work.current
  grown := work.grow rfl trivial
  started := List.mem_append_left _ work.started
  unretired := by simpa [Browser.note] using work.unretired
  alone := by
    intro other apart
    rw [Browser.note, outstanding_snoc, settle, if_neg fun same => apart same.symm]
    exact work.alone other apart
  mine := by
    rw [Browser.note, outstanding_snoc, settle, if_pos rfl, work.mine, leases]
  older := by
    intro other seen mem
    rcases List.mem_append.mp mem with mem | mem
    · exact Nat.lt_succ_of_lt (work.older other seen mem)
    · obtain ⟨-, rfl, -⟩ := ChannelEvent.granted.inj (List.mem_singleton.mp mem)
      exact id ▸ Nat.lt_succ_self _
  bound := by
    rw [leases, List.length_append, List.length_singleton]
    omega

theorem resolved (work : Working c base limit s conn) {lease : Pending} (how : Resolution)
    (held : lease ∈ conn.leases) {rest : Connection}
    (leases : rest.leases = (conn.erase lease.packet.lease).leases) :
    Working c base limit (s.note (.resolved c lease.packet.lease how)) rest where
  judged := work.judged.snoc ⟨lease, work.mine ▸ held, rfl⟩
  connections := work.connections
  current := work.current
  grown := work.grow rfl trivial
  started := List.mem_append_left _ work.started
  unretired := by simpa [Browser.note] using work.unretired
  alone := by
    intro other apart
    rw [Browser.note, outstanding_snoc, settle, if_neg fun same => apart same.symm]
    exact work.alone other apart
  mine := by
    rw [Browser.note, outstanding_snoc, settle, if_pos rfl, work.mine, leases]
    rfl
  older := fun older seen mem => work.older older seen (by simpa [Browser.note] using mem)
  bound := by
    rw [leases]
    exact (List.length_filter_le _ _).trans work.bound

theorem weaken (work : Working c base limit s conn) {higher : Nat} (le : limit <= higher) :
    Working c base higher s conn :=
  { work with older := fun lease surface mem => (work.older lease surface mem).trans_le le }

end Working

structure SameThread (conn after : Connection) : Prop where
  predecessor : after.predecessor = conn.predecessor
  active : after.active = conn.active
  phase : after.phase = conn.phase
  lastSequence : after.lastSequence = conn.lastSequence

theorem SameThread.refl (conn : Connection) : SameThread conn conn := ⟨rfl, rfl, rfl, rfl⟩

structure Served (c : Nat) (base : Browser) (conn : Connection) (p : SharedPacket)
    (h : Browser.Handled) : Prop where
  working : Working c base (p.sequence + 1) h.browser h.connection
  thread : SameThread conn h.connection
  sequence : h.response.packet.sequence = p.sequence
  widget : h.response.packet.widget = p.widget
  valid : ValidSharedPacket h.response.packet h.response.fds.length

namespace Browser

variable {c : Nat} {base : Browser} {s : Browser} {conn after : Connection}
  {p : SharedPacket} {count : Nat}

theorem answer_served (valid : ValidSharedPacket p count)
    (work : Working c base (p.sequence + 1) s after) (thread : SameThread conn after)
    (result : Result) : Served c base conn p (s.answer after p result) := by
  obtain ⟨sequence, widget⟩ := valid_ids valid
  exact ⟨work, thread, rfl, rfl, valid_plain sequence widget (.inl rfl) rfl result.code_le⟩

theorem presented_served (valid : ValidSharedPacket p count)
    (work : Working c base (p.sequence + 1) s after) (thread : SameThread conn after) :
    Served c base conn p (s.answer { after with presented := true } p .presented) :=
  have shown : Working c base (p.sequence + 1) s { after with presented := true } := { work with }
  answer_served valid shown
    ⟨thread.predecessor, thread.active, thread.phase, thread.lastSequence⟩ .presented

theorem unavailable_served (valid : ValidSharedPacket p count)
    (work : Working c base (p.sequence + 1) s after) (thread : SameThread conn after)
    (lease : Nat) (result : Result) :
    Served c base conn p ⟨s, after,
      ⟨{ sequence := p.sequence, widget := p.widget, lease, operation := .unavailable
         result := result.code }, []⟩⟩ := by
  obtain ⟨sequence, widget⟩ := valid_ids valid
  exact ⟨work, thread, rfl, rfl, valid_plain sequence widget (.inr rfl) rfl result.code_le⟩

theorem openOverlayChannel_served (valid : ValidSharedPacket p count)
    (operation : p.operation = .openOverlayChannel)
    (work : Working c base (p.sequence + 1) s conn) (a : RequestAnswers) :
    Served c base conn p (s.openOverlayChannel conn p a) := by
  obtain ⟨sequence, widget⟩ := valid_ids valid
  unfold openOverlayChannel
  split
  · exact unavailable_served valid work (.refl conn) p.lease .failed
  next fd _ =>
    refine ⟨{ work with }, ⟨rfl, rfl, rfl, rfl⟩, rfl, rfl, ?_⟩
    simp only [ValidSharedPacket, SharedPacket.validHeader, SharedPacket.validOperation, operation,
      Bool.and_eq_true, decide_eq_true_eq] at valid
    have lease := valid.2.2.2.1
    simp [ValidSharedPacket, SharedPacket.validHeader, SharedPacket.validOperation, startReply,
      ValidOhosOutputColor, SharedPacket.unsized, kSharedMaxFds, sequence, widget, lease]

theorem allocateImage_served (valid : ValidSharedPacket p count)
    (work : Working c base (p.sequence + 1) s conn) (a : RequestAnswers) :
    Served c base conn p (s.allocateImage conn p a) := by
  unfold allocateImage
  split
  next m allocated =>
    simp only [allocateSharedImage] at allocated
    split at allocated
    · cases allocated
    · split at allocated
      · cases allocated
      · obtain ⟨passed, -, same⟩ := encode_some allocated
        exact ⟨work, .refl conn, by rw [same], by rw [same], passed⟩
  · exact unavailable_served valid work (.refl conn) 0 .failed

theorem refuseBuffer_served (valid : ValidSharedPacket p count)
    (work : Working c base (p.sequence + 1) s after) (thread : SameThread conn after)
    (retry : Bool) : Served c base conn p (s.refuseBuffer after p retry) := by
  have noted (failed : Bool) : Working c base (p.sequence + 1)
      { s with outputColorFailed := s.outputColorFailed || failed } after := { work with }
  exact unavailable_served valid (noted _) thread 0 _

theorem setColor_same (set : Prop) [Decidable set] (conn : Connection) (widget : Nat)
    (state : ColorState) :
    (if set then conn.setColor widget state else conn).leases = conn.leases /\
      SameThread conn (if set then conn.setColor widget state else conn) := by
  split
  · exact ⟨rfl, rfl, rfl, rfl, rfl⟩
  · exact ⟨rfl, .refl conn⟩

variable {limit : Nat}

theorem giveBack_working (work : Working c base limit s conn)
    (current : s.current = some c) (q : SharedPacket) (window : Window) (a : RequestAnswers) :
    Working c base limit (s.giveBack c q window a) conn := by
  have aborted := work.touch (t := .abort window) current trivial
  unfold giveBack
  dsimp only
  split
  · exact { aborted with }
  · exact { aborted.detach ⟨q, window⟩ (a.detached q.lease) with }

theorem takeBuffer_served (valid : ValidSharedPacket p count)
    (work : Working c base p.sequence s conn) (current : s.current = some c)
    {surface : OhosNativeSurface} (probe : Bool) (allowed : s.allocates conn p surface probe)
    (a : RequestAnswers) : Served c base conn p (s.takeBuffer c conn p surface probe a) := by
  simp only [allocates, decide_eq_true_eq] at allowed
  obtain ⟨room, -, width, height, -, -, -, sized⟩ := allowed
  unfold takeBuffer
  dsimp only
  generalize s.prepare conn surface.window p.widget p.color (conn.noPending p.widget) a.cleaned =
    prepared
  obtain ⟨hdrWindows, ok, clean⟩ := prepared
  dsimp only
  have ready : Working c base p.sequence { s with allocatorReady := s.allocatorReady && clean }
      { conn with hdrWindows } := { work with }
  have thread : SameThread conn { conn with hdrWindows } := ⟨rfl, rfl, rfl, rfl⟩
  split
  · exact refuseBuffer_served valid (ready.weaken (Nat.le_succ _)) thread false
  · have requested : ∀ requests : Prop, [Decidable requests] -> Working c base p.sequence
        (if requests then
          { s with allocatorReady := s.allocatorReady && clean }.touch c (.requestBuffer surface.window)
        else { s with allocatorReady := s.allocatorReady && clean }) { conn with hdrWindows } := by
      intro requests _
      split
      · exact ready.touch current trivial
      · exact ready
    have same : ∀ requests : Prop, [Decidable requests] ->
        (if requests then
          { s with allocatorReady := s.allocatorReady && clean }.touch c (.requestBuffer surface.window)
        else { s with allocatorReady := s.allocatorReady && clean }).current = some c := by
      intro requests _
      split <;> exact current
    split
    next m acquired =>
      obtain ⟨passed, sequence, widget, lease, w, h, -, -⟩ :=
        acquireBuffer_acquired (p := bufferReply p surface probe) rfl rfl acquired
      have recorded : Recorded ⟨m.packet, surface.window⟩ surface := by
        refine ⟨lease.trans sequence.symm, rfl, ?_, ?_⟩
        · show surface.bounds.width = (m.packet.width : Int)
          rw [w]
          cases probe with
          | true => exact (Int.toNat_of_nonneg width.le).symm
          | false => exact (sized.resolve_left (by simp)).1
        · show surface.bounds.height = (m.packet.height : Int)
          rw [h]
          cases probe with
          | true => exact (Int.toNat_of_nonneg height.le).symm
          | false => exact (sized.resolve_left (by simp)).2
      obtain ⟨leases, colored⟩ := setColor_same (probe = true \/ p.colorGeneration ≠ 0)
        { conn with hdrWindows } p.widget
        ⟨p.color, (bufferReply p surface probe).colorGeneration, surface.window⟩
      refine ⟨(requested _).grant recorded room lease ?_, ?_, sequence, widget, passed⟩
      · exact congrArg (· ++ [_]) leases
      · exact ⟨colored.predecessor, colored.active, colored.phase, colored.lastSequence⟩
    · exact refuseBuffer_served valid ((requested _).weaken (Nat.le_succ _)) thread _
    next taken _ =>
      refine refuseBuffer_served valid ?_ thread false
      split
      · exact (giveBack_working (requested _) (same _) _ _ a).weaken (Nat.le_succ _)
      · exact (requested _).weaken (Nat.le_succ _)

theorem waitSurface_working (work : Working c base limit s conn) (p : SharedPacket)
    (a : RequestAnswers) : Working c base limit (s.waitSurface p a) conn /\
      (s.waitSurface p a).current = s.current := by
  unfold waitSurface
  dsimp only
  split
  · exact ⟨{ work with }, rfl⟩
  · exact ⟨work, rfl⟩

theorem acquire_served (valid : ValidSharedPacket p count)
    (work : Working c base p.sequence s conn) (current : s.current = some c) (a : RequestAnswers) :
    Served c base conn p (s.acquire c conn p a) := by
  obtain ⟨ready, same⟩ := waitSurface_working work p a
  unfold acquire
  dsimp only
  generalize (if s.allocatorReady then Result.dropped else Result.failed) = first
  generalize s.waitSurface p a = waited at ready same ⊢
  have refused (result : Result) :=
    unavailable_served valid (ready.weaken (Nat.le_succ p.sequence)) (.refl conn) p.lease result
  split
  · exact refused _
  · split
    · exact refused _
    · split
      · exact refused _
      · split
        · exact refused _
        next allowed =>
          exact takeBuffer_served valid ready (same.trans current) _ (by simpa using allowed) a

variable {lease : Pending}

theorem resolveLease_working (work : Working c base limit s conn)
    (held : lease ∈ conn.leases) (how : Resolution) (done : Bool) (a : RequestAnswers) :
    Working c base limit (s.resolveLease c conn lease how done a).1
      (s.resolveLease c conn lease how done a).2 /\
    SameThread conn (s.resolveLease c conn lease how done a).2 := by
  refine ⟨?_, rfl, rfl, rfl, rfl⟩
  unfold resolveLease
  dsimp only
  split
  · exact work.resolved how held rfl
  · exact (work.detach lease _).resolved how held rfl

theorem lease_mem {id : Nat} (found : conn.lease id = some lease) :
    lease ∈ conn.leases := List.mem_of_find?_eq_some found

theorem any_active {generation : Nat} {active : Option ColorState}
    (found : (active.any fun state => state.generation = generation) = true) :
    ∃ state, active = some state /\ state.generation = generation := by
  cases active with
  | none => cases found
  | some state => exact ⟨state, rfl, by simpa using found⟩

theorem presentLease_served (valid : ValidSharedPacket p count)
    (work : Working c base p.sequence s conn) (current : s.current = some c)
    (registry : s.registry = base.registry)
    (held : lease ∈ conn.leases) (widget : lease.packet.widget = p.widget) (a : RequestAnswers) :
    Served c base conn p (s.presentLease c conn p lease a) := by
  have later := work.weaken (Nat.le_succ p.sequence)
  unfold presentLease
  split
  · obtain ⟨resolved, thread⟩ := resolveLease_working later held .discarded false a
    exact answer_served valid resolved thread .dropped
  next surface seen =>
    obtain ⟨taken, still⟩ := Option.filter_eq_some_iff.mp seen
    obtain ⟨known, -⟩ := Option.filter_eq_some_iff.mp taken
    simp only [leaseCurrent, decide_eq_true_eq] at still
    obtain ⟨generation, color, same, window, width, height⟩ := still
    have matched : Matches lease p surface (conn.colors p.widget) :=
      ⟨widget.symm, color, same, generation.imp_right any_active, window, width, height⟩
    have flushed := later.touch (t := .flush lease p surface (conn.colors p.widget))
      ⟨current, later.mine ▸ held, matched⟩ (registry ▸ known)
    dsimp only
    split
    · obtain ⟨resolved, thread⟩ := resolveLease_working flushed held .presented true a
      exact presented_served valid resolved thread
    · obtain ⟨resolved, thread⟩ := resolveLease_working flushed held .discarded false a
      exact answer_served valid resolved thread .failed

theorem resolve_served (valid : ValidSharedPacket p count)
    (work : Working c base p.sequence s conn) (current : s.current = some c)
    (registry : s.registry = base.registry) (a : RequestAnswers)
    {h : Handled} (handled : s.resolve c conn p a = some h) : Served c base conn p h := by
  have later := work.weaken (Nat.le_succ p.sequence)
  unfold resolve at handled
  split at handled
  · cases handled
  next lease found =>
    obtain ⟨found, widget⟩ := Option.filter_eq_some_iff.mp found
    have held := lease_mem found
    split at handled
    · obtain rfl := Option.some.inj handled
      have aborted := later.touch (t := .abort lease.window) current trivial
      obtain ⟨resolved, thread⟩ := resolveLease_working aborted held .cancelled a.aborted a
      exact answer_served valid resolved thread .dropped
    · split at handled
      · obtain rfl := Option.some.inj handled
        obtain ⟨resolved, thread⟩ := resolveLease_working later held .discarded false a
        exact answer_served valid resolved thread .dropped
      · obtain rfl := Option.some.inj handled
        exact presentLease_served valid work current registry held (by simpa using widget) a

theorem hdrDisplayState_served (valid : ValidSharedPacket p count)
    (operation : p.operation = .hdrDisplayQuery)
    (work : Working c base (p.sequence + 1) s conn) (displayId : Nat) (result : Result) :
    Served c base conn p ⟨s, conn, ⟨{ startReply p with
      operation := .hdrDisplayState, displayId, result := result.code }, []⟩⟩ := by
  obtain ⟨sequence, widget⟩ := valid_ids valid
  simp only [ValidSharedPacket, SharedPacket.validHeader, SharedPacket.validOperation, operation,
    Bool.and_eq_true, decide_eq_true_eq] at valid
  have lease := valid.2.2.1
  refine ⟨work, .refl conn, rfl, rfl, ?_⟩
  simp [ValidSharedPacket, SharedPacket.validHeader, SharedPacket.validOperation, startReply,
    ValidOhosOutputColor, SharedPacket.unsized, SharedPacket.plain, kSharedMaxFds, sequence, widget,
    lease, result.code_le]

theorem handle_served (valid : ValidSharedPacket p count)
    (work : Working c base p.sequence s conn) (current : s.current = some c)
    (registry : s.registry = base.registry) (a : RequestAnswers)
    {h : Handled} (handled : s.handle c conn p a = some h) : Served c base conn p h := by
  have later := work.weaken (Nat.le_succ p.sequence)
  have flagged (after : Connection) (leases : after.leases = conn.leases)
      (thread : SameThread conn after) (result : Result) :
      Served c base conn p (s.answer after p result) :=
    answer_served valid
      { later with mine := later.mine.trans leases.symm, bound := leases ▸ later.bound } thread result
  unfold handle at handled
  split at handled
  next operation =>
    obtain rfl := Option.some.inj handled
    exact openOverlayChannel_served valid operation later a
  · split at handled
    · obtain rfl := Option.some.inj handled
      exact presented_served valid later (.refl conn)
    · cases handled
  · obtain rfl := Option.some.inj handled
    exact allocateImage_served valid later a
  · obtain rfl := Option.some.inj handled
    exact acquire_served valid work current a
  · obtain rfl := Option.some.inj handled
    exact acquire_served valid work current a
  · exact resolve_served valid work current registry a handled
  · exact resolve_served valid work current registry a handled
  · exact resolve_served valid work current registry a handled
  · obtain rfl := Option.some.inj handled
    exact flagged conn rfl (.refl conn) _
  next operation =>
    obtain rfl := Option.some.inj handled
    exact hdrDisplayState_served valid operation later _ _
  · split at handled
    · obtain rfl := Option.some.inj handled
      exact flagged { conn with glColorRequested := true } rfl ⟨rfl, rfl, rfl, rfl⟩ .presented
    · obtain rfl := Option.some.inj handled
      exact flagged conn rfl (.refl conn) .dropped
  · split at handled
    · obtain rfl := Option.some.inj handled
      exact flagged { conn with graphiteRequested := true } rfl ⟨rfl, rfl, rfl, rfl⟩ .presented
    · obtain rfl := Option.some.inj handled
      exact flagged conn rfl (.refl conn) .dropped
  · split at handled
    · obtain rfl := Option.some.inj handled
      exact flagged { conn with vulkanRequested := true } rfl ⟨rfl, rfl, rfl, rfl⟩ .presented
    · obtain rfl := Option.some.inj handled
      exact flagged conn rfl (.refl conn) .dropped
  · obtain rfl := Option.some.inj handled
    have failed : Working c base (p.sequence + 1) { s with outputColorFailed := true }
        { conn with colorRetry := true } := { later with }
    have thread : SameThread conn { conn with colorRetry := true } := ⟨rfl, rfl, rfl, rfl⟩
    exact answer_served valid failed thread .dropped
  · obtain rfl := Option.some.inj handled
    have failed : Working c base (p.sequence + 1) { s with vulkanFailed := true } conn :=
      { later with }
    exact answer_served valid failed (.refl conn) .dropped
  · obtain rfl := Option.some.inj handled
    exact flagged conn rfl (.refl conn) .dropped
  all_goals cases handled

end Browser

end ChromiumHmos.Ozone.PhoneGpu
