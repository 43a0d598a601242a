import ChromiumHmos.Ozone.PhoneGpuLeases

set_option autoImplicit false

/-!
# Every generation of the phone GPU channel

A generation waits until the one before it has retired, so at most one receiver works.
-/

namespace ChromiumHmos.Ozone.PhoneGpu

open History Transition

structure Recounted (log : List ChannelEvent) (c : Nat) (conn : Connection) : Prop where
  started : .started c ∈ log ↔ conn.phase ≠ .waiting
  retired : .retired c ∈ log ↔ conn.phase = .retired
  idle : conn.phase = .waiting ∨ conn.phase = .retired → conn.leases = []
  mine : outstanding c log = conn.leases
  older : ∀ lease surface, .granted c lease surface ∈ log →
    lease.packet.lease ≤ conn.lastSequence
  bound : conn.leases.length ≤ 4

structure BrokerInv (s : Browser) : Prop where
  judged : Throughout Judged s.log
  last : s.connections.length = s.current.elim 0 Nat.succ
  predecessor : ∀ c conn, s.connections[c]? = some conn →
    conn.predecessor = if c = 0 then none else some (c - 1)
  order : ∀ c older newer, s.connections[c]? = some older → s.connections[c + 1]? = some newer →
    newer.phase ≠ .waiting → older.phase = .retired
  recounted : ∀ c conn, s.connections[c]? = some conn → Recounted s.log c conn
  outside : ∀ event ∈ s.log, event.connection < s.connections.length

/-- A step, with what it adds to the history. -/
structure Moved (s t : Browser) : Prop where
  inv : BrokerInv t
  grown : ∃ more, t.log = s.log ++ more ∧ ∀ event ∈ more, event.Seen s.registry

variable {c : Nat} {log more : List ChannelEvent}

theorem mem_other {event : ChannelEvent}
    (others : ∀ event ∈ more, event.connection ≠ c) (mine : event.connection = c) :
    event ∈ log ++ more ↔ event ∈ log := by
  rw [List.mem_append, or_iff_left fun mem => others event mem mine]

theorem Recounted.extend {conn : Connection}
    (recounted : Recounted log c conn) (others : ∀ event ∈ more, event.connection ≠ c) :
    Recounted (log ++ more) c conn where
  started := (mem_other others rfl).trans recounted.started
  retired := (mem_other others rfl).trans recounted.retired
  idle := recounted.idle
  mine := (outstanding_other log more others).trans recounted.mine
  older := fun lease surface mem => recounted.older lease surface ((mem_other others rfl).mp mem)
  bound := recounted.bound

namespace BrokerInv

variable {s t : Browser} {c limit : Nat} {conn after : Connection}

theorem retired_before (inv : BrokerInv s) {d : Nat} {newer : Connection}
    (at_newer : s.connections[d]? = some newer) (working : newer.phase ≠ .waiting) :
    ∀ c < d, ∀ older, s.connections[c]? = some older -> older.phase = .retired := by
  induction d generalizing newer with
  | zero =>
    intro c before
    exact absurd before (Nat.not_lt_zero c)
  | succ d ih =>
    have inside : d < s.connections.length :=
      Nat.lt_of_succ_lt (List.getElem?_eq_some_iff.mp at_newer).1
    have at_d := List.getElem?_eq_getElem inside
    have retired := inv.order d _ newer at_d at_newer working
    intro c before older at_older
    rcases Nat.lt_succ_iff_lt_or_eq.mp before with before | rfl
    · exact ih at_d (by simp [retired]) c before older at_older
    · obtain rfl := Option.some.inj (at_d.symm.trans at_older)
      exact retired

theorem alone (inv : BrokerInv s) (found : s.connections[c]? = some conn)
    (started : conn.phase ≠ .waiting) (working : conn.phase ≠ .retired) :
    ∀ other, other ≠ c -> outstanding other s.log = [] := by
  intro other apart
  cases at_other : s.connections[other]? with
  | none =>
    have beyond := List.getElem?_eq_none_iff.mp at_other
    have nothing := outstanding_other (c := other) [] s.log fun event mem =>
      ((inv.outside event mem).trans_le beyond).ne
    exact nothing
  | some conn' =>
    have counted := inv.recounted other conn' at_other
    rw [counted.mine]
    refine counted.idle ?_
    rcases Nat.lt_or_gt_of_ne apart with before | behind
    · exact .inr (inv.retired_before found started other before conn' at_other)
    · by_contra busy
      simp only [not_or] at busy
      exact working (inv.retired_before at_other busy.1 c behind conn found)

theorem working (inv : BrokerInv s) (found : s.connections[c]? = some conn)
    (phase : conn.phase = .serving \/ conn.phase = .leaving) :
    Working c s (conn.lastSequence + 1) s conn := by
  have counted := inv.recounted c conn found
  have started : conn.phase ≠ .waiting := by rcases phase with is | is <;> simp [is]
  have unretired : conn.phase ≠ .retired := by rcases phase with is | is <;> simp [is]
  exact {
    judged := inv.judged
    connections := rfl
    current := rfl
    grown := ⟨[], (List.append_nil _).symm, fun event mem => by cases mem⟩
    started := counted.started.mpr started
    unretired := fun mem => unretired (counted.retired.mp mem)
    alone := inv.alone found started unretired
    mine := counted.mine
    older := fun lease surface mem => Nat.lt_succ_of_le (counted.older lease surface mem)
    bound := counted.bound }

theorem update (inv : BrokerInv s) (found : s.connections[c]? = some conn)
    (connections : t.connections = s.connections.set c after) (current : t.current = s.current)
    (grown : Grown s t c) (judged : Throughout Judged t.log) (recounted : Recounted t.log c after)
    (predecessor : after.predecessor = conn.predecessor)
    (entered : conn.phase = .waiting -> after.phase ≠ .waiting ->
      ∀ older, s.connections[c - 1]? = some older -> c ≠ 0 -> older.phase = .retired)
    (stays : conn.phase = .retired -> after.phase = .retired) : Moved s t := by
  obtain ⟨more, log, own⟩ := grown
  have inside := (List.getElem?_eq_some_iff.mp found).1
  have at_c : t.connections[c]? = some after := by
    rw [connections, List.getElem?_set_self inside]
  have elsewhere : ∀ other, other ≠ c -> t.connections[other]? = s.connections[other]? := by
    intro other apart
    rw [connections, List.getElem?_set_ne fun same => apart same.symm]
  refine ⟨⟨judged, ?_, ?_, ?_, ?_, ?_⟩, more, log, fun event mem => (own event mem).2⟩
  · rw [connections, List.length_set, current]
    exact inv.last
  · intro other conn' at_other
    by_cases same : other = c
    · subst same
      obtain rfl := Option.some.inj (at_c.symm.trans at_other)
      exact predecessor.trans (inv.predecessor other conn found)
    · exact inv.predecessor other conn' ((elsewhere other same).symm.trans at_other)
  · intro d older newer at_older at_newer working
    by_cases same : d = c
    · subst same
      obtain rfl := Option.some.inj (at_c.symm.trans at_older)
      rw [elsewhere _ (Nat.succ_ne_self d)] at at_newer
      exact stays (inv.order d conn newer found at_newer working)
    · rw [elsewhere d same] at at_older
      by_cases next : d + 1 = c
      · subst next
        obtain rfl := Option.some.inj (at_c.symm.trans at_newer)
        by_cases waiting : conn.phase = .waiting
        · exact entered waiting working older at_older (Nat.succ_ne_zero d)
        · exact inv.order d older conn at_older found waiting
      · rw [elsewhere _ next] at at_newer
        exact inv.order d older newer at_older at_newer working
  · intro other conn' at_other
    by_cases same : other = c
    · subst same
      obtain rfl := Option.some.inj (at_c.symm.trans at_other)
      exact recounted
    · rw [log]
      refine (inv.recounted other conn' ((elsewhere other same).symm.trans at_other)).extend ?_
      intro event mem is
      exact same (is.symm.trans (own event mem).1)
  · intro event mem
    rw [log] at mem
    rw [connections, List.length_set]
    rcases List.mem_append.mp mem with mem | mem
    · exact inv.outside event mem
    · exact (own event mem).1 ▸ inside

theorem finish (inv : BrokerInv s) (found : s.connections[c]? = some conn) {limit : Nat}
    (work : Working c s limit t after) (predecessor : after.predecessor = conn.predecessor)
    (phase : conn.phase = .serving) (sequence : limit <= after.lastSequence + 1)
    (still : after.phase = .serving \/ after.phase = .leaving) :
    Moved s (t.setConnection c after) := by
  have started : after.phase ≠ .waiting := by rcases still with is | is <;> simp [is]
  have unretired : after.phase ≠ .retired := by rcases still with is | is <;> simp [is]
  refine inv.update found (congrArg (·.set c after) work.connections) work.current work.grown
    work.judged ?_ predecessor (fun waiting => ?_) fun retired => ?_
  · exact {
      started := iff_of_true work.started started
      retired := iff_of_false work.unretired unretired
      idle := fun settled => by
        rcases settled with is | is
        · exact absurd is started
        · exact absurd is unretired
      mine := work.mine
      older := fun lease surface mem =>
        Nat.le_of_lt_succ ((work.older lease surface mem).trans_le sequence)
      bound := work.bound }
  · rw [phase] at waiting
    cases waiting
  · rw [phase] at retired
    cases retired

theorem leave (inv : BrokerInv s) (found : s.connections[c]? = some conn) {limit : Nat}
    (work : Working c s limit t after) (predecessor : after.predecessor = conn.predecessor)
    (phase : conn.phase = .serving) (sequence : limit <= after.lastSequence + 1) :
    Moved s (t.leave c after) := by
  have left : Working c s limit t { after with phase := .leaving } := { work with }
  exact inv.finish found left predecessor phase sequence (.inr rfl)

theorem reply (work : Working c s limit t after) {p q : SharedPacket} {count : Nat}
    (sequence : q.sequence = p.sequence) (widget : q.widget = p.widget)
    (valid : ValidSharedPacket q count) :
    Working c s limit (t.note (.replied c p q count)) after where
  judged := work.judged.snoc ⟨sequence, widget, valid⟩
  connections := work.connections
  current := work.current
  grown := work.grow rfl trivial
  started := List.mem_append_left _ work.started
  unretired := by simpa [Browser.note] using work.unretired
  alone := fun other apart => (outstanding_snoc other _ _).trans (work.alone other apart)
  mine := (outstanding_snoc c _ _).trans work.mine
  older := fun lease surface mem => work.older lease surface (by simpa [Browser.note] using mem)
  bound := work.bound

theorem receiveRequest (inv : BrokerInv s) (found : s.connections[c]? = some conn)
    (phase : conn.phase = .serving) (m : SharedMessage) (a : RequestAnswers) (sent : Bool) :
    Moved s (s.receiveRequest c conn m a sent) := by
  have work := inv.working found (.inl phase)
  unfold Browser.receiveRequest
  dsimp only
  split
  · exact inv.leave found work rfl phase le_rfl
  next accepted =>
    simp only [not_or, not_not, not_le] at accepted
    obtain ⟨valid, fresh⟩ := accepted
    have received : Working c s m.packet.sequence s { conn with lastSequence := m.packet.sequence } :=
      { work.weaken fresh with }
    have room := Nat.le_succ m.packet.sequence
    split
    · exact inv.leave found received rfl phase room
    next serving =>
      simp only [not_or, not_not] at serving
      split
      · exact inv.leave found received rfl phase room
      next h handled =>
        have served := Browser.handle_served valid received serving.1 rfl a handled
        have predecessor := served.thread.predecessor
        have sequence : m.packet.sequence + 1 <= h.connection.lastSequence + 1 :=
          served.thread.lastSequence.symm ▸ le_rfl
        obtain ⟨same, widget⟩ := timed_ids h.response.packet a.timing
        have passed : ValidSharedPacket (Browser.timed h.response.packet a.timing)
            h.response.fds.length := by
          rw [valid_timed]
          exact served.valid
        have replied := reply served.working (p := m.packet) (same.trans served.sequence)
          (widget.trans served.widget) passed
        split
        · exact inv.finish found replied predecessor phase sequence
            (.inl (served.thread.phase.trans phase))
        · exact inv.leave found replied predecessor phase sequence

theorem receiveFrame (inv : BrokerInv s) (found : s.connections[c]? = some conn)
    (phase : conn.phase = .serving) (frame : Browser.Frame)
    (referenced read presented sent : Bool) :
    Moved s (s.receiveFrame c conn frame referenced read presented sent) := by
  have work := inv.working found (.inl phase)
  unfold Browser.receiveFrame
  dsimp only
  split
  · exact inv.leave found work rfl phase le_rfl
  next fresh =>
    have received : Working c s (frame.sequence + 1) s { conn with lastSequence := frame.sequence } :=
      { work.weaken (Nat.succ_le_succ (not_le.mp fresh).le) with }
    split
    · exact inv.leave found received rfl phase le_rfl
    next serving =>
      simp only [not_or, not_not] at serving
      generalize ((s.acquireSurface frame.widget referenced).filter _) = drawn
      cases drawn with
      | none =>
        have painted : Working c s (frame.sequence + 1) s
            { conn with lastSequence := frame.sequence, presented := conn.presented || (false && presented) } :=
          { received with }
        split
        · exact inv.finish found painted rfl phase le_rfl (.inl phase)
        · exact inv.leave found painted rfl phase le_rfl
      | some surface =>
        have painted : Working c s (frame.sequence + 1) (s.touch c (.draw surface.window))
            { conn with lastSequence := frame.sequence, presented := conn.presented || (true && presented) } :=
          { received.touch (t := .draw surface.window) serving.1 trivial with }
        split
        · exact inv.finish found painted rfl phase le_rfl (.inl phase)
        · exact inv.leave found painted rfl phase le_rfl

theorem detach_all {limit : Nat} (detached : Nat -> Bool) (leases : List Pending) :
    ∀ {t : Browser} {conn : Connection}, Working c s limit t conn -> conn.leases = leases ->
      Working c s limit (leases.foldl (fun t lease =>
        (t.detachLease c lease (detached lease.packet.lease)).note
          (.resolved c lease.packet.lease .aborted)) t) { conn with leases := [] } := by
  induction leases with
  | nil =>
    intro t conn work none
    exact { work with mine := work.mine.trans none, bound := Nat.zero_le 4 }
  | cons lease rest ih =>
    intro t conn work leases
    have sorted := (outstanding_granted work.judged c).1
    rw [work.mine, leases] at sorted
    have erased : rest = (conn.erase lease.packet.lease).leases := by
      simp only [Connection.erase, leases]
      rw [List.filter_cons_of_neg (by simp), List.filter_eq_self.mpr]
      intro other mem
      simpa using ((List.pairwise_cons.mp sorted).1 other mem).ne'
    have gone : Working c s limit _ { conn with leases := rest } :=
      (work.detach lease (detached lease.packet.lease)).resolved .aborted
        (leases ▸ List.mem_cons_self) erased
    exact @ih _ { conn with leases := rest } gone rfl

theorem retire (inv : BrokerInv s) (found : s.connections[c]? = some conn)
    (phase : conn.phase = .leaving) (detached : Nat -> Bool) (cleaned : Bool) :
    Moved s (s.retire c conn detached cleaned) := by
  have work := inv.working found (.inr phase)
  have flagged : Working c s (conn.lastSequence + 1) { s with
      graphiteFailed := s.graphiteFailed || conn.graphiteRequested
      vulkanFailed := s.vulkanFailed ||
        (!conn.graphiteRequested && conn.vulkanRequested && !conn.colorRetry)
      outputColorFailed := s.outputColorFailed || (conn.glColorRequested && !conn.colorRetry) }
      conn := { work with }
  have emptied := detach_all detached conn.leases flagged rfl
  unfold Browser.retire
  dsimp only
  generalize conn.leases.foldl _ _ = u at emptied ⊢
  have judged : Throughout Judged (u.log ++ [.retired c]) := emptied.judged.snoc emptied.mine
  have connections : ∀ after, u.connections.set c after = s.connections.set c after :=
    fun after => by rw [emptied.connections]
  refine inv.update found (connections { conn with
      leases := [], hdrWindows := [], active := false, phase := .retired }) emptied.current (emptied.grow rfl trivial) judged ?_ rfl
    (fun waiting => ?_) fun _ => rfl
  · exact {
      started := iff_of_true (List.mem_append_left _ emptied.started) (by simp)
      retired := iff_of_true (List.mem_append_right _ (List.mem_singleton_self _)) rfl
      idle := fun _ => rfl
      mine := (outstanding_snoc c _ _).trans emptied.mine
      older := fun lease surface mem => by
        rcases List.mem_append.mp mem with mem | mem
        · exact Nat.le_of_lt_succ (emptied.older lease surface mem)
        · cases List.mem_singleton.mp mem
      bound := Nat.zero_le 4 }
  · rw [phase] at waiting
    cases waiting

theorem start (inv : BrokerInv s) (found : s.connections[c]? = some conn)
    (phase : conn.phase = .waiting)
    (handed : ∀ older, conn.predecessor = some older -> s.inPhase older .retired) :
    Moved s ((s.setConnection c { conn with phase := .serving }).note (.started c)) := by
  have counted := inv.recounted c conn found
  have before : c ≠ 0 -> ∀ older, s.connections[c - 1]? = some older -> older.phase = .retired := by
    intro later older at_older
    have predecessor := inv.predecessor c conn found
    rw [if_neg later] at predecessor
    obtain ⟨_, found', retired⟩ := handed _ predecessor
    obtain rfl := Option.some.inj (at_older.symm.trans found')
    exact retired
  have judged : Judged s.log (.started c) := by
    by_cases first : c = 0
    · exact .inl first
    · have inside : c - 1 < s.connections.length :=
        (Nat.sub_le c 1).trans_lt (List.getElem?_eq_some_iff.mp found).1
      have at_older := List.getElem?_eq_getElem inside
      exact .inr ((inv.recounted _ _ at_older).retired.mpr (before first _ at_older))
  refine inv.update found rfl rfl ⟨[.started c], rfl, ?_⟩ (inv.judged.snoc judged) ?_ rfl
    (fun _ _ older at_older later => before later older at_older) fun retired => ?_
  · intro event mem
    rw [List.mem_singleton.mp mem]
    exact ⟨rfl, trivial⟩
  · have unretired : .retired c ∉ s.log := fun mem => by
      rw [counted.retired, phase] at mem
      cases mem
    exact {
      started := iff_of_true (List.mem_append_right _ (List.mem_singleton_self _)) (by simp)
      retired := iff_of_false (by simpa [Browser.note, Browser.setConnection] using unretired)
        (by simp)
      idle := fun settled => by rcases settled with is | is <;> cases is
      mine := (outstanding_snoc c _ _).trans counted.mine
      older := fun lease surface mem => by
        rcases List.mem_append.mp mem with mem | mem
        · exact counted.older lease surface mem
        · cases List.mem_singleton.mp mem
      bound := counted.bound }
  · rw [phase] at retired
    cases retired

theorem adjust (inv : BrokerInv s) (found : s.connections[c]? = some conn)
    (thread : SameThread conn { after with active := conn.active })
    (leases : after.leases = conn.leases) :
    Moved s (s.setConnection c after) := by
  have counted := inv.recounted c conn found
  have phase : after.phase = conn.phase := thread.phase
  refine inv.update found rfl rfl ⟨[], (List.append_nil _).symm, fun event mem => by cases mem⟩
    inv.judged ?_ thread.predecessor (fun waiting started => ?_) fun retired => phase.trans retired
  · exact {
      started := by rw [phase]; exact counted.started
      retired := by rw [phase]; exact counted.retired
      idle := by rw [phase, leases]; exact counted.idle
      mine := counted.mine.trans leases.symm
      older := by
        have same : after.lastSequence = conn.lastSequence := thread.lastSequence
        rw [same]
        exact counted.older
      bound := leases.symm ▸ counted.bound }
  · exact absurd (phase.trans waiting) started

theorem append (inv : BrokerInv s) (connections : t.connections = s.connections ++
      [{ predecessor := s.current }])
    (current : t.current = some s.connections.length) (log : t.log = s.log) : BrokerInv t := by
  have fresh : ∀ event ∈ s.log, event.connection ≠ s.connections.length :=
    fun event mem => (inv.outside event mem).ne
  have nothing : outstanding s.connections.length s.log = [] :=
    outstanding_other [] s.log fresh
  have cases_at : ∀ c conn, t.connections[c]? = some conn ->
      s.connections[c]? = some conn \/
        (c = s.connections.length /\ conn = { predecessor := s.current }) := by
    intro c conn found
    rw [connections] at found
    rcases Nat.lt_trichotomy c s.connections.length with inside | rfl | beyond
    · rw [List.getElem?_append_left inside] at found
      exact .inl found
    · rw [List.getElem?_concat_length] at found
      exact .inr ⟨rfl, (Option.some.inj found).symm⟩
    · rw [List.getElem?_eq_none (by simpa using beyond)] at found
      cases found
  have inside_of : ∀ c conn, s.connections[c]? = some conn -> c < s.connections.length :=
    fun c conn found => (List.getElem?_eq_some_iff.mp found).1
  refine ⟨log ▸ inv.judged, ?_, ?_, ?_, ?_, ?_⟩
  · rw [connections, current, List.length_append]
    rfl
  · intro c conn found
    rcases cases_at c conn found with found | ⟨rfl, rfl⟩
    · exact inv.predecessor c conn found
    · have last := inv.last
      cases is : s.current with
      | none => simp [last, is]
      | some older => simp [last, is]
  · intro c older newer at_older at_newer started
    rcases cases_at (c + 1) newer at_newer with at_newer | ⟨-, rfl⟩
    · rcases cases_at c older at_older with at_older | ⟨rfl, -⟩
      · exact inv.order c older newer at_older at_newer started
      · exact absurd (inside_of _ _ at_newer) (by omega)
    · exact absurd rfl started
  · intro c conn found
    rw [log]
    rcases cases_at c conn found with found | ⟨rfl, rfl⟩
    · exact inv.recounted c conn found
    · exact {
        started := iff_of_false (fun mem => fresh _ mem rfl) (by simp)
        retired := iff_of_false (fun mem => fresh _ mem rfl) (by simp)
        idle := fun _ => rfl
        mine := nothing
        older := fun lease surface mem => absurd rfl (fresh _ mem)
        bound := Nat.zero_le 4 }
  · intro event mem
    rw [log] at mem
    rw [connections, List.length_append]
    exact Nat.lt_succ_of_lt (inv.outside event mem)

theorem launch (inv : BrokerInv s) : Moved s s.launch := by
  have unseen : ∃ more, s.log = s.log ++ more /\ ∀ event ∈ more, event.Seen s.registry :=
    ⟨[], (List.append_nil _).symm, fun event mem => by cases mem⟩
  unfold Browser.launch
  dsimp only
  have last := inv.last
  split
  next nowhere =>
    have none_current : s.current = none := by
      cases is : s.current with
      | none => rfl
      | some c =>
        rw [is] at last nowhere
        rw [Option.bind_some, List.getElem?_eq_getElem (last ▸ Nat.lt_succ_self c)] at nowhere
        cases nowhere
    exact ⟨inv.append (by rw [none_current]) rfl rfl, unseen⟩
  next c conn somewhere =>
    obtain ⟨d, current, paired⟩ := Option.bind_eq_some_iff.mp somewhere
    obtain ⟨held, found, same⟩ := Option.map_eq_some_iff.mp paired
    obtain ⟨rfl, rfl⟩ := Prod.mk.inj same
    have idle : Moved s (s.setConnection d { held with active := false }) :=
      inv.adjust found ⟨rfl, rfl, rfl, rfl⟩ rfl
    refine ⟨idle.inv.append ?_ ?_ rfl, unseen⟩
    · show _ = s.connections.set d _ ++ [{ predecessor := s.current }]
      rw [current]
    · show _ = some (s.connections.set d _).length
      rw [List.length_set]

end BrokerInv

variable {s : Browser}

theorem next_moved (inv : BrokerInv s) (op : ChannelOp) (permitted : s.permitted op) :
    Moved s (s.next op) := by
  have unseen : ∃ more, s.log = s.log ++ more /\ ∀ event ∈ more, event.Seen s.registry :=
    ⟨[], (List.append_nil _).symm, fun event mem => by cases mem⟩
  cases op with
  | launch => exact inv.launch
  | start c =>
    obtain ⟨conn, found, phase, handed⟩ := permitted
    simp only [Browser.next, found]
    exact inv.start found phase handed
  | request c message answers sent =>
    obtain ⟨conn, found, phase⟩ := permitted
    simp only [Browser.next, found]
    exact inv.receiveRequest found phase message answers sent
  | frame c frame referenced read presented sent =>
    obtain ⟨conn, found, phase⟩ := permitted
    simp only [Browser.next, found]
    exact inv.receiveFrame found phase frame referenced read presented sent
  | prune c =>
    obtain ⟨conn, found, phase⟩ := permitted
    simp only [Browser.next, found]
    exact inv.adjust found ⟨rfl, rfl, rfl, rfl⟩ rfl
  | leave c =>
    obtain ⟨conn, found, phase⟩ := permitted
    simp only [Browser.next, found]
    exact inv.leave found (inv.working found (.inl phase)) rfl phase le_rfl
  | retire c detached cleaned =>
    obtain ⟨conn, found, phase⟩ := permitted
    simp only [Browser.next, found]
    exact inv.retire found phase detached cleaned
  | registry after => exact ⟨{ inv with }, unseen⟩
  | outputColorFailed => exact ⟨{ inv with }, unseen⟩

def Browser.Fresh (s : Browser) : Prop := s.connections = [] ∧ s.current = none ∧ s.log = []

theorem fresh_inv (fresh : s.Fresh) : BrokerInv s := by
  obtain ⟨connections, current, log⟩ := fresh
  refine ⟨log ▸ .nil Judged, ?_, ?_, ?_, ?_, ?_⟩
  · simp [connections, current]
  · simp [connections]
  · simp [connections]
  · simp [connections]
  · simp [log]

theorem run_inv {t : Browser} {trace : List (Browser × ChannelOp)} (fresh : s.Fresh)
    (run : Trace Browser.step s trace t) : BrokerInv t :=
  run.preserves (fun s op t inv moved => by
    obtain ⟨permitted, rfl⟩ := moved
    exact (next_moved inv op permitted).inv) (fresh_inv fresh)

theorem few_outstanding (inv : BrokerInv s) :
    ∃ c, (outstanding c s.log).length <= 4 /\ ∀ other, other ≠ c -> outstanding other s.log = [] := by
  by_cases busy : ∃ (c : Nat) (conn : Connection), s.connections[c]? = some conn /\
      conn.phase ≠ .waiting /\ conn.phase ≠ .retired
  · obtain ⟨c, conn, found, started, unretired⟩ := busy
    have counted := inv.recounted c conn found
    exact ⟨c, counted.mine ▸ counted.bound, inv.alone found started unretired⟩
  · have nothing : ∀ c, outstanding c s.log = [] := by
      intro c
      cases found : s.connections[c]? with
      | none =>
        have beyond := List.getElem?_eq_none_iff.mp found
        exact outstanding_other [] s.log fun event mem =>
          ((inv.outside event mem).trans_le beyond).ne
      | some conn =>
        have counted := inv.recounted c conn found
        refine counted.mine.trans (counted.idle ?_)
        by_contra working
        simp only [not_or] at working
        exact busy ⟨c, conn, found, working⟩
    exact ⟨0, nothing 0 ▸ Nat.zero_le 4, fun other _ => nothing other⟩

theorem resolutions_of_granted (judged : Throughout Judged log)
    {lease : Pending} {surface : OhosNativeSurface} (granted : .granted c lease surface ∈ log) :
    log.countP (ChannelEvent.isResolution c lease.packet.lease) +
      ((outstanding c log).countP fun pending => pending.packet.lease = lease.packet.lease) = 1 := by
  obtain ⟨once, balance⟩ := granted_once judged c lease.packet.lease
  have some_grant : 0 < log.countP (ChannelEvent.isGrant c lease.packet.lease) :=
    List.countP_pos_iff.mpr ⟨_, granted, by simp [ChannelEvent.isGrant]⟩
  omega

/-- A grant is resolved once, at the latest when its connection retires. -/
structure ResolvedOnce (log : List ChannelEvent) (c : Nat) (lease : Pending) : Prop where
  balance : log.countP (ChannelEvent.isResolution c lease.packet.lease) +
    ((outstanding c log).countP fun pending => pending.packet.lease = lease.packet.lease) = 1
  retired : .retired c ∈ log → log.countP (ChannelEvent.isResolution c lease.packet.lease) = 1

structure BrokerSafe (s : Browser) : Prop where
  judged : Throughout Judged s.log
  few : ∃ c, (outstanding c s.log).length ≤ 4 ∧ ∀ other, other ≠ c → outstanding other s.log = []
  held : ∀ c conn, s.connections[c]? = some conn → conn.leases = outstanding c s.log
  once : ∀ c lease surface, .granted c lease surface ∈ s.log → ResolvedOnce s.log c lease
  registry : ∀ op t, Browser.step s op t →
    ∃ more, t.log = s.log ++ more ∧ ∀ event ∈ more, event.Seen s.registry

theorem broker_safe {s t : Browser} {trace : List (Browser × ChannelOp)} (fresh : s.Fresh)
    (run : Trace Browser.step s trace t) : BrokerSafe t := by
  have inv := run_inv fresh run
  refine ⟨inv.judged, few_outstanding inv,
    fun c conn found => (inv.recounted c conn found).mine.symm, ?_, ?_⟩
  · intro c lease surface granted
    have balance := resolutions_of_granted inv.judged granted
    refine ⟨balance, fun retired => ?_⟩
    have inside := inv.outside _ retired
    have counted := inv.recounted c _ (List.getElem?_eq_getElem inside)
    rw [counted.mine, counted.idle (.inr (counted.retired.mp retired))] at balance
    exact balance
  · rintro op t ⟨permitted, rfl⟩
    exact (next_moved inv op permitted).grown

-- A window of four by four pixels, bound to widget 1.
def smallWindow : NativeWindowRegistry where
  surfaces := (∅ : Std.ExtTreeMap String SurfaceRecord).insert "window"
    { surface := { window := 7, bounds := { width := 4, height := 4 } }, widget := 1 }
  widgetBindings := (∅ : Std.ExtTreeMap AcceleratedWidget String).insert 1 "window"

def smallBuffer : NativeParcel where
  header := #v[0, 1, 0, 0, 4, 16, 4, 64, 12, 0, 0, 0, 0, 1]
  width := 4
  height := 4
  format := 12
  fds := [30]
  tail := []

def acquireSmall : ChannelOp :=
  .request 0 ⟨{ sequence := 1, widget := 1, width := 4, height := 4 }, []⟩
    { acquire := { request := .buffer none, parcel := some smallBuffer } } true

def presentSmall : ChannelOp :=
  .request 0 ⟨{ operation := .present, sequence := 2, widget := 1, lease := 1 }, []⟩
    { acquire := { request := .failed, parcel := none } } true

def summary : List ChannelEvent → List (Nat × Nat × Option Resolution) :=
  List.filterMap fun event =>
    match event with
    | .granted c lease _ => some (c, lease.packet.lease, none)
    | .resolved c lease how => some (c, lease, some how)
    | _ => none

theorem broker_safe_present :
    ∃ s : Browser, summary s.log = [(0, 1, none), (0, 1, some .presented)] ∧ BrokerSafe s := by
  have follows : Follows Browser.permitted Browser.next { registry := smallWindow }
      [.launch, .start 0, acquireSmall, presentSmall] :=
    ⟨trivial, ⟨_, rfl, rfl, by simp⟩, ⟨_, rfl, rfl⟩, ⟨_, rfl, rfl⟩, trivial⟩
  obtain ⟨trace, run, -⟩ := follows.trace
  exact ⟨_, by decide, broker_safe ⟨rfl, rfl, rfl⟩ run⟩

-- A replaced connection gives back the buffer it held.
theorem replaced_connection_detaches :
    ¬ ∀ (trace : List (Browser × ChannelOp)) (s : Browser),
      Trace Browser.step { registry := smallWindow } trace s →
      ∀ c current touch, .touched c current touch ∈ s.log → current = some c := by
  intro every
  have follows : Follows Browser.permitted Browser.next { registry := smallWindow }
      [.launch, .start 0, acquireSmall, .launch, .leave 0, .retire 0 (fun _ => true) true] :=
    ⟨trivial, ⟨_, rfl, rfl, by simp⟩, ⟨_, rfl, rfl⟩, trivial, ⟨_, rfl, rfl⟩, ⟨_, rfl, rfl⟩, trivial⟩
  obtain ⟨trace, run, -⟩ := follows.trace
  have touched : ∃ touch, .touched 0 (some 1) touch ∈ (List.foldl Browser.next
      { registry := smallWindow }
      [.launch, .start 0, acquireSmall, .launch, .leave 0, .retire 0 (fun _ => true) true]).log :=
    ⟨.detach ⟨{ operation := .buffer, sequence := 1, widget := 1, lease := 1, width := 4, height := 4
                result := 1, fdCount := 1, header := smallBuffer.header }, 7⟩, by decide⟩
  obtain ⟨touch, mem⟩ := touched
  have same := every trace _ run 0 (some 1) touch mem
  cases same

end ChromiumHmos.Ozone.PhoneGpu
