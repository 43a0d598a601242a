import ChromiumHmos.Services.SerialIo

set_option autoImplicit false

/-!
# Bytes of the serial port

The reads of a port and its writes are kept the same way. A reply ends the transfer that is pending only
where its command is the one sent for it.
-/

namespace ChromiumHmos.Services

open Transition Base Lib

structure TransferCommand (P : Type) where
  closes : Nat
  generation : Nat
  id : Nat
  payload : P

namespace Transfers

variable {P : Type} {payload : Transfer -> P} {s : Transfers} {closes : Nat} {entries rest : List (TransferCommand P)}
  {entry : TransferCommand P}

/-- Each transfer is pending or completed, once. -/
def Once (s : Transfers) : Prop :=
  Accounted (s.pending.toList.map fun transfer => transfer.id) (s.completed.map fun done => done.id) s.given

theorem Once.begin (once : s.Once) (free : s.pending = none) (buffer : List Nat) : (s.begin buffer).Once := by
  have given := once.give
  simpa [Once, Transfers.begin, free] using given

theorem Once.complete (once : s.Once) (bytes : List Nat) (count : Nat) (error : SerialError) :
    (s.complete bytes count error).Once := by
  unfold Transfers.complete
  split
  next => exact once
  next transfer is =>
    have split : Accounted ([transfer.id] ++ []) (s.completed.map fun done => done.id) s.given := by
      simpa [Once, is] using once
    have called := split.call
    simpa [Once] using called

structure Kept (payload : Transfer -> P) (s : Transfers) (closes : Nat) (entries : List (TransferCommand P)) : Prop where
  once : s.Once
  known : forall entry, entry ∈ entries -> entry.generation <= s.generation ∧
    (entry.generation = s.generation -> forall transfer, s.pending = some transfer ->
      entry = ⟨closes, s.generation, transfer.id, payload transfer⟩)
  waits : forall transfer, s.pending = some transfer ->
    ⟨closes, s.generation, transfer.id, payload transfer⟩ ∈ entries

theorem kept_initial : Kept payload {} closes [] where
  once := accounted_none
  known := fun _ member => absurd member List.not_mem_nil
  waits := fun _ is => absurd is (by simp)

theorem Kept.perm (kept : Kept payload s closes entries) (same : entries.Perm rest) : Kept payload s closes rest where
  once := kept.once
  known := fun entry member => kept.known entry (same.mem_iff.mpr member)
  waits := fun transfer is => same.mem_iff.mp (kept.waits transfer is)

theorem Kept.begin (kept : Kept payload s closes entries) (free : s.pending = none) (buffer : List Nat) :
    Kept payload (s.begin buffer).turn closes
      (entries ++ [⟨closes, s.generation + 1, s.given, payload ⟨s.given, buffer⟩⟩]) where
  once := kept.once.begin free buffer
  known := by
    intro entry member
    rcases List.mem_append.mp member with before | new
    · have early := (kept.known entry before).1
      exact ⟨early.trans (Nat.le_succ _), fun late => absurd (late ▸ early) (Nat.not_succ_le_self _)⟩
    · obtain rfl := List.mem_singleton.mp new
      refine ⟨le_refl _, fun _ transfer is => ?_⟩
      obtain rfl := Option.some.inj is
      rfl
  waits := by
    intro transfer is
    obtain rfl := Option.some.inj is
    exact List.mem_append_right _ (List.mem_singleton_self _)

theorem complete_pending (bytes : List Nat) (count : Nat) (error : SerialError) :
    (s.complete bytes count error).pending = none := by
  unfold complete
  split
  next none_there => exact none_there
  next => rfl

theorem complete_generation (bytes : List Nat) (count : Nat) (error : SerialError) :
    (s.complete bytes count error).generation = s.generation := by
  unfold complete
  split <;> rfl

theorem Kept.complete (kept : Kept payload s closes entries) (bytes : List Nat) (count : Nat) (error : SerialError) :
    Kept payload (s.complete bytes count error) closes entries where
  once := kept.once.complete bytes count error
  known := by
    intro entry member
    rw [complete_generation, complete_pending]
    exact ⟨(kept.known entry member).1, fun _ _ is => absurd is (by simp)⟩
  waits := by
    rw [complete_pending]
    exact fun _ is => absurd is (by simp)

theorem Kept.refused (kept : Kept payload s closes entries) (free : s.pending = none) (buffer : List Nat)
    (error : SerialError) : Kept payload ((s.begin buffer).complete [] 0 error) closes entries where
  once := (kept.once.begin free buffer).complete [] 0 error
  known := by
    intro entry member
    rw [complete_generation, complete_pending]
    exact ⟨(kept.known entry member).1, fun _ _ is => absurd is (by simp)⟩
  waits := by
    rw [complete_pending]
    exact fun _ is => absurd is (by simp)

theorem Kept.turn (kept : Kept payload s closes entries) (free : s.pending = none) (after : Nat) :
    Kept payload s.turn after entries where
  once := kept.once
  known := fun entry member =>
    ⟨(kept.known entry member).1.trans (Nat.le_succ _), fun _ _ is => absurd (free.symm.trans is) (by simp)⟩
  waits := fun _ is => absurd (free.symm.trans is) (by simp)

theorem Kept.closed (kept : Kept payload s closes entries) (free : s.pending = none) (after : Nat) :
    Kept payload s after entries where
  once := kept.once
  known := fun entry member => ⟨(kept.known entry member).1, fun _ _ is => absurd (free.symm.trans is) (by simp)⟩
  waits := fun _ is => absurd (free.symm.trans is) (by simp)

theorem cancel_pending (error : SerialError) : (s.cancel error).pending = none := by
  unfold cancel
  split
  next => exact complete_pending ..
  next free => simpa using free

theorem Kept.cancel (kept : Kept payload s closes entries) (error : SerialError) :
    Kept payload (s.cancel error) closes entries := by
  unfold Transfers.cancel
  split
  next =>
    have turned : Once s.turn := kept.once
    refine ⟨turned.complete [] 0 error, fun entry member => ?_, ?_⟩
    · rw [complete_generation, complete_pending]
      exact ⟨(kept.known entry member).1.trans (Nat.le_succ _), fun _ _ is => absurd is (by simp)⟩
    · rw [complete_pending]
      exact fun _ is => absurd is (by simp)
  next => exact kept

theorem Kept.other (kept : Kept payload s closes entries) (removed : entries.Perm (entry :: rest))
    (other : s.pending = none \/ entry.generation ≠ s.generation) : Kept payload s closes rest where
  once := kept.once
  known := fun before member => kept.known before (removed.mem_iff.mpr (List.mem_cons_of_mem _ member))
  waits := by
    intro transfer is
    rcases List.mem_cons.mp (removed.mem_iff.mp (kept.waits transfer is)) with own | there
    · rcases other with free | apart
      · exact absurd (free.symm.trans is) (by simp)
      · exact absurd (congrArg TransferCommand.generation own).symm apart
    · exact there

theorem Kept.removed (kept : Kept payload s closes entries) (removed : entries.Perm (entry :: rest)) (bytes : List Nat)
    (count : Nat) (error : SerialError) : Kept payload (s.complete bytes count error) closes rest :=
  (kept.complete bytes count error).other removed (.inl (complete_pending ..))

end Transfers

namespace SerialPort

open Transfers

variable {s : SerialPort}

def readEntry : Nat × SerialCommand -> Option (TransferCommand Nat)
  | (closes, .serialRead generation id size) => some ⟨closes, generation, id, size⟩
  | _ => none

def writeEntry : Nat × SerialCommand -> Option (TransferCommand (List Nat))
  | (closes, .serialWrite generation id data) => some ⟨closes, generation, id, data⟩
  | _ => none

def readSize (transfer : Transfer) : Nat := min transfer.buffer.length 8192

def writePart (transfer : Transfer) : List Nat := transfer.buffer.take 4096

structure Opens (s : SerialPort) : Prop where
  single : s.commands.countP (fun command => command.2 = .serialOpen) = if s.handler.opening then 1 else 0
  current : forall closes, (closes, .serialOpen) ∈ s.commands -> closes = s.closes
  shut : s.handler.opening = true -> s.handler.isOpen = false

def Idle (s : SerialPort) : Prop :=
  s.handler.isOpen = false -> s.handler.reads.pending = none ∧ s.handler.writes.pending = none

structure Written (s : SerialPort) : Prop where
  counted : s.buffers.length = s.handler.writes.given
  order : (s.sent.map Prod.fst).Sublist (List.range s.buffers.length)
  part : forall entry, entry ∈ s.sent -> exists buffer, s.buffers[entry.1]? = some buffer ∧ entry.2 = buffer.take 4096
  commanded : forall entry, entry ∈ s.commands.filterMap writeEntry -> (entry.id, entry.payload) ∈ s.sent
  accepted : forall entry, entry ∈ s.accepted -> exists data, (entry.1, data) ∈ s.sent ∧ entry.2 <= data.length
  reported : forall done, done ∈ s.handler.writes.completed -> 0 < done.count ->
    exists count, (done.id, count) ∈ s.accepted ∧ done.count <= count

structure Sane (s : SerialPort) : Prop where
  reads : Kept readSize s.handler.reads s.closes (s.commands.filterMap readEntry)
  writes : Kept writePart s.handler.writes s.closes (s.commands.filterMap writeEntry)
  opens : Opens s
  idle : Idle s
  delivered : s.handler.reads.completed.flatMap (fun done => done.bytes) = s.returned
  written : Written s

theorem sane_initial (portId : Int) : Sane { handler := { portId } } where
  reads := kept_initial
  writes := kept_initial
  opens := ⟨rfl, fun _ member => absurd member List.not_mem_nil, fun _ => rfl⟩
  idle := fun _ => ⟨rfl, rfl⟩
  delivered := rfl
  written := {
    counted := rfl
    order := .refl _
    part := fun _ member => absurd member List.not_mem_nil
    commanded := fun _ member => absurd member List.not_mem_nil
    accepted := fun _ member => absurd member List.not_mem_nil
    reported := fun _ member => absurd member List.not_mem_nil }

theorem complete_bytes (s : Transfers) (count : Nat) (error : SerialError) :
    (s.complete [] count error).completed.flatMap (fun done => done.bytes) =
      s.completed.flatMap fun done => done.bytes := by
  unfold complete
  split <;> simp

theorem cancel_bytes (s : Transfers) (error : SerialError) :
    (s.cancel error).completed.flatMap (fun done => done.bytes) = s.completed.flatMap fun done => done.bytes := by
  unfold cancel
  split
  next => exact complete_bytes s.turn 0 error
  next => rfl

def Reported (accepted : List (Nat × Nat)) (s : Transfers) : Prop :=
  forall done, done ∈ s.completed -> 0 < done.count -> exists count, (done.id, count) ∈ accepted ∧ done.count <= count

theorem Reported.complete {accepted : List (Nat × Nat)} {s : Transfers} (reported : Reported accepted s)
    (bytes : List Nat) (count : Nat) (error : SerialError)
    (own : ∀ transfer, s.pending = some transfer -> 0 < count ->
      ∃ whole, (transfer.id, whole) ∈ accepted /\ count <= whole) :
    Reported accepted (s.complete bytes count error) := by
  unfold Transfers.complete
  split
  next => exact reported
  next transfer is =>
    intro done member positive
    rcases List.mem_append.mp member with before | new
    · exact reported done before positive
    · obtain rfl := List.mem_singleton.mp new
      exact own transfer is positive

theorem Reported.cancel {accepted : List (Nat × Nat)} {s : Transfers} (reported : Reported accepted s)
    (error : SerialError) : Reported accepted (s.cancel error) := by
  unfold Transfers.cancel
  split
  next =>
    have turned : Reported accepted s.turn := reported
    exact turned.complete [] 0 error fun _ _ positive => absurd positive (Nat.lt_irrefl 0)
  next => exact reported

theorem complete_given (s : Transfers) (bytes : List Nat) (count : Nat) (error : SerialError) :
    (s.complete bytes count error).given = s.given := by
  unfold complete
  split <;> rfl

theorem cancel_given (s : Transfers) (error : SerialError) : (s.cancel error).given = s.given := by
  unfold cancel
  split
  next => exact complete_given ..
  next => rfl

variable {command : SerialCommand}

theorem Opens.more (opens : Opens s) (no_open : command ≠ .serialOpen) {t : SerialPort}
    (commands : t.commands = s.commands ++ [(s.closes, command)]) (closes : t.closes = s.closes)
    (opening : t.handler.opening = s.handler.opening) (isOpen : t.handler.isOpen = true -> s.handler.isOpen = true) :
    Opens t where
  single := by
    rw [commands, opening, List.countP_append, opens.single]
    simp [no_open]
  current := by
    intro before member
    rw [commands] at member
    rw [closes]
    rcases List.mem_append.mp member with there | new
    · exact opens.current before there
    · exact absurd (Prod.mk.inj (List.mem_singleton.mp new)).2.symm no_open
  shut := by
    rw [opening]
    intro is
    have closed := opens.shut is
    cases open_now : t.handler.isOpen with
    | false => rfl
    | true => exact absurd (closed.symm.trans (isOpen open_now)) Bool.false_ne_true

theorem post_sane (sane : Sane s) (no_read : readEntry (s.closes, command) = none)
    (no_write : writeEntry (s.closes, command) = none) (no_open : command ≠ .serialOpen) : Sane (s.post command) := by
  have reads : (s.commands ++ [(s.closes, command)]).filterMap readEntry = s.commands.filterMap readEntry := by
    simp [no_read]
  have writes : (s.commands ++ [(s.closes, command)]).filterMap writeEntry = s.commands.filterMap writeEntry := by
    simp [no_write]
  exact {
    reads := reads.symm ▸ sane.reads
    writes := writes.symm ▸ sane.writes
    opens := sane.opens.more no_open rfl rfl rfl id
    idle := sane.idle
    delivered := sane.delivered
    written := { sane.written with commanded := fun entry member => sane.written.commanded entry (writes ▸ member) } }

theorem openPort_sane (sane : Sane s) (ctsFlowControl : Bool) (resting : s.handler.opening = false) :
    Sane (s.openImpl ctsFlowControl) := by
  unfold openImpl
  split
  next => exact sane
  next closed =>
    have single := sane.opens.single
    simp only [resting, Bool.false_eq_true, if_false] at single
    have reads : (s.commands ++ [(s.closes, SerialCommand.serialOpen)]).filterMap readEntry =
        s.commands.filterMap readEntry := by simp [readEntry]
    have writes : (s.commands ++ [(s.closes, SerialCommand.serialOpen)]).filterMap writeEntry =
        s.commands.filterMap writeEntry := by simp [writeEntry]
    have shut : s.handler.isOpen = false := by
      simp only [Bool.or_eq_true, not_or, Bool.not_eq_true] at closed
      exact closed.1.2
    exact {
      reads := reads.symm ▸ sane.reads
      writes := writes.symm ▸ sane.writes
      opens := {
        single := by simp [post, List.countP_append, single]
        current := fun closes member => by
          rcases List.mem_append.mp member with before | new
          · exact sane.opens.current closes before
          · exact (Prod.mk.inj (List.mem_singleton.mp new)).1
        shut := fun _ => shut }
      idle := sane.idle
      delivered := sane.delivered
      written := { sane.written with commanded := fun entry member => sane.written.commanded entry (writes ▸ member) } }

theorem read_sane (sane : Sane s) (buffer : List Nat) (free : s.handler.reads.pending = none) : Sane (s.read buffer) := by
  unfold read
  dsimp only
  split
  next is_open =>
    have writes : (s.commands ++ [(s.closes, SerialCommand.serialRead (s.handler.reads.generation + 1)
        s.handler.reads.given (min buffer.length 8192))]).filterMap writeEntry = s.commands.filterMap writeEntry := by
      simp [writeEntry]
    exact {
      reads := by
        have begun := sane.reads.begin free buffer
        simpa [post, readEntry, readSize, Transfers.begin] using begun
      writes := writes.symm ▸ sane.writes
      opens := sane.opens.more (by simp) rfl rfl rfl id
      idle := fun closed => absurd (closed.symm.trans is_open) Bool.false_ne_true
      delivered := sane.delivered
      written := { sane.written with commanded := fun entry member => sane.written.commanded entry (writes ▸ member) } }
  next closed =>
    have shut : s.handler.isOpen = false := by simpa using closed
    exact {
      reads := sane.reads.refused free buffer .disconnected
      writes := sane.writes
      opens := ⟨sane.opens.single, sane.opens.current, sane.opens.shut⟩
      idle := fun _ => ⟨complete_pending .., (sane.idle shut).2⟩
      delivered := (complete_bytes _ 0 .disconnected).trans sane.delivered
      written := { sane.written with } }

theorem Written.given (written : Written s) {t : SerialPort} (buffer : List Nat)
    (given : t.handler.writes.given = s.handler.writes.given + 1) (reported : Reported s.accepted t.handler.writes)
    (buffers : t.buffers = s.buffers ++ [buffer]) (accepted : t.accepted = s.accepted)
    (sent : t.sent = s.sent \/ t.sent = s.sent ++ [(s.handler.writes.given, buffer.take 4096)])
    (commanded : ∀ entry, entry ∈ t.commands.filterMap writeEntry -> (entry.id, entry.payload) ∈ t.sent) :
    Written t where
  counted := by
    rw [given, buffers, List.length_append, written.counted, List.length_singleton]
  order := by
    have more : List.range t.buffers.length = List.range s.buffers.length ++ [s.buffers.length] := by
      rw [buffers, List.length_append, List.length_singleton, List.range_succ]
    rw [more]
    rcases sent with unsent | sent
    · rw [unsent]
      exact written.order.trans (List.sublist_append_left _ _)
    · rw [sent, List.map_append, <- written.counted]
      exact written.order.append (.refl _)
  part := by
    have earlier (entry : Nat × List Nat) (member : entry ∈ s.sent) :
        ∃ buffer, t.buffers[entry.1]? = some buffer /\ entry.2 = buffer.take 4096 := by
      obtain ⟨whole, there, part⟩ := written.part entry member
      obtain ⟨inside, -⟩ := List.getElem?_eq_some_iff.mp there
      refine ⟨whole, ?_, part⟩
      rw [buffers, List.getElem?_append_left inside]
      exact there
    intro entry member
    rcases sent with unsent | sent
    · exact earlier entry (unsent ▸ member)
    · rw [sent] at member
      rcases List.mem_append.mp member with before | new
      · exact earlier entry before
      · obtain rfl := List.mem_singleton.mp new
        refine ⟨buffer, ?_, rfl⟩
        rw [buffers, <- written.counted]
        simp
  commanded := commanded
  accepted := by
    intro entry member
    obtain ⟨data, there, bound⟩ := written.accepted entry (accepted ▸ member)
    refine ⟨data, ?_, bound⟩
    rcases sent with unsent | sent
    · exact unsent.symm ▸ there
    · exact sent.symm ▸ List.mem_append_left _ there
  reported := by
    rw [accepted]
    exact reported

theorem write_sane (sane : Sane s) (buffer : List Nat) (free : s.handler.writes.pending = none) :
    Sane (s.write buffer) := by
  have unsent : Reported s.accepted (s.handler.writes.begin buffer) := sane.written.reported
  unfold write
  dsimp only
  split
  next is_open =>
    have reads : (s.commands ++ [(s.closes, SerialCommand.serialWrite (s.handler.writes.generation + 1)
        s.handler.writes.given (buffer.take 4096))]).filterMap readEntry = s.commands.filterMap readEntry := by
      simp [readEntry]
    refine {
      reads := reads.symm ▸ sane.reads
      writes := ?_
      opens := sane.opens.more (by simp) rfl rfl rfl id
      idle := fun closed => absurd (closed.symm.trans is_open) Bool.false_ne_true
      delivered := sane.delivered
      written := sane.written.given buffer rfl unsent rfl rfl (.inr rfl) fun entry member => ?_ }
    · have begun := sane.writes.begin free buffer
      simpa [post, writeEntry, writePart, Transfers.begin] using begun
    · simp only [post, List.filterMap_append, writeEntry] at member
      rcases List.mem_append.mp member with before | new
      · exact List.mem_append_left _ (sane.written.commanded entry before)
      · obtain rfl := List.mem_singleton.mp new
        exact List.mem_append_right _ (List.mem_singleton_self _)
  next closed =>
    have shut : s.handler.isOpen = false := by simpa using closed
    exact {
      reads := sane.reads
      writes := sane.writes.refused free buffer .disconnected
      opens := ⟨sane.opens.single, sane.opens.current, sane.opens.shut⟩
      idle := fun _ => ⟨(sane.idle shut).1, complete_pending ..⟩
      delivered := sane.delivered
      written := sane.written.given buffer (complete_given ..)
        (unsent.complete [] 0 .disconnected fun _ _ positive => absurd positive (Nat.lt_irrefl 0)) rfl rfl (.inl rfl)
        sane.written.commanded }

theorem cancelRead_sane (sane : Sane s) (error : SerialError) : Sane (s.cancelRead error) where
  reads := sane.reads.cancel error
  writes := sane.writes
  opens := ⟨sane.opens.single, sane.opens.current, sane.opens.shut⟩
  idle := fun shut => ⟨cancel_pending error, (sane.idle shut).2⟩
  delivered := (cancel_bytes _ error).trans sane.delivered
  written := { sane.written with }

theorem cancelWrite_sane (sane : Sane s) (error : SerialError) : Sane (s.cancelWrite error) := by
  have reported : Reported s.accepted s.handler.writes := sane.written.reported
  exact {
    reads := sane.reads
    writes := sane.writes.cancel error
    opens := ⟨sane.opens.single, sane.opens.current, sane.opens.shut⟩
    idle := fun shut => ⟨(sane.idle shut).1, cancel_pending error⟩
    delivered := sane.delivered
    written := { sane.written with
      counted := sane.written.counted.trans (cancel_given _ error).symm
      reported := reported.cancel error } }

theorem closed_sane (sane : Sane s) (reads : s.handler.reads.pending = none) (writes : s.handler.writes.pending = none)
    (resting : s.handler.opening = false) (after : Nat) : Sane { s with closes := after } := by
  have single := sane.opens.single
  simp only [resting, Bool.false_eq_true, if_false] at single
  exact {
    reads := sane.reads.closed reads after
    writes := sane.writes.closed writes after
    opens := {
      single := sane.opens.single
      current := fun closes member => absurd (by simp) (List.countP_eq_zero.mp single _ member)
      shut := sane.opens.shut }
    idle := sane.idle
    delivered := sane.delivered
    written := { sane.written with } }

theorem closeImpl_sane (sane : Sane s) (reads : s.handler.reads.pending = none)
    (writes : s.handler.writes.pending = none) : Sane s.closeImpl := by
  have turned : Sane { s with handler := { s.handler with
      isOpen := false, reads := s.handler.reads.turn, writes := s.handler.writes.turn } } := {
    reads := sane.reads.turn reads s.closes
    writes := sane.writes.turn writes s.closes
    opens := ⟨sane.opens.single, sane.opens.current, fun _ => rfl⟩
    idle := fun _ => ⟨reads, writes⟩
    delivered := sane.delivered
    written := { sane.written with } }
  exact post_sane turned rfl rfl (by simp)

theorem close_sane (sane : Sane s) (resting : s.handler.opening = false) : Sane s.close := by
  unfold close
  dsimp only
  split
  next =>
    have cancelled := cancelWrite_sane (cancelRead_sane sane .disconnected) .disconnected
    have closed := closed_sane cancelled (cancel_pending _) (cancel_pending _) resting (s.closes + 1)
    exact closeImpl_sane closed (cancel_pending _) (cancel_pending _)
  next closed =>
    obtain ⟨reads, writes⟩ := sane.idle (by simpa using closed)
    exact closed_sane sane reads writes resting (s.closes + 1)

section Reply

variable {closes : Nat} {command : SerialCommand} {rest : List (Nat × SerialCommand)}

theorem Opens.taken (opens : Opens s) (removed : s.commands.Perm ((closes, command) :: rest))
    (no_open : command ≠ .serialOpen) {t : SerialPort} (commands : t.commands = rest) (same : t.closes = s.closes)
    (opening : t.handler.opening = s.handler.opening) (isOpen : t.handler.isOpen = s.handler.isOpen) : Opens t where
  single := by
    have count := removed.countP_eq (fun command => command.2 = .serialOpen)
    rw [commands, opening, <- opens.single, count]
    simp [no_open]
  current := fun before member => by
    rw [same]
    exact opens.current before (removed.mem_iff.mpr (List.mem_cons_of_mem _ (commands ▸ member)))
  shut := by
    rw [opening, isOpen]
    exact opens.shut

theorem Written.taken (written : Written s) (removed : s.commands.Perm ((closes, command) :: rest)) {t : SerialPort}
    (commands : t.commands = rest) (buffers : t.buffers = s.buffers) (sent : t.sent = s.sent)
    (given : t.handler.writes.given = s.handler.writes.given) (reported : Reported t.accepted t.handler.writes)
    (accepted : ∀ entry ∈ t.accepted, entry ∈ s.accepted \/
      ∃ data, (entry.1, data) ∈ s.sent /\ entry.2 <= data.length) : Written t where
  counted := by rw [buffers, given, written.counted]
  order := by rw [sent, buffers]; exact written.order
  part := by rw [sent, buffers]; exact written.part
  commanded := fun entry member => by
    rw [sent]
    refine written.commanded entry ((removed.filterMap writeEntry).mem_iff.mpr ?_)
    rw [commands] at member
    obtain ⟨command, there, is⟩ := List.mem_filterMap.mp member
    exact List.mem_filterMap.mpr ⟨command, List.mem_cons_of_mem _ there, is⟩
  accepted := fun entry member => by
    rw [sent]
    exact (accepted entry member).elim (written.accepted entry) id
  reported := reported

theorem removed_sane (sane : Sane s) (removed : s.commands.Perm ((closes, command) :: rest))
    (no_read : readEntry (closes, command) = none) (no_write : writeEntry (closes, command) = none)
    (no_open : command ≠ .serialOpen) : Sane { s with commands := rest } := by
  have reads := removed.filterMap readEntry
  have writes := removed.filterMap writeEntry
  rw [List.filterMap_cons_none no_read] at reads
  rw [List.filterMap_cons_none no_write] at writes
  exact {
    reads := sane.reads.perm reads
    writes := sane.writes.perm writes
    opens := sane.opens.taken removed no_open rfl rfl rfl rfl
    idle := sane.idle
    delivered := sane.delivered
    written := sane.written.taken removed rfl rfl rfl rfl sane.written.reported fun _ => .inl }

theorem opened_sane (sane : Sane s) (removed : s.commands.Perm ((closes, .serialOpen) :: rest)) (isOpen : Bool) :
    Sane { s with commands := rest, handler := { s.handler with isOpen, opening := false } } := by
  have reads := removed.filterMap readEntry
  have writes := removed.filterMap writeEntry
  rw [List.filterMap_cons_none rfl] at reads
  rw [List.filterMap_cons_none rfl] at writes
  have count := removed.countP_eq (fun command => command.2 = .serialOpen)
  rw [List.countP_cons_of_pos (by simp), sane.opens.single] at count
  have opening : s.handler.opening = true := by
    by_contra resting
    simp [resting] at count
  have none_left : rest.countP (fun command => command.2 = .serialOpen) = 0 := by
    rw [opening, if_pos rfl] at count
    omega
  exact {
    reads := sane.reads.perm reads
    writes := sane.writes.perm writes
    opens := {
      single := none_left
      current := fun before member => sane.opens.current before (removed.mem_iff.mpr (List.mem_cons_of_mem _ member))
      shut := fun is => absurd is Bool.false_ne_true }
    idle := fun _ => sane.idle (sane.opens.shut opening)
    delivered := sane.delivered
    written := sane.written.taken removed rfl rfl rfl rfl sane.written.reported fun _ => .inl }

variable {generation id size : Nat} {data : List Nat}

theorem reads_taken (removed : s.commands.Perm ((closes, .serialRead generation id size) :: rest)) :
    (s.commands.filterMap readEntry).Perm (⟨closes, generation, id, size⟩ :: rest.filterMap readEntry) :=
  removed.filterMap readEntry

theorem writes_taken (removed : s.commands.Perm ((closes, .serialWrite generation id data) :: rest)) :
    (s.commands.filterMap writeEntry).Perm (⟨closes, generation, id, data⟩ :: rest.filterMap writeEntry) :=
  removed.filterMap writeEntry

theorem answeredRead_sane (sane : Sane s) (removed : s.commands.Perm ((closes, .serialRead generation id size) :: rest))
    {reads : Transfers} {extra : List Nat} (kept : Kept readSize reads s.closes (rest.filterMap readEntry))
    (bytes : reads.completed.flatMap (fun done => done.bytes) = s.returned ++ extra)
    (free : s.handler.reads.pending = none -> reads.pending = none) :
    Sane { s with commands := rest, handler := { s.handler with reads }, returned := s.returned ++ extra } := by
  have writes := removed.filterMap writeEntry
  rw [List.filterMap_cons_none rfl] at writes
  exact {
    reads := kept
    writes := sane.writes.perm writes
    opens := sane.opens.taken removed (by simp) rfl rfl rfl rfl
    idle := fun shut => ⟨free (sane.idle shut).1, (sane.idle shut).2⟩
    delivered := bytes
    written := sane.written.taken removed rfl rfl rfl rfl sane.written.reported fun _ => .inl }

theorem copied {items : List Value} (bytes : items.all (fun item => match item with
      | .int value => 0 <= value && value <= 255
      | _ => false) = true) {buffer : List Nat} (room : items.length <= buffer.length) :
    List.zipWith copyByte buffer items = items.map (copyByte 0) := by
  induction items generalizing buffer with
  | nil => simp
  | cons item items ih =>
    obtain ⟨first, others⟩ := Bool.and_eq_true_iff.mp bytes
    cases buffer with
    | nil => exact absurd room (Nat.not_succ_le_zero _)
    | cons byte buffer =>
      rw [List.zipWith_cons_cons, List.map_cons, ih others (Nat.le_of_succ_le_succ room)]
      cases item with
      | int value => rfl
      | _ => cases first

variable {response : DictValue}

theorem completedRead_sane (sane : Sane s) (removed : s.commands.Perm ((closes, .serialRead generation id size) :: rest))
    {transfer : Transfer} (is : s.handler.reads.pending = some transfer) (own : generation = s.handler.reads.generation) (fit : fits response (.serialRead generation id size) = true) :
    closes = s.closes /\
      Sane { s with
        commands := rest
        handler := onReadComplete s.handler generation response
        returned := s.returned ++ bytesOf response } := by
  have reads := reads_taken removed
  have command := (sane.reads.known _ (reads.mem_iff.mpr List.mem_cons_self)).2 own transfer is
  obtain ⟨now, -, -, sized⟩ := TransferCommand.mk.inj command
  refine ⟨now, ?_⟩
  have bytes (given : List Nat) (error : SerialError) :
      (s.handler.reads.complete given 0 error).completed.flatMap (fun done => done.bytes) = s.returned ++ given := by
    simp [complete, is, sane.delivered]
  simp only [onReadComplete, is, own, ne_eq, not_true_eq_false, if_false, bytesOf]
  split
  next =>
    obtain ⟨short, all⟩ := Bool.and_eq_true_iff.mp fit
    have room : (dataOf response).length <= transfer.buffer.length := by
      have asked : (dataOf response).length <= size := by simpa using short
      rw [sized] at asked
      exact asked.trans (Nat.min_le_left _ _)
    rw [copied all room]
    exact answeredRead_sane sane removed (sane.reads.removed reads _ 0 .noError) (bytes _ _) fun _ => complete_pending ..
  next =>
    exact answeredRead_sane sane removed (sane.reads.removed reads _ 0 .systemError) (bytes _ _) fun _ => complete_pending ..

theorem ignoredRead_sane (sane : Sane s) (removed : s.commands.Perm ((closes, .serialRead generation id size) :: rest))
    (other : s.handler.reads.pending = none \/ generation ≠ s.handler.reads.generation) (response : DictValue) :
    onReadComplete s.handler generation response = s.handler /\ Sane { s with commands := rest } := by
  have reads := reads_taken removed
  refine ⟨?_, ?_⟩
  · unfold onReadComplete
    rcases other with free | apart
    · simp [free]
    · split
      · rfl
      · simp [apart]
  · have kept : Kept readSize s.handler.reads s.closes (rest.filterMap readEntry) := sane.reads.other reads other
    have bytes : s.handler.reads.completed.flatMap (fun done => done.bytes) = s.returned ++ [] := by
      simpa using sane.delivered
    have same := answeredRead_sane sane removed kept bytes fun free => free
    simpa using same

theorem answeredWrite_sane (sane : Sane s)
    (removed : s.commands.Perm ((closes, .serialWrite generation id data) :: rest)) {writes : Transfers}
    {accepted : List (Nat × Nat)} (kept : Kept writePart writes s.closes (rest.filterMap writeEntry))
    (given : writes.given = s.handler.writes.given) (reported : Reported accepted writes)
    (more : ∀ entry ∈ accepted, entry ∈ s.accepted \/ entry.1 = id /\ entry.2 <= data.length)
    (free : s.handler.writes.pending = none -> writes.pending = none) :
    Sane { s with commands := rest, handler := { s.handler with writes }, accepted } := by
  have reads := removed.filterMap readEntry
  rw [List.filterMap_cons_none rfl] at reads
  have sent := sane.written.commanded _ ((writes_taken removed).mem_iff.mpr List.mem_cons_self)
  have known (entry : Nat × Nat) (member : entry ∈ accepted) :
      entry ∈ s.accepted \/ ∃ data, (entry.1, data) ∈ s.sent /\ entry.2 <= data.length := by
    rcases more entry member with before | ⟨own, bound⟩
    · exact .inl before
    · rw [own]
      exact .inr ⟨data, sent, bound⟩
  exact {
    reads := sane.reads.perm reads
    writes := kept
    opens := sane.opens.taken removed (by simp) rfl rfl rfl rfl
    idle := fun shut => ⟨(sane.idle shut).1, free (sane.idle shut).2⟩
    delivered := sane.delivered
    written := sane.written.taken removed rfl rfl rfl given reported known }

def acceptance (s : SerialPort) (id : Nat) (data : List Nat) (response : DictValue) : List (Nat × Nat) :=
  if ok response then s.accepted ++ [(id, min (transferred response) data.length)] else s.accepted

theorem acceptance_more (id : Nat) (data : List Nat) (response : DictValue) (entry : Nat × Nat)
    (member : entry ∈ s.acceptance id data response) :
    entry ∈ s.accepted \/ entry.1 = id /\ entry.2 <= data.length := by
  unfold acceptance at member
  split at member
  next =>
    rcases List.mem_append.mp member with before | new
    · exact .inl before
    · obtain rfl := List.mem_singleton.mp new
      exact .inr ⟨rfl, Nat.min_le_right _ _⟩
  next => exact .inl member

theorem acceptance_reported {writes : Transfers} (reported : Reported s.accepted writes) (id : Nat) (data : List Nat)
    (response : DictValue) : Reported (s.acceptance id data response) writes := by
  unfold acceptance
  split
  next =>
    intro done member positive
    obtain ⟨count, there, bound⟩ := reported done member positive
    exact ⟨count, List.mem_append_left _ there, bound⟩
  next => exact reported

theorem write_reply_sane (sane : Sane s) (removed : s.commands.Perm ((closes, .serialWrite generation id data) :: rest)) (honest : s.handler.writes.pending = none \/ generation ≠ s.handler.writes.generation \/
      ok response = false \/ transferred response <= data.length) :
    Sane { s with
      commands := rest
      handler := onWriteComplete s.handler generation response
      accepted := s.acceptance id data response } := by
  have reported : Reported (s.acceptance id data response) s.handler.writes :=
    acceptance_reported sane.written.reported id data response
  have more := acceptance_more (s := s) id data response
  have writes := writes_taken removed
  by_cases other : s.handler.writes.pending = none \/ generation ≠ s.handler.writes.generation
  · have same : onWriteComplete s.handler generation response = s.handler := by
      unfold onWriteComplete
      rcases other with free | apart
      · simp [free]
      · split
        · rfl
        · simp [apart]
    rw [same]
    exact answeredWrite_sane sane removed (sane.writes.other writes other) rfl reported more fun free => free
  · simp only [not_or, not_not] at other
    obtain ⟨there, own⟩ := other
    obtain ⟨transfer, is⟩ := Option.ne_none_iff_exists'.mp there
    have command := (sane.writes.known _ (writes.mem_iff.mpr List.mem_cons_self)).2 own transfer is
    obtain ⟨-, -, numbered, -⟩ := TransferCommand.mk.inj command
    simp only [onWriteComplete, is, own, ne_eq, not_true_eq_false, if_false]
    split
    next good =>
      have bound : transferred response <= data.length := by
        simpa [there, own, good] using honest
      have count : min (transferred response) data.length = transferred response := Nat.min_eq_left bound
      refine answeredWrite_sane sane removed (sane.writes.removed writes _ _ .noError) (complete_given ..)
        (reported.complete _ _ _ fun other same positive => ?_) more fun _ => complete_pending ..
      obtain rfl := Option.some.inj (is.symm.trans same)
      refine ⟨transferred response, ?_, Nat.min_le_left _ _⟩
      simp [acceptance, good, numbered, count]
    next =>
      exact answeredWrite_sane sane removed (sane.writes.removed writes _ _ .systemError) (complete_given ..)
        (reported.complete _ _ _ fun _ _ positive => absurd positive (Nat.lt_irrefl 0)) more fun _ => complete_pending ..

theorem read_reply_sane (sane : Sane s) (removed : s.commands.Perm ((closes, .serialRead generation id size) :: rest)) (fit : fits response (.serialRead generation id size) = true)
    (heard : closes ≠ s.closes \/ s.handler.reads.pending = none \/ generation = s.handler.reads.generation \/
      bytesOf response = []) :
    Sane { s with
      commands := rest
      handler := onReadComplete s.handler generation response
      returned :=
        if closes = s.closes && s.handler.reads.pending.isSome then s.returned ++ bytesOf response else s.returned } := by
  by_cases other : s.handler.reads.pending = none \/ generation ≠ s.handler.reads.generation
  · obtain ⟨same, kept⟩ := ignoredRead_sane sane removed other response
    have nothing : (if closes = s.closes && s.handler.reads.pending.isSome then s.returned ++ bytesOf response
        else s.returned) = s.returned := by
      split
      next counted =>
        obtain ⟨now, there⟩ := Bool.and_eq_true_iff.mp counted
        have some_there : s.handler.reads.pending ≠ none := Option.isSome_iff_ne_none.mp there
        have silent : bytesOf response = [] := by
          simpa [of_decide_eq_true now, some_there, other.resolve_left some_there] using heard
        rw [silent, List.append_nil]
      next => rfl
    rw [same, nothing]
    exact kept
  · simp only [not_or, not_not] at other
    obtain ⟨there, own⟩ := other
    obtain ⟨transfer, is⟩ := Option.ne_none_iff_exists'.mp there
    obtain ⟨now, kept⟩ := completedRead_sane sane removed is own fit
    simpa [now, is] using kept

theorem reply_sane (sane : Sane s) (index : Nat) (response : DictValue)
    (careful : s.careful (.reply index response) = true) : Sane (s.reply index response) := by
  unfold reply
  split
  next => exact sane
  next closes command found =>
    split
    next fit =>
      obtain ⟨inside, at_index⟩ := List.getElem?_eq_some_iff.mp found
      have removed : s.commands.Perm ((closes, command) :: s.commands.eraseIdx index) := by
        rw [<- at_index]
        exact (List.getElem_cons_eraseIdx_perm inside).symm
      cases command with
      | serialOpen => exact opened_sane sane removed (ok response)
      | serialClose => exact removed_sane sane removed rfl rfl (by simp)
      | serialConfigure => exact removed_sane sane removed rfl rfl (by simp)
      | serialRead generation id size =>
        have heard : closes ≠ s.closes \/ s.handler.reads.pending = none \/ generation = s.handler.reads.generation \/
            bytesOf response = [] := by
          simpa [SerialPort.careful, found, or_assoc] using careful
        have kept := read_reply_sane sane removed fit heard
        dsimp only [onReply] at kept ⊢
        split
        next counted => simpa only [counted, if_true] using kept
        next uncounted => rwa [if_neg uncounted] at kept
      | serialWrite generation id data =>
        have honest : s.handler.writes.pending = none \/ generation ≠ s.handler.writes.generation \/
            ok response = false \/ transferred response <= data.length := by
          simpa [SerialPort.careful, found, or_assoc] using careful
        have kept := write_reply_sane sane removed honest
        unfold acceptance at kept
        dsimp only [onReply]
        split
        next good => simpa only [good, if_true] using kept
        next bad => rwa [if_neg bad] at kept
    next => exact sane

end Reply

theorem next_sane (sane : Sane s) (step : Step) (careful : s.careful step = true) : Sane (s.next step) := by
  cases step with
  | openPort ctsFlowControl =>
    simp only [next]
    split
    next => exact sane
    next resting => exact openPort_sane sane ctsFlowControl (Bool.eq_false_iff.mpr resting)
  | closePort => exact close_sane sane (by simpa [SerialPort.careful] using careful)
  | configurePort ctsFlowControl =>
    simp only [next, configurePortImpl]
    split
    next => exact sane
    next => exact post_sane sane rfl rfl (by simp)
  | read buffer =>
    simp only [next]
    split
    next => exact sane
    next free => exact read_sane sane buffer (by simpa using free)
  | write buffer =>
    simp only [next]
    split
    next => exact sane
    next free => exact write_sane sane buffer (by simpa using free)
  | cancelRead reason => exact cancelRead_sane sane _
  | cancelWrite reason => exact cancelWrite_sane sane _
  | reply index response => exact reply_sane sane index response careful

variable {closes : Nat}

theorem late_reply (sane : Sane s) (member : (closes, command) ∈ s.commands)
    (late : closes < s.closes) (response : DictValue) : onReply s.handler response command = s.handler := by
  cases command with
  | serialOpen => exact absurd (sane.opens.current closes member) late.ne
  | serialClose => rfl
  | serialConfigure => rfl
  | serialRead generation id size =>
    have there : ⟨closes, generation, id, size⟩ ∈ s.commands.filterMap readEntry := List.mem_filterMap.mpr ⟨_, member, rfl⟩
    simp only [onReply, onReadComplete]
    split
    next => rfl
    next transfer is =>
      have apart : generation ≠ s.handler.reads.generation := fun own =>
        late.ne (TransferCommand.mk.inj ((sane.reads.known _ there).2 own transfer is)).1
      simp [apart]
  | serialWrite generation id data =>
    have there : ⟨closes, generation, id, data⟩ ∈ s.commands.filterMap writeEntry := List.mem_filterMap.mpr ⟨_, member, rfl⟩
    simp only [onReply, onWriteComplete]
    split
    next => rfl
    next transfer is =>
      have apart : generation ≠ s.handler.writes.generation := fun own =>
        late.ne (TransferCommand.mk.inj ((sane.writes.known _ there).2 own transfer is)).1
      simp [apart]

structure DataKept (s : SerialPort) : Prop where
  delivered : s.handler.reads.completed.flatMap (fun done => done.bytes) = s.returned
  reads : s.handler.reads.Once
  writes : s.handler.writes.Once
  -- whoever waits has a command of its own without a reply
  readWaits : forall transfer, s.handler.reads.pending = some transfer ->
    (s.closes, .serialRead s.handler.reads.generation transfer.id (min transfer.buffer.length 8192)) ∈ s.commands
  writeWaits : forall transfer, s.handler.writes.pending = some transfer ->
    (s.closes, .serialWrite s.handler.writes.generation transfer.id (transfer.buffer.take 4096)) ∈ s.commands
  written : forall done, done ∈ s.handler.writes.completed -> 0 < done.count ->
    exists count data buffer, (done.id, count) ∈ s.accepted ∧ done.count <= count ∧ (done.id, data) ∈ s.sent ∧
      count <= data.length ∧ s.buffers[done.id]? = some buffer ∧ data = buffer.take 4096
  sentOnce : (s.sent.map Prod.fst).Nodup
  late : forall closes command response, (closes, command) ∈ s.commands -> closes < s.closes ->
    onReply s.handler response command = s.handler

theorem read_member {generation id size : Nat}
    (member : ⟨closes, generation, id, size⟩ ∈ s.commands.filterMap readEntry) :
    (closes, .serialRead generation id size) ∈ s.commands := by
  obtain ⟨⟨before, command⟩, there, is⟩ := List.mem_filterMap.mp member
  cases command with
  | serialRead generation id size =>
    obtain ⟨rfl, rfl, rfl, rfl⟩ := TransferCommand.mk.inj (Option.some.inj is)
    exact there
  | _ => exact absurd is (by simp [readEntry])

theorem write_member {generation id : Nat} {data : List Nat}
    (member : ⟨closes, generation, id, data⟩ ∈ s.commands.filterMap writeEntry) :
    (closes, .serialWrite generation id data) ∈ s.commands := by
  obtain ⟨⟨before, command⟩, there, is⟩ := List.mem_filterMap.mp member
  cases command with
  | serialWrite generation id data =>
    obtain ⟨rfl, rfl, rfl, rfl⟩ := TransferCommand.mk.inj (Option.some.inj is)
    exact there
  | _ => exact absurd is (by simp [writeEntry])

theorem Sane.sent_unique (sane : Sane s) : (s.sent.map Prod.fst).Nodup := List.nodup_range.sublist sane.written.order

theorem Sane.dataKept (sane : Sane s) : DataKept s where
  delivered := sane.delivered
  reads := sane.reads.once
  writes := sane.writes.once
  readWaits := fun transfer is => read_member (sane.reads.waits transfer is)
  writeWaits := fun transfer is => write_member (sane.writes.waits transfer is)
  written := by
    intro done member positive
    obtain ⟨count, accepted, bound⟩ := sane.written.reported done member positive
    obtain ⟨data, sent, most⟩ := sane.written.accepted _ accepted
    obtain ⟨buffer, there, part⟩ := sane.written.part _ sent
    exact ⟨count, data, buffer, accepted, bound, sent, most, there, part⟩
  sentOnce := sane.sent_unique
  late := fun _ _ response member late => late_reply sane member late response

/-- In every run in which no bytes come for a cancelled read while another is pending, no reply to a write claims
more than was sent, and no close falls into an open, no byte is lost or given twice. -/
theorem serial_data_kept (portId : Int) (steps : List Step)
    (careful : Follows (fun s step => s.careful step = true) next { handler := { portId } } steps) :
    DataKept (steps.foldl next { handler := { portId } }) :=
  (careful.preserves (fun _ step sane keeps => next_sane sane step keeps) (sane_initial portId)).dataKept

def answer (fields : DictValue) : DictValue := ("ok", .bool true) :: fields

/-- A read is cancelled, and its reply brings nothing; the next one is answered, and so is a write. -/
def quietPort : List Step :=
  [.openPort false, .reply 0 (answer []), .read [0, 0], .cancelRead 0, .read [0, 0], .reply 0 (answer []),
    .write [7, 8, 9], .reply 0 (answer [("data", .list [.int 65])]), .reply 0 (answer [("bytesTransferred", .int 2)])]

theorem serial_data_kept_quiet :
    Follows (fun s step => s.careful step = true) next { handler := { portId := 3 } } quietPort ∧
      DataKept (quietPort.foldl next { handler := { portId := 3 } }) :=
  ⟨by decide, serial_data_kept 3 quietPort (by decide)⟩

/-- A read is cancelled and made again, and the device answers the first. -/
def cancelledRead : List Step :=
  [.openPort false, .reply 0 (answer []), .read [0, 0], .cancelRead 0, .read [0, 0],
    .reply 0 (answer [("data", .list [.int 65, .int 66])])]

theorem cancelled_read_loses :
    let s := cancelledRead.foldl next { handler := { portId := 3 } }
    s.returned = [65, 66] ∧ s.handler.reads.completed.flatMap (fun done => done.bytes) = [] ∧
      s.handler.reads.pending = some ⟨1, [0, 0]⟩ := by
  decide

end SerialPort

end ChromiumHmos.Services
