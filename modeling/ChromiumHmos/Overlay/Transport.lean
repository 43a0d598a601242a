import ChromiumHmos.Overlay.Session

set_option autoImplicit false

/-!
# Overlay transport

The packets of the channel between the presenter and the host. A descriptor is named by the open
file behind it, which is what the kernel carries from one process to the other.
-/

namespace ChromiumHmos.Overlay

open Base

def wireMagic : Nat := 0x4c4f5631
def wireMaxFds : Nat := 16
def wirePacketSize : Nat := 2360
def wireTailSize : Nat := 1044

inductive WireOp
  | frame
  | accepted
  | released
  | processed
  | rejected
  | close
  | closed
  -- A value the enumeration does not name.
  | other (code : Nat)
deriving DecidableEq

structure WirePlane where
  content : Nat := 0
  reuse : Nat := 0
  hasFence : Nat := 0
  source : Rect := {}
  destination : Rect := {}
deriving DecidableEq

abbrev ParcelHeader := Vector Nat 14

structure WirePacket where
  magic : Nat := wireMagic
  version : Nat := 2
  operation : WireOp := .frame
  result : Nat := 0
  sequence : Nat := 0
  videoToken : Nat := 0
  plane : Nat := 0
  hasVideo : Nat := 0
  fdCount : Nat := 0
  tailBytes : Nat := 0
  primary : WirePlane := {}
  video : WirePlane := {}
  -- `prefix` of the source. What a tail holds past `tailBytes` is never read.
  header : ParcelHeader := Vector.replicate 14 0
  tail : Bytes := []
  videoColor : Nat := 0
  videoFdCount : Nat := 0
  videoTailBytes : Nat := 0
  videoHeader : ParcelHeader := Vector.replicate 14 0
  videoTail : Bytes := []
deriving DecidableEq

structure WireMessage where
  packet : WirePacket := {}
  fds : List Nat := []
deriving DecidableEq

def RectValid (r : Rect) : Bool := ValidRect r && fits r 16384 16384

def PlaneValid (p : WirePlane) : Bool :=
  p.content ≠ 0 ∧ p.reuse ≤ 1 ∧ p.hasFence ≤ 1 ∧ ¬ (p.reuse ≠ 0 ∧ p.hasFence ≠ 0) ∧
    RectValid p.source ∧ RectValid p.destination

def blankHeader (v : ParcelHeader) : Bool := v.toList.all (· = 0)

def parcelLimit : Nat := 128 * 1024 * 1024

def ValidParcel (plane : WirePlane) (count tail : Nat) (v : ParcelHeader) : Bool :=
  if plane.reuse ≠ 0 then count = 0 ∧ tail = 0 ∧ blankHeader v
  else
    count ≠ 0 ∧ count ≤ 7 ∧ v[1] = 1 ∧ v[2] ≤ 6 ∧ v[3] ≤ 256 ∧ v[13] = 1 ∧ count = v[2] + 1 ∧
      v[4] ≠ 0 ∧ v[6] ≠ 0 ∧ v[4] ≤ 8192 ∧ v[6] ≤ 8192 ∧ (v[8] = 12 ∨ v[8] = 20) ∧
      v[5] ≥ v[4] * 4 ∧ v[5] ≤ parcelLimit ∧ v[7] ≥ v[4] * v[6] * 4 ∧ v[7] ≤ parcelLimit ∧
      (tail = v[3] * 4 ∨ tail = v[3] * 4 + 20) ∧ tail ≤ wireTailSize ∧ fits plane.source v[4] v[6]

-- The places of a header's words that an import compares.
theorem lt4 : 4 < 14 := by decide
theorem lt6 : 6 < 14 := by decide
theorem lt8 : 8 < 14 := by decide

namespace WirePacket

def noVideoParcel (p : WirePacket) : Bool :=
  p.videoFdCount = 0 ∧ p.videoTailBytes = 0 ∧ blankHeader p.videoHeader

def validResult (p : WirePacket) : Bool :=
  match p.operation with
  | .released => p.result = 0
  | .rejected => p.plane = 0 ∧ 1 ≤ p.result ∧ p.result ≤ 4
  | .accepted | .processed | .close | .closed => p.result = 0 ∧ p.plane = 0
  | .frame | .other _ => false

-- A packet that is no frame.
def validControl (p : WirePacket) (count : Nat) : Bool :=
  count = 0 ∧ p.fdCount = 0 ∧ p.tailBytes = 0 ∧ p.videoToken = 0 ∧ p.hasVideo = 0 ∧
    p.videoColor = 0 ∧ p.primary.content = 0 ∧ p.video.content = 0 ∧ p.primary.hasFence = 0 ∧
    p.video.hasFence = 0 ∧ p.primary.reuse = 0 ∧ p.video.reuse = 0 ∧ p.validResult

def descriptors (p : WirePacket) : Nat :=
  p.fdCount + p.videoFdCount + p.primary.hasFence + p.video.hasFence

def validVideoPlane (p : WirePacket) : Bool :=
  if p.hasVideo ≠ 0 then
    PlaneValid p.video ∧ (if p.videoColor ≠ 0 then p.videoToken = 0 else p.videoToken ≠ 0)
  else
    p.videoToken = 0 ∧ p.video.content = 0 ∧ p.video.hasFence = 0 ∧ p.video.reuse = 0 ∧
      p.videoColor = 0

def validFrame (p : WirePacket) (count : Nat) : Bool :=
  p.result = 0 ∧ p.plane = 0 ∧ PlaneValid p.primary ∧ p.validVideoPlane ∧ p.fdCount ≤ 7 ∧
    p.videoFdCount ≤ 7 ∧ count = p.descriptors ∧
    ValidParcel p.primary p.fdCount p.tailBytes p.header ∧
    (p.videoColor ≠ 0 → ValidParcel p.video p.videoFdCount p.videoTailBytes p.videoHeader) ∧
    (p.hasVideo ≠ 0 → inside p.video.destination p.primary.destination)

end WirePacket

def ValidWirePacket (p : WirePacket) (count : Nat) : Bool :=
  p.magic = wireMagic ∧ p.version = 2 ∧ p.sequence ≠ 0 ∧ count ≤ wireMaxFds ∧ p.hasVideo ≤ 1 ∧
    p.plane ≤ 1 ∧ p.videoColor ≤ 2 ∧ (p.videoColor = 0 → p.noVideoParcel) ∧
    (if p.operation ≠ .frame then p.validControl count else p.validFrame count)

inductive Errno
  | again
  | invalid
  | connectionReset
  | protocol
  -- Any other error of the call.
  | io

-- What `sendmsg` answers.
inductive SendAnswer
  | sent
  | again
  | failed

def SendWireMessage (m : WireMessage) (answer : SendAnswer) : Option Errno :=
  if ¬ ValidWirePacket m.packet m.fds.length then some .invalid
  else
    match answer with
    | .sent => none
    | .again => some .again
    | .failed => some .io

structure ControlMessage where
  -- `SOL_SOCKET`, `SCM_RIGHTS` and at least an empty payload.
  rights : Bool := true
  fds : List Nat := []
  -- Bytes behind the last whole descriptor.
  ragged : Bool := false

structure Datagram where
  size : Nat := wirePacketSize
  -- What the buffer holds after the call.
  packet : WirePacket
  control : List ControlMessage := []
  truncated : Bool := false
  -- The descriptors `F_SETFD` refuses.
  unflagged : List Nat := []

-- What `recvmsg` answers.
inductive ReceiveAnswer
  | again
  | failed
  | datagram (d : Datagram)

namespace Datagram

-- The descriptors the loop over the control messages takes.
def received (d : Datagram) : List Nat := (d.control.filter (·.rights)).flatMap (·.fds)

def bad (d : Datagram) : Bool :=
  d.control.any fun c => !c.rights || c.ragged || c.fds.any fun fd => d.unflagged.contains fd

/-- What the other side reads of a message sent. -/
def of (m : WireMessage) : Datagram :=
  { packet := m.packet, control := if m.fds = [] then [] else [{ fds := m.fds }] }

end Datagram

structure Received where
  error : Option Errno
  message : WireMessage
  closed : List Nat

def ReceiveWireMessage (m : WireMessage) : ReceiveAnswer → Received
  | .again => ⟨some .again, { m with fds := [] }, m.fds⟩
  | .failed => ⟨some .io, { m with fds := [] }, m.fds⟩
  | .datagram d =>
    if d.bad ∨ d.size ≠ wirePacketSize ∨ d.truncated ∨
        ¬ ValidWirePacket d.packet d.received.length then
      ⟨some (if d.size = 0 then .connectionReset else .protocol), ⟨d.packet, []⟩,
        m.fds ++ d.received⟩
    else ⟨none, ⟨d.packet, d.received⟩, m.fds⟩

def WirePacket.expected (p : WirePacket) : Nat :=
  if p.operation = .frame then p.descriptors else 0

theorem valid_control {p : WirePacket} {count : Nat} (valid : ValidWirePacket p count = true)
    (control : p.operation ≠ .frame) : p.validControl count = true := by
  simp only [ValidWirePacket, decide_eq_true_eq] at valid
  obtain ⟨-, -, -, -, -, -, -, -, rest⟩ := valid
  rwa [if_pos control] at rest

theorem valid_frame {p : WirePacket} {count : Nat} (valid : ValidWirePacket p count = true)
    (frame : p.operation = .frame) : p.validFrame count = true := by
  simp only [ValidWirePacket, decide_eq_true_eq] at valid
  obtain ⟨-, -, -, -, -, -, -, -, rest⟩ := valid
  rwa [if_neg (not_not.mpr frame)] at rest

theorem valid_count {p : WirePacket} {count : Nat} (valid : ValidWirePacket p count = true) :
    count = p.expected := by
  unfold WirePacket.expected
  by_cases frame : p.operation = .frame
  · have layout := valid_frame valid frame
    simp only [WirePacket.validFrame, decide_eq_true_eq] at layout
    obtain ⟨-, -, -, -, -, -, same, -⟩ := layout
    rw [if_pos frame, same]
  · have bare := valid_control valid frame
    simp only [WirePacket.validControl, decide_eq_true_eq] at bare
    rw [if_neg frame, bare.1]

theorem received_of (m : WireMessage) : (Datagram.of m).received = m.fds := by
  by_cases empty : m.fds = []
  · simp [Datagram.of, Datagram.received, empty]
  · simp [Datagram.of, Datagram.received, empty]

theorem not_bad_of (m : WireMessage) : (Datagram.of m).bad = false := by
  by_cases empty : m.fds = []
  · simp [Datagram.of, Datagram.bad, empty]
  · simp [Datagram.of, Datagram.bad, empty]

theorem receive_of (m into : WireMessage) (valid : ValidWirePacket m.packet m.fds.length = true) :
    ReceiveWireMessage into (.datagram (.of m)) = ⟨none, m, into.fds⟩ := by
  have accepted : ValidWirePacket (Datagram.of m).packet m.fds.length = true := valid
  simp only [ReceiveWireMessage, received_of, not_bad_of, accepted]
  rfl

theorem receive_refuses (into : WireMessage) (d : Datagram)
    (wrong : d.received.length ≠ d.packet.expected) :
    (ReceiveWireMessage into (.datagram d)).error ≠ none /\
      (ReceiveWireMessage into (.datagram d)).message.fds = [] /\
      (ReceiveWireMessage into (.datagram d)).closed = into.fds ++ d.received := by
  have refused : ¬ ValidWirePacket d.packet d.received.length = true :=
    fun valid => wrong (valid_count valid)
  simp only [ReceiveWireMessage]
  rw [if_pos (.inr (.inr (.inr refused)))]
  exact ⟨Option.some_ne_none _, rfl, rfl⟩

end ChromiumHmos.Overlay
