import ChromiumHmos.Overlay.Presenter
import ChromiumHmos.Overlay.WireHost

set_option autoImplicit false

namespace ChromiumHmos.Overlay

open Transition

structure Attachment where
  handle : Option BufferHandle := none
  fence : Option Nat := none

def Attachment.fds (a : Attachment) : List Nat := (a.handle.map BufferHandle.fds).getD []

/-- The log names this handle and this fence for a plane of the frame, and no others. -/
def Attached (log : List PresenterEvent) (sequence plane : Nat) (a : Attachment) : Prop :=
  (∀ handle, .exported sequence plane handle ∈ log ↔ a.handle = some handle) ∧
    ∀ fd, .fenced sequence plane fd ∈ log ↔ a.fence = some fd

def Parcel.Holds (parcel : Parcel) : Option BufferHandle → Prop
  | none => parcel.fds = []
  | some handle => parcel.header.toList = handle.header ∧ parcel.fds = handle.fds ∧
      parcel.tail = handle.tail

-- Whether the host reads a parcel for the plane.
def WirePacket.reads (p : WirePacket) (isVideo : Bool) : Prop :=
  if isVideo then p.hasVideo ≠ 0 ∧ p.videoColor ≠ 0 ∧ p.video.reuse = 0 else p.primary.reuse = 0

structure LaidOut (log : List PresenterEvent) (m : WireMessage) : Prop where
  valid : ValidWirePacket m.packet m.fds.length = true
  frame : m.packet.operation = .frame
  count : m.fds.length = m.packet.descriptors
  planes : ∃ primary video : Attachment,
    Attached log m.packet.sequence 0 primary ∧ Attached log m.packet.sequence 1 video ∧
      (m.parcel false).Holds primary.handle ∧ (m.parcel true).Holds video.handle ∧
      (m.packet.reads false ↔ primary.handle.isSome) ∧
      (m.packet.reads true ↔ video.handle.isSome) ∧
      m.primaryFence = primary.fence ∧ m.videoFence = video.fence

def exports (sequence plane : Nat) (handle : Option BufferHandle) : List PresenterEvent :=
  handle.toList.map (.exported sequence plane)

def fencings (sequence plane : Nat) (fence : Option Nat) : List PresenterEvent :=
  fence.toList.map (.fenced sequence plane)

def Carried (count tailBytes : Nat) (header : ParcelHeader) (tail : Base.Bytes) :
    Option BufferHandle → Prop
  | none => count = 0
  | some handle => count = handle.fds.length % UInt32.size ∧ tailBytes = handle.tail.length ∧
      header.toList = handle.header ∧ tail = handle.tail

structure Draft.Carries (d : Draft) (primary video : Attachment) : Prop where
  frame : d.packet.operation = .frame
  fds : d.fds = primary.fds ++ video.fds ++ primary.fence.toList ++ video.fence.toList
  log : d.log = exports d.packet.sequence 0 primary.handle ++
    exports d.packet.sequence 1 video.handle ++ fencings d.packet.sequence 0 primary.fence ++
    fencings d.packet.sequence 1 video.fence
  primaryParcel : Carried d.packet.fdCount d.packet.tailBytes d.packet.header d.packet.tail
    primary.handle
  videoParcel : Carried d.packet.videoFdCount d.packet.videoTailBytes d.packet.videoHeader
    d.packet.videoTail video.handle
  primaryNew : primary.handle.isSome → d.packet.primary.reuse = 0
  videoNew : video.handle.isSome → d.packet.video.reuse = 0 ∧ d.packet.videoToken = 0 ∧
    d.packet.hasVideo ≠ 0
  primaryFence : d.packet.primary.hasFence = if primary.fence.isSome then 1 else 0
  videoFence : d.packet.video.hasFence = if video.fence.isSome then 1 else 0

structure Draft.SameParcels (d e : Draft) : Prop where
  frame : e.packet.operation = d.packet.operation
  sequence : e.packet.sequence = d.packet.sequence
  hasVideo : e.packet.hasVideo = d.packet.hasVideo
  fds : e.fds = d.fds
  log : e.log = d.log
  fdCount : e.packet.fdCount = d.packet.fdCount
  tailBytes : e.packet.tailBytes = d.packet.tailBytes
  header : e.packet.header = d.packet.header
  tail : e.packet.tail = d.packet.tail
  videoFdCount : e.packet.videoFdCount = d.packet.videoFdCount
  videoTailBytes : e.packet.videoTailBytes = d.packet.videoTailBytes
  videoHeader : e.packet.videoHeader = d.packet.videoHeader
  videoTail : e.packet.videoTail = d.packet.videoTail
  primaryFence : e.packet.primary.hasFence = d.packet.primary.hasFence
  videoFence : e.packet.video.hasFence = d.packet.video.hasFence

namespace Draft

variable (a : Presenter.PresentAnswers)

variable {d : Draft}

variable {primary video : Attachment}

theorem Carries.same {e : Draft} (carries : d.Carries primary video)
    (same : d.SameParcels e) (primaryNew : primary.handle.isSome -> e.packet.primary.reuse = 0)
    (videoNew : video.handle.isSome -> e.packet.video.reuse = 0 /\ e.packet.videoToken = 0 /\
      e.packet.hasVideo ≠ 0) : e.Carries primary video where
  frame := by rw [same.frame, carries.frame]
  fds := by rw [same.fds, carries.fds]
  log := by rw [same.log, same.sequence, carries.log]
  primaryParcel := by
    rw [same.fdCount, same.tailBytes, same.header, same.tail]
    exact carries.primaryParcel
  videoParcel := by
    rw [same.videoFdCount, same.videoTailBytes, same.videoHeader, same.videoTail]
    exact carries.videoParcel
  primaryNew := primaryNew
  videoNew := videoNew
  primaryFence := by rw [same.primaryFence, carries.primaryFence]
  videoFence := by rw [same.videoFence, carries.videoFence]

theorem fillContent_same (d : Draft) (i : Nat) (item : Scheduled) :
    d.SameParcels (d.fillContent a i item) := by
  by_cases first : i = 0
  · subst first
    constructor <;> rfl
  · constructor <;> simp [fillContent, WirePacket.withPlane, WirePacket.wirePlane, first]

theorem fillGeometry_same (d : Draft) (i : Nat) (item : Scheduled) (bounds : Rect) :
    d.SameParcels (d.fillGeometry a i item bounds) := by
  by_cases first : i = 0
  · subst first
    constructor <;> rfl
  · unfold fillGeometry
    rw [if_neg first]
    split <;> constructor <;> simp [WirePacket.withPlane, WirePacket.wirePlane, first]

theorem fillGeometry_primary (d : Draft) (item : Scheduled) (bounds : Rect) :
    (d.fillGeometry a 1 item bounds).packet.primary = d.packet.primary := by
  unfold fillGeometry
  rw [if_neg one_ne_zero]
  split <;> rfl

theorem fillParcel_first (carries : d.Carries {} {}) (item : Scheduled) :
    ∃ handle, (d.fillParcel a 0 item).Carries { handle } {} := by
  unfold fillParcel
  split
  next parcelled =>
    have fresh : d.packet.primary.reuse = 0 := parcelled.2
    dsimp only
    split
    next fits =>
      refine ⟨some (a.images item.image).handle, ?_⟩
      exact
        { carries with
          fds := by simp [carries.fds, Attachment.fds]
          log := by simp [carries.log, exports, fencings, WirePacket.withParcel]
          primaryParcel := ⟨rfl, rfl, rfl, rfl⟩
          primaryNew := fun _ => fresh }
    next => exact ⟨none, { carries with }⟩
  next => exact ⟨none, carries⟩

variable {handle : Option BufferHandle}

theorem fillParcel_second
    (carries : d.Carries { handle } {}) (item : Scheduled) (video : d.packet.hasVideo ≠ 0) :
    ∃ handle', (d.fillParcel a 1 item).Carries { handle } { handle := handle' } := by
  unfold fillParcel
  split
  next parcelled =>
    have token : d.packet.videoToken = 0 := parcelled.1.resolve_left one_ne_zero
    have fresh : d.packet.video.reuse = 0 := parcelled.2
    dsimp only
    split
    next fits =>
      refine ⟨some (a.images item.image).handle, ?_⟩
      exact
        { carries with
          fds := by simp [carries.fds, Attachment.fds]
          log := by simp [carries.log, exports, fencings, WirePacket.withParcel]
          videoParcel := ⟨rfl, rfl, rfl, rfl⟩
          videoNew := fun _ => ⟨fresh, token, video⟩ }
    next => exact ⟨none, { carries with }⟩
  next => exact ⟨none, carries⟩

theorem keepLast_carries
    (carries : d.Carries primary video) (i : Nat) (item : Scheduled) :
    (d.keepLast i item).Carries primary video := { carries with }

theorem addPlane_first (carries : d.Carries {} {}) (item : Scheduled) (bounds : Rect) :
    ∃ handle, (d.addPlane a 0 (some item) bounds).Carries { handle } {} := by
  let e := (d.fillContent a 0 item).fillGeometry a 0 item bounds
  have filled : e.Carries {} {} :=
    (carries.same (fillContent_same a d 0 item) (by simp) (by simp)).same
      (fillGeometry_same a _ 0 item bounds) (by simp) (by simp)
  simp only [addPlane]
  split
  · exact ⟨none, filled⟩
  · obtain ⟨handle, parcelled⟩ := fillParcel_first a filled item
    refine ⟨handle, ?_⟩
    split
    · exact parcelled
    · exact keepLast_carries parcelled 0 item

theorem addPlane_second
    (carries : d.Carries { handle } {}) (item : Option Scheduled) (bounds : Rect)
    (video : d.packet.hasVideo = if item.isSome then 1 else 0) :
    ∃ handle', (d.addPlane a 1 item bounds).Carries { handle } { handle := handle' } := by
  cases item with
  | none => exact ⟨none, { carries with }⟩
  | some item =>
    let e := (d.fillContent a 1 item).fillGeometry a 1 item bounds
    have content : (d.fillContent a 1 item).Carries { handle } {} :=
      carries.same (fillContent_same a d 1 item) carries.primaryNew (by simp)
    have primaryNew : handle.isSome -> e.packet.primary.reuse = 0 := by
      rw [fillGeometry_primary]
      exact content.primaryNew
    have filled : e.Carries { handle } {} :=
      content.same (fillGeometry_same a _ 1 item bounds) primaryNew (by simp)
    have present : e.packet.hasVideo ≠ 0 := by
      rw [(fillGeometry_same a _ 1 item bounds).hasVideo, (fillContent_same a d 1 item).hasVideo,
        video]
      exact one_ne_zero
    simp only [addPlane]
    split
    · exact ⟨none, filled⟩
    · obtain ⟨handle', parcelled⟩ := fillParcel_second a filled item present
      refine ⟨handle', ?_⟩
      split
      · exact parcelled
      · exact keepLast_carries parcelled 1 item

theorem addFence_first {handle' : Option BufferHandle}
    (carries : d.Carries { handle } { handle := handle' }) :
    ∃ fence, (d.addFence a 0).Carries { handle, fence } { handle := handle' } := by
  unfold addFence
  split
  next => exact ⟨none, carries⟩
  next fd cloned =>
    refine ⟨some fd, ?_⟩
    exact
      { carries with
        fds := by simp [carries.fds, Attachment.fds]
        log := by simp [carries.log, fencings, exports, WirePacket.withPlane]
        primaryFence := rfl }

theorem addFence_second
    (carries : d.Carries primary { handle }) :
    ∃ fence, (d.addFence a 1).Carries primary { handle, fence } := by
  unfold addFence
  split
  next => exact ⟨none, carries⟩
  next fd cloned =>
    refine ⟨some fd, ?_⟩
    exact
      { carries with
        fds := by simp [carries.fds, Attachment.fds]
        log := by simp [carries.log, fencings, exports, WirePacket.withPlane]
        videoFence := rfl }

theorem withParcel_header (p : WirePacket) (i : Nat) (header : ParcelHeader) (tail : Base.Bytes)
    (count : Nat) : (p.withParcel i header tail count).sequence = p.sequence /\
      (p.withParcel i header tail count).hasVideo = p.hasVideo := by
  unfold WirePacket.withParcel
  split <;> exact ⟨rfl, rfl⟩

theorem fillParcel_header (d : Draft) (i : Nat) (item : Scheduled) :
    (d.fillParcel a i item).packet.sequence = d.packet.sequence /\
      (d.fillParcel a i item).packet.hasVideo = d.packet.hasVideo := by
  unfold fillParcel
  split
  · dsimp only
    split
    · exact withParcel_header ..
    · exact ⟨rfl, rfl⟩
  · exact ⟨rfl, rfl⟩

theorem addPlane_header (d : Draft) (i : Nat) (item : Option Scheduled) (bounds : Rect) :
    (d.addPlane a i item bounds).packet.sequence = d.packet.sequence /\
      (d.addPlane a i item bounds).packet.hasVideo = d.packet.hasVideo := by
  cases item with
  | none => exact ⟨rfl, rfl⟩
  | some item =>
    let e := (d.fillContent a i item).fillGeometry a i item bounds
    have content := fillContent_same a d i item
    have geometry := fillGeometry_same a (d.fillContent a i item) i item bounds
    have filled : e.packet.sequence = d.packet.sequence /\ e.packet.hasVideo = d.packet.hasVideo :=
      ⟨geometry.sequence.trans content.sequence, geometry.hasVideo.trans content.hasVideo⟩
    obtain ⟨sequence, video⟩ := fillParcel_header a e i item
    simp only [addPlane]
    split
    · exact filled
    · split <;> exact ⟨sequence.trans filled.1, video.trans filled.2⟩

theorem addFence_sequence (d : Draft) (i : Nat) :
    (d.addFence a i).packet.sequence = d.packet.sequence := by
  unfold addFence
  split
  · rfl
  · simp only [WirePacket.withPlane]
    split <;> rfl

end Draft

theorem draft_carries (p : Presenter) (a : Presenter.PresentAnswers) (item : Scheduled) :
    ∃ primary video, (p.draft a item).Carries primary video /\
      (p.draft a item).packet.sequence = p.sequence + 1 := by
  let start : Draft :=
    { packet := { sequence := p.sequence + 1, hasVideo := if (p.scheduled 1).isSome then 1 else 0 }
      fences := fun i => (p.scheduled i).bind Scheduled.fence
      last := p.last }
  have empty : start.Carries {} {} :=
    ⟨rfl, rfl, rfl, rfl, rfl, by simp, by simp, rfl, rfl⟩
  let bounds := item.data.displayBounds
  let first := start.addPlane a 0 (some item) bounds
  obtain ⟨handle, one⟩ := Draft.addPlane_first a empty item bounds
  have head := Draft.addPlane_header a start 0 (some item) bounds
  let second := if first.invalid then first else first.addPlane a 1 (p.scheduled 1) bounds
  have both : ∃ handle', second.Carries { handle } { handle := handle' } := by
    simp only [second]
    split
    · exact ⟨none, one⟩
    · exact Draft.addPlane_second a one _ bounds head.2
  have sequence : second.packet.sequence = p.sequence + 1 := by
    simp only [second]
    split
    · exact head.1
    · exact (Draft.addPlane_header a first 1 _ bounds).1.trans head.1
  let third := if (p.scheduled 1).isSome then second
    else { second with last := Function.update second.last 1 none }
  have kept : ∃ handle', third.Carries { handle } { handle := handle' } := by
    obtain ⟨handle', carries⟩ := both
    simp only [third]
    split
    · exact ⟨handle', carries⟩
    · exact ⟨handle', { carries with }⟩
  have same : third.packet.sequence = p.sequence + 1 := by
    simp only [third]
    split <;> exact sequence
  obtain ⟨handle', carries⟩ := kept
  obtain ⟨fence, fenced⟩ := Draft.addFence_first a carries
  obtain ⟨fence', final⟩ := Draft.addFence_second a fenced
  refine ⟨⟨handle, fence⟩, ⟨handle', fence'⟩, final, ?_⟩
  exact (Draft.addFence_sequence a _ 1).trans ((Draft.addFence_sequence a third 0).trans same)

variable {number tailBytes : Nat} {header : ParcelHeader} {tail : Base.Bytes} {handle : Option BufferHandle}

theorem Carried.count (carried : Carried number tailBytes header tail handle)
    (few : (Attachment.fds ⟨handle, none⟩).length <= wireMaxFds) :
    number = (Attachment.fds ⟨handle, none⟩).length := by
  cases handle with
  | none => exact carried
  | some handle =>
    rw [carried.1]
    exact Nat.mod_eq_of_lt (Nat.lt_of_le_of_lt few (by decide))

theorem Carried.holds (carried : Carried number tailBytes header tail handle)
    {fds : List Nat} (same : fds = Attachment.fds ⟨handle, none⟩) :
    Parcel.Holds ⟨header, fds, tail.take tailBytes⟩ handle := by
  cases handle with
  | none => exact same
  | some handle =>
    obtain ⟨-, bytes, words, rest⟩ := carried
    refine ⟨words, same, ?_⟩
    rw [bytes, rest]
    exact List.take_length

namespace Draft.Carries

variable {d : Draft} {primary video : Attachment}

theorem attached (carries : d.Carries primary video) :
    Attached d.log d.packet.sequence 0 primary /\ Attached d.log d.packet.sequence 1 video := by
  constructor <;> constructor <;> intro value <;>
    simp [carries.log, exports, fencings]

-- With no more descriptors than a packet may have, the counts are what they count.
theorem counts (carries : d.Carries primary video) (few : d.fds.length <= wireMaxFds) :
    d.packet.fdCount = primary.fds.length /\ d.packet.videoFdCount = video.fds.length := by
  have total : d.fds.length = primary.fds.length + video.fds.length +
      primary.fence.toList.length + video.fence.toList.length := by
    simp only [carries.fds, List.length_append]
  have first : primary.fds.length <= wireMaxFds := by omega
  have second : video.fds.length <= wireMaxFds := by omega
  exact ⟨carries.primaryParcel.count first, carries.videoParcel.count second⟩

theorem parcels (carries : d.Carries primary video) (few : d.fds.length <= wireMaxFds) :
    (WireMessage.parcel ⟨d.packet, d.fds⟩ false).Holds primary.handle /\
      (WireMessage.parcel ⟨d.packet, d.fds⟩ true).Holds video.handle := by
  obtain ⟨one, two⟩ := carries.counts few
  constructor
  · refine carries.primaryParcel.holds ?_
    rw [one, carries.fds]
    simp [Attachment.fds]
  · refine carries.videoParcel.holds ?_
    rw [one, two, carries.fds]
    simp [Attachment.fds]

theorem fences (carries : d.Carries primary video) (few : d.fds.length <= wireMaxFds) :
    WireMessage.primaryFence ⟨d.packet, d.fds⟩ = primary.fence /\
      WireMessage.videoFence ⟨d.packet, d.fds⟩ = video.fence := by
  obtain ⟨one, two⟩ := carries.counts few
  have place : d.packet.fdCount + d.packet.videoFdCount = (primary.fds ++ video.fds).length := by
    rw [one, two, List.length_append]
  have split : d.fds =
      (primary.fds ++ video.fds) ++ (primary.fence.toList ++ video.fence.toList) := by
    simp only [carries.fds, List.append_assoc]
  simp only [WireMessage.primaryFence, WireMessage.videoFence, carries.primaryFence,
    carries.videoFence, place, split]
  generalize primary.fds ++ video.fds = parcels
  cases primary.fence <;> cases video.fence <;> simp

theorem reads (carries : d.Carries primary video)
    (valid : ValidWirePacket d.packet d.fds.length = true) (few : d.fds.length <= wireMaxFds) :
    (d.packet.reads false ↔ primary.handle.isSome) /\
      (d.packet.reads true ↔ video.handle.isSome) := by
  obtain ⟨one, two⟩ := carries.counts few
  have frame := valid_frame valid carries.frame
  simp only [WirePacket.validFrame, decide_eq_true_eq] at frame
  obtain ⟨-, -, -, plane, -, -, -, parcel, second, -⟩ := frame
  constructor
  · refine ⟨fun fresh => ?_, carries.primaryNew⟩
    have reuse : d.packet.primary.reuse = 0 := fresh
    simp only [ValidParcel, reuse, ne_eq, not_true_eq_false, if_false, decide_eq_true_eq] at parcel
    cases found : primary.handle with
    | none => exact absurd (by simpa [Attachment.fds, found] using one) parcel.1
    | some handle => rfl
  · constructor
    · rintro ⟨present, colored, fresh⟩
      have parcel := second colored
      simp only [ValidParcel, fresh, ne_eq, not_true_eq_false, if_false, decide_eq_true_eq]
        at parcel
      cases found : video.handle with
      | none => exact absurd (by simpa [Attachment.fds, found] using two) parcel.1
      | some handle => rfl
    · intro some
      obtain ⟨fresh, token, present⟩ := carries.videoNew some
      refine ⟨present, fun plain => ?_, fresh⟩
      simp [WirePacket.validVideoPlane, present, plain, token] at plane

theorem laidOut (carries : d.Carries primary video)
    (valid : ValidWirePacket d.packet d.fds.length = true) : LaidOut d.log ⟨d.packet, d.fds⟩ := by
  have few : d.fds.length <= wireMaxFds := by
    simp only [ValidWirePacket, decide_eq_true_eq] at valid
    exact valid.2.2.2.1
  have count : d.fds.length = d.packet.descriptors := by
    rw [valid_count valid, WirePacket.expected, if_pos carries.frame]
  obtain ⟨one, two⟩ := carries.attached
  obtain ⟨first, second⟩ := carries.parcels few
  obtain ⟨reads, readsVideo⟩ := carries.reads valid few
  obtain ⟨fence, videoFence⟩ := carries.fences few
  exact ⟨valid, carries.frame, count, primary, video, one, two, first, second, reads, readsVideo,
    fence, videoFence⟩

end Draft.Carries

def PresenterEvent.attaches : PresenterEvent → Nat → Prop
  | .exported sequence _ _, q | .fenced sequence _ _, q => sequence = q
  | _, _ => False

variable {log : List PresenterEvent} {m : WireMessage}

theorem LaidOut.congr {log' : List PresenterEvent} (laid : LaidOut log m)
    (same : ∀ event, event.attaches m.packet.sequence -> (event ∈ log' ↔ event ∈ log)) :
    LaidOut log' m := by
  obtain ⟨valid, frame, count, primary, video, one, two, rest⟩ := laid
  refine ⟨valid, frame, count, primary, video, ⟨fun handle => ?_, fun fd => ?_⟩,
    ⟨fun handle => ?_, fun fd => ?_⟩, rest⟩
  · exact (same (.exported _ _ _) rfl).trans (one.1 handle)
  · exact (same (.fenced _ _ _) rfl).trans (one.2 fd)
  · exact (same (.exported _ _ _) rfl).trans (two.1 handle)
  · exact (same (.fenced _ _ _) rfl).trans (two.2 fd)

theorem LaidOut.append (laid : LaidOut log m)
    {more : List PresenterEvent} (other : ∀ event ∈ more, ¬ event.attaches m.packet.sequence) :
    LaidOut (log ++ more) m := by
  refine laid.congr fun event attaches => ?_
  rw [List.mem_append, or_iff_left]
  exact fun mem => other event mem attaches

structure PacketsInv (p : Presenter) : Prop where
  known : ∀ event ∈ p.log, ∀ q, event.attaches q → q ≤ p.sequence
  numbered : ∀ f ∈ p.flights, f.sent = false → f.message.packet.sequence ≤ p.sequence
  sent : ∀ m, .sent m ∈ p.log → m.packet.sequence ≤ p.sequence ∧ LaidOut p.log m
  waiting : p.invalid = false → ∀ f ∈ p.flights, f.sent = false → LaidOut p.log f.message
  trusted : p.phase ≠ .idle → p.invalid = false

def Bare (events : List PresenterEvent) : Prop :=
  ∀ event ∈ events, (∀ q, ¬ event.attaches q) ∧ ∀ m, event ≠ .sent m

variable {p : Presenter}

variable {q : Presenter}

theorem PacketsInv.framed (inv : PacketsInv p) (more : List PresenterEvent)
    (bare : Bare more) (log : q.log = p.log ++ more) (sequence : q.sequence = p.sequence)
    (flights : ∀ g ∈ q.flights, g.sent = false ->
      ∃ f ∈ p.flights, f.sent = false /\ g.message = f.message)
    (invalid : q.invalid = false -> p.invalid = false)
    (trusted : q.phase ≠ .idle -> q.invalid = false) : PacketsInv q where
  known := by
    rw [log, sequence]
    intro event mem n attaches
    rcases List.mem_append.mp mem with old | new
    · exact inv.known event old n attaches
    · exact absurd attaches ((bare event new).1 n)
  numbered := by
    rw [sequence]
    intro g mem unsent
    obtain ⟨f, old, waiting, same⟩ := flights g mem unsent
    rw [same]
    exact inv.numbered f old waiting
  sent := by
    rw [log, sequence]
    intro m mem
    rcases List.mem_append.mp mem with old | new
    · obtain ⟨numbered, laid⟩ := inv.sent m old
      exact ⟨numbered, laid.append fun event new => (bare event new).1 _⟩
    · exact absurd rfl ((bare _ new).2 m)
  waiting := by
    rw [log]
    intro valid g mem unsent
    obtain ⟨f, old, waiting, same⟩ := flights g mem unsent
    rw [same]
    exact (inv.waiting (invalid valid) f old waiting).append fun event new => (bare event new).1 _
  trusted := trusted

theorem bare_nil : Bare [] := by
  intro event mem
  cases mem

theorem bare_map {α : Type} (items : List α) (event : α -> PresenterEvent)
    (bare : ∀ item, (∀ q, ¬ (event item).attaches q) /\ ∀ m, event item ≠ .sent m) :
    Bare (items.map event) := by
  intro one mem
  obtain ⟨item, -, rfl⟩ := List.mem_map.mp mem
  exact bare item

theorem fail_packets (inv : PacketsInv p) : PacketsInv p.fail := by
  have bare : Bare ((p.flights.filter Flight.complete).map fun f =>
      .completed f.sequence .failed) := bare_map _ _ fun f => ⟨fun q => id, fun m => by simp⟩
  exact inv.framed _ bare rfl rfl (by simp [Presenter.fail]) (fun valid => valid)
    (fun busy => absurd rfl busy)

theorem refuse_packets (inv : PacketsInv p) (a : Presenter.PresentAnswers)
    (idle : p.phase = .idle) : PacketsInv (p.refuse a) where
  known := by
    intro event mem n attaches
    rcases List.mem_append.mp mem with old | new
    · exact Nat.le_succ_of_le (inv.known event old n attaches)
    · rw [List.mem_singleton.mp new] at attaches
      exact attaches.elim
  numbered := by
    intro f mem unsent
    rcases List.mem_append.mp mem with old | new
    · exact Nat.le_succ_of_le (inv.numbered f old unsent)
    · rw [List.mem_singleton.mp new]
      exact le_rfl
  sent := by
    intro m mem
    rcases List.mem_append.mp mem with old | new
    · obtain ⟨numbered, laid⟩ := inv.sent m old
      refine ⟨Nat.le_succ_of_le numbered, laid.append fun event new => ?_⟩
      rw [List.mem_singleton.mp new]
      exact id
    · simp at new
  waiting := fun valid => absurd valid (by simp [Presenter.refuse])
  trusted := fun busy => absurd idle busy

theorem queue_packets (inv : PacketsInv p) (a : Presenter.PresentAnswers)
    (item : Scheduled) (valid : p.invalid = false) (idle : p.phase = .idle) :
    PacketsInv (p.queue a item) := by
  obtain ⟨primary, video, carries, sequence⟩ := draft_carries p a item
  -- What the draft logs is about the new frame alone.
  have own : ∀ event ∈ (p.draft a item).log, ∀ q, event.attaches q -> q = p.sequence + 1 := by
    intro event mem q attaches
    rw [carries.log, sequence] at mem
    simp only [exports, fencings, List.mem_append, List.mem_map] at mem
    rcases mem with ((⟨_, -, rfl⟩ | ⟨_, -, rfl⟩) | ⟨_, -, rfl⟩) | ⟨_, -, rfl⟩ <;>
      exact Eq.symm attaches
  have unsent : ∀ event ∈ (p.draft a item).log, ∀ m, event ≠ .sent m := by
    intro event mem m
    rw [carries.log] at mem
    simp only [exports, fencings, List.mem_append, List.mem_map] at mem
    rcases mem with ((⟨_, -, rfl⟩ | ⟨_, -, rfl⟩) | ⟨_, -, rfl⟩) | ⟨_, -, rfl⟩ <;> simp
  have kept : ∀ m, m.packet.sequence <= p.sequence -> LaidOut p.log m ->
      LaidOut (p.queue a item).log m := by
    intro m numbered laid
    have log : (p.queue a item).log = p.log ++ ((p.draft a item).log ++
        [.presented (p.sequence + 1) ((p.draft a item).content 0)]) := List.append_assoc _ _ _
    rw [log]
    refine laid.append fun event mem attaches => ?_
    rcases List.mem_append.mp mem with new | last
    · have := own event new _ attaches
      omega
    · rw [List.mem_singleton.mp last] at attaches
      exact attaches
  refine ⟨?_, ?_, ?_, ?_, fun busy => absurd idle busy⟩
  · intro event mem n attaches
    rcases List.mem_append.mp mem with mem | last
    · rcases List.mem_append.mp mem with old | new
      · exact Nat.le_succ_of_le (inv.known event old n attaches)
      · exact (own event new n attaches).le
    · rw [List.mem_singleton.mp last] at attaches
      exact attaches.elim
  · intro f mem waiting
    rcases List.mem_append.mp mem with old | new
    · exact Nat.le_succ_of_le (inv.numbered f old waiting)
    · rw [List.mem_singleton.mp new]
      exact sequence.le
  · intro m mem
    rcases List.mem_append.mp mem with mem | last
    · rcases List.mem_append.mp mem with old | new
      · obtain ⟨numbered, laid⟩ := inv.sent m old
        exact ⟨Nat.le_succ_of_le numbered, kept m numbered laid⟩
      · exact absurd rfl (unsent _ new m)
    · simp at last
  · intro trusted f mem waiting
    have checked : ValidWirePacket (p.draft a item).packet (p.draft a item).fds.length = true := by
      simp only [Presenter.queue, decide_eq_false_iff_not, not_or, not_not] at trusted
      exact trusted.2.1
    rcases List.mem_append.mp mem with old | new
    · exact kept _ (inv.numbered f old waiting) (inv.waiting valid f old waiting)
    · rw [List.mem_singleton.mp new]
      refine (carries.laidOut checked).congr fun event attaches => ?_
      have named : event.attaches (p.sequence + 1) := sequence ▸ attaches
      simp only [Presenter.queue, List.mem_append, List.mem_singleton]
      constructor
      · rintro ((old | new) | rfl)
        · have := inv.known event old _ named
          omega
        · exact new
        · exact named.elim
      · exact fun new => .inl (.inr new)

theorem present_packets (inv : PacketsInv p) (a : Presenter.PresentAnswers)
    (idle : p.phase = .idle) : PacketsInv (p.present a) := by
  unfold Presenter.present
  extract_lets refuses guarded
  have checked : PacketsInv guarded /\ guarded.phase = .idle := by
    simp only [guarded]
    split
    · exact ⟨inv.framed [] bare_nil (List.append_nil _).symm rfl (fun g mem unsent =>
        ⟨g, mem, unsent, rfl⟩) (fun valid => by simp at valid) (fun busy => absurd idle busy), idle⟩
    · exact ⟨inv, idle⟩
  split
  · exact refuse_packets checked.1 a checked.2
  · split
    · exact refuse_packets checked.1 a checked.2
    next open_ =>
      simp only [not_or] at open_
      exact queue_packets checked.1 a _ (Bool.eq_false_iff.mpr open_.1) checked.2

theorem poll_packets (inv : PacketsInv p) (now : Base.TimeTicks) : PacketsInv (p.poll now) := by
  unfold Presenter.poll
  split
  · exact fail_packets inv
  next valid =>
    split
    · exact inv
    · split
      · exact fail_packets inv
      · exact inv.framed [] bare_nil (List.append_nil _).symm rfl
          (fun g mem unsent => ⟨g, mem, unsent, rfl⟩) id (fun _ => Bool.eq_false_iff.mpr valid)

theorem send_packets (inv : PacketsInv p) (answer : SendAnswer)
    (sending : p.phase = .sending) : PacketsInv (p.send answer) := by
  have valid : p.invalid = false := inv.trusted (by simp [sending])
  have whole : ∀ q : Presenter, q.log = p.log -> q.sequence = p.sequence -> q.flights = p.flights ->
      q.invalid = p.invalid -> PacketsInv q := by
    intro q log sequence flights invalid
    refine inv.framed [] bare_nil (by simp [log]) sequence (fun g mem unsent => ?_)
      (fun _ => valid) (fun _ => invalid.trans valid)
    exact ⟨g, flights ▸ mem, unsent, rfl⟩
  unfold Presenter.send
  split
  · exact whole _ rfl rfl rfl rfl
  next f found =>
    have mem : f ∈ p.flights := List.mem_of_find?_eq_some found
    have unsent : f.sent = false := by simpa using List.find?_some found
    split
    next =>
      have laid := inv.waiting valid f mem unsent
      have grown : ∀ m, LaidOut p.log m -> LaidOut (p.log ++ [.sent f.message]) m := fun m laid =>
        laid.append fun event new => by
          rw [List.mem_singleton.mp new]
          exact id
      have older : ∀ g ∈ p.flights.map fun g =>
          if g.sequence = f.sequence then { g with sent := true, message := {} } else g,
          g.sent = false -> g ∈ p.flights := by
        intro g moved waiting
        obtain ⟨h, old, rfl⟩ := List.mem_map.mp moved
        split at waiting
        · simp at waiting
        next other =>
          rw [if_neg other]
          exact old
      refine ⟨?_, ?_, ?_, ?_, fun _ => valid⟩
      · intro event mem n attaches
        rcases List.mem_append.mp mem with old | new
        · exact inv.known event old n attaches
        · rw [List.mem_singleton.mp new] at attaches
          exact attaches.elim
      · exact fun g moved waiting => inv.numbered g (older g moved waiting) waiting
      · intro m mem
        rcases List.mem_append.mp mem with old | new
        · exact ⟨(inv.sent m old).1, grown m (inv.sent m old).2⟩
        · obtain rfl := PresenterEvent.sent.inj (List.mem_singleton.mp new)
          exact ⟨inv.numbered f ‹_› unsent, grown _ laid⟩
      · exact fun _ g moved waiting =>
          grown _ (inv.waiting valid g (older g moved waiting) waiting)
    · exact whole _ rfl rfl rfl rfl
    · exact fail_packets inv

theorem Flight.reply_keeps {f f' : Flight} {now : Base.TimeTicks} {r : WirePacket}
    (replied : f.reply now r = some f') :
    f'.sequence = f.sequence /\ f'.sent = f.sent /\ f'.message = f.message := by
  unfold Flight.reply at replied
  split at replied
  · obtain rfl := Option.some.inj replied
    exact ⟨rfl, rfl, rfl⟩
  · split at replied
    · obtain rfl := Option.some.inj replied
      exact ⟨rfl, rfl, rfl⟩
    · split at replied
      · obtain rfl := Option.some.inj replied
        exact ⟨rfl, rfl, rfl⟩
      · cases replied

theorem releasedRead_bare (f : Flight) (r : WirePacket) : Bare (f.releasedRead r) := by
  unfold Flight.releasedRead
  split
  · exact bare_map _ _ fun image => ⟨fun q => id, fun m => by simp⟩
  · exact bare_nil

theorem onReply_packets (inv : PacketsInv p) (now : Base.TimeTicks) (r : WirePacket)
    (valid : p.invalid = false) : PacketsInv (p.onReply now r) := by
  have noted : PacketsInv { p with log := p.log ++ [.read r] } := by
    refine inv.framed [.read r] (fun event mem => ?_) rfl rfl
      (fun g mem unsent => ⟨g, mem, unsent, rfl⟩) id (fun _ => valid)
    rw [List.mem_singleton.mp mem]
    exact ⟨fun q => id, fun m => by simp⟩
  unfold Presenter.onReply
  dsimp only
  split
  · exact fail_packets noted
  next f found =>
    split
    · exact fail_packets noted
    next f' replied =>
      obtain ⟨-, sent, message⟩ := Flight.reply_keeps replied
      refine noted.framed _ (releasedRead_bare f r) rfl rfl (fun g mem unsent => ?_) id
        (fun _ => valid)
      obtain ⟨h, old, rfl⟩ := List.mem_map.mp mem
      split at unsent
      next same =>
        rw [if_pos same]
        exact ⟨f, List.mem_of_find?_eq_some found, sent ▸ unsent, message⟩
      next other =>
        rw [if_neg other]
        exact ⟨h, old, unsent, rfl⟩

theorem receive_packets (inv : PacketsInv p) (left : Nat) (now : Base.TimeTicks)
    (answer : ReceiveAnswer) (busy : p.phase = .receiving left) :
    PacketsInv (p.receive left now answer) := by
  have valid : p.invalid = false := inv.trusted (by simp [busy])
  have moved : ∀ phase, PacketsInv { p with phase } := fun phase =>
    inv.framed [] bare_nil (List.append_nil _).symm rfl
      (fun g mem unsent => ⟨g, mem, unsent, rfl⟩) id (fun _ => valid)
  unfold Presenter.receive
  dsimp only
  cases (ReceiveWireMessage {} answer).error with
  | none => exact onReply_packets (moved _) now _ valid
  | some error =>
    cases error with
    | again => exact moved _
    | invalid | connectionReset | protocol | io => exact fail_packets inv

theorem mem_acknowledge {older fs : List Flight} {g : Flight}
    (mem : g ∈ (Presenter.acknowledge older fs).1) :
    ∃ f ∈ fs, g = f \/ g = { f with complete := false } := by
  induction fs generalizing older with
  | nil => cases mem
  | cons f rest ih =>
    have later : ∀ older, g ∈ (Presenter.acknowledge older rest).1 ->
        ∃ h ∈ f :: rest, g = h \/ g = { h with complete := false } := by
      intro older mem
      obtain ⟨h, inside, same⟩ := ih mem
      exact ⟨h, List.mem_cons_of_mem _ inside, same⟩
    unfold Presenter.acknowledge at mem
    split at mem
    · rcases List.mem_cons.mp mem with rfl | mem
      · exact ⟨_, List.mem_cons_self, .inl rfl⟩
      · exact later _ mem
    · split at mem
      · exact ⟨g, mem, .inl rfl⟩
      · rcases List.mem_cons.mp mem with rfl | mem
        · exact ⟨_, List.mem_cons_self, .inr rfl⟩
        · exact later _ mem

theorem finish_packets (inv : PacketsInv p) (told : Bool)
    (busy : p.phase = .finishing) : PacketsInv (p.finish told) := by
  have valid : p.invalid = false := inv.trusted (by simp [busy])
  unfold Presenter.finish
  dsimp only
  split
  · exact fail_packets inv
  · have bare : Bare ((Presenter.acknowledge [] p.flights).2.map fun q => .completed q .ack) :=
      bare_map _ _ fun q => ⟨fun n => id, fun m => by simp⟩
    refine inv.framed _ bare rfl rfl (fun g mem unsent => ?_) id (fun _ => valid)
    obtain ⟨f, old, rfl | rfl⟩ := mem_acknowledge (List.mem_filter.mp mem).1
    · exact ⟨_, old, unsent, rfl⟩
    · exact ⟨f, old, unsent, rfl⟩

theorem schedule_packets (inv : PacketsInv p) (images : Nat -> Image)
    (image fence : Option Nat) (data : PlaneData) (idle : p.phase = .idle) :
    PacketsInv (p.scheduleOverlayPlane images image fence data) := by
  have refused : PacketsInv { p with invalid := true } :=
    inv.framed [] bare_nil (List.append_nil _).symm rfl
      (fun g mem unsent => ⟨g, mem, unsent, rfl⟩) (fun valid => by simp at valid)
      (fun busy => absurd idle busy)
  have either : ∀ (condition : Prop) [Decidable condition] (taken : Presenter), PacketsInv taken ->
      PacketsInv (if condition then { p with invalid := true } else taken) := by
    intro condition _ taken kept
    split
    · exact refused
    · exact kept
  cases image with
  | none => exact refused
  | some image => exact either _ _ { inv with }

theorem resize_packets (inv : PacketsInv p) (width height : Nat)
    (color : ColorSpace) : PacketsInv (p.resize width height color) := by
  unfold Presenter.resize
  split
  · exact inv
  · exact { inv with }

theorem next_packets {op : PresenterOp} (inv : PacketsInv p)
    (moved : Presenter.step p op q) : PacketsInv q := by
  obtain ⟨allowed, rfl⟩ := moved
  cases op with
  | resize width height color => exact resize_packets inv width height color
  | schedule images image fence data => exact schedule_packets inv images image fence data allowed
  | present answers => exact present_packets inv answers allowed
  | poll now => exact poll_packets inv now
  | send answer => exact send_packets inv answer allowed
  | receive now answer =>
    simp only [Presenter.next]
    split
    next left busy => exact receive_packets inv left now answer busy
    · exact inv
  | finish told => exact finish_packets inv told allowed

theorem run_packets {trace : List (Presenter × PresenterOp)}
    (run : Trace Presenter.step {} trace p) : PacketsInv p := by
  have empty : PacketsInv {} := ⟨by simp, by simp, by simp, by simp, by simp⟩
  exact run.preserves (fun _ _ _ inv moved => next_packets inv moved) empty

def tookFds (log : List HostEvent) : List Nat :=
  log.flatMap fun event => match event with
    | .took fds => fds
    | _ => []

def droppedFds (log : List HostEvent) : List Nat :=
  log.flatMap fun event => match event with
    | .dropped fds => fds
    | _ => []

namespace WireHost

variable {W P : Type}

def pendingFds (s : WireHost W) : List Nat := (s.pending.map fun arrival => arrival.message.fds).getD []

/-- Each descriptor received is closed once, or still with the pending frame. -/
def FdsKept (s : WireHost W) : Prop :=
  ∀ fd, (tookFds s.log).count fd = (droppedFds s.log).count fd + s.pendingFds.count fd

variable {s t : WireHost W}

theorem FdsKept.same (kept : FdsKept s) (took : tookFds t.log = tookFds s.log)
    (dropped : droppedFds t.log = droppedFds s.log) (pending : t.pending = s.pending) :
    FdsKept t := by
  unfold FdsKept pendingFds
  rw [took, dropped, pending]
  exact kept

theorem FdsKept.noted (kept : FdsKept s) (event : HostEvent)
    (log : t.log = s.log ++ [event]) (pending : t.pending = s.pending)
    (took : tookFds [event] = []) (dropped : droppedFds [event] = []) : FdsKept t := by
  refine kept.same ?_ ?_ pending
  · rw [log]
    simpa [tookFds] using took
  · rw [log]
    simpa [droppedFds] using dropped

theorem FdsKept.dropped (kept : FdsKept s) (log : t.log = s.dropPending.log)
    (pending : t.pending = none) : FdsKept t := by
  intro fd
  have before := kept fd
  unfold pendingFds at before ⊢
  rw [log, pending]
  cases held : s.pending <;>
    simp [dropPending, held, tookFds, droppedFds, List.count_append] at before ⊢ <;> omega

theorem FdsKept.reply (kept : FdsKept s) (operation : WireOp)
    (channel sequence plane result : Nat) :
    FdsKept (s.reply operation channel sequence plane result) :=
  reply_keeps kept operation channel sequence plane result (kept.dropped rfl rfl)
    fun _ _ _ => kept.noted _ rfl rfl rfl rfl

theorem FdsKept.releases (kept : FdsKept s) (objects : List Nat) :
    FdsKept (objects.foldl release s) := by
  induction objects generalizing s with
  | nil => exact kept
  | cons object rest ih =>
    refine ih ?_
    unfold release
    split
    · exact kept
    · exact kept.reply _ _ _ _ _

theorem FdsKept.runSession (kept : FdsKept s) (step : Session.Step W) :
    FdsKept (s.runSession step) := by
  have called : FdsKept { s with host := s.host.apply step } := kept.same rfl rfl rfl
  exact called.releases _

theorem FdsKept.disconnect (kept : FdsKept s) : FdsKept s.disconnect :=
  kept.dropped rfl rfl

theorem FdsKept.submit (kept : FdsKept s) (backend : Backend W P)
    (a : SubmitAnswers) : FdsKept (s.submit backend a) := by
  have leased : ∀ arrival video, FdsKept (s.newLeases arrival video) := fun arrival video =>
    kept.same rfl rfl rfl
  have offered : ∀ arrival primary video, FdsKept (s.offer backend a arrival primary video).1 := by
    intro arrival primary video
    unfold offer
    split
    · exact leased arrival video
    · exact (leased arrival video).runSession _
  have refused : ∀ (t : WireHost W) (arrival : Arrival) (result : SubmitResult), FdsKept t ->
      FdsKept (t.refuseFrame arrival result).dropPending := fun t arrival result kept =>
    (kept.reply _ _ _ _ _).dropped rfl rfl
  have submitted : ∀ arrival, FdsKept (s.submitArrival backend a arrival) := by
    intro arrival
    unfold submitArrival
    dsimp only
    split
    · exact refused s arrival _ kept
    next primary _ =>
      split
      · exact refused s arrival _ kept
      · have next := offered arrival primary (s.videoBuffer a arrival.message)
        split
        · have taken : ∀ t : WireHost W, FdsKept t ->
              FdsKept (t.takeFrame arrival primary (s.videoBuffer a arrival.message)) := by
            intro t kept
            unfold takeFrame
            refine FdsKept.reply ?_ _ _ _ _ _
            exact kept.same rfl rfl rfl
          exact (taken _ next).dropped rfl rfl
        · exact next
        · exact refused _ arrival _ next
  unfold WireHost.submit
  split
  · exact kept.same rfl rfl rfl
  · exact (submitted _).same rfl rfl rfl

-- `fds` are the descriptors of a message received and not yet put anywhere.
theorem FdsKept.takeMessage {m : WireMessage} (socket : Nat) (empty : s.pending = none)
    (owing : ∀ fd, (tookFds s.log).count fd = (droppedFds s.log).count fd + m.fds.count fd) :
    FdsKept (s.takeMessage socket m) := by
  have discarded : ∀ t : WireHost W, t.log = s.log -> t.pending = s.pending ->
      FdsKept (t.discard m) := by
    intro t log pending fd
    have before := owing fd
    simp only [discard, note, WireHost.disconnect, dropPending, log, pending, empty, pendingFds,
      tookFds, droppedFds, Option.toList_none, List.map_nil, List.append_nil, List.flatMap_append,
      List.flatMap_singleton, List.count_append, Option.map_none, Option.getD_none,
      List.count_nil] at before ⊢
    omega
  unfold WireHost.takeMessage
  split
  · exact discarded _ rfl rfl
  · dsimp only
    split
    · intro fd
      have before := owing fd
      simp [note, pendingFds, tookFds, droppedFds] at before ⊢
      omega
    · exact discarded _ rfl rfl

theorem FdsKept.receive (kept : FdsKept s) (answer : ReceiveAnswer)
    (empty : s.pending = none) : FdsKept (s.receive answer) := by
  have held : s.pendingFds = [] := by simp [pendingFds, empty]
  -- What `recvmsg` brought is closed at once or in the message.
  have owing : ∀ fd, (brought answer).count fd = (ReceiveWireMessage {} answer).closed.count fd +
      (ReceiveWireMessage {} answer).message.fds.count fd := by
    intro fd
    cases answer with
    | again | failed => rfl
    | datagram d =>
      simp only [brought, ReceiveWireMessage]
      split <;> simp
  unfold WireHost.receive
  split
  · exact kept.same rfl rfl rfl
  next socket active =>
    dsimp only
    generalize got : ReceiveWireMessage {} answer = received at owing
    have noted : ∀ fd, (tookFds (((s.note (.took (brought answer))).note
        (.dropped received.closed)).log)).count fd =
        (droppedFds (((s.note (.took (brought answer))).note
          (.dropped received.closed)).log)).count fd + received.message.fds.count fd := by
      intro fd
      have before := kept fd
      have new := owing fd
      rw [held] at before
      simp [note, tookFds, droppedFds] at before ⊢
      omega
    have closed : received.error ≠ none -> received.message.fds = [] := by
      rw [<- got]
      cases answer with
      | again | failed => exact fun _ => rfl
      | datagram d =>
        simp only [ReceiveWireMessage]
        split
        · exact fun _ => rfl
        · exact fun error => absurd rfl error
    cases error : received.error with
    | none => exact FdsKept.takeMessage socket empty noted
    | some code =>
      have none := closed (by simp [error])
      have same : FdsKept ((s.note (.took (brought answer))).note (.dropped received.closed)) := by
        intro fd
        have := noted fd
        rw [none] at this
        simpa [pendingFds, note, empty] using this
      cases code with
      | again => exact same.same rfl rfl rfl
      | invalid | connectionReset | protocol | io => exact same.disconnect.same rfl rfl rfl

structure FdsInv (s : WireHost W) : Prop where
  kept : FdsKept s
  empty : s.phase = .receiving → s.pending = none

theorem next_fds (backend : Backend W P) {op : WireHostOp W} (inv : FdsInv s)
    (moved : WireHost.step backend s op t) : FdsInv t := by
  obtain ⟨allowed, rfl⟩ := moved
  have kept := inv.kept
  cases op with
  | connect lost made =>
    simp only [next, connect]
    split
    · exact inv
    · exact ⟨kept.noted _ rfl rfl rfl rfl, inv.empty⟩
  | detach =>
    simp only [next, detach]
    split
    · exact ⟨kept.same rfl rfl rfl, inv.empty⟩
    · exact inv
  | world after => exact ⟨kept.same rfl rfl rfl, inv.empty⟩
  | enter =>
    simp only [next, enter]
    split
    · exact ⟨kept.dropped rfl rfl, fun busy => by simp at busy⟩
    · exact ⟨kept.same rfl rfl rfl, fun busy => by simp at busy⟩
  | losePeer lost =>
    simp only [next, losePeer]
    split
    · exact ⟨kept.dropped rfl rfl, fun busy => by simp at busy⟩
    · exact ⟨kept.same rfl rfl rfl, fun busy => by simp at busy⟩
  | pollSession =>
    have closing : FdsKept (s.closeSession backend) := by
      unfold closeSession
      split
      · refine FdsKept.runSession ?_ _
        exact kept.dropped rfl rfl
      · exact kept
    have polled := closing.runSession ((s.closeSession backend).host.session.poll backend
      (s.closeSession backend).host.world)
    have noted : ∀ u : WireHost W, FdsKept u -> FdsKept (u.noteProcessed backend) := by
      intro u kept
      unfold noteProcessed
      split
      · exact (FdsKept.reply kept _ _ _ _ _).same rfl rfl rfl
      · exact kept
    have done := noted _ polled
    simp only [next, pollSession]
    split
    · refine ⟨done.same rfl rfl rfl, fun busy => ?_⟩
      dsimp only at busy
      split at busy <;> cases busy
    · exact ⟨done.same rfl rfl rfl, fun busy => by simp at busy⟩
  | retire => exact ⟨kept.noted _ rfl rfl rfl rfl, fun busy => by simp [next, retire, note] at busy⟩
  | recreate created =>
    simp only [next, recreate]
    split
    · exact ⟨kept.same rfl rfl rfl, fun busy => by simp [leave] at busy⟩
    · split
      · exact ⟨kept.same rfl rfl rfl, fun busy => by simp [leave] at busy⟩
      · exact ⟨kept.same rfl rfl rfl, fun busy => by simp at busy⟩
  | activate =>
    have activated : FdsKept (s.activate) /\ (s.activate).phase ≠ .receiving := by
      unfold activate
      dsimp only
      constructor
      · split
        · exact kept.noted _ rfl rfl rfl rfl
        · exact kept.same rfl rfl rfl
      · split <;> simp
    exact ⟨activated.1, fun busy => absurd busy activated.2⟩
  | send answer =>
    simp only [next, send]
    split
    · refine ⟨kept.same rfl rfl rfl, fun busy => ?_⟩
      by_contra held
      have some : s.pending.isSome := Option.isSome_iff_ne_none.mpr held
      simp only [some] at busy
      split at busy <;> simp at busy
    · exact ⟨kept.same rfl rfl rfl, fun busy => by simp at busy⟩
    · have sending : s.phase = .sending := allowed
      split
      · exact ⟨kept.noted _ rfl rfl rfl rfl, fun busy => by simp [note, sending] at busy⟩
      · exact ⟨kept.same rfl rfl rfl, fun busy => by simp at busy⟩
      · exact ⟨kept.disconnect.same rfl rfl rfl, fun busy => by simp at busy⟩
  | receive answer =>
    refine ⟨FdsKept.receive kept answer (inv.empty allowed), fun busy => ?_⟩
    rcases receive_phase s answer with idle | submitting
    · exact absurd (idle.symm.trans busy) (by simp)
    · exact absurd (submitting.symm.trans busy) (by simp)
  | submit answers =>
    refine ⟨FdsKept.submit kept backend answers, fun busy => ?_⟩
    exact absurd ((submit_phase backend s answers).symm.trans busy) (by simp)
  | free => exact ⟨(kept.dropped rfl rfl : FdsKept s.dropPending).noted _ rfl rfl rfl rfl,
      fun busy => by simp [next, free, note] at busy⟩

theorem run_fds (backend : Backend W P) {world : W} {trace : List (WireHost W × WireHostOp W)} (run : Trace (WireHost.step backend) (start world) trace s) : FdsKept s := by
  have fresh : FdsInv (start world) := ⟨fun fd => rfl, fun _ => rfl⟩
  have preserved : ∀ s op t, FdsInv s -> WireHost.step backend s op t -> FdsInv t :=
    fun _ _ _ inv moved => next_fds backend inv moved
  exact (run.preserves preserved fresh).kept

end WireHost

structure PacketsAgree (p : Presenter) : Prop where
  sent : ∀ m, .sent m ∈ p.log → LaidOut p.log m ∧
    ∀ into, ReceiveWireMessage into (.datagram (.of m)) = ⟨none, m, into.fds⟩
  waiting : p.invalid = false → ∀ f ∈ p.flights, f.sent = false → LaidOut p.log f.message

/-- A packet with another number of descriptors is refused, and every one received is closed. -/
def Refuses (into : WireMessage) (d : Datagram) : Prop :=
  d.received.length ≠ d.packet.expected →
    (ReceiveWireMessage into (.datagram d)).error ≠ none ∧
      (ReceiveWireMessage into (.datagram d)).message.fds = [] ∧
      (ReceiveWireMessage into (.datagram d)).closed = into.fds ++ d.received

-- A page of 64 by 64 with a software video of 16 by 16 over it, each with a fence.
def pageHeader (width height : Nat) : List Nat :=
  [0, 1, 1, 2, width, width * 4, height, width * height * 4, 12, 0, 0, 0, 0, 1]

def pageImage (id : Nat) : Image :=
  if id = 1 then
    { width := 64, height := 64, handle := ⟨pageHeader 64 64, [10, 11], List.replicate 8 0⟩ }
  else
    { videoFormat := true, softwareVideo := true, softwareFrame := 7, width := 16, height := 16
      handle := ⟨pageHeader 16 16, [20, 21], List.replicate 8 0⟩ }

def square (side : Rat) : Rect := ⟨.finite 0, .finite 0, .finite side, .finite side⟩

def pagePlane (zOrder : Int) (side : Rat) : PlaneData :=
  { zOrder, displayBounds := square side, cropRect := square 1 }

def pageOps : List PresenterOp :=
  [.resize 64 64 .srgb, .schedule pageImage (some 1) (some 30) (pagePlane 0 64),
    .schedule pageImage (some 2) (some 31) (pagePlane (-1) 16),
    .present { now := 0, images := pageImage }, .poll 0, .send .sent]

def sentFds (log : List PresenterEvent) : List (List Nat) :=
  log.filterMap fun event => match event with
    | .sent m => some m.fds
    | _ => none

end ChromiumHmos.Overlay
