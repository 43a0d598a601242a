import ChromiumHmos.Lib.ByteStream
import ChromiumHmos.Lib.Words
import ChromiumHmos.Base.Value

set_option autoImplicit false

/-!
# WebSocket frames

The frames `aura_shell/ohos_mcp_server.cc` sends to the browser's debugging port, and those it
receives.
-/

namespace ChromiumHmos.Mcp

open Base Lib

def kMaxCdpResponseBytes : Nat := 8 * 1024 * 1024

-- The second byte of a header and the longer sizes, with the bit that says whether there is a mask.
def sizeBytes (maskBit : UInt8) (size : Nat) : Bytes :=
  if size < 126 then [maskBit ||| UInt8.ofNat size]
  else if size <= 65535 then [maskBit ||| 126, UInt8.ofNat (size >>> 8), UInt8.ofNat size]
  else
    (maskBit ||| 127) ::
      [56, 48, 40, 32, 24, 16, 8, 0].map fun shift => UInt8.ofNat (size >>> shift)

def applyMask (mask payload : Bytes) : Bytes :=
  payload.mapIdx fun index byte => byte ^^^ mask.getD (index % 4) 0

-- `seed` is the clock reading the mask is made of, its lowest byte first.
def webSocketFrame (payload : Bytes) (opcode : UInt8) (seed : UInt32) : Bytes :=
  [0x80 ||| opcode] ++ sizeBytes 0x80 payload.length ++ wordBytes seed ++
    applyMask (wordBytes seed) payload

def sendWebSocketFrame (accept : Acceptance) (payload : Bytes) (opcode : UInt8) (seed : UInt32) :
    Bool × Bytes :=
  sendAll accept 0 (webSocketFrame payload opcode seed)

def bigEndian (bytes : Bytes) : Nat :=
  bytes.foldl (fun size value => size * 256 + value.toNat) 0

def receiveSize (second : UInt8) (stream : Incoming) : Option Nat × Incoming :=
  let size := second &&& 0x7f
  if size = 126 then
    match stream.exactly 2 with
    | (none, after) => (none, after)
    | (some extended, after) => (some (bigEndian extended), after)
  else if size = 127 then
    match stream.exactly 8 with
    | (none, after) => (none, after)
    | (some extended, after) => (some (bigEndian extended), after)
  else (some size.toNat, stream)

def receiveMask (second : UInt8) (stream : Incoming) : Option Bytes × Incoming :=
  if second &&& 0x80 = 0 then (some [], stream) else stream.exactly 4

/-- The opcode and the payload, or what is written to `error`, if anything is. -/
def receiveWebSocketFrame (stream : Incoming) :
    Except (Option String) (UInt8 × Bytes) × Incoming :=
  match stream.exactly 2 with
  | (none, after) => (.error (some "CDP WebSocket closed"), after)
  | (some header, after) =>
    let second := header.getD 1 0
    match receiveSize second after with
    | (none, after) => (.error none, after)
    | (some size, after) =>
      if kMaxCdpResponseBytes < size then
        (.error (some "CDP WebSocket response is too large"), after)
      else
        match receiveMask second after with
        | (none, after) => (.error none, after)
        | (some mask, after) =>
          match after.exactly size with
          | (none, after) => (.error none, after)
          | (some payload, after) =>
            let unmasked :=
              if second &&& 0x80 = 0 then payload else applyMask mask payload
            (.ok (header.getD 0 0 &&& 0x0f, unmasked), after)

variable {second : UInt8} {stream after : Incoming}

theorem receiveSize_shrinks {size : Nat} (read : receiveSize second stream = (some size, after)) :
    after.bytes.length <= stream.bytes.length := by
  simp only [receiveSize] at read
  split at read
  · cases part : stream.exactly 2 with
    | mk got rest =>
      cases got with
      | none => simp [part] at read
      | some extended =>
        simp only [part, Prod.mk.injEq] at read
        rw [<- read.2, (exactly_read part).2, List.length_append]
        omega
  · split at read
    · cases part : stream.exactly 8 with
      | mk got rest =>
        cases got with
        | none => simp [part] at read
        | some extended =>
          simp only [part, Prod.mk.injEq] at read
          rw [<- read.2, (exactly_read part).2, List.length_append]
          omega
    · rw [<- (Prod.mk.inj read).2]

theorem receiveMask_shrinks {mask : Bytes} (read : receiveMask second stream = (some mask, after)) :
    after.bytes.length <= stream.bytes.length := by
  simp only [receiveMask] at read
  split at read
  · rw [<- (Prod.mk.inj read).2]
  · rw [(exactly_read read).2, List.length_append]
    omega

theorem receive_shrinks {frame : UInt8 × Bytes}
    (read : receiveWebSocketFrame stream = (.ok frame, after)) :
    after.bytes.length < stream.bytes.length := by
  unfold receiveWebSocketFrame at read
  split at read
  · cases read
  · rename_i header afterHeader headerRead
    have two := exactly_read headerRead
    have first : afterHeader.bytes.length + 2 = stream.bytes.length := by
      rw [two.2, List.length_append, two.1]
      omega
    simp only at read
    split at read
    · cases read
    · rename_i size afterSize sizeRead
      have second := receiveSize_shrinks sizeRead
      split at read
      · cases read
      · split at read
        · cases read
        · rename_i mask afterMask maskRead
          have third := receiveMask_shrinks maskRead
          split at read
          · cases read
          · rename_i payload last payloadRead
            have fourth := (exactly_read payloadRead).2
            rw [<- (Prod.mk.inj read).2]
            rw [fourth, List.length_append] at third
            omega

/-- A frame as any peer may write it: any first byte, masked or not. -/
structure Frame where
  first : UInt8
  payload : Bytes
  mask : Option UInt32

def Frame.opcode (frame : Frame) : UInt8 := frame.first &&& 0x0f

def Frame.bytes (frame : Frame) : Bytes :=
  match frame.mask with
  | none => [frame.first] ++ sizeBytes 0 frame.payload.length ++ frame.payload
  | some seed =>
    [frame.first] ++ sizeBytes 0x80 frame.payload.length ++ wordBytes seed ++
      applyMask (wordBytes seed) frame.payload

theorem applyMask_length (mask payload : Bytes) : (applyMask mask payload).length = payload.length :=
  List.length_mapIdx

theorem applyMask_twice (mask payload : Bytes) : applyMask mask (applyMask mask payload) = payload := by
  apply List.ext_getElem
  · rw [applyMask_length, applyMask_length]
  · intro index _ _
    simp [applyMask]

theorem exactly_part {stream : Incoming} {part rest : Bytes} (whole : stream.bytes = part ++ rest) :
    ∃ after, stream.exactly part.length = (some part, after) /\ after.bytes = rest /\
      after.chunk = stream.chunk := by
  have enough : part.length <= stream.bytes.length := by
    rw [whole, List.length_append]
    omega
  obtain ⟨read, left, chunk⟩ := exactly_some stream part.length enough
  rw [whole, List.take_left] at read
  rw [whole, List.drop_left] at left
  generalize stream.exactly part.length = result at read left chunk
  obtain ⟨got, after⟩ := result
  simp only at read left chunk
  subst read
  exact ⟨after, rfl, left, chunk⟩

theorem short_size (maskBit : UInt8) (bit : maskBit = 0 \/ maskBit = 0x80) (size : Nat)
    (short : size < 126) :
    (maskBit ||| UInt8.ofNat size) &&& 0x7f = UInt8.ofNat size /\
      (maskBit ||| UInt8.ofNat size) &&& 0x80 = maskBit := by
  have all : ∀ n : Fin 126,
      ((0 : UInt8) ||| UInt8.ofNat n.val) &&& 0x7f = UInt8.ofNat n.val /\
      ((0 : UInt8) ||| UInt8.ofNat n.val) &&& 0x80 = 0 /\
      ((0x80 : UInt8) ||| UInt8.ofNat n.val) &&& 0x7f = UInt8.ofNat n.val /\
      ((0x80 : UInt8) ||| UInt8.ofNat n.val) &&& 0x80 = 0x80 := by decide
  have own := all ⟨size, short⟩
  rcases bit with rfl | rfl
  · exact ⟨own.1, own.2.1⟩
  · exact ⟨own.2.2.1, own.2.2.2⟩

-- A byte after those above it.
theorem byte_joined (size shift : Nat) :
    size >>> (shift + 8) * 256 + (UInt8.ofNat (size >>> shift)).toNat = size >>> shift := by
  rw [UInt8.toNat_ofNat', Nat.shiftRight_add]
  omega

theorem bigEndian_two (size : Nat) (fits : size < 2 ^ 16) :
    bigEndian [UInt8.ofNat (size >>> 8), UInt8.ofNat size] = size := by
  have top : size >>> (8 + 8) = 0 := Nat.shiftRight_eq_zero _ _ fits
  have low := byte_joined size 8
  rw [top] at low
  simp only [bigEndian, List.foldl_cons, List.foldl_nil, low]
  exact byte_joined size 0

theorem bigEndian_eight (size : Nat) (fits : size < 2 ^ 64) :
    bigEndian ([56, 48, 40, 32, 24, 16, 8, 0].map fun shift => UInt8.ofNat (size >>> shift)) =
      size := by
  have top : size >>> (56 + 8) = 0 := Nat.shiftRight_eq_zero _ _ fits
  have high := byte_joined size 56
  rw [top] at high
  simp only [bigEndian, List.map_cons, List.map_nil, List.foldl_cons, List.foldl_nil, high]
  rw [byte_joined size 48, byte_joined size 40, byte_joined size 32, byte_joined size 24, byte_joined size 16,
    byte_joined size 8, byte_joined size 0]
  rfl

variable {rest : Bytes}

theorem receiveSize_sizeBytes (maskBit : UInt8) (bit : maskBit = 0 \/ maskBit = 0x80) (size : Nat)
    (fits : size < 2 ^ 64) (whole : second :: stream.bytes = sizeBytes maskBit size ++ rest) :
    second &&& 0x80 = maskBit /\ ∃ after, receiveSize second stream = (some size, after) /\
      after.bytes = rest /\ after.chunk = stream.chunk := by
  unfold sizeBytes at whole
  split at whole
  · rename_i short
    obtain ⟨rfl, left⟩ := List.cons.inj whole
    obtain ⟨low, high⟩ := short_size maskBit bit size short
    refine ⟨high, stream, ?_, left, rfl⟩
    have value : (UInt8.ofNat size).toNat = size := by
      rw [UInt8.toNat_ofNat']
      omega
    have apart : ∀ other : Nat, 126 <= other -> other < 256 ->
        UInt8.ofNat size ≠ UInt8.ofNat other := by
      intro other least most same
      have equal := congrArg UInt8.toNat same
      rw [UInt8.toNat_ofNat', UInt8.toNat_ofNat'] at equal
      omega
    have not126 : UInt8.ofNat size ≠ 126 := apart 126 (by omega) (by omega)
    have not127 : UInt8.ofNat size ≠ 127 := apart 127 (by omega) (by omega)
    simp [receiveSize, low, not126, not127, value]
  · split at whole
    · rename_i long fits16
      obtain ⟨rfl, left⟩ := List.cons.inj whole
      have own : (maskBit ||| 126) &&& 0x7f = 126 /\ (maskBit ||| 126) &&& 0x80 = maskBit := by
        rcases bit with rfl | rfl <;> decide
      obtain ⟨after, read, remaining, chunk⟩ :=
        @exactly_part stream [UInt8.ofNat (size >>> 8), UInt8.ofNat size] rest left
      refine ⟨own.2, after, ?_, remaining, chunk⟩
      have two : stream.exactly 2 =
          (some [UInt8.ofNat (size >>> 8), UInt8.ofNat size], after) := read
      simp [receiveSize, own.1, two, bigEndian_two size (by omega)]
    · rename_i long longer
      obtain ⟨rfl, left⟩ := List.cons.inj whole
      have own : (maskBit ||| 127) &&& 0x7f = 127 /\ (maskBit ||| 127) &&& 0x80 = maskBit := by
        rcases bit with rfl | rfl <;> decide
      obtain ⟨after, read, remaining, chunk⟩ := exactly_part left
      refine ⟨own.2, after, ?_, remaining, chunk⟩
      have eight : stream.exactly 8 = (some ([56, 48, 40, 32, 24, 16, 8, 0].map fun shift =>
          UInt8.ofNat (size >>> shift)), after) := read
      have value := bigEndian_eight size (by omega)
      simp only [receiveSize, own.1, eight, value]
      rfl

-- What follows the first byte of a frame.
def Frame.afterFirst (frame : Frame) : Bytes :=
  match frame.mask with
  | none => sizeBytes 0 frame.payload.length ++ frame.payload
  | some seed =>
    sizeBytes 0x80 frame.payload.length ++
      (wordBytes seed ++ applyMask (wordBytes seed) frame.payload)

variable (frame : Frame)

theorem Frame.bytes_eq : frame.bytes = frame.first :: frame.afterFirst := by
  cases masked : frame.mask <;> simp [Frame.bytes, Frame.afterFirst, masked]

theorem sizeBytes_cons (maskBit : UInt8) (size : Nat) :
    ∃ second more, sizeBytes maskBit size = second :: more := by
  unfold sizeBytes
  split
  · exact ⟨_, _, rfl⟩
  · split <;> exact ⟨_, _, rfl⟩

theorem receive_frame (fits : frame.payload.length <= kMaxCdpResponseBytes) (whole : stream.bytes = frame.bytes ++ rest) :
    ∃ after, receiveWebSocketFrame stream = (.ok (frame.opcode, frame.payload), after) /\
      after.bytes = rest /\ after.chunk = stream.chunk := by
  rw [frame.bytes_eq] at whole
  have limit : kMaxCdpResponseBytes = 8388608 := rfl
  have fits64 : frame.payload.length < 2 ^ 64 := by omega
  cases masked : frame.mask with
  | none =>
    obtain ⟨second, more, size⟩ := sizeBytes_cons 0 frame.payload.length
    rw [Frame.afterFirst, masked] at whole
    simp only [size] at whole
    obtain ⟨header, read, left, chunk⟩ := @exactly_part stream [frame.first, second]
      (more ++ frame.payload ++ rest) whole
    have sized : second :: header.bytes =
        sizeBytes 0 frame.payload.length ++ (frame.payload ++ rest) := by
      rw [left, size]
      simp
    obtain ⟨plain, afterSize, sizeRead, sizeLeft, sizeChunk⟩ :=
      receiveSize_sizeBytes 0 (Or.inl rfl) _ fits64 sized
    obtain ⟨last, payloadRead, payloadLeft, payloadChunk⟩ := exactly_part sizeLeft
    refine ⟨last, ?_, payloadLeft, payloadChunk.trans (sizeChunk.trans chunk)⟩
    have two : stream.exactly 2 = (some [frame.first, second], header) := read
    simp [receiveWebSocketFrame, two, sizeRead, Nat.not_lt.mpr fits, receiveMask, plain,
      payloadRead, Frame.opcode]
  | some seed =>
    obtain ⟨second, more, size⟩ := sizeBytes_cons 0x80 frame.payload.length
    rw [Frame.afterFirst, masked] at whole
    simp only [size] at whole
    obtain ⟨header, read, left, chunk⟩ := @exactly_part stream [frame.first, second]
      (more ++ (wordBytes seed ++ applyMask (wordBytes seed) frame.payload) ++ rest) whole
    have sized : second :: header.bytes = sizeBytes 0x80 frame.payload.length ++
        (wordBytes seed ++ (applyMask (wordBytes seed) frame.payload ++ rest)) := by
      rw [left, size]
      simp
    obtain ⟨bit, afterSize, sizeRead, sizeLeft, sizeChunk⟩ :=
      receiveSize_sizeBytes 0x80 (Or.inr rfl) _ fits64 sized
    obtain ⟨afterMask, maskRead, maskLeft, maskChunk⟩ := exactly_part sizeLeft
    obtain ⟨last, payloadRead, payloadLeft, payloadChunk⟩ := exactly_part maskLeft
    refine ⟨last, ?_, payloadLeft,
      payloadChunk.trans (maskChunk.trans (sizeChunk.trans chunk))⟩
    have two : stream.exactly 2 = (some [frame.first, second], header) := read
    have mask : receiveMask second afterSize = (some (wordBytes seed), afterMask) := by
      have isMasked : second &&& 0x80 ≠ 0 := by
        rw [bit]
        decide
      rw [receiveMask, if_neg isMasked]
      exact maskRead
    rw [applyMask_length] at payloadRead
    simp [receiveWebSocketFrame, two, sizeRead, Nat.not_lt.mpr fits, mask, bit, payloadRead,
      applyMask_twice, Frame.opcode]

-- The size alone refuses a longer frame.
theorem receive_oversize (plain : frame.mask = none)
    (long : kMaxCdpResponseBytes < frame.payload.length) (fits : frame.payload.length < 2 ^ 64) (whole : stream.bytes = frame.bytes ++ rest) :
    (receiveWebSocketFrame stream).1 =
      .error (some "CDP WebSocket response is too large") := by
  rw [frame.bytes_eq] at whole
  obtain ⟨second, more, size⟩ := sizeBytes_cons 0 frame.payload.length
  rw [Frame.afterFirst, plain] at whole
  simp only [size] at whole
  obtain ⟨header, read, left, _⟩ := @exactly_part stream [frame.first, second]
    (more ++ frame.payload ++ rest) whole
  have sized : second :: header.bytes =
      sizeBytes 0 frame.payload.length ++ (frame.payload ++ rest) := by
    rw [left, size]
    simp
  obtain ⟨_, afterSize, sizeRead, _, _⟩ := receiveSize_sizeBytes 0 (Or.inl rfl) _ fits sized
  have two : stream.exactly 2 = (some [frame.first, second], header) := read
  simp [receiveWebSocketFrame, two, sizeRead, long]

theorem webSocketFrame_bytes (payload : Bytes) (opcode : UInt8) (seed : UInt32) :
    webSocketFrame payload opcode seed =
      Frame.bytes { first := 0x80 ||| opcode, payload := payload, mask := some seed } := rfl

theorem opcode_kept (opcode : UInt8) (small : opcode < 16) : (0x80 ||| opcode) &&& 0x0f = opcode := by
  have all : ∀ n : Fin 16, ((0x80 : UInt8) ||| UInt8.ofNat n.val) &&& 0x0f = UInt8.ofNat n.val := by
    decide
  have bound : opcode.toNat < 16 := small
  have own := all ⟨opcode.toNat, bound⟩
  rwa [UInt8.ofNat_toNat] at own

end ChromiumHmos.Mcp
