import ChromiumHmos.Base.Value

set_option autoImplicit false

/-!
# Packets of the phone GPU channel
-/

namespace ChromiumHmos.Ozone.PhoneGpu

open Base

inductive OhosOutputMode
  | sdr8
  | sdr10
  | hdr10
  | p3Sdr10
  -- A value the enumeration does not name.
  | other (code : Nat)
deriving DecidableEq

structure OhosOutputColor where
  mode : OhosOutputMode := .sdr8
  whiteMillinits : Nat := 0
  peakMillinits : Nat := 0
deriving DecidableEq

def ValidOhosOutputColor (color : OhosOutputColor) : Bool :=
  match color.mode with
  | .sdr8 | .sdr10 | .p3Sdr10 => color.whiteMillinits = 0 ∧ color.peakMillinits = 0
  | .hdr10 => color.whiteMillinits > 0 ∧ color.whiteMillinits ≤ 10000000 ∧
      color.peakMillinits ≥ color.whiteMillinits ∧ color.peakMillinits ≤ 10000000
  | .other _ => false

def OhosOutputNativeFormat (color : OhosOutputColor) : Nat := if color.mode = .sdr8 then 12 else 34

def kSharedMagic : Nat := 0x50475335
def kSharedMaxFds : Nat := 8
def kMaxFrameBytes : Nat := 64 * 1024 * 1024
def sharedTailSize : Nat := 1044

def IsSharedImageFormat (format : Nat) : Bool := format = 12 ∨ format = 20 ∨ format = 39

def SharedImageBytesPerPixel (format : Nat) : Nat :=
  if format = 39 then 8 else if IsSharedImageFormat format then 4 else 0

inductive SharedOp
  | acquire
  | buffer
  | present
  | cancel
  | reply
  | unavailable
  | timing
  | discard
  | vulkanState
  | vulkanFailed
  | colorProbe
  | colorFailed
  | hdrDisplayQuery
  | hdrDisplayState
  | colorReady
  | allocateImage
  | image
  | graphiteState
  | glColorState
  | openOverlayChannel
  | overlayChannel
  | overlayPresented
  | other (code : Nat)
deriving DecidableEq

inductive Result
  | presented
  | dropped
  | failed

def Result.code : Result → Nat
  | .presented => 0
  | .dropped => 1
  | .failed => 2

abbrev ParcelHeader := Vector Nat 14

structure SharedPacket where
  magic : Nat := kSharedMagic
  operation : SharedOp := .acquire
  sequence : Nat := 0
  widget : Nat := 0
  lease : Nat := 0
  color : OhosOutputColor := {}
  colorGeneration : Nat := 0
  displayId : Nat := 0
  width : Nat := 0
  height : Nat := 0
  fdCount : Nat := 0
  hasFence : Nat := 0
  tailBytes : Nat := 0
  result : Nat := 2
  timebaseUs : Int := 0
  intervalUs : Int := 0
  -- `prefix` of the source. What a tail holds past `tailBytes` is never read.
  header : ParcelHeader := Vector.replicate 14 0
  tail : Bytes := []
deriving DecidableEq

structure SharedMessage where
  packet : SharedPacket := {}
  fds : List Nat := []

-- The places of a header's words.
theorem lt1 : 1 < 14 := by decide
theorem lt2 : 2 < 14 := by decide
theorem lt3 : 3 < 14 := by decide
theorem lt4 : 4 < 14 := by decide
theorem lt5 : 5 < 14 := by decide
theorem lt6 : 6 < 14 := by decide
theorem lt7 : 7 < 14 := by decide
theorem lt8 : 8 < 14 := by decide
theorem lt13 : 13 < 14 := by decide

namespace SharedPacket

def validHeader (p : SharedPacket) (count : Nat) : Bool :=
  p.magic = kSharedMagic ∧ ValidOhosOutputColor p.color ∧
    (p.color.mode ≠ .sdr8 → p.colorGeneration ≠ 0) ∧ p.sequence ≠ 0 ∧ p.widget ≠ 0 ∧
    p.hasFence ≤ 1 ∧ p.fdCount ≤ kSharedMaxFds ∧ count ≤ kSharedMaxFds ∧
    p.fdCount + p.hasFence = count ∧ p.tailBytes ≤ sharedTailSize ∧
    (p.operation ≠ .hdrDisplayState → p.displayId = 0)

def plain (p : SharedPacket) (count : Nat) : Bool := count = 0 ∧ p.tailBytes = 0

def unsized (p : SharedPacket) : Bool := p.width = 0 ∧ p.height = 0

def sized (p : SharedPacket) (bytesPerPixel : Nat) : Bool :=
  p.width ≠ 0 ∧ p.height ≠ 0 ∧ p.width ≤ 8192 ∧ p.height ≤ 8192 ∧
    p.width * p.height * bytesPerPixel ≤ kMaxFrameBytes

def validAllocation (p : SharedPacket) (count : Nat) : Bool :=
  p.plain count ∧ p.lease = 0 ∧ p.sized (SharedImageBytesPerPixel (getElem p.header 8 lt8)) ∧
    p.color.mode = .sdr8 ∧ p.colorGeneration = 0 ∧ IsSharedImageFormat (getElem p.header 8 lt8) ∧
    ∀ i : Fin 14, i.val ≠ 8 → p.header[i] = 0

def validBuffer (p : SharedPacket) (image : Bool) : Bool :=
  let v := p.header
  let bytesPerPixel := if image then SharedImageBytesPerPixel (getElem v 8 lt8) else 4
  (image → p.lease = 0 ∧ p.hasFence = 0 ∧ p.color.mode = .sdr8 ∧ p.colorGeneration = 0 ∧
      IsSharedImageFormat (getElem v 8 lt8)) ∧
    (image ∨ p.lease ≠ 0) ∧ p.fdCount ≠ 0 ∧ getElem v 1 lt1 = 1 ∧ getElem v 2 lt2 < kSharedMaxFds - 1 ∧
    p.fdCount = getElem v 2 lt2 + 1 ∧ getElem v 3 lt3 ≤ 256 ∧ getElem v 4 lt4 = p.width ∧
    getElem v 6 lt6 = p.height ∧
    (image ∨ getElem v 8 lt8 = OhosOutputNativeFormat p.color) ∧ getElem v 13 lt13 = 1 ∧
    p.width ≠ 0 ∧ p.height ≠ 0 ∧ p.width ≤ 8192 ∧ p.height ≤ 8192 ∧
    getElem v 5 lt5 ≥ p.width * bytesPerPixel ∧ getElem v 5 lt5 ≤ kMaxFrameBytes ∧
    getElem v 7 lt7 ≤ kMaxFrameBytes ∧
    p.width * p.height * bytesPerPixel ≤ getElem v 7 lt7 ∧
    (p.tailBytes = getElem v 3 lt3 * 4 ∨ p.tailBytes = getElem v 3 lt3 * 4 + 20)

def validOperation (p : SharedPacket) (count : Nat) : Bool :=
  match p.operation with
  | .overlayPresented | .openOverlayChannel | .overlayChannel =>
    count = (if p.operation = .overlayChannel then 1 else 0) ∧ p.hasFence = 0 ∧ p.lease = 0 ∧
      p.tailBytes = 0 ∧ p.unsized ∧ p.color = {} ∧ p.colorGeneration = 0
  | .allocateImage => p.validAllocation count
  | .hdrDisplayQuery | .hdrDisplayState =>
    p.plain count ∧ p.lease = 0 ∧ p.unsized ∧ p.color.mode = .sdr8 ∧ p.colorGeneration = 0 ∧
      p.result ≤ 2
  | .acquire => p.plain count ∧ p.lease = 0 ∧ p.sized 4
  | .image => p.validBuffer true
  | .buffer => p.validBuffer false
  | .colorProbe => p.plain count ∧ p.lease = 0 ∧ p.colorGeneration ≠ 0
  | .colorReady =>
    p.plain count ∧ p.lease = 0 ∧ p.unsized ∧ p.colorGeneration ≠ 0 ∧
      (p.color.mode = .hdr10 ∨ p.color.mode = .p3Sdr10)
  | .present => p.lease ≠ 0 ∧ p.fdCount = 0 ∧ p.tailBytes = 0
  | .discard | .cancel => p.lease ≠ 0 ∧ p.plain count
  | .glColorState | .graphiteState =>
    p.plain count ∧ p.lease = 0 ∧ p.unsized ∧ p.hasFence = 0 ∧ p.colorGeneration = 0 ∧
      p.displayId = 0 ∧ p.color = {}
  | .reply | .unavailable | .vulkanState | .vulkanFailed | .colorFailed | .timing =>
    p.plain count ∧ p.result ≤ 2
  | .other _ => false

end SharedPacket

def ValidSharedPacket (p : SharedPacket) (count : Nat) : Bool :=
  p.validHeader count && p.validOperation count

end ChromiumHmos.Ozone.PhoneGpu
