import ChromiumHmos.Base.Value
import ChromiumHmos.Lib.Stamps
import ChromiumHmos.Lib.Turns

set_option autoImplicit false

/-!
# Video encoder

`media/gpu/ohos/ohos_video_encode_accelerator.cc`: frames, input slots, outputs and bitstream buffers,
matched by two loops. What the codec and the memory mappings answer comes with the buffers.
-/

namespace ChromiumHmos.Media.VideoEncoder

open Base Lib

inductive Code
  | kEncoderUnsupportedConfig
  | kEncoderHardwareDriverError
  | kEncoderFailedEncode
  | kUnsupportedFrameFormat
  | kFormatConversionError
  | kInvalidInputFrame
  | kInvalidOutputBuffer
  | kSystemAPICallError

structure EncoderStatus where
  code : Code
  message : String

def withCode (message : String) (code : Int) : String := message ++ ": " ++ toString code

-- `conversion` is what goes wrong in `ConvertAndScale`, if anything does.
structure VideoFrame where
  timestamp : TimeDelta
  hasSharedImage : Bool := false
  conversion : Option String := none
deriving DecidableEq

structure PendingEncode where
  frame : VideoFrame
  keyFrame : Bool

-- A codec input buffer: whether it has an address, its capacity, whether the layout and the wrapping
-- frame can be made of it, and whether its attributes and its index are taken.
structure InputBuffer where
  index : UInt32
  address : Bool := true
  capacity : Int
  described : Bool := true
  wrapped : Bool := true
  attributesTaken : Bool := true
  pushed : Bool := true

structure BufferAttr where
  pts : Int
  size : Int
  offset : Int
  endOfStream : Bool := false
  syncFrame : Bool := false
  codecData : Bool := false

-- A codec output buffer; `memory` are the bytes up to its capacity, where it has an address.
structure OutputBuffer where
  index : UInt32
  attr : Option BufferAttr
  memory : Option Bytes

structure BitstreamBuffer where
  id : Int
  size : Nat
  mappable : Bool := true

inductive Mode
  | constant
  | variable
deriving DecidableEq

structure Bitrate where
  mode : Mode
  targetBps : Nat
deriving DecidableEq

-- NV12, in the codec's input buffers.
structure InputLayout where
  width : Nat
  height : Nat
  stride : Nat
  sliceHeight : Nat

structure QueuedInput where
  index : UInt32
  pts : TimeDelta
  size : Nat
  frame : VideoFrame
deriving DecidableEq

/-- `BitstreamBufferReady`, with the buffer and the bytes at its front. -/
structure Ready where
  buffer : BitstreamBuffer
  data : Bytes
  keyFrame : Bool
  timestamp : TimeDelta

inductive Effect
  | requestKeyFrame
  | setRates (bitrate : Option Nat) (framerate : Option Nat)
  | queue (input : QueuedInput)
  | free (index : UInt32)
  | ready (output : Ready)
  | error (status : EncoderStatus)

structure Encoder where
  layout : InputLayout
  errorOccurred : Bool := false
  effectiveBitrate : Bitrate
  effectiveFramerate : Nat
  freeInputs : List InputBuffer := []
  pendingFrames : List PendingEncode := []
  pendingOutputs : List OutputBuffer := []
  availableBitstreamBuffers : List BitstreamBuffer := []
  configData : Bytes := []
  nextTimestamp : TimeDelta := 0
  generatedToRealTimestamp : List (TimeDelta × TimeDelta) := []

abbrev Outcome := Encoder × List Effect

def notifyErrorStatus (encoder : Encoder) (status : EncoderStatus) : Outcome :=
  if encoder.errorOccurred then (encoder, [])
  else ({ encoder with errorOccurred := true }, [.error status])

def sizeLimit : Nat := 2 ^ 64

/-- The attributes the input is queued with, or the error. -/
def feedInputBuffer (layout : InputLayout) (input : InputBuffer) (frame : VideoFrame)
    (timestamp : TimeDelta) : Except EncoderStatus QueuedInput :=
  if !input.address || input.capacity <= 0 then
    .error ⟨.kEncoderHardwareDriverError, "Codec input buffer has no memory"⟩
  else
    let yPlaneLen := layout.stride * layout.sliceHeight
    let uvPlaneLen :=
      layout.stride * ((layout.height + 1) / 2 - 1) + (layout.width + 1) / 2 * 2
    let queuedSize := yPlaneLen + uvPlaneLen
    let fullSize := yPlaneLen * 3 / 2
    if sizeLimit <= queuedSize || sizeLimit <= yPlaneLen * 3 || input.capacity < queuedSize then
      .error ⟨.kInvalidInputFrame,
        withCode "Frame does not fit the codec input buffer" input.capacity⟩
    else if !input.described then
      .error ⟨.kInvalidOutputBuffer, "Could not describe the codec input layout"⟩
    else if !input.wrapped then
      .error ⟨.kInvalidOutputBuffer, "Could not wrap the codec input buffer"⟩
    else
      match frame.conversion with
      | some message => .error ⟨.kFormatConversionError, message⟩
      | none =>
        if !input.attributesTaken || !input.pushed then
          .error ⟨.kEncoderHardwareDriverError, "Could not queue an input frame"⟩
        else
          .ok
            { index := input.index
              pts := timestamp
              size := max queuedSize (min fullSize input.capacity.toNat)
              frame := frame }

def kMicrosecondsPerSecond : Nat := 1000000

def recordFrameTimestamp (encoder : Encoder) (realTimestamp : TimeDelta) : TimeDelta × Encoder :=
  (encoder.nextTimestamp,
    { encoder with
      generatedToRealTimestamp :=
        record encoder.nextTimestamp realTimestamp encoder.generatedToRealTimestamp
      nextTimestamp :=
        encoder.nextTimestamp + (kMicrosecondsPerSecond / encoder.effectiveFramerate : Nat) })

-- One turn of the loop of `FeedInput`.
def feedTurn (encoder : Encoder) : Option Outcome :=
  match encoder.errorOccurred, encoder.pendingFrames, encoder.freeInputs with
  | false, pending :: frames, input :: inputs =>
    let encoder := { encoder with pendingFrames := frames, freeInputs := inputs }
    if pending.frame.hasSharedImage then
      some (notifyErrorStatus encoder
        ⟨.kUnsupportedFrameFormat, "Shared image frames are not supported"⟩)
    else
      let asked := if pending.keyFrame then [Effect.requestKeyFrame] else []
      let (timestamp, encoder) := recordFrameTimestamp encoder pending.frame.timestamp
      match feedInputBuffer encoder.layout input pending.frame timestamp with
      | .error status =>
        let (encoder, effects) := notifyErrorStatus encoder status
        some (encoder, asked ++ effects)
      | .ok queued => some (encoder, asked ++ [.queue queued])
  | _, _, _ => none

def feedInput (encoder : Encoder) : Outcome := turns feedTurn encoder.pendingFrames.length encoder

/-- An output's attributes and its bytes, or the error. -/
def readOutput (output : OutputBuffer) : Except EncoderStatus (BufferAttr × Bytes) :=
  match output.attr with
  | none => .error ⟨.kEncoderHardwareDriverError, "Output buffer has no attributes"⟩
  | some attr =>
    if attr.size <= 0 then .ok (attr, [])
    else
      match output.memory with
      | some memory =>
        if attr.offset < 0 || (memory.length : Int) < attr.offset + attr.size then
          .error ⟨.kEncoderFailedEncode, "Output buffer attributes exceed its capacity"⟩
        else .ok (attr, (memory.drop attr.offset.toNat).take attr.size.toNat)
      | none => .error ⟨.kEncoderFailedEncode, "Output buffer attributes exceed its capacity"⟩

def realTimestamp (encoder : Encoder) (pts : Int) : TimeDelta :=
  (encoder.generatedToRealTimestamp.lookup pts).getD pts

-- What is older belongs to a frame the codec dropped.
def forgetTimestamps (encoder : Encoder) (pts : Int) : Encoder :=
  match encoder.generatedToRealTimestamp.lookup pts with
  | some _ =>
    { encoder with
      generatedToRealTimestamp := forget pts encoder.generatedToRealTimestamp }
  | none => encoder

def deliver (encoder : Encoder) (output : OutputBuffer) (attr : BufferAttr) (payload : Bytes)
    (buffer : BitstreamBuffer) : Outcome :=
  let data := (if attr.syncFrame then encoder.configData else []) ++ payload
  if buffer.size < data.length then
    let (encoder, effects) := notifyErrorStatus encoder
      ⟨.kEncoderFailedEncode, "Encoded frame is larger than the bitstream buffer"⟩
    (encoder, .free output.index :: effects)
  else if !buffer.mappable then
    let (encoder, effects) := notifyErrorStatus encoder
      ⟨.kSystemAPICallError, "Failed to map the bitstream buffer"⟩
    (encoder, .free output.index :: effects)
  else
    (forgetTimestamps encoder attr.pts,
      [.free output.index,
        .ready
          { buffer := buffer
            data := data
            keyFrame := attr.syncFrame
            timestamp := realTimestamp encoder attr.pts }])

-- One turn of the loop of `DrainOutput`.
def drainTurn (encoder : Encoder) : Option Outcome :=
  match encoder.errorOccurred, encoder.pendingOutputs with
  | false, output :: outputs =>
    match readOutput output with
    | .error status => some (notifyErrorStatus encoder status)
    | .ok (attr, payload) =>
      if attr.codecData then
        some ({ encoder with pendingOutputs := outputs, configData := payload },
          [.free output.index])
      else if attr.endOfStream || payload.isEmpty then
        some ({ encoder with pendingOutputs := outputs }, [.free output.index])
      else
        match encoder.availableBitstreamBuffers.getLast? with
        | none => none
        | some buffer =>
          some (deliver
            { encoder with
              pendingOutputs := outputs
              availableBitstreamBuffers := encoder.availableBitstreamBuffers.dropLast }
            output attr payload buffer)
  | _, _ => none

-- A turn that meets an error leaves the output where it was, and the loop ends.
def drainOutput (encoder : Encoder) : Outcome :=
  turns drainTurn (encoder.pendingOutputs.length + 1) encoder

def encode (encoder : Encoder) (frame : VideoFrame) (keyFrame : Bool) : Outcome :=
  feedInput { encoder with
    pendingFrames := encoder.pendingFrames ++ [{ frame := frame, keyFrame := keyFrame }] }

def useOutputBitstreamBuffer (encoder : Encoder) (buffer : BitstreamBuffer) : Outcome :=
  drainOutput { encoder with
    availableBitstreamBuffers := encoder.availableBitstreamBuffers ++ [buffer] }

-- `formatMade` and `accepted` are what the codec answers.
def requestEncodingParametersChange (encoder : Encoder) (bitrate : Bitrate) (framerate : Nat)
    (size : Option (Int × Int)) (formatMade accepted : Bool) : Outcome :=
  if size.isSome then
    notifyErrorStatus encoder
      ⟨.kEncoderUnsupportedConfig, "Changing the frame size is not supported"⟩
  else if framerate = 0 then
    notifyErrorStatus encoder ⟨.kEncoderUnsupportedConfig, "Framerate cannot be 0"⟩
  else if bitrate.mode ≠ encoder.effectiveBitrate.mode then
    notifyErrorStatus encoder
      ⟨.kEncoderUnsupportedConfig, "The bitrate mode cannot change mid-stream"⟩
  else if bitrate = encoder.effectiveBitrate ∧ framerate = encoder.effectiveFramerate then
    (encoder, [])
  else if !formatMade then (encoder, [])
  else
    let asked := Effect.setRates
      (if bitrate = encoder.effectiveBitrate then none else some bitrate.targetBps)
      (if framerate = encoder.effectiveFramerate then none else some framerate)
    if !accepted then (encoder, [asked])
    else ({ encoder with effectiveBitrate := bitrate, effectiveFramerate := framerate }, [asked])

def onNeedInputBuffer (encoder : Encoder) (input : InputBuffer) : Outcome :=
  feedInput { encoder with freeInputs := encoder.freeInputs ++ [input] }

def onNewOutputBuffer (encoder : Encoder) (output : OutputBuffer) : Outcome :=
  drainOutput { encoder with pendingOutputs := encoder.pendingOutputs ++ [output] }

def onCodecError (encoder : Encoder) (code : Int) : Outcome :=
  notifyErrorStatus encoder
    ⟨.kEncoderHardwareDriverError, withCode "AVCodecKit encoder error" code⟩

inductive Event
  | encode (frame : VideoFrame) (keyFrame : Bool)
  | useOutputBitstreamBuffer (buffer : BitstreamBuffer)
  | requestEncodingParametersChange (bitrate : Bitrate) (framerate : Nat)
      (size : Option (Int × Int)) (formatMade accepted : Bool)
  | needInput (input : InputBuffer)
  -- An output, and how many inputs the codec dropped before the one it encodes, if it does.
  | newOutput (output : OutputBuffer) (dropped : Option Nat)
  | codecError (code : Int)

/-- A non-empty frame the codec put out: the input it encodes, its bytes, and the configuration last
put out before it. -/
structure Encoded where
  input : QueuedInput
  payload : Bytes
  keyFrame : Bool
  config : Bytes

/-- `inCodec` are the inputs the codec may still encode, `config` the configuration it last put out,
`handed` the bitstream buffers the client gave. -/
structure World where
  encoder : Encoder
  effects : List Effect := []
  inCodec : List QueuedInput := []
  encoded : List Encoded := []
  config : Bytes := []
  handed : List BitstreamBuffer := []

def queuedOf : Effect -> Option QueuedInput
  | .queue input => some input
  | _ => none

def readyOf : Effect -> Option Ready
  | .ready output => some output
  | _ => none

def World.run (world : World) (outcome : Outcome) : World :=
  { world with
    encoder := outcome.1
    effects := world.effects ++ outcome.2
    inCodec := world.inCodec ++ outcome.2.filterMap queuedOf }

def World.putOut (world : World) (output : OutputBuffer) : Option Nat -> World
  | none =>
    match readOutput output with
    | .ok (attr, payload) => if attr.codecData then { world with config := payload } else world
    | .error _ => world
  | some dropped =>
    let encodes := (world.inCodec.drop dropped).head?
    let world := { world with inCodec := world.inCodec.drop (dropped + 1) }
    match encodes, readOutput output with
    | some input, .ok (attr, payload) =>
      if payload.isEmpty then world
      else
        { world with
          encoded := world.encoded ++
            [{ input := input, payload := payload, keyFrame := attr.syncFrame
               config := world.config }] }
    | _, _ => world

def next (world : World) : Event -> World
  | .encode frame keyFrame => world.run (encode world.encoder frame keyFrame)
  | .useOutputBitstreamBuffer buffer =>
    { world with handed := world.handed ++ [buffer] }.run
      (useOutputBitstreamBuffer world.encoder buffer)
  | .requestEncodingParametersChange bitrate framerate size formatMade accepted =>
    world.run
      (requestEncodingParametersChange world.encoder bitrate framerate size formatMade accepted)
  | .needInput input => world.run (onNeedInputBuffer world.encoder input)
  | .newOutput output dropped =>
    (world.putOut output dropped).run (onNewOutputBuffer world.encoder output)
  | .codecError code => world.run (onCodecError world.encoder code)

def isFrame (attr : BufferAttr) (payload : Bytes) : Bool :=
  !attr.codecData && !attr.endOfStream && !payload.isEmpty

/-- The codec puts out the inputs it does not drop in their order, each with the timestamp it was
given; what encodes none is no frame. -/
def Allowed (world : World) : Event -> Prop
  | .newOutput output none =>
    forall attr payload, readOutput output = .ok (attr, payload) -> isFrame attr payload = false
  | .newOutput output (some dropped) =>
    exists input, (world.inCodec.drop dropped).head? = some input ∧
      forall attr, output.attr = some attr ->
        attr.pts = input.pts ∧ attr.codecData = false ∧ attr.endOfStream = false
  | _ => True

-- The loop of `FeedInput` takes a timestamp for a frame.
def records (encoder : Encoder) : Bool :=
  !encoder.errorOccurred && !encoder.freeInputs.isEmpty &&
    match encoder.pendingFrames with
    | [] => false
    | pending :: _ => !pending.frame.hasSharedImage

/-- No timestamp is taken while the clock's step is below a microsecond. -/
def Advancing (world : World) : Event -> Prop
  | .encode frame keyFrame =>
    records { world.encoder with
      pendingFrames := world.encoder.pendingFrames ++ [{ frame := frame, keyFrame := keyFrame }] } =
        true -> world.encoder.effectiveFramerate <= kMicrosecondsPerSecond
  | .needInput input =>
    records { world.encoder with freeInputs := world.encoder.freeInputs ++ [input] } = true ->
      world.encoder.effectiveFramerate <= kMicrosecondsPerSecond
  | _ => True

/-- After `Initialize`, which refuses a framerate of 0. -/
def start (layout : InputLayout) (bitrate : Bitrate) (framerate : Nat) : World :=
  { encoder :=
      { layout := layout, effectiveBitrate := bitrate, effectiveFramerate := framerate } }

end ChromiumHmos.Media.VideoEncoder
