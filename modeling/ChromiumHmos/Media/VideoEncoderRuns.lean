import ChromiumHmos.Lib.Transition
import ChromiumHmos.Media.VideoEncoder

set_option autoImplicit false

/-!
# Every frame with its own time

What the two loops keep: which outputs wait, which buffers are free, and the table from synthetic
timestamps to real ones.
-/

namespace ChromiumHmos.Media.VideoEncoder

open Base Lib Transition

-- A frame as it stands in the queue of outputs.
structure Waiting where
  pts : Int
  payload : Bytes
  keyFrame : Bool
  config : Bytes

def Encoded.waiting (encoded : Encoded) : Waiting :=
  { pts := encoded.input.pts, payload := encoded.payload, keyFrame := encoded.keyFrame
    config := encoded.config }

def configAfter : Bytes -> List OutputBuffer -> Bytes
  | config, [] => config
  | config, output :: rest =>
    match readOutput output with
    | .ok (attr, payload) => configAfter (if attr.codecData then payload else config) rest
    | .error _ => configAfter config rest

def framesOf : Bytes -> List OutputBuffer -> List Waiting
  | _, [] => []
  | config, output :: rest =>
    match readOutput output with
    | .ok (attr, payload) =>
      (if isFrame attr payload then
        [{ pts := attr.pts, payload := payload, keyFrame := attr.syncFrame, config := config }]
      else []) ++ framesOf (if attr.codecData then payload else config) rest
    | .error _ => framesOf config rest

theorem configAfter_append (config : Bytes) (first second : List OutputBuffer) :
    configAfter config (first ++ second) = configAfter (configAfter config first) second := by
  induction first generalizing config with
  | nil => rfl
  | cons output rest ih =>
    rw [List.cons_append, configAfter, configAfter]
    cases readOutput output with
    | ok read => exact ih _
    | error status => exact ih _

theorem framesOf_append (config : Bytes) (first second : List OutputBuffer) :
    framesOf config (first ++ second) =
      framesOf config first ++ framesOf (configAfter config first) second := by
  induction first generalizing config with
  | nil => rfl
  | cons output rest ih =>
    rw [List.cons_append, framesOf, framesOf, configAfter]
    cases readOutput output with
    | ok read =>
      dsimp only
      rw [ih, List.append_assoc]
    | error status => exact ih _

theorem readOutput_attr {output : OutputBuffer} {attr : BufferAttr} {payload : Bytes}
    (read : readOutput output = .ok (attr, payload)) : output.attr = some attr := by
  rw [readOutput] at read
  cases known : output.attr with
  | none =>
    rw [known] at read
    cases read
  | some own =>
    rw [known] at read
    dsimp only at read
    split at read
    · cases read
      rfl
    · split at read
      · split at read
        · cases read
        · cases read
          rfl
      · cases read

def QueuedInput.stamped (input : QueuedInput) : TimeDelta × TimeDelta :=
  (input.pts, input.frame.timestamp)

/-- What a delivery says of its frame. -/
structure Content where
  data : Bytes
  keyFrame : Bool
  timestamp : TimeDelta
deriving DecidableEq

def Ready.content (output : Ready) : Content :=
  { data := output.data, keyFrame := output.keyFrame, timestamp := output.timestamp }

def Encoded.content (encoded : Encoded) : Content :=
  { data := (if encoded.keyFrame then encoded.config else []) ++ encoded.payload
    keyFrame := encoded.keyFrame
    timestamp := encoded.input.frame.timestamp }

def World.deliveries (world : World) : List Ready := world.effects.filterMap readyOf

def World.queued (world : World) : List QueuedInput := world.effects.filterMap queuedOf

-- What the client and the codec are told: inputs, outputs and errors.
def Effect.told : Effect -> Bool
  | .queue _ => true
  | .ready _ => true
  | .error _ => true
  | _ => false

def Effect.isError : Effect -> Bool
  | .error _ => true
  | _ => false

/-- `done` are the frames delivered, `left` those that wait. -/
structure Kept (world : World) (done left : List Encoded) : Prop where
  split : world.encoded = done ++ left
  delivered : world.deliveries.map Ready.content = done.map Encoded.content
  fits : forall output, output ∈ world.deliveries -> output.data.length <= output.buffer.size
  queue : world.encoder.errorOccurred = false ->
    framesOf world.encoder.configData world.encoder.pendingOutputs = left.map Encoded.waiting ∧
      configAfter world.encoder.configData world.encoder.pendingOutputs = world.config
  flight : Recorded world.encoder.generatedToRealTimestamp
    ((left.map Encoded.input ++ world.inCodec).map QueuedInput.stamped)
  flown : forall input, input ∈ left.map Encoded.input ++ world.inCodec ->
    input.pts < world.encoder.nextTimestamp
  increasing : (world.queued.map QueuedInput.pts).Pairwise fun first second => first < second
  past : forall input, input ∈ world.queued -> input.pts < world.encoder.nextTimestamp
  buffers : (world.deliveries.map Ready.buffer ++
    world.encoder.availableBitstreamBuffers).Subperm world.handed
  all : world.encoder.errorOccurred = false ->
    (world.deliveries.map Ready.buffer ++ world.encoder.availableBitstreamBuffers).Perm world.handed
  quiet : world.encoder.errorOccurred = false ->
    forall effect, effect ∈ world.effects -> effect.isError = false
  last : world.encoder.errorOccurred = true -> exists before status,
    world.effects.filter Effect.told = before ++ [.error status] ∧
      forall effect, effect ∈ before -> effect.isError = false
  rate : 0 < world.encoder.effectiveFramerate

section Effects

variable {world : World} {done left : List Encoded} {after : Encoder} {effects : List Effect}

theorem deliveries_run (world : World) (outcome : Outcome) :
    (world.run outcome).deliveries = world.deliveries ++ outcome.2.filterMap readyOf :=
  List.filterMap_append

theorem queued_run (world : World) (outcome : Outcome) :
    (world.run outcome).queued = world.queued ++ outcome.2.filterMap queuedOf :=
  List.filterMap_append

theorem silent_ready (silent : ∀ effect ∈ effects, effect.told = false) :
    effects.filterMap readyOf = [] := by
  rw [List.filterMap_eq_nil_iff]
  intro effect member
  cases effect with
  | ready output => exact absurd (silent _ member) Bool.true_eq_false_eq_False
  | _ => rfl

theorem silent_queued (silent : ∀ effect ∈ effects, effect.told = false) :
    effects.filterMap queuedOf = [] := by
  rw [List.filterMap_eq_nil_iff]
  intro effect member
  cases effect with
  | queue input => exact absurd (silent _ member) Bool.true_eq_false_eq_False
  | _ => rfl

theorem silent_told (silent : ∀ effect ∈ effects, effect.told = false) :
    effects.filter Effect.told = [] := by
  rw [List.filter_eq_nil_iff]
  intro effect member
  rw [silent effect member]
  exact Bool.false_ne_true

theorem silent_quiet {effect : Effect} (silent : effect.told = false) : effect.isError = false := by
  cases effect with
  | error status => cases silent
  | _ => rfl

theorem run_run (world : World) (first second : Outcome) :
    (world.run first).run second = world.run (second.1, first.2 ++ second.2) := by
  rw [World.run, World.run, World.run, List.filterMap_append]
  simp only [List.append_assoc]

end Effects

section Turns

variable {world : World} {done left : List Encoded}

theorem Kept.silent (kept : Kept world done left) {after : Encoder} {effects : List Effect}
    (silent : ∀ effect ∈ effects, effect.told = false)
    (error : after.errorOccurred = world.encoder.errorOccurred)
    (queue : world.encoder.errorOccurred = false ->
      framesOf after.configData after.pendingOutputs =
          framesOf world.encoder.configData world.encoder.pendingOutputs /\
        configAfter after.configData after.pendingOutputs =
          configAfter world.encoder.configData world.encoder.pendingOutputs)
    (buffers : after.availableBitstreamBuffers = world.encoder.availableBitstreamBuffers)
    (clock : after.nextTimestamp = world.encoder.nextTimestamp)
    (table : after.generatedToRealTimestamp = world.encoder.generatedToRealTimestamp)
    (rate : 0 < after.effectiveFramerate) : Kept (world.run (after, effects)) done left := by
  have deliveries : (world.run (after, effects)).deliveries = world.deliveries := by
    rw [deliveries_run, silent_ready silent, List.append_nil]
  have queued : (world.run (after, effects)).queued = world.queued := by
    rw [queued_run, silent_queued silent, List.append_nil]
  have codec : (world.run (after, effects)).inCodec = world.inCodec := by
    rw [World.run, silent_queued silent, List.append_nil]
  refine ⟨kept.split, ?_, ?_, ?_, ?_, ?_, ?_, ?_, ?_, ?_, ?_, ?_, rate⟩
  · rw [deliveries]
    exact kept.delivered
  · rw [deliveries]
    exact kept.fits
  · intro fine
    obtain ⟨frames, config⟩ := queue (error.symm.trans fine)
    obtain ⟨wait, latest⟩ := kept.queue (error.symm.trans fine)
    exact ⟨frames.trans wait, config.trans latest⟩
  · rw [codec]
    change Recorded after.generatedToRealTimestamp _
    rw [table]
    exact kept.flight
  · intro input member
    rw [codec] at member
    change _ < after.nextTimestamp
    rw [clock]
    exact kept.flown input member
  · rw [queued]
    exact kept.increasing
  · intro input member
    rw [queued] at member
    change _ < after.nextTimestamp
    rw [clock]
    exact kept.past input member
  · rw [deliveries]
    change (_ ++ after.availableBitstreamBuffers).Subperm _
    rw [buffers]
    exact kept.buffers
  · intro fine
    rw [deliveries]
    change (_ ++ after.availableBitstreamBuffers).Perm _
    rw [buffers]
    exact kept.all (error.symm.trans fine)
  · intro fine effect member
    rcases List.mem_append.mp member with before | new
    · exact kept.quiet (error.symm.trans fine) effect before
    · exact silent_quiet (silent effect new)
  · intro failed
    obtain ⟨before, status, told, none⟩ := kept.last (error.symm.trans failed)
    refine ⟨before, status, ?_, none⟩
    change (world.effects ++ effects).filter Effect.told = _
    rw [List.filter_append, silent_told silent, List.append_nil]
    exact told

variable {after encoder : Encoder} {effects : List Effect}

theorem Kept.fail (kept : Kept world done left) (fine : world.encoder.errorOccurred = false) {status : EncoderStatus}
    (silent : ∀ effect ∈ effects, effect.told = false) (failed : after.errorOccurred = true)
    (flight : Recorded after.generatedToRealTimestamp
      ((left.map Encoded.input ++ world.inCodec).map QueuedInput.stamped))
    (onward : world.encoder.nextTimestamp <= after.nextTimestamp)
    (fewer : after.availableBitstreamBuffers.Sublist world.encoder.availableBitstreamBuffers)
    (rate : 0 < after.effectiveFramerate) :
    Kept (world.run (after, effects ++ [.error status])) done left := by
  have ready : (effects ++ [Effect.error status]).filterMap readyOf = [] := by
    rw [List.filterMap_append, silent_ready silent]
    rfl
  have queue : (effects ++ [Effect.error status]).filterMap queuedOf = [] := by
    rw [List.filterMap_append, silent_queued silent]
    rfl
  have deliveries : (world.run (after, effects ++ [.error status])).deliveries =
      world.deliveries := by
    rw [deliveries_run, ready, List.append_nil]
  have queued : (world.run (after, effects ++ [.error status])).queued = world.queued := by
    rw [queued_run, queue, List.append_nil]
  have codec : (world.run (after, effects ++ [.error status])).inCodec = world.inCodec := by
    rw [World.run, queue, List.append_nil]
  have busy : ¬ after.errorOccurred = false := by
    rw [failed]
    exact Bool.true_eq_false_eq_False
  refine ⟨kept.split, ?_, ?_, fun free => absurd free busy, ?_, ?_, ?_, ?_, ?_,
    fun free => absurd free busy, fun free => absurd free busy, fun _ => ?_, rate⟩
  · rw [deliveries]
    exact kept.delivered
  · rw [deliveries]
    exact kept.fits
  · rw [codec]
    exact flight
  · intro input member
    rw [codec] at member
    exact lt_of_lt_of_le (kept.flown input member) onward
  · rw [queued]
    exact kept.increasing
  · intro input member
    rw [queued] at member
    exact lt_of_lt_of_le (kept.past input member) onward
  · rw [deliveries]
    exact (fewer.append_left _).subperm.trans kept.buffers
  · refine ⟨world.effects.filter Effect.told, status, ?_, fun effect member => ?_⟩
    · change (world.effects ++ (effects ++ [Effect.error status])).filter Effect.told = _
      rw [List.filter_append, List.filter_append, silent_told silent]
      rfl
    · exact kept.quiet fine effect (List.mem_filter.mp member).1

theorem notify_first (fine : encoder.errorOccurred = false) (status : EncoderStatus) :
    notifyErrorStatus encoder status =
      ({ encoder with errorOccurred := true }, [.error status]) := by
  rw [notifyErrorStatus, fine]
  rfl

theorem silent_nil : ∀ effect ∈ ([] : List Effect), effect.told = false :=
  fun _ member => absurd member List.not_mem_nil

theorem asked_silent (keyFrame : Bool) :
    ∀ effect ∈ (if keyFrame then [Effect.requestKeyFrame] else []),
      effect.told = false := by
  intro effect member
  cases keyFrame with
  | false => exact absurd member List.not_mem_nil
  | true =>
    rw [List.mem_singleton.mp member]
    rfl

variable {queued : QueuedInput}

theorem feedInputBuffer_ok {layout : InputLayout} {input : InputBuffer} {frame : VideoFrame}
    {timestamp : TimeDelta} (taken : feedInputBuffer layout input frame timestamp = .ok queued) :
    queued.pts = timestamp /\ queued.frame = frame := by
  rw [feedInputBuffer] at taken
  dsimp only at taken
  split at taken
  · cases taken
  split at taken
  · cases taken
  split at taken
  · cases taken
  split at taken
  · cases taken
  split at taken
  · cases taken
  split at taken
  · cases taken
  · cases taken
    exact ⟨rfl, rfl⟩

theorem Kept.fed (kept : Kept world done left) (fine : world.encoder.errorOccurred = false)
    (silent : ∀ effect ∈ effects, effect.told = false)
    (pts : queued.pts = world.encoder.nextTimestamp)
    (error : after.errorOccurred = world.encoder.errorOccurred)
    (same : after.configData = world.encoder.configData /\
      after.pendingOutputs = world.encoder.pendingOutputs /\
      after.availableBitstreamBuffers = world.encoder.availableBitstreamBuffers)
    (recorded : Recorded after.generatedToRealTimestamp
      ((left.map Encoded.input ++ world.inCodec).map QueuedInput.stamped ++ [queued.stamped]))
    (onward : world.encoder.nextTimestamp < after.nextTimestamp)
    (rate : 0 < after.effectiveFramerate) :
    Kept (world.run (after, effects ++ [.queue queued])) done left := by
  obtain ⟨config, outputs, buffers⟩ := same
  have ready : (effects ++ [Effect.queue queued]).filterMap readyOf = [] := by
    rw [List.filterMap_append, silent_ready silent]
    rfl
  have queue : (effects ++ [Effect.queue queued]).filterMap queuedOf = [queued] := by
    rw [List.filterMap_append, silent_queued silent]
    rfl
  have deliveries : (world.run (after, effects ++ [.queue queued])).deliveries =
      world.deliveries := by
    rw [deliveries_run, ready, List.append_nil]
  have inputs : (world.run (after, effects ++ [.queue queued])).queued =
      world.queued ++ [queued] := by
    rw [queued_run, queue]
  have codec : (world.run (after, effects ++ [.queue queued])).inCodec =
      world.inCodec ++ [queued] := by
    rw [World.run, queue]
  have idle : after.errorOccurred = false := error.trans fine
  have newest : queued.pts < after.nextTimestamp := pts ▸ onward
  refine ⟨kept.split, ?_, ?_, fun _ => ?_, ?_, ?_, ?_, ?_, ?_, fun _ => ?_, fun _ => ?_,
    fun failed => absurd (idle.symm.trans failed) Bool.false_ne_true, rate⟩
  · rw [deliveries]
    exact kept.delivered
  · rw [deliveries]
    exact kept.fits
  · change framesOf after.configData after.pendingOutputs = _ /\
      configAfter after.configData after.pendingOutputs = _
    rw [config, outputs]
    exact kept.queue fine
  · rw [codec, <- List.append_assoc, List.map_append]
    exact recorded
  · intro input member
    rw [codec, <- List.append_assoc] at member
    rcases List.mem_append.mp member with before | new
    · exact (kept.flown input before).trans onward
    · rw [List.mem_singleton.mp new]
      exact newest
  · rw [inputs, List.map_append, List.pairwise_append]
    refine ⟨kept.increasing, List.pairwise_singleton _ _, fun first before second new => ?_⟩
    obtain ⟨input, member, rfl⟩ := List.mem_map.mp before
    rw [List.mem_singleton.mp new, pts]
    exact kept.past input member
  · intro input member
    rw [inputs] at member
    rcases List.mem_append.mp member with before | new
    · exact (kept.past input before).trans onward
    · rw [List.mem_singleton.mp new]
      exact newest
  · rw [deliveries]
    change (_ ++ after.availableBitstreamBuffers).Subperm _
    rw [buffers]
    exact kept.buffers
  · rw [deliveries]
    change (_ ++ after.availableBitstreamBuffers).Perm _
    rw [buffers]
    exact kept.all fine
  · intro effect member
    rcases List.mem_append.mp member with before | new
    · exact kept.quiet fine effect before
    · rcases List.mem_append.mp new with asked | queue
      · exact silent_quiet (silent effect asked)
      · rw [List.mem_singleton.mp queue]
        rfl

def Paced (encoder : Encoder) : Prop :=
  records encoder = true -> encoder.effectiveFramerate <= kMicrosecondsPerSecond

theorem paced_failed (failed : encoder.errorOccurred = true) : Paced encoder := by
  intro taken
  rw [records, failed] at taken
  exact absurd taken Bool.false_ne_true

variable {outcome : Outcome}

theorem Kept.feedTurn (kept : Kept world done left) (paced : Paced world.encoder) (turned : VideoEncoder.feedTurn world.encoder = some outcome) :
    Kept (world.run outcome) done left /\ Paced outcome.1 := by
  have rate := kept.rate
  rw [VideoEncoder.feedTurn] at turned
  split at turned
  · rename_i pending frames input inputs fine queue free
    dsimp only at turned
    split at turned
    · -- A shared image.
      rw [notify_first (by exact fine)] at turned
      cases turned
      exact ⟨kept.fail fine silent_nil rfl kept.flight (le_refl _) (List.Sublist.refl _) rate,
        paced_failed rfl⟩
    · rename_i unshared
      have advancing : world.encoder.effectiveFramerate <= kMicrosecondsPerSecond := by
        refine paced ?_
        rw [records, fine, queue, free]
        simpa using unshared
      have step : 0 < kMicrosecondsPerSecond / world.encoder.effectiveFramerate :=
        Nat.div_pos advancing rate
      have recorded : Recorded (record world.encoder.nextTimestamp pending.frame.timestamp
          world.encoder.generatedToRealTimestamp)
          ((left.map Encoded.input ++ world.inCodec).map QueuedInput.stamped ++
            [(world.encoder.nextTimestamp, pending.frame.timestamp)]) := by
        refine kept.flight.record fun item member => ?_
        obtain ⟨input, inside, rfl⟩ := List.mem_map.mp member
        exact kept.flown input inside
      have onward : world.encoder.nextTimestamp < world.encoder.nextTimestamp +
          (kMicrosecondsPerSecond / world.encoder.effectiveFramerate : Nat) :=
        Int.lt_add_of_pos_right _ (Int.natCast_pos.mpr step)
      rw [recordFrameTimestamp] at turned
      dsimp only at turned
      split at turned
      · -- The input buffer takes no frame.
        rw [notify_first (by exact fine)] at turned
        cases turned
        exact ⟨kept.fail fine (asked_silent pending.keyFrame) rfl
          (recorded.sublist (List.sublist_append_left _ _)) onward.le (List.Sublist.refl _) rate,
          paced_failed rfl⟩
      · rename_i queued taken
        cases turned
        obtain ⟨pts, frame⟩ := feedInputBuffer_ok taken
        refine ⟨?_, fun _ => advancing⟩
        have stamped : queued.stamped =
            (world.encoder.nextTimestamp, pending.frame.timestamp) := by
          rw [QueuedInput.stamped, pts, frame]
        exact kept.fed fine (asked_silent pending.keyFrame) pts rfl ⟨rfl, rfl, rfl⟩
          (stamped ▸ recorded) onward rate
  · cases turned

theorem free_silent (index : UInt32) :
    ∀ effect, effect ∈ [Effect.free index] -> effect.told = false := by
  intro effect member
  rw [List.mem_singleton.mp member]
  rfl

theorem deliver_cases (encoder : Encoder) (fine : encoder.errorOccurred = false)
    (output : OutputBuffer) (attr : BufferAttr) (payload : Bytes) (buffer : BitstreamBuffer) :
    (∃ status, deliver encoder output attr payload buffer =
      ({ encoder with errorOccurred := true }, [.free output.index] ++ [.error status])) \/
    let data := (if attr.syncFrame then encoder.configData else []) ++ payload
    data.length <= buffer.size /\
      deliver encoder output attr payload buffer =
        (forgetTimestamps encoder attr.pts,
          [.free output.index,
            .ready
              { buffer := buffer
                data := data
                keyFrame := attr.syncFrame
                timestamp := realTimestamp encoder attr.pts }]) := by
  rw [deliver]
  generalize (if attr.syncFrame then encoder.configData else []) ++ payload = data
  dsimp only
  split
  · rw [notify_first fine]
    exact Or.inl ⟨_, rfl⟩
  · rename_i fits
    split
    · rw [notify_first fine]
      exact Or.inl ⟨_, rfl⟩
    · exact Or.inr ⟨Nat.le_of_not_lt fits, rfl⟩

theorem Kept.deliver {first : Encoded} {rest : List Encoded}
    (kept : Kept world done (first :: rest)) (fine : world.encoder.errorOccurred = false) {index : UInt32} {output : Ready}
    (content : output.content = first.content) (fits : output.data.length <= output.buffer.size)
    (error : after.errorOccurred = false)
    (queue : framesOf after.configData after.pendingOutputs = rest.map Encoded.waiting /\
      configAfter after.configData after.pendingOutputs = world.config)
    (table : after.generatedToRealTimestamp =
      forget first.input.pts world.encoder.generatedToRealTimestamp)
    (clock : after.nextTimestamp = world.encoder.nextTimestamp)
    (buffers : after.availableBitstreamBuffers ++ [output.buffer] =
      world.encoder.availableBitstreamBuffers)
    (rate : 0 < after.effectiveFramerate) :
    Kept (world.run (after, [.free index, .ready output])) (done ++ [first]) rest := by
  have deliveries : (world.run (after, [.free index, .ready output])).deliveries =
      world.deliveries ++ [output] := deliveries_run _ _
  have queued : (world.run (after, [.free index, .ready output])).queued = world.queued :=
    (queued_run _ _).trans (List.append_nil _)
  have codec : (world.run (after, [.free index, .ready output])).inCodec = world.inCodec :=
    List.append_nil _
  have perm : (world.deliveries.map Ready.buffer ++ [output.buffer] ++
      after.availableBitstreamBuffers).Perm world.handed := by
    refine List.Perm.trans ?_ (kept.all fine)
    rw [<- buffers, List.append_assoc]
    exact List.Perm.append_left _ List.perm_append_comm
  refine ⟨?_, ?_, ?_, fun _ => queue, ?_, ?_, ?_, ?_, ?_, fun _ => ?_, fun _ => ?_,
    fun failed => absurd (error.symm.trans failed) Bool.false_ne_true, rate⟩
  · rw [List.append_assoc]
    exact kept.split
  · rw [deliveries, List.map_append, List.map_append, kept.delivered, List.map_singleton,
      List.map_singleton, content]
  · intro other member
    rw [deliveries] at member
    rcases List.mem_append.mp member with before | new
    · exact kept.fits other before
    · rw [List.mem_singleton.mp new]
      exact fits
  · rw [codec]
    change Recorded after.generatedToRealTimestamp _
    rw [table]
    exact kept.flight.forget
  · intro input member
    rw [codec] at member
    change _ < after.nextTimestamp
    rw [clock]
    exact kept.flown input (List.mem_cons_of_mem _ member)
  · rw [queued]
    exact kept.increasing
  · intro input member
    rw [queued] at member
    change _ < after.nextTimestamp
    rw [clock]
    exact kept.past input member
  · rw [deliveries, List.map_append]
    exact perm.subperm
  · rw [deliveries, List.map_append]
    exact perm
  · intro effect member
    rcases List.mem_append.mp member with before | new
    · exact kept.quiet fine effect before
    · rcases List.mem_cons.mp new with rfl | last
      · rfl
      · rw [List.mem_singleton.mp last]
        rfl

theorem Kept.drainTurn (kept : Kept world done left)
    (turned : VideoEncoder.drainTurn world.encoder = some outcome) :
    ∃ done' left', Kept (world.run outcome) done' left' := by
  have rate := kept.rate
  rw [VideoEncoder.drainTurn] at turned
  split at turned
  · rename_i output outputs fine queue
    obtain ⟨frames, latest⟩ := kept.queue fine
    rw [queue, framesOf] at frames
    rw [queue, configAfter] at latest
    split at turned
    · rw [notify_first (by exact fine)] at turned
      cases turned
      exact ⟨done, left,
        kept.fail fine silent_nil rfl kept.flight (le_refl _) (List.Sublist.refl _) rate⟩
    · rename_i attr payload read
      rw [read] at frames latest
      dsimp only at frames latest
      split at turned
      · -- The codec's configuration.
        rename_i config
        cases turned
        rw [isFrame, config] at frames
        rw [config] at latest
        refine ⟨done, left, kept.silent (free_silent output.index) rfl (fun _ => ?_) rfl rfl rfl rate⟩
        rw [queue, framesOf, configAfter, read]
        dsimp only
        rw [isFrame, config]
        exact ⟨rfl, rfl⟩
      · rename_i plain
        rw [Bool.not_eq_true] at plain
        split at turned
        · -- No frame.
          rename_i none
          have unframed : isFrame attr payload = false := by
            rcases Bool.or_eq_true_iff.mp none with ended | empty
            · rw [isFrame, ended, Bool.not_true, Bool.and_false, Bool.false_and]
            · rw [isFrame, empty, Bool.not_true, Bool.and_false]
          cases turned
          refine ⟨done, left,
            kept.silent (free_silent output.index) rfl (fun _ => ?_) rfl rfl rfl rate⟩
          rw [queue, framesOf, configAfter, read]
          dsimp only
          rw [unframed, plain]
          exact ⟨rfl, rfl⟩
        · rename_i full
          rw [Bool.not_eq_true, Bool.or_eq_false_iff] at full
          have framed : isFrame attr payload = true := by
            rw [isFrame, plain, full.1, full.2]
            rfl
          rw [framed, plain] at frames
          rw [plain] at latest
          split at turned
          · cases turned
          · rename_i buffer newest
            have buffers := List.dropLast_append_getLast? buffer newest
            cases left with
            | nil => cases frames
            | cons first rest =>
              obtain ⟨same, others⟩ := List.cons.inj frames
              have fewer : world.encoder.availableBitstreamBuffers.dropLast.Sublist
                  world.encoder.availableBitstreamBuffers := List.dropLast_sublist _
              cases turned
              rcases deliver_cases { world.encoder with
                  pendingOutputs := outputs
                  availableBitstreamBuffers :=
                    world.encoder.availableBitstreamBuffers.dropLast }
                fine output attr payload buffer with ⟨status, failed⟩ | ⟨fits, delivered⟩
              · rw [failed]
                exact ⟨done, first :: rest, kept.fail fine (free_silent output.index) rfl
                  kept.flight (le_refl _) fewer rate⟩
              · obtain ⟨pts, bytes, key, config⟩ := Waiting.mk.inj same
                have found := kept.flight.found first.input.stamped List.mem_cons_self
                change world.encoder.generatedToRealTimestamp.lookup first.input.pts =
                  some first.input.frame.timestamp at found
                rw [<- pts] at found
                rw [delivered, forgetTimestamps, realTimestamp, found]
                refine ⟨done ++ [first], rest, kept.deliver fine ?_ fits fine ⟨others, latest⟩ ?_
                  rfl buffers rate⟩
                · rw [Ready.content, Encoded.content, bytes, key, config]
                  rfl
                · rw [pts]
  · cases turned

end Turns

section Loops

variable {world : World} {done left : List Encoded}

theorem run_still (world : World) (after : Encoder) :
    world.run (after, []) = { world with encoder := after } := by
  simp only [World.run, List.append_nil, List.filterMap_nil]

theorem Kept.feedInput (kept : Kept world done left) (paced : Paced world.encoder) :
    Kept (world.run (VideoEncoder.feedInput world.encoder)) done left := by
  have initial : Kept (world.run (world.encoder, [])) done left := by
    rw [run_still]
    exact kept
  refine (turns_preserve VideoEncoder.feedTurn
    (fun encoder effects => Kept (world.run (encoder, effects)) done left /\ Paced encoder)
    ?_ _ ⟨initial, paced⟩).1
  intro encoder effects after more before turned
  have moved := before.1.feedTurn before.2 turned
  rw [run_run] at moved
  exact moved

theorem Kept.drainOutput (kept : Kept world done left) :
    ∃ done' left', Kept (world.run (VideoEncoder.drainOutput world.encoder)) done' left' := by
  have initial : Kept (world.run (world.encoder, [])) done left := by
    rw [run_still]
    exact kept
  refine turns_preserve VideoEncoder.drainTurn
    (fun encoder effects => ∃ done' left', Kept (world.run (encoder, effects)) done' left')
    ?_ _ ⟨done, left, initial⟩
  rintro encoder effects after more ⟨done', left', before⟩ turned
  have moved := before.drainTurn turned
  rw [run_run] at moved
  exact moved

def Drained (encoder : Encoder) : Prop :=
  encoder.errorOccurred = false ->
    encoder.availableBitstreamBuffers = [] ∨ encoder.pendingOutputs = []

variable {encoder : Encoder}

theorem drainTurn_none (ended : VideoEncoder.drainTurn encoder = none) : Drained encoder := by
  intro fine
  rw [VideoEncoder.drainTurn, fine] at ended
  cases queue : encoder.pendingOutputs with
  | nil => exact Or.inr rfl
  | cons output outputs =>
    rw [queue] at ended
    dsimp only at ended
    split at ended
    · cases ended
    · split at ended
      · cases ended
      · split at ended
        · cases ended
        · split at ended
          · rename_i none
            exact Or.inl (List.getLast?_eq_none_iff.mp none)
          · cases ended

def outputRank (encoder : Encoder) : Nat :=
  if encoder.errorOccurred then 0 else encoder.pendingOutputs.length + 1

theorem forget_rank (encoder : Encoder) (pts : Int) :
    outputRank (forgetTimestamps encoder pts) = outputRank encoder := by
  rw [forgetTimestamps]
  split
  · rfl
  · rfl

theorem drainTurn_falls (encoder after : Encoder) (effects : List Effect)
    (turned : VideoEncoder.drainTurn encoder = some (after, effects)) :
    outputRank after < outputRank encoder := by
  rw [VideoEncoder.drainTurn] at turned
  split at turned
  · rename_i output outputs fine queue
    have before : outputRank encoder = outputs.length + 2 := by
      rw [outputRank, fine, queue]
      rfl
    rw [before]
    split at turned
    · rw [notify_first (by exact fine)] at turned
      cases turned
      exact Nat.zero_lt_succ _
    · split at turned
      · cases turned
        rw [outputRank, fine]
        exact Nat.lt_succ_self _
      · split at turned
        · cases turned
          rw [outputRank, fine]
          exact Nat.lt_succ_self _
        · split at turned
          · cases turned
          · rename_i buffer newest
            have own := Option.some.inj turned
            rcases deliver_cases { encoder with
                pendingOutputs := outputs
                availableBitstreamBuffers := encoder.availableBitstreamBuffers.dropLast }
              fine output _ _ buffer with ⟨status, failed⟩ | ⟨_, delivered⟩
            · rw [failed] at own
              cases own
              exact Nat.zero_lt_succ _
            · rw [delivered] at own
              cases own
              rw [forget_rank, outputRank, fine]
              exact Nat.lt_succ_self _
  · cases turned

theorem drainOutput_drained (encoder : Encoder) : Drained (VideoEncoder.drainOutput encoder).1 := by
  refine drainTurn_none (turns_done drainTurn_falls _ ?_)
  rw [outputRank]
  split
  · exact Nat.zero_le _
  · exact le_refl _

theorem feedInput_drained (drained : Drained encoder) :
    Drained (VideoEncoder.feedInput encoder).1 := by
  refine @turns_preserve _ _ VideoEncoder.feedTurn (fun encoder _ => Drained encoder) ?_
    encoder.pendingFrames.length encoder [] drained
  intro encoder effects after more before turned
  rw [VideoEncoder.feedTurn] at turned
  split at turned
  · rename_i pending frames input inputs fine _ _
    dsimp only at turned
    split at turned
    · rw [notify_first (by exact fine)] at turned
      cases turned
      exact fun free => absurd free Bool.true_eq_false_eq_False
    · rw [recordFrameTimestamp] at turned
      dsimp only at turned
      split at turned
      · rw [notify_first (by exact fine)] at turned
        cases turned
        exact fun free => absurd free Bool.true_eq_false_eq_False
      · cases turned
        exact before
  · cases turned

end Loops

structure Sane (world : World) : Prop where
  kept : exists done left, Kept world done left
  drained : Drained world.encoder

section Events

variable {world : World} {done left : List Encoded}

theorem Kept.still (kept : Kept world done left) {after : Encoder}
    (same : after = { world.encoder with
      pendingFrames := after.pendingFrames, freeInputs := after.freeInputs }) :
    Kept { world with encoder := after } done left := by
  have silent := @Kept.silent _ _ _ kept after _ silent_nil (by rw [same])
    (fun _ => by rw [same]; exact ⟨rfl, rfl⟩) (by rw [same]) (by rw [same]) (by rw [same])
    (by rw [same]; exact kept.rate)
  rw [run_still] at silent
  exact silent

theorem Kept.hand (kept : Kept world done left) (buffer : BitstreamBuffer) :
    Kept { world with
      handed := world.handed ++ [buffer]
      encoder := { world.encoder with
        availableBitstreamBuffers := world.encoder.availableBitstreamBuffers ++ [buffer] } }
      done left :=
  { kept with
    buffers := by
      rw [<- List.append_assoc]
      exact (List.subperm_append_right [buffer]).mpr kept.buffers
    all := fun fine => by
      rw [<- List.append_assoc]
      exact (kept.all fine).append_right [buffer] }

theorem head_drop {α : Type*} {list : List α} {count : Nat} {first : α}
    (found : (list.drop count).head? = some first) :
    list.drop count = first :: list.drop (count + 1) := by
  rw [<- List.drop_drop, List.drop_one]
  exact (List.cons_head?_tail found).symm

theorem Kept.join (kept : Kept world done left) (output : OutputBuffer) {new : List Encoded}
    {inCodec : List QueuedInput} {config : Bytes}
    (frames : framesOf world.config [output] = new.map Encoded.waiting)
    (latest : configAfter world.config [output] = config)
    (fewer : (new.map Encoded.input ++ inCodec).Sublist world.inCodec) :
    Kept { world with
      encoded := world.encoded ++ new
      inCodec := inCodec
      config := config
      encoder := { world.encoder with
        pendingOutputs := world.encoder.pendingOutputs ++ [output] } } done (left ++ new) := by
  have sub : ((left ++ new).map Encoded.input ++ inCodec).Sublist
      (left.map Encoded.input ++ world.inCodec) := by
    rw [List.map_append, List.append_assoc]
    exact fewer.append_left _
  exact { kept with
    split := by
      rw [<- List.append_assoc]
      exact congrArg (· ++ new) kept.split
    queue := fun fine => by
      obtain ⟨waiting, known⟩ := kept.queue fine
      rw [framesOf_append, configAfter_append, known, waiting, frames, latest, List.map_append]
      exact ⟨rfl, rfl⟩
    flight := kept.flight.sublist (sub.map _)
    flown := fun input member => kept.flown input (sub.mem member) }

theorem Kept.put (kept : Kept world done left) {output : OutputBuffer} {dropped : Option Nat}
    (allowed : Allowed world (.newOutput output dropped)) :
    ∃ left', Kept { world.putOut output dropped with
      encoder := { world.encoder with
        pendingOutputs := world.encoder.pendingOutputs ++ [output] } } done left' := by
  have none := @Kept.join _ _ _ kept output []
  rw [List.map_nil, List.append_nil, List.append_nil] at none
  cases dropped with
  | none =>
    refine ⟨left, ?_⟩
    rw [World.putOut]
    cases read : readOutput output with
    | error status =>
      exact none (by rw [framesOf, read]; rfl) (by rw [configAfter, read]; rfl)
        (List.Sublist.refl _)
    | ok answer =>
      obtain ⟨attr, payload⟩ := answer
      have unframed := allowed attr payload read
      have frames : framesOf world.config [output] = [] := by
        rw [framesOf, read]
        dsimp only
        rw [unframed]
        rfl
      have latest : configAfter world.config [output] =
          if attr.codecData then payload else world.config := by
        rw [configAfter, read]
        rfl
      dsimp only
      split
      · rename_i config
        rw [if_pos config] at latest
        exact none frames latest (List.Sublist.refl _)
      · rename_i plain
        rw [if_neg plain] at latest
        exact none frames latest (List.Sublist.refl _)
  | some dropped =>
    obtain ⟨input, first, faithful⟩ := allowed
    have rest := head_drop first
    have sub : (input :: world.inCodec.drop (dropped + 1)).Sublist world.inCodec :=
      rest ▸ List.drop_sublist _ _
    rw [World.putOut, first]
    dsimp only
    cases read : readOutput output with
    | error status =>
      exact ⟨left, none (by rw [framesOf, read]; rfl) (by rw [configAfter, read]; rfl)
        ((List.sublist_cons_self _ _).trans sub)⟩
    | ok answer =>
      obtain ⟨attr, payload⟩ := answer
      obtain ⟨pts, plain, going⟩ := faithful attr (readOutput_attr read)
      have latest : configAfter world.config [output] = world.config := by
        rw [configAfter, read]
        dsimp only
        rw [plain]
        rfl
      dsimp only
      split
      · rename_i empty
        refine ⟨left, none ?_ latest ((List.sublist_cons_self _ _).trans sub)⟩
        rw [framesOf, read]
        dsimp only
        rw [isFrame, empty, Bool.not_true, Bool.and_false]
        rfl
      · rename_i full
        refine ⟨_, kept.join output ?_ latest sub⟩
        rw [framesOf, read]
        dsimp only
        rw [isFrame, plain, going, Bool.not_eq_true _ |>.mp full]
        simp [Encoded.waiting, pts, framesOf]

theorem notify_told (kept : Kept world done left) (status : EncoderStatus) :
    Kept (world.run (notifyErrorStatus world.encoder status)) done left := by
  cases error : world.encoder.errorOccurred with
  | true =>
    rw [notifyErrorStatus, error, if_pos rfl, run_still]
    exact kept
  | false =>
    rw [notify_first error]
    exact kept.fail error silent_nil rfl kept.flight (le_refl _) (List.Sublist.refl _) kept.rate

theorem notify_drained {encoder : Encoder} (drained : Drained encoder) (status : EncoderStatus) :
    Drained (notifyErrorStatus encoder status).1 := by
  cases error : encoder.errorOccurred with
  | true =>
    rw [notifyErrorStatus, error, if_pos rfl]
    exact drained
  | false =>
    rw [notify_first error]
    exact fun fine => absurd fine Bool.true_eq_false_eq_False

theorem Sane.change (sane : Sane world) (bitrate : Bitrate) (framerate : Nat)
    (size : Option (Int × Int)) (formatMade accepted : Bool) :
    Sane (world.run (requestEncodingParametersChange world.encoder bitrate framerate size formatMade
      accepted)) := by
  obtain ⟨done, left, kept⟩ := sane.kept
  have refused : ∀ status, Sane (world.run (notifyErrorStatus world.encoder status)) :=
    fun status => ⟨⟨done, left, notify_told kept status⟩, notify_drained sane.drained status⟩
  have silent : ∀ rate bitrates, ∀ effect,
      effect ∈ [Effect.setRates bitrates rate] -> effect.told = false := by
    intro rate bitrates effect member
    rw [List.mem_singleton.mp member]
    rfl
  have same : Sane (world.run (world.encoder, [])) := by
    rw [run_still]
    exact sane
  rw [requestEncodingParametersChange]
  split
  · exact refused _
  split
  · exact refused _
  rename_i nonzero
  split
  · exact refused _
  split
  · exact same
  split
  · exact same
  dsimp only
  split
  · exact ⟨⟨done, left, kept.silent (silent _ _) rfl (fun _ => ⟨rfl, rfl⟩) rfl rfl rfl kept.rate⟩,
      sane.drained⟩
  · exact ⟨⟨done, left, kept.silent (silent _ _) rfl (fun _ => ⟨rfl, rfl⟩) rfl rfl rfl
      (Nat.pos_of_ne_zero nonzero)⟩, sane.drained⟩

theorem Sane.next {event : Event} (sane : Sane world)
    (allowed : Allowed world event /\ Advancing world event) :
    Sane (VideoEncoder.next world event) := by
  obtain ⟨done, left, kept⟩ := sane.kept
  cases event with
  | encode frame keyFrame =>
    have still := @Kept.still _ _ _ kept { world.encoder with
      pendingFrames := world.encoder.pendingFrames ++ [{ frame := frame, keyFrame := keyFrame }] }
      rfl
    exact ⟨⟨done, left, still.feedInput allowed.2⟩, feedInput_drained sane.drained⟩
  | needInput input =>
    have still := @Kept.still _ _ _ kept { world.encoder with
      freeInputs := world.encoder.freeInputs ++ [input] } rfl
    exact ⟨⟨done, left, still.feedInput allowed.2⟩, feedInput_drained sane.drained⟩
  | useOutputBitstreamBuffer buffer =>
    exact ⟨(kept.hand buffer).drainOutput, drainOutput_drained _⟩
  | newOutput output dropped =>
    obtain ⟨left', put⟩ := kept.put allowed.1
    exact ⟨put.drainOutput, drainOutput_drained _⟩
  | requestEncodingParametersChange bitrate framerate size formatMade accepted =>
    exact sane.change bitrate framerate size formatMade accepted
  | codecError code =>
    exact ⟨⟨done, left, notify_told kept _⟩, notify_drained sane.drained _⟩

theorem sane_start (layout : InputLayout) (bitrate : Bitrate) {framerate : Nat}
    (nonzero : framerate ≠ 0) : Sane (start layout bitrate framerate) where
  kept := ⟨[], [], {
    split := rfl
    delivered := rfl
    fits := fun _ member => absurd member List.not_mem_nil
    queue := fun _ => ⟨rfl, rfl⟩
    flight := ⟨List.Pairwise.nil, fun _ member => absurd member List.not_mem_nil⟩
    flown := fun _ member => absurd member List.not_mem_nil
    increasing := List.Pairwise.nil
    past := fun _ member => absurd member List.not_mem_nil
    buffers := List.Subperm.refl _
    all := fun _ => List.Perm.refl _
    quiet := fun _ _ member => absurd member List.not_mem_nil
    last := fun failed => absurd failed Bool.false_ne_true
    rate := Nat.pos_of_ne_zero nonzero }⟩
  drained := fun _ => Or.inl rfl

end Events

/-- While the clock advances, every frame is delivered once, in order, in a buffer of its own, with
its own time and its configuration; and nothing is told after the first error. -/
theorem video_encoder_accounting (layout : InputLayout) (bitrate : Bitrate) (framerate : Nat)
    (nonzero : framerate ≠ 0) (events : List Event)
    (follows : Follows (fun world event => Allowed world event ∧ Advancing world event) next
      (start layout bitrate framerate) events) :
    let world := events.foldl next (start layout bitrate framerate)
    let deliveries := world.effects.filterMap readyOf
    let failed := world.encoder.errorOccurred
    deliveries.map Ready.content <+: world.encoded.map Encoded.content ∧
    (failed = false -> deliveries.length = min world.encoded.length world.handed.length) ∧
    (deliveries.map Ready.buffer).Subperm world.handed ∧
    (forall output, output ∈ deliveries -> output.data.length <= output.buffer.size) ∧
    (failed = false -> forall effect, effect ∈ world.effects -> effect.isError = false) ∧
    (failed = true -> exists before status,
      world.effects.filter Effect.told = before ++ [.error status] ∧
        forall effect, effect ∈ before -> effect.isError = false) ∧
    ((world.effects.filterMap queuedOf).map QueuedInput.pts).Pairwise
      fun first second => first < second := by
  intro world deliveries failed
  have sane : Sane world := follows.preserves (fun _ _ sane allowed => sane.next allowed)
    (sane_start layout bitrate nonzero)
  obtain ⟨done, left, kept⟩ := sane.kept
  refine ⟨?_, fun fine => ?_, ?_, kept.fits, kept.quiet, kept.last, kept.increasing⟩
  · rw [kept.split, List.map_append]
    exact ⟨left.map Encoded.content, congrArg (· ++ _) kept.delivered⟩
  · have counted : deliveries.length = done.length := by
      have lengths := congrArg List.length kept.delivered
      rwa [List.length_map, List.length_map] at lengths
    have shared := (kept.all fine).length_eq
    rw [List.length_append, List.length_map] at shared
    change deliveries.length + _ = _ at shared
    rw [<- shared, kept.split, List.length_append, counted]
    rcases sane.drained fine with none | none
    · rw [none, List.length_nil]
      omega
    · have waiting := (kept.queue fine).1
      rw [none] at waiting
      have empty : left = [] := List.map_eq_nil_iff.mp waiting.symm
      rw [empty, List.length_nil]
      omega
  · exact (List.sublist_append_left _ _).subperm.trans kept.buffers

section Clock

def squareLayout : InputLayout := { width := 2, height := 2, stride := 2, sliceHeight := 2 }

def plainBitrate : Bitrate := { mode := .constant, targetBps := 1000 }

def smallInput (index : UInt32) : InputBuffer := { index := index, capacity := 6 }

def smallOutput (index : UInt32) (pts : Int) : OutputBuffer :=
  { index := index, attr := some { pts := pts, size := 1, offset := 0 }, memory := some [7] }

def twoFrames : List Event :=
  [.needInput (smallInput 0), .needInput (smallInput 1), .encode { timestamp := 10 } false,
    .encode { timestamp := 20 } false]

def handBuffers : List Event :=
  [.useOutputBitstreamBuffer { id := 1, size := 8 },
    .useOutputBitstreamBuffer { id := 2, size := 8 }]

def atThirty : List Event :=
  twoFrames ++ [.newOutput (smallOutput 0 0) (some 0), .newOutput (smallOutput 1 33333) (some 0)] ++
    handBuffers

theorem atThirty_follows :
    Follows (fun world event => Allowed world event /\ Advancing world event) next
      (start squareLayout plainBitrate 30) atThirty := by
  refine ⟨⟨trivial, fun _ => by decide⟩, ⟨trivial, fun _ => by decide⟩,
    ⟨trivial, fun _ => by decide⟩, ⟨trivial, fun _ => by decide⟩, ⟨⟨⟨0, 0, 6, { timestamp := 10 }⟩, by decide, ?_⟩, trivial⟩,
    ⟨⟨⟨1, 33333, 6, { timestamp := 20 }⟩, by decide, ?_⟩, trivial⟩, ⟨trivial, trivial⟩,
    ⟨trivial, trivial⟩, trivial⟩
  · intro attr same
    cases same
    decide
  · intro attr same
    cases same
    decide

theorem video_encoder_accounting_thirty :
    (((atThirty.foldl next (start squareLayout plainBitrate 30)).effects.filterMap readyOf).map
        Ready.content).length = 2 ∧
      ((atThirty.foldl next (start squareLayout plainBitrate 30)).effects.filterMap readyOf).map
          Ready.content <+:
        [{ data := [7], keyFrame := false, timestamp := 10 },
          { data := [7], keyFrame := false, timestamp := 20 }] := by
  have encoded : (atThirty.foldl next (start squareLayout plainBitrate 30)).encoded.map
      Encoded.content =
        [{ data := [7], keyFrame := false, timestamp := 10 },
          { data := [7], keyFrame := false, timestamp := 20 }] := by
    decide
  refine ⟨by decide, ?_⟩
  rw [<- encoded]
  exact (video_encoder_accounting squareLayout plainBitrate 30 (by decide) atThirty
    atThirty_follows).1

def atTwoMillion : List Event :=
  [.requestEncodingParametersChange plainBitrate 2000000 none true true] ++ twoFrames ++
    [.newOutput (smallOutput 0 0) (some 0), .newOutput (smallOutput 1 0) (some 0)] ++ handBuffers

/-- Above a million frames a second the clock stands still: the first frame is given the second's
time, and the second none. -/
theorem clock_stands_still :
    Follows Allowed next (start squareLayout plainBitrate 30) atTwoMillion ∧
      let world := atTwoMillion.foldl next (start squareLayout plainBitrate 30)
      (world.effects.filterMap queuedOf).map QueuedInput.pts = [0, 0] ∧
      world.encoded.map (fun encoded => encoded.input.frame.timestamp) = [10, 20] ∧
      (world.effects.filterMap readyOf).map Ready.timestamp = [20, 0] := by
  refine ⟨⟨trivial, trivial, trivial, trivial, trivial,
    ⟨⟨0, 0, 6, { timestamp := 10 }⟩, by decide, ?_⟩,
    ⟨⟨1, 0, 6, { timestamp := 20 }⟩, by decide, ?_⟩, trivial, trivial, trivial⟩,
    by decide, by decide, by decide⟩
  · intro attr same
    cases same
    decide
  · intro attr same
    cases same
    decide

end Clock

end ChromiumHmos.Media.VideoEncoder
