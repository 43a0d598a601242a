import ChromiumHmos.Mcp.WebSocket

set_option autoImplicit false

/-!
# The reply to an evaluation

The server sends one command to the browser and waits for the message that answers it, whatever
else comes between and however the message is cut into frames.
-/

namespace ChromiumHmos.Mcp

open Base Lib

def evaluateCommand (expression : String) : DictValue :=
  let params := DictValue.set [] "expression" (.string expression)
  let params := params.set "awaitPromise" (.bool true)
  let params := params.set "returnByValue" (.bool true)
  let command := DictValue.set [] "id" (.int 1)
  let command := command.set "method" (.string "Runtime.evaluate")
  command.set "params" (.dict params)

def decideReply (message : DictValue) : Except (Option String) String :=
  match message.findDict "result" with
  | none => .error (some "Chromium could not evaluate the page content request")
  | some result =>
    if result.contains "exceptionDetails" then
      .error (some "Chromium could not evaluate the page content request")
    else
      match (result.findDict "result").bind fun remote => remote.findString "value" with
      | none => .error (some "Chromium returned no page content")
      | some value => .ok value

/-- The answer, and the payload and opcode of every frame sent. -/
structure Evaluation where
  result : Except (Option String) String
  sent : List (Bytes × UInt8)

section Loop

-- `JSONReader::ReadDict`
variable (readDict : Bytes -> Option DictValue)

def replyIn (fragments : Bytes) : Option DictValue :=
  (readDict fragments).bind fun message =>
    if (message.findInt "id").getD 0 ≠ 1 then none else some message

-- The loop looks at no final bit: a message is tried after each of its frames.
def awaitReply (stream : Incoming) (fragments : Bytes) : Evaluation :=
  match _received : receiveWebSocketFrame stream with
  | (.error error, _) => { result := .error error, sent := [] }
  | (.ok (opcode, payload), after) =>
    if opcode = 8 then
      { result := .error (some "CDP closed before returning page content"), sent := [] }
    else if opcode = 9 then
      let later := awaitReply after fragments
      { later with sent := (payload, 10) :: later.sent }
    else if opcode = 1 ∨ opcode = 2 ∨ opcode = 0 then
      let joined := if opcode = 0 then fragments ++ payload else payload
      match replyIn readDict joined with
      | none => awaitReply after joined
      | some message => { result := decideReply message, sent := [([], 8)] }
    else awaitReply after fragments
termination_by stream.bytes.length
decreasing_by
  all_goals exact receive_shrinks _received

-- From the command on; `sent` is whether the command went out.
def evaluateWithCdp (writeJson : DictValue -> Bytes) (sent : Bool) (expression : String)
    (stream : Incoming) : Evaluation :=
  let command := (writeJson (evaluateCommand expression), (1 : UInt8))
  if !sent then
    { result := .error (some "Failed to send the CDP command"), sent := [command] }
  else
    let later := awaitReply readDict stream []
    { later with sent := command :: later.sent }

end Loop

def Frame.IsData (frame : Frame) : Prop := frame.opcode = 1 ∨ frame.opcode = 2 ∨ frame.opcode = 0

instance decidableIsData (frame : Frame) : Decidable frame.IsData :=
  inferInstanceAs (Decidable (frame.opcode = 1 ∨ frame.opcode = 2 ∨ frame.opcode = 0))

-- A ping, a pong, or a frame of an opcode that stands for nothing.
def Frame.Interlude (frame : Frame) : Prop := ¬ frame.IsData ∧ frame.opcode ≠ 8

/-- The rest of a message in continuation frames, with other frames between. -/
inductive Continues : List Frame -> Bytes -> Prop
  | done : Continues [] []
  | interlude {frame : Frame} {rest : List Frame} {text : Bytes}
      (between : frame.Interlude) (later : Continues rest text) : Continues (frame :: rest) text
  | fragment {frame : Frame} {rest : List Frame} {text : Bytes}
      (continuation : frame.opcode = 0) (later : Continues rest text) :
      Continues (frame :: rest) (frame.payload ++ text)

/-- A whole message: a text or binary frame and its continuations. -/
inductive Spells : List Frame -> Bytes -> Prop
  | interlude {frame : Frame} {rest : List Frame} {text : Bytes}
      (between : frame.Interlude) (later : Spells rest text) : Spells (frame :: rest) text
  | first {frame : Frame} {rest : List Frame} {text : Bytes}
      (begins : frame.opcode = 1 ∨ frame.opcode = 2) (later : Continues rest text) :
      Spells (frame :: rest) (frame.payload ++ text)

def framesBytes (frames : List Frame) : Bytes := frames.flatMap Frame.bytes

def pongs (frames : List Frame) : List (Bytes × UInt8) :=
  (frames.filter fun frame => frame.opcode = 9).map fun frame => (frame.payload, 10)

-- What the loop holds of a message after one more frame.
def joined (fragments : Bytes) (frame : Frame) : Bytes :=
  if frame.opcode = 0 then fragments ++ frame.payload
  else if frame.opcode = 1 ∨ frame.opcode = 2 then frame.payload
  else fragments

variable {frame : Frame}

theorem Frame.IsData.notClose (data : frame.IsData) : frame.opcode ≠ 8 := by
  rcases data with one | two | zero <;> simp [*]

theorem Frame.IsData.notPing (data : frame.IsData) : frame.opcode ≠ 9 := by
  rcases data with one | two | zero <;> simp [*]

theorem isData_of_begins (begins : frame.opcode = 1 \/ frame.opcode = 2) : frame.IsData :=
  begins.elim Or.inl fun two => Or.inr (Or.inl two)

theorem joined_data (data : frame.IsData) (fragments : Bytes) :
    (if frame.opcode = 0 then fragments ++ frame.payload else frame.payload) =
      joined fragments frame := by
  rcases data with one | two | zero
  · simp [joined, one]
  · simp [joined, two]
  · simp [joined, zero]

theorem joined_begins (begins : frame.opcode = 1 \/ frame.opcode = 2)
    (fragments : Bytes) : joined fragments frame = frame.payload := by
  rcases begins with one | two
  · simp [joined, one]
  · simp [joined, two]

theorem joined_continuation (continuation : frame.opcode = 0) (fragments : Bytes) :
    joined fragments frame = fragments ++ frame.payload := if_pos continuation

theorem joined_between (data : ¬ frame.IsData) (fragments : Bytes) :
    joined fragments frame = fragments := by
  simp only [Frame.IsData, not_or] at data
  simp [joined, data.1, data.2.1, data.2.2]

section Reading

variable {readDict : Bytes -> Option DictValue}

/-- A text that reads as a dictionary goes on, if at all, with what changes nothing of it. -/
def Unambiguous (readDict : Bytes -> Option DictValue) : Prop :=
  forall front rest early whole, readDict front = some early ->
    readDict (front ++ rest) = some whole -> early = whole

/-- Frames the loop goes through without an end. -/
def Passed (readDict : Bytes -> Option DictValue) : Bytes -> List Frame -> Prop
  | _, [] => True
  | fragments, frame :: rest =>
    frame.opcode ≠ 8 ∧ (frame.IsData -> replyIn readDict (joined fragments frame) = none) ∧
      Passed readDict (joined fragments frame) rest

theorem passed_append (fragments : Bytes) (front back : List Frame) :
    Passed readDict fragments (front ++ back) ↔
      Passed readDict fragments front /\ Passed readDict (front.foldl joined fragments) back := by
  induction front generalizing fragments with
  | nil => simp [Passed]
  | cons frame rest ih =>
    simp only [List.cons_append, Passed, List.foldl_cons, ih, and_assoc]

variable {stream : Incoming} {rest text : Bytes}

theorem awaitReply_frame {frame : Frame} (fits : frame.payload.length <= kMaxCdpResponseBytes) (whole : stream.bytes = frame.bytes ++ rest)
    (notClose : frame.opcode ≠ 8) (fragments : Bytes)
    (unread : frame.IsData -> replyIn readDict (joined fragments frame) = none) :
    ∃ after, after.bytes = rest /\
      awaitReply readDict stream fragments =
        { result := (awaitReply readDict after (joined fragments frame)).result
          sent := pongs [frame] ++ (awaitReply readDict after (joined fragments frame)).sent } := by
  obtain ⟨after, received, left, _⟩ := receive_frame frame fits whole
  refine ⟨after, left, ?_⟩
  rw [awaitReply]
  split
  · rename_i impossible
    rw [received] at impossible
    cases impossible
  · rename_i opcode payload later same
    rw [received] at same
    obtain ⟨sameFrame, rfl⟩ := Prod.mk.inj same
    obtain ⟨rfl, rfl⟩ := Prod.mk.inj (Except.ok.inj sameFrame)
    rw [if_neg notClose]
    by_cases ping : frame.opcode = 9
    · have held : joined fragments frame = fragments := by simp [joined, ping]
      simp [ping, pongs, held]
    · by_cases data : frame.IsData
      · have nothing := unread data
        rw [if_neg ping, if_pos (show frame.opcode = 1 \/ frame.opcode = 2 \/ frame.opcode = 0 from data)]
        simp only [joined_data data, nothing]
        simp [pongs, ping]
      · have held := joined_between data fragments
        rw [if_neg ping, if_neg (show ¬ (frame.opcode = 1 \/ frame.opcode = 2 \/ frame.opcode = 0) from data)]
        simp [pongs, ping, held]

variable {frames : List Frame}

variable {fragments soFar : Bytes}

theorem awaitReply_passed
    (fits : ∀ frame ∈ frames, frame.payload.length <= kMaxCdpResponseBytes)
    (whole : stream.bytes = framesBytes frames ++ rest)
    (passed : Passed readDict fragments frames) :
    ∃ after, after.bytes = rest /\
      awaitReply readDict stream fragments =
        { result := (awaitReply readDict after (frames.foldl joined fragments)).result
          sent := pongs frames ++
            (awaitReply readDict after (frames.foldl joined fragments)).sent } := by
  induction frames generalizing stream fragments with
  | nil => exact ⟨stream, whole, rfl⟩
  | cons frame others ih =>
    obtain ⟨notClose, unread, passedLater⟩ := passed
    rw [framesBytes, List.flatMap_cons, List.append_assoc] at whole
    obtain ⟨after, left, now⟩ :=
      awaitReply_frame (fits frame (by simp)) whole notClose fragments unread
    obtain ⟨last, remaining, later⟩ :=
      ih (fun other member => fits other (List.mem_cons_of_mem _ member)) left passedLater
    refine ⟨last, remaining, ?_⟩
    have split : pongs (frame :: others) = pongs [frame] ++ pongs others := by
      rw [pongs, pongs, pongs, <- List.map_append, <- List.filter_append, List.singleton_append]
    rw [now, later, split, List.append_assoc]
    rfl

variable {message : DictValue}

theorem awaitReply_reply {frame : Frame} (fits : frame.payload.length <= kMaxCdpResponseBytes) (whole : stream.bytes = frame.bytes ++ rest)
    (data : frame.IsData) (reply : replyIn readDict (joined fragments frame) = some message) :
    awaitReply readDict stream fragments =
      { result := decideReply message, sent := [([], 8)] } := by
  obtain ⟨after, received, left, _⟩ := receive_frame frame fits whole
  rw [awaitReply]
  split
  · rename_i impossible
    rw [received] at impossible
    cases impossible
  · rename_i opcode payload later same
    rw [received] at same
    obtain ⟨sameFrame, rfl⟩ := Prod.mk.inj same
    obtain ⟨rfl, rfl⟩ := Prod.mk.inj (Except.ok.inj sameFrame)
    rw [if_neg data.notClose, if_neg data.notPing,
      if_pos (show frame.opcode = 1 \/ frame.opcode = 2 \/ frame.opcode = 0 from data)]
    simp only [joined_data data, reply]

theorem replyIn_front (unambiguous : Unambiguous readDict) {front : Bytes}
    {early : DictValue} (first : replyIn readDict front = some early)
    (whole : replyIn readDict (front ++ rest) = some message) : early = message := by
  obtain ⟨dict, read, kept⟩ := Option.bind_eq_some_iff.mp first
  obtain ⟨other, readWhole, keptWhole⟩ := Option.bind_eq_some_iff.mp whole
  have same := unambiguous front rest dict other read readWhole
  subst same
  exact Option.some.inj (kept.symm.trans keptWhole)

/-- Where the loop ends in a reply: at the first of its frames that completes the text. -/
def EndsIn (readDict : Bytes -> Option DictValue) (fragments : Bytes) (frames : List Frame)
    (message : DictValue) : Prop :=
  exists front frame back, frames = front ++ frame :: back ∧ Passed readDict fragments front ∧
    frame.IsData ∧ replyIn readDict (joined (front.foldl joined fragments) frame) = some message

theorem EndsIn.after {frame : Frame} {rest : List Frame} (notClose : frame.opcode ≠ 8)
    (unread : frame.IsData -> replyIn readDict (joined fragments frame) = none)
    (later : EndsIn readDict (joined fragments frame) rest message) :
    EndsIn readDict fragments (frame :: rest) message := by
  obtain ⟨front, last, back, rfl, passed, data, reply⟩ := later
  exact ⟨frame :: front, last, back, rfl, ⟨notClose, unread, passed⟩, data, reply⟩

theorem Continues.endsIn (unambiguous : Unambiguous readDict) (continues : Continues frames text)
    (unread : replyIn readDict soFar = none)
    (whole : replyIn readDict (soFar ++ text) = some message) :
    EndsIn readDict soFar frames message := by
  induction continues generalizing soFar with
  | done =>
    rw [List.append_nil, unread] at whole
    cases whole
  | @interlude frame rest text between later ih =>
    have held := joined_between between.1 soFar
    refine EndsIn.after between.2 (fun data => absurd data between.1) ?_
    rw [held]
    exact ih unread whole
  | @fragment frame rest text continuation later ih =>
    have held := joined_continuation continuation soFar
    have data : frame.IsData := Or.inr (Or.inr continuation)
    rw [<- List.append_assoc] at whole
    cases now : replyIn readDict (soFar ++ frame.payload) with
    | some early =>
      obtain rfl := replyIn_front unambiguous now whole
      refine ⟨[], frame, rest, rfl, trivial, data, ?_⟩
      rw [List.foldl_nil, held, now]
    | none =>
      refine EndsIn.after (by simp [continuation]) (fun _ => by rw [held, now]) ?_
      rw [held]
      exact ih now whole

theorem Spells.endsIn (unambiguous : Unambiguous readDict) (spells : Spells frames text)
    (whole : replyIn readDict text = some message) (fragments : Bytes) :
    EndsIn readDict fragments frames message := by
  induction spells with
  | @interlude frame rest text between later ih =>
    refine EndsIn.after between.2 (fun data => absurd data between.1) ?_
    rw [joined_between between.1]
    exact ih whole
  | @first frame rest text begins later =>
    have held := joined_begins begins fragments
    have data := isData_of_begins begins
    cases now : replyIn readDict frame.payload with
    | some early =>
      obtain rfl := replyIn_front unambiguous now whole
      refine ⟨[], frame, rest, rfl, trivial, data, ?_⟩
      rw [List.foldl_nil, held, now]
    | none =>
      refine EndsIn.after data.notClose (fun _ => by rw [held, now]) ?_
      rw [held]
      exact later.endsIn unambiguous now whole

/-- A complete message that is not the reply: no beginning of it reads as the reply, or it comes in
one frame and does not. -/
inductive OtherMessage (readDict : Bytes -> Option DictValue) : List Frame -> Prop
  | spelled {frames : List Frame} {text : Bytes} (spells : Spells frames text)
      (quiet : forall front, front <+: text -> replyIn readDict front = none) :
      OtherMessage readDict frames
  | whole {before after : List Frame} {frame : Frame}
      (between : forall other, other ∈ before ++ after -> other.Interlude)
      (begins : frame.opcode = 1 ∨ frame.opcode = 2)
      (quiet : replyIn readDict frame.payload = none) :
      OtherMessage readDict (before ++ frame :: after)

-- A dictionary with another id is such a message, however it is cut.
theorem Continues.passed (continues : Continues frames text) (quiet : ∀ front, front <+: soFar ++ text -> replyIn readDict front = none) :
    Passed readDict soFar frames := by
  induction continues generalizing soFar with
  | done => trivial
  | @interlude frame rest text between later ih =>
    refine ⟨between.2, fun data => absurd data between.1, ?_⟩
    rw [joined_between between.1]
    exact ih quiet
  | @fragment frame rest text continuation later ih =>
    have held := joined_continuation continuation soFar
    rw [<- List.append_assoc] at quiet
    refine ⟨by simp [continuation], fun _ => ?_, ?_⟩
    · rw [held]
      exact quiet _ (List.prefix_append _ _)
    · rw [held]
      exact ih quiet

theorem Spells.passed (spells : Spells frames text)
    (quiet : ∀ front, front <+: text -> replyIn readDict front = none) (fragments : Bytes) :
    Passed readDict fragments frames := by
  induction spells with
  | @interlude frame rest text between later ih =>
    refine ⟨between.2, fun data => absurd data between.1, ?_⟩
    rw [joined_between between.1]
    exact ih quiet
  | @first frame rest text begins later =>
    have held := joined_begins begins fragments
    have notClose := (isData_of_begins begins).notClose
    refine ⟨notClose, fun _ => ?_, ?_⟩
    · rw [held]
      exact quiet _ (List.prefix_append _ _)
    · rw [held]
      exact later.passed quiet

theorem passed_interludes
    (between : ∀ frame ∈ frames, frame.Interlude) (fragments : Bytes) :
    Passed readDict fragments frames := by
  induction frames with
  | nil => trivial
  | cons frame rest ih =>
    have own := between frame (by simp)
    refine ⟨own.2, fun data => absurd data own.1, ?_⟩
    rw [joined_between own.1]
    exact ih fun other member => between other (List.mem_cons_of_mem _ member)

theorem OtherMessage.passed (other : OtherMessage readDict frames)
    (fragments : Bytes) : Passed readDict fragments frames := by
  cases other with
  | spelled spells quiet => exact spells.passed quiet fragments
  | @whole before after frame between begins quiet =>
    rw [passed_append]
    refine ⟨passed_interludes (fun f member => between f (List.mem_append_left _ member)) _, ?_⟩
    have notClose := (isData_of_begins begins).notClose
    refine ⟨notClose, fun _ => by rw [joined_begins begins, quiet], ?_⟩
    exact passed_interludes (fun f member => between f (List.mem_append_right _ member)) _

variable {others : List (List Frame)}

theorem passed_others
    (each : ∀ frames ∈ others, OtherMessage readDict frames) (fragments : Bytes) :
    Passed readDict fragments others.flatten := by
  induction others generalizing fragments with
  | nil => trivial
  | cons frames rest ih =>
    rw [List.flatten_cons, passed_append]
    exact ⟨(each frames (by simp)).passed fragments,
      ih (fun other member => each other (List.mem_cons_of_mem _ member)) _⟩

theorem framesBytes_append (front back : List Frame) :
    framesBytes (front ++ back) = framesBytes front ++ framesBytes back :=
  List.flatMap_append

/-- What the evaluation comes to where the reply ends with this frame of its. -/
def DecidesOn (readDict : Bytes -> Option DictValue) (before reply : List Frame)
    (message : DictValue) (command : Bytes × UInt8) (evaluation : Evaluation) : Prop :=
  exists front frame back, reply = front ++ frame :: back ∧
    Passed readDict (before.foldl joined []) front ∧ frame.IsData ∧
    replyIn readDict (joined ((before ++ front).foldl joined []) frame) = some message ∧
    evaluation =
      { result := decideReply message
        sent := command :: (pongs (before ++ front) ++ [([], 8)]) }

theorem evaluation_decides (unambiguous : Unambiguous readDict)
    (writeJson : DictValue -> Bytes) (expression : String)
    (each : ∀ frames ∈ others, OtherMessage readDict frames)
    {reply : List Frame} (spells : Spells reply text) (read : replyIn readDict text = some message)
    (fits : ∀ frame, frame ∈ others.flatten ++ reply ->
      frame.payload.length <= kMaxCdpResponseBytes)
    (whole : stream.bytes = framesBytes (others.flatten ++ reply) ++ rest) :
    DecidesOn readDict others.flatten reply message (writeJson (evaluateCommand expression), 1)
      (evaluateWithCdp readDict writeJson true expression stream) := by
  obtain ⟨front, frame, back, rfl, passed, data, ends⟩ :=
    spells.endsIn unambiguous read (others.flatten.foldl joined [])
  have before : Passed readDict [] (others.flatten ++ front) :=
    (passed_append [] _ _).mpr ⟨passed_others each [], passed⟩
  rw [<- List.append_assoc, framesBytes_append, List.append_assoc] at whole
  obtain ⟨after, left, through⟩ := awaitReply_passed
    (fun other member => fits other (by
      rcases List.mem_append.mp member with early | late
      · exact List.mem_append_left _ early
      · exact List.mem_append_right _ (List.mem_append_left _ late))) whole before
  rw [framesBytes, List.flatMap_cons, List.append_assoc] at left
  rw [<- List.foldl_append] at ends
  have last := awaitReply_reply (fits frame (by simp)) left data ends
  refine ⟨front, frame, back, rfl, passed, data, ends, ?_⟩
  simp only [evaluateWithCdp, Bool.not_true, Bool.false_eq_true, if_false, through, last]

end Reading

section Sample

def sampleReply : DictValue :=
  [("id", .int 1), ("result", .dict [("result", .dict [("value", .string "ok")])])]

def sampleReplyText : Bytes :=
  asciiBytes "\x7b\"id\":1,\"result\":\x7b\"result\":\x7b\"value\":\"ok\"\x7d\x7d\x7d"

-- The reader as far as the sample's texts go: the reply, and white space after it.
def readSample (text : Bytes) : Option DictValue :=
  if sampleReplyText <+: text ∧ (text.drop sampleReplyText.length).all (· = 32) = true then
    some sampleReply
  else none

theorem readSample_unambiguous : Unambiguous readSample := by
  intro front rest early whole first second
  simp only [readSample] at first second
  split at first
  · split at second
    · exact (Option.some.inj first).symm.trans (Option.some.inj second)
    · cases second
  · cases first

-- The reply in two frames, with a ping between them.
def sampleFrames : List Frame :=
  [{ first := 0x01, payload := sampleReplyText.take 5, mask := none },
    { first := 0x89, payload := [1, 2], mask := none },
    { first := 0x80, payload := sampleReplyText.drop 5, mask := none }]

theorem readSample_reply (spaces : Nat) :
    replyIn readSample (sampleReplyText ++ List.replicate spaces 32) = some sampleReply := by
  have reads : readSample (sampleReplyText ++ List.replicate spaces 32) = some sampleReply := by
    refine if_pos ⟨List.prefix_append _ _, ?_⟩
    rw [List.drop_left, List.all_eq_true]
    intro byte member
    rw [List.eq_of_mem_replicate member]
    rfl
  rw [replyIn, reads]
  rfl

theorem sampleFrames_spell : Spells sampleFrames sampleReplyText := by
  have later : Continues (sampleFrames.drop 1) (sampleReplyText.drop 5 ++ []) :=
    .interlude ⟨by decide, by decide⟩ (.fragment (by decide) .done)
  have whole : Spells sampleFrames (sampleReplyText.take 5 ++ (sampleReplyText.drop 5 ++ [])) :=
    .first (Or.inl (by decide)) later
  rwa [List.append_nil, List.take_append_drop] at whole

end Sample

end ChromiumHmos.Mcp
