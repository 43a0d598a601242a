import ChromiumHmos.Mcp.HttpRequest

set_option autoImplicit false

/-!
# Packet boundaries of a request

The reader looks for the blank line after every chunk and for the limit before the next one: a blank
line that ends past the limit is found or not as the chunks fall, and no other request depends on
them.
-/

namespace ChromiumHmos.Mcp

open Base Lib

theorem standsAt_append {A : Type} {pattern front back : List A} {i : Nat}
    (fits : i + pattern.length <= front.length) :
    StandsAt pattern (front ++ back) i ↔ StandsAt pattern front i := by
  have inside : i <= front.length := by omega
  simp only [StandsAt, List.drop_append_of_le_length inside]
  constructor
  · intro stands
    exact List.prefix_of_prefix_length_le stands (List.prefix_append _ _)
      (by rw [List.length_drop]; omega)
  · intro stands
    exact stands.trans (List.prefix_append _ _)

theorem standsAt_length {A : Type} {pattern text : List A} {i : Nat} (nonempty : pattern ≠ [])
    (stands : StandsAt pattern text i) : i + pattern.length <= text.length := by
  rcases stands.length with fits | empty
  · omega
  · exact absurd empty nonempty

variable {front back : Bytes} {headerEnd : Nat}

theorem blankLine_nonempty : blankLine ≠ [] := by decide

theorem indexOf_front (back : Bytes) (found : indexOf blankLine front 0 = some headerEnd) :
    indexOf blankLine (front ++ back) 0 = some headerEnd /\ headerEnd + 4 <= front.length := by
  obtain ⟨_, stands, first⟩ := indexOf_some blankLine front blankLine_nonempty 0 headerEnd found
  have fits : headerEnd + 4 <= front.length := standsAt_length blankLine_nonempty stands
  refine ⟨?_, fits⟩
  apply indexOf_first blankLine (front ++ back) blankLine_nonempty 0 headerEnd (Nat.zero_le _)
  · exact (standsAt_append fits).mpr stands
  · intro j _ earlier other
    have within : j + blankLine.length <= front.length := by
      have four : blankLine.length = 4 := rfl
      omega
    exact first j (Nat.zero_le _) earlier ((standsAt_append within).mp other)

theorem indexOf_whole (found : indexOf blankLine (front ++ back) 0 = some headerEnd)
    (fits : headerEnd + 4 <= front.length) : indexOf blankLine front 0 = some headerEnd := by
  obtain ⟨_, stands, first⟩ :=
    indexOf_some blankLine (front ++ back) blankLine_nonempty 0 headerEnd found
  apply indexOf_first blankLine front blankLine_nonempty 0 headerEnd (Nat.zero_le _)
  · exact (standsAt_append fits).mp stands
  · intro j _ earlier other
    have within := standsAt_length blankLine_nonempty other
    exact first j (Nat.zero_le _) earlier ((standsAt_append within).mpr other)

theorem unseen_longer (found : indexOf blankLine (front ++ back) 0 = some headerEnd)
    (here : indexOf blankLine front 0 = none) : front.length < headerEnd + 4 := by
  by_contra seen
  rw [indexOf_whole found (Nat.le_of_not_lt seen)] at here
  cases here

variable {buffer chunk : Bytes}

theorem read_shorter (short : buffer.length <= kMaxHeaderBytes) (some : 0 < chunk.length) :
    kMaxHeaderBytes + 1 - (buffer ++ chunk).length < kMaxHeaderBytes + 1 - buffer.length := by
  rw [List.length_append]
  omega

variable (stream : Incoming)

theorem readHead_sound (buffer : Bytes) {headerEnd : Nat} {received : Bytes}
    {after : Incoming} (found : readHead stream buffer = some (headerEnd, received, after)) :
    received ++ after.bytes = buffer ++ stream.bytes /\
      indexOf blankLine (buffer ++ stream.bytes) 0 = some headerEnd /\
      headerEnd + 4 <= received.length /\ received.length <= kMaxHeaderBytes + kChunkBytes := by
  induction buffer using (measure fun buffer : Bytes => kMaxHeaderBytes + 1 - buffer.length).wf.induction
    generalizing stream with
  | _ buffer ih =>
    have parts := recv_append stream kChunkBytes
    have bound := recv_length_le stream kChunkBytes
    rw [readHead] at found
    generalize stream.recv kChunkBytes = result at found parts bound
    obtain ⟨chunk, rest⟩ := result
    simp only at found parts bound
    have whole : buffer ++ chunk ++ rest.bytes = buffer ++ stream.bytes := by
      rw [List.append_assoc, parts]
    by_cases full : kMaxHeaderBytes < buffer.length
    · simp [full] at found
    · by_cases ended : chunk = []
      · simp [full, ended] at found
      · simp only [full, ended, dite_false] at found
        have some : 0 < chunk.length := List.length_pos_of_ne_nil ended
        cases here : indexOf blankLine (buffer ++ chunk) 0 with
        | some place =>
          simp only [here, Option.some.injEq, Prod.mk.injEq] at found
          obtain ⟨rfl, rfl, rfl⟩ := found
          obtain ⟨overall, fits⟩ := indexOf_front rest.bytes here
          rw [whole] at overall
          refine ⟨whole, overall, fits, ?_⟩
          rw [List.length_append]
          omega
        | none =>
          simp only [here] at found
          have later := ih (buffer ++ chunk) (read_shorter (Nat.le_of_not_lt full) some) rest found
          rwa [whole] at later

-- Nothing more is needed than to see the blank line before the limit is passed.
theorem readHead_within (buffer : Bytes) {headerEnd : Nat}
    (found : indexOf blankLine (buffer ++ stream.bytes) 0 = some headerEnd)
    (unseen : buffer.length < headerEnd + 4) (early : headerEnd + 4 <= kMaxHeaderBytes + 1) :
    (readHead stream buffer).isSome = true := by
  induction buffer using (measure fun buffer : Bytes => kMaxHeaderBytes + 1 - buffer.length).wf.induction
    generalizing stream with
  | _ buffer ih =>
    have parts := recv_append stream kChunkBytes
    have filled := @recv_eq_nil stream kChunkBytes (by decide)
    have fits := (indexOf_front [] found).2
    rw [List.length_append] at fits
    rw [readHead]
    generalize stream.recv kChunkBytes = result at parts filled
    obtain ⟨chunk, rest⟩ := result
    simp only at parts filled ⊢
    have full : ¬ kMaxHeaderBytes < buffer.length := by omega
    have ended : chunk ≠ [] := by
      intro nothing
      rw [filled.mp nothing] at fits
      simp only [List.length_nil] at fits
      omega
    simp only [full, ended, dite_false]
    cases here : indexOf blankLine (buffer ++ chunk) 0 with
    | some place => rfl
    | none =>
      have some : 0 < chunk.length := List.length_pos_of_ne_nil ended
      rw [<- parts, <- List.append_assoc] at found
      exact ih (buffer ++ chunk) (read_shorter (Nat.le_of_not_lt full) some) rest found (unseen_longer found here)

-- Byte by byte the limit is passed before a later blank line is seen.
theorem readHead_bytewise (single : stream.chunk = fun _ => 1) (buffer : Bytes) {headerEnd : Nat}
    (found : indexOf blankLine (buffer ++ stream.bytes) 0 = some headerEnd)
    (late : kMaxHeaderBytes + 1 < headerEnd + 4) (within : buffer.length <= kMaxHeaderBytes + 1) :
    readHead stream buffer = none := by
  induction buffer using (measure fun buffer : Bytes => kMaxHeaderBytes + 1 - buffer.length).wf.induction
    generalizing stream with
  | _ buffer ih =>
    have parts := recv_append stream kChunkBytes
    have one : (stream.recv kChunkBytes).1.length <= 1 := by
      simp [Incoming.recv, single]
    have kept := recv_chunk stream kChunkBytes
    rw [readHead]
    generalize stream.recv kChunkBytes = result at parts one kept
    obtain ⟨chunk, rest⟩ := result
    simp only at parts one kept ⊢
    by_cases full : kMaxHeaderBytes < buffer.length
    · simp [full]
    · by_cases ended : chunk = []
      · simp [ended]
      · simp only [full, ended, dite_false]
        have some : 0 < chunk.length := List.length_pos_of_ne_nil ended
        rw [<- parts, <- List.append_assoc] at found
        cases here : indexOf blankLine (buffer ++ chunk) 0 with
        | some place =>
          obtain ⟨overall, fits⟩ := indexOf_front rest.bytes here
          rw [overall] at found
          obtain rfl := Option.some.inj found
          rw [List.length_append] at fits
          omega
        | none =>
          have still : (buffer ++ chunk).length <= kMaxHeaderBytes + 1 := by
            rw [List.length_append]
            omega
          exact ih (buffer ++ chunk) (read_shorter (Nat.le_of_not_lt full) some) rest (kept.trans single) found still

-- In whole chunks the limit is met exactly, and one more chunk is read.
theorem readHead_chunkwise (whole : stream.chunk = fun _ => kChunkBytes)
    (buffer : Bytes) {headerEnd : Nat}
    (found : indexOf blankLine (buffer ++ stream.bytes) 0 = some headerEnd)
    (unseen : buffer.length < headerEnd + 4) (late : headerEnd + 4 <= kMaxHeaderBytes + kChunkBytes)
    (filled : buffer.length % kChunkBytes = 0) : (readHead stream buffer).isSome = true := by
  induction buffer using (measure fun buffer : Bytes => kMaxHeaderBytes + 1 - buffer.length).wf.induction
    generalizing stream with
  | _ buffer ih =>
    have limit : kMaxHeaderBytes = 16 * kChunkBytes := rfl
    have page : kChunkBytes = 4096 := rfl
    have parts := recv_append stream kChunkBytes
    have size : (stream.recv kChunkBytes).1.length = min kChunkBytes stream.bytes.length := by
      simp [Incoming.recv, whole, List.length_take, page]
    have kept := recv_chunk stream kChunkBytes
    have fits := (indexOf_front [] found).2
    rw [List.length_append] at fits
    rw [readHead]
    generalize stream.recv kChunkBytes = result at parts size kept
    obtain ⟨chunk, rest⟩ := result
    simp only at parts size kept ⊢
    rw [page] at filled
    have full : ¬ kMaxHeaderBytes < buffer.length := by omega
    have some : 0 < chunk.length := by omega
    have ended : chunk ≠ [] := List.ne_nil_of_length_pos some
    simp only [full, ended, dite_false]
    cases here : indexOf blankLine (buffer ++ chunk) 0 with
    | some place => rfl
    | none =>
      rw [<- parts, <- List.append_assoc] at found
      have still := unseen_longer found here
      apply ih (buffer ++ chunk) (read_shorter (Nat.le_of_not_lt full) some) rest (kept.trans whole) found still
      rw [List.length_append] at still ⊢
      rw [page]
      omega

theorem readBody_spec (body : Bytes) (contentLength : Nat) :
    (readBody stream body contentLength).map (List.take contentLength) =
      if contentLength <= (body ++ stream.bytes).length then
        some ((body ++ stream.bytes).take contentLength)
      else none := by
  induction body using (measure fun body : Bytes => contentLength - body.length).wf.induction
    generalizing stream with
  | _ body ih =>
    rw [readBody]
    by_cases complete : contentLength <= body.length
    · have enough : contentLength <= (body ++ stream.bytes).length := by
        rw [List.length_append]
        omega
      simp only [complete, dite_true, Option.map_some, enough, if_true]
      rw [List.take_append_of_le_length complete]
    · have page : kChunkBytes = 4096 := rfl
      have parts := recv_append stream (min kChunkBytes (contentLength - body.length))
      have filled := @recv_eq_nil stream (min kChunkBytes (contentLength - body.length))
        (by omega)
      generalize stream.recv (min kChunkBytes (contentLength - body.length)) = result
        at parts filled
      obtain ⟨chunk, rest⟩ := result
      simp only at parts filled ⊢
      simp only [complete, dite_false]
      by_cases ended : chunk = []
      · have short : ¬ contentLength <= (body ++ stream.bytes).length := by
          rw [filled.mp ended, List.append_nil]
          exact complete
        simp only [ended, dite_true, short, if_false, Option.map_none]
      · have some : 0 < chunk.length := List.length_pos_of_ne_nil ended
        have shorter : contentLength - (body ++ chunk).length < contentLength - body.length := by
          rw [List.length_append]
          omega
        simp only [ended, dite_false]
        rw [ih (body ++ chunk) shorter rest, List.append_assoc, parts]

-- The request of a stream whose first blank line stands here.
def requestAt (bytes : Bytes) (headerEnd : Nat) : Option HttpRequest := do
  let request <- parseRequestHeaders (bytes.take (headerEnd + 2))
  let contentLength <- contentLengthOf request
  if headerEnd + 4 + contentLength <= bytes.length then
    return { request with body := (bytes.drop (headerEnd + 4)).take contentLength }
  else none

theorem readHttpRequest_spec :
    readHttpRequest stream =
      (readHead stream []).bind fun head => requestAt stream.bytes head.1 := by
  cases found : readHead stream [] with
  | none => simp [readHttpRequest, found]
  | some head =>
    obtain ⟨headerEnd, received, after⟩ := head
    obtain ⟨whole, _, fits, _⟩ := readHead_sound stream [] found
    rw [List.nil_append] at whole
    have front : received.take (headerEnd + 2) = stream.bytes.take (headerEnd + 2) := by
      rw [<- whole, List.take_append_of_le_length (by omega)]
    have rest : received.drop (headerEnd + 4) ++ after.bytes =
        stream.bytes.drop (headerEnd + 4) := by
      rw [<- whole, List.drop_append_of_le_length fits]
    simp only [readHttpRequest, requestAt, found, Option.bind_eq_bind, Option.bind_some, front]
    cases parseRequestHeaders (stream.bytes.take (headerEnd + 2)) with
    | none => rfl
    | some request =>
      simp only [Option.bind_some]
      cases contentLengthOf request with
      | none => rfl
      | some contentLength =>
        have body := readBody_spec after (received.drop (headerEnd + 4)) contentLength
        have length : (contentLength <= (stream.bytes.drop (headerEnd + 4)).length) ↔
            headerEnd + 4 + contentLength <= stream.bytes.length := by
          have inside : headerEnd + 4 <= stream.bytes.length := by
            rw [<- whole, List.length_append]
            omega
          rw [List.length_drop]
          omega
        rw [rest] at body
        simp only [length] at body
        simp only [Option.bind_some]
        by_cases enough : headerEnd + 4 + contentLength <= stream.bytes.length
        · simp only [enough, if_true, Option.map_eq_some_iff] at body ⊢
          obtain ⟨read, result, taken⟩ := body
          simp [result, taken]
        · simp only [enough, if_false, Option.map_eq_none_iff] at body ⊢
          simp [body]

def streamOf (bytes : Bytes) (chunk : Nat -> Nat) : Incoming :=
  { bytes := bytes, chunk := chunk, reads := 0 }

/-- An acceptable request whose blank line is complete only past the limit, but no more than one
chunk past it. -/
def LateBlankLine (bytes : Bytes) : Prop :=
  exists headerEnd, indexOf blankLine bytes 0 = some headerEnd ∧
    kMaxHeaderBytes + 1 < headerEnd + 4 ∧ headerEnd + 4 <= kMaxHeaderBytes + kChunkBytes ∧
    (requestAt bytes headerEnd).isSome = true

-- Away from late blank lines there is one answer, whatever the chunks.
theorem readHttpRequest_whole {bytes : Bytes} (timely : ¬ LateBlankLine bytes)
    (chunk : Nat -> Nat) :
    readHttpRequest (streamOf bytes chunk) =
      match indexOf blankLine bytes 0 with
      | none => none
      | some headerEnd =>
        if headerEnd + 4 <= kMaxHeaderBytes + 1 then requestAt bytes headerEnd else none := by
  rw [readHttpRequest_spec]
  cases place : indexOf blankLine bytes 0 with
  | none =>
    cases found : readHead (streamOf bytes chunk) [] with
    | none => rfl
    | some head =>
      obtain ⟨headerEnd, received, after⟩ := head
      have seen := (readHead_sound (streamOf bytes chunk) [] found).2.1
      rw [List.nil_append, show (streamOf bytes chunk).bytes = bytes from rfl, place] at seen
      cases seen
  | some headerEnd =>
    have own : indexOf blankLine ([] ++ (streamOf bytes chunk).bytes) 0 = some headerEnd := place
    cases found : readHead (streamOf bytes chunk) [] with
    | none =>
      by_cases early : headerEnd + 4 <= kMaxHeaderBytes + 1
      · have seen := readHead_within (streamOf bytes chunk) [] own (by simp) early
        rw [found] at seen
        cases seen
      · simp [early]
    | some head =>
      obtain ⟨other, received, after⟩ := head
      obtain ⟨_, seen, fits, bound⟩ := readHead_sound (streamOf bytes chunk) [] found
      rw [own] at seen
      obtain rfl := Option.some.inj seen
      simp only [Option.bind_some]
      by_cases early : headerEnd + 4 <= kMaxHeaderBytes + 1
      · simp only [early, if_true]
        rfl
      · simp only [early, if_false]
        have refused : ¬ (requestAt bytes headerEnd).isSome = true :=
          fun accepted => timely ⟨headerEnd, place, by omega, by omega, accepted⟩
        show requestAt bytes headerEnd = none
        simpa using refused

theorem same_request_iff (bytes : Bytes) :
    (∀ first second : Nat -> Nat,
      readHttpRequest (streamOf bytes first) = readHttpRequest (streamOf bytes second)) ↔
    ¬ LateBlankLine bytes := by
  constructor
  · rintro same ⟨headerEnd, place, late, near, accepted⟩
    have bytewise := readHead_bytewise (streamOf bytes fun _ => 1) rfl [] place late (by simp)
    have chunkwise := readHead_chunkwise (streamOf bytes fun _ => kChunkBytes) rfl [] place
      (by simp) near rfl
    obtain ⟨⟨other, received, after⟩, found⟩ := Option.isSome_iff_exists.mp chunkwise
    have seen := (readHead_sound _ [] found).2.1
    rw [List.nil_append, show (streamOf bytes fun _ => kChunkBytes).bytes = bytes from rfl,
      place] at seen
    obtain rfl := Option.some.inj seen
    have answers := same (fun _ => 1) fun _ => kChunkBytes
    rw [readHttpRequest_spec, readHttpRequest_spec, bytewise, found] at answers
    simp only [Option.bind_none, Option.bind_some] at answers
    rw [show (streamOf bytes fun _ => kChunkBytes).bytes = bytes from rfl] at answers
    rw [<- answers] at accepted
    cases accepted
  · intro timely first second
    rw [readHttpRequest_whole timely, readHttpRequest_whole timely]

/-- The body is what the content length says of the bytes after the first blank line. -/
def ExactBody (bytes : Bytes) (request : HttpRequest) : Prop :=
  exists headerEnd contentLength, indexOf blankLine bytes 0 = some headerEnd ∧
    contentLengthOf request = some contentLength ∧
    headerEnd + 4 + contentLength <= bytes.length ∧
    request.body = (bytes.drop (headerEnd + 4)).take contentLength

/-- One of the local origins, with or without a port. -/
def LocalOrigin (origin : Bytes) : Prop :=
  exists localOrigin, localOrigin ∈ localOrigins ∧
    (toLower origin = localOrigin ∨
      exists port, toLower origin = localOrigin ++ asciiBytes ":" ++ port)

theorem body_exact {bytes : Bytes} {chunk : Nat -> Nat} {request : HttpRequest}
    (read : readHttpRequest (streamOf bytes chunk) = some request) : ExactBody bytes request := by
  rw [readHttpRequest_spec] at read
  obtain ⟨⟨headerEnd, received, after⟩, found, result⟩ := Option.bind_eq_some_iff.mp read
  have place := (readHead_sound _ [] found).2.1
  simp only [requestAt, Option.bind_eq_bind, Option.bind_eq_some_iff] at result
  obtain ⟨parsed, _, contentLength, length, last⟩ := result
  by_cases enough : headerEnd + 4 + contentLength <= (streamOf bytes chunk).bytes.length
  · simp only [enough, if_true] at last
    obtain rfl := Option.some.inj last
    exact ⟨headerEnd, contentLength, place, length, enough, rfl⟩
  · simp [enough] at last

theorem isAllowedOrigin_local {request : HttpRequest} (allowed : isAllowedOrigin request = true)
    {origin : Bytes} (given : request.headers.lookup originName = some origin) :
    LocalOrigin origin := by
  simp only [isAllowedOrigin, given, List.any_eq_true, Bool.or_eq_true, Bool.and_eq_true,
    decide_eq_true_eq] at allowed
  obtain ⟨localOrigin, member, same | ⟨start, colon⟩⟩ := allowed
  · exact ⟨localOrigin, member, Or.inl same⟩
  · obtain ⟨rest, parts⟩ := List.isPrefixOf_iff_prefix.mp start
    refine ⟨localOrigin, member, Or.inr ⟨rest.drop 1, ?_⟩⟩
    rw [<- parts, List.getElem?_append_right (le_refl _), Nat.sub_self] at colon
    cases rest with
    | nil => cases colon
    | cons first others =>
      obtain rfl := Option.some.inj colon
      rw [<- parts, List.append_assoc]
      rfl

theorem dispatched_local {stream : Incoming} {request : HttpRequest}
    (dispatched : handleClient stream = .mcp request) :
    request.method = postMethod /\ request.path = mcpPath /\
      ∀ origin, request.headers.lookup originName = some origin -> LocalOrigin origin := by
  simp only [handleClient] at dispatched
  cases read : readHttpRequest stream with
  | none => simp [read] at dispatched
  | some parsed =>
    simp only [read] at dispatched
    split at dispatched
    · cases dispatched
    · rename_i allowed
      repeat (split at dispatched; · cases dispatched)
      rename_i posted
      obtain rfl := Answer.mcp.inj dispatched
      push Not at posted
      exact ⟨posted.1, posted.2, fun origin given =>
        isAllowedOrigin_local (by simpa using allowed) given⟩

/-- What is to hold of a stream however it is split into chunks. -/
structure PacketsDoNotMatter (bytes : Bytes) : Prop where
  same : forall first second : Nat -> Nat,
    readHttpRequest (streamOf bytes first) = readHttpRequest (streamOf bytes second)
  body : forall chunk request,
    readHttpRequest (streamOf bytes chunk) = some request -> ExactBody bytes request
  dispatched : forall chunk request, handleClient (streamOf bytes chunk) = .mcp request ->
    request.method = postMethod ∧ request.path = mcpPath ∧
      forall origin, request.headers.lookup originName = some origin -> LocalOrigin origin

section LongRequest

-- `POST /mcp ` and then letters.
def longLine (count : Nat) : Bytes := asciiBytes "POST /mcp " ++ List.replicate count 97

def longRequest (count : Nat) : Bytes := longLine count ++ blankLine

variable (count : Nat)

theorem longLine_length : (longLine count).length = count + 10 := by
  simp [longLine, asciiBytes]

theorem longLine_no_return : (13 : UInt8) ∉ longLine count := by
  intro member
  rcases List.mem_append.mp member with front | back
  · revert front
    decide
  · cases List.eq_of_mem_replicate back

theorem indexOf_past (front : Bytes) {rest : Bytes} {first : UInt8} {more : Bytes}
    (absent : first ∉ front) (starts : first :: more <+: rest) :
    indexOf (first :: more) (front ++ rest) 0 = some front.length := by
  apply indexOf_first _ _ (by simp) 0 _ (Nat.zero_le _)
  · rw [StandsAt, List.drop_left]
    exact starts
  · intro j _ earlier stands
    have here := stands.getElem 0 (by simp)
    rw [Nat.add_zero, List.getElem?_append_left earlier] at here
    exact absent (List.mem_of_getElem? here)

theorem longRequest_accepted :
    requestAt (longRequest count) (count + 10) = some {
      method := postMethod, path := mcpPath, headers := [], body := [] } := by
  have length := longLine_length count
  have head : (longRequest count).take (count + 10 + 2) = longLine count ++ crlf := by
    rw [longRequest, <- length, List.take_length_add_append]
    rfl
  have line : indexOf crlf (longLine count ++ crlf) 0 = some (count + 10) := by
    rw [<- length]
    exact indexOf_past _ (longLine_no_return count) (List.prefix_refl _)
  have requestLine : (longLine count ++ crlf).take (count + 10) = longLine count := by
    rw [<- length, List.take_left]
  have noHeaders : (longLine count ++ crlf).drop (count + 12) = [] := by
    rw [List.drop_eq_nil_iff, List.length_append, length]
    exact le_refl _
  have first : indexOf [32] (longLine count) 0 = some 4 :=
    indexOf_past (asciiBytes "POST") (by decide) ⟨_, rfl⟩
  have second : indexOf [32] (longLine count) 5 = some 9 := rfl
  have method : (longLine count).take 4 = postMethod := rfl
  have path : ((longLine count).drop 5).take 4 = mcpPath := rfl
  have lines : parseHeaderLines [] [] = some [] := by
    rw [parseHeaderLines]
    rfl
  have parsed : parseRequestHeaders (longLine count ++ crlf) = some {
      method := postMethod, path := mcpPath, headers := [], body := [] } := by
    simp only [parseRequestHeaders, line, requestLine, first, second, noHeaders, lines, method,
      path, Option.bind_eq_bind, Option.bind_some, Nat.reduceAdd, Nat.reduceSub]
    rfl
  have total : (longRequest count).length = count + 14 := by
    rw [longRequest, List.length_append, length]
    rfl
  simp only [requestAt, head, parsed, contentLengthOf, List.lookup_nil, total, Option.bind_eq_bind,
    Option.bind_some]
  simp

theorem longRequest_blankLine : indexOf blankLine (longRequest count) 0 = some (count + 10) := by
  rw [<- longLine_length count]
  exact indexOf_past _ (longLine_no_return count) (List.prefix_refl _)

end LongRequest

end ChromiumHmos.Mcp
