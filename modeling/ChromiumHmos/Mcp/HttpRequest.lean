import ChromiumHmos.Lib.ByteStream
import ChromiumHmos.Lib.Decimal
import ChromiumHmos.Lib.Finding
import ChromiumHmos.Base.Value

set_option autoImplicit false

/-!
# Requests of the MCP server

How `aura_shell/ohos_mcp_server.cc` reads an HTTP request off a client's socket, and where it sends
one on to.
-/

namespace ChromiumHmos.Mcp

open Base Lib

def kMaxHeaderBytes : Nat := 64 * 1024
def kMaxRequestBytes : Nat := 4 * 1024 * 1024
def kChunkBytes : Nat := 4096

structure HttpRequest where
  method : Bytes
  path : Bytes
  headers : List (Bytes × Bytes)
  body : Bytes

def crlf : Bytes := [13, 10]
def blankLine : Bytes := [13, 10, 13, 10]

-- `std::isspace` and `std::tolower` of the C locale
def isSpace (character : UInt8) : Bool := character = 32 || 9 ≤ character && character ≤ 13

def lowerByte (character : UInt8) : UInt8 :=
  if 65 ≤ character && character ≤ 90 then character + 32 else character

def toLower (value : Bytes) : Bytes := value.map lowerByte

def trim (value : Bytes) : Bytes :=
  ((value.dropWhile isSpace).reverse.dropWhile isSpace).reverse

def isDigit (character : UInt8) : Bool := 48 ≤ character && character ≤ 57

-- `std::from_chars` to the end of the text
def parseSize (value : Bytes) : Option Nat :=
  if value ≠ [] ∧ value.all isDigit = true ∧ digitsValue value < 2 ^ 64 then
    some (digitsValue value)
  else none

def setHeader (headers : List (Bytes × Bytes)) (name value : Bytes) : List (Bytes × Bytes) :=
  (name, value) :: headers.filter fun entry => entry.1 ≠ name

-- The lines from `rest` on, up to an empty one.
def parseHeaderLines (rest : Bytes) (headers : List (Bytes × Bytes)) :
    Option (List (Bytes × Bytes)) :=
  if _empty : rest = [] then some headers
  else
    let lineEnd := indexOf crlf rest 0
    let line := rest.take (lineEnd.getD rest.length)
    if line = [] then some headers
    else
      match indexOf [58] line 0 with
      | none => none
      | some colon =>
        let added := setHeader headers (toLower (trim (line.take colon)))
          (trim (line.drop (colon + 1)))
        match lineEnd with
        | none => some added
        | some stop => parseHeaderLines (rest.drop (stop + 2)) added
termination_by rest.length
decreasing_by
  have some : 0 < rest.length := List.length_pos_of_ne_nil _empty
  simp only [List.length_drop]
  omega

def parseRequestHeaders (headers : Bytes) : Option HttpRequest := do
  let requestLineEnd <- indexOf crlf headers 0
  let requestLine := headers.take requestLineEnd
  let firstSpace <- indexOf [32] requestLine 0
  let secondSpace <- indexOf [32] requestLine (firstSpace + 1)
  let parsed <- parseHeaderLines (headers.drop (requestLineEnd + 2)) []
  return {
    method := requestLine.take firstSpace
    path := (requestLine.drop (firstSpace + 1)).take (secondSpace - firstSpace - 1)
    headers := parsed
    body := [] }

-- Where the blank line stands, the bytes received so far, and the stream after them.
def readHead (stream : Incoming) (buffer : Bytes) : Option (Nat × Bytes × Incoming) :=
  if _full : kMaxHeaderBytes < buffer.length then none
  else
    match stream.recv kChunkBytes with
    | (chunk, after) =>
      if _ended : chunk = [] then none
      else
        match indexOf blankLine (buffer ++ chunk) 0 with
        | some headerEnd => some (headerEnd, buffer ++ chunk, after)
        | none => readHead after (buffer ++ chunk)
termination_by kMaxHeaderBytes + 1 - buffer.length
decreasing_by
  have some : 0 < chunk.length := List.length_pos_of_ne_nil _ended
  simp only [List.length_append]
  omega

def readBody (stream : Incoming) (body : Bytes) (contentLength : Nat) : Option Bytes :=
  if _complete : contentLength ≤ body.length then some body
  else
    match stream.recv (min kChunkBytes (contentLength - body.length)) with
    | (chunk, after) =>
      if _ended : chunk = [] then none
      else readBody after (body ++ chunk) contentLength
termination_by contentLength - body.length
decreasing_by
  have some : 0 < chunk.length := List.length_pos_of_ne_nil _ended
  simp only [List.length_append]
  omega

def contentLengthName : Bytes := asciiBytes "content-length"

def contentLengthOf (request : HttpRequest) : Option Nat :=
  match request.headers.lookup contentLengthName with
  | none => some 0
  | some length =>
    (parseSize length).bind fun parsed => if kMaxRequestBytes < parsed then none else some parsed

def readHttpRequest (stream : Incoming) : Option HttpRequest := do
  let (headerEnd, buffer, after) <- readHead stream []
  let request <- parseRequestHeaders (buffer.take (headerEnd + 2))
  let contentLength <- contentLengthOf request
  let body <- readBody after (buffer.drop (headerEnd + 4)) contentLength
  return { request with body := body.take contentLength }

def localOrigins : List Bytes :=
  [asciiBytes "http://127.0.0.1", asciiBytes "https://127.0.0.1", asciiBytes "http://localhost",
    asciiBytes "https://localhost"]

def originName : Bytes := asciiBytes "origin"

def isAllowedOrigin (request : HttpRequest) : Bool :=
  match request.headers.lookup originName with
  | none => true
  | some origin =>
    let lowered := toLower origin
    localOrigins.any fun localOrigin =>
      decide (lowered = localOrigin) ||
        localOrigin.isPrefixOf lowered && decide (lowered[localOrigin.length]? = some 58)

inductive Answer
  | badRequest
  | forbidden
  | options
  | health
  | serverCard
  | notFound
  -- `HandleMcpRequest`, which runs the tools
  | mcp (request : HttpRequest)

def postMethod : Bytes := asciiBytes "POST"
def mcpPath : Bytes := asciiBytes "/mcp"

def handleClient (stream : Incoming) : Answer :=
  match readHttpRequest stream with
  | none => .badRequest
  | some request =>
    if !isAllowedOrigin request then .forbidden
    else if request.method = asciiBytes "OPTIONS" then .options
    else if request.method = asciiBytes "GET" ∧ request.path = asciiBytes "/health" then .health
    else if request.method = asciiBytes "GET" ∧
        request.path = asciiBytes "/.well-known/mcp/server-card.json" then .serverCard
    else if request.method ≠ postMethod ∨ request.path ≠ mcpPath then .notFound
    else .mcp request

end ChromiumHmos.Mcp
