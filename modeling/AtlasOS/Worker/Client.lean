import AtlasOS.Lib.Search
import AtlasOS.Lib.Json
import Mathlib.Data.List.Basic

/-!
# The response of the worker

The client reads the answer of the worker from a socket, chunk by chunk, into a buffer
that grows. Whenever a chunk has arrived it looks for the end of the header block, and
once that is there it knows how many bytes the body has. The deadline of a request is
left out.
-/

namespace AtlasOS.Worker.Client

abbrev Bytes := List UInt8

/-- The bytes of a text of ASCII characters. -/
def ascii (text : String) : Bytes := text.toList.map fun c => c.toNat.toUInt8

/-- `MAX_RESPONSE_HEADER_BYTES` -/
def MAX_RESPONSE_HEADER_BYTES : ℕ := 16384

/-- `MAX_RESPONSE_BODY_BYTES` -/
def MAX_RESPONSE_BODY_BYTES : ℕ := 24 * 1024 * 1024

/-- The size of a read from the socket. -/
def RECEIVE_BYTES : ℕ := 65536

/-- The worker could not be reached or returned malformed HTTP. -/
structure WorkerTransportError where
  message : String
  deriving DecidableEq

/-- The blank line after the header block, with the end of the line before it. -/
def headerEnd : Bytes := [13, 10, 13, 10]

/-! ## The header block -/

/-- `raw.split(b"\r\n")` -/
def splitLines : Bytes → List Bytes
  | [] => [[]]
  | 13 :: 10 :: rest => [] :: splitLines rest
  | b :: rest => (splitLines rest).modifyHead (b :: ·)

/-- `[0-9]` -/
def isDigit (b : UInt8) : Bool := 48 ≤ b && b ≤ 57

/-- The number that digits stand for. -/
def number (digits : Bytes) : ℕ := digits.foldl (fun n b => 10 * n + (b.toNat - 48)) 0

/-- `[!#$%&'*+.^_|~0-9A-Za-z-]` and the backquote. -/
def isNameByte (b : UInt8) : Bool :=
  isDigit b || (65 ≤ b && b ≤ 90) || (97 ≤ b && b ≤ 122) ||
    b ∈ [33, 35, 36, 37, 38, 39, 42, 43, 45, 46, 94, 95, 96, 124, 126]

/-- `bytes.lower` for one byte. -/
def lowerByte (b : UInt8) : UInt8 := if 65 ≤ b ∧ b ≤ 90 then b + 32 else b

/-- The status of a line that matches `HTTP/1\.[01] ([2-5][0-9]{2})(?: [\x20-\x7e]*)?`. -/
def statusLine (line : Bytes) : Option ℕ :=
  match (ascii "HTTP/1.").isPrefixOf line, line.drop 7 with
  | true, version :: 32 :: a :: b :: c :: reason =>
      if (version = 48 ∨ version = 49) ∧ 50 ≤ a ∧ a ≤ 53 ∧ isDigit b ∧ isDigit c ∧
          (reason = [] ∨ reason.head? = some 32 ∧ reason.all fun d => 32 ≤ d && d ≤ 126) then
        some (number [a, b, c])
      else none
  | _, _ => none

/-- `line.partition(b":")`, if there is a colon. -/
def partitionColon : Bytes → Option (Bytes × Bytes)
  | [] => none
  | b :: rest => if b = 58 then some ([], rest) else (partitionColon rest).map fun (name, value) => (b :: name, value)

/-- `value.strip(b" \t")` -/
def stripBlanks (value : Bytes) : Bytes :=
  ((value.dropWhile fun b => b = 32 ∨ b = 9).reverse.dropWhile fun b => b = 32 ∨ b = 9).reverse

/-- Header fields by their names. -/
abbrev Headers := List (Bytes × Bytes)

/-- Enter the field of a line. -/
def headerLine (headers : Headers) (line : Bytes) : Except WorkerTransportError Headers :=
  match partitionColon line with
  | none => .error ⟨"worker returned malformed HTTP"⟩
  | some (name, value) =>
    if name = [] ∨ !name.all isNameByte then .error ⟨"worker returned malformed HTTP"⟩
    else
      let name := name.map lowerByte
      if (headers.lookup name).isSome ∨ value.any fun b => (b < 32 && b ≠ 9) || 127 ≤ b then
        .error ⟨"worker returned ambiguous HTTP headers"⟩
      else .ok (headers ++ [(name, stripBlanks value)])

/-- `_response_headers`: the status and the size of the body. -/
def responseHeaders (raw : Bytes) : Except WorkerTransportError (ℕ × ℕ) :=
  match splitLines raw with
  | [] => .error ⟨"worker returned malformed HTTP"⟩
  | first :: lines =>
    match statusLine first with
    | none => .error ⟨"worker returned malformed HTTP"⟩
    | some status => do
      let headers ← lines.foldlM headerLine []
      let length := (headers.lookup (ascii "content-length")).getD []
      if (headers.lookup (ascii "transfer-encoding")).isSome ∨ length = [] ∨ 10 < length.length ∨
          !length.all isDigit then
        .error ⟨"worker returned unsupported HTTP framing"⟩
      else
        let size := number length
        if MAX_RESPONSE_BODY_BYTES < size then .error ⟨"worker response body exceeds bound"⟩
        else .ok (status, size)

/-! ## The read loop -/

/-- What is known once the header block is complete. -/
structure Header where
  header_end : ℕ
  status : ℕ
  expected : ℕ
  deriving DecidableEq

/-- What the loop leaves for decoding. -/
structure Response where
  status : ℕ
  body : Bytes
  deriving DecidableEq

/-- Look for the header block, when it was not complete before. -/
def receive (response : Bytes) : Option Header → Except WorkerTransportError (Option Header)
  | some header => .ok (some header)
  | none =>
    match firstAt headerEnd response with
    | none =>
      if MAX_RESPONSE_HEADER_BYTES < response.length then
        .error ⟨"worker response headers exceed bound"⟩
      else .ok none
    | some header_end =>
      if MAX_RESPONSE_HEADER_BYTES < header_end + 4 then .error ⟨"worker response headers exceed bound"⟩
      else do
        let (status, expected) ← responseHeaders (response.take header_end)
        .ok (some ⟨header_end, status, expected⟩)

/-- The read loop of `_request` from what is buffered: its outcome, and the buffer at its end.
After the chunks the socket is at its end. -/
def readLoop (response : Bytes) (header : Option Header) :
    List Bytes → Except WorkerTransportError Response × Bytes
  | [] => (.error ⟨"worker returned incomplete HTTP response"⟩, response)
  | chunk :: chunks =>
    if chunk = [] then (.error ⟨"worker returned incomplete HTTP response"⟩, response)
    else
      let response := response ++ chunk
      match receive response header with
      | .error error => (.error error, response)
      | .ok none => readLoop response none chunks
      | .ok (some header) =>
        let received := response.length - header.header_end - 4
        if header.expected < received then (.error ⟨"worker response length mismatch"⟩, response)
        else if received = header.expected then
          (.ok ⟨header.status, response.drop (header.header_end + 4)⟩, response)
        else readLoop response (some header) chunks

/-- The read loop of `_request`. -/
def read (chunks : List Bytes) : Except WorkerTransportError Response × Bytes := readLoop [] none chunks

end AtlasOS.Worker.Client
