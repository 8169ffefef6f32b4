import HealthCheckFirmware.Lib.CText
import HealthCheckFirmware.Auth.AuthService
import HealthCheckFirmware.Storage.TlsTrustStore

/-!
# Reading a request

How the management API reads a request from a connection: the loop of
`apiService_ReadRequest`, which collects bytes until it has seen the end of the
header and as many bytes after it as the header declares, and the parsing of the
header. `serve` is one round of `apiService_Task`.

The peer is a sequence of results of `mbedtls_ssl_read`. A read that delivers more
bytes than were asked for does not occur; a result is cut to that length.
-/

set_option autoImplicit false

namespace HealthCheckFirmware.ApiService

/-! ## Data -/

/-- `API_SERVICE_REQUEST_SIZE`. -/
def requestSize : ℕ := 2560

/-- `API_SERVICE_BODY_SIZE`. -/
def bodySize : ℕ := TlsTrustStore.maxDerSize

/-- `MBEDTLS_ERR_SSL_BAD_INPUT_DATA`. -/
def badInputData : ℤ := -0x7100

/-- `ApiService_RequestTypeDef`: three strings and the bytes of the body. -/
structure Request where
  method : List UInt8
  path : List UInt8
  authorization : List UInt8
  body : List UInt8
  deriving DecidableEq

/-- A result of `mbedtls_ssl_read`: some bytes, the end of a stream closed without
notice, or an error. -/
inductive Read where
  | data (first : UInt8) (rest : List UInt8)
  | eof
  | failed (code : ℤ) (negative : code < 0)

def crlf : List UInt8 := [0x0D, 0x0A]

/-- The empty line that ends a header. -/
def headerTerminator : List UInt8 := crlf ++ crlf

/-- `apiService_FindHeaderEnd`. -/
def findHeaderEnd (buffer : List UInt8) : Option ℕ := strstr headerTerminator (cString buffer)

/-- Where the header ends and how many bytes of body it declares. -/
structure Framing where
  headerEnd : ℕ
  expected : ℕ
  deriving DecidableEq

def Framing.requestLength (framing : Framing) : ℕ := framing.headerEnd + 4

/-! ## The loop -/

/-- The value of the header line that declares the length of the body, in one of
the two spellings that the code looks for. -/
def contentLengthValue (header : List UInt8) : Option (List UInt8) :=
  ((strstr (crlf ++ ascii "Content-Length:") header).or
    (strstr (crlf ++ ascii "content-length:") header)).map
      fun position => (header.drop (position + 17)).dropWhile isBlank

/-- The declared length of the body, or nothing if the declaration is refused. -/
def declaredLength (header : List UInt8) : Option ℕ :=
  match contentLengthValue header with
  | none => some 0
  | some value =>
      if (value.head?.map isDigit).getD false then
        match strtoul value with
        | none => none
        | some (parsed, outOfRange, rest) =>
            let rest := rest.dropWhile isBlank
            if outOfRange ∨ ¬ (rest = [] ∨ rest.head? = some 0x0D) ∨ bodySize < parsed.toNat then none
            else some parsed.toNat
      else none

/-- The framing of a request whose header has just been completed, unless it is
refused. -/
def frame (capacity : ℕ) (buffer : List UInt8) (headerEnd : ℕ) : Option Framing :=
  match declaredLength (buffer.take headerEnd) with
  | none => none
  | some expected =>
      if capacity ≤ headerEnd + 4 ∨ capacity - (headerEnd + 4) - 1 < expected then none
      else some ⟨headerEnd, expected⟩

/-- What the code knows of the framing after a read: nothing yet, the framing, or
that the request is refused (the outer `none`). -/
def noteHeader (capacity : ℕ) (buffer : List UInt8) : Option Framing → Option (Option Framing)
  | some framing => some (some framing)
  | none =>
      match findHeaderEnd buffer with
      | none => some none
      | some headerEnd => (frame capacity buffer headerEnd).map some

/-- The request is there as a whole. -/
def Framing.reached (framing : Option Framing) (buffer : List UInt8) : Option Framing :=
  framing.filter fun framing => framing.requestLength + framing.expected ≤ buffer.length

/-- How the loop of `apiService_ReadRequest` ends: with a `return`, with a full
buffer, or with a complete request. -/
inductive Ended where
  | returned (code : ℤ)
  | full
  | complete (framing : Framing)
  deriving DecidableEq

/-- The buffer after a read. -/
def append (capacity : ℕ) (buffer : List UInt8) (first : UInt8) (rest : List UInt8) : List UInt8 :=
  buffer ++ (first :: rest).take (capacity - buffer.length - 1)

theorem length_append_lt {capacity : ℕ} {buffer : List UInt8} (room : buffer.length < capacity - 1)
    (first : UInt8) (rest : List UInt8) :
    buffer.length < (append capacity buffer first rest).length := by
  simp only [append, List.length_append, List.length_take, List.length_cons]
  omega

/-- The loop of `apiService_ReadRequest`, with the number of reads so far. -/
def readLoop (capacity : ℕ) (reads : ℕ → Read) (count : ℕ) (buffer : List UInt8)
    (framing : Option Framing) : Ended × List UInt8 :=
  if room : buffer.length < capacity - 1 then
    match reads count with
    | .eof => (.returned 0, buffer)
    | .failed code _ => (.returned code, buffer)
    | .data first rest =>
        match noteHeader capacity (append capacity buffer first rest) framing with
        | none => (.returned badInputData, append capacity buffer first rest)
        | some noted =>
            match Framing.reached noted (append capacity buffer first rest) with
            | some framing => (.complete framing, append capacity buffer first rest)
            | none =>
                have := length_append_lt room first rest
                readLoop capacity reads (count + 1) (append capacity buffer first rest) noted
  else (.full, buffer)
  termination_by capacity - buffer.length

/-! ## The header -/

/-- The token of an `Authorization` header line, or nothing if it is too long. What
is not a bearer token counts as no token. -/
def bearerToken (line : List UInt8) : Option (List UInt8) :=
  let value := line.dropWhile isBlank
  if startsWithNoCase value (ascii "Bearer") && ((value.drop 6).head?.map isBlank).getD false then
    let value := (value.drop 6).dropWhile isBlank
    let line := value.take ((strstr crlf value).getD value.length)
    let token := (line.reverse.dropWhile isBlank).reverse
    if AuthService.tokenTextSize ≤ token.length then none else some token
  else some []

/-- The text behind the name of the first `Authorization` header line. A line starts
behind each end of line. -/
def authorizationLine : List UInt8 → Option (List UInt8)
  | [] => none
  | byte :: rest =>
      if crlf.isPrefixOf (byte :: rest)
          && startsWithNoCase (rest.drop 1) (ascii "Authorization:") then
        some ((rest.drop 1).drop 14)
      else authorizationLine rest

/-- The method, the path and the token of a header. -/
def parseHeader (header : List UInt8) : Option (List UInt8 × List UInt8 × List UInt8) :=
  match scanWord 7 header with
  | none => none
  | some (method, rest) =>
      match scanWord 79 rest with
      | none => none
      | some (path, _) =>
          match authorizationLine header with
          | none => some (method, path, [])
          | some line => (bearerToken line).map fun token => (method, path, token)

/-- What a refused header leaves in the request variable. The fields are filled one
after the other, and the token is emptied before it is looked for. -/
def partlyParsed (header : List UInt8) (request : Request) : Request :=
  match scanWord 7 header with
  | none => request
  | some (method, rest) =>
      match scanWord 79 rest with
      | none => { request with method := method }
      | some (path, _) => { request with method := method, path := path, authorization := [] }

/-! ## A connection -/

/-- What `apiService_ReadRequest` returns, the request it leaves, and the bytes it
has received. -/
structure ReadResult where
  result : ℤ
  request : Request
  received : List UInt8

/-- `apiService_ReadRequest`, with the request variable that it is given. -/
def readRequest (capacity : ℕ) (reads : ℕ → Read) (request : Request) : ReadResult :=
  match readLoop capacity reads 0 [] none with
  | (.returned code, buffer) => ⟨code, request, buffer⟩
  | (.full, buffer) => ⟨badInputData, request, buffer⟩
  | (.complete framing, buffer) =>
      match parseHeader (buffer.take framing.headerEnd) with
      | none => ⟨badInputData, partlyParsed (buffer.take framing.headerEnd) request, buffer⟩
      | some (method, path, authorization) =>
          ⟨0, ⟨method, path, authorization,
            (buffer.drop framing.requestLength).take framing.expected⟩, buffer⟩

/-- A connection: whether it is established, what is read from it, and what the
request variable holds before anything is read. -/
structure Connection where
  established : Bool
  reads : ℕ → Read
  uninitialised : Request

/-- What the task does with a connection. -/
inductive Action where
  | close
  | dispatch (request : Request)
  | badRequest
  deriving DecidableEq

/-- One round of `apiService_Task`. -/
def serve (connection : Connection) : Action :=
  if connection.established then
    let read := readRequest requestSize connection.reads connection.uninitialised
    if read.result = 0 then .dispatch read.request else .badRequest
  else .close

/-- The bytes received on a connection. -/
def Connection.received (connection : Connection) : List UInt8 :=
  if connection.established then
    (readRequest requestSize connection.reads connection.uninitialised).received
  else []

end HealthCheckFirmware.ApiService
