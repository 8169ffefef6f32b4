import HealthCheckFirmware.Lib.CPrint
import HealthCheckFirmware.Log.HealthCheckLog
import HealthCheckFirmware.Storage.TlsTrustStore

/-!
# HTTPS requests of the device

`TlsTransport_Request`: one request over an authenticated connection, and the status
line of its answer. What DNS, lwIP and the TLS library return along the way is given
by `Calls`; the answer is read byte by byte.

The function keeps the stage that failed in one variable. `tlsTransport_Connect` sets
it to the failure of connecting and leaves it there when a connection is made.
-/

set_option autoImplicit false

namespace HealthCheckFirmware.TlsTransport

/-! ## Data -/

def statusLineSize : ℕ := 128
def requestSize : ℕ := 512
def hostHeaderSize : ℕ := 70

/-- `MBEDTLS_ERR_SSL_BAD_INPUT_DATA`. -/
def badInputData : ℤ := -0x7100

/-- `MBEDTLS_ERR_X509_CERT_VERIFY_FAILED`. -/
def certVerifyFailed : ℤ := -0x2700

/-- `mbedtls_x509_time`. -/
structure X509Time where
  year : ℤ
  mon : ℤ
  day : ℤ
  hour : ℤ
  min : ℤ
  sec : ℤ
  deriving DecidableEq

/-- The attempt to connect to one address: no socket could be had, the connection was
refused, or it was made. The error of a refused connection is read from the socket, if
that works. -/
inductive Attempt where
  | noSocket (errno : ℤ)
  | refused (errno : ℤ) (socketError : Option ℤ)
  | connected

/-- A result of `mbedtls_ssl_read` for a single byte: the byte, the end of a stream
closed without notice, or an error. -/
inductive ReadByte where
  | byte (value : UInt8)
  | eof
  | failed (code : ℤ) (negative : code < 0)

/-- What the calls that a request makes return, in the order in which they are made.
`lastError` is the socket error noted at the end, zero if there was none. -/
structure Calls where
  started : UInt32
  lock : Bool
  seed : ℤ
  anchor : TlsTrustStore.Status
  defaults : ℤ
  setup : ℤ
  hostname : ℤ
  resolver : ℤ
  attempts : List Attempt
  handshake : ℤ
  peerCertificate : Option X509Time
  verifyResult : UInt32
  writes : ℕ → ℤ
  reads : ℕ → ReadByte
  lastError : ℤ
  ended : UInt32

/-- The arguments of a request; a pointer may be null. -/
structure Arguments where
  method : Option (List UInt8)
  host : Option (List UInt8)
  port : UInt16
  resource : Option (List UInt8)
  body : Option (List UInt8)
  contentType : Option (List UInt8)

/-! ## Helpers -/

/-- `tlsTransport_X509TimeToUnix`. -/
def x509TimeToUnix (value : X509Time) : UInt32 :=
  if value.year < 1970 ∨ value.mon < 1 ∨ 12 < value.mon ∨ value.day < 1 ∨ 31 < value.day
      ∨ value.hour < 0 ∨ 23 < value.hour ∨ value.min < 0 ∨ 59 < value.min
      ∨ value.sec < 0 ∨ 59 < value.sec then 0
  else
    let year := if value.mon ≤ 2 then value.year - 1 else value.year
    let era := year / 400
    let yearOfEra := year - era * 400
    let shiftedMonth := if 2 < value.mon then value.mon - 3 else value.mon + 9
    let dayOfYear := (153 * shiftedMonth + 2) / 5 + value.day - 1
    let dayOfEra := yearOfEra * 365 + yearOfEra / 4 - yearOfEra / 100 + dayOfYear
    let days := era * 146097 + dayOfEra - 719468
    let seconds := days * 86400 + value.hour * 3600 + value.min * 60 + value.sec
    if 0 < seconds ∧ seconds ≤ 4294967295 then UInt32.ofNat seconds.toNat else 0

/-- The addresses are tried one after the other. Returned are whether a connection was
made and the detail of the last failure. -/
def tryAddresses : (detail : ℤ) → List Attempt → Bool × ℤ
  | detail, [] => (false, detail)
  | _, .noSocket errno :: rest => tryAddresses (-errno) rest
  | _, .refused errno socketError :: rest =>
      tryAddresses (match socketError with
        | some error => if error ≠ 0 then -error else -errno
        | none => -errno) rest
  | detail, .connected :: _ => (true, detail)

/-- `tlsTransport_Connect`: whether a connection was made, the status and the detail. -/
def connect (resolver : ℤ) (attempts : List Attempt) : Bool × Status × ℤ :=
  if resolver ≠ 0 then (false, .dnsError, resolver)
  else ((tryAddresses 0 attempts).1, .connectError, (tryAddresses 0 attempts).2)

/-- `tlsTransport_WriteAll`, with the number of writes so far and the bytes that are
left. A write accepts no more bytes than it is given. -/
def writeAll (writes : ℕ → ℤ) (count remaining : ℕ) : ℤ :=
  if remaining = 0 then 0
  else if writes count ≤ 0 then writes count
  else writeAll writes (count + 1) (remaining - (writes count).toNat)
  termination_by remaining

/-- The end of a line. -/
def crlf : List UInt8 := [0x0D, 0x0A]

/-- The line ends here. -/
def endsLine (line : List UInt8) : Bool := crlf.isSuffixOf line

/-- The loop of `tlsTransport_ReadStatus`: the line with its end, or as much of it as
there is room for; otherwise the result of the read that failed. -/
def readLine (reads : ℕ → ReadByte) : (room : ℕ) → (line : List UInt8) → Except ℤ (List UInt8)
  | 0, line => .ok line
  | room + 1, line =>
      match reads line.length with
      | .eof => .error 0
      | .failed code _ => .error code
      | .byte value =>
          if endsLine (line ++ [value]) then .ok (line ++ [value])
          else readLine reads room (line ++ [value])

/-- The conversion of `"HTTP/1.%*u %3u"`. Each number may be preceded by white space
and a sign. -/
def scanStatus (line : List UInt8) : Option UInt32 :=
  if (ascii "HTTP/1.").isPrefixOf line then
    (scanInteger (line.drop 7)).bind fun (_, _, rest) =>
      (scanInteger ((rest.dropWhile isSpace).take 3)).map fun (negative, value, _) =>
        if negative then -UInt32.ofNat value else UInt32.ofNat value
  else none

/-- `tlsTransport_ReadStatus`: its result, and the status, which is zero before. -/
def readStatus (reads : ℕ → ReadByte) : ℤ × UInt16 :=
  match readLine reads (statusLineSize - 1) [] with
  | .error code => (code, 0)
  | .ok line =>
      if line.length < 12 then (badInputData, 0)
      else
        match scanStatus (cString line) with
        | none => (badInputData, 0)
        | some status => if 999 < status then (badInputData, 0) else (0, status.toUInt16)

/-! ## The request -/

/-- The value of the `Host` header. -/
def hostHeader (host : List UInt8) (port : UInt16) : List UInt8 :=
  if port = 443 then host else host ++ ascii ":" ++ decimalText port.toNat

/-- The lines that all requests begin with. -/
def requestHead (method resource hostText : List UInt8) : List UInt8 :=
  method ++ ascii " " ++ resource ++ ascii " HTTP/1.1\r\nHost: " ++ hostText
    ++ ascii "\r\nConnection: close\r\nUser-Agent: stm32-health-check/1\r\n"

/-- The text of a request. Only a `POST` request has a body. -/
def requestText (method host : List UInt8) (port : UInt16) (resource body : List UInt8)
    (contentType : Option (List UInt8)) : Option (List UInt8) :=
  let hostText := hostHeader host port
  if hostText.length = 0 ∨ hostHeaderSize ≤ hostText.length then none
  else
    let text :=
      if body ≠ [] then
        match contentType with
        | some mediaType =>
            if method = ascii "POST" then
              some (requestHead method resource hostText ++ ascii "Content-Type: " ++ mediaType
                ++ ascii "\r\nContent-Length: " ++ decimalText body.length
                ++ ascii "\r\n\r\n" ++ body)
            else none
        | none => none
      else some (requestHead method resource hostText ++ ascii "\r\n")
    text.filter fun text => decide (text.length < requestSize)

/-- The result before anything has been done. -/
def Result.initial : Result := ⟨.configError, 0, 0, 0, 0⟩

/-- The common end of a request. -/
def finish (calls : Calls) (result : Result) (status : Status) (detail : ℤ) : Result :=
  { result with
    status := status
    detail :=
      Int32.ofInt (if detail ≠ 0 ∧ calls.lastError ≠ 0 then -calls.lastError else detail)
    elapsedMs := calls.ended - calls.started }

/-- The request proper, over a connection that is verified. `status` is what the
status variable holds from before. -/
def exchange (calls : Calls) (result : Result) (status : Status) (text : Option (List UInt8)) :
    Result :=
  match text with
  | none => finish calls result status badInputData
  | some text =>
      let written := writeAll calls.writes 0 text.length
      if written ≠ 0 then finish calls result .ioError written
      else
        let read := readStatus calls.reads
        let result := { result with httpStatus := read.2 }
        if read.1 ≠ 0 then finish calls result .protocolError read.1
        else finish calls result .ok 0

/-- The TLS session over a new connection. -/
def converse (calls : Calls) (status : Status) (text : Option (List UInt8)) : Result :=
  let result := { Result.initial with
    certificateExpiresAt := (calls.peerCertificate.map x509TimeToUnix).getD 0 }
  if calls.handshake ≠ 0 then
    finish calls result (if calls.verifyResult ≠ 0 then .certificateError else .handshakeError)
      calls.handshake
  else if calls.verifyResult ≠ 0 then finish calls result .certificateError certVerifyFailed
  else exchange calls result status text

/-- What comes before the connection, and the connection itself. -/
def establish (calls : Calls) (text : Option (List UInt8)) : Result :=
  if calls.seed ≠ 0 then finish calls Result.initial .configError calls.seed
  else if calls.anchor ≠ .ok then
    finish calls Result.initial .certificateError certVerifyFailed
  else if calls.defaults ≠ 0 then finish calls Result.initial .configError calls.defaults
  else if calls.setup ≠ 0 then finish calls Result.initial .configError calls.setup
  else if calls.hostname ≠ 0 then finish calls Result.initial .configError calls.hostname
  else
    match connect calls.resolver calls.attempts with
    | (false, status, detail) => finish calls Result.initial status detail
    | (true, status, _) => converse calls status text

/-- The test of the arguments. -/
def Arguments.acceptable (method resource : List UInt8) (port : UInt16) : Bool :=
  port != 0 && resource.head? == some 0x2F
    && (method == ascii "HEAD" || method == ascii "GET" || method == ascii "POST")

/-- `TlsTransport_Request`. -/
def request (arguments : Arguments) (calls : Calls) : Result :=
  match arguments.method, arguments.host, arguments.resource, arguments.body with
  | some method, some host, some resource, some body =>
      if Arguments.acceptable method resource arguments.port = false ∨ calls.lock = false then
        Result.initial
      else
        establish calls
          (requestText method host arguments.port resource body arguments.contentType)
  | _, _, _, _ => Result.initial

/-- The text that a request with these arguments would send. -/
def Arguments.text (arguments : Arguments) : Option (List UInt8) :=
  match arguments.method, arguments.host, arguments.resource, arguments.body with
  | some method, some host, some resource, some body =>
      requestText method host arguments.port resource body arguments.contentType
  | _, _, _, _ => none

end HealthCheckFirmware.TlsTransport
