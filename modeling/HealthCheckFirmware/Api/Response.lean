import HealthCheckFirmware.Api.Json
import HealthCheckFirmware.Auth.AuthService
import HealthCheckFirmware.Log.HealthCheckLog
import HealthCheckFirmware.Storage.CallbackConfig
import HealthCheckFirmware.Storage.HealthCheckConfig
import HealthCheckFirmware.Storage.TlsServerCredentials
import HealthCheckFirmware.Storage.TlsTrustStore

/-!
# Responses of the management interface

The functions of `api_service.c` that write responses, and the JSON texts of the
listings. A response is written as a whole or, when it does not fit the buffer it is
printed in, not at all.
-/

set_option autoImplicit false

namespace HealthCheckFirmware.ApiService

/-! ## Responses -/

/-- `API_SERVICE_RESPONSE_SIZE`. -/
def responseSize : ℕ := 2048

/-- The size of the buffer that a listing is printed in. -/
def listingSize : ℕ := responseSize - 192

structure Response where
  status : ℕ
  reason : String
  json : List UInt8

/-- The status line and the header of a response. -/
def Response.header (response : Response) : List UInt8 :=
  ascii "HTTP/1.1 " ++ decimalText response.status ++ ascii " " ++ ascii response.reason
    ++ ascii "\r\nContent-Type: application/json\r\nContent-Length: "
    ++ decimalText response.json.length
    ++ ascii "\r\nConnection: close\r\nCache-Control: no-store\r\n\r\n"

/-- What a request is answered with: a response, a response without its body, or
nothing, because the response does not fit its buffer. -/
inductive Answer where
  | response (response : Response)
  | header (response : Response)
  | nothing

/-- `apiService_Respond`. -/
def respond (status : ℕ) (reason : String) (json : List UInt8) : Answer :=
  let response : Response := ⟨status, reason, json⟩
  if (response.header ++ json).length < responseSize then .response response else .nothing

/-- `apiService_RespondHeadersOnly`. -/
def respondHeadersOnly (status : ℕ) (reason : String) (json : List UInt8) : Answer :=
  let response : Response := ⟨status, reason, json⟩
  if response.header.length < responseSize then .header response else .nothing

/-- `apiService_Error`. -/
def error (status : ℕ) (reason code : String) : Answer :=
  respond status reason
    (snprintf 96 (ascii "\x7b\"error\":\"" ++ ascii code ++ ascii "\"\x7d"))

/-- The text of a truth value. -/
def booleanText (value : Bool) : List UInt8 := if value then ascii "true" else ascii "false"

/-- `apiService_Tokens`. -/
def tokens (pair : AuthService.TokenPair) : Answer :=
  respond 200 "OK" (snprintf 384
    (ascii "\x7b\"token_type\":\"Bearer\",\"access_token\":\"" ++ pair.accessToken
      ++ ascii "\",\"expires_in\":" ++ decimalText pair.accessExpiresIn.toNat
      ++ ascii ",\"refresh_token\":\"" ++ pair.refreshToken
      ++ ascii "\",\"refresh_expires_in\":" ++ decimalText pair.refreshExpiresIn.toNat
      ++ ascii "\x7d"))

/-- `apiService_TlsCredentialsRespond`. -/
def tlsCredentialsRespond (status : TlsServerCredentials.Status) (awaiting invalidError : String) :
    Answer :=
  match status with
  | .activated => respond 200 "OK" (ascii "\x7b\"status\":\"activated\"\x7d")
  | .pending =>
      respond 202 "Accepted" (snprintf 64
        (ascii "\x7b\"status\":\"pending\",\"awaiting\":\"" ++ ascii awaiting ++ ascii "\"\x7d"))
  | .mismatch => error 409 "Conflict" "key_mismatch"
  | .invalidData => error 400 "Bad Request" invalidError
  | .storageError => error 500 "Internal Server Error" "storage_error"

/-- `apiService_TrustStoreError`. -/
def trustStoreError : TlsTrustStore.Status → Answer
  | .invalidArgument => error 400 "Bad Request" "invalid_certificate_body"
  | .invalidCertificate => error 400 "Bad Request" "invalid_certificate"
  | .noMemory => error 503 "Service Unavailable" "tls_memory_exhausted"
  | .notCa => error 400 "Bad Request" "certificate_not_ca"
  | .notFound => error 404 "Not Found" "trust_anchor_not_found"
  | .full => error 409 "Conflict" "trust_anchor_limit_reached"
  | .ok => error 500 "Internal Server Error" "storage_error"
  | .storageError => error 500 "Internal Server Error" "storage_error"

/-! ## Listings -/

/-- A print into the rest of a buffer that already holds some text, if there is
room. -/
def printBehind (size : ℕ) (used text : List UInt8) : Option (List UInt8) :=
  if text = [] ∨ size - used.length ≤ text.length then none else some (used ++ text)

/-- A text that is opened, given its items one by one and closed. -/
def listing {Item : Type} (opening : List UInt8)
    (append : List UInt8 → Item → Option (List UInt8)) (items : List Item) : Answer :=
  match items.foldlM append opening with
  | none => error 500 "Internal Server Error" "response_too_large"
  | some used =>
      respond 200 "OK" (used ++ snprintf (listingSize - used.length) (ascii "]\x7d"))

/-- The comma before every item but the first. -/
def separator (position : ℕ) : List UInt8 := if position = 0 then [] else ascii ","

/-- The text of a role byte. -/
def roleText (role : UInt8) : List UInt8 :=
  if role = AuthService.Role.administrator.code then ascii "administrator" else ascii "user"

/-- An account in the listing. -/
def userText (record : UserStore.Record) : List UInt8 :=
  ascii ",\x7b\"username\":\"" ++ record.name ++ ascii "\",\"role\":\"" ++ roleText record.role
    ++ ascii "\",\"enabled\":" ++ booleanText (record.enabled != 0) ++ ascii "\x7d"

/-- The listing of the accounts, which the built-in one opens. -/
def usersListing (users : List UserStore.Record) : Answer :=
  listing (ascii ("\x7b\"users\":[\x7b\"username\":\"master\","
      ++ "\"role\":\"administrator\",\"enabled\":true\x7d"))
    (fun used record => printBehind listingSize used (userText record)) users

/-- The part of an anchor in the listing that precedes its subject. -/
def anchorHead (position : ℕ) (anchor : TlsTrustStore.Info) : List UInt8 :=
  separator position ++ ascii "\x7b\"id\":" ++ decimalText anchor.id
    ++ ascii ",\"der_length\":" ++ decimalText anchor.derLength.toNat ++ ascii ",\"subject\":\""

/-- One anchor of the listing. The subject is printed with its quotes escaped. -/
def appendAnchor (used : List UInt8) (item : TlsTrustStore.Info × ℕ) : Option (List UInt8) :=
  (printBehind listingSize used (anchorHead item.2 item.1)).bind fun used =>
    match appendJsonString listingSize used item.1.subject with
    | (false, _) => none
    | (true, used) => printBehind listingSize used (ascii "\"\x7d")

/-- The listing of the trust anchors. -/
def anchorsListing (anchors : List TlsTrustStore.Info) : Answer :=
  listing (ascii "\x7b\"trust_anchors\":[") appendAnchor anchors.zipIdx

/-- The fields of a resource, from its index on. -/
def resourceFields (index : ℕ) (host : List UInt8) (port : ℕ) (path : List UInt8) (enabled : Bool)
    (trustAnchorId : ℕ) : List UInt8 :=
  ascii "\x7b\"index\":" ++ decimalText index ++ ascii ",\"host\":\"" ++ host
    ++ ascii "\",\"port\":" ++ decimalText port ++ ascii ",\"path\":\"" ++ path
    ++ ascii "\",\"enabled\":" ++ booleanText enabled
    ++ ascii ",\"trust_anchor_id\":" ++ decimalText trustAnchorId ++ ascii "\x7d"

/-- A stored resource in the listing, with its index. -/
def resourceText (resource : HealthCheckConfig.Resource) (index : ℕ) : List UInt8 :=
  resourceFields index (bufferString resource.host) resource.port.toNat
    (bufferString resource.path) (resource.enabled != 0) resource.trustAnchorId.toNat

/-- The occupied slots with their indices. -/
def occupiedResources (resources : Vector HealthCheckConfig.Resource HealthCheckConfig.maxResources) :
    List (HealthCheckConfig.Resource × ℕ) :=
  resources.toList.zipIdx.filter (·.1.occupied != 0)

/-- The listing of the period and the resources. -/
def configListing (periodSeconds : UInt32)
    (resources : Vector HealthCheckConfig.Resource HealthCheckConfig.maxResources) : Answer :=
  listing (ascii "\x7b\"period_seconds\":" ++ decimalText periodSeconds.toNat
      ++ ascii ",\"resources\":[")
    (fun used item => printBehind listingSize used
      (separator item.2 ++ resourceText item.1.1 item.1.2))
    (occupiedResources resources).zipIdx

/-- The text of a callback method. -/
def methodText (method : UInt8) : List UInt8 :=
  if method = CallbackConfig.methodPost then ascii "POST" else ascii "GET"

/-- The callback configuration as it is shown. -/
def callbackText (config : CallbackConfig.Config) : List UInt8 :=
  ascii "\x7b\"enabled\":" ++ booleanText (config.enabled != 0)
    ++ ascii ",\"method\":\"" ++ methodText config.method
    ++ ascii "\",\"host\":\"" ++ bufferString config.host
    ++ ascii "\",\"port\":" ++ decimalText config.port.toNat
    ++ ascii ",\"path\":\"" ++ bufferString config.path
    ++ ascii "\",\"trust_anchor_id\":" ++ decimalText config.trustAnchorId.toNat ++ ascii "\x7d"

/-! ## Times, telemetry and the log -/

/-- The fields of `struct tm` that are printed, as they are printed. -/
structure Civil where
  year : ℕ
  month : ℕ
  day : ℕ
  hour : ℕ
  minute : ℕ
  second : ℕ

/-- A time of day in UTC. -/
def Civil.text (time : Civil) : List UInt8 :=
  paddedText 4 time.year ++ ascii "-" ++ paddedText 2 time.month ++ ascii "-"
    ++ paddedText 2 time.day ++ ascii "T" ++ paddedText 2 time.hour ++ ascii ":"
    ++ paddedText 2 time.minute ++ ascii ":" ++ paddedText 2 time.second ++ ascii "Z"

/-- `TelemetryService_SnapshotTypeDef`, with one number for each task. -/
structure Telemetry where
  uptimeMs : UInt32
  stackMinFreeBytes : Vector UInt32 9

/-- `CallbackService_TelemetryTypeDef`. -/
structure CallbackTelemetry where
  deliverySuccessCount : UInt32
  deliveryFailureCount : UInt32
  droppedCount : UInt32
  lastElapsedMs : UInt32
  lastDetail : Int32
  lastHttpStatus : UInt16
  lastTransportStatus : UInt8
  queueDepth : UInt8

/-- The tasks in the order of `TelemetryService_TaskTypeDef`. -/
def taskNames : Vector String 9 :=
  #v["heartbeat", "watchdog", "factory_reset", "network", "time", "buzzer", "health_check",
    "callback", "api"]

/-- The stack of one task. -/
def taskText (name : String) (free : UInt32) (position : ℕ) : List UInt8 :=
  separator position ++ ascii "\"" ++ ascii name ++ ascii "\":\x7b\"stack_min_free_bytes\":"
    ++ decimalText free.toNat ++ ascii "\x7d"

def telemetryText (telemetry : Telemetry) (callback : CallbackTelemetry) : List UInt8 :=
  ascii "\x7b\"uptime_ms\":" ++ decimalText telemetry.uptimeMs.toNat
    ++ ascii ",\"dynamic_allocation\":false,\"tasks\":\x7b"
    ++ (List.finRange 9).flatMap (fun task =>
      taskText (taskNames.get task) (telemetry.stackMinFreeBytes.get task) task)
    ++ ascii "\x7d,\"callback\":\x7b\"queue_depth\":" ++ decimalText callback.queueDepth.toNat
    ++ ascii ",\"dropped_count\":" ++ decimalText callback.droppedCount.toNat
    ++ ascii ",\"delivery_success_count\":" ++ decimalText callback.deliverySuccessCount.toNat
    ++ ascii ",\"delivery_failure_count\":" ++ decimalText callback.deliveryFailureCount.toNat
    ++ ascii ",\"last_transport_status\":" ++ decimalText callback.lastTransportStatus.toNat
    ++ ascii ",\"last_http_status\":" ++ decimalText callback.lastHttpStatus.toNat
    ++ ascii ",\"last_elapsed_ms\":" ++ decimalText callback.lastElapsedMs.toNat
    ++ ascii ",\"last_detail\":" ++ signedText callback.lastDetail.toInt ++ ascii "\x7d\x7d"

/-- The answer to a request for the telemetry. -/
def telemetryAnswer (telemetry : Telemetry) (callback : CallbackTelemetry) : Answer :=
  if (telemetryText telemetry callback).length < 1024 then
    respond 200 "OK" (telemetryText telemetry callback)
  else error 500 "Internal Server Error" "response_too_large"

/-- `apiService_TransportStatusText`. -/
def transportStatusText (status : UInt8) : List UInt8 :=
  if status = TlsTransport.Status.ok.code then ascii "ok"
  else if status = TlsTransport.Status.dnsError.code then ascii "dns_error"
  else if status = TlsTransport.Status.connectError.code then ascii "connect_error"
  else if status = TlsTransport.Status.configError.code then ascii "config_error"
  else if status = TlsTransport.Status.certificateError.code then ascii "certificate_error"
  else if status = TlsTransport.Status.handshakeError.code then ascii "handshake_error"
  else if status = TlsTransport.Status.ioError.code then ascii "io_error"
  else if status = TlsTransport.Status.protocolError.code then ascii "protocol_error"
  else ascii "unknown"

/-- What a log entry says of the certificate. The conversion of its date may fail. -/
def expiryFields (gmtime : UInt32 → Option Civil) (entry : HealthCheckLog.Entry) :
    Option (List UInt8) :=
  if entry.certificateExpiresAt = 0 then
    some (snprintf 192 (ascii "\"expiring_date\":null,\"days_left\":null,\"anchor_id\":"
      ++ decimalText entry.certificateAnchorId.toNat ++ ascii ",\"expiring\":false"))
  else (gmtime entry.certificateExpiresAt).map fun expiry =>
    snprintf 192 (ascii "\"expiring_date\":\"" ++ expiry.text ++ ascii "\",\"days_left\":"
      ++ signedText entry.certificateDaysLeft.toInt ++ ascii ",\"anchor_id\":"
      ++ decimalText entry.certificateAnchorId.toNat ++ ascii ",\"expiring\":"
      ++ booleanText (entry.certificateExpiring != 0))

/-- `apiService_FormatLogEntry`, when the entry fits the buffer it is printed in. -/
def formatLogEntry (gmtime : UInt32 → Option Civil) (entry : HealthCheckLog.Entry)
    (position : ℕ) : Option (List UInt8) :=
  (expiryFields gmtime entry).bind fun expiry =>
    printBehind 384 [] (separator position
      ++ ascii "\x7b\"sequence\":" ++ decimalText entry.sequence.toNat
      ++ ascii ",\"timestamp\":" ++ decimalText entry.timestampUnix.toNat
      ++ ascii ",\"resource_index\":" ++ decimalText entry.resourceIndex.toNat
      ++ ascii ",\"status\":\"" ++ transportStatusText entry.status
      ++ ascii "\",\"http_status\":" ++ decimalText entry.httpStatus.toNat
      ++ ascii ",\"elapsed_ms\":" ++ decimalText entry.elapsedMs.toNat
      ++ ascii ",\"detail\":" ++ signedText entry.detail.toInt
      ++ ascii ",\"certificate\":\x7b" ++ expiry ++ ascii "\x7d\x7d")

/-- `apiService_RespondLogs`. The entries are formatted once to find the length of
the body, and once more to be written. -/
def respondLogs (gmtime : UInt32 → Option Civil) (entries : List HealthCheckLog.Entry) : Answer :=
  match entries.zipIdx.mapM fun item => formatLogEntry gmtime item.1 item.2 with
  | none => .nothing
  | some fragments =>
      let response : Response :=
        ⟨200, "OK", ascii "\x7b\"logs\":[" ++ fragments.flatten ++ ascii "]\x7d"⟩
      if response.header.length < 192 then .response response else .nothing

end HealthCheckFirmware.ApiService
