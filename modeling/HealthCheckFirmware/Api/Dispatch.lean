import HealthCheckFirmware.Api.Request
import HealthCheckFirmware.Api.Response

/-!
# The dispatch of requests

`apiService_Dispatch` as a function on the state of the device. `route` finds the
endpoint of a method and a path, in the order in which the source tries them; three
endpoints are open to anyone, all others (`Operation`) act for the principal of the
bearer token.

What the code calls but this repository does not define is a parameter (`Library`).
What one request meets is its `Environment`: the times, the random numbers and the
outcomes of the flash operations of the calls it makes.
-/

set_option autoImplicit false

namespace HealthCheckFirmware.ApiService

open TwoBank

/-! ## The device and what a request meets -/

/-- An event of the buzzer queue, for the resource with the given number. -/
inductive Alert where
  | healthCheck (resourceId : UInt8)
  | certificate (resourceId : UInt8)
  deriving DecidableEq, Repr

/-- The state that requests act on. -/
structure Device where
  auth : AuthService.State
  healthCheck : HealthCheckConfig.Ram
  callback : CallbackConfig.Ram
  trust : TlsTrustStore.Ram
  credentials : TlsServerCredentials.Ram
  buzzer : List Alert
  log : HealthCheckLog.Log

/-- The libraries and the build constants that the code uses. -/
structure Library where
  crypto : AuthService.Crypto
  examine : List UInt8 → TlsTrustStore.Examination
  checks : TlsServerCredentials.CredentialChecks
  gmtime : UInt32 → Option Civil
  version : List UInt8
  buildDate : List UInt8

/-- What one request meets. The call that authorizes it and the call that then acts
on the accounts or sessions each have their own ambient. The power stays on. -/
structure Environment where
  authorizing : AuthService.Ambient
  acting : AuthService.Ambient
  networkReady : Bool
  timeSynchronized : Bool
  flashAvailable : Bool
  uptimeMs : UInt32
  unixTime : Option UInt32
  telemetry : Telemetry
  callbackTelemetry : CallbackTelemetry
  buzzerAccepts : Bool
  memory : Bool
  conditions : TlsServerCredentials.Conditions
  healthCheckFaults : SectorFaults
  callbackFaults : SectorFaults
  credentialFaults : SectorFaults
  trustFaults : TlsTrustStore.BankFaults
  logReadable : Side → ℕ → Bool
  powered : healthCheckFaults.Powered ∧ callbackFaults.Powered ∧ credentialFaults.Powered
    ∧ (∀ sector, (trustFaults.erase sector).Powered) ∧ trustFaults.program.Powered

/-! ## Endpoints -/

/-- The endpoints that need a bearer token. -/
inductive Operation where
  | revoke
  | rtc
  | telemetry
  | testHealthCheckAlert
  | testCertificateAlert
  | listUsers
  | createUser
  | updateUser (username : List UInt8)
  | deleteUser (username : List UInt8)
  | putCertificate
  | putPrivateKey
  | listTrustAnchors
  | addTrustAnchor
  | resetTrustAnchors
  | replaceTrustAnchor (idText : List UInt8)
  | deleteTrustAnchor (idText : List UInt8)
  | getCallbackConfig
  | putCallbackConfig
  | getHealthCheckConfig
  | putHealthCheckConfig
  | addResource
  | updateResource (indexText : List UInt8)
  | deleteResource (indexText : List UInt8)
  | getLogs
  | unknown
  deriving DecidableEq

inductive Endpoint where
  | health (headersOnly : Bool)
  | token
  | refresh
  | authorized (operation : Operation)
  deriving DecidableEq

/-- The method and the path are the given ones. -/
def exactly (method path : List UInt8) (name target : String) : Bool :=
  method == ascii name && path == ascii target

/-- The method is the given one and the path has the given beginning. -/
def under (method path : List UInt8) (name start : String) : Bool :=
  method == ascii name && (ascii start).isPrefixOf path

/-- What follows a given beginning of a path. -/
def behind (path : List UInt8) (start : String) : List UInt8 := path.drop (ascii start).length

/-- The operation of a method and a path. -/
def operation (method path : List UInt8) : Operation :=
  if exactly method path "POST" "/api/v1/auth/revoke" then .revoke
  else if exactly method path "GET" "/api/v1/rtc" then .rtc
  else if exactly method path "GET" "/api/v1/system/telemetry" then .telemetry
  else if exactly method path "POST" "/api/v1/buzzer/health-check-alert" then .testHealthCheckAlert
  else if exactly method path "POST" "/api/v1/buzzer/certificate-expiry-alert" then
    .testCertificateAlert
  else if exactly method path "GET" "/api/v1/users" then .listUsers
  else if exactly method path "POST" "/api/v1/users" then .createUser
  else if under method path "PUT" "/api/v1/users/" then .updateUser (behind path "/api/v1/users/")
  else if under method path "DELETE" "/api/v1/users/" then
    .deleteUser (behind path "/api/v1/users/")
  else if exactly method path "PUT" "/api/v1/tls/certificate" then .putCertificate
  else if exactly method path "PUT" "/api/v1/tls/private-key" then .putPrivateKey
  else if exactly method path "GET" "/api/v1/trust-anchors" then .listTrustAnchors
  else if exactly method path "POST" "/api/v1/trust-anchors" then .addTrustAnchor
  else if exactly method path "DELETE" "/api/v1/trust-anchors" then .resetTrustAnchors
  else if under method path "PUT" "/api/v1/trust-anchors/" then
    .replaceTrustAnchor (behind path "/api/v1/trust-anchors/")
  else if under method path "DELETE" "/api/v1/trust-anchors/" then
    .deleteTrustAnchor (behind path "/api/v1/trust-anchors/")
  else if exactly method path "GET" "/api/v1/callback/config" then .getCallbackConfig
  else if exactly method path "PUT" "/api/v1/callback/config" then .putCallbackConfig
  else if exactly method path "GET" "/api/v1/health-check/config" then .getHealthCheckConfig
  else if exactly method path "PUT" "/api/v1/health-check/config" then .putHealthCheckConfig
  else if exactly method path "POST" "/api/v1/health-check/resources" then .addResource
  else if under method path "PUT" "/api/v1/health-check/resources/" then
    .updateResource (behind path "/api/v1/health-check/resources/")
  else if under method path "DELETE" "/api/v1/health-check/resources/" then
    .deleteResource (behind path "/api/v1/health-check/resources/")
  else if exactly method path "GET" "/api/v1/health-check/logs" then .getLogs
  else .unknown

/-- The endpoint of a method and a path. -/
def route (method path : List UInt8) : Endpoint :=
  if (method = ascii "GET" ∨ method = ascii "HEAD") ∧ path = ascii "/health" then
    .health (method == ascii "HEAD")
  else if method = ascii "POST" ∧ path = ascii "/api/v1/auth/token" then .token
  else if method = ascii "POST" ∧ path = ascii "/api/v1/auth/refresh" then .refresh
  else .authorized (operation method path)

/-! ## Health and sessions -/

section Handlers

variable (library : Library) (environment : Environment) (device : Device)

/-- The answer to a health request. -/
def health (headersOnly : Bool) : Answer :=
  let healthy := environment.networkReady && environment.timeSynchronized
    && environment.flashAvailable
  let json := snprintf 256
    (ascii "\x7b\"status\":\"" ++ (if healthy then ascii "ok" else ascii "failed")
      ++ ascii "\",\"version\":\"" ++ library.version
      ++ ascii "\",\"build_date\":\"" ++ library.buildDate
      ++ ascii "\",\"uptime\":" ++ decimalText (environment.uptimeMs / 1000).toNat
      ++ ascii ",\"systems\":\x7b\"api\":true,\"network\":" ++ booleanText environment.networkReady
      ++ ascii ",\"time\":" ++ booleanText environment.timeSynchronized
      ++ ascii ",\"flash\":" ++ booleanText environment.flashAvailable ++ ascii "\x7d\x7d")
  let status := if healthy then 200 else 503
  let reason := if healthy then "OK" else "Service Unavailable"
  if headersOnly then respondHeadersOnly status reason json else respond status reason json

/-- The device with another session table. -/
def Device.withSessions (table : AuthService.Table) : Device :=
  { device with auth := { device.auth with sessions := table } }

/-- The answer to a login. -/
def token (body : List UInt8) : Device × Answer :=
  match jsonText body (ascii "username") UserStore.usernameSize,
      jsonText body (ascii "password") 129 with
  | some username, some password =>
      let login := AuthService.login library.crypto environment.acting device.auth username password
      match login.2 with
      | .error _ => (device.withSessions login.1, error 401 "Unauthorized" "invalid_credentials")
      | .ok pair => (device.withSessions login.1, tokens pair)
  | _, _ => (device, error 400 "Bad Request" "invalid_request")

/-- The answer to a refresh. -/
def refresh (body : List UInt8) : Device × Answer :=
  match jsonText body (ascii "refresh_token") AuthService.tokenTextSize with
  | none => (device, error 400 "Bad Request" "invalid_request")
  | some text =>
      let refreshed :=
        AuthService.refresh library.crypto environment.acting device.auth.sessions text
      match refreshed.2 with
      | .error _ =>
          (device.withSessions refreshed.1, error 401 "Unauthorized" "invalid_refresh_token")
      | .ok pair => (device.withSessions refreshed.1, tokens pair)

/-- The answer to a revocation. -/
def revoke (authorization : List UInt8) : Device × Answer :=
  let revoked :=
    AuthService.revoke library.crypto environment.acting device.auth.sessions authorization
  match revoked.2 with
  | .error _ => (device.withSessions revoked.1, error 401 "Unauthorized" "invalid_access_token")
  | .ok () => (device.withSessions revoked.1, respond 200 "OK" (ascii "\x7b\"revoked\":true\x7d"))

/-- The answer to a request for the time. -/
def rtc : Answer :=
  match environment.unixTime with
  | none => respond 503 "Service Unavailable" (ascii "\x7b\"synchronized\":false\x7d")
  | some unixTime =>
      match library.gmtime unixTime with
      | none => error 500 "Internal Server Error" "rtc_conversion_failed"
      | some utc =>
          respond 200 "OK" (snprintf 128
            (ascii "\x7b\"synchronized\":true,\"unix_time\":" ++ decimalText unixTime.toNat
              ++ ascii ",\"utc\":\"" ++ utc.text ++ ascii "\"\x7d"))

/-! ## The buzzer -/

/-- The test of an alert: it is queued for the resource that the body names. -/
def testAlert (alert : UInt8 → Alert) (body : List UInt8) : Device × Answer :=
  match jsonNumber body (ascii "resource_index") with
  | none => (device, error 400 "Bad Request" "invalid_resource_index")
  | some index =>
      if HealthCheckConfig.maxResources ≤ index.toNat then
        (device, error 400 "Bad Request" "invalid_resource_index")
      else if environment.buzzerAccepts then
        ({ device with buzzer := device.buzzer ++ [alert (index.toUInt8 + 1)] },
          respond 202 "Accepted" (snprintf 80
            (ascii "\x7b\"queued\":true,\"resource_index\":" ++ decimalText index.toNat
              ++ ascii ",\"resource_id\":" ++ decimalText (index.toUInt8 + 1).toNat
              ++ ascii "\x7d")))
      else (device, error 503 "Service Unavailable" "buzzer_busy")

/-! ## Accounts -/

/-- What is common to creating and updating an account. The role is what the body
leaves in the buffer. -/
def saveUser (principal : AuthService.Principal) (body username role : List UInt8)
    (enabled : UInt8) (updating : Bool) : Device × Answer :=
  match jsonText body (ascii "password") 129 with
  | none => (device, error 400 "Bad Request" "password_required")
  | some password =>
      let chosen := bufferString (jsonString body (ascii "role") (fillBuffer 20 role)).2
      let input : AuthService.UserInput :=
        { username := username
          password := password
          role := if chosen = ascii "administrator" then .administrator else .user
          enabled := (jsonBoolean body (ascii "enabled")).getD enabled != 0
          mustExist := updating }
      let saved := AuthService.putUser library.crypto environment.acting device.auth principal input
      let device := { device with auth := saved.1 }
      match saved.2 with
      | .error .notFound => (device, error 404 "Not Found" "user_not_found")
      | .error _ => (device, error 400 "Bad Request" "user_not_saved")
      | .ok () =>
          let json := snprintf 96 (ascii "\x7b\"username\":\"" ++ username ++ ascii "\"\x7d")
          (device, if updating then respond 200 "OK" json else respond 201 "Created" json)

/-- The creation of an account. -/
def createUser (principal : AuthService.Principal) (body : List UInt8) : Device × Answer :=
  match jsonText body (ascii "username") UserStore.usernameSize with
  | none => (device, error 400 "Bad Request" "invalid_request")
  | some username =>
      saveUser library environment device principal body username (ascii "user") 1 false

/-- The name of an account in a path, cut to the size of its buffer. -/
def pathUsername (suffix : List UInt8) : List UInt8 := suffix.take (UserStore.usernameSize - 1)

/-- The update of an account; the role and the flag default to the stored ones. -/
def updateUser (principal : AuthService.Principal) (suffix body : List UInt8) : Device × Answer :=
  match UserStore.find device.auth.users.snapshot.body (pathUsername suffix) with
  | none => (device, error 404 "Not Found" "user_not_found")
  | some existing =>
      saveUser library environment device principal body (pathUsername suffix)
        (roleText existing.role) existing.enabled true

/-- The deletion of an account. -/
def deleteUser (principal : AuthService.Principal) (suffix : List UInt8) : Device × Answer :=
  let username := pathUsername suffix
  let deleted := AuthService.deleteUser environment.acting device.auth principal username
  let device := { device with auth := deleted.1 }
  match deleted.2 with
  | .error .notFound => (device, error 404 "Not Found" "user_not_found")
  | .error .forbidden => (device, error 403 "Forbidden" "forbidden")
  | .error _ => (device, error 500 "Internal Server Error" "storage_error")
  | .ok () =>
      (device, respond 200 "OK" (snprintf 64
        (ascii "\x7b\"username\":\"" ++ username ++ ascii "\",\"deleted\":true\x7d")))

/-! ## Server credentials -/

/-- An upload of the server certificate or its key. -/
def stageCredential (request : TlsServerCredentials.Request) (awaiting invalidError : String) :
    Device × Answer :=
  let staged := TlsServerCredentials.mutate library.checks device.credentials request
    environment.credentialFaults
  ({ device with credentials := staged.1 },
    tlsCredentialsRespond (TlsServerCredentials.status staged.2) awaiting invalidError)

/-- `PUT /api/v1/tls/certificate`. -/
def putCertificate (body : List UInt8) : Device × Answer :=
  if body.length = 0 then (device, error 400 "Bad Request" "invalid_certificate_body")
  else stageCredential library environment device
    (.stageCertificate body environment.conditions) "private_key" "invalid_certificate"

/-- `PUT /api/v1/tls/private-key`. -/
def putPrivateKey (body : List UInt8) : Device × Answer :=
  if body.length = 0 then (device, error 400 "Bad Request" "invalid_private_key_body")
  else stageCredential library environment device
    (.stagePrivateKey body environment.conditions) "certificate" "invalid_private_key"

/-! ## Trust anchors -/

/-- A mutation of the trust store, and the answer to its success. -/
def mutateTrust (request : TlsTrustStore.Request) (success : Answer) : Device × Answer :=
  let mutated := TlsTrustStore.mutate library.examine device.trust request environment.trustFaults
  let device := { device with trust := mutated.1 }
  match TlsTrustStore.status mutated.2 with
  | .ok => (device, success)
  | status => (device, trustStoreError status)

/-- The number that the rest of a path consists of, when it is in the given range. -/
def pathNumber (text : List UInt8) (low high : ℤ) : Option UInt8 :=
  match strtol text with
  | none => none
  | some (value, rest) =>
      if rest = [] ∧ low ≤ value ∧ value ≤ high then some (UInt8.ofNat value.toNat) else none

/-- The number of an anchor in a path. -/
def anchorNumber (text : List UInt8) : Option UInt8 :=
  pathNumber text TlsTrustStore.minId.toNat TlsTrustStore.maxPersisted

/-- Some stored configuration refers to the anchor. -/
def anchorInUse (id : UInt8) : Bool :=
  HealthCheckConfig.isTrustAnchorInUse device.healthCheck id
    || CallbackConfig.isTrustAnchorInUse device.callback id

/-- The numbers of all anchors. -/
def anchorNumbers : List UInt8 :=
  (List.range TlsTrustStore.maxPersisted).map fun index => UInt8.ofNat (index + 1)

/-- `POST /api/v1/trust-anchors`. The number of the anchor is that of the first free slot. -/
def addTrustAnchor (body : List UInt8) : Device × Answer :=
  let assignedId := ((TlsTrustStore.firstFree device.trust.snapshot.body).map (· + 1)).getD 0
  mutateTrust library environment device (.add body environment.memory)
    (respond 201 "Created" (snprintf 48
      (ascii "\x7b\"id\":" ++ decimalText assignedId ++ ascii "\x7d")))

/-- `DELETE /api/v1/trust-anchors`, unless some anchor is in use. -/
def resetTrustAnchors : Device × Answer :=
  if anchorNumbers.any (anchorInUse device) then
    (device, error 409 "Conflict" "trust_anchor_in_use")
  else mutateTrust library environment device .reset
    (respond 200 "OK" (ascii "\x7b\"reset\":true\x7d"))

def replaceTrustAnchor (idText body : List UInt8) : Device × Answer :=
  match anchorNumber idText with
  | none => (device, error 404 "Not Found" "trust_anchor_not_found")
  | some id =>
      mutateTrust library environment device (.replace id body environment.memory)
        (respond 200 "OK" (snprintf 48
          (ascii "\x7b\"id\":" ++ decimalText id.toNat ++ ascii ",\"replaced\":true\x7d")))

def deleteTrustAnchor (idText : List UInt8) : Device × Answer :=
  match anchorNumber idText with
  | none => (device, error 404 "Not Found" "trust_anchor_not_found")
  | some id =>
      if anchorInUse device id then (device, error 409 "Conflict" "trust_anchor_in_use")
      else mutateTrust library environment device (.delete id)
        (respond 200 "OK" (snprintf 48
          (ascii "\x7b\"id\":" ++ decimalText id.toNat ++ ascii ",\"deleted\":true\x7d")))

/-- The number of an anchor as a member of a body: in range, and that of a stored
anchor where one is needed. -/
def anchorAcceptable (trustAnchorId : UInt32) (needed : Bool) : Bool :=
  decide (TlsTrustStore.minId.toNat ≤ trustAnchorId.toNat)
    && decide (trustAnchorId.toNat ≤ TlsTrustStore.maxPersisted)
    && (!needed || TlsTrustStore.anchorExists device.trust trustAnchorId.toUInt8)

/-- The range of a port number. -/
def portAcceptable (port : UInt32) : Bool := port != 0 && decide (port.toNat ≤ 65535)

/-! ## The callback configuration -/

/-- The members of an update of the callback configuration, with the stored values
for those left out. -/
structure CallbackUpdate where
  enabled : UInt8
  method : Vector UInt8 8
  host : Vector UInt8 CallbackConfig.hostSize
  path : Vector UInt8 CallbackConfig.pathSize
  port : UInt32
  trustAnchor : UInt32

/-- The update that a body describes, if every member in it can be read. -/
def callbackUpdate (config : CallbackConfig.Config) (body : List UInt8) :
    Option CallbackUpdate := do
  let enabled ← updatedValue jsonBoolean body (ascii "enabled") config.enabled
  let method ← updatedString body (ascii "method") (fillBuffer 8 (methodText config.method))
  let host ← updatedString body (ascii "host") config.host
  let path ← updatedString body (ascii "path") config.path
  let port ← updatedValue jsonNumber body (ascii "port") config.port.toUInt32
  let trustAnchor ←
    updatedValue jsonNumber body (ascii "trust_anchor_id") config.trustAnchorId.toUInt32
  return ⟨enabled, method, host, path, port, trustAnchor⟩

/-- The configuration after an update. -/
def CallbackUpdate.apply (update : CallbackUpdate) (config : CallbackConfig.Config) :
    CallbackConfig.Config :=
  { config with
    enabled := update.enabled
    method := if bufferString update.method = ascii "POST" then CallbackConfig.methodPost
      else CallbackConfig.methodGet
    port := update.port.toUInt16
    trustAnchorId := update.trustAnchor.toUInt8
    host := update.host
    path := update.path }

def putCallbackConfig (body : List UInt8) : Device × Answer :=
  let config := CallbackConfig.get device.callback
  match callbackUpdate config body with
  | none => (device, error 400 "Bad Request" "invalid_request")
  | some update =>
      if bufferString update.method ≠ ascii "GET" ∧ bufferString update.method ≠ ascii "POST" then
        (device, error 400 "Bad Request" "invalid_method")
      else if portAcceptable update.port = false then
        (device, error 400 "Bad Request" "invalid_port")
      else if anchorAcceptable device update.trustAnchor (update.enabled != 0) = false then
        (device, error 400 "Bad Request" "invalid_trust_anchor")
      else if CallbackConfig.configIsValid (update.apply config) = false then
        (device, error 400 "Bad Request" "invalid_request")
      else
        let stored := CallbackConfig.set device.callback (update.apply config)
          environment.callbackFaults
        let device := { device with callback := stored.1 }
        match stored.2 with
        | .saved _ => (device, respond 200 "OK" (ascii "\x7b\"updated\":true\x7d"))
        | _ => (device, error 500 "Internal Server Error" "storage_error")

/-! ## The health-check configuration -/

/-- A mutation of the health-check configuration, and the answer to each status. -/
def mutateHealthCheck (request : HealthCheckConfig.Request)
    (answer : HealthCheckConfig.Status → Answer) : Device × Answer :=
  let mutated := HealthCheckConfig.mutate device.healthCheck request environment.healthCheckFaults
  ({ device with healthCheck := mutated.1 }, answer (HealthCheckConfig.status mutated.2))

def putHealthCheckConfig (body : List UInt8) : Device × Answer :=
  match jsonNumber body (ascii "period_seconds") with
  | none => (device, error 400 "Bad Request" "invalid_request")
  | some period =>
      mutateHealthCheck environment device (.setPeriodSeconds period) fun
        | .invalidArgument => error 400 "Bad Request" "invalid_period"
        | .ok => respond 200 "OK" (snprintf 48
            (ascii "\x7b\"period_seconds\":" ++ decimalText period.toNat ++ ascii "\x7d"))
        | _ => error 500 "Internal Server Error" "storage_error"

/-- The parameters of a resource as the body gives them. -/
structure ResourceUpdate where
  host : List UInt8
  path : List UInt8
  port : UInt32
  enabled : UInt8
  trustAnchor : UInt32
  deriving DecidableEq

/-- What the store is asked to keep. -/
def ResourceUpdate.input (update : ResourceUpdate) : HealthCheckConfig.ResourceInput :=
  ⟨update.host, update.port.toUInt16, update.path, update.enabled, update.trustAnchor.toUInt8⟩

/-- The resource as it is answered. -/
def ResourceUpdate.text (update : ResourceUpdate) (index : ℕ) : List UInt8 :=
  snprintf 256 (resourceFields index update.host update.port.toNat update.path
    (update.enabled != 0) update.trustAnchor.toNat)

/-- The checks that adding and updating a resource share, before the store is asked. -/
def checkedResource (update : ResourceUpdate) (proceed : Device × Answer) : Device × Answer :=
  if portAcceptable update.port = false then (device, error 400 "Bad Request" "invalid_port")
  else if anchorAcceptable device update.trustAnchor true = false then
    (device, error 400 "Bad Request" "invalid_trust_anchor")
  else proceed

/-- The resource that a body describes, if all its members can be read. -/
def newResource (body : List UInt8) : Option ResourceUpdate := do
  let host ← jsonText body (ascii "host") HealthCheckConfig.hostSize
  let path ← jsonText body (ascii "path") HealthCheckConfig.pathSize
  let port ← jsonNumber body (ascii "port")
  let trustAnchor ← jsonNumber body (ascii "trust_anchor_id")
  return ⟨host, path, port, (jsonBoolean body (ascii "enabled")).getD 1, trustAnchor⟩

def addResource (body : List UInt8) : Device × Answer :=
  match newResource body with
  | none => (device, error 400 "Bad Request" "invalid_request")
  | some update =>
      let assignedIndex :=
        (HealthCheckConfig.firstFree (HealthCheckConfig.getResources device.healthCheck)).getD 0
      checkedResource device update <|
        mutateHealthCheck environment device (.addResource update.input) fun
          | .full => error 409 "Conflict" "resource_limit_reached"
          | .ok => respond 201 "Created" (update.text assignedIndex)
          | _ => error 400 "Bad Request" "invalid_request"

/-- The index of a resource in a path. -/
def resourceIndex (text : List UInt8) : Option UInt8 :=
  pathNumber text 0 (HealthCheckConfig.maxResources - 1)

def deleteResource (indexText : List UInt8) : Device × Answer :=
  match resourceIndex indexText with
  | none => (device, error 404 "Not Found" "resource_not_found")
  | some index =>
      mutateHealthCheck environment device (.deleteResource index) fun
        | .notFound => error 404 "Not Found" "resource_not_found"
        | .ok => respond 200 "OK" (snprintf 48
            (ascii "\x7b\"index\":" ++ decimalText index.toNat ++ ascii ",\"deleted\":true\x7d"))
        | _ => error 500 "Internal Server Error" "storage_error"

/-- The parameters of a stored resource, as far as the body does not change them. -/
def changedResource (resource : HealthCheckConfig.Resource) (body : List UInt8) :
    ResourceUpdate where
  host := bufferString (jsonString body (ascii "host")
    (fillBuffer HealthCheckConfig.hostSize (bufferString resource.host))).2
  path := bufferString (jsonString body (ascii "path")
    (fillBuffer HealthCheckConfig.pathSize (bufferString resource.path))).2
  port := (jsonNumber body (ascii "port")).getD resource.port.toUInt32
  enabled := (jsonBoolean body (ascii "enabled")).getD resource.enabled
  trustAnchor := (jsonNumber body (ascii "trust_anchor_id")).getD resource.trustAnchorId.toUInt32

def updateResource (indexText body : List UInt8) : Device × Answer :=
  match resourceIndex indexText with
  | none => (device, error 404 "Not Found" "resource_not_found")
  | some index =>
      match HealthCheckConfig.occupiedSlot device.healthCheck.snapshot.body index with
      | none => (device, error 404 "Not Found" "resource_not_found")
      | some resource =>
          let update := changedResource resource body
          checkedResource device update <|
            mutateHealthCheck environment device (.updateResource index update.input) fun
              | .notFound => error 404 "Not Found" "resource_not_found"
              | .ok => respond 200 "OK" (update.text index.toNat)
              | _ => error 400 "Bad Request" "invalid_request"

/-! ## Dispatch -/

/-- An operation that only administrators may ask for. -/
def restricted (principal : AuthService.Principal) (result : Device × Answer) : Device × Answer :=
  if principal.role = AuthService.Role.administrator.code then result
  else (device, error 403 "Forbidden" "forbidden")

/-- An operation, for the principal of the bearer token. -/
def operate (request : Request) (principal : AuthService.Principal) :
    Operation → Device × Answer
  | .revoke => revoke library environment device request.authorization
  | .rtc => (device, rtc library environment)
  | .telemetry => (device, telemetryAnswer environment.telemetry environment.callbackTelemetry)
  | .testHealthCheckAlert => restricted device principal
      (testAlert environment device .healthCheck (cString request.body))
  | .testCertificateAlert => restricted device principal
      (testAlert environment device .certificate (cString request.body))
  | .listUsers => restricted device principal (device, usersListing
      (AuthService.listUsers device.auth principal UserStore.maxUsers))
  | .createUser => restricted device principal
      (createUser library environment device principal (cString request.body))
  | .updateUser username => restricted device principal
      (updateUser library environment device principal username (cString request.body))
  | .deleteUser username => restricted device principal
      (deleteUser environment device principal username)
  | .putCertificate => restricted device principal
      (putCertificate library environment device request.body)
  | .putPrivateKey => restricted device principal
      (putPrivateKey library environment device request.body)
  | .listTrustAnchors => (device, anchorsListing
      (TlsTrustStore.list device.trust TlsTrustStore.maxPersisted))
  | .addTrustAnchor => restricted device principal
      (addTrustAnchor library environment device request.body)
  | .resetTrustAnchors => restricted device principal
      (resetTrustAnchors library environment device)
  | .replaceTrustAnchor idText => restricted device principal
      (replaceTrustAnchor library environment device idText request.body)
  | .deleteTrustAnchor idText => restricted device principal
      (deleteTrustAnchor library environment device idText)
  | .getCallbackConfig => (device,
      respond 200 "OK" (snprintf 320 (callbackText (CallbackConfig.get device.callback))))
  | .putCallbackConfig => restricted device principal
      (putCallbackConfig environment device (cString request.body))
  | .getHealthCheckConfig => (device, configListing
      (HealthCheckConfig.getPeriodSeconds device.healthCheck)
      (HealthCheckConfig.getResources device.healthCheck))
  | .putHealthCheckConfig => restricted device principal
      (putHealthCheckConfig environment device (cString request.body))
  | .addResource => restricted device principal
      (addResource environment device (cString request.body))
  | .updateResource indexText => restricted device principal
      (updateResource environment device indexText (cString request.body))
  | .deleteResource indexText => restricted device principal
      (deleteResource environment device indexText)
  | .getLogs => (device, respondLogs library.gmtime
      (HealthCheckLog.getRecent environment.logReadable 50 device.log))
  | .unknown => (device, error 404 "Not Found" "not_found")

/-- `apiService_Dispatch`. -/
def dispatch (request : Request) : Device × Answer :=
  match route (cString request.method) (cString request.path) with
  | .health headersOnly => (device, health library environment headersOnly)
  | .token => token library environment device (cString request.body)
  | .refresh => refresh library environment device (cString request.body)
  | .authorized operation =>
      match AuthService.authorize library.crypto environment.authorizing device.auth.sessions
          request.authorization with
      | .error _ => (device, error 401 "Unauthorized" "invalid_access_token")
      | .ok principal => operate library environment device request principal operation

end Handlers

end HealthCheckFirmware.ApiService
