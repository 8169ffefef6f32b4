import HealthCheckFirmware.Api.Response
import HealthCheckFirmware.Lib.BoundedQueue
import HealthCheckFirmware.Transport.TlsTransport

/-!
# Reporting failed checks

`callback_service.c`: failed checks wait in a queue of three, and a task of low priority
reports them one after the other to the configured host, as a `POST` request with a JSON
body or as a `GET` request with a query. When the queue is full, the oldest event makes room
for a new one.
-/

set_option autoImplicit false

namespace HealthCheckFirmware.CallbackService

/-- `CALLBACK_QUEUE_LENGTH`, `CALLBACK_BODY_SIZE` and `CALLBACK_RESOURCE_SIZE`. -/
def queueLength : ℕ := 3
def bodySize : ℕ := 192
def resourceSize : ℕ := 256

/-- `CallbackService_EventTypeDef`. -/
abbrev Event := HealthCheckLog.Entry

/-- `CallbackService_TelemetryTypeDef`, but for the depth of the queue. -/
structure Telemetry where
  deliverySuccessCount : UInt32
  deliveryFailureCount : UInt32
  droppedCount : UInt32
  lastElapsedMs : UInt32
  lastDetail : Int32
  lastHttpStatus : UInt16
  lastTransportStatus : UInt8
  deriving DecidableEq

/-- The queue and the counters. -/
structure Service where
  queue : BoundedQueue Event queueLength
  telemetry : Telemetry

/-- The service after `CallbackService_Init`. -/
def init : Service := ⟨.empty, ⟨0, 0, 0, 0, 0, 0, 0⟩⟩

/-! ## Requests -/

/-- `callbackService_TransportStatusText`. The management interface has a function with the
same table. -/
def transportStatusText (status : UInt8) : List UInt8 := ApiService.transportStatusText status

/-- What is printed as the body of a `POST` request. -/
def eventBody (event : Event) : List UInt8 :=
  ascii "\x7b\"sequence\":" ++ decimalText event.sequence.toNat
    ++ ascii ",\"timestamp\":" ++ decimalText event.timestampUnix.toNat
    ++ ascii ",\"resource_index\":" ++ decimalText event.resourceIndex.toNat
    ++ ascii ",\"status\":\"fail\",\"stage\":\"" ++ transportStatusText event.status
    ++ ascii "\",\"http_status\":" ++ decimalText event.httpStatus.toNat
    ++ ascii ",\"elapsed_ms\":" ++ decimalText event.elapsedMs.toNat
    ++ ascii ",\"detail\":" ++ signedText event.detail.toInt ++ ascii "\x7d"

/-- What is printed behind the path of a `GET` request. -/
def eventQuery (event : Event) : List UInt8 :=
  ascii "sequence=" ++ decimalText event.sequence.toNat
    ++ ascii "&timestamp=" ++ decimalText event.timestampUnix.toNat
    ++ ascii "&resource_index=" ++ decimalText event.resourceIndex.toNat
    ++ ascii "&status=fail&stage=" ++ transportStatusText event.status
    ++ ascii "&http_status=" ++ decimalText event.httpStatus.toNat
    ++ ascii "&elapsed_ms=" ++ decimalText event.elapsedMs.toNat
    ++ ascii "&detail=" ++ signedText event.detail.toInt

/-- The character between the path and the query: the path may have a query already. -/
def separator (path : List UInt8) : UInt8 := if 0x3F ∈ path then 0x26 else 0x3F

/-- The path with the query. -/
def eventResource (path : List UInt8) (event : Event) : List UInt8 :=
  path ++ [separator path] ++ eventQuery event

/-- The request for an event, unless it does not fit its buffers. -/
def requestArguments (config : CallbackConfig.Config) (event : Event) :
    Option TlsTransport.Arguments :=
  let path := bufferString config.path
  if config.method = CallbackConfig.methodPost then
    if (eventBody event).length = 0 ∨ bodySize ≤ (eventBody event).length then none
    else some
      { method := some (ascii "POST")
        host := some (bufferString config.host)
        port := config.port
        -- `strncpy`
        resource := some (path.take (resourceSize - 1))
        body := some (eventBody event)
        contentType := some (ascii "application/json") }
  else
    if (eventResource path event).length = 0 ∨ resourceSize ≤ (eventResource path event).length then
      none
    else some
      { method := some (ascii "GET")
        host := some (bufferString config.host)
        port := config.port
        resource := some (eventResource path event)
        body := some []
        contentType := none }

/-! ## The queue and the task -/

/-- `CallbackService_Enqueue`. -/
def enqueue (service : Service) (entry : Event) : Service :=
  let offered := service.queue.offer entry
  if offered.2 then
    ⟨offered.1, { service.telemetry with droppedCount := service.telemetry.droppedCount + 1 }⟩
  else { service with queue := offered.1 }

/-- The counters after a delivery. -/
def Telemetry.record (telemetry : Telemetry) (result : TlsTransport.Result) : Telemetry :=
  let counted :=
    if result.status = .ok ∧ 200 ≤ result.httpStatus ∧ result.httpStatus < 300 then
      { telemetry with deliverySuccessCount := telemetry.deliverySuccessCount + 1 }
    else { telemetry with deliveryFailureCount := telemetry.deliveryFailureCount + 1 }
  { counted with
    lastElapsedMs := result.elapsedMs
    lastDetail := result.detail
    lastHttpStatus := result.httpStatus
    lastTransportStatus := result.status.code }

/-- What the task meets in one turn: the configuration it is given, and what the calls of the
transport return. -/
structure Delivery where
  config : CallbackConfig.Config
  calls : TlsTransport.Calls

/-- The delivery of one event. -/
def deliver (delivery : Delivery) (event : Event) (telemetry : Telemetry) : Telemetry :=
  if delivery.config.enabled = 0 then telemetry
  else
    match requestArguments delivery.config event with
    | none => telemetry
    | some arguments => telemetry.record (TlsTransport.request arguments delivery.calls)

/-- One turn of `callbackService_Task`: the event it receives, and the service. Without an
event it waits. -/
def taskTurn (delivery : Delivery) (service : Service) : Option Event × Service :=
  match service.queue.receive with
  | none => (none, service)
  | some (event, rest) => (some event, ⟨rest, deliver delivery event service.telemetry⟩)

/-- `CallbackService_GetTelemetry`. -/
def getTelemetry (service : Service) : ApiService.CallbackTelemetry where
  queueDepth := UInt8.ofNat service.queue.waiting.length
  droppedCount := service.telemetry.droppedCount
  deliverySuccessCount := service.telemetry.deliverySuccessCount
  deliveryFailureCount := service.telemetry.deliveryFailureCount
  lastTransportStatus := service.telemetry.lastTransportStatus
  lastHttpStatus := service.telemetry.lastHttpStatus
  lastElapsedMs := service.telemetry.lastElapsedMs
  lastDetail := service.telemetry.lastDetail

end HealthCheckFirmware.CallbackService
