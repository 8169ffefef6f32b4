import HealthCheckFirmware.Api.LogResponse
import HealthCheckFirmware.Callback.CallbackService
import HealthCheckFirmware.Lib.CScan

/-!
# The two forms of a report

A failed check is reported in the body of a `POST` request or in the target of a `GET`
request. A receiver reads the body as JSON (`Report.ofJson`) or splits the query of the
target into its parameters (`parameters`, `Report.ofParameters`).

For a valid configuration every event fits all buffers on its way, and either form tells the
receiver the same, the event (`callback_encoding`).
-/

set_option autoImplicit false

namespace HealthCheckFirmware.CallbackService

/-! ## The receiver -/

/-- What a receiver learns of an event. -/
structure Report where
  sequence : ℤ
  timestamp : ℤ
  resourceIndex : ℤ
  status : List UInt8
  stage : List UInt8
  httpStatus : ℤ
  elapsedMs : ℤ
  detail : ℤ
  deriving DecidableEq

/-- The report of an event. -/
def reportOf (event : Event) : Report where
  sequence := event.sequence.toNat
  timestamp := event.timestampUnix.toNat
  resourceIndex := event.resourceIndex.toNat
  status := ascii "fail"
  stage := transportStatusText event.status
  httpStatus := event.httpStatus.toNat
  elapsedMs := event.elapsedMs.toNat
  detail := event.detail.toInt

/-- A report from its fields, found by their names. -/
def Report.gather {Value : Type} (fields : List (List UInt8 × Value)) (number : Value → Option ℤ)
    (string : Value → Option (List UInt8)) : Option Report := do
  let sequence ← (fields.lookup (ascii "sequence")).bind number
  let timestamp ← (fields.lookup (ascii "timestamp")).bind number
  let resourceIndex ← (fields.lookup (ascii "resource_index")).bind number
  let status ← (fields.lookup (ascii "status")).bind string
  let stage ← (fields.lookup (ascii "stage")).bind string
  let httpStatus ← (fields.lookup (ascii "http_status")).bind number
  let elapsedMs ← (fields.lookup (ascii "elapsed_ms")).bind number
  let detail ← (fields.lookup (ascii "detail")).bind number
  return ⟨sequence, timestamp, resourceIndex, status, stage, httpStatus, elapsedMs, detail⟩

/-- The report in a JSON value. -/
def Report.ofJson : Json → Option Report
  | .object fields =>
      Report.gather fields (fun | .number value => some value | _ => none)
        (fun | .string value => some value | _ => none)
  | _ => none

/-- A parameter of a query: its name and what follows the equals sign. -/
def parameter (text : List UInt8) : List UInt8 × List UInt8 :=
  (text.takeWhile (· ≠ 0x3D), (text.dropWhile (· ≠ 0x3D)).tail)

/-- The parameters of a request target: its query begins behind the first question mark. -/
def parameters (target : List UInt8) : List (List UInt8 × List UInt8) :=
  match target.dropWhile (· ≠ 0x3F) with
  | [] => []
  | _ :: query => (query.splitOn 0x26).map parameter

/-- The number that is the whole of a text. -/
def numberOf (text : List UInt8) : Option ℤ :=
  match Json.parseNumber text with
  | some (value, []) => some value
  | _ => none

/-- The report in the parameters of a query. -/
def Report.ofParameters (fields : List (List UInt8 × List UInt8)) : Option Report :=
  Report.gather fields numberOf some

/-! ## The body -/

/-- The value of the body of a `POST` request. -/
def eventJson (event : Event) : Json :=
  .object [(ascii "sequence", .number event.sequence.toNat),
    (ascii "timestamp", .number event.timestampUnix.toNat),
    (ascii "resource_index", .number event.resourceIndex.toNat),
    (ascii "status", .string (ascii "fail")),
    (ascii "stage", .string (transportStatusText event.status)),
    (ascii "http_status", .number event.httpStatus.toNat),
    (ascii "elapsed_ms", .number event.elapsedMs.toNat),
    (ascii "detail", .number event.detail.toInt)]

theorem body_literals :
    ascii "\x7b\"sequence\":" = 0x7B :: ApiService.fieldHead "sequence" ∧
      ascii ",\"timestamp\":" = 0x2C :: ApiService.fieldHead "timestamp" ∧
      ascii ",\"resource_index\":" = 0x2C :: ApiService.fieldHead "resource_index" ∧
      ascii ",\"status\":\"fail\",\"stage\":\"" =
        0x2C :: (ApiService.fieldHead "status" ++ Json.quoted (ascii "fail")
          ++ 0x2C :: (ApiService.fieldHead "stage" ++ [0x22])) ∧
      ascii "\",\"http_status\":" = 0x22 :: 0x2C :: ApiService.fieldHead "http_status" ∧
      ascii ",\"elapsed_ms\":" = 0x2C :: ApiService.fieldHead "elapsed_ms" ∧
      ascii ",\"detail\":" = 0x2C :: ApiService.fieldHead "detail" ∧ ascii "\x7d" = [0x7D] :=
  ⟨rfl, rfl, rfl, rfl, rfl, rfl, rfl, rfl⟩

/-- The body is the text of its value. -/
theorem eventBody_eq (event : Event) : eventBody event = (eventJson event).text := by
  obtain ⟨sequence, timestamp, index, status, http, elapsed, detail, closing⟩ := body_literals
  rw [eventBody, sequence, timestamp, index, status, http, elapsed, detail, closing]
  simp only [eventJson, Json.text, Json.fieldsText, Json.fieldsTail, ApiService.fieldHead,
    Json.quoted, ApiService.signedText_natCast, transportStatusText,
    ApiService.escape_transportStatusText, List.append_assoc, List.cons_append, List.nil_append]

/-- The texts of the stages. -/
def stageTexts : List (List UInt8) :=
  [ascii "ok", ascii "dns_error", ascii "connect_error", ascii "config_error",
    ascii "certificate_error", ascii "handshake_error", ascii "io_error",
    ascii "protocol_error", ascii "unknown"]

theorem stage_mem (status : UInt8) : transportStatusText status ∈ stageTexts :=
  ApiService.transportStatusText_mem status

theorem plain_eventJson (event : Event) : (eventJson event).Plain := by
  have stage : Json.Printable (transportStatusText event.status) :=
    (by decide : ∀ text ∈ stageTexts, Json.Printable text) _ (stage_mem event.status)
  have names : ∀ name ∈ [ascii "sequence", ascii "timestamp", ascii "resource_index",
      ascii "status", ascii "fail", ascii "stage", ascii "http_status", ascii "elapsed_ms",
      ascii "detail"], Json.Printable name := by
    decide
  simp only [List.forall_mem_cons] at names
  obtain ⟨sequence, timestamp, index, status, fail, stageName, http, elapsed, detail, -⟩ := names
  exact ⟨sequence, trivial, timestamp, trivial, index, trivial, status, fail, stageName, stage,
    http, trivial, elapsed, trivial, detail, trivial, trivial⟩

/-- **The receiver of a body** learns the event. -/
theorem report_of_body (event : Event) :
    (Json.parse (eventBody event)).bind Report.ofJson = some (reportOf event) := by
  rw [eventBody_eq, Json.parse_text (plain_eventJson event)]
  rfl

/-! ## The query -/

/-- The parameters that are added to a target. -/
def eventParameters (event : Event) : List (List UInt8 × List UInt8) :=
  [(ascii "sequence", decimalText event.sequence.toNat),
    (ascii "timestamp", decimalText event.timestampUnix.toNat),
    (ascii "resource_index", decimalText event.resourceIndex.toNat),
    (ascii "status", ascii "fail"), (ascii "stage", transportStatusText event.status),
    (ascii "http_status", decimalText event.httpStatus.toNat),
    (ascii "elapsed_ms", decimalText event.elapsedMs.toNat),
    (ascii "detail", signedText event.detail.toInt)]

/-- The text of a parameter. -/
def parameterText (field : List UInt8 × List UInt8) : List UInt8 := field.1 ++ 0x3D :: field.2

theorem query_literals :
    ascii "sequence=" = ascii "sequence" ++ [0x3D] ∧
      ascii "&timestamp=" = 0x26 :: (ascii "timestamp" ++ [0x3D]) ∧
      ascii "&resource_index=" = 0x26 :: (ascii "resource_index" ++ [0x3D]) ∧
      ascii "&status=fail&stage=" = 0x26 :: (ascii "status" ++ 0x3D :: (ascii "fail"
        ++ 0x26 :: (ascii "stage" ++ [0x3D]))) ∧
      ascii "&http_status=" = 0x26 :: (ascii "http_status" ++ [0x3D]) ∧
      ascii "&elapsed_ms=" = 0x26 :: (ascii "elapsed_ms" ++ [0x3D]) ∧
      ascii "&detail=" = 0x26 :: (ascii "detail" ++ [0x3D]) :=
  ⟨rfl, rfl, rfl, rfl, rfl, rfl, rfl⟩

theorem eventQuery_eq (event : Event) :
    eventQuery event = [0x26].intercalate ((eventParameters event).map parameterText) := by
  obtain ⟨sequence, timestamp, index, status, http, elapsed, detail⟩ := query_literals
  rw [eventQuery, sequence, timestamp, index, status, http, elapsed, detail]
  simp [eventParameters, parameterText, List.intercalate, List.intersperse]

theorem numberOf_signedText (value : ℤ) : numberOf (signedText value) = some value := by
  have parsed := Json.parseNumber_signedText value Json.stops_nil
  rw [List.append_nil] at parsed
  rw [numberOf, parsed]

theorem numberOf_decimalText (value : ℕ) : numberOf (decimalText value) = some (value : ℤ) := by
  rw [← ApiService.signedText_natCast, numberOf_signedText]

/-- **The receiver of the parameters** learns the event. -/
theorem report_of_parameters (event : Event) :
    Report.ofParameters (eventParameters event) = some (reportOf event) := by
  change (do
    let sequence ← numberOf (decimalText event.sequence.toNat)
    let timestamp ← numberOf (decimalText event.timestampUnix.toNat)
    let resourceIndex ← numberOf (decimalText event.resourceIndex.toNat)
    let httpStatus ← numberOf (decimalText event.httpStatus.toNat)
    let elapsedMs ← numberOf (decimalText event.elapsedMs.toNat)
    let detail ← numberOf (signedText event.detail.toInt)
    return Report.mk sequence timestamp resourceIndex (ascii "fail")
      (transportStatusText event.status) httpStatus elapsedMs detail) = some (reportOf event)
  simp only [numberOf_decimalText, numberOf_signedText, Option.bind_eq_bind, Option.bind_some,
    Option.pure_def, reportOf]

/-- Digits are no separators. -/
theorem notMem_of_isDigit {text : List UInt8} (digits : ∀ byte ∈ text, isDigit byte = true)
    {separator : UInt8} (other : isDigit separator = false) : separator ∉ text := fun member => by
  have digit := digits separator member
  rw [other] at digit
  cases digit

theorem notMem_signedText {separator : UInt8} (other : isDigit separator = false)
    (sign : separator ≠ 0x2D) (value : ℤ) : separator ∉ signedText value := by
  have digits : separator ∉ decimalText value.natAbs :=
    notMem_of_isDigit (fun _ => isDigit_of_mem_decimalText) other
  rw [signedText]
  split
  · exact List.not_mem_cons_of_ne_of_not_mem sign digits
  · exact digits

/-- No parameter has an ampersand in it, nor an equals sign in its name. -/
theorem eventParameters_plain (event : Event) :
    ∀ field ∈ eventParameters event, 0x3D ∉ field.1 ∧ 0x26 ∉ parameterText field := by
  have number (value : ℕ) : (0x26 : UInt8) ∉ decimalText value :=
    notMem_of_isDigit (fun _ => isDigit_of_mem_decimalText) rfl
  have detail : (0x26 : UInt8) ∉ signedText event.detail.toInt :=
    notMem_signedText rfl (by decide) _
  have stage : (0x26 : UInt8) ∉ transportStatusText event.status :=
    (by decide : ∀ text ∈ stageTexts, (0x26 : UInt8) ∉ text) _ (stage_mem event.status)
  have plain {name value : List UInt8} (noEquals : 0x3D ∉ name) (noName : 0x26 ∉ name)
      (noValue : 0x26 ∉ value) : 0x3D ∉ name ∧ 0x26 ∉ parameterText (name, value) := by
    refine ⟨noEquals, fun member => ?_⟩
    rcases List.mem_append.mp member with inName | inRest
    · exact noName inName
    · rcases List.mem_cons.mp inRest with equals | inValue
      · exact absurd equals (by decide)
      · exact noValue inValue
  simp only [eventParameters, List.forall_mem_cons]
  exact ⟨plain (by decide) (by decide) (number _), plain (by decide) (by decide) (number _),
    plain (by decide) (by decide) (number _), plain (by decide) (by decide) (by decide),
    plain (by decide) (by decide) stage, plain (by decide) (by decide) (number _),
    plain (by decide) (by decide) (number _), plain (by decide) (by decide) detail,
    fun _ member => absurd member List.not_mem_nil⟩

theorem parameter_text {field : List UInt8 × List UInt8} (plain : 0x3D ∉ field.1) :
    parameter (parameterText field) = field := by
  have all : ∀ byte ∈ field.1, (fun byte : UInt8 => decide (byte ≠ 0x3D)) byte = true :=
    fun byte member => decide_eq_true fun equals => plain (equals ▸ member)
  have stops : Stops (fun byte : UInt8 => decide (byte ≠ 0x3D)) (0x3D :: field.2) :=
    stops_cons.mpr (by decide)
  rw [parameter, parameterText, takeWhile_run all stops, dropWhile_run all stops, List.tail_cons]

/-- The query of an event splits into its parameters. -/
theorem split_eventQuery (event : Event) :
    ((eventQuery event).splitOn 0x26).map parameter = eventParameters event := by
  have plain := eventParameters_plain event
  rw [eventQuery_eq, List.splitOn_intercalate, List.map_map]
  · exact (List.map_congr_left fun field member => parameter_text (plain field member).1).trans
      (List.map_id _)
  · intro text member
    obtain ⟨field, inside, rfl⟩ := List.mem_map.mp member
    exact (plain field inside).2
  · exact List.cons_ne_nil _ _

/-- **The parameters of a target** are those of its path and those of the event, whether or
not the path has a query. -/
theorem parameters_eventResource (path : List UInt8) (event : Event) :
    parameters (eventResource path event) = parameters path ++ eventParameters event := by
  have stops (rest : List UInt8) : Stops (fun byte : UInt8 => decide (byte ≠ 0x3F)) (0x3F :: rest) :=
    stops_cons.mpr (by decide)
  by_cases query : 0x3F ∈ path
  · obtain ⟨front, back, rfl, first⟩ := List.eq_append_cons_of_mem query
    have all : ∀ byte ∈ front, (fun byte : UInt8 => decide (byte ≠ 0x3F)) byte = true :=
      fun byte member => decide_eq_true fun mark => first (mark ▸ member)
    have target : eventResource (front ++ 0x3F :: back) event =
        front ++ 0x3F :: (back ++ 0x26 :: eventQuery event) := by
      rw [eventResource, separator, if_pos query]
      simp
    rw [target, parameters, parameters, dropWhile_run all (stops _), dropWhile_run all (stops _)]
    dsimp only
    rw [List.splitOn_append_cons_self, List.map_append, split_eventQuery]
  · have all : ∀ byte ∈ path, (fun byte : UInt8 => decide (byte ≠ 0x3F)) byte = true :=
      fun byte member => decide_eq_true fun mark => query (mark ▸ member)
    have target : eventResource path event = path ++ 0x3F :: eventQuery event := by
      rw [eventResource, separator, if_neg query]
      simp
    have none : path.dropWhile (fun byte : UInt8 => decide (byte ≠ 0x3F)) = [] :=
      List.dropWhile_eq_nil_iff.mpr all
    rw [target, parameters, parameters, dropWhile_run all (stops _), none]
    dsimp only
    rw [split_eventQuery, List.nil_append]

/-! ## Sizes -/

theorem length_stage_le (status : UInt8) : (transportStatusText status).length ≤ 17 :=
  (by decide : ∀ text ∈ stageTexts, text.length ≤ 17) _ (stage_mem status)

theorem length_eventBody_le (event : Event) :
    0 < (eventBody event).length ∧ (eventBody event).length ≤ 176 := by
  have sequence := ApiService.length_decimalText_uint32 event.sequence
  have timestamp := ApiService.length_decimalText_uint32 event.timestampUnix
  have index := ApiService.length_decimalText_uint8 event.resourceIndex
  have stage := length_stage_le event.status
  have http := ApiService.length_decimalText_uint16 event.httpStatus
  have elapsed := ApiService.length_decimalText_uint32 event.elapsedMs
  have detail := ApiService.length_signedText_int32 event.detail
  rw [eventBody]
  simp only [List.length_append]
  change 0 < 12 + _ + 13 + _ + 18 + _ + 26 + _ + 16 + _ + 14 + _ + 10 + _ + 1
    ∧ 12 + _ + 13 + _ + 18 + _ + 26 + _ + 16 + _ + 14 + _ + 10 + _ + 1 ≤ 176
  omega

/-- No query is longer than the one that a configuration is tested with. -/
theorem length_eventQuery_le (event : Event) :
    (eventQuery event).length ≤ CallbackConfig.longestQuery.length := by
  have sequence := ApiService.length_decimalText_uint32 event.sequence
  have timestamp := ApiService.length_decimalText_uint32 event.timestampUnix
  have index := ApiService.length_decimalText_uint8 event.resourceIndex
  have stage := length_stage_le event.status
  have http := ApiService.length_decimalText_uint16 event.httpStatus
  have elapsed := ApiService.length_decimalText_uint32 event.elapsedMs
  have detail := ApiService.length_signedText_int32 event.detail
  have longest : CallbackConfig.longestQuery.length = 154 := by
    simp [CallbackConfig.longestQuery, ascii]
  rw [longest, eventQuery]
  simp only [List.length_append]
  change 9 + _ + 11 + _ + 16 + _ + 19 + _ + 13 + _ + 12 + _ + 8 + _ ≤ 154
  omega

section Config

variable {config : CallbackConfig.Config}

theorem zero_mem_of_terminatedBy {allowed : UInt8 → Bool} {buffer : List UInt8}
    (terminated : CallbackConfig.terminatedBy allowed buffer = true) : 0 ∈ buffer := by
  induction buffer with
  | nil => cases terminated
  | cons character rest ih =>
      rw [CallbackConfig.terminatedBy] at terminated
      split at terminated
      · rename_i zero
        exact zero ▸ List.mem_cons_self
      · exact List.mem_cons_of_mem _ (ih (Bool.and_eq_true_iff.mp terminated).2)

/-- What a valid configuration guarantees of the texts in it. -/
theorem texts_of_valid (valid : CallbackConfig.configIsValid config = true) :
    config.port ≠ 0 ∧ bufferString config.host ≠ []
      ∧ (bufferString config.host).length < CallbackConfig.hostSize
      ∧ (bufferString config.path).head? = some 0x2F
      ∧ (bufferString config.path).length < CallbackConfig.pathSize
      ∧ (bufferString config.path).length + 1 + CallbackConfig.longestQuery.length < resourceSize := by
  simp only [CallbackConfig.configIsValid, CallbackConfig.hostValid, CallbackConfig.pathValid,
    Bool.and_eq_true, bne_iff_ne, beq_iff_eq, decide_eq_true_eq] at valid
  obtain ⟨⟨⟨⟨⟨-, port⟩, -⟩, -⟩, host, hostEnd⟩, path, pathEnd⟩ := valid.1
  exact ⟨port, host, length_bufferString_lt (zero_mem_of_terminatedBy hostEnd), path,
    length_bufferString_lt (zero_mem_of_terminatedBy pathEnd), valid.2⟩

/-- The header with the host fits its buffer. -/
theorem length_hostHeader {host : List UInt8} (some_ : host ≠ [])
    (short : host.length < CallbackConfig.hostSize) (port : UInt16) :
    0 < (TlsTransport.hostHeader host port).length
      ∧ (TlsTransport.hostHeader host port).length < TlsTransport.hostHeaderSize := by
  have digits := ApiService.length_decimalText_uint16 port
  have positive := List.length_pos_of_ne_nil some_
  have hostSize : CallbackConfig.hostSize = 64 := rfl
  have headerSize : TlsTransport.hostHeaderSize = 70 := rfl
  have colon : (ascii ":").length = 1 := rfl
  rw [TlsTransport.hostHeader]
  split
  · omega
  · simp only [List.length_append]
    omega

/-- A report in the body of a request is sent. -/
theorem post_text (valid : CallbackConfig.configIsValid config = true) (event : Event) :
    ∃ text, TlsTransport.requestText (ascii "POST") (bufferString config.host) config.port
      (bufferString config.path) (eventBody event) (some (ascii "application/json")) = some text := by
  obtain ⟨-, host, hostShort, -, pathShort, -⟩ := texts_of_valid valid
  obtain ⟨headerSome, headerShort⟩ := length_hostHeader host hostShort config.port
  obtain ⟨bodySome, bodyShort⟩ := length_eventBody_le event
  have digits : (decimalText (eventBody event).length).length ≤ 3 :=
    length_decimalText_le (by omega)
  have body : eventBody event ≠ [] := List.ne_nil_of_length_pos bodySome
  have noHost : ¬ ((TlsTransport.hostHeader (bufferString config.host) config.port).length = 0
      ∨ TlsTransport.hostHeaderSize ≤
        (TlsTransport.hostHeader (bufferString config.host) config.port).length) := by
    omega
  have headerSize : TlsTransport.hostHeaderSize = 70 := rfl
  have pathSize : CallbackConfig.pathSize = 80 := rfl
  rw [TlsTransport.requestText]
  dsimp only
  rw [if_neg noHost, if_pos body, if_pos rfl]
  refine ⟨_, Option.filter_eq_some_iff.mpr ⟨rfl, decide_eq_true ?_⟩⟩
  simp only [TlsTransport.requestHead, List.length_append]
  change 4 + 1 + _ + 17 + _ + 55 + 14 + 16 + 18 + _ + 4 + _ < 512
  omega

/-- A report in the target of a request is sent. -/
theorem get_text (valid : CallbackConfig.configIsValid config = true) (event : Event) :
    (eventResource (bufferString config.path) event).length < resourceSize
      ∧ ∃ text, TlsTransport.requestText (ascii "GET") (bufferString config.host) config.port
        (eventResource (bufferString config.path) event) [] none = some text := by
  obtain ⟨-, host, hostShort, -, -, fits⟩ := texts_of_valid valid
  obtain ⟨headerSome, headerShort⟩ := length_hostHeader host hostShort config.port
  have query := length_eventQuery_le event
  have resource : (eventResource (bufferString config.path) event).length < resourceSize := by
    rw [eventResource, List.length_append, List.length_append, List.length_singleton]
    omega
  have noHost : ¬ ((TlsTransport.hostHeader (bufferString config.host) config.port).length = 0
      ∨ TlsTransport.hostHeaderSize ≤
        (TlsTransport.hostHeader (bufferString config.host) config.port).length) := by
    omega
  have headerSize : TlsTransport.hostHeaderSize = 70 := rfl
  have size : resourceSize = 256 := rfl
  refine ⟨resource, ?_⟩
  rw [TlsTransport.requestText]
  dsimp only
  rw [if_neg noHost, if_neg (not_not.mpr rfl)]
  refine ⟨_, Option.filter_eq_some_iff.mpr ⟨rfl, decide_eq_true ?_⟩⟩
  simp only [TlsTransport.requestHead, List.length_append]
  change 3 + 1 + _ + 17 + _ + 55 + 2 < 512
  omega

end Config

/-- **Reports are complete and the same in both forms.** For every valid configuration and
every event, the task builds a request that the transport accepts and that fits all buffers.
In the `POST` form the target is the configured path and the body, read as JSON, gives the
report of the event. In the `GET` form the target has the parameters of the configured path
and behind them those that give the same report. -/
theorem callback_encoding {config : CallbackConfig.Config}
    (valid : CallbackConfig.configIsValid config = true) (event : Event) :
    ∃ arguments method resource body text, requestArguments config event = some arguments
      ∧ arguments.method = some method ∧ arguments.resource = some resource
      ∧ arguments.body = some body ∧ arguments.text = some text
      ∧ TlsTransport.Arguments.acceptable method resource arguments.port = true
      ∧ (config.method = CallbackConfig.methodPost →
        method = ascii "POST" ∧ resource = bufferString config.path
          ∧ (Json.parse body).bind Report.ofJson = some (reportOf event))
      ∧ (config.method ≠ CallbackConfig.methodPost →
        method = ascii "GET" ∧ body = []
          ∧ ∃ added, parameters resource = parameters (bufferString config.path) ++ added
            ∧ Report.ofParameters added = some (reportOf event)) := by
  obtain ⟨port, -, -, path, pathShort, -⟩ := texts_of_valid valid
  by_cases post : config.method = CallbackConfig.methodPost
  · obtain ⟨text, sent⟩ := post_text valid event
    obtain ⟨bodySome, bodyShort⟩ := length_eventBody_le event
    have whole : (bufferString config.path).take (resourceSize - 1) = bufferString config.path :=
      List.take_of_length_le (Nat.le_of_lt (Nat.lt_of_lt_of_le pathShort (by decide)))
    have fits : ¬ ((eventBody event).length = 0 ∨ bodySize ≤ (eventBody event).length) := by
      have size : bodySize = 192 := rfl
      omega
    rw [requestArguments, if_pos post, if_neg fits, whole]
    refine ⟨_, _, _, _, text, rfl, rfl, rfl, rfl, sent, ?_,
      fun _ => ⟨rfl, rfl, report_of_body event⟩, fun get => absurd post get⟩
    simp only [TlsTransport.Arguments.acceptable, path, bne_iff_ne.mpr port, Bool.true_and,
      beq_self_eq_true, Bool.or_true]
  · obtain ⟨short, text, sent⟩ := get_text valid event
    have begins : (eventResource (bufferString config.path) event).head? = some 0x2F := by
      rw [eventResource, List.append_assoc, List.head?_append, path]
      rfl
    have fits : ¬ ((eventResource (bufferString config.path) event).length = 0
        ∨ resourceSize ≤ (eventResource (bufferString config.path) event).length) := by
      rintro (empty | long)
      · rw [List.length_eq_zero_iff.mp empty] at begins
        cases begins
      · omega
    rw [requestArguments, if_neg post, if_neg fits]
    refine ⟨_, _, _, _, text, rfl, rfl, rfl, rfl, sent, ?_, fun isPost => absurd isPost post, fun _ =>
      ⟨rfl, rfl, eventParameters event, parameters_eventResource _ event,
        report_of_parameters event⟩⟩
    simp only [TlsTransport.Arguments.acceptable, begins, bne_iff_ne.mpr port, Bool.true_and,
      beq_self_eq_true, Bool.or_true, Bool.true_or]

/-- A callback by `GET` to a path that has a parameter of its own. -/
def queryConfig : CallbackConfig.Config :=
  { CallbackConfig.defaultConfig with
    enabled := 1
    method := CallbackConfig.methodGet
    path := fillBuffer CallbackConfig.pathSize (ascii "/report?site=7") }

/-- The entry of a check whose request could not be written. -/
def failedEntry : Event := ⟨12, 1700000000, 250, -26, 1800000000, 1157, 0, 3, 6, 2, 0⟩

/-- The report of a failed check as parameters behind the configured one. -/
theorem callback_encoding_query :
    ∃ arguments resource added, requestArguments queryConfig failedEntry = some arguments
      ∧ arguments.method = some (ascii "GET") ∧ arguments.resource = some resource
      ∧ parameters resource = (ascii "site", ascii "7") :: added
      ∧ Report.ofParameters added = some (reportOf failedEntry) := by
  have valid : CallbackConfig.configIsValid queryConfig = true := by decide +kernel
  have own : parameters (bufferString queryConfig.path) = [(ascii "site", ascii "7")] := by decide
  obtain ⟨arguments, method, resource, body, text, built, isMethod, isResource, -, -, -, -, get⟩ :=
    callback_encoding valid failedEntry
  obtain ⟨rfl, -, added, extended, report⟩ := get (by decide)
  exact ⟨arguments, resource, added, built, isMethod, isResource, by rw [extended, own]; rfl, report⟩

end HealthCheckFirmware.CallbackService
