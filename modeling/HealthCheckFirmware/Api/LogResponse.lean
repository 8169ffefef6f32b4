import HealthCheckFirmware.Api.Response
import HealthCheckFirmware.Lib.Calendar
import HealthCheckFirmware.Lib.Json

/-!
# The response with the log

`apiService_RespondLogs` prints every entry twice: once to find the length of the body, which
it announces in the header, and once more to write it. `sendLogs` is this function on the
writes that it makes.

Each entry is the text of a JSON value (`formatLogEntry_eq`), and with the widest numbers
that its fields can hold it still fits the buffer it is printed in (`length_entryText_le`).
So the function does not fail, the length announced is that of the body, and the body
decodes to the entries (`logs_framed`).
-/

set_option autoImplicit false

namespace HealthCheckFirmware.ApiService

open HealthCheckLog (Entry)

/-! ## The function on its writes -/

def logsOpening : List UInt8 := ascii "\x7b\"logs\":["
def logsClosing : List UInt8 := ascii "]\x7d"

/-- The header, which announces the length of the body. -/
def logsHeader (bodyLength : UInt32) : List UInt8 :=
  ascii "HTTP/1.1 200 OK\r\nContent-Type: application/json\r\nContent-Length: "
    ++ decimalText bodyLength.toNat
    ++ ascii "\r\nConnection: close\r\nCache-Control: no-store\r\n\r\n"

/-- The first loop: the length of the body, unless an entry cannot be printed. -/
def measureLogs (gmtime : UInt32 → Option Civil) : List (Entry × ℕ) → UInt32 → Option UInt32
  | [], bodyLength => some bodyLength
  | (entry, position) :: rest, bodyLength =>
      match formatLogEntry gmtime entry position with
      | none => none
      | some fragment => measureLogs gmtime rest (bodyLength + UInt32.ofNat fragment.length)

/-- The writes of a function, and whether it has come to its end. -/
structure Sending where
  writes : List (List UInt8)
  complete : Bool

/-- The second loop and the write after it. -/
def writeLogs (gmtime : UInt32 → Option Civil) : List (Entry × ℕ) → Sending
  | [] => ⟨[logsClosing], true⟩
  | (entry, position) :: rest =>
      match formatLogEntry gmtime entry position with
      | none => ⟨[], false⟩
      | some fragment =>
          let sending := writeLogs gmtime rest
          { sending with writes := fragment :: sending.writes }

/-- `apiService_RespondLogs`, if all writes succeed. -/
def sendLogs (gmtime : UInt32 → Option Civil) (entries : List Entry) : Sending :=
  match measureLogs gmtime entries.zipIdx
      (UInt32.ofNat logsOpening.length + UInt32.ofNat logsClosing.length) with
  | none => ⟨[], false⟩
  | some bodyLength =>
      if (logsHeader bodyLength).length < 192 then
        let sending := writeLogs gmtime entries.zipIdx
        { sending with writes := logsHeader bodyLength :: logsOpening :: sending.writes }
      else ⟨[], false⟩

/-! ## The value of an entry -/

/-- The date of a time in UTC. -/
def Civil.date (civil : Civil) : Date := ⟨civil.year, civil.month, civil.day⟩

/-- The fields are those of a number of seconds since the first of January 1970. -/
structure Civil.Denotes (civil : Civil) (time : UInt32) : Prop where
  date : civil.date.Valid ∧ DayNumber civil.date (time.toNat / 86400 : ℕ)
  minute : civil.minute < 60
  second : civil.second < 60
  clock : civil.hour * 3600 + civil.minute * 60 + civil.second = time.toNat % 86400

/-- What the standard says of `gmtime_r`, for the times of a 32-bit counter. -/
def StandardGmtime (gmtime : UInt32 → Option Civil) : Prop :=
  ∀ time, ∃ civil, gmtime time = some civil ∧ civil.Denotes time

/-- The date of expiry as it is shown. -/
def expiringDate (gmtime : UInt32 → Option Civil) (entry : Entry) : Json :=
  if entry.certificateExpiresAt = 0 then .null
  else
    match gmtime entry.certificateExpiresAt with
    | none => .null
    | some expiry => .string expiry.text

/-- The days left as they are shown. -/
def shownDaysLeft (entry : Entry) : Json :=
  if entry.certificateExpiresAt = 0 then .null else .number entry.certificateDaysLeft.toInt

/-- What an entry says of the certificate. -/
def certificateJson (gmtime : UInt32 → Option Civil) (entry : Entry) : List (List UInt8 × Json) :=
  [(ascii "expiring_date", expiringDate gmtime entry), (ascii "days_left", shownDaysLeft entry),
    (ascii "anchor_id", .number entry.certificateAnchorId.toNat),
    (ascii "expiring", .bool (entry.certificateExpiresAt != 0 && entry.certificateExpiring != 0))]

/-- The value that an entry is shown as. -/
def entryJson (gmtime : UInt32 → Option Civil) (entry : Entry) : Json :=
  .object [(ascii "sequence", .number entry.sequence.toNat),
    (ascii "timestamp", .number entry.timestampUnix.toNat),
    (ascii "resource_index", .number entry.resourceIndex.toNat),
    (ascii "status", .string (transportStatusText entry.status)),
    (ascii "http_status", .number entry.httpStatus.toNat),
    (ascii "elapsed_ms", .number entry.elapsedMs.toNat),
    (ascii "detail", .number entry.detail.toInt),
    (ascii "certificate", .object (certificateJson gmtime entry))]

/-! ## The texts of the fields -/

/-- The name of a field and what follows it. -/
def fieldHead (name : String) : List UInt8 := Json.quoted (ascii name) ++ [0x3A]

theorem signedText_natCast (value : ℕ) : signedText value = decimalText value := by
  rw [signedText, if_neg (by omega), Int.natAbs_natCast]

/-- A string without quotes and backslashes is written as it is. -/
theorem escape_eq_self {value : List UInt8} (plain : ∀ byte ∈ value, ¬ (byte = 0x22 ∨ byte = 0x5C)) :
    escape value = value := by
  induction value with
  | nil => rfl
  | cons byte rest ih =>
      rw [escape_cons, escapeByte, if_neg (plain byte List.mem_cons_self),
        ih fun other isMember => plain other (.tail _ isMember)]
      rfl

theorem transportStatusText_mem (status : UInt8) : transportStatusText status ∈
    [ascii "ok", ascii "dns_error", ascii "connect_error", ascii "config_error",
      ascii "certificate_error", ascii "handshake_error", ascii "io_error",
      ascii "protocol_error", ascii "unknown"] := by
  unfold transportStatusText
  repeat' split
  all_goals simp

/-- The text of a status needs no escapes. -/
theorem escape_transportStatusText (status : UInt8) :
    escape (transportStatusText status) = transportStatusText status := by
  have known := transportStatusText_mem status
  generalize transportStatusText status = text at known
  simp only [List.mem_cons, List.not_mem_nil, or_false] at known
  rcases known with rfl | rfl | rfl | rfl | rfl | rfl | rfl | rfl | rfl <;> rfl

/-- The names of the fields of an entry. -/
theorem entry_literals :
    ascii "\x7b\"sequence\":" = 0x7B :: fieldHead "sequence" ∧
      ascii ",\"timestamp\":" = 0x2C :: fieldHead "timestamp" ∧
      ascii ",\"resource_index\":" = 0x2C :: fieldHead "resource_index" ∧
      ascii ",\"status\":\"" = 0x2C :: (fieldHead "status" ++ [0x22]) ∧
      ascii "\",\"http_status\":" = 0x22 :: 0x2C :: fieldHead "http_status" ∧
      ascii ",\"elapsed_ms\":" = 0x2C :: fieldHead "elapsed_ms" ∧
      ascii ",\"detail\":" = 0x2C :: fieldHead "detail" ∧
      ascii ",\"certificate\":\x7b" = 0x2C :: (fieldHead "certificate" ++ [0x7B]) ∧
      ascii "\x7d\x7d" = [0x7D, 0x7D] :=
  ⟨rfl, rfl, rfl, rfl, rfl, rfl, rfl, rfl, rfl⟩

/-- The text that the second print of an entry is made of, given that of the first. -/
def entryText (entry : Entry) (expiry : List UInt8) : List UInt8 :=
  ascii "\x7b\"sequence\":" ++ decimalText entry.sequence.toNat
    ++ ascii ",\"timestamp\":" ++ decimalText entry.timestampUnix.toNat
    ++ ascii ",\"resource_index\":" ++ decimalText entry.resourceIndex.toNat
    ++ ascii ",\"status\":\"" ++ transportStatusText entry.status
    ++ ascii "\",\"http_status\":" ++ decimalText entry.httpStatus.toNat
    ++ ascii ",\"elapsed_ms\":" ++ decimalText entry.elapsedMs.toNat
    ++ ascii ",\"detail\":" ++ signedText entry.detail.toInt
    ++ ascii ",\"certificate\":\x7b" ++ expiry ++ ascii "\x7d\x7d"

/-- The text of an entry is that of its value. -/
theorem entryText_eq (gmtime : UInt32 → Option Civil) (entry : Entry) :
    entryText entry (Json.fieldsText (certificateJson gmtime entry)) =
      (entryJson gmtime entry).text := by
  obtain ⟨sequence, timestamp, index, status, http, elapsed, detail, certificate, closing⟩ :=
    entry_literals
  rw [entryText, sequence, timestamp, index, status, http, elapsed, detail, certificate, closing]
  simp only [entryJson, Json.text, Json.fieldsText, Json.fieldsTail, fieldHead, Json.quoted,
    signedText_natCast, escape_transportStatusText, List.append_assoc, List.cons_append,
    List.nil_append]

/-! ## Dates -/

/-- A time of a 32-bit counter is in a year of four digits. -/
theorem Civil.Denotes.year_lt {civil : Civil} {time : UInt32} (denotes : civil.Denotes time) :
    civil.year < 10 ^ 4 := by
  have number := denotes.date.2.number_eq
  obtain ⟨low, -⟩ := denotes.date.1.number_bounds
  have small := time.toNat_lt
  refine Nat.lt_of_not_le fun large => ?_
  have order : daysBeforeYear 10000 ≤ daysBeforeYear civil.date.year :=
    daysBeforeYear_mono (by simp only [Civil.date]; omega)
  have start : daysBeforeYear 10000 = 3652059 := by decide
  omega

theorem Civil.Denotes.bounds {civil : Civil} {time : UInt32} (denotes : civil.Denotes time) :
    civil.year < 10 ^ 4 ∧ civil.month < 10 ^ 2 ∧ civil.day < 10 ^ 2 ∧ civil.hour < 10 ^ 2 ∧
      civil.minute < 10 ^ 2 ∧ civil.second < 10 ^ 2 := by
  obtain ⟨⟨⟨-, month⟩, -, day⟩, -⟩ := denotes.date
  have clock := denotes.clock
  have minute := denotes.minute
  have second := denotes.second
  have length : daysInMonth civil.date.year civil.date.month ≤ 31 := by
    unfold daysInMonth
    split
    · split <;> decide
    · split <;> decide
  simp only [Civil.date] at month day length
  refine ⟨denotes.year_lt, ?_, ?_, ?_, ?_, ?_⟩ <;> omega

theorem Civil.Denotes.length_text {civil : Civil} {time : UInt32} (denotes : civil.Denotes time) :
    civil.text.length = 20 := by
  obtain ⟨year, month, day, hour, minute, second⟩ := denotes.bounds
  simp only [Civil.text, List.length_append, length_paddedText year, length_paddedText month,
    length_paddedText day, length_paddedText hour, length_paddedText minute,
    length_paddedText second]
  rfl

/-- The characters of a date are digits, separators and letters. -/
theorem Civil.mem_text {civil : Civil} {byte : UInt8} (isMember : byte ∈ civil.text) :
    isDigit byte = true ∨ byte ∈ ascii "-T:Z" := by
  have literal {text : List UInt8} (inText : byte ∈ text) (known : text ⊆ ascii "-T:Z") :
      isDigit byte = true ∨ byte ∈ ascii "-T:Z" := .inr (known inText)
  simp only [Civil.text, List.mem_append] at isMember
  rcases isMember with (((((((((((year | dash) | month) | dash) | day) | letter) | hour) | colon) |
    minute) | colon) | second) | letter)
  · exact .inl (isDigit_of_mem_paddedText year)
  · exact literal dash (by decide)
  · exact .inl (isDigit_of_mem_paddedText month)
  · exact literal dash (by decide)
  · exact .inl (isDigit_of_mem_paddedText day)
  · exact literal letter (by decide)
  · exact .inl (isDigit_of_mem_paddedText hour)
  · exact literal colon (by decide)
  · exact .inl (isDigit_of_mem_paddedText minute)
  · exact literal colon (by decide)
  · exact .inl (isDigit_of_mem_paddedText second)
  · exact literal letter (by decide)

/-- A date needs no escapes and has no control characters. -/
theorem Civil.text_plain (civil : Civil) {byte : UInt8} (isMember : byte ∈ civil.text) :
    ¬ (byte = 0x22 ∨ byte = 0x5C) ∧ ¬ byte < 0x20 := by
  rcases Civil.mem_text isMember with digit | letter
  · simp only [isDigit, Bool.and_eq_true, decide_eq_true_eq, UInt8.le_iff_toNat_le] at digit
    obtain ⟨low, high⟩ := digit
    change 48 ≤ byte.toNat at low
    change byte.toNat ≤ 57 at high
    rw [UInt8.lt_iff_toNat_lt]
    refine ⟨?_, by change ¬ byte.toNat < 32; omega⟩
    rintro (rfl | rfl)
    · exact absurd low (by decide)
    · exact absurd high (by decide)
  · have all : ∀ byte ∈ ascii "-T:Z",
        decide (¬ (byte = 0x22 ∨ byte = 0x5C) ∧ ¬ byte < 0x20) = true :=
      List.all_eq_true.mp (by decide)
    exact of_decide_eq_true (all byte letter)

/-! ## What is printed of the certificate -/

theorem expiry_literals :
    ascii "\"expiring_date\":null,\"days_left\":null,\"anchor_id\":" =
        fieldHead "expiring_date" ++ ascii "null" ++ 0x2C :: (fieldHead "days_left"
          ++ ascii "null" ++ 0x2C :: fieldHead "anchor_id") ∧
      ascii ",\"expiring\":false" = 0x2C :: (fieldHead "expiring" ++ ascii "false") ∧
      ascii "\"expiring_date\":\"" = fieldHead "expiring_date" ++ [0x22] ∧
      ascii "\",\"days_left\":" = 0x22 :: 0x2C :: fieldHead "days_left" ∧
      ascii ",\"anchor_id\":" = 0x2C :: fieldHead "anchor_id" ∧
      ascii ",\"expiring\":" = 0x2C :: fieldHead "expiring" :=
  ⟨rfl, rfl, rfl, rfl, rfl, rfl⟩

/-- The numbers of an entry are at most so long. -/
theorem length_decimalText_uint8 (value : UInt8) : (decimalText value.toNat).length ≤ 3 :=
  length_decimalText_le (Nat.lt_of_lt_of_le value.toNat_lt (by decide))

theorem length_decimalText_uint16 (value : UInt16) : (decimalText value.toNat).length ≤ 5 :=
  length_decimalText_le (Nat.lt_of_lt_of_le value.toNat_lt (by decide))

theorem length_decimalText_uint32 (value : UInt32) : (decimalText value.toNat).length ≤ 10 :=
  length_decimalText_le (Nat.lt_of_lt_of_le value.toNat_lt (by decide))

theorem length_signedText_int32 (value : Int32) : (signedText value.toInt).length ≤ 11 := by
  refine length_signedText_le ?_
  have low := value.le_toInt
  have high := value.toInt_lt
  omega

/-- What is printed of the certificate is the text of its fields, and it fits its buffer. -/
theorem expiryFields_eq {gmtime : UInt32 → Option Civil} (standard : StandardGmtime gmtime)
    (entry : Entry) :
    expiryFields gmtime entry = some (Json.fieldsText (certificateJson gmtime entry)) ∧
      (Json.fieldsText (certificateJson gmtime entry)).length ≤ 108 := by
  obtain ⟨nulls, noExpiring, date, days, anchor, expiring⟩ := expiry_literals
  have anchorLength := length_decimalText_uint8 entry.certificateAnchorId
  have daysLength := length_signedText_int32 entry.certificateDaysLeft
  by_cases zero : entry.certificateExpiresAt = 0
  · have text : Json.fieldsText (certificateJson gmtime entry) =
        ascii "\"expiring_date\":null,\"days_left\":null,\"anchor_id\":"
          ++ decimalText entry.certificateAnchorId.toNat ++ ascii ",\"expiring\":false" := by
      rw [nulls, noExpiring]
      simp [certificateJson, expiringDate, shownDaysLeft, zero, Json.text, Json.fieldsText,
        Json.fieldsTail, fieldHead, Json.quoted, signedText_natCast]
    have length : (Json.fieldsText (certificateJson gmtime entry)).length ≤ 108 := by
      rw [text, List.length_append, List.length_append]
      change 50 + _ + 17 ≤ 108
      omega
    refine ⟨?_, length⟩
    rw [expiryFields, if_pos zero, ← text, snprintf_of_lt (Nat.lt_of_le_of_lt length (by decide))]
  · obtain ⟨civil, found, denotes⟩ := standard entry.certificateExpiresAt
    have plain : escape civil.text = civil.text :=
      escape_eq_self fun byte isMember => (civil.text_plain isMember).1
    have text : Json.fieldsText (certificateJson gmtime entry) =
        ascii "\"expiring_date\":\"" ++ civil.text ++ ascii "\",\"days_left\":"
          ++ signedText entry.certificateDaysLeft.toInt ++ ascii ",\"anchor_id\":"
          ++ decimalText entry.certificateAnchorId.toNat ++ ascii ",\"expiring\":"
          ++ booleanText (entry.certificateExpiring != 0) := by
      rw [date, days, anchor, expiring]
      simp [certificateJson, expiringDate, shownDaysLeft, zero, found, plain, Json.text,
        Json.fieldsText, Json.fieldsTail, fieldHead, Json.quoted, signedText_natCast, booleanText]
    have length : (Json.fieldsText (certificateJson gmtime entry)).length ≤ 108 := by
      have flag : (booleanText (entry.certificateExpiring != 0)).length ≤ 5 := by
        rw [booleanText]
        split <;> decide
      rw [text]
      simp only [List.length_append, denotes.length_text]
      change 17 + 20 + 14 + _ + 13 + _ + 12 + _ ≤ 108
      omega
    refine ⟨?_, length⟩
    rw [expiryFields, if_neg zero, found, Option.map_some, ← text,
      snprintf_of_lt (Nat.lt_of_le_of_lt length (by decide))]

/-! ## Entries -/

/-- The widest entry. -/
theorem length_entryJson_le {gmtime : UInt32 → Option Civil} (standard : StandardGmtime gmtime)
    (entry : Entry) : (entryJson gmtime entry).text.length ≤ 300 := by
  have expiry := (expiryFields_eq standard entry).2
  have sequence := length_decimalText_uint32 entry.sequence
  have timestamp := length_decimalText_uint32 entry.timestampUnix
  have index := length_decimalText_uint8 entry.resourceIndex
  have http := length_decimalText_uint16 entry.httpStatus
  have elapsed := length_decimalText_uint32 entry.elapsedMs
  have detail := length_signedText_int32 entry.detail
  have status : (transportStatusText entry.status).length ≤ 17 := by
    have known := transportStatusText_mem entry.status
    have all : ∀ text ∈ [ascii "ok", ascii "dns_error", ascii "connect_error",
        ascii "config_error", ascii "certificate_error", ascii "handshake_error",
        ascii "io_error", ascii "protocol_error", ascii "unknown"], text.length ≤ 17 := by decide
    exact all _ known
  rw [← entryText_eq, entryText]
  simp only [List.length_append]
  change 12 + _ + 13 + _ + 18 + _ + 11 + _ + 16 + _ + 14 + _ + 10 + _ + 16 + _ + 2 ≤ 300
  omega

/-- **An entry is printed as the text of its value**, behind a comma unless it is the first. -/
theorem formatLogEntry_eq {gmtime : UInt32 → Option Civil} (standard : StandardGmtime gmtime)
    (entry : Entry) (position : ℕ) :
    formatLogEntry gmtime entry position =
      some (separator position ++ (entryJson gmtime entry).text) := by
  have expiry := (expiryFields_eq standard entry).1
  have length := length_entryJson_le standard entry
  have comma : (separator position).length ≤ 1 := by
    rw [separator]
    split <;> decide
  have fits : (separator position ++ (entryJson gmtime entry).text).length < 384 := by
    rw [List.length_append]
    omega
  have printed : separator position ++ (entryJson gmtime entry).text ≠ [] := by
    intro empty
    rw [← entryText_eq] at empty
    cases (List.append_eq_nil_iff.mp empty).2
  rw [formatLogEntry, expiry, Option.bind_some]
  have text : separator position ++ (entryJson gmtime entry).text =
      separator position ++ entryText entry (Json.fieldsText (certificateJson gmtime entry)) := by
    rw [entryText_eq]
  simp only [entryText, ← List.append_assoc] at text
  rw [← text, printBehind, if_neg (by
    rintro (empty | full)
    · exact printed empty
    · exact absurd fits (Nat.not_lt.mpr full)), List.nil_append]

/-! ## The two loops -/

section Loops

variable {gmtime : UInt32 → Option Civil} (standard : StandardGmtime gmtime)

/-- The texts that the loops print. -/
def fragments (gmtime : UInt32 → Option Civil) (items : List (Entry × ℕ)) : List (List UInt8) :=
  items.map fun item => separator item.2 ++ (entryJson gmtime item.1).text

theorem fragments_cons (entry : Entry) (position : ℕ) (rest : List (Entry × ℕ)) :
    fragments gmtime ((entry, position) :: rest) =
      (separator position ++ (entryJson gmtime entry).text) :: fragments gmtime rest := rfl

include standard in
theorem measureLogs_eq (items : List (Entry × ℕ)) (start : UInt32) :
    measureLogs gmtime items start =
      some (start + UInt32.ofNat (fragments gmtime items).flatten.length) := by
  induction items generalizing start with
  | nil => simp [measureLogs, fragments]
  | cons item rest ih =>
      obtain ⟨entry, position⟩ := item
      rw [measureLogs, formatLogEntry_eq standard]
      simp only [ih, fragments_cons, List.flatten_cons, List.length_append, UInt32.ofNat_add,
        UInt32.add_assoc]

include standard in
theorem writeLogs_eq (items : List (Entry × ℕ)) :
    writeLogs gmtime items = ⟨fragments gmtime items ++ [logsClosing], true⟩ := by
  induction items with
  | nil => rfl
  | cons item rest ih =>
      obtain ⟨entry, position⟩ := item
      rw [writeLogs, formatLogEntry_eq standard, ih]
      rfl

/-- The entries behind one another are the items of an array. -/
theorem flatten_fragments_tail (entries : List Entry) (position : ℕ) :
    (fragments gmtime (entries.zipIdx (position + 1))).flatten =
      Json.itemsTail (entries.map (entryJson gmtime)) := by
  induction entries generalizing position with
  | nil => rfl
  | cons entry rest ih =>
      rw [List.zipIdx_cons, fragments_cons, List.flatten_cons, List.map_cons, Json.itemsTail,
        ← ih (position + 1)]
      rfl

theorem flatten_fragments (entries : List Entry) :
    (fragments gmtime entries.zipIdx).flatten =
      Json.itemsText (entries.map (entryJson gmtime)) := by
  cases entries with
  | nil => rfl
  | cons entry rest =>
      rw [List.zipIdx_cons, fragments_cons, List.flatten_cons, List.map_cons, Json.itemsText,
        ← flatten_fragments_tail rest 0]
      rfl

include standard in
theorem length_fragments_le (items : List (Entry × ℕ)) :
    (fragments gmtime items).flatten.length ≤ items.length * 301 := by
  induction items with
  | nil => exact Nat.zero_le _
  | cons item rest ih =>
      obtain ⟨entry, position⟩ := item
      have length := length_entryJson_le standard entry
      have comma : (separator position).length ≤ 1 := by
        rw [separator]
        split <;> decide
      rw [fragments_cons, List.flatten_cons, List.length_append, List.length_append,
        List.length_cons]
      omega

end Loops

/-! ## The response -/

/-- The value of the body. -/
def logsJson (gmtime : UInt32 → Option Civil) (entries : List Entry) : Json :=
  .object [(ascii "logs", .array (entries.map (entryJson gmtime)))]

/-- The size of an entry in memory, and that of all memories of the device together. -/
def entrySize : ℕ := 32
def memorySize : ℕ := (480 + 32 + 2048) * 1024

/-- The body is the text of its value. -/
theorem body_eq (gmtime : UInt32 → Option Civil) (entries : List Entry) :
    logsOpening ++ (fragments gmtime entries.zipIdx).flatten ++ logsClosing =
      (logsJson gmtime entries).text := by
  have opening : logsOpening = 0x7B :: (fieldHead "logs" ++ [0x5B]) := rfl
  have closing : logsClosing = [0x5D, 0x7D] := rfl
  rw [flatten_fragments, opening, closing]
  simp [logsJson, Json.text, Json.fieldsText, Json.fieldsTail, fieldHead]

theorem plain_entryJson (gmtime : UInt32 → Option Civil) (entry : Entry) :
    (entryJson gmtime entry).Plain := by
  have status : Json.Printable (transportStatusText entry.status) := by
    have all : ∀ text ∈ [ascii "ok", ascii "dns_error", ascii "connect_error",
        ascii "config_error", ascii "certificate_error", ascii "handshake_error",
        ascii "io_error", ascii "protocol_error", ascii "unknown"], Json.Printable text := by
      decide
    exact all _ (transportStatusText_mem entry.status)
  have date : (expiringDate gmtime entry).Plain := by
    rw [expiringDate]
    split
    · trivial
    · split
      · trivial
      next expiry _ => exact fun byte isMember => (expiry.text_plain isMember).2
  have days : (shownDaysLeft entry).Plain := by
    rw [shownDaysLeft]
    split <;> trivial
  have names : ∀ name ∈ [ascii "sequence", ascii "timestamp", ascii "resource_index",
      ascii "status", ascii "http_status", ascii "elapsed_ms", ascii "detail", ascii "certificate",
      ascii "expiring_date", ascii "days_left", ascii "anchor_id", ascii "expiring"],
      Json.Printable name := by
    decide
  simp only [List.forall_mem_cons] at names
  obtain ⟨sequence, timestamp, index, statusName, http, elapsed, detail, certificate, dateName,
    daysName, anchor, expiring, -⟩ := names
  exact ⟨sequence, trivial, timestamp, trivial, index, trivial, statusName, status, http, trivial,
    elapsed, trivial, detail, trivial, certificate,
    ⟨dateName, date, daysName, days, anchor, trivial, expiring, trivial, trivial⟩, trivial⟩

theorem plain_logsJson (gmtime : UInt32 → Option Civil) (entries : List Entry) :
    (logsJson gmtime entries).Plain := by
  refine ⟨by decide, ?_, trivial⟩
  change Json.PlainItems (entries.map (entryJson gmtime))
  induction entries with
  | nil => trivial
  | cons entry rest ih => exact ⟨plain_entryJson gmtime entry, ih⟩

/-- A date and a number of days are shown for the entries that have them. -/
theorem expiry_null_iff {gmtime : UInt32 → Option Civil} (standard : StandardGmtime gmtime)
    (entry : Entry) :
    (expiringDate gmtime entry = .null ↔ entry.certificateExpiresAt = 0) ∧
      (shownDaysLeft entry = .null ↔ entry.certificateExpiresAt = 0) := by
  obtain ⟨civil, found, -⟩ := standard entry.certificateExpiresAt
  rw [expiringDate, shownDaysLeft]
  by_cases zero : entry.certificateExpiresAt = 0
  · simp [zero]
  · simp [zero, found]

section Framing

variable {gmtime : UInt32 → Option Civil} (standard : StandardGmtime gmtime)
  {entries : List Entry} (inMemory : entries.length * entrySize ≤ memorySize)

include standard inMemory in
/-- The length of the body does not wrap round. -/
theorem length_body_lt : (logsJson gmtime entries).text.length < 2 ^ 32 := by
  have length := length_fragments_le standard entries.zipIdx
  rw [List.length_zipIdx] at length
  rw [← body_eq, List.length_append, List.length_append]
  have opening : logsOpening.length = 9 := rfl
  have closing : logsClosing.length = 2 := rfl
  simp only [entrySize, memorySize] at inMemory
  omega

theorem length_logsHeader_lt (bodyLength : UInt32) : (logsHeader bodyLength).length < 192 := by
  have digits := length_decimalText_uint32 bodyLength
  rw [logsHeader, List.length_append, List.length_append]
  change 65 + _ + 48 < 192
  omega

include standard in
/-- All that is sent. -/
theorem sendLogs_eq : sendLogs gmtime entries =
    ⟨logsHeader (UInt32.ofNat (logsJson gmtime entries).text.length) :: logsOpening ::
      (fragments gmtime entries.zipIdx ++ [logsClosing]), true⟩ := by
  have measured : UInt32.ofNat logsOpening.length + UInt32.ofNat logsClosing.length +
      UInt32.ofNat (fragments gmtime entries.zipIdx).flatten.length =
        UInt32.ofNat (logsJson gmtime entries).text.length := by
    rw [← body_eq, List.length_append, List.length_append, UInt32.ofNat_add, UInt32.ofNat_add,
      UInt32.add_assoc, UInt32.add_assoc, UInt32.add_comm (UInt32.ofNat logsClosing.length)]
  rw [sendLogs, measureLogs_eq standard, measured]
  dsimp only
  rw [if_pos (length_logsHeader_lt _), writeLogs_eq standard]

include standard inMemory in
/-- **The log is framed.** For every list of entries that fits the memory, the function comes to
its end; after the header it sends as many bytes as the header announces; and these bytes
are a JSON text that decodes to the entries in their order, in which the date of expiry and
the days left are null for exactly the entries without a date. -/
theorem logs_framed :
    ∃ (bodyLength : UInt32) (body : List UInt8), (sendLogs gmtime entries).complete = true ∧
      (sendLogs gmtime entries).writes.flatten = logsHeader bodyLength ++ body ∧
      bodyLength.toNat = body.length ∧
      Json.parse body =
        some (.object [(ascii "logs", .array (entries.map (entryJson gmtime)))]) ∧
      ∀ entry ∈ entries, (expiringDate gmtime entry = .null ↔ entry.certificateExpiresAt = 0) ∧
        (shownDaysLeft entry = .null ↔ entry.certificateExpiresAt = 0) := by
  refine ⟨UInt32.ofNat (logsJson gmtime entries).text.length, (logsJson gmtime entries).text,
    ?_, ?_, ?_, Json.parse_text (plain_logsJson gmtime entries),
    fun entry _ => expiry_null_iff standard entry⟩
  · rw [sendLogs_eq standard]
  · rw [sendLogs_eq standard, ← body_eq]
    simp
  · exact UInt32.toNat_ofNat_of_lt' (length_body_lt standard inMemory)

include standard in
/-- What the dispatcher answers with is what is sent. -/
theorem respondLogs_eq (short : (logsJson gmtime entries).text.length < 2 ^ 32) :
    respondLogs gmtime entries = .response ⟨200, "OK", (logsJson gmtime entries).text⟩ ∧
      (sendLogs gmtime entries).writes.flatten =
        Response.header ⟨200, "OK", (logsJson gmtime entries).text⟩ ++
          (logsJson gmtime entries).text := by
  have header : Response.header ⟨200, "OK", (logsJson gmtime entries).text⟩ =
      logsHeader (UInt32.ofNat (logsJson gmtime entries).text.length) := by
    have statusLine : ascii "HTTP/1.1 200 OK\r\nContent-Type: application/json\r\nContent-Length: " =
        ascii "HTTP/1.1 " ++ decimalText 200 ++ ascii " " ++ ascii "OK"
          ++ ascii "\r\nContent-Type: application/json\r\nContent-Length: " := by
      decide
    rw [Response.header, logsHeader, UInt32.toNat_ofNat_of_lt' short, statusLine]
  have printed : (entries.zipIdx.mapM fun item => formatLogEntry gmtime item.1 item.2) =
      some (fragments gmtime entries.zipIdx) := by
    simp only [formatLogEntry_eq standard]
    exact List.mapM_pure
  constructor
  · rw [respondLogs, printed]
    dsimp only
    rw [← logsOpening, ← logsClosing, body_eq, header, if_pos (length_logsHeader_lt _)]
  · rw [header, sendLogs_eq standard, ← body_eq]
    simp

end Framing

/-- `gmtime_r` by counting the days from the epoch. -/
def countingGmtime (time : UInt32) : Option Civil :=
  let date := dateAfter (time.toNat / 86400)
  let clock := time.toNat % 86400
  some ⟨date.year.toNat, date.month.toNat, date.day.toNat, clock / 3600, clock % 3600 / 60,
    clock % 60⟩

theorem standard_countingGmtime : StandardGmtime countingGmtime := by
  intro time
  refine ⟨_, rfl, ?_, ?_, ?_, ?_⟩
  · obtain ⟨valid, number, year⟩ := dateAfter_spec (time.toNat / 86400)
    have month := valid.month.1
    have day := valid.day.1
    have same : Civil.date ⟨(dateAfter (time.toNat / 86400)).year.toNat,
        (dateAfter (time.toNat / 86400)).month.toNat, (dateAfter (time.toNat / 86400)).day.toNat,
        time.toNat % 86400 / 3600, time.toNat % 86400 % 3600 / 60, time.toNat % 86400 % 60⟩ =
          dateAfter (time.toNat / 86400) := by
      simp only [Civil.date]
      rw [Int.toNat_of_nonneg (by omega), Int.toNat_of_nonneg (by omega),
        Int.toNat_of_nonneg (by omega)]
    rw [same]
    exact ⟨valid, number⟩
  · dsimp only
    omega
  · dsimp only
    omega
  · dsimp only
    omega

/-- An entry with a date and one without. -/
def sampleEntries : List Entry :=
  [⟨2, 1700000000, 120, -1, 1800000000, -20, 200, 1, 0, 1, 0⟩, ⟨1, 1700000000, 90, 0, 0, 0, 0, 0, 2, 1, 0⟩]

theorem logs_framed_two_entries :
    ∃ (bodyLength : UInt32) (body : List UInt8),
      (sendLogs countingGmtime sampleEntries).complete = true ∧
      (sendLogs countingGmtime sampleEntries).writes.flatten = logsHeader bodyLength ++ body ∧
      bodyLength.toNat = body.length ∧
      Json.parse body =
        some (.object [(ascii "logs", .array (sampleEntries.map (entryJson countingGmtime)))]) := by
  obtain ⟨bodyLength, body, complete, sent, announced, decoded, -⟩ :=
    @logs_framed countingGmtime standard_countingGmtime sampleEntries (by decide)
  exact ⟨bodyLength, body, complete, sent, announced, decoded⟩

end HealthCheckFirmware.ApiService
