import HealthCheckFirmware.Api.Dispatch
import HealthCheckFirmware.Api.LogResponse

/-!
# Answers that are JSON documents

The responses are printed with `snprintf` into buffers of fixed sizes, and the texts of a
listing one behind the other. Here each of the texts is the text of a JSON value, and short
enough for its buffer, as long as the strings in it are plain. So an answer shows its value
(`Answer.Shows`): it is sent, and its body decodes to the value.
-/

set_option autoImplicit false

namespace HealthCheckFirmware.ApiService

/-! ## Plain strings -/

instance (byte : UInt8) : Decidable (IsPlain byte) :=
  inferInstanceAs (Decidable (byte ≠ 0x22 ∧ byte ≠ 0x5C ∧ ¬ byte < 0x20))

/-- All characters are ones that a string value may have in a body. -/
def IsText (text : List UInt8) : Prop := ∀ byte ∈ text, IsPlain byte

instance (text : List UInt8) : Decidable (IsText text) := List.decidableBAll _ text

namespace IsText

variable {text : List UInt8} (plain : IsText text)

include plain

theorem escape_eq : escape text = text := by
  apply escape_eq_self
  rintro byte isMember (rfl | rfl)
  · exact (plain _ isMember).1 rfl
  · exact (plain _ isMember).2.1 rfl

theorem printable : Json.Printable text := fun byte isMember => (plain byte isMember).2.2

theorem zero_notMem : 0 ∉ text := fun isMember => (plain 0 isMember).ne_zero rfl

end IsText

/-! ## Documents -/

/-- The answer is a response with the given status, whose body decodes to the value. -/
def Answer.Shows (answer : Answer) (status : ℕ) (value : Json) : Prop :=
  ∃ reason body, answer = .response ⟨status, reason, body⟩ ∧ Json.parse body = some value

/-- The answer is a response, or the header of one, whose body is a JSON document. -/
def Answer.IsDocument (answer : Answer) : Prop :=
  ∃ response, (answer = .response response ∨ answer = .header response)
    ∧ (Json.parse response.json).isSome = true

theorem Answer.Shows.isDocument {answer : Answer} {status : ℕ} {value : Json}
    (shows : answer.Shows status value) : answer.IsDocument := by
  obtain ⟨reason, body, same, parsed⟩ := shows
  exact ⟨_, .inl same, by rw [parsed, Option.isSome_some]⟩

/-- The status and the reason are short. -/
def briefStatus (status : ℕ) (reason : String) : Bool :=
  decide (status < 1000) && decide ((ascii reason).length ≤ 40)

section Respond

variable {status : ℕ} {reason : String} {json : List UInt8}

theorem length_header_le (brief : briefStatus status reason = true) (short : json.length < 10000) :
    (Response.header ⟨status, reason, json⟩).length ≤ 155 := by
  simp only [briefStatus, Bool.and_eq_true, decide_eq_true_eq] at brief
  have code : (decimalText status).length ≤ 3 := length_decimalText_le brief.1
  have announced : (decimalText json.length).length ≤ 4 := length_decimalText_le short
  simp only [Response.header, List.length_append]
  change 9 + _ + 1 + _ + 50 + _ + 48 ≤ 155
  omega

theorem respond_eq (brief : briefStatus status reason = true) (short : json.length ≤ 1860) :
    respond status reason json = .response ⟨status, reason, json⟩ := by
  have header := length_header_le brief (Nat.lt_of_le_of_lt short (by decide))
  unfold respond
  dsimp only
  rw [if_pos]
  rw [List.length_append]
  have size : responseSize = 2048 := rfl
  omega

theorem respondHeadersOnly_eq (brief : briefStatus status reason = true)
    (short : json.length ≤ 1860) :
    respondHeadersOnly status reason json = .header ⟨status, reason, json⟩ := by
  have header := length_header_le brief (Nat.lt_of_le_of_lt short (by decide))
  unfold respondHeadersOnly
  dsimp only
  rw [if_pos (Nat.lt_of_le_of_lt header (by decide))]

/-- The text of a value is a response that shows it. -/
theorem respond_shows {value : Json} (brief : briefStatus status reason = true)
    (plain : value.Plain) (same : json = value.text) (short : json.length ≤ 1860) :
    (respond status reason json).Shows status value := by
  refine ⟨reason, json, respond_eq brief short, ?_⟩
  rw [same]
  exact Json.parse_text plain

/-- So does the text printed into a buffer, if it is shorter than the buffer. -/
theorem respond_snprintf_shows {value : Json} {size : ℕ} (brief : briefStatus status reason = true)
    (plain : value.Plain) (same : json = value.text) (fits : json.length < size)
    (bound : size ≤ 1860) : (respond status reason (snprintf size json)).Shows status value := by
  rw [snprintf_of_lt fits]
  exact respond_shows brief plain same (by omega)

end Respond

/-! ## Errors -/

/-- The value of an error. -/
def errorJson (code : String) : Json := .object [(ascii "error", .string (ascii code))]

/-- The code of an error is plain and short, and so is what precedes it. -/
def briefError (status : ℕ) (reason code : String) : Bool :=
  briefStatus status reason && decide (IsText (ascii code))
    && decide ((ascii code).length ≤ 80)

theorem error_shows {status : ℕ} {reason code : String}
    (brief : briefError status reason code = true) :
    (error status reason code).Shows status (errorJson code) := by
  simp only [briefError, Bool.and_eq_true, decide_eq_true_eq] at brief
  obtain ⟨⟨brief, plain⟩, short⟩ := brief
  have same : ascii "\x7b\"error\":\"" ++ ascii code ++ ascii "\"\x7d" = (errorJson code).text := by
    simp only [errorJson, Json.text, Json.fieldsText, Json.fieldsTail, Json.quoted,
      plain.escape_eq, List.append_assoc, List.cons_append]
    rfl
  refine respond_snprintf_shows brief ⟨by decide, plain.printable, trivial⟩ same ?_ (by decide)
  simp only [List.length_append]
  change 10 + _ + 2 < 96
  omega

theorem error_isDocument {status : ℕ} {reason code : String}
    (brief : briefError status reason code = true) : (error status reason code).IsDocument :=
  (error_shows brief).isDocument

end HealthCheckFirmware.ApiService
