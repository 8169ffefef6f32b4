import HealthCheckFirmware.Lib.CString

/-!
# The inside of a JSON string

What stands between the quotes of a JSON string, byte by byte: a quote and a backslash
are written behind a backslash, control characters are not written as they are, and
every other byte stands for itself. Of the escapes, those of a single character are
read; the numeric ones are not, and a text with one has no value here.
-/

set_option autoImplicit false

namespace HealthCheckFirmware

/-- The byte that a character behind a backslash stands for. -/
def escapedByte (code : UInt8) : Option UInt8 :=
  if code = 0x22 ∨ code = 0x5C ∨ code = 0x2F then some code
  else if code = 0x62 then some 0x08
  else if code = 0x66 then some 0x0C
  else if code = 0x6E then some 0x0A
  else if code = 0x72 then some 0x0D
  else if code = 0x74 then some 0x09
  else none

/-- The value of a text between quotes. -/
def unescape : List UInt8 → Option (List UInt8)
  | [] => some []
  | byte :: rest =>
      if byte = 0x5C then
        match rest with
        | [] => none
        | code :: rest => (escapedByte code).bind fun byte => (unescape rest).map (byte :: ·)
      else if byte < 0x20 ∨ byte = 0x22 then none
      else (unescape rest).map (byte :: ·)

/-- A character with what has to stand before it. -/
def escapeByte (byte : UInt8) : List UInt8 :=
  if byte = 0x22 ∨ byte = 0x5C then [0x5C, byte] else [byte]

/-- A value as a text between quotes. -/
def escape (value : List UInt8) : List UInt8 := value.flatMap escapeByte

@[simp] theorem escape_nil : escape [] = [] := rfl

@[simp] theorem escape_cons (byte : UInt8) (rest : List UInt8) :
    escape (byte :: rest) = escapeByte byte ++ escape rest := rfl

theorem unescape_escapeByte_append {byte : UInt8} (printable : ¬ byte < 0x20)
    (rest : List UInt8) :
    unescape (escapeByte byte ++ rest) = (unescape rest).map (byte :: ·) := by
  rw [escapeByte]
  by_cases special : byte = 0x22 ∨ byte = 0x5C
  · have stands : escapedByte byte = some byte := by
      rcases special with rfl | rfl
      · rfl
      · rfl
    rw [if_pos special, List.cons_append, unescape.eq_def]
    simp only [List.cons_append, List.nil_append, if_true, stands, Option.bind_some]
  · rw [if_neg special, List.cons_append, List.nil_append, unescape.eq_def]
    rw [not_or] at special
    simp only [special.2, printable, special.1, or_self, if_false]

/-- **A value without control characters is read back from its text.** -/
theorem unescape_escape {value : List UInt8} (printable : ∀ byte ∈ value, ¬ byte < 0x20) :
    unescape (escape value) = some value := by
  induction value with
  | nil => rfl
  | cons byte rest ih =>
      rw [escape_cons, unescape_escapeByte_append (printable byte (by simp)),
        ih fun byte member => printable byte (by simp [member])]
      rfl

end HealthCheckFirmware
