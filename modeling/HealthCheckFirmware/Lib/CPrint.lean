import HealthCheckFirmware.Lib.CText

/-!
# Printing numbers into C strings

The conversions of `snprintf` that decimal numbers need, and the cut that a buffer
of limited size makes. A printed number is read back as itself
(`decimal_decimalText`), has only digits, and has no more of them than its size
asks for.
-/

set_option autoImplicit false

namespace HealthCheckFirmware

/-- The last digit of a number. -/
def digitByte (value : ℕ) : UInt8 := UInt8.ofNat (0x30 + value % 10)

/-- The digits of a number, of which there are at most one more than the bound. -/
def decimalDigits : (bound value : ℕ) → List UInt8
  | 0, value => [digitByte value]
  | bound + 1, value =>
      if value < 10 then [digitByte value]
      else decimalDigits bound (value / 10) ++ [digitByte value]

/-- The conversion `%u` or `%lu`. -/
def decimalText (value : ℕ) : List UInt8 := decimalDigits value value

/-- The conversion `%ld`. -/
def signedText (value : ℤ) : List UInt8 :=
  if value < 0 then 0x2D :: decimalText value.natAbs else decimalText value.natAbs

/-- The conversion `%0nd` of a number that is not negative. -/
def paddedText (width value : ℕ) : List UInt8 :=
  List.replicate (width - (decimalText value).length) 0x30 ++ decimalText value

/-- What `snprintf` leaves in a buffer of the given size. -/
def snprintf (size : ℕ) (text : List UInt8) : List UInt8 := text.take (size - 1)

/-- A text shorter than its buffer is printed in full. -/
theorem snprintf_of_lt {size : ℕ} {text : List UInt8} (fits : text.length < size) :
    snprintf size text = text :=
  List.take_of_length_le (by omega)

theorem toNat_digitByte (value : ℕ) : (digitByte value).toNat = 0x30 + value % 10 :=
  Nat.mod_eq_of_lt (by omega)

theorem isDigit_digitByte (value : ℕ) : isDigit (digitByte value) = true := by
  have digit := toNat_digitByte value
  simp only [isDigit, Bool.and_eq_true, decide_eq_true_eq, UInt8.le_iff_toNat_le]
  exact ⟨by change 48 ≤ _; omega, by change _ ≤ 57; omega⟩

theorem isDigit_of_mem_decimalDigits {bound value : ℕ} {byte : UInt8}
    (member : byte ∈ decimalDigits bound value) : isDigit byte = true := by
  induction bound generalizing value with
  | zero =>
      rw [decimalDigits, List.mem_singleton] at member
      exact member ▸ isDigit_digitByte value
  | succ bound ih =>
      rw [decimalDigits] at member
      split at member
      · rw [List.mem_singleton] at member
        exact member ▸ isDigit_digitByte value
      · rcases List.mem_append.mp member with earlier | last
        · exact ih earlier
        · rw [List.mem_singleton] at last
          exact last ▸ isDigit_digitByte value

theorem isDigit_of_mem_decimalText {value : ℕ} {byte : UInt8}
    (member : byte ∈ decimalText value) : isDigit byte = true :=
  isDigit_of_mem_decimalDigits member

theorem decimalDigits_ne_nil (bound value : ℕ) : decimalDigits bound value ≠ [] := by
  cases bound with
  | zero => simp [decimalDigits]
  | succ bound =>
      rw [decimalDigits]
      split <;> simp

theorem decimalText_ne_nil (value : ℕ) : decimalText value ≠ [] := decimalDigits_ne_nil _ _

theorem decimal_append_digit (digits : List UInt8) (digit : UInt8) :
    decimal (digits ++ [digit]) = 10 * decimal digits + (digit.toNat - 0x30) := by
  simp [decimal]

theorem decimal_digitByte (value : ℕ) : decimal [digitByte value] = value % 10 := by
  have digit := toNat_digitByte value
  simp only [decimal, List.foldl_cons, List.foldl_nil, digit]
  omega

theorem decimal_decimalDigits {bound value : ℕ} (enough : value < 10 ^ (bound + 1)) :
    decimal (decimalDigits bound value) = value := by
  induction bound generalizing value with
  | zero =>
      rw [decimalDigits, decimal_digitByte]
      omega
  | succ bound ih =>
      rw [decimalDigits]
      split
      · rw [decimal_digitByte]
        omega
      · rw [decimal_append_digit, ih (by rw [Nat.pow_succ] at enough; omega), toNat_digitByte]
        omega

/-- The bound on the digits of a number suffices. -/
theorem lt_pow_succ_self (value : ℕ) : value < 10 ^ (value + 1) :=
  Nat.lt_of_lt_of_le Nat.lt_two_pow_self
    (Nat.le_trans (Nat.pow_le_pow_left (by decide) value)
      (Nat.pow_le_pow_right (by decide) (Nat.le_succ value)))

/-- A printed number is read back as itself. -/
theorem decimal_decimalText (value : ℕ) : decimal (decimalText value) = value :=
  decimal_decimalDigits (lt_pow_succ_self value)

theorem length_decimalDigits_le {bound value places : ℕ} (small : value < 10 ^ (places + 1)) :
    (decimalDigits bound value).length ≤ places + 1 := by
  induction bound generalizing value places with
  | zero => simp [decimalDigits]
  | succ bound ih =>
      rw [decimalDigits]
      split
      · simp
      · rename_i large
        cases places with
        | zero => omega
        | succ places =>
            have shorter : (decimalDigits bound (value / 10)).length ≤ places + 1 :=
              ih (by rw [Nat.pow_succ] at small; omega)
            simp only [List.length_append, List.length_cons, List.length_nil]
            omega

theorem length_decimalText_le {value places : ℕ} (small : value < 10 ^ (places + 1)) :
    (decimalText value).length ≤ places + 1 :=
  length_decimalDigits_le small

theorem eq_zero_of_digitByte {value : ℕ} (small : value < 10) (zero : digitByte value = 0x30) :
    value = 0 := by
  have code := toNat_digitByte value
  rw [zero] at code
  change 0x30 = 0x30 + value % 10 at code
  omega

/-- Only the number zero is printed with a zero in front. -/
theorem eq_zero_of_leading_zero {bound value : ℕ} (enough : value < 10 ^ (bound + 1))
    (leading : (decimalDigits bound value).head? = some 0x30) : value = 0 := by
  induction bound generalizing value with
  | zero => exact eq_zero_of_digitByte (by omega) (Option.some.inj leading)
  | succ bound ih =>
      rw [decimalDigits] at leading
      split at leading
      next small => exact eq_zero_of_digitByte small (Option.some.inj leading)
      next large =>
        rw [List.head?_append, Option.or_of_isSome (by simp [decimalDigits_ne_nil])] at leading
        have shorter := ih (by rw [Nat.pow_succ] at enough; omega) leading
        omega

theorem decimalText_leading_zero {value : ℕ} (leading : (decimalText value).head? = some 0x30) :
    decimalText value = [0x30] := by
  have zero := eq_zero_of_leading_zero (lt_pow_succ_self value) leading
  subst zero
  rfl

/-- A number that is not wider than its field fills it. -/
theorem length_paddedText {width value : ℕ} (small : value < 10 ^ (width + 1)) :
    (paddedText (width + 1) value).length = width + 1 := by
  have fits := length_decimalText_le small
  rw [paddedText, List.length_append, List.length_replicate]
  omega

theorem isDigit_of_mem_paddedText {width value : ℕ} {byte : UInt8}
    (member : byte ∈ paddedText width value) : isDigit byte = true := by
  rcases List.mem_append.mp member with filled | printed
  · rw [List.eq_of_mem_replicate filled]
    rfl
  · exact isDigit_of_mem_decimalText printed

theorem length_signedText_le {value : ℤ} {places : ℕ} (small : value.natAbs < 10 ^ (places + 1)) :
    (signedText value).length ≤ places + 2 := by
  have digits := length_decimalText_le small
  rw [signedText]
  split
  · rw [List.length_cons]
    omega
  · omega

end HealthCheckFirmware
