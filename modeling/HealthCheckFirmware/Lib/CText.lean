import HealthCheckFirmware.Lib.CString

/-!
# Searching and scanning C strings

The functions of the C library that parsers are made of, on strings without their
terminating zero byte: the search for a substring, the comparison without regard to
case, and the scanning of words and decimal numbers. The integer types are those of
a machine whose `long` has 32 bits.
-/

set_option autoImplicit false

namespace HealthCheckFirmware

/-! ## Searching -/

/-- Where a string first occurs in a text. -/
def strstr (needle : List UInt8) : List UInt8 → Option ℕ
  | [] => if needle.isPrefixOf [] then some 0 else none
  | byte :: rest =>
      if needle.isPrefixOf (byte :: rest) then some 0 else (strstr needle rest).map (· + 1)

variable {needle text : List UInt8} {position : ℕ}

/-- The string is where it is found. -/
theorem strstr_split (found : strstr needle text = some position) :
    ∃ before rest, text = before ++ needle ++ rest ∧ before.length = position := by
  induction text generalizing position with
  | nil =>
      rw [strstr] at found
      split at found
      · rename_i isPrefix
        cases found
        obtain ⟨rest, split⟩ := List.isPrefixOf_iff_prefix.mp isPrefix
        exact ⟨[], rest, split.symm, rfl⟩
      · cases found
  | cons byte tail ih =>
      rw [strstr] at found
      split at found
      · rename_i isPrefix
        cases found
        obtain ⟨rest, split⟩ := List.isPrefixOf_iff_prefix.mp isPrefix
        exact ⟨[], rest, split.symm, rfl⟩
      · obtain ⟨inner, foundInner, rfl⟩ := Option.map_eq_some_iff.mp found
        obtain ⟨before, rest, rfl, length⟩ := ih foundInner
        exact ⟨byte :: before, rest, rfl, congrArg Nat.succ length⟩

theorem strstr_length_le (found : strstr needle text = some position) :
    position + needle.length ≤ text.length := by
  obtain ⟨before, rest, rfl, rfl⟩ := strstr_split found
  simp only [List.length_append]
  omega

theorem isPrefixOf_append_iff (fits : needle.length ≤ text.length) (more : List UInt8) :
    needle.isPrefixOf (text ++ more) = needle.isPrefixOf text := by
  rw [Bool.eq_iff_iff, List.isPrefixOf_iff_prefix, List.isPrefixOf_iff_prefix]
  constructor
  · intro longer
    exact List.prefix_of_prefix_length_le longer (List.prefix_append text more) fits
  · intro isPrefix
    exact isPrefix.trans (List.prefix_append text more)

/-- What follows the place where a string is found does not matter. -/
theorem strstr_append_iff (fits : position + needle.length ≤ text.length) (more : List UInt8) :
    strstr needle (text ++ more) = some position ↔ strstr needle text = some position := by
  induction text generalizing position with
  | nil =>
      simp only [List.length_nil] at fits
      obtain rfl : needle = [] := List.eq_nil_of_length_eq_zero (by omega)
      cases more <;> simp [strstr]
  | cons byte tail ih =>
      simp only [List.length_cons] at fits
      have same : needle.isPrefixOf (byte :: (tail ++ more)) = needle.isPrefixOf (byte :: tail) :=
        @isPrefixOf_append_iff needle (byte :: tail) (by simp only [List.length_cons]; omega) more
      rw [List.cons_append, strstr, strstr, same]
      split
      · exact Iff.rfl
      · cases position with
        | zero => simp
        | succ before =>
            have inner : strstr needle (tail ++ more) = some before ↔
              strstr needle tail = some before := ih (by omega)
            simpa using inner

theorem strstr_append (found : strstr needle text = some position) (more : List UInt8) :
    strstr needle (text ++ more) = some position :=
  (strstr_append_iff (strstr_length_le found) more).mpr found

/-- A string is not found before its first character. -/
theorem strstr_skip {first : UInt8} {before : List UInt8} (absent : first ∉ before)
    (more : List UInt8) :
    strstr (first :: needle) (before ++ more) =
      (strstr (first :: needle) more).map (before.length + ·) := by
  induction before with
  | nil => simp
  | cons byte before ih =>
      rw [List.mem_cons, not_or] at absent
      rw [List.cons_append, strstr, if_neg (by simp [List.isPrefixOf, absent.1]), ih absent.2,
        Option.map_map]
      congr 1
      funext position
      simp only [Function.comp_apply, List.length_cons]
      omega

theorem strstr_none {first : UInt8} (absent : first ∉ text) :
    strstr (first :: needle) text = none := by
  have skipped := @strstr_skip needle first text absent []
  simpa [strstr] using skipped

/-- Nothing is found exactly if the string does not occur. -/
theorem strstr_eq_none_iff : strstr needle text = none ↔ ¬ needle <:+: text := by
  induction text with
  | nil => simp [strstr, List.isPrefixOf_iff_prefix]
  | cons byte tail ih =>
      rw [strstr, List.infix_cons_iff]
      by_cases here : needle <+: byte :: tail
      · simp [List.isPrefixOf_iff_prefix, here]
      · simp [List.isPrefixOf_iff_prefix, here, ih]

/-! ## Characters -/

/-- A space or a tab. -/
def isBlank (byte : UInt8) : Bool := byte == 0x20 || byte == 0x09

/-- `isspace`. -/
def isSpace (byte : UInt8) : Bool := byte == 0x20 || (0x09 ≤ byte && byte ≤ 0x0D)

/-- `isdigit`. -/
def isDigit (byte : UInt8) : Bool := 0x30 ≤ byte && byte ≤ 0x39

/-- The same character, or the same letter in another case. -/
def sameLetter (first second : UInt8) : Bool :=
  first == second
    || (0x61 ≤ first ||| 0x20 && first ||| 0x20 ≤ 0x7A && first ||| 0x20 == second ||| 0x20)

/-- Whether a text starts with a string, letters in either case. -/
def startsWithNoCase : List UInt8 → List UInt8 → Bool
  | _, [] => true
  | [], _ :: _ => false
  | byte :: rest, expected :: others => sameLetter byte expected && startsWithNoCase rest others

/-! ## Scanning -/

/-- A conversion `%s` of `sscanf` with a width: white space is skipped, then at
least one other character is read. -/
def scanWord (width : ℕ) (text : List UInt8) : Option (List UInt8 × List UInt8) :=
  let start := text.dropWhile isSpace
  let word := (start.takeWhile fun byte => !isSpace byte).take width
  if word = [] then none else some (word, start.drop word.length)

/-- The number that some digits denote. -/
def decimal (digits : List UInt8) : ℕ :=
  digits.foldl (fun value digit => 10 * value + (digit.toNat - 0x30)) 0

/-- The sign and the digits that `strtoul` and `strtol` convert, and what follows
them. -/
def scanInteger (text : List UInt8) : Option (Bool × ℕ × List UInt8) :=
  let start := text.dropWhile isSpace
  let unsigned := if start.head? = some 0x2B ∨ start.head? = some 0x2D then start.drop 1 else start
  let digits := unsigned.takeWhile isDigit
  if digits = [] then none
  else some (start.head? == some 0x2D, decimal digits, unsigned.drop digits.length)

/-- The value of `strtoul`, if there is a number, whether it is out of range, and
what follows the number. -/
def strtoul (text : List UInt8) : Option (UInt32 × Bool × List UInt8) :=
  (scanInteger text).map fun (negative, value, rest) =>
    if value < 2 ^ 32 then
      (if negative then -UInt32.ofNat value else UInt32.ofNat value, false, rest)
    else (0xFFFFFFFF, true, rest)

/-- The value of `strtol`, if there is a number, and what follows it. A value out of
range is replaced by the nearest one in range. -/
def strtol (text : List UInt8) : Option (ℤ × List UInt8) :=
  (scanInteger text).map fun (negative, value, rest) =>
    (max (-2 ^ 31) (min (2 ^ 31 - 1) (if negative then -(value : ℤ) else value)), rest)

end HealthCheckFirmware
