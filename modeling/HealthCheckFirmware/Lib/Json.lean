import HealthCheckFirmware.Lib.CPrint
import HealthCheckFirmware.Lib.JsonString

/-!
# JSON texts

Values, a decoder of JSON texts, and the text of a value without any blanks. The decoder
reads numbers without a fraction or an exponent, and of the escapes in strings those of a
single character; a text with anything else has no value here, so that whatever it reads is
well formed.

The text of a value is decoded to that value (`parse_text`), if its strings have no control
characters.
-/

set_option autoImplicit false

namespace HealthCheckFirmware

/-- Values. The texts have whole numbers only, and a string is the bytes it stands for. -/
inductive Json where
  | null
  | bool (value : Bool)
  | number (value : ℤ)
  | string (value : List UInt8)
  | array (items : List Json)
  | object (fields : List (List UInt8 × Json))

namespace Json

/-! ## The decoder -/

/-- The blanks between the tokens of a text. -/
def isBlank (byte : UInt8) : Bool :=
  byte == 0x20 || byte == 0x09 || byte == 0x0A || byte == 0x0D

def skipBlanks (text : List UInt8) : List UInt8 := text.dropWhile isBlank

/-- The rest of a string from behind its opening quote, and what follows the string. -/
def parseString : List UInt8 → Option (List UInt8 × List UInt8)
  | [] => none
  | byte :: rest =>
      if byte = 0x22 then some ([], rest)
      else if byte = 0x5C then
        match rest with
        | [] => none
        | code :: rest => (escapedByte code).bind fun byte =>
            (parseString rest).map fun (value, rest) => (byte :: value, rest)
      else if byte < 0x20 then none
      else (parseString rest).map fun (value, rest) => (byte :: value, rest)

/-- What cannot follow the digits of an integer: a fraction or an exponent. -/
def continuesNumber (text : List UInt8) : Bool :=
  match text with
  | [] => false
  | byte :: _ => byte == 0x2E || byte == 0x65 || byte == 0x45

/-- An integer without a sign. Only the number zero begins with a zero. -/
def parseDigits (text : List UInt8) : Option (ℕ × List UInt8) :=
  let digits := text.takeWhile isDigit
  let rest := text.dropWhile isDigit
  if digits = [] ∨ (digits.head? = some 0x30 ∧ digits ≠ [0x30]) ∨ continuesNumber rest = true then
    none
  else some (decimal digits, rest)

/-- A whole number with an optional minus sign. -/
def parseNumber : List UInt8 → Option (ℤ × List UInt8)
  | 0x2D :: rest => (parseDigits rest).map fun (value, rest) => (-(value : ℤ), rest)
  | text => (parseDigits text).map fun (value, rest) => ((value : ℤ), rest)

mutual

/-- The value at the start of a text, and what follows it. -/
def parseValue : ℕ → List UInt8 → Option (Json × List UInt8)
  | 0, _ => none
  | fuel + 1, text =>
      match skipBlanks text with
      | [] => none
      | byte :: rest =>
          if byte = 0x22 then (parseString rest).map fun (value, rest) => (.string value, rest)
          else if byte = 0x5B then
            if (skipBlanks rest).head? = some 0x5D then some (.array [], (skipBlanks rest).tail)
            else (parseItems fuel rest).map fun (items, rest) => (.array items, rest)
          else if byte = 0x7B then
            if (skipBlanks rest).head? = some 0x7D then some (.object [], (skipBlanks rest).tail)
            else (parseFields fuel rest).map fun (fields, rest) => (.object fields, rest)
          else if (ascii "true").isPrefixOf (byte :: rest) then some (.bool true, rest.drop 3)
          else if (ascii "false").isPrefixOf (byte :: rest) then some (.bool false, rest.drop 4)
          else if (ascii "null").isPrefixOf (byte :: rest) then some (.null, rest.drop 3)
          else (parseNumber (byte :: rest)).map fun (value, rest) => (.number value, rest)

/-- The items of an array from the first of them on, up to the closing bracket. -/
def parseItems : ℕ → List UInt8 → Option (List Json × List UInt8)
  | 0, _ => none
  | fuel + 1, text =>
      (parseValue fuel text).bind fun (item, rest) =>
        match skipBlanks rest with
        | [] => none
        | byte :: rest =>
            if byte = 0x2C then
              (parseItems fuel rest).map fun (items, rest) => (item :: items, rest)
            else if byte = 0x5D then some ([item], rest)
            else none

/-- The fields of an object from the first of them on, up to the closing brace. -/
def parseFields : ℕ → List UInt8 → Option (List (List UInt8 × Json) × List UInt8)
  | 0, _ => none
  | fuel + 1, text =>
      match skipBlanks text with
      | [] => none
      | quote :: rest =>
          if quote = 0x22 then
            (parseString rest).bind fun (name, rest) =>
              match skipBlanks rest with
              | [] => none
              | colon :: rest =>
                  if colon = 0x3A then
                    (parseValue fuel rest).bind fun (value, rest) =>
                      match skipBlanks rest with
                      | [] => none
                      | byte :: rest =>
                          if byte = 0x2C then
                            (parseFields fuel rest).map fun (fields, rest) =>
                              ((name, value) :: fields, rest)
                          else if byte = 0x7D then some ([(name, value)], rest)
                          else none
                  else none
          else none

end

/-- The value of a whole text. -/
def parse (text : List UInt8) : Option Json :=
  match parseValue (text.length + 1) text with
  | none => none
  | some (value, rest) => if skipBlanks rest = [] then some value else none

/-! ## The text of a value -/

/-- A string with its quotes. -/
def quoted (value : List UInt8) : List UInt8 := 0x22 :: (escape value ++ [0x22])

mutual

/-- The text of a value, without any blanks. -/
def text : Json → List UInt8
  | .null => ascii "null"
  | .bool value => if value then ascii "true" else ascii "false"
  | .number value => signedText value
  | .string value => quoted value
  | .array items => 0x5B :: (itemsText items ++ [0x5D])
  | .object fields => 0x7B :: (fieldsText fields ++ [0x7D])

def itemsText : List Json → List UInt8
  | [] => []
  | item :: rest => text item ++ itemsTail rest

/-- The items after the first, each behind a comma. -/
def itemsTail : List Json → List UInt8
  | [] => []
  | item :: rest => 0x2C :: (text item ++ itemsTail rest)

def fieldsText : List (List UInt8 × Json) → List UInt8
  | [] => []
  | (name, value) :: rest => quoted name ++ 0x3A :: (text value ++ fieldsTail rest)

def fieldsTail : List (List UInt8 × Json) → List UInt8
  | [] => []
  | (name, value) :: rest =>
      0x2C :: (quoted name ++ 0x3A :: (text value ++ fieldsTail rest))

end

/-! ## Which values have a text -/

/-- A string without control characters. -/
def Printable (value : List UInt8) : Prop := ∀ byte ∈ value, ¬ byte < 0x20

instance (value : List UInt8) : Decidable (Printable value) :=
  List.decidableBAll _ value

mutual

/-- All strings of the value are without control characters. -/
def Plain : Json → Prop
  | .null => True
  | .bool _ => True
  | .number _ => True
  | .string value => Printable value
  | .array items => PlainItems items
  | .object fields => PlainFields fields

def PlainItems : List Json → Prop
  | [] => True
  | item :: rest => Plain item ∧ PlainItems rest

def PlainFields : List (List UInt8 × Json) → Prop
  | [] => True
  | (name, value) :: rest => Printable name ∧ Plain value ∧ PlainFields rest

end

/-! ## Tokens -/

theorem skipBlanks_cons {byte : UInt8} {rest : List UInt8} (printed : isBlank byte = false) :
    skipBlanks (byte :: rest) = byte :: rest := by
  rw [skipBlanks, List.dropWhile_cons, if_neg (by simp [printed])]

theorem parseString_escapeByte {byte : UInt8} (printable : ¬ byte < 0x20) (rest : List UInt8) :
    parseString (escapeByte byte ++ rest) =
      (parseString rest).map fun (value, rest) => (byte :: value, rest) := by
  rw [escapeByte]
  by_cases special : byte = 0x22 ∨ byte = 0x5C
  · have stands : escapedByte byte = some byte := by
      rcases special with rfl | rfl
      · rfl
      · rfl
    rw [if_pos special, List.cons_append, parseString.eq_def]
    have backslash : ¬ (0x5C : UInt8) = 0x22 := by decide
    simp only [List.cons_append, List.nil_append, backslash, if_false, if_true, stands,
      Option.bind_some]
  · rw [if_neg special, List.cons_append, List.nil_append, parseString.eq_def]
    rw [not_or] at special
    simp only [special.1, special.2, printable, if_false]

/-- A string is read up to its closing quote. -/
theorem parseString_escape {value : List UInt8} (printable : Printable value)
    (rest : List UInt8) : parseString (escape value ++ 0x22 :: rest) = some (value, rest) := by
  induction value with
  | nil =>
      rw [escape_nil, List.nil_append, parseString.eq_def]
      simp only [if_true]
  | cons byte others ih =>
      rw [escape_cons, List.append_assoc, parseString_escapeByte (printable byte (by simp)),
        ih fun byte isMember => printable byte (by simp [isMember])]
      rfl

/-- What may follow a number. -/
structure Stops (rest : List UInt8) : Prop where
  noDigit : rest.head?.all (fun byte => !isDigit byte) = true
  ends : continuesNumber rest = false

theorem stops_nil : Stops [] := ⟨rfl, rfl⟩
theorem stops_comma (rest : List UInt8) : Stops (0x2C :: rest) := ⟨rfl, rfl⟩
theorem stops_bracket (rest : List UInt8) : Stops (0x5D :: rest) := ⟨rfl, rfl⟩
theorem stops_brace (rest : List UInt8) : Stops (0x7D :: rest) := ⟨rfl, rfl⟩

theorem parseDigits_decimalText (value : ℕ) {rest : List UInt8} (stops : Stops rest) :
    parseDigits (decimalText value ++ rest) = some (value, rest) := by
  have digits : ∀ byte ∈ decimalText value, isDigit byte = true :=
    fun _ => isDigit_of_mem_decimalText
  have none : rest.takeWhile isDigit = [] ∧ rest.dropWhile isDigit = rest := by
    have noDigit := stops.noDigit
    cases rest with
    | nil => exact ⟨rfl, rfl⟩
    | cons byte others =>
        have notDigit : isDigit byte = false := by simpa using noDigit
        simp [notDigit]
  have taken : (decimalText value ++ rest).takeWhile isDigit = decimalText value := by
    rw [List.takeWhile_append_of_pos digits, none.1, List.append_nil]
  have left : (decimalText value ++ rest).dropWhile isDigit = rest := by
    rw [List.dropWhile_append_of_pos digits, none.2]
  have good : ¬ (decimalText value = [] ∨
      ((decimalText value).head? = some 0x30 ∧ decimalText value ≠ [0x30]) ∨
      continuesNumber rest = true) := by
    rintro (empty | ⟨leading, more⟩ | continues)
    · exact decimalText_ne_nil value empty
    · exact more (decimalText_leading_zero leading)
    · rw [stops.ends] at continues
      cases continues
  simp only [parseDigits, taken, left, if_neg good, decimal_decimalText]

/-- The first byte of a number. -/
theorem decimalText_cons (value : ℕ) :
    ∃ byte rest, decimalText value = byte :: rest ∧ isDigit byte = true := by
  obtain ⟨byte, rest, same⟩ := List.exists_cons_of_ne_nil (decimalText_ne_nil value)
  exact ⟨byte, rest, same, isDigit_of_mem_decimalText (same ▸ List.mem_cons_self)⟩

theorem parseNumber_signedText (value : ℤ) {rest : List UInt8} (stops : Stops rest) :
    parseNumber (signedText value ++ rest) = some (value, rest) := by
  have digits := parseDigits_decimalText value.natAbs stops
  rw [signedText]
  split
  next negative =>
    have same : -(value.natAbs : ℤ) = value := by omega
    rw [List.cons_append, parseNumber, digits]
    simp only [Option.map_some, same]
  next natural =>
    obtain ⟨byte, others, text, isDigit⟩ := decimalText_cons value.natAbs
    have notMinus : byte ≠ 0x2D := by
      rintro rfl
      cases isDigit
    rw [text, List.cons_append] at digits ⊢
    have same : (value.natAbs : ℤ) = value := by omega
    rw [parseNumber, digits]
    · simp only [Option.map_some, same]
    · intro others' same
      cases same
      exact notMinus rfl

/-! ## Values -/

theorem isBlank_of_isDigit {byte : UInt8} (digit : isDigit byte = true) : isBlank byte = false := by
  cases blank : isBlank byte with
  | false => rfl
  | true =>
      simp only [isBlank, Bool.or_eq_true, beq_iff_eq] at blank
      rcases blank with ((rfl | rfl) | rfl) | rfl <;> cases digit

/-- The first byte of a text. -/
theorem text_cons (value : Json) :
    ∃ byte rest, text value = byte :: rest ∧ isBlank byte = false ∧ byte ≠ 0x5D := by
  cases value with
  | null => exact ⟨_, _, rfl, rfl, by decide⟩
  | bool value =>
      cases value with
      | true => exact ⟨_, _, rfl, rfl, by decide⟩
      | false => exact ⟨_, _, rfl, rfl, by decide⟩
  | number value =>
      rw [text, signedText]
      split
      · exact ⟨_, _, rfl, rfl, by decide⟩
      · obtain ⟨byte, rest, same, digit⟩ := decimalText_cons value.natAbs
        refine ⟨byte, rest, same, isBlank_of_isDigit digit, ?_⟩
        rintro rfl
        cases digit
  | string value =>
      rw [text, quoted]
      exact ⟨_, _, rfl, rfl, by decide⟩
  | array items =>
      rw [text]
      exact ⟨_, _, rfl, rfl, by decide⟩
  | object fields =>
      rw [text]
      exact ⟨_, _, rfl, rfl, by decide⟩

theorem text_length_pos (value : Json) : 0 < (text value).length := by
  obtain ⟨byte, rest, same, -⟩ := text_cons value
  rw [same]
  exact Nat.succ_pos _

section Steps

variable {fuel : ℕ} {rest : List UInt8}

theorem parseValue_cons {byte : UInt8} (printed : isBlank byte = false) :
    parseValue (fuel + 1) (byte :: rest) =
      if byte = 0x22 then (parseString rest).map fun (value, rest) => (.string value, rest)
      else if byte = 0x5B then
        if (skipBlanks rest).head? = some 0x5D then some (.array [], (skipBlanks rest).tail)
        else (parseItems fuel rest).map fun (items, rest) => (.array items, rest)
      else if byte = 0x7B then
        if (skipBlanks rest).head? = some 0x7D then some (.object [], (skipBlanks rest).tail)
        else (parseFields fuel rest).map fun (fields, rest) => (.object fields, rest)
      else if (ascii "true").isPrefixOf (byte :: rest) then some (.bool true, rest.drop 3)
      else if (ascii "false").isPrefixOf (byte :: rest) then some (.bool false, rest.drop 4)
      else if (ascii "null").isPrefixOf (byte :: rest) then some (.null, rest.drop 3)
      else (parseNumber (byte :: rest)).map fun (value, rest) => (.number value, rest) := by
  rw [parseValue, skipBlanks_cons printed]

theorem parseValue_null :
    parseValue (fuel + 1) (text .null ++ rest) = some (.null, rest) := by
  exact parseValue_cons rfl

theorem parseValue_bool (value : Bool) :
    parseValue (fuel + 1) (text (.bool value) ++ rest) = some (.bool value, rest) := by
  cases value with
  | true => exact parseValue_cons rfl
  | false => exact parseValue_cons rfl

theorem head_of_isPrefixOf {first byte : UInt8} (word : List UInt8) {rest : List UInt8}
    (isPrefix : (first :: word).isPrefixOf (byte :: rest) = true) : first = byte := by
  rw [List.isPrefixOf, Bool.and_eq_true, beq_iff_eq] at isPrefix
  exact isPrefix.1

/-- A number begins with a byte that begins nothing else. -/
theorem parseValue_digit {byte : UInt8} (sign : byte = 0x2D ∨ isDigit byte = true) :
    parseValue (fuel + 1) (byte :: rest) =
      (parseNumber (byte :: rest)).map fun (value, rest) => (.number value, rest) := by
  have other (code : UInt8) (notSign : code ≠ 0x2D) (notDigit : isDigit code = false) :
      byte ≠ code := by
    rintro rfl
    rcases sign with minus | digit
    · exact notSign minus
    · rw [notDigit] at digit
      cases digit
  have printed : isBlank byte = false := by
    rcases sign with rfl | digit
    · rfl
    · exact isBlank_of_isDigit digit
  have notTrue := other 0x74 (by decide) rfl
  have notFalse := other 0x66 (by decide) rfl
  have notNull := other 0x6E (by decide) rfl
  rw [parseValue_cons printed, if_neg (other 0x22 (by decide) rfl),
    if_neg (other 0x5B (by decide) rfl), if_neg (other 0x7B (by decide) rfl), if_neg, if_neg,
    if_neg]
  · exact fun isNull => notNull (head_of_isPrefixOf (ascii "ull") isNull).symm
  · exact fun isFalse => notFalse (head_of_isPrefixOf (ascii "alse") isFalse).symm
  · exact fun isTrue => notTrue (head_of_isPrefixOf (ascii "rue") isTrue).symm

theorem parseValue_number (value : ℤ) (stops : Stops rest) :
    parseValue (fuel + 1) (text (.number value) ++ rest) = some (.number value, rest) := by
  have parsed := parseNumber_signedText value stops
  obtain ⟨byte, others, same, sign⟩ :
      ∃ byte others, signedText value = byte :: others ∧ (byte = 0x2D ∨ isDigit byte = true) := by
    rw [signedText]
    split
    · exact ⟨_, _, rfl, .inl rfl⟩
    · obtain ⟨byte, others, same, digit⟩ := decimalText_cons value.natAbs
      exact ⟨byte, others, same, .inr digit⟩
  rw [text, same, List.cons_append, parseValue_digit sign, ← List.cons_append, ← same, parsed]
  rfl

theorem parseValue_string {value : List UInt8} (printable : Printable value) :
    parseValue (fuel + 1) (text (.string value) ++ rest) = some (.string value, rest) := by
  rw [text, quoted, List.cons_append, List.append_assoc, parseValue_cons rfl, if_pos rfl,
    List.cons_append, List.nil_append, parseString_escape printable]
  rfl

theorem parseValue_array {items : List Json}
    (parsed : items ≠ [] →
      parseItems fuel (itemsText items ++ 0x5D :: rest) = some (items, rest)) :
    parseValue (fuel + 1) (text (.array items) ++ rest) = some (.array items, rest) := by
  rw [text, List.cons_append, List.append_assoc, List.cons_append, List.nil_append]
  cases items with
  | nil => exact parseValue_cons rfl
  | cons item others =>
      obtain ⟨byte, more, same, printed, notClosing⟩ := text_cons item
      have begins : itemsText (item :: others) ++ 0x5D :: rest =
          byte :: (more ++ itemsTail others ++ 0x5D :: rest) := by
        rw [itemsText, same]
        simp
      have open' : (skipBlanks (itemsText (item :: others) ++ 0x5D :: rest)).head? ≠ some 0x5D := by
        rw [begins, skipBlanks_cons printed]
        simpa using notClosing
      rw [parseValue_cons rfl, if_neg (by decide), if_pos rfl, if_neg open', parsed nofun]
      rfl

theorem parseValue_object {fields : List (List UInt8 × Json)}
    (parsed : fields ≠ [] →
      parseFields fuel (fieldsText fields ++ 0x7D :: rest) = some (fields, rest)) :
    parseValue (fuel + 1) (text (.object fields) ++ rest) = some (.object fields, rest) := by
  rw [text, List.cons_append, List.append_assoc, List.cons_append, List.nil_append]
  cases fields with
  | nil => exact parseValue_cons rfl
  | cons field others =>
      obtain ⟨name, value⟩ := field
      rw [parseValue_cons rfl, if_neg (by decide), if_neg (by decide), if_pos rfl, if_neg, parsed nofun]
      · rfl
      · rw [fieldsText, quoted]
        exact nofun

/-- The first item of an array, and the others. -/
theorem parseItems_cons {item : Json} {others : List Json}
    (first : ∀ rest, Stops rest → parseValue fuel (text item ++ rest) = some (item, rest))
    (more : others ≠ [] →
      parseItems fuel (itemsText others ++ 0x5D :: rest) = some (others, rest)) :
    parseItems (fuel + 1) (itemsText (item :: others) ++ 0x5D :: rest) =
      some (item :: others, rest) := by
  rw [itemsText, List.append_assoc, parseItems]
  cases others with
  | nil =>
      rw [itemsTail, List.nil_append, first _ (stops_bracket rest)]
      rfl
  | cons next others =>
      have tail : itemsTail (next :: others) = 0x2C :: itemsText (next :: others) := by
        rw [itemsTail, itemsText]
      rw [tail, List.cons_append, first _ (stops_comma _)]
      simp only [Option.bind_some, skipBlanks_cons (show isBlank 0x2C = false from rfl), if_true,
        more nofun, Option.map_some]

theorem parseFields_cons {name : List UInt8} {value : Json} {others : List (List UInt8 × Json)}
    (printable : Printable name)
    (first : ∀ rest, Stops rest → parseValue fuel (text value ++ rest) = some (value, rest))
    (more : others ≠ [] →
      parseFields fuel (fieldsText others ++ 0x7D :: rest) = some (others, rest)) :
    parseFields (fuel + 1) (fieldsText ((name, value) :: others) ++ 0x7D :: rest) =
      some ((name, value) :: others, rest) := by
  have begins : fieldsText ((name, value) :: others) ++ 0x7D :: rest = 0x22 :: (escape name ++
      0x22 :: 0x3A :: (text value ++ (fieldsTail others ++ 0x7D :: rest))) := by
    simp [fieldsText, quoted]
  rw [begins, parseFields, skipBlanks_cons rfl]
  simp only [if_true, parseString_escape printable, Option.bind_some,
    skipBlanks_cons (show isBlank 0x3A = false from rfl)]
  cases others with
  | nil =>
      rw [fieldsTail, List.nil_append, first _ (stops_brace rest)]
      rfl
  | cons next others =>
      obtain ⟨nextName, nextValue⟩ := next
      have tail : fieldsTail ((nextName, nextValue) :: others) =
          0x2C :: fieldsText ((nextName, nextValue) :: others) := by
        rw [fieldsTail, fieldsText]
      rw [tail, List.cons_append, first _ (stops_comma _)]
      simp only [Option.bind_some, skipBlanks_cons (show isBlank 0x2C = false from rfl), if_true,
        more nofun, Option.map_some]

end Steps

mutual

theorem parseValue_text : ∀ (value : Json), Plain value → ∀ (fuel : ℕ) (rest : List UInt8),
    (text value).length ≤ fuel → Stops rest →
      parseValue fuel (text value ++ rest) = some (value, rest)
  | value, _, 0, _, enough, _ => absurd (text_length_pos value) (by omega)
  | .null, _, fuel + 1, rest, _, _ => parseValue_null
  | .bool value, _, fuel + 1, rest, _, _ => parseValue_bool value
  | .number value, _, fuel + 1, rest, _, stops => parseValue_number value stops
  | .string value, plain, fuel + 1, rest, _, _ => parseValue_string plain
  | .array items, plain, fuel + 1, rest, enough, _ => by
      refine parseValue_array fun nonempty => parseItems_text items nonempty plain fuel rest ?_
      rw [text, List.length_cons, List.length_append, List.length_singleton] at enough
      omega
  | .object fields, plain, fuel + 1, rest, enough, _ => by
      refine parseValue_object fun nonempty => parseFields_text fields nonempty plain fuel rest ?_
      rw [text, List.length_cons, List.length_append, List.length_singleton] at enough
      omega

theorem parseItems_text : ∀ (items : List Json), items ≠ [] → PlainItems items →
    ∀ (fuel : ℕ) (rest : List UInt8), (itemsText items).length + 1 ≤ fuel →
      parseItems fuel (itemsText items ++ 0x5D :: rest) = some (items, rest)
  | [], nonempty, _, _, _, _ => absurd rfl nonempty
  | _ :: _, _, _, 0, _, enough => absurd enough (by omega)
  | item :: others, _, plain, fuel + 1, rest, enough => by
      rw [itemsText, List.length_append] at enough
      refine parseItems_cons (fun rest stops => ?_) fun nonempty => ?_
      · exact parseValue_text item plain.1 fuel rest (by omega) stops
      · refine parseItems_text others nonempty plain.2 fuel rest ?_
        have tail : (itemsTail others).length = (itemsText others).length + 1 := by
          cases others with
          | nil => exact absurd rfl nonempty
          | cons next others => rw [itemsTail, itemsText, List.length_cons]
        omega

theorem parseFields_text : ∀ (fields : List (List UInt8 × Json)), fields ≠ [] →
    PlainFields fields → ∀ (fuel : ℕ) (rest : List UInt8), (fieldsText fields).length + 1 ≤ fuel →
      parseFields fuel (fieldsText fields ++ 0x7D :: rest) = some (fields, rest)
  | [], nonempty, _, _, _, _ => absurd rfl nonempty
  | _ :: _, _, _, 0, _, enough => absurd enough (by omega)
  | (name, value) :: others, _, plain, fuel + 1, rest, enough => by
      rw [fieldsText, List.length_append, List.length_cons, List.length_append] at enough
      refine parseFields_cons plain.1 (fun rest stops => ?_) fun nonempty => ?_
      · exact parseValue_text value plain.2.1 fuel rest (by omega) stops
      · refine parseFields_text others nonempty plain.2.2 fuel rest ?_
        have tail : (fieldsTail others).length = (fieldsText others).length + 1 := by
          cases others with
          | nil => exact absurd rfl nonempty
          | cons next others => rw [fieldsTail, fieldsText, List.length_cons]
        omega

end

/-- **The text of a value is decoded to that value.** -/
theorem parse_text {value : Json} (plain : Plain value) : parse (text value) = some value := by
  have parsed := parseValue_text value plain ((text value).length + 1) [] (by omega) stops_nil
  rw [List.append_nil] at parsed
  rw [parse, parsed]
  rfl

example : parse (text (.object [(ascii "a", .array [.number (-1), .null, .string (ascii "b")])])) =
    some (.object [(ascii "a", .array [.number (-1), .null, .string (ascii "b")])]) := by rfl

end Json

end HealthCheckFirmware
