import Mathlib.Data.List.Forall2
import HealthCheckFirmware.Lib.CText

/-!
# What a scanned number is

Runs of characters of one kind, and with them the texts on which `scanInteger`
succeeds: white space, a sign, digits, and then something that is not a digit.
-/

set_option autoImplicit false

namespace HealthCheckFirmware

/-! ## Runs of characters -/

/-- No character of the kind comes next. -/
def Stops (kind : UInt8 → Bool) (rest : List UInt8) : Prop := ∀ byte ∈ rest.head?, kind byte = false

variable {kind : UInt8 → Bool} {run rest : List UInt8}

theorem Stops.nil : Stops kind [] := by
  intro byte member
  cases member

theorem stops_cons {byte : UInt8} : Stops kind (byte :: rest) ↔ kind byte = false := by
  simp [Stops]

theorem stops_dropWhile (kind : UInt8 → Bool) (text : List UInt8) :
    Stops kind (text.dropWhile kind) := by
  intro byte next
  have stopped := List.head?_dropWhile_not kind text
  rw [Option.mem_def.mp next] at stopped
  exact stopped

theorem takeWhile_run (all : ∀ byte ∈ run, kind byte = true) (stops : Stops kind rest) :
    (run ++ rest).takeWhile kind = run := by
  rw [List.takeWhile_append_of_pos all]
  cases rest with
  | nil => simp
  | cons byte rest => rw [List.takeWhile_cons_of_neg (by simp [stops_cons.mp stops]), List.append_nil]

theorem dropWhile_run (all : ∀ byte ∈ run, kind byte = true) (stops : Stops kind rest) :
    (run ++ rest).dropWhile kind = rest := by
  rw [List.dropWhile_append_of_pos all]
  cases rest with
  | nil => rfl
  | cons byte rest => rw [List.dropWhile_cons_of_neg (by simp [stops_cons.mp stops])]

theorem dropWhile_of_stops (stops : Stops kind rest) : rest.dropWhile kind = rest := by
  have none : ∀ byte ∈ ([] : List UInt8), kind byte = true := by
    intro byte member
    cases member
  exact dropWhile_run none stops

/-- A run ends at the latest where no character of the kind comes next. -/
theorem takeWhile_append_of_stops {text : List UInt8} (stops : Stops kind rest) :
    (text ++ rest).takeWhile kind = text.takeWhile kind := by
  rw [List.takeWhile_append]
  split
  · cases rest with
    | nil => rw [List.takeWhile_nil, List.append_nil, (List.takeWhile_prefix kind).eq_of_length ‹_›]
    | cons byte rest =>
        rw [List.takeWhile_cons_of_neg (by simp [stops_cons.mp stops]), List.append_nil,
          (List.takeWhile_prefix kind).eq_of_length ‹_›]
  · rfl

/-- A text is a run of characters of a kind and what follows it. -/
theorem exists_run (kind : UInt8 → Bool) (text : List UInt8) :
    ∃ run rest, text = run ++ rest ∧ (∀ byte ∈ run, kind byte = true) ∧ Stops kind rest :=
  ⟨text.takeWhile kind, text.dropWhile kind, List.takeWhile_append_dropWhile.symm,
    fun _ member => List.mem_takeWhile_imp member, stops_dropWhile kind text⟩

/-- A text without any character of a kind has no run of them. -/
theorem stops_of_none (none : ∀ byte ∈ rest, kind byte = false) : Stops kind rest := by
  intro byte next
  exact none byte (List.mem_of_head? next)

/-! ## Words and letters -/

theorem sameLetter_refl (byte : UInt8) : sameLetter byte byte = true := by
  simp [sameLetter]

theorem sameLetter_symm {first second : UInt8} (same : sameLetter first second = true) :
    sameLetter second first = true := by
  simp only [sameLetter, Bool.or_eq_true, Bool.and_eq_true, beq_iff_eq, decide_eq_true_eq] at same ⊢
  rcases same with rfl | ⟨⟨low, high⟩, equal⟩
  · exact .inl rfl
  · exact .inr ⟨⟨equal ▸ low, equal ▸ high⟩, equal.symm⟩

theorem sameLetter_trans {first second third : UInt8} (same : sameLetter first second = true)
    (same' : sameLetter second third = true) : sameLetter first third = true := by
  simp only [sameLetter, Bool.or_eq_true, Bool.and_eq_true, beq_iff_eq, decide_eq_true_eq]
    at same same' ⊢
  rcases same with rfl | ⟨⟨low, high⟩, equal⟩
  · exact same'
  · rcases same' with rfl | ⟨-, equal'⟩
    · exact .inr ⟨⟨low, high⟩, equal⟩
    · exact .inr ⟨⟨low, high⟩, equal.trans equal'⟩

/-- The same text, letters in either case. -/
def SameLetters (first second : List UInt8) : Prop :=
  List.Forall₂ (fun byte other => sameLetter byte other = true) first second

instance (first second : List UInt8) : Decidable (SameLetters first second) :=
  inferInstanceAs (Decidable (List.Forall₂ _ first second))

theorem SameLetters.refl (text : List UInt8) : SameLetters text text :=
  List.forall₂_same.mpr fun byte _ => sameLetter_refl byte

theorem SameLetters.symm {first second : List UInt8} (same : SameLetters first second) :
    SameLetters second first :=
  List.Forall₂.flip (same.imp fun _ _ => sameLetter_symm)

theorem SameLetters.trans {first second third : List UInt8} (same : SameLetters first second)
    (same' : SameLetters second third) : SameLetters first third := by
  induction same generalizing third with
  | nil => exact same'
  | cons head _ ih =>
      cases same' with
      | cons head' tail' => exact .cons (sameLetter_trans head head') (ih tail')

/-! ## Numerals -/

/-- A sign, or none. -/
inductive Sign : (negative : Bool) → List UInt8 → Prop
  | none : Sign false []
  | plus : Sign false [0x2B]
  | minus : Sign true [0x2D]

/-- A number as it is written: perhaps a sign, and digits. -/
structure Numeral (negative : Bool) (digits text : List UInt8) : Prop where
  shape : ∃ sign, Sign negative sign ∧ text = sign ++ digits
  nonempty : digits ≠ []
  all : ∀ byte ∈ digits, isDigit byte = true

variable {negative : Bool} {digits text : List UInt8} {value : ℕ}

theorem isSpace_of_isDigit {byte : UInt8} (digit : isDigit byte = true) : isSpace byte = false := by
  simp only [isDigit, Bool.and_eq_true, decide_eq_true_eq, UInt8.le_iff_toNat_le] at digit
  have low : 48 ≤ byte.toNat := digit.1
  rw [isSpace, Bool.or_eq_false_iff, Bool.and_eq_false_iff]
  refine ⟨?_, Or.inr ?_⟩
  · rw [beq_eq_false_iff_ne]
    rintro rfl
    exact absurd low (by decide)
  · rw [decide_eq_false_iff_not, UInt8.le_iff_toNat_le, Nat.not_le]
    exact Nat.lt_of_lt_of_le (by decide) low

/-- A numeral does not begin with white space. -/
theorem Numeral.stops (numeral : Numeral negative digits text) (rest : List UInt8) :
    Stops isSpace (text ++ rest) := by
  obtain ⟨⟨sign, signed, rfl⟩, nonempty, all⟩ := numeral
  cases signed with
  | none =>
      cases digits with
      | nil => exact absurd rfl nonempty
      | cons digit others => exact stops_cons.mpr (isSpace_of_isDigit (all digit (by simp)))
  | plus => exact stops_cons.mpr (by decide)
  | minus => exact stops_cons.mpr (by decide)

/-- A text without its sign. -/
def dropSign (text : List UInt8) : List UInt8 :=
  if text.head? = some 0x2B ∨ text.head? = some 0x2D then text.drop 1 else text

theorem scanInteger_eq (text : List UInt8) :
    scanInteger text =
      if (dropSign (text.dropWhile isSpace)).takeWhile isDigit = [] then none
      else some ((text.dropWhile isSpace).head? == some 0x2D,
        decimal ((dropSign (text.dropWhile isSpace)).takeWhile isDigit),
        (dropSign (text.dropWhile isSpace)).dropWhile isDigit) := by
  have drops (unsigned : List UInt8) :
      unsigned.drop (unsigned.takeWhile isDigit).length = unsigned.dropWhile isDigit := by
    obtain ⟨run, rest, rfl, all, stops⟩ := exists_run isDigit unsigned
    rw [takeWhile_run all stops, dropWhile_run all stops, List.drop_left]
  rw [← drops]
  rfl

/-- A sign is a beginning of the text that `dropSign` leaves out. -/
theorem exists_sign (text : List UInt8) :
    ∃ sign, Sign (text.head? == some 0x2D) sign ∧ text = sign ++ dropSign text := by
  cases text with
  | nil => exact ⟨[], .none, rfl⟩
  | cons byte rest =>
      by_cases plus : byte = 0x2B
      · subst plus
        exact ⟨[0x2B], .plus, by simp [dropSign]⟩
      · by_cases minus : byte = 0x2D
        · subst minus
          exact ⟨[0x2D], .minus, by simp [dropSign]⟩
        · have unsigned : ((byte :: rest).head? == some 0x2D) = false := by simp [minus]
          rw [unsigned]
          exact ⟨[], .none, by simp [dropSign, plus, minus]⟩

/-- What is left of a numeral without its sign. -/
theorem Numeral.dropSign_append (numeral : Numeral negative digits text) (rest : List UInt8) :
    dropSign (text ++ rest) = digits ++ rest ∧ ((text ++ rest).head? == some 0x2D) = negative := by
  obtain ⟨⟨sign, signed, rfl⟩, nonempty, all⟩ := numeral
  cases signed with
  | none =>
      cases digits with
      | nil => exact absurd rfl nonempty
      | cons digit others =>
          have isDigit := all digit (by simp)
          have plus : digit ≠ 0x2B := by
            rintro rfl
            cases isDigit
          have minus : digit ≠ 0x2D := by
            rintro rfl
            cases isDigit
          simp [dropSign, plus, minus]
  | plus => simp [dropSign]
  | minus => simp [dropSign]

/-- **A number is scanned exactly where one is written.** It goes as far as the digits
do. -/
theorem scanInteger_eq_some_iff :
    scanInteger text = some (negative, value, rest) ↔
      ∃ blanks numeral digits, text = blanks ++ numeral ++ rest ∧
        (∀ byte ∈ blanks, isSpace byte = true) ∧ Numeral negative digits numeral ∧
          Stops isDigit rest ∧ value = decimal digits := by
  constructor
  · intro scanned
    rw [scanInteger_eq] at scanned
    split at scanned
    · cases scanned
    · rename_i nonempty
      cases scanned
      obtain ⟨sign, signed, split⟩ := exists_sign (text.dropWhile isSpace)
      refine ⟨text.takeWhile isSpace, sign ++ (dropSign (text.dropWhile isSpace)).takeWhile isDigit,
        _, ?_, fun _ member => List.mem_takeWhile_imp member,
        ⟨⟨sign, signed, rfl⟩, nonempty, fun _ member => List.mem_takeWhile_imp member⟩,
        stops_dropWhile _ _, rfl⟩
      rw [List.append_assoc, List.append_assoc, List.takeWhile_append_dropWhile, ← split,
        List.takeWhile_append_dropWhile]
  · rintro ⟨blanks, written, digits, rfl, spaces, numeral, stops, rfl⟩
    have start : (blanks ++ written ++ rest).dropWhile isSpace = written ++ rest := by
      rw [List.append_assoc, dropWhile_run spaces (numeral.stops rest)]
    obtain ⟨unsigned, sign⟩ := numeral.dropSign_append rest
    rw [scanInteger_eq, start, unsigned, sign, takeWhile_run numeral.all stops,
      dropWhile_run numeral.all stops, if_neg numeral.nonempty]

/-- A number that starts with a digit, and is not out of range, is the one that the
digits denote. -/
theorem strtoul_of_digit {parsed : UInt32} (digit : (text.head?.map isDigit).getD false = true)
    (converted : strtoul text = some (parsed, false, rest)) :
    ∃ digits, text = digits ++ rest ∧ digits ≠ [] ∧ (∀ byte ∈ digits, isDigit byte = true) ∧
      parsed.toNat = decimal digits := by
  obtain ⟨⟨negative, value, left⟩, scanned, isConverted⟩ := Option.map_eq_some_iff.mp converted
  dsimp only at isConverted
  obtain ⟨blanks, written, digits, split, spaces, ⟨⟨sign, signed, rfl⟩, nonempty, all⟩, -, rfl⟩ :=
    scanInteger_eq_some_iff.mp scanned
  have noBlanks : blanks = [] := by
    cases blanks with
    | nil => rfl
    | cons blank others =>
        have first : isDigit blank = true := by simpa [split] using digit
        exact absurd (spaces blank (by simp)) (by simp [isSpace_of_isDigit first])
  subst noBlanks
  have unsigned : negative = false ∧ sign = [] := by
    cases signed with
    | none => exact ⟨rfl, rfl⟩
    | plus => simp [split, isDigit] at digit
    | minus => simp [split, isDigit] at digit
  obtain ⟨rfl, rfl⟩ := unsigned
  split at isConverted
  · rename_i small
    cases isConverted
    refine ⟨digits, by simpa using split, nonempty, all, ?_⟩
    simp only [Bool.false_eq_true, if_false, UInt32.toNat_ofNat', Nat.mod_eq_of_lt small]
  · cases isConverted

end HealthCheckFirmware
