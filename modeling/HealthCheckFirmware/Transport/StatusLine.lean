import HealthCheckFirmware.Lib.CScan
import HealthCheckFirmware.Transport.Connection

/-!
# The status line of an answer

Which answers `tlsTransport_ReadStatus` accepts, and with what status. The conversion
takes more than status lines: it skips white space of every kind, takes signs, takes
numbers of fewer digits and cuts longer ones. A line without an end is taken as far as
it was read, and a stream closed before its first line counts as a status of zero.
-/

set_option autoImplicit false

namespace HealthCheckFirmware.TlsTransport

/-! ## The grammar -/

/-- A status line: the version, spaces, three digits, and a space or the end. -/
def WellFormed (line : List UInt8) (status : UInt16) : Prop :=
  ∃ minor spaces code rest,
    line = ascii "HTTP/1." ++ (minor ++ (spaces ++ (code ++ rest))) ∧
      minor ≠ [] ∧ (∀ byte ∈ minor, isDigit byte = true) ∧
        spaces ≠ [] ∧ (∀ byte ∈ spaces, byte = 0x20) ∧
          code.length = 3 ∧ (∀ byte ∈ code, isDigit byte = true) ∧
            (rest = crlf ∨ rest.head? = some 0x20) ∧ status = UInt16.ofNat (decimal code)

/-- The stream starts with a status line. -/
def StatusLine (reads : ℕ → ReadByte) (status : UInt16) : Prop :=
  ∃ line, Received reads line ∧ crlf <:+ line ∧ WellFormed line status

/-- `resourceHealthy` of `healthCheckService_CheckResource`. -/
def Result.resourceHealthy (result : Result) : Bool :=
  result.status == .ok && result.httpStatus == 200

/-- A status is read exactly from a status line, and a resource is healthy only if its
status is 200. -/
def ReadsStatusLines (reads : ℕ → ReadByte) : Prop :=
  (∀ status, readStatus reads = (0, status) ↔ StatusLine reads status) ∧
    ∀ arguments calls, calls.reads = reads →
      (request arguments calls).resourceHealthy = true → StatusLine reads 200

/-- What the conversion of a text takes: white space before each number, signs, and a
number of up to three characters wherever the digits before it end. -/
def Lenient (text : List UInt8) (negative : Bool) (code : List UInt8) : Prop :=
  ∃ blanks minorNegative minor first separators second rest,
    text = ascii "HTTP/1." ++ (blanks ++ first ++ (separators ++ (second ++ rest))) ∧
      (∀ byte ∈ blanks, isSpace byte = true) ∧ Numeral minorNegative minor first ∧
        Stops isDigit (separators ++ (second ++ rest)) ∧
          (∀ byte ∈ separators, isSpace byte = true) ∧ Numeral negative code second ∧
            second.length ≤ 3 ∧ (second.length = 3 ∨ Stops isDigit rest)

/-- A line that is accepted: the conversion takes it, and a negative number is zero. -/
def Scanned (line : List UInt8) (status : UInt16) : Prop :=
  12 ≤ line.length ∧ ∃ negative code, Lenient (cString line) negative code ∧
    (negative = true → decimal code = 0) ∧ status = UInt16.ofNat (decimal code)

/-- The stream has a first line, and if that is accepted, then it is a status line. -/
def Orderly (reads : ℕ → ReadByte) : Prop :=
  ¬ EndsEarly reads ∧
    ∀ line, Received reads line → (∃ status, Scanned line status) →
      crlf <:+ line ∧ ∃ status, WellFormed line status

/-! ## The conversion -/

section Conversion

variable {text code rest second : List UInt8} {negative : Bool} {value : UInt32}

/-- The number of up to three characters that is scanned at the start of a text. -/
theorem scanInteger_take {number : ℕ} (stops : Stops isSpace text) :
    (∃ left, scanInteger (text.take 3) = some (negative, number, left)) ↔
      ∃ second rest code, text = second ++ rest ∧ Numeral negative code second ∧
        second.length ≤ 3 ∧ (second.length = 3 ∨ Stops isDigit rest) ∧ number = decimal code := by
  constructor
  · rintro ⟨left, scanned⟩
    obtain ⟨blanks, second, code, split, spaces, numeral, ends, rfl⟩ :=
      scanInteger_eq_some_iff.mp scanned
    have unblank : blanks = [] := by
      cases blanks with
      | nil => rfl
      | cons blank blanks =>
          have space : isSpace blank = true := spaces blank (by simp)
          have next : text.head? = some blank := by
            have head := congrArg List.head? split
            simpa [List.head?_take] using head
          rw [stops blank next] at space
          cases space
    subst unblank
    have length := congrArg List.length split
    simp only [List.nil_append, List.length_append, List.length_take] at length
    refine ⟨second, left ++ text.drop 3, code, ?_, numeral, by omega, ?_, rfl⟩
    · rw [← List.append_assoc]
      exact (List.take_append_drop 3 text).symm.trans (by rw [split, List.nil_append])
    · by_cases full : second.length = 3
      · exact Or.inl full
      · right
        cases left with
        | nil =>
            have short : text.length ≤ 3 := by
              simp only [List.length_nil] at length
              omega
            rw [List.drop_eq_nil_of_le short]
            exact Stops.nil
        | cons byte left => exact stops_cons.mpr (stops_cons.mp ends)
  · rintro ⟨second, rest, code, rfl, numeral, short, ends, rfl⟩
    refine ⟨rest.take (3 - second.length), scanInteger_eq_some_iff.mpr
      ⟨[], second, code, ?_, by simp, numeral, ?_, rfl⟩⟩
    · rw [List.take_append, List.take_of_length_le short, List.nil_append]
    · rcases ends with full | ends
      · rw [full]
        exact Stops.nil
      · cases rest with
        | nil => rw [List.take_nil]; exact Stops.nil
        | cons byte rest =>
            cases 3 - second.length with
            | zero => exact Stops.nil
            | succ room => exact stops_cons.mpr (stops_cons.mp ends)

/-- **What the conversion takes.** -/
theorem scanStatus_eq_some_iff :
    scanStatus text = some value ↔ ∃ negative code, Lenient text negative code ∧
      value = if negative then -UInt32.ofNat (decimal code) else UInt32.ofNat (decimal code) := by
  constructor
  · intro scanned
    unfold scanStatus at scanned
    split at scanned
    swap
    · cases scanned
    rename_i version
    obtain ⟨after, rfl⟩ := List.isPrefixOf_iff_prefix.mp version
    obtain ⟨⟨minorNegative, minorValue, left⟩, minorScanned, codeScanned⟩ :=
      Option.bind_eq_some_iff.mp scanned
    obtain ⟨⟨negative, number, left'⟩, numberScanned, rfl⟩ :=
      Option.map_eq_some_iff.mp codeScanned
    rw [show (7 : ℕ) = (ascii "HTTP/1.").length from rfl, List.drop_left] at minorScanned
    obtain ⟨blanks, first, minor, rfl, spaces, minorNumeral, minorEnds, -⟩ :=
      scanInteger_eq_some_iff.mp minorScanned
    obtain ⟨second, rest, code, split, numeral, short, ends, rfl⟩ :=
      (scanInteger_take (stops_dropWhile isSpace left)).mp ⟨left', numberScanned⟩
    have parts : left = left.takeWhile isSpace ++ (second ++ rest) := by
      rw [← split, List.takeWhile_append_dropWhile]
    refine ⟨negative, code, ⟨blanks, minorNegative, minor, first, left.takeWhile isSpace, second,
      rest, by rw [← parts], spaces, minorNumeral, by rwa [← parts],
      fun _ member => List.mem_takeWhile_imp member, numeral, short, ends⟩, rfl⟩
  · rintro ⟨negative, code, ⟨blanks, minorNegative, minor, first, separators, second, rest, rfl,
      spaces, minorNumeral, minorEnds, separate, numeral, short, ends⟩, rfl⟩
    obtain ⟨left, scanned⟩ := (scanInteger_take (numeral.stops rest)).mpr
      ⟨second, rest, code, rfl, numeral, short, ends, rfl⟩
    have minorScanned :=
      scanInteger_eq_some_iff.mpr ⟨blanks, first, minor, rfl, spaces, minorNumeral, minorEnds, rfl⟩
    rw [scanStatus, if_pos (List.isPrefixOf_iff_prefix.mpr (List.prefix_append _ _)),
      show (7 : ℕ) = (ascii "HTTP/1.").length from rfl, List.drop_left, minorScanned,
      Option.bind_some]
    dsimp only
    rw [dropWhile_run separate (numeral.stops rest), scanned]
    rfl

end Conversion

/-! ## Accepted lines -/

section Lines

variable {line code : List UInt8} {status : UInt16}

theorem decimal_lt (digits : ∀ byte ∈ code, isDigit byte = true) :
    decimal code < 10 ^ code.length := by
  induction code using List.reverseRecOn with
  | nil => decide
  | append_singleton digits digit ih =>
      have last : isDigit digit = true := digits digit (by simp)
      simp only [isDigit, Bool.and_eq_true, decide_eq_true_eq, UInt8.le_iff_toNat_le] at last
      have high : digit.toNat ≤ 57 := last.2
      have earlier := ih fun byte member => digits byte (List.mem_append_left _ member)
      rw [decimal_append_digit, List.length_append, List.length_singleton, Nat.pow_succ]
      omega

/-- The status is accepted unless it is a negative number other than zero. -/
theorem status_le_iff {negative : Bool} {number : ℕ} (small : number < 1000) :
    (if negative then -UInt32.ofNat number else UInt32.ofNat number) ≤ 999 ↔
      (negative = true → number = 0) := by
  cases negative with
  | false =>
      simp only [Bool.false_eq_true, if_false, false_implies, iff_true, UInt32.le_iff_toNat_le,
        UInt32.toNat_ofNat']
      exact Nat.le_trans (Nat.mod_le _ _) (by change number ≤ 999; omega)
  | true =>
      simp only [if_true, true_implies, UInt32.le_iff_toNat_le, UInt32.toNat_neg,
        UInt32.toNat_ofNat']
      change (2 ^ 32 - number % 2 ^ 32) % 2 ^ 32 ≤ 999 ↔ number = 0
      omega

theorem toUInt16_status {negative : Bool} {number : ℕ} (zero : negative = true → number = 0) :
    (if negative then -UInt32.ofNat number else UInt32.ofNat number).toUInt16 =
      UInt16.ofNat number := by
  cases negative with
  | false => simp
  | true =>
      rw [zero rfl]
      rfl

/-- The code has at most three digits. -/
theorem Lenient.small {text : List UInt8} {negative : Bool} (lenient : Lenient text negative code) :
    decimal code < 1000 := by
  obtain ⟨_, _, _, _, _, second, _, _, _, _, _, _, ⟨⟨sign, -, rfl⟩, -, digits⟩, short, -⟩ := lenient
  have bound := decimal_lt digits
  rw [List.length_append] at short
  exact Nat.lt_of_lt_of_le bound (Nat.pow_le_pow_right (by decide) (by omega : code.length ≤ 3))

/-- The lines whose conversion the code accepts. -/
theorem scanned_iff :
    (12 ≤ line.length ∧ ∃ value, scanStatus (cString line) = some value ∧ value ≤ 999 ∧
      status = value.toUInt16) ↔ Scanned line status := by
  refine and_congr_right fun _ => ?_
  constructor
  · rintro ⟨value, converted, small, rfl⟩
    obtain ⟨negative, code, lenient, rfl⟩ := scanStatus_eq_some_iff.mp converted
    have zero := (status_le_iff lenient.small).mp small
    exact ⟨negative, code, lenient, zero, toUInt16_status zero⟩
  · rintro ⟨negative, code, lenient, zero, rfl⟩
    exact ⟨_, scanStatus_eq_some_iff.mpr ⟨negative, code, lenient, rfl⟩,
      (status_le_iff lenient.small).mpr zero, (toUInt16_status zero).symm⟩

theorem answered_iff {reads : ℕ → ReadByte} :
    Answered reads status ↔ ∃ line, Received reads line ∧ Scanned line status := by
  simp only [Answered, scanned_iff]

theorem zero_notMem_of_isDigit (digits : ∀ byte ∈ code, isDigit byte = true) : 0 ∉ code := by
  intro member
  exact absurd (digits 0 member) (by decide)

/-- A status line is accepted, with the status that it names. -/
theorem WellFormed.scanned (wellFormed : WellFormed line status) : Scanned line status := by
  obtain ⟨minor, spaces, code, rest, rfl, some, minorDigits, separated, blank, three, digits, -, rfl⟩ :=
    wellFormed
  have noZero : 0 ∉ ascii "HTTP/1." ++ (minor ++ (spaces ++ code)) := by
    simp only [List.mem_append, not_or]
    refine ⟨by decide, zero_notMem_of_isDigit minorDigits, ?_, zero_notMem_of_isDigit digits⟩
    intro member
    exact absurd (blank 0 member) (by decide)
  have text : cString (ascii "HTTP/1." ++ (minor ++ (spaces ++ (code ++ rest)))) =
      ascii "HTTP/1." ++ ([] ++ minor ++ (spaces ++ (code ++ cString rest))) := by
    have grouped := cString_append_of_nonzero noZero rest
    simpa only [List.append_assoc, List.nil_append] using grouped
  have ends : Stops isDigit (spaces ++ (code ++ cString rest)) := by
    obtain ⟨space, others, rfl⟩ := List.exists_cons_of_ne_nil separated
    exact stops_cons.mpr (by rw [blank space (by simp)]; decide)
  have space : ∀ byte ∈ spaces, isSpace byte = true := by
    intro byte member
    rw [blank byte member]
    decide
  have codeSome : code ≠ [] := by
    rintro rfl
    cases three
  refine ⟨?_, false, code, ?_, by simp, rfl⟩
  · have minorLength := List.length_pos_of_ne_nil some
    have spacesLength := List.length_pos_of_ne_nil separated
    have version : (ascii "HTTP/1.").length = 7 := rfl
    simp only [List.length_append]
    omega
  · exact ⟨[], false, minor, minor, spaces, code, cString rest, text, by simp,
      ⟨⟨[], .none, rfl⟩, some, minorDigits⟩, ends, space, ⟨⟨[], .none, rfl⟩, codeSome, digits⟩,
      by omega, Or.inl three⟩

/-- A line has one status. -/
theorem Scanned.unique {other : UInt16} (first : Scanned line status) (second : Scanned line other) :
    status = other := by
  obtain ⟨-, value, converted, -, rfl⟩ := scanned_iff.mpr first
  obtain ⟨-, value', converted', -, rfl⟩ := scanned_iff.mpr second
  cases converted.symm.trans converted'
  rfl

end Lines

/-! ## Whole streams -/

theorem StatusLine.answered {reads : ℕ → ReadByte} {status : UInt16}
    (answer : StatusLine reads status) : Answered reads status := by
  obtain ⟨line, received, -, wellFormed⟩ := answer
  exact answered_iff.mpr ⟨line, received, wellFormed.scanned⟩

/-- The iff for streams, without the verdict on the resource. -/
theorem readStatus_iff_of_orderly {reads : ℕ → ReadByte} (orderly : Orderly reads)
    (status : UInt16) : readStatus reads = (0, status) ↔ StatusLine reads status := by
  rw [readStatus_eq_zero_iff]
  constructor
  · rintro (answered | ⟨early, -⟩)
    · obtain ⟨line, received, scanned⟩ := answered_iff.mp answered
      obtain ⟨ends, other, wellFormed⟩ := orderly.2 line received ⟨status, scanned⟩
      rw [scanned.unique wellFormed.scanned]
      exact ⟨line, received, ends, wellFormed⟩
    · exact absurd early orderly.1
  · intro answer
    exact Or.inl answer.answered

theorem readStatus_fst_eq_zero_iff {reads : ℕ → ReadByte} :
    (readStatus reads).1 = 0 ↔ (∃ status, Answered reads status) ∨ EndsEarly reads := by
  have answers := fun status => @readStatus_eq_zero_iff reads status
  generalize readStatus reads = read at answers ⊢
  obtain ⟨code, status⟩ := read
  constructor
  · intro zero
    obtain rfl : code = 0 := zero
    exact ((answers status).mp rfl).imp (fun answered => ⟨status, answered⟩) And.left
  · rintro (⟨other, answered⟩ | early)
    · exact congrArg Prod.fst ((answers other).mpr (Or.inl answered))
    · exact congrArg Prod.fst ((answers 0).mpr (Or.inr ⟨early, rfl⟩))

/-- A stream is orderly exactly if success means that it starts with a status line. -/
theorem orderly_iff {reads : ℕ → ReadByte} :
    Orderly reads ↔ ((readStatus reads).1 = 0 → ∃ status, StatusLine reads status) := by
  constructor
  · intro orderly read
    have shape : readStatus reads = (0, (readStatus reads).2) := Prod.ext read rfl
    exact ⟨_, (readStatus_iff_of_orderly orderly _).mp shape⟩
  · intro answers
    constructor
    · intro early
      obtain ⟨status, line, received, -⟩ := answers (readStatus_fst_eq_zero_iff.mpr (.inr early))
      exact early.not_received received
    · rintro line received ⟨status, scanned⟩
      have answered : Answered reads status := answered_iff.mpr ⟨line, received, scanned⟩
      obtain ⟨other, otherLine, otherReceived, ends, wellFormed⟩ :=
        answers (readStatus_fst_eq_zero_iff.mpr (.inl ⟨status, answered⟩))
      rw [received.unique otherReceived]
      exact ⟨ends, other, wellFormed⟩

/-- **Status lines are read as such from the orderly streams, and only from them.** -/
theorem readsStatusLines_iff (reads : ℕ → ReadByte) : ReadsStatusLines reads ↔ Orderly reads := by
  constructor
  · rintro ⟨exact, -⟩
    constructor
    · intro early
      obtain ⟨line, received, -⟩ :=
        (exact 0).mp (readStatus_eq_zero_iff.mpr (Or.inr ⟨early, rfl⟩))
      exact early.not_received received
    · rintro line received ⟨status, scanned⟩
      have answered : Answered reads status := answered_iff.mpr ⟨line, received, scanned⟩
      obtain ⟨other, otherReceived, ends, wellFormed⟩ :=
        (exact status).mp (readStatus_eq_zero_iff.mpr (Or.inl answered))
      rw [received.unique otherReceived]
      exact ⟨ends, status, wellFormed⟩
  · intro orderly
    refine ⟨readStatus_iff_of_orderly orderly, ?_⟩
    rintro arguments calls rfl healthy
    simp only [Result.resourceHealthy, Bool.and_eq_true, beq_iff_eq] at healthy
    have read := readStatus_of_ok healthy.1
    rw [healthy.2] at read
    exact (readStatus_iff_of_orderly orderly 200).mp read

/-! ## A status of four digits -/

/-- The bytes of a stream that is closed after them. -/
def stream (bytes : List UInt8) (index : ℕ) : ReadByte := (bytes[index]?.map .byte).getD .eof

/-- What follows the code of a status line. -/
theorem WellFormed.after_code {line : List UInt8} {status : UInt16}
    (wellFormed : WellFormed line status) :
    let rest := (((line.drop 7).dropWhile isDigit).dropWhile (· == 0x20)).drop 3
    rest = crlf ∨ rest.head? = some 0x20 := by
  obtain ⟨minor, spaces, code, rest, rfl, -, minorDigits, separated, blank, three, digits, ends, -⟩ :=
    wellFormed
  have space : ∀ byte ∈ spaces, (byte == 0x20) = true := by
    intro byte member
    rw [blank byte member]
    rfl
  have minorEnds : Stops isDigit (spaces ++ (code ++ rest)) := by
    obtain ⟨first, others, rfl⟩ := List.exists_cons_of_ne_nil separated
    exact stops_cons.mpr (by rw [blank first (by simp)]; decide)
  have spacesEnd : Stops (· == 0x20) (code ++ rest) := by
    obtain ⟨digit, others, rfl⟩ := List.exists_cons_of_length_pos (by omega : 0 < code.length)
    refine stops_cons.mpr ?_
    rw [beq_eq_false_iff_ne]
    rintro rfl
    exact absurd (digits 0x20 (by simp)) (by decide)
  rw [show (7 : ℕ) = (ascii "HTTP/1.").length from rfl, List.drop_left,
    dropWhile_run minorDigits minorEnds, dropWhile_run space spacesEnd, ← three, List.drop_left]
  exact ends

/-- The answer of a server with a status of its own making. -/
def longCode : List UInt8 := ascii "HTTP/1.1 2000\r\n"

theorem readStatus_longCode : readStatus (stream longCode) = (0, 200) := by decide

theorem not_statusLine_longCode (status : UInt16) : ¬ StatusLine (stream longCode) status := by
  have whole : readLine (stream longCode) (statusLineSize - 1) [] = .ok longCode := by rfl
  rintro ⟨line, received, -, wellFormed⟩
  cases (readLine_eq_ok_iff.mp whole).unique received
  exact absurd wellFormed.after_code (by decide)

theorem longCode_not_orderly : ¬ Orderly (stream longCode) := by
  intro orderly
  obtain ⟨status, answer⟩ := orderly_iff.mp orderly (congrArg Prod.fst readStatus_longCode)
  exact not_statusLine_longCode status answer

/-- **A status of 2000 is taken for 200**, and the resource for a healthy one. -/
theorem long_code_is_healthy :
    readStatus (stream longCode) = (0, 200) ∧ ¬ StatusLine (stream longCode) 200 ∧
      (request (probe [])
        (verifiedCalls (fun _ => 512) (stream longCode))).resourceHealthy = true := by
  refine ⟨readStatus_longCode, not_statusLine_longCode 200, ?_⟩
  · obtain ⟨text, built, length⟩ := Option.map_eq_some_iff.mp probe_length
    obtain ⟨result, runs⟩ := request_of_established
      (probe_established [] (fun _ => 512) (stream longCode))
    obtain ⟨status, httpStatus⟩ :=
      @exchange_status_of_written (verifiedCalls (fun _ => 512) (stream longCode)) result
        .connectError text (writeAll_eq_zero_iff.mpr (Or.inl (delivered_of_room (by omega))))
    rw [runs, built, Result.resourceHealthy, status, httpStatus]
    change ((if (readStatus (stream longCode)).1 = 0 then Status.ok else .protocolError) == .ok
      && (readStatus (stream longCode)).2 == 200) = true
    rw [readStatus_longCode]
    rfl

end HealthCheckFirmware.TlsTransport
