import HealthCheckFirmware.Transport.TlsTransport
import Mathlib.Algebra.BigOperators.Intervals
import Mathlib.Data.FinEnum

/-!
# Writing a request and reading its answer

The two loops of a request over any results of the TLS library. Both treat a result of
zero as the end of their work: the request counts as written although it is not, and
the answer counts as read although the stream was closed before there was a line.
-/

set_option autoImplicit false

namespace HealthCheckFirmware.TlsTransport

/-! ## What is written -/

/-- From the given write on, the writes accept so many bytes. -/
def Delivered (writes : ℕ → ℤ) (start length : ℕ) : Prop :=
  ∃ count, (∀ index < count, 0 < writes (start + index)) ∧
    length ≤ ∑ index ∈ Finset.range count, (writes (start + index)).toNat

/-- Before that, a write accepts nothing and reports no error. -/
def Stalls (writes : ℕ → ℤ) (start length : ℕ) : Prop :=
  ∃ count, (∀ index < count, 0 < writes (start + index)) ∧ writes (start + count) = 0 ∧
    ∑ index ∈ Finset.range count, (writes (start + index)).toNat < length

section Writes

variable {writes : ℕ → ℤ} {start length : ℕ}

/-- The bytes that the writes accept, the first write apart from the others. -/
theorem sum_writes_succ (count : ℕ) :
    ∑ index ∈ Finset.range (count + 1), (writes (start + index)).toNat =
      ∑ index ∈ Finset.range count, (writes (start + 1 + index)).toNat + (writes start).toNat := by
  rw [Finset.sum_range_succ', Nat.add_zero]
  simp only [Nat.add_assoc, Nat.add_comm 1]

theorem accepted_succ {count : ℕ} (positive : 0 < writes start) :
    (∀ index < count + 1, 0 < writes (start + index)) ↔
      ∀ index < count, 0 < writes (start + 1 + index) := by
  rw [Nat.forall_lt_succ_left]
  simp only [Nat.add_zero, positive, true_and, Nat.add_assoc, Nat.add_comm 1]

/-- After a write that accepts something, the rest is delivered by the later ones. -/
theorem Delivered.succ (positive : 0 < writes start) :
    Delivered writes start length ↔
      Delivered writes (start + 1) (length - (writes start).toNat) := by
  constructor
  · rintro ⟨count, accepted, enough⟩
    cases count with
    | zero => exact ⟨0, by omega, by simp only [Finset.sum_range_zero] at enough ⊢; omega⟩
    | succ count =>
        rw [sum_writes_succ] at enough
        exact ⟨count, (accepted_succ positive).mp accepted, by omega⟩
  · rintro ⟨count, accepted, enough⟩
    exact ⟨count + 1, (accepted_succ positive).mpr accepted, by rw [sum_writes_succ]; omega⟩

theorem Stalls.succ (positive : 0 < writes start) :
    Stalls writes start length ↔ Stalls writes (start + 1) (length - (writes start).toNat) := by
  constructor
  · rintro ⟨count, accepted, nothing, short⟩
    cases count with
    | zero => exact absurd nothing positive.ne'
    | succ count =>
        rw [sum_writes_succ] at short
        rw [← Nat.add_assoc, Nat.add_right_comm] at nothing
        exact ⟨count, (accepted_succ positive).mp accepted, nothing, by omega⟩
  · rintro ⟨count, accepted, nothing, short⟩
    rw [Nat.add_right_comm, Nat.add_assoc] at nothing
    exact ⟨count + 1, (accepted_succ positive).mpr accepted, nothing,
      by rw [sum_writes_succ]; omega⟩

/-- A write that accepts nothing delivers nothing. -/
theorem not_delivered (refused : writes start ≤ 0) (some : length ≠ 0) :
    ¬ Delivered writes start length := by
  rintro ⟨count, accepted, enough⟩
  cases count with
  | zero =>
      rw [Finset.sum_range_zero] at enough
      omega
  | succ count => exact absurd (accepted 0 (by omega)) (by rw [Nat.add_zero]; omega)

/-- It stalls exactly if there is no error either. -/
theorem stalls_iff (refused : writes start ≤ 0) (some : length ≠ 0) :
    Stalls writes start length ↔ writes start = 0 := by
  constructor
  · rintro ⟨count, accepted, nothing, -⟩
    cases count with
    | zero => exact nothing
    | succ count => exact absurd (accepted 0 (by omega)) (by rw [Nat.add_zero]; omega)
  · intro nothing
    exact ⟨0, by omega, nothing, by rw [Finset.sum_range_zero]; omega⟩

/-- **The loop of writes succeeds also when it stalls.** -/
theorem writeAll_eq_zero_iff :
    writeAll writes start length = 0 ↔ Delivered writes start length ∨ Stalls writes start length := by
  fun_induction writeAll writes start length with
  | case1 => exact iff_of_true rfl (Or.inl ⟨0, by omega, Nat.zero_le _⟩)
  | case2 start length remains refused =>
      rw [stalls_iff refused remains, or_iff_right (not_delivered refused remains)]
  | case3 start length remains refused ih =>
      have positive : 0 < writes start := by omega
      rw [ih, Delivered.succ positive, Stalls.succ positive]

theorem not_stalls_of_delivered (delivered : Delivered writes start length) :
    ¬ Stalls writes start length := by
  fun_induction writeAll writes start length with
  | case1 => rintro ⟨_, _, _, short⟩; omega
  | case2 start length remains refused => exact absurd delivered (not_delivered refused remains)
  | case3 start length remains refused ih =>
      have positive : 0 < writes start := by omega
      rw [Stalls.succ positive]
      exact ih ((Delivered.succ positive).mp delivered)

end Writes

/-! ## What is received -/

/-- These bytes come first. -/
def Bytes (reads : ℕ → ReadByte) (line : List UInt8) : Prop :=
  ∀ index (within : index < line.length), reads index = .byte (line)[index]

/-- The line that is received: it goes to the first end of line, or as far as there is
room. -/
structure Received (reads : ℕ → ReadByte) (line : List UInt8) : Prop where
  bytes : Bytes reads line
  first : ¬ crlf <:+: line.dropLast
  room : line.length ≤ statusLineSize - 1
  whole : crlf <:+ line ∨ line.length = statusLineSize - 1

/-- The stream is closed before there is a line. -/
def EndsEarly (reads : ℕ → ReadByte) : Prop :=
  ∃ line, Bytes reads line ∧ ¬ crlf <:+: line ∧ line.length < statusLineSize - 1 ∧
    reads line.length = .eof

theorem endsLine_iff (line : List UInt8) : endsLine line = true ↔ crlf <:+ line :=
  List.isSuffixOf_iff_suffix

section Line

variable {reads : ℕ → ReadByte} {line : List UInt8} {byte : UInt8}

theorem Bytes.nil : Bytes reads [] := by
  intro index within
  exact absurd within (Nat.not_lt_zero index)

theorem bytes_snoc : Bytes reads (line ++ [byte]) ↔ Bytes reads line ∧ reads line.length = .byte byte := by
  constructor
  · intro bytes
    constructor
    · intro index within
      rw [bytes index (by simp; omega), List.getElem_append_left within]
    · rw [bytes line.length (by simp), List.getElem_append_right (Nat.le_refl _)]
      simp
  · rintro ⟨bytes, last⟩ index within
    rcases Nat.lt_or_ge index line.length with before | after
    · rw [bytes index before, List.getElem_append_left before]
    · obtain rfl : index = line.length := by
        rw [List.length_append, List.length_singleton] at within
        omega
      rw [last, List.getElem_append_right (Nat.le_refl _)]
      simp

/-- What the loop returns, from the bytes that it has so far. -/
inductive LineRead (reads : ℕ → ReadByte) : Except ℤ (List UInt8) → Prop
  | line {line : List UInt8} (received : Received reads line) : LineRead reads (.ok line)
  | eof (early : EndsEarly reads) : LineRead reads (.error 0)
  | failed {line : List UInt8} {code : ℤ} (bytes : Bytes reads line)
      (unended : ¬ crlf <:+: line) (short : line.length < statusLineSize - 1)
      (negative : code < 0) (failed : reads line.length = .failed code negative) :
      LineRead reads (.error code)

/-- The loop keeps what it has received and found no end in. -/
theorem readLine_read {room : ℕ} (bytes : Bytes reads line) (unended : ¬ crlf <:+: line)
    (capacity : line.length + room = statusLineSize - 1) :
    LineRead reads (readLine reads room line) := by
  induction room generalizing line with
  | zero =>
      refine .line ⟨bytes, ?_, by omega, Or.inr capacity⟩
      intro inside
      exact unended (inside.trans (List.dropLast_prefix line).isInfix)
  | succ room ih =>
      rw [readLine]
      split
      · rename_i ended
        exact .eof ⟨line, bytes, unended, by omega, ended⟩
      · rename_i code negative failed
        exact .failed bytes unended (by omega) negative failed
      · rename_i byte read
        have more : Bytes reads (line ++ [byte]) := bytes_snoc.mpr ⟨bytes, read⟩
        split
        · rename_i ends
          rw [endsLine_iff] at ends
          exact .line ⟨more, by rwa [List.dropLast_concat],
            by rw [List.length_append, List.length_singleton]; omega, Or.inl ends⟩
        · rename_i goes
          rw [endsLine_iff] at goes
          refine ih more ?_ (by rw [List.length_append, List.length_singleton]; omega)
          rw [List.infix_concat_iff]
          exact not_or.mpr ⟨goes, unended⟩

theorem readLine_start (reads : ℕ → ReadByte) :
    LineRead reads (readLine reads (statusLineSize - 1) []) :=
  readLine_read Bytes.nil (by decide) rfl

/-- Of two runs of bytes that come first, one continues the other. -/
theorem Bytes.continues {other : List UInt8} (first : Bytes reads line) (second : Bytes reads other)
    (shorter : line.length ≤ other.length) : line <+: other := by
  rw [List.prefix_iff_eq_take]
  refine List.ext_getElem (by rw [List.length_take]; omega) ?_
  intro index within _
  rw [List.getElem_take]
  have same := (first index within).symm.trans (second index (by omega))
  exact ReadByte.byte.inj same

/-- A received line is not the beginning of a longer run of bytes without an end in
it that is not yet full. -/
theorem Received.length_le {other : List UInt8} (received : Received reads line)
    (bytes : Bytes reads other) (unended : ¬ crlf <:+: other.dropLast)
    (short : other.length ≤ statusLineSize - 1) : other.length ≤ line.length := by
  by_contra longer
  have within : line <+: other := received.bytes.continues bytes (by omega)
  rcases received.whole with ends | full
  · refine unended (ends.isInfix.trans ?_)
    have shorter : line.length ≤ other.dropLast.length := by
      rw [List.length_dropLast]
      omega
    exact (List.prefix_of_prefix_length_le within (List.dropLast_prefix other) shorter).isInfix
  · omega

theorem Received.unique {other : List UInt8} (first : Received reads line)
    (second : Received reads other) : line = other := by
  have shorter : line.length ≤ other.length :=
    second.length_le first.bytes first.first first.room
  have longer : other.length ≤ line.length :=
    first.length_le second.bytes second.first second.room
  exact (first.bytes.continues second.bytes shorter).eq_of_length (by omega)

/-- After a run of bytes without an end, a received line goes on with another byte. -/
theorem Received.goes_on {other : List UInt8} (received : Received reads line)
    (bytes : Bytes reads other) (unended : ¬ crlf <:+: other)
    (short : other.length < statusLineSize - 1) : ∃ byte, reads other.length = .byte byte := by
  have inside : ¬ crlf <:+: other.dropLast := by
    intro earlier
    exact unended (earlier.trans (List.dropLast_prefix other).isInfix)
  have shorter : other.length ≤ line.length :=
    received.length_le bytes inside (by omega)
  rcases Nat.lt_or_ge other.length line.length with within | same
  · exact ⟨_, received.bytes other.length within⟩
  · obtain rfl : other = line := (bytes.continues received.bytes shorter).eq_of_length (by omega)
    rcases received.whole with ends | full
    · exact absurd ends.isInfix unended
    · omega

theorem readLine_eq_ok_iff :
    readLine reads (statusLineSize - 1) [] = .ok line ↔ Received reads line := by
  have read := readLine_start reads
  constructor
  · intro result
    rw [result] at read
    cases read with
    | line received => exact received
  · intro received
    generalize readLine reads (statusLineSize - 1) [] = result at read
    cases read with
    | line other => rw [received.unique other]
    | eof early =>
        obtain ⟨other, bytes, unended, short, ended⟩ := early
        obtain ⟨byte, next⟩ := received.goes_on bytes unended short
        cases ended.symm.trans next
    | failed bytes unended short negative failed =>
        obtain ⟨byte, next⟩ := received.goes_on bytes unended short
        cases failed.symm.trans next

/-- A stream that is closed early has no line. -/
theorem EndsEarly.not_received (early : EndsEarly reads) : ¬ Received reads line := by
  intro received
  obtain ⟨other, bytes, unended, short, ended⟩ := early
  obtain ⟨byte, next⟩ := received.goes_on bytes unended short
  cases ended.symm.trans next

/-- Two runs of bytes without an end, each followed by something else, are the same. -/
theorem Bytes.unique {other : List UInt8} (first : Bytes reads line) (second : Bytes reads other)
    (firstEnd : ∀ byte, reads line.length ≠ .byte byte)
    (secondEnd : ∀ byte, reads other.length ≠ .byte byte) : line = other := by
  have shorter : line.length ≤ other.length := by
    by_contra longer
    exact secondEnd _ (first other.length (by omega))
  have longer : other.length ≤ line.length := by
    by_contra longer
    exact firstEnd _ (second line.length (by omega))
  exact (first.continues second shorter).eq_of_length (by omega)

theorem readLine_eq_error_zero_iff :
    readLine reads (statusLineSize - 1) [] = .error 0 ↔ EndsEarly reads := by
  have read := readLine_start reads
  constructor
  · intro result
    generalize readLine reads (statusLineSize - 1) [] = other at read result
    cases read with
    | line received => cases result
    | eof early => exact early
    | failed bytes unended short negative failed =>
        cases result
        exact absurd negative (lt_irrefl 0)
  · intro early
    generalize readLine reads (statusLineSize - 1) [] = other at read
    cases read with
    | line received => exact absurd received early.not_received
    | eof => rfl
    | failed bytes unended short negative failed =>
        obtain ⟨other, otherBytes, -, -, ended⟩ := early
        obtain rfl := bytes.unique otherBytes (by simp [failed]) (by simp [ended])
        cases ended.symm.trans failed

end Line

/-- A status is read from the line that is received. -/
def Answered (reads : ℕ → ReadByte) (status : UInt16) : Prop :=
  ∃ line, Received reads line ∧ 12 ≤ line.length ∧
    ∃ value, scanStatus (cString line) = some value ∧ value ≤ 999 ∧ status = value.toUInt16

/-- **The answer is accepted also when there is none.** The status is then zero. -/
theorem readStatus_eq_zero_iff {reads : ℕ → ReadByte} {status : UInt16} :
    readStatus reads = (0, status) ↔ Answered reads status ∨ (EndsEarly reads ∧ status = 0) := by
  rw [readStatus, ← readLine_eq_error_zero_iff]
  have lines := @readLine_eq_ok_iff reads
  generalize readLine reads (statusLineSize - 1) [] = result at lines ⊢
  cases result with
  | error code =>
      have none : ¬ Answered reads status := by
        rintro ⟨line, received, -⟩
        cases lines.mpr received
      simp only [none, false_or, Prod.mk.injEq, Except.error.injEq, eq_comm (a := status)]
  | ok line =>
      have received : Received reads line := lines.mp rfl
      have answered : Answered reads status ↔ 12 ≤ line.length ∧
          ∃ value, scanStatus (cString line) = some value ∧ value ≤ 999 ∧
            status = value.toUInt16 := by
        constructor
        · rintro ⟨other, otherReceived, rest⟩
          rwa [received.unique otherReceived]
        · intro rest
          exact ⟨line, received, rest⟩
      rw [answered]
      by_cases short : line.length < 12
      · simp [short, badInputData, Nat.not_le.mpr short]
      · dsimp only
        rw [if_neg short]
        cases scanned : scanStatus (cString line) with
        | none => simp [badInputData]
        | some value =>
            by_cases large : 999 < value
            · simp [large, badInputData, UInt32.not_le.mpr large]
            · simp [large, Nat.not_lt.mp short, UInt32.not_lt.mp large, eq_comm]

end HealthCheckFirmware.TlsTransport
