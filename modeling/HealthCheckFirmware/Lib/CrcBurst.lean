import Mathlib.Data.List.GetD
import Mathlib.Data.Nat.Bits
import HealthCheckFirmware.Lib.Crc

/-!
# Bursts of errors under the CRC

The loop of the CRC is linear over exclusive or (`crcBit_xor`), and no bit is lost in a
turn (`crcBit_eq_zero_iff`). So the registers of two messages of the same length differ
by the register that their difference would leave, had it started from zero
(`register_xor`). A difference of at most 32 bits enters the register as a word before
anything of it is shifted out (`register_word`), so it leaves something behind, and the
equal bits after it cannot take this away (`register_burst`).
-/

set_option autoImplicit false

namespace HealthCheckFirmware

/-! ## One turn -/

/-- The low end of a register is set. -/
theorem and_one_ne_zero_iff (crc : UInt32) : crc &&& 1 ≠ 0 ↔ crc.toNat % 2 = 1 := by
  rw [Ne, ← UInt32.toNat_inj, UInt32.toNat_and]
  have one : (1 : UInt32).toNat = 1 := rfl
  have zero : (0 : UInt32).toNat = 0 := rfl
  rw [one, zero, Nat.and_one_is_mod]
  omega

theorem crcBit_xor (first second : UInt32) :
    crcBit (first ^^^ second) = crcBit first ^^^ crcBit second := by
  have low : (first ^^^ second) &&& 1 ≠ 0 ↔ ¬ (first &&& 1 ≠ 0 ↔ second &&& 1 ≠ 0) := by
    rw [and_one_ne_zero_iff, and_one_ne_zero_iff, and_one_ne_zero_iff, UInt32.toNat_xor,
      Nat.xor_mod_two_eq_one]
  unfold crcBit
  rw [UInt32.shiftRight_xor]
  by_cases firstOdd : first &&& 1 ≠ 0
  · by_cases secondOdd : second &&& 1 ≠ 0
    · rw [if_neg (by simp [low, firstOdd, secondOdd]), if_pos firstOdd, if_pos secondOdd]
      rw [UInt32.xor_zero, UInt32.xor_comm (second >>> 1), UInt32.xor_assoc,
        ← UInt32.xor_assoc 0xEDB88320, UInt32.xor_self, UInt32.zero_xor]
    · rw [if_pos (by simp [low, firstOdd, secondOdd]), if_pos firstOdd, if_neg secondOdd]
      rw [UInt32.xor_zero, UInt32.xor_assoc, UInt32.xor_assoc, UInt32.xor_comm (second >>> 1)]
  · by_cases secondOdd : second &&& 1 ≠ 0
    · rw [if_pos (by simp [low, firstOdd, secondOdd]), if_neg firstOdd, if_pos secondOdd]
      rw [UInt32.xor_zero, UInt32.xor_assoc]
    · rw [if_neg (by simp [low, firstOdd, secondOdd]), if_neg firstOdd, if_neg secondOdd]
      rw [UInt32.xor_zero, UInt32.xor_zero, UInt32.xor_zero]

/-- The highest bit of the polynomial is set, so the shifted bit can be read back. -/
theorem crcBit_eq_zero_iff {crc : UInt32} : crcBit crc = 0 ↔ crc = 0 := by
  constructor
  · intro vanishes
    have half : (crc >>> 1).toNat = crc.toNat / 2 := by
      rw [UInt32.toNat_shiftRight, Nat.shiftRight_eq_div_pow]
      rfl
    have bound := crc.toNat_lt
    unfold crcBit at vanishes
    by_cases odd : crc &&& 1 ≠ 0
    · rw [if_pos odd, UInt32.xor_eq_zero_iff, ← UInt32.toNat_inj, half] at vanishes
      have polynomial : (0xEDB88320 : UInt32).toNat = 3988292384 := rfl
      omega
    · rw [if_neg odd, UInt32.xor_zero, ← UInt32.toNat_inj, half] at vanishes
      rw [and_one_ne_zero_iff] at odd
      have zero : (0 : UInt32).toNat = 0 := rfl
      rw [← UInt32.toNat_inj]
      omega
  · rintro rfl
    rfl

/-- A word that was shifted up is shifted down as a whole. -/
theorem crcBit_shiftLeft {word : UInt32} (small : word.toNat < 2 ^ 31) :
    crcBit (word <<< 1) = word := by
  have double : (word <<< 1).toNat = 2 * word.toNat := by
    rw [UInt32.toNat_shiftLeft, Nat.shiftLeft_eq]
    have one : (1 : UInt32).toNat % 32 = 1 := rfl
    rw [one]
    omega
  have even : ¬ ((word <<< 1) &&& 1 ≠ 0) := by
    rw [and_one_ne_zero_iff, double]
    omega
  rw [crcBit, if_neg even, UInt32.xor_zero, ← UInt32.toNat_inj, UInt32.toNat_shiftRight, double,
    Nat.shiftRight_eq_div_pow]
  have one : (1 : UInt32).toNat % 32 = 1 := rfl
  rw [one]
  omega

/-! ## The register bit by bit -/

/-- A bit as a word. -/
def bitWord (bit : Bool) : UInt32 := if bit then 1 else 0

/-- The register after some bits. -/
def register (crc : UInt32) (bits : List Bool) : UInt32 :=
  bits.foldl (fun crc bit => crcBit (crc ^^^ bitWord bit)) crc

@[simp] theorem register_nil (crc : UInt32) : register crc [] = crc := rfl

@[simp] theorem register_cons (crc : UInt32) (bit : Bool) (bits : List Bool) :
    register crc (bit :: bits) = register (crcBit (crc ^^^ bitWord bit)) bits := rfl

theorem register_append (crc : UInt32) (first second : List Bool) :
    register crc (first ++ second) = register (register crc first) second :=
  List.foldl_append

/-- Bits as a word, the first one at the low end. -/
def word : List Bool → UInt32
  | [] => 0
  | bit :: bits => bitWord bit ^^^ (word bits <<< 1)

/-- The bits of a byte, the lowest first. -/
def bits (byte : UInt8) : List Bool := List.ofFn fun index : Fin 8 => byte.toNat.testBit index

theorem toNat_word (list : List Bool) (short : list.length ≤ 32) :
    (word list).toNat < 2 ^ list.length := by
  induction list with
  | nil => decide
  | cons bit rest ih =>
      rw [List.length_cons] at short
      have small := ih (by omega)
      have room : 2 ^ rest.length ≤ 2 ^ 31 := Nat.pow_le_pow_right (by decide) (by omega)
      have double : (word rest <<< 1).toNat = 2 * (word rest).toNat := by
        rw [UInt32.toNat_shiftLeft, Nat.shiftLeft_eq]
        have one : (1 : UInt32).toNat % 32 = 1 := rfl
        rw [one]
        omega
      have low : (bitWord bit).toNat < 2 ^ (rest.length + 1) := by
        rw [Nat.pow_succ]
        cases bit with
        | false => exact Nat.mul_pos (Nat.two_pow_pos _) (by decide)
        | true =>
            have : 0 < 2 ^ rest.length := Nat.two_pow_pos _
            have one : (bitWord true).toNat = 1 := rfl
            omega
      rw [word, UInt32.toNat_xor, List.length_cons]
      refine Nat.xor_lt_two_pow low ?_
      rw [double, Nat.pow_succ]
      omega

/-- **At most 32 bits enter the register as a word**, and are shifted together. -/
theorem register_word (crc : UInt32) (list : List Bool) (short : list.length ≤ 32) :
    register crc list = Nat.repeat crcBit list.length (crc ^^^ word list) := by
  induction list generalizing crc with
  | nil => rw [register_nil, word, UInt32.xor_zero]; rfl
  | cons bit rest ih =>
      rw [List.length_cons] at short
      have small : (word rest).toNat < 2 ^ 31 :=
        Nat.lt_of_lt_of_le (toNat_word rest (by omega))
          (Nat.pow_le_pow_right (by decide) (by omega))
      have together : crcBit (crc ^^^ bitWord bit) ^^^ word rest =
          crcBit (crc ^^^ word (bit :: rest)) := by
        rw [word, ← UInt32.xor_assoc, crcBit_xor (crc ^^^ bitWord bit), crcBit_shiftLeft small]
      have outer (turns : ℕ) (start : UInt32) :
          Nat.repeat crcBit turns (crcBit start) = Nat.repeat crcBit (turns + 1) start := by
        induction turns with
        | zero => rfl
        | succ turns turn => exact congrArg crcBit turn
      rw [register_cons, ih _ (by omega), together, outer, List.length_cons]

theorem word_bits (byte : UInt8) : word (bits byte) = byte.toUInt32 := by
  have all : ∀ value : Fin 256, word (bits (UInt8.ofNat value)) =
      (UInt8.ofNat value).toUInt32 := by
    decide +kernel
  have same := all ⟨byte.toNat, byte.toNat_lt⟩
  rwa [UInt8.ofNat_toNat] at same

/-- The loop over the bytes is the loop over their bits. -/
theorem crcByte_eq_register (crc : UInt32) (byte : UInt8) :
    crcByte crc byte = register crc (bits byte) := by
  have eight : (bits byte).length = 8 := List.length_ofFn
  rw [register_word crc (bits byte) (by omega), eight, word_bits, crcByte]

theorem foldl_crcByte (crc : UInt32) (bytes : List UInt8) :
    bytes.foldl crcByte crc = register crc (bytes.flatMap bits) := by
  induction bytes generalizing crc with
  | nil => rfl
  | cons byte bytes ih =>
      rw [List.foldl_cons, ih, List.flatMap_cons, register_append, crcByte_eq_register]

/-! ## Differences -/

/-- The bits in which two messages differ. -/
def difference (first second : List Bool) : List Bool := List.zipWith xor first second

theorem bitWord_xor (first second : Bool) :
    bitWord (xor first second) = bitWord first ^^^ bitWord second := by
  cases first <;> cases second <;> rfl

/-- Two registers differ by the register of the difference. -/
theorem register_xor {first second : List Bool} (sameLength : first.length = second.length)
    (crc other : UInt32) :
    register crc first ^^^ register other second =
      register (crc ^^^ other) (difference first second) := by
  induction first generalizing second crc other with
  | nil =>
      cases second with
      | nil => rfl
      | cons _ _ => cases sameLength
  | cons bit first ih =>
      cases second with
      | nil => cases sameLength
      | cons bit' second =>
          have turn : crcBit (crc ^^^ bitWord bit) ^^^ crcBit (other ^^^ bitWord bit') =
              crcBit (crc ^^^ other ^^^ bitWord (xor bit bit')) := by
            rw [← crcBit_xor, bitWord_xor]
            congr 1
            ac_rfl
          rw [register_cons, register_cons, ih (Nat.succ.inj sameLength), turn]
          rfl

theorem repeat_crcBit_eq_zero_iff {turns : ℕ} {crc : UInt32} :
    Nat.repeat crcBit turns crc = 0 ↔ crc = 0 := by
  induction turns with
  | zero => rfl
  | succ turns ih => exact crcBit_eq_zero_iff.trans ih

/-- Equal bits neither make a difference nor take one away. -/
theorem register_same {list : List Bool} (same : ∀ bit ∈ list, bit = false) (crc : UInt32) :
    register crc list = 0 ↔ crc = 0 := by
  induction list generalizing crc with
  | nil => rfl
  | cons bit rest ih =>
      have first : bit = false := same bit (by simp)
      subst first
      rw [register_cons, ih fun bit member => same bit (by simp [member])]
      exact crcBit_eq_zero_iff.trans (by rw [bitWord, if_neg (by decide), UInt32.xor_zero])

theorem word_eq_zero_iff {list : List Bool} (short : list.length ≤ 32) :
    word list = 0 ↔ ∀ bit ∈ list, bit = false := by
  induction list with
  | nil => simp [word]
  | cons bit rest ih =>
      rw [List.length_cons] at short
      have small : (word rest).toNat < 2 ^ 31 :=
        Nat.lt_of_lt_of_le (toNat_word rest (by omega))
          (Nat.pow_le_pow_right (by decide) (by omega))
      have double : (word rest <<< 1).toNat = 2 * (word rest).toNat := by
        rw [UInt32.toNat_shiftLeft, Nat.shiftLeft_eq]
        have one : (1 : UInt32).toNat % 32 = 1 := rfl
        rw [one]
        omega
      rw [List.forall_mem_cons, ← ih (by omega), word, UInt32.xor_eq_zero_iff,
        ← UInt32.toNat_inj, double, ← UInt32.toNat_inj]
      have zero : (0 : UInt32).toNat = 0 := rfl
      have bitValue : (bitWord bit).toNat = bit.toNat := by cases bit <;> rfl
      rw [zero, bitValue]
      cases bit with
      | false => simp only [Bool.toNat_false, true_and]; omega
      | true => simp only [Bool.toNat_true, Bool.true_eq_false, false_and, iff_false]; omega

/-- **A burst of at most 32 bits leaves something in the register.** -/
theorem register_burst {before burst after : List Bool}
    (sameBefore : ∀ bit ∈ before, bit = false) (short : burst.length ≤ 32)
    (sameAfter : ∀ bit ∈ after, bit = false) :
    register 0 (before ++ burst ++ after) = 0 ↔ ∀ bit ∈ burst, bit = false := by
  have start : register 0 before = 0 := (register_same sameBefore 0).mpr rfl
  rw [register_append, register_append, register_same sameAfter, start,
    register_word 0 burst short, repeat_crcBit_eq_zero_iff, UInt32.zero_xor,
    word_eq_zero_iff short]

/-! ## Messages -/

/-- The bit of a message at a position, the bits of each byte from the lowest. -/
def bitAt (bytes : List UInt8) (position : ℕ) : Bool :=
  (bytes.getD (position / 8) 0).toNat.testBit (position % 8)

theorem getD_flatMap_bits (bytes : List UInt8) (position : ℕ) :
    (bytes.flatMap bits).getD position false = bitAt bytes position := by
  induction bytes generalizing position with
  | nil => simp [bitAt]
  | cons byte bytes ih =>
      have eight : (bits byte).length = 8 := List.length_ofFn
      rw [List.flatMap_cons]
      by_cases inside : position < 8
      · rw [List.getD_append _ _ _ _ (by omega), List.getD_eq_getElem _ _ (by omega)]
        simp only [bits, List.getElem_ofFn, bitAt, Nat.div_eq_of_lt inside, Nat.mod_eq_of_lt inside,
          List.getD_cons_zero]
      · rw [List.getD_append_right _ _ _ _ (by omega), eight, ih, bitAt, bitAt]
        have quotient : position / 8 = (position - 8) / 8 + 1 := by omega
        have remainder : (position - 8) % 8 = position % 8 := by omega
        rw [quotient, List.getD_cons_succ, remainder]

theorem length_flatMap_bits (bytes : List UInt8) : (bytes.flatMap bits).length = 8 * bytes.length := by
  induction bytes with
  | nil => rfl
  | cons byte bytes ih =>
      have eight : (bits byte).length = 8 := List.length_ofFn
      rw [List.flatMap_cons, List.length_append, ih, eight, List.length_cons]
      omega

theorem bits_injective {first second : UInt8} (same : bits first = bits second) :
    first = second := by
  have words := congrArg word same
  rw [word_bits, word_bits] at words
  have values := congrArg UInt32.toNat words
  rw [UInt8.toNat_toUInt32, UInt8.toNat_toUInt32] at values
  exact UInt8.toNat_inj.mp values

theorem flatMap_bits_injective {first second : List UInt8}
    (same : first.flatMap bits = second.flatMap bits) : first = second := by
  induction first generalizing second with
  | nil =>
      have length := congrArg List.length same
      rw [length_flatMap_bits, length_flatMap_bits, List.length_nil] at length
      exact (List.eq_nil_of_length_eq_zero (by omega)).symm
  | cons byte first ih =>
      cases second with
      | nil =>
          have length := congrArg List.length same
          rw [length_flatMap_bits, length_flatMap_bits, List.length_nil, List.length_cons] at length
          omega
      | cons byte' second =>
          rw [List.flatMap_cons, List.flatMap_cons] at same
          have eight : (bits byte).length = (bits byte').length := by
            rw [bits, bits, List.length_ofFn, List.length_ofFn]
          obtain ⟨head, tail⟩ := List.append_inj same eight
          rw [bits_injective head, ih tail]

/-- Lists of the same length without a difference are equal. -/
theorem eq_of_difference {first second : List Bool} (sameLength : first.length = second.length)
    (none : ∀ bit ∈ difference first second, bit = false) : first = second := by
  induction first generalizing second with
  | nil => exact (List.eq_nil_of_length_eq_zero sameLength.symm).symm
  | cons bit first ih =>
      cases second with
      | nil => cases sameLength
      | cons bit' second =>
          have head : xor bit bit' = false := none _ (by simp [difference])
          have tail := ih (Nat.succ.inj sameLength) fun bit member =>
            none bit (List.mem_cons_of_mem _ member)
          have same : bit = bit' := by simpa using head
          rw [tail, same]

theorem getD_difference {first second : List Bool} (sameLength : first.length = second.length)
    (position : ℕ) :
    (difference first second).getD position false =
      xor (first.getD position false) (second.getD position false) := by
  induction first generalizing second position with
  | nil => rw [List.eq_nil_of_length_eq_zero sameLength.symm]; rfl
  | cons bit first ih =>
      cases second with
      | nil => cases sameLength
      | cons bit' second =>
          cases position with
          | zero => rfl
          | succ position => exact ih (Nat.succ.inj sameLength) position

end HealthCheckFirmware
