import HealthCheckFirmware.Lib.CrcBurst

/-!
# What the checksum of a snapshot detects

All stores seal what they write with the same bitwise CRC. Two byte strings of the same
length whose differing bits lie within 32 consecutive positions never have the same
checksum, however long they are and wherever the burst is (`crc32_ne_of_burst`).
-/

set_option autoImplicit false

namespace HealthCheckFirmware.Storage

/-- **A burst of at most 32 bits changes the checksum.** -/
theorem crc32_ne_of_burst {first second : List UInt8} (sameLength : first.length = second.length)
    (differ : first ≠ second) {start : ℕ}
    (burst : ∀ position, bitAt first position ≠ bitAt second position →
      start ≤ position ∧ position < start + 32) :
    crc32 first ≠ crc32 second := by
  intro same
  have bitLength : (first.flatMap bits).length = (second.flatMap bits).length := by
    rw [length_flatMap_bits, length_flatMap_bits, sameLength]
  -- Outside of the burst the messages agree.
  have outside (position : ℕ) (away : position < start ∨ start + 32 ≤ position) :
      (difference (first.flatMap bits) (second.flatMap bits)).getD position false = false := by
    rw [getD_difference bitLength, getD_flatMap_bits, getD_flatMap_bits]
    by_contra other
    have apart : bitAt first position ≠ bitAt second position := by simpa using other
    have within := burst position apart
    omega
  have sameRegister :
      register 0 (difference (first.flatMap bits) (second.flatMap bits)) = 0 := by
    have equal := UInt32.not_inj.mp same
    rw [foldl_crcByte, foldl_crcByte] at equal
    have apart := register_xor bitLength 0xFFFFFFFF 0xFFFFFFFF
    rw [equal, UInt32.xor_self, UInt32.xor_self] at apart
    exact apart.symm
  generalize isError : difference (first.flatMap bits) (second.flatMap bits) = error
    at outside sameRegister
  have split : error = error.take start ++ (error.drop start).take 32 ++ error.drop (start + 32) := by
    rw [List.append_assoc, ← List.drop_drop, List.take_append_drop, List.take_append_drop]
  have sameBefore : ∀ bit ∈ error.take start, bit = false := by
    intro bit member
    obtain ⟨position, inside, rfl⟩ := List.mem_iff_getElem.mp member
    rw [List.length_take] at inside
    rw [List.getElem_take, ← List.getD_eq_getElem _ false]
    exact outside position (Or.inl (by omega))
  have sameAfter : ∀ bit ∈ error.drop (start + 32), bit = false := by
    intro bit member
    obtain ⟨position, inside, rfl⟩ := List.mem_iff_getElem.mp member
    rw [List.length_drop] at inside
    rw [List.getElem_drop, ← List.getD_eq_getElem _ false]
    exact outside _ (Or.inr (by omega))
  have short : ((error.drop start).take 32).length ≤ 32 := List.length_take_le _ _
  rw [split, register_burst sameBefore short sameAfter] at sameRegister
  have none : ∀ bit ∈ error, bit = false := by
    intro bit member
    rw [split, List.mem_append, List.mem_append] at member
    rcases member with (member | member) | member
    · exact sameBefore bit member
    · exact sameRegister bit member
    · exact sameAfter bit member
  rw [← isError] at none
  exact differ (flatMap_bits_injective (eq_of_difference bitLength none))

/-- A single flipped bit is detected. -/
theorem crc32_ne_of_burst_single :
    [0x41, 0x42].length = [0x41, 0x43].length ∧ crc32 [0x41, 0x42] ≠ crc32 [0x41, 0x43] := by
  refine ⟨rfl, @crc32_ne_of_burst _ _ rfl (by decide) 8 ?_⟩
  intro position apart
  by_contra away
  refine apart ?_
  rcases Nat.lt_or_ge position 8 with early | late
  · rw [bitAt, bitAt, Nat.div_eq_of_lt early]
    rfl
  · obtain ⟨index, isIndex⟩ : ∃ index, position / 8 = index + 2 := ⟨position / 8 - 2, by omega⟩
    rw [bitAt, bitAt, isIndex]
    rfl

end HealthCheckFirmware.Storage
