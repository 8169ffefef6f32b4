import Mathlib.Algebra.Group.Nat.Defs
import Mathlib.Data.List.Basic

/-!
# The bitwise reflected CRC-32

The checksum as the bit-at-a-time loop computes it: the register starts with all
bits set, each byte is added to its low end and shifted out bit by bit against
the reflected polynomial, and the result is complemented.
-/

set_option autoImplicit false

namespace HealthCheckFirmware

/-- One turn of the inner loop. -/
def crcBit (crc : UInt32) : UInt32 :=
  (crc >>> 1) ^^^ (if crc &&& 1 ≠ 0 then 0xEDB88320 else 0)

/-- The register after one more byte. -/
def crcByte (crc : UInt32) (byte : UInt8) : UInt32 :=
  Nat.repeat crcBit 8 (crc ^^^ byte.toUInt32)

/-- The checksum of a run of bytes. -/
def crc32 (bytes : List UInt8) : UInt32 :=
  ~~~ bytes.foldl crcByte 0xFFFFFFFF

/-- The check value of the standard: the checksum of the nine digits. -/
example : crc32 [0x31, 0x32, 0x33, 0x34, 0x35, 0x36, 0x37, 0x38, 0x39] = 0xCBF43926 := by
  decide +kernel

end HealthCheckFirmware
