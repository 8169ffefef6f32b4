import HealthCheckFirmware.Lib.CString
import HealthCheckFirmware.Lib.Crc
import HealthCheckFirmware.Lib.Sealed
import HealthCheckFirmware.Lib.PlainStore

/-!
# Single-sector stores

What the four stores that keep one snapshot per flash sector have in common: the
sector of the W25Q64, the saving of a candidate to the inactive sector and the
choice that a start-up makes between two sectors it may fail to read.
-/

set_option autoImplicit false

namespace HealthCheckFirmware

open TwoBank

/-- `HealthCheck_StatusTypeDef`. -/
inductive Status where
  | ok
  | error
  deriving DecidableEq, Repr

/-- The bytes of a sector. -/
abbrev Sector := List UInt8

/-- `W25Q64_SECTOR_SIZE`. -/
def sectorSize : ℕ := 4096

/-- `TLS_TRUST_STORE_MIN_ID`, the first number of a trust anchor. -/
def TlsTrustStore.minId : UInt8 := 1

/-- `TLS_TRUST_STORE_MAX_PERSISTED`, the number of trust anchors and the last
number of one. -/
def TlsTrustStore.maxPersisted : ℕ := 6

/-- The faults of the flash operations of one save. -/
abbrev SectorFaults := SaveFates Sector

namespace TwoBank.Format

variable {Snapshot : Type} (format : Format Sector Snapshot)

/-- What the first two reads of a start-up find, sector A first. -/
def readNewest (reads : ℕ → Bool) (banks : Banks Sector) : Option (Side × Snapshot) :=
  format.pick (format.loadIf (reads 0) banks.a) (format.loadIf (reads 1) banks.b)

theorem readNewest_readable {Faults : Type} {boot : BootFaults Faults} (readable : boot.Readable)
    (banks : Banks Sector) : format.readNewest boot.reads banks = format.newest banks := by
  simp [readNewest, Format.loadIf, Format.newest, readable 0, readable 1]

/-- What a start-up reads is in a bank, whichever reads fail. -/
theorem readNewest_loads {reads : ℕ → Bool} {banks : Banks Sector} {side : Side}
    {snapshot : Snapshot} (newest : format.readNewest reads banks = some (side, snapshot)) :
    format.load (banks.get side) = some snapshot := by
  rcases pickNewer_eq_some newest with ⟨rfl, loads⟩ | ⟨rfl, loads⟩ <;>
    exact load_of_loadIf loads

end TwoBank.Format

end HealthCheckFirmware
