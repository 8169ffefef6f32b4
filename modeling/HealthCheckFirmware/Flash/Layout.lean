import HealthCheckFirmware.Flash.SectorErase

/-!
# Where the stores lie in the flash

The addresses of `flash_layout.h`. Sectors are given out from the top of the device
downwards.
-/

set_option autoImplicit false

namespace HealthCheckFirmware.FlashLayout

open W25Q64

/-- The address that lies the given number of sectors below the end of the device. -/
def fromTop (sectors : ℕ) : ℕ := capacityBytes - sectors * sectorSize

def userStoreA : ℕ := fromTop 2
def userStoreB : ℕ := fromTop 1
def healthCheckConfigA : ℕ := fromTop 4
def healthCheckConfigB : ℕ := fromTop 3
def tlsServerCredentialsA : ℕ := fromTop 6
def tlsServerCredentialsB : ℕ := fromTop 5
def healthCheckLog0 : ℕ := fromTop 8
def healthCheckLog1 : ℕ := fromTop 7
def trustStoreLegacyA : ℕ := fromTop 12
def trustStoreLegacyB : ℕ := fromTop 10
def trustStoreA : ℕ := fromTop 26
def trustStoreB : ℕ := fromTop 22
def factoryResetMarker : ℕ := fromTop 27
def factoryResetDataStart : ℕ := fromTop 26
def factoryResetDataLength : ℕ := 26 * sectorSize
def callbackConfigA : ℕ := fromTop 29
def callbackConfigB : ℕ := fromTop 28
def trustStorePreviousA : ℕ := fromTop 18
def trustStorePreviousB : ℕ := fromTop 15

end HealthCheckFirmware.FlashLayout
