import HealthCheckFirmware.Lib.Run
import HealthCheckFirmware.Lib.Steady
import HealthCheckFirmware.Startup.Services
import HealthCheckFirmware.Storage.TrustMigration

/-!
# Erased flash

No store finds anything in flash that has been erased, in any of its layouts.
-/

set_option autoImplicit false

namespace HealthCheckFirmware.Startup

open TwoBank SnapshotStore

/-- The sectors of all stores, erased. -/
def erasedFlash : StoreFlash where
  trust := ⟨TlsTrustStore.format.blank, TlsTrustStore.format.blank⟩
  older :=
    { previousA := erased (TlsTrustStore.previousBankSectors * sectorSize)
      previousB := erased (TlsTrustStore.previousBankSectors * sectorSize)
      legacyA := erased (TlsTrustStore.legacyBankSectors * sectorSize)
      legacyB := erased (TlsTrustStore.legacyBankSectors * sectorSize) }
  callback := ⟨erased sectorSize, erased sectorSize⟩
  healthCheck := ⟨erased sectorSize, erased sectorSize⟩
  log := ⟨HealthCheckLog.blankSector, HealthCheckLog.blankSector⟩
  credentials := ⟨erased sectorSize, erased sectorSize⟩
  users := ⟨erased sectorSize, erased sectorSize⟩

theorem callback_erased : CallbackConfig.format.load (erased sectorSize) = none := by
  have rejected : CallbackConfig.scheme.accepts
      (CallbackConfig.scheme.layout.decode (erased sectorSize)).body = false := by
    decide
  exact load_eq_none (SealScheme.isValid_of_rejected _ rejected)

theorem healthCheck_erased : HealthCheckConfig.format.load (erased sectorSize) = none := by
  have rejected : HealthCheckConfig.scheme.accepts
      (HealthCheckConfig.scheme.layout.decode (erased sectorSize)).body = false := by
    decide
  exact load_eq_none (SealScheme.isValid_of_rejected _ rejected)

theorem healthCheckOlder_erased : HealthCheckConfig.isOlder (erased sectorSize) = false := by
  have factory : HealthCheckConfig.factoryScheme.accepts
      (HealthCheckConfig.factoryScheme.layout.decode (erased sectorSize)).body = false := by
    decide
  have previous : HealthCheckConfig.previousScheme.accepts
      (HealthCheckConfig.previousScheme.layout.decode (erased sectorSize)).body = false := by
    decide
  have legacy : HealthCheckConfig.legacyScheme.accepts
      (HealthCheckConfig.legacyScheme.layout.decode (erased sectorSize)).body = false := by
    decide
  simp only [HealthCheckConfig.isOlder, SealScheme.isValid_of_rejected _ factory,
    SealScheme.isValid_of_rejected _ previous, SealScheme.isValid_of_rejected _ legacy, Bool.or_self]

theorem blank_trust : Blank TlsTrustStore.format erasedFlash.trust := by
  intro side
  cases side <;> exact TlsTrustStore.load_erased

theorem blank_callback : Blank CallbackConfig.format erasedFlash.callback := by
  intro side
  cases side <;> exact callback_erased

theorem blank_healthCheck : Blank HealthCheckConfig.format erasedFlash.healthCheck := by
  intro side
  cases side <;> exact healthCheck_erased

theorem noOlder_healthCheck : HealthCheckConfig.machine.NoOlder erasedFlash.healthCheck := by
  intro side
  cases side <;> exact healthCheckOlder_erased

theorem blank_credentials : Blank TlsServerCredentials.format erasedFlash.credentials := by
  intro side
  cases side <;> exact TlsServerCredentials.load_erased

theorem blank_users : Blank UserStore.format erasedFlash.users := by
  intro side
  cases side <;> exact UserStore.load_erased

/-- No earlier snapshot of the trust store is found, whether or not it can be read. -/
theorem pickLater_erased (first second : Bool) :
    TlsTrustStore.pickLater
        (TlsTrustStore.readOlder TlsTrustStore.previousScheme first erasedFlash.older.previousA)
        (TlsTrustStore.readOlder TlsTrustStore.previousScheme second erasedFlash.older.previousB)
      = none
    ∧ TlsTrustStore.pickLater
        (TlsTrustStore.readOlder TlsTrustStore.legacyScheme first erasedFlash.older.legacyA)
        (TlsTrustStore.readOlder TlsTrustStore.legacyScheme second erasedFlash.older.legacyB)
      = none := by
  have previous : TlsTrustStore.previousScheme.isValid
      (erased (TlsTrustStore.previousBankSectors * sectorSize)) = false :=
    SealScheme.isValid_of_rejected _ (by decide)
  have legacy : TlsTrustStore.legacyScheme.isValid
      (erased (TlsTrustStore.legacyBankSectors * sectorSize)) = false :=
    SealScheme.isValid_of_rejected _ (by decide)
  simp only [TlsTrustStore.readOlder, erasedFlash, previous, legacy, Bool.and_false,
    Bool.false_eq_true, if_false, TlsTrustStore.pickLater, and_self]

/-- There is nothing to migrate. -/
theorem origin_erased : TlsTrustStore.origin erasedFlash.older = (.b, TlsTrustStore.emptyBody) := by
  obtain ⟨previous, legacy⟩ := pickLater_erased true true
  simp only [TlsTrustStore.origin, TlsTrustStore.olderSnapshot, previous, legacy]

end HealthCheckFirmware.Startup
