import HealthCheckFirmware.Lib.PowerLoss
import HealthCheckFirmware.Storage.CallbackConfig
import HealthCheckFirmware.Storage.HealthCheckConfig
import HealthCheckFirmware.Storage.TlsServerCredentials
import HealthCheckFirmware.Storage.UserStore

/-!
# Power-loss atomicity of the single-sector stores

The user store, the health-check configuration, the callback configuration and
the server credentials each keep one snapshot in two sectors. All four recover
from a power loss at any point of a write: a start-up finds the snapshot that was
last acknowledged, or the one that was being saved when the power was lost.
-/

set_option autoImplicit false

namespace HealthCheckFirmware

open TwoBank SnapshotStore

/-- The stores that keep their snapshot in a single sector. -/
inductive SingleSectorStore where
  | users
  | healthCheckConfig
  | callbackConfig
  | serverCredentials
  deriving DecidableEq, Repr

namespace SingleSectorStore

/-- The operations of each store. What the TLS library says of credentials is a
parameter. -/
def machine (checks : TlsServerCredentials.CredentialChecks) :
    SingleSectorStore → SnapshotStore Sector
  | .users => UserStore.machine
  | .healthCheckConfig => HealthCheckConfig.machine
  | .callbackConfig => CallbackConfig.machine
  | .serverCredentials => TlsServerCredentials.machine checks

theorem machine_recovering (checks : TlsServerCredentials.CredentialChecks)
    (which : SingleSectorStore) : (which.machine checks).Recovering := by
  cases which with
  | users => exact UserStore.machine_recovering
  | healthCheckConfig => exact HealthCheckConfig.machine_recovering
  | callbackConfig => exact CallbackConfig.machine_recovering
  | serverCredentials => exact TlsServerCredentials.machine_recovering checks

/-- **Power-loss atomicity.** Start from sectors that hold no valid snapshot of any
version. In every run of mutations and start-ups in which the power may be cut
during any erase or program, and all operations otherwise succeed, each completed
start-up loads the snapshot that was last settled or the one in flight when the
power was cut; in either case that is the last acknowledged snapshot (the store's
default before the first one) or one that was being saved when the power was cut
since then. -/
theorem init_loads_acknowledged_or_in_flight (checks : TlsServerCredentials.CredentialChecks)
    (which : SingleSectorStore) (sectors : Banks Sector)
    (blank : Blank (which.machine checks).format sectors)
    (noOlder : (which.machine checks).NoOlder sectors)
    (events : List (which.machine checks).Event)
    (admits : (Device.off sectors : (which.machine checks).Device).AdmitsAll events) :
    (Ledger.opening (which.machine checks).empty).AllowsAll
      ((Device.off sectors : (which.machine checks).Device).labels events) :=
  run_allowed (machine_recovering checks which) blank noOlder admits

/-- A start-up in which nothing fails. -/
def cleanReboot : CallbackConfig.machine.Event := .reboot ⟨fun _ => true, .done⟩

/-- A new configuration that is cut off while it is programmed. -/
def cutSet : CallbackConfig.machine.Event :=
  .mutate { CallbackConfig.defaultConfig with enabled := 1 } ⟨.done, .cut [], true⟩

/-- A device that has just come up on empty sectors, with the defaults persisted. -/
def freshDevice : CallbackConfig.machine.Device :=
  ((Device.off ⟨[], []⟩ : CallbackConfig.machine.Device).step cleanReboot).1

theorem cutSet_admitted : freshDevice.Admits cutSet := by
  have rejected : CallbackConfig.machine.format.load [] = none := by decide +kernel
  have generation : freshDevice.generation.toNat = 1 := by decide +kernel
  refine Device.admits_mutate ?_
  intro ram running
  refine ⟨?_, fun stamped => interrupted_cut rejected rfl _ stamped⟩
  have one : (CallbackConfig.machine.format.generation
      (CallbackConfig.machine.store ram).snapshot).toNat = 1 := by
    rw [running] at generation
    exact generation
  omega

theorem cleanReboot_admitted (device : CallbackConfig.machine.Device) :
    device.Admits cleanReboot :=
  .reboot device _ (fun _ => rfl) (interrupted_done _ _)

theorem interruptedSet_survived :
    (Ledger.opening CallbackConfig.machine.empty).AllowsAll
      ((Device.off ⟨[], []⟩ : CallbackConfig.machine.Device).labels
        [cleanReboot, cutSet, cleanReboot]) := by
  have unloaded : Blank CallbackConfig.machine.format ⟨[], []⟩ := by
    intro side
    cases side <;> decide +kernel
  exact init_loads_acknowledged_or_in_flight ⟨fun _ => true, fun _ => true, fun _ _ => true⟩
    .callbackConfig ⟨[], []⟩ unloaded (fun _ => rfl) [cleanReboot, cutSet, cleanReboot]
    ⟨cleanReboot_admitted _, cutSet_admitted, cleanReboot_admitted _, trivial⟩

end SingleSectorStore

end HealthCheckFirmware
