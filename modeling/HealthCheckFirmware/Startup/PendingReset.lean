import HealthCheckFirmware.Reset.Erasure
import HealthCheckFirmware.Startup.Calm
import HealthCheckFirmware.Startup.ErasedFlash

/-!
# A pending reset at the start of the system

`main` probes the flash, and only if the probe succeeds does it look for the marker of a
factory reset. The stores are loaded later, by the tasks. A committed reset therefore keeps
the stores from being loaded before they are erased, as long as the probe succeeds; when it
fails, they are loaded whether or not the marker is there (`committed_reset_gates_stores`).
-/

set_option autoImplicit false

namespace HealthCheckFirmware

/-! ## The probe -/

namespace W25Q64

/-- What the probe of the flash meets: whether the mutex is created and taken, the result of
the command, and the identity that is read. -/
structure Probe where
  creates : Bool
  locks : Bool
  command : Status
  identity : Vector UInt8 3

/-- `W25Q64_IsAvailable`, once there is a mutex. -/
def isAvailable (probe : Probe) : Bool :=
  probe.locks && probe.command == .ok && probe.identity == #v[0xEF, 0x40, 0x17]

/-- `W25Q64_Init`. -/
def init (probe : Probe) : Status :=
  if probe.creates = false then .ioError
  else if isAvailable probe then .ok
  else .unavailable

end W25Q64

namespace Startup

open W25Q64 FlashLayout TwoBank

/-! ## The stores on the device -/

/-- A bank of several sectors. -/
def bankAt (flash : Flash) (base count : ℕ) : MultiSector.Bank count :=
  .ofFn fun sector => region flash (base + sector * sectorSize) sectorSize

/-- The slots of a sector of the log. -/
def slotsAt (flash : Flash) (base : ℕ) : HealthCheckLog.Slots := fun slot =>
  .ofFn fun offset => flash (base + (slot * HealthCheckLog.recordSize + offset))

/-- What the stores find in the flash. -/
def storesOf (flash : Flash) : StoreFlash where
  trust :=
    ⟨bankAt flash trustStoreA TlsTrustStore.bankSectors,
      bankAt flash trustStoreB TlsTrustStore.bankSectors⟩
  older :=
    { previousA := region flash trustStorePreviousA (TlsTrustStore.previousBankSectors * sectorSize)
      previousB := region flash trustStorePreviousB (TlsTrustStore.previousBankSectors * sectorSize)
      legacyA := region flash trustStoreLegacyA (TlsTrustStore.legacyBankSectors * sectorSize)
      legacyB := region flash trustStoreLegacyB (TlsTrustStore.legacyBankSectors * sectorSize) }
  callback := ⟨region flash callbackConfigA sectorSize, region flash callbackConfigB sectorSize⟩
  healthCheck :=
    ⟨region flash healthCheckConfigA sectorSize, region flash healthCheckConfigB sectorSize⟩
  log := ⟨slotsAt flash healthCheckLog0, slotsAt flash healthCheckLog1⟩
  credentials :=
    ⟨region flash tlsServerCredentialsA sectorSize, region flash tlsServerCredentialsB sectorSize⟩
  users := ⟨region flash userStoreA sectorSize, region flash userStoreB sectorSize⟩

theorem region_eq_erased {flash : Flash} {base size : ℕ}
    (ones : ∀ cell, base ≤ cell → cell < base + size → flash cell = 0xFF) :
    region flash base size = erased size := by
  refine List.eq_replicate_iff.mpr ⟨by rw [region, List.length_map, List.length_range], ?_⟩
  intro byte inside
  obtain ⟨offset, small, rfl⟩ := List.mem_map.mp inside
  have small := List.mem_range.mp small
  exact ones _ (Nat.le_add_right _ _) (by omega)

/-- **A device that is wiped is one whose stores are erased**, in all their layouts. -/
theorem storesOf_wiped {flash : Flash} (wiped : FactoryReset.Wiped flash) :
    storesOf flash = erasedFlash := by
  have data {base size : ℕ} (low : factoryResetDataStart ≤ base) (high : base + size ≤ capacityBytes) :
      region flash base size = erased size :=
    region_eq_erased fun cell above below => wiped.2 cell (by omega) (by omega)
  have callback {base : ℕ} (low : callbackConfigA ≤ base)
      (high : base + sectorSize ≤ factoryResetMarker) : region flash base sectorSize = erased sectorSize :=
    region_eq_erased fun cell above below => wiped.1 cell (by omega) (by omega)
  have bank {base : ℕ} (low : factoryResetDataStart ≤ base)
      (high : base + TlsTrustStore.bankSectors * sectorSize ≤ capacityBytes) :
      bankAt flash base TlsTrustStore.bankSectors = TlsTrustStore.format.blank := by
    refine Vector.ext fun sector inside => ?_
    rw [bankAt, Vector.getElem_ofFn]
    refine (data (Nat.le_add_right_of_le low) ?_).trans (Vector.getElem_replicate inside).symm
    have short : sector < 4 := inside
    have four : TlsTrustStore.bankSectors = 4 := rfl
    rw [four] at high
    unfold sectorSize at high ⊢
    omega
  have slots {base : ℕ} (low : factoryResetDataStart ≤ base)
      (high : base + sectorSize ≤ capacityBytes) :
      slotsAt flash base = HealthCheckLog.blankSector := by
    funext slot
    refine Vector.ext fun offset inside => ?_
    rw [slotsAt, Vector.getElem_ofFn]
    refine (wiped.2 _ (Nat.le_add_right_of_le low) ?_).trans (Vector.getElem_replicate inside).symm
    have slotInside : slot.val < 102 := slot.isLt
    have offsetInside : offset < 40 := inside
    have size : HealthCheckLog.recordSize = 40 := rfl
    dsimp only
    rw [size]
    unfold sectorSize at high
    omega
  unfold storesOf erasedFlash
  rw [bank (by decide) (by decide), bank (by decide) (by decide), data (by decide) (by decide),
    data (by decide) (by decide), data (by decide) (by decide), data (by decide) (by decide),
    callback (by decide) (by decide), callback (by decide) (by decide),
    data (by decide) (by decide), data (by decide) (by decide), slots (by decide) (by decide),
    slots (by decide) (by decide), data (by decide) (by decide), data (by decide) (by decide),
    data (by decide) (by decide), data (by decide) (by decide)]

/-! ## The start -/

/-- What happens to the calls of `main`. -/
structure MainCalls where
  output : Bool
  probe : Probe
  resume : FactoryReset.Boot
  ethernet : Bool
  heartBeat : Bool
  buzzer : Bool
  factoryReset : Bool
  network : Bool
  time : Bool
  healthCheck : Bool
  watchdog : Bool
  services : ServiceFaults

/-- How `main` ends: in the error handler, in a restart, with the power lost, or with the
tasks started. -/
inductive Main where
  | stopped
  | restarted
  | powerLost
  | running (started : Started)

/-- The calls of `main` after the flash, up to the start of the scheduler. The task that
handles resets is only created if the flash was found, the network task only if there is an
Ethernet interface. -/
def MainCalls.othersWork (calls : MainCalls) : Bool :=
  calls.heartBeat && calls.buzzer && (init calls.probe != .ok || calls.factoryReset)
    && (!calls.ethernet || calls.network) && calls.time && calls.healthCheck && calls.watchdog

/-- `main`. The tasks then load the stores. -/
def main (calls : MainCalls) (flash : Flash) : Main :=
  if calls.output = false then .stopped else
  let resumed := if init calls.probe = .ok then FactoryReset.resumePending calls.resume flash
    else (.continues, flash)
  match resumed with
  | (.continues, flash) =>
      if calls.othersWork then .running (startServices calls.services (storesOf flash)) else .stopped
  | (.stops _, _) => .stopped
  | (.restarts, _) => .restarted
  | (.powerLost, _) => .powerLost

/-- A start that finds the flash and goes on. -/
theorem main_running {calls : MainCalls} {flash : Flash} {started : Started}
    (probed : init calls.probe = .ok) (runs : main calls flash = .running started) :
    FactoryReset.isMarked flash = false ∧ started = startServices calls.services (storesOf flash) := by
  unfold main at runs
  dsimp only at runs
  rw [if_pos probed] at runs
  split at runs
  · cases runs
  · split at runs
    · rename_i goesOn
      split at runs
      · have unmarked := FactoryReset.unmarked_of_continues (congrArg Prod.fst goesOn)
        have same := FactoryReset.boot_unmarked calls.resume unmarked
        rw [FactoryReset.boot, goesOn] at same
        dsimp only at same
        rw [← Main.running.inj runs, same]
        exact ⟨unmarked, rfl⟩
      · cases runs
    · cases runs
    · cases runs
    · cases runs

/-- A start that does not find the flash. -/
theorem main_unprobed {calls : MainCalls} {flash : Flash} (failed : init calls.probe ≠ .ok) :
    main calls flash =
      if calls.output = true ∧ calls.othersWork = true then
        .running (startServices calls.services (storesOf flash))
      else .stopped := by
  unfold main
  dsimp only
  rw [if_neg failed]
  cases calls.output <;> cases calls.othersWork <;> rfl

/-- **A committed reset keeps the stores closed, if the flash is found.** For every flash on
which a reset is committed and all that can happen to the calls of a start: if the probe
succeeds, the tasks are started only if the marker is gone, and then they find the stores
erased, as on a new device. While the marker is there, they are started exactly if the probe
fails and nothing else stops the start; they then load the stores that were to be erased. -/
theorem committed_reset_gates_stores {flash : Flash} (committed : FactoryReset.Committed flash)
    (calls : MainCalls) :
    (∀ started, init calls.probe = .ok → main calls flash = .running started →
      FactoryReset.isMarked flash = false
        ∧ started = startServices calls.services erasedFlash)
      ∧ (FactoryReset.isMarked flash = true → ∀ started,
        main calls flash = .running started ↔
          init calls.probe ≠ .ok ∧ calls.output = true ∧ calls.othersWork = true
            ∧ started = startServices calls.services (storesOf flash)) := by
  constructor
  · intro started probed runs
    obtain ⟨unmarked, services⟩ := main_running probed runs
    rcases committed with marked | wiped
    · rw [unmarked] at marked
      cases marked
    · exact ⟨unmarked, services.trans (by rw [storesOf_wiped wiped])⟩
  · intro marked started
    constructor
    · intro runs
      have failed : init calls.probe ≠ .ok := fun probed => by
        have unmarked := (main_running probed runs).1
        rw [marked] at unmarked
        cases unmarked
      rw [main_unprobed failed] at runs
      split at runs
      · rename_i works
        exact ⟨failed, works.1, works.2, (Main.running.inj runs).symm⟩
      · cases runs
    · rintro ⟨failed, output, others, rfl⟩
      rw [main_unprobed failed, if_pos ⟨output, others⟩]

/-- A flash with nothing but the marker. -/
def onlyMarker : Flash :=
  merged (fun _ => 0xFF) factoryResetMarker
    (FactoryReset.Marker.codec.encode FactoryReset.Marker.written)

theorem isMarked_onlyMarker : FactoryReset.isMarked onlyMarker = true := by
  have blank : region (fun _ => 0xFF) factoryResetMarker FactoryReset.Marker.codec.size =
      List.replicate 8 0xFF := rfl
  rw [FactoryReset.isMarked, onlyMarker, merged_region _ _ (by decide), blank]
  decide

/-- A start in which all goes well except that the chip gives another identity. -/
def unknownChip : MainCalls where
  output := true
  probe := ⟨true, true, .ok, #v[0, 0, 0]⟩
  resume := ⟨⟨true, .ok⟩, ⟨fun _ => true, fun _ => .smooth⟩⟩
  ethernet := true
  heartBeat := true
  buzzer := true
  factoryReset := true
  network := true
  time := true
  healthCheck := true
  watchdog := true
  services := calmStart

/-- It loads the stores with the marker in the flash. -/
theorem committed_reset_gates_stores_unless_unknown :
    main unknownChip onlyMarker = .running (startServices calmStart (storesOf onlyMarker)) :=
  ((committed_reset_gates_stores (.inl isMarked_onlyMarker) unknownChip).2 isMarked_onlyMarker _).mpr
    ⟨by decide, rfl, rfl, rfl⟩

end Startup

end HealthCheckFirmware
