import HealthCheckFirmware.Lib.FailedSave
import HealthCheckFirmware.Storage.Atomicity
import HealthCheckFirmware.Storage.TlsTrustStore

/-!
# What a failed mutation leaves behind

For each of the five stores with two banks: a mutation that returns anything but
success leaves the contents in memory as they were, but not always those that the
next start-up loads. When the erase and the program succeed and only the read
that verifies them fails, the inactive bank already holds the complete candidate
with a higher generation, and the next start-up takes it
(`unverified_set_takes_effect`). `failed_mutation_lasts_unless_harmless` says
exactly when a failure has no lasting effect.
-/

set_option autoImplicit false

namespace HealthCheckFirmware

open TwoBank SnapshotStore

/-- What lies outside the stores: the checks of the TLS library, and the banks of
the earlier layouts of the trust store. -/
structure StoreEnvironment where
  checks : TlsServerCredentials.CredentialChecks
  examine : List UInt8 → TlsTrustStore.Examination
  older : TlsTrustStore.OlderBanks

/-- The stores that keep a snapshot in two banks. -/
inductive TwoBankStore where
  | single (which : SingleSectorStore)
  | trustAnchors
  deriving DecidableEq, Repr

namespace TwoBankStore

/-- What a bank of the store holds. -/
def Image : TwoBankStore → Type
  | .single _ => Sector
  | .trustAnchors => TlsTrustStore.TrustBank

/-- The operations of each store. -/
def machine (environment : StoreEnvironment) : (which : TwoBankStore) → SnapshotStore which.Image
  | .single which => which.machine environment.checks
  | .trustAnchors => TlsTrustStore.machine environment.examine environment.older

theorem machine_lawful (environment : StoreEnvironment) (which : TwoBankStore) :
    (which.machine environment).Lawful := by
  cases which with
  | single which => exact (which.machine_recovering environment.checks).toLawful
  | trustAnchors => exact TlsTrustStore.machine_lawful environment.examine environment.older

/-- **A failed mutation.** Take any state that a store reaches, whichever reads of its
start-ups have failed, any request, and any pattern of reported failures of the erase,
program and read calls of the save. If the call does not succeed, the contents in memory
are unchanged; and the next start-up without faults loads the same contents exactly if the
failure was harmless: what it takes, from what the failure left in the inactive bank and
from the active one, is what is in memory. Where the active bank holds what is in memory, a
failed read-back of a complete candidate is harmless only if the candidate changes nothing
or its generation wraps round. -/
theorem failed_mutation_lasts_unless_harmless (environment : StoreEnvironment)
    (which : TwoBankStore) (ram : (which.machine environment).Ram)
    (reached : (which.machine environment).Reachable ram)
    (request : (which.machine environment).Request) (faults : (which.machine environment).Faults)
    (reported : ((which.machine environment).mutationFates ram faults).Reported)
    (failed : ∀ snapshot, ((which.machine environment).mutate ram request faults).2 ≠
      .saved snapshot)
    (boot : BootFaults (which.machine environment).Faults) (readable : boot.Readable) :
    let store := which.machine environment
    let before := store.store ram
    let after := (store.mutate ram request faults).1
    store.contents after = store.contents ram
      ∧ (store.contents (store.start (store.store after).banks boot).1 = store.contents ram
        ↔ store.HarmlessFailure ram request faults)
      ∧ ∀ candidate, store.propose ram request = .ok candidate →
        (store.mutationFates ram faults).erase = .done →
        (store.mutationFates ram faults).program = .done →
        store.format.load (before.banks.get before.active) = some before.snapshot →
        store.contents ram = store.loaded before.snapshot →
        (store.HarmlessFailure ram request faults ↔
          store.loaded candidate = store.contents ram
            ∨ store.format.generation before.snapshot = 0xFFFFFFFF) := by
  have lawful := machine_lawful environment which
  obtain ⟨kept, found⟩ := failed_mutation lawful reached request faults reported failed readable
  refine ⟨kept, found, ?_⟩
  intro candidate proposed erased programmed held inMemory
  exact harmlessFailure_of_unverified lawful reached proposed erased programmed held inMemory

end TwoBankStore

/-! ## A failure that takes effect -/

/-- A start-up in which nothing fails. -/
def faultFree : BootFaults SectorFaults := ⟨fun _ => true, .done⟩

/-- The callback store as it comes up on empty sectors. -/
def freshCallback : CallbackConfig.Ram := (CallbackConfig.init ⟨[], []⟩ faultFree).1

/-- The defaults with delivery switched on. -/
def enabledCallback : CallbackConfig.Config := { CallbackConfig.defaultConfig with enabled := 1 }

/-- Writing succeeds, but the read that verifies it fails: the call reports an
error and the memory is unchanged, yet the next start-up loads the rejected
configuration. -/
theorem unverified_set_takes_effect :
    let result := CallbackConfig.set freshCallback enabledCallback ⟨.done, .done, false⟩
    result.2 = .failed
      ∧ CallbackConfig.get result.1 = CallbackConfig.get freshCallback
      ∧ CallbackConfig.get (CallbackConfig.init result.1.banks faultFree).1 = enabledCallback
      ∧ enabledCallback ≠ CallbackConfig.get freshCallback := by
  decide +kernel

/-- An environment in which every check succeeds and no earlier layout exists. -/
def permissive : StoreEnvironment where
  checks := ⟨fun _ => true, fun _ => true, fun _ _ => true⟩
  examine _ := .authority (some [0x43])
  older := ⟨[], [], [], []⟩

/-- After a start-up of the callback store that completes, the active sector holds what is
in memory: without a readable sector the defaults have been saved. -/
theorem held_of_init {sectors : Banks Sector} {boot : BootFaults SectorFaults}
    (honest : boot.save.Honest) (ready : (CallbackConfig.init sectors boot).2 = .ready)
    {ram : CallbackConfig.Ram} (started : (CallbackConfig.init sectors boot).1 = ram) :
    CallbackConfig.format.load (ram.banks.get ram.active) = some ram.snapshot := by
  have rooted := PlainStore.start_rooted CallbackConfig.plain_lawful honest ready
  rw [← started]
  rcases rooted with ⟨held, _⟩ | ⟨unpersisted, _⟩
  · exact held
  · exact absurd unpersisted nofun

theorem reachable_init {sectors : Banks Sector} {boot : BootFaults SectorFaults}
    (honest : boot.save.Honest) (ready : (CallbackConfig.init sectors boot).2 = .ready) :
    CallbackConfig.machine.Reachable (CallbackConfig.init sectors boot).1 :=
  @SnapshotStore.Reachable.start _ CallbackConfig.machine sectors boot (fun _ => honest) ready

theorem propose_enabled (ram : CallbackConfig.Ram) :
    CallbackConfig.propose ram enabledCallback =
      .ok ⟨{ ram.snapshot.body with config := enabledCallback }, ram.snapshot.crc⟩ := by
  have valid : CallbackConfig.configIsValid enabledCallback = true := by decide +kernel
  simp [CallbackConfig.propose, CallbackConfig.setCandidate, valid, Sealed.propose, Except.map]

/-- A set whose erase fails and leaves an unreadable sector has no lasting effect. -/
theorem failed_erase_has_no_effect :
    let result := CallbackConfig.set freshCallback enabledCallback ⟨.refused [], .done, true⟩
    result.2 = .failed
      ∧ CallbackConfig.get result.1 = CallbackConfig.get freshCallback
      ∧ CallbackConfig.get (CallbackConfig.init result.1.banks faultFree).1 =
          CallbackConfig.get freshCallback := by
  have ready : (CallbackConfig.init ⟨[], []⟩ faultFree).2 = .ready := by decide +kernel
  have failed : (CallbackConfig.set freshCallback enabledCallback ⟨.refused [], .done, true⟩).2 =
      .failed := by decide +kernel
  have unloaded : CallbackConfig.format.load [] = none := by decide +kernel
  have law (ram : CallbackConfig.Ram) (reached : CallbackConfig.machine.Reachable ram)
      (held : CallbackConfig.format.load (ram.banks.get ram.active) = some ram.snapshot)
      {config : CallbackConfig.Config} {candidate : CallbackConfig.Snapshot}
      (proposed : CallbackConfig.propose ram config = .ok candidate)
      (failed : (CallbackConfig.set ram config ⟨.refused [], .done, true⟩).2 = .failed) :
      let after := (CallbackConfig.set ram config ⟨.refused [], .done, true⟩).1
      CallbackConfig.get after = CallbackConfig.get ram
        ∧ CallbackConfig.get (CallbackConfig.init after.banks faultFree).1 =
          CallbackConfig.get ram := by
    obtain ⟨kept, found, _⟩ :=
      TwoBankStore.failed_mutation_lasts_unless_harmless permissive (.single .callbackConfig) ram
        reached config ⟨.refused [], .done, true⟩ ⟨⟨trivial, trivial⟩, trivial, trivial⟩
        (fun snapshot saved => absurd (failed.symm.trans saved) nofun) faultFree (fun _ => rfl)
    exact ⟨kept, found.mpr (harmlessFailure_of_refused proposed rfl unloaded held rfl)⟩
  have reached : CallbackConfig.machine.Reachable freshCallback :=
    reachable_init ⟨trivial, trivial⟩ ready
  have honest : faultFree.save.Honest := ⟨trivial, trivial⟩
  have held := held_of_init honest ready (show _ = freshCallback from rfl)
  exact ⟨failed, law freshCallback reached held (propose_enabled freshCallback) failed⟩

end HealthCheckFirmware
