import HealthCheckFirmware.Lib.PowerLoss

/-!
# Stores whose writes succeed or fail without effect

A store is steady when its active bank holds the snapshot in memory and the other
bank only older ones. As long as every write succeeds or leaves nothing that a
start-up could take, and no generation overflows, a mutation keeps a store steady
(`Steady.mutate`), and a start-up finds the contents that were in memory
(`Keeps.start`).

`Keeps` says the same of the banks of a device that is switched off: they keep the
given contents, or hold nothing yet.
-/

set_option autoImplicit false

namespace HealthCheckFirmware.SnapshotStore

open TwoBank

variable {Image : Type} (machine : SnapshotStore Image)

/-- The image is as good as the one before, or no version of the layout accepts
it. -/
def Ineffective (before left : Image) : Prop :=
  (machine.format.load left = machine.format.load before
      ∧ machine.older left = machine.older before)
    ∨ (machine.format.load left = none ∧ machine.older left = false)

/-- A write that succeeds, or that reports a failure and has had no effect. -/
def Orderly (fates : SaveFates Image) (before : Image) : Prop :=
  fates.Honest
    ∧ (fates = .done
      ∨ ∃ left, (fates.erase = .refused left
          ∨ (fates.erase = .done ∧ fates.program = .refused left))
        ∧ machine.Ineffective before left)

/-- The memory and the banks of a running store agree. -/
def Steady (ram : machine.Ram) : Prop :=
  Current machine.format (machine.store ram).banks (machine.store ram).active
      (machine.store ram).snapshot
    ∧ machine.contents ram = machine.loaded (machine.store ram).snapshot

/-- The banks keep the given contents, or hold nothing, which stands for the
defaults. -/
def Keeps (banks : Banks Image) (contents : machine.Contents) : Prop :=
  (∃ side snapshot, Current machine.format banks side snapshot
      ∧ machine.loaded snapshot = contents)
    ∨ (Blank machine.format banks ∧ machine.NoOlder banks
      ∧ contents = machine.loaded machine.empty)

variable {machine}

theorem Steady.keeps {ram : machine.Ram} (steady : machine.Steady ram) :
    machine.Keeps (machine.store ram).banks (machine.contents ram) :=
  .inl ⟨_, _, steady.1, steady.2.symm⟩

theorem Steady.rooted {ram : machine.Ram} (steady : machine.Steady ram) : machine.Rooted ram :=
  .inl ⟨steady.1.loads, steady.2⟩

/-- The two ways in which an orderly save of a valid candidate ends. -/
theorem save_orderly {fates : SaveFates Image} {store : Store Image machine.Snapshot}
    (orderly : machine.Orderly fates (store.banks.get store.active.other))
    {candidate : machine.Snapshot}
    (valid : machine.format.isValid
      (machine.format.write (machine.format.stamp candidate) machine.format.blank) = true) :
    let image := machine.format.write (machine.format.stamp candidate) machine.format.blank
    machine.format.save fates store candidate =
        (⟨store.banks.set store.active.other image, machine.format.stamp candidate,
          store.active.other⟩, .saved (machine.format.stamp candidate))
      ∨ ∃ left, machine.Ineffective (store.banks.get store.active.other) left
        ∧ machine.format.save fates store candidate =
          ({ store with banks := store.banks.set store.active.other left }, .failed) := by
  obtain ⟨honest, ending⟩ := orderly
  rcases machine.format.save_cases honest store candidate with
    ⟨_, _, result⟩ | ⟨erased, programmed, unverified, _⟩ | ⟨left, refused, result⟩ |
      ⟨left, cut, _⟩
  · exact .inl result
  · exfalso
    rcases ending with rfl | ⟨left, refused | ⟨_, refused⟩, _⟩
    · rcases unverified with unread | invalid
      · cases unread
      · rw [valid] at invalid
        cases invalid
    · rw [erased] at refused
      cases refused
    · rw [programmed] at refused
      cases refused
  · refine .inr ⟨left, ?_, result⟩
    rcases ending with rfl | ⟨other, left' , ineffective⟩
    · rcases refused with refused | ⟨_, refused⟩ <;> cases refused
    · have same : other = left := by
        rcases refused with refused | ⟨erased, refused⟩ <;>
          rcases left' with refused' | ⟨erased', refused'⟩
        · exact Fate.refused.inj (refused'.symm.trans refused)
        · rw [erased'] at refused
          cases refused
        · rw [refused'] at erased
          cases erased
        · exact Fate.refused.inj (refused'.symm.trans refused)
      exact same ▸ ineffective
  · exfalso
    rcases ending with rfl | ⟨other, refused | ⟨erased, refused⟩, _⟩
    · rcases cut with cut | ⟨_, cut⟩ <;> cases cut
    · rcases cut with cut | ⟨erased, _⟩
      · rw [cut] at refused
        cases refused
      · rw [erased] at refused
        cases refused
    · rcases cut with cut | ⟨_, cut⟩
      · rw [cut] at erased
        cases erased
      · rw [cut] at refused
        cases refused

theorem toNat_succ_lt {generation : UInt32} (unwrapped : generation ≠ 0xFFFFFFFF) :
    generation.toNat + 1 < 2 ^ 32 := by
  have bound := generation.toNat_lt
  have last : generation.toNat ≠ 2 ^ 32 - 1 := fun last =>
    unwrapped (UInt32.toNat_inj.mp last)
  omega

/-- **A mutation keeps a store steady.** Its contents are then those that the
mutation proposed, or the same as before. -/
theorem Steady.mutate (lawful : machine.Lawful) {ram : machine.Ram} (steady : machine.Steady ram)
    {request : machine.Request} {faults : machine.Faults}
    (orderly : machine.Orderly (machine.mutationFates ram faults) (machine.target ram))
    (unwrapped : machine.format.generation (machine.store ram).snapshot ≠ 0xFFFFFFFF) :
    machine.Steady (machine.mutate ram request faults).1
      ∧ ((∃ candidate, machine.propose ram request = .ok candidate
          ∧ machine.contents (machine.mutate ram request faults).1 = machine.loaded candidate)
        ∨ machine.contents (machine.mutate ram request faults).1 = machine.contents ram) := by
  cases proposed : machine.propose ram request with
  | error status =>
      obtain ⟨same, refused⟩ := lawful.mutate_refuses faults proposed
      have kept : machine.contents (machine.mutate ram request faults).1 = machine.contents ram :=
        lawful.contents_kept (by simp [refused])
      refine ⟨?_, .inr kept⟩
      rw [Steady, same, kept]
      exact steady
  | ok candidate =>
      obtain ⟨stored, ended⟩ := Prod.ext_iff.mp (lawful.mutate_saves proposed orderly.1)
      simp only [Prod.map_fst, Prod.map_snd, id_eq] at stored ended
      have valid := lawful.stamped_valid steady.rooted proposed
      rcases save_orderly orderly valid with saved | ⟨left, ineffective, failed⟩
      · rw [saved] at stored ended
        have contents := lawful.contents_saved ended
        have newer := generation_lt_stamp (lawful.generation_propose proposed)
          (toNat_succ_lt unwrapped)
        refine ⟨⟨?_, ?_⟩, .inl ⟨candidate, rfl, contents.trans (lawful.loaded_stamp candidate)⟩⟩
        · rw [stored]
          exact steady.1.advance (load_write valid) newer
        · rw [contents, stored]
      · rw [failed] at stored ended
        have kept : machine.contents (machine.mutate ram request faults).1
            = machine.contents ram := lawful.contents_kept (by simp [ended, Outcome.ending])
        refine ⟨⟨?_, ?_⟩, .inr kept⟩
        · rw [stored]
          refine steady.1.set_other ?_
          rcases ineffective with ⟨same, _⟩ | ⟨none, _⟩
          · exact .inr same
          · exact .inl none
        · rw [kept, stored]
          exact steady.2

/-- A mutation in which nothing fails saves what it proposes. -/
theorem mutate_done (lawful : machine.Lawful) {ram : machine.Ram} (rooted : machine.Rooted ram)
    {request : machine.Request} {faults : machine.Faults}
    (done : machine.mutationFates ram faults = .done) {candidate : machine.Snapshot}
    (proposed : machine.propose ram request = .ok candidate) :
    ∃ image, machine.format.load image = some (machine.format.stamp candidate)
      ∧ machine.store (machine.mutate ram request faults).1 =
        ⟨(machine.store ram).banks.set (machine.store ram).active.other image,
          machine.format.stamp candidate, (machine.store ram).active.other⟩
      ∧ machine.contents (machine.mutate ram request faults).1 = machine.loaded candidate := by
  have valid := lawful.stamped_valid rooted proposed
  have honest : (machine.mutationFates ram faults).Honest := done ▸ ⟨trivial, trivial⟩
  have saves := lawful.mutate_saves proposed honest
  rw [done, save_done _ valid] at saves
  obtain ⟨stored, ended⟩ := Prod.ext_iff.mp saves
  exact ⟨_, load_write valid, stored,
    (lawful.contents_saved ended).trans (lawful.loaded_stamp candidate)⟩

/-- Such a mutation keeps a store steady, with the stamped candidate in memory. -/
theorem Steady.mutate_done (lawful : machine.Lawful) {ram : machine.Ram}
    (steady : machine.Steady ram) {request : machine.Request} {faults : machine.Faults}
    (done : machine.mutationFates ram faults = .done) {candidate : machine.Snapshot}
    (proposed : machine.propose ram request = .ok candidate)
    (unwrapped : machine.format.generation (machine.store ram).snapshot ≠ 0xFFFFFFFF) :
    machine.Steady (machine.mutate ram request faults).1
      ∧ (machine.store (machine.mutate ram request faults).1).snapshot
        = machine.format.stamp candidate := by
  obtain ⟨image, loads, stored, contents⟩ :=
    SnapshotStore.mutate_done lawful steady.rooted done proposed
  have newer := generation_lt_stamp (lawful.generation_propose proposed) (toNat_succ_lt unwrapped)
  rw [Steady, stored, contents]
  exact ⟨⟨steady.1.advance loads newer, (lawful.loaded_stamp candidate).symm⟩, rfl⟩

/-- A start-up that completes has the given contents in memory, and in any case the
banks keep them. -/
def Recovers (machine : SnapshotStore Image) (contents : machine.Contents)
    (started : machine.Ram × Start machine.Snapshot) : Prop :=
  (started.2 = .ready → machine.Steady started.1 ∧ machine.contents started.1 = contents)
    ∧ machine.Keeps (machine.store started.1).banks contents

/-- A start-up on banks that hold a snapshot finds it. -/
theorem start_current (lawful : machine.Lawful) {banks : Banks Image} {side : Side}
    {snapshot : machine.Snapshot} (current : Current machine.format banks side snapshot)
    {boot : BootFaults machine.Faults} (readable : boot.Readable) :
    machine.Recovers (machine.loaded snapshot) (machine.start banks boot) := by
  obtain ⟨stored, ready, contents⟩ := lawful.start_found readable current.newest_eq
  rw [Recovers, Steady, contents, stored]
  exact ⟨fun _ => ⟨⟨current, rfl⟩, rfl⟩, .inl ⟨side, snapshot, current, rfl⟩⟩

/-- A start-up on blank banks saves the defaults. One that fails leaves the banks
blank. -/
theorem start_first {banks : Banks Image} (blank : Blank machine.format banks)
    (noOlder : machine.NoOlder banks) {boot : BootFaults machine.Faults}
    {candidate snapshot : machine.Snapshot}
    (isEmpty : machine.loaded (machine.format.stamp candidate) = machine.loaded machine.empty)
    (valid : machine.format.isValid
      (machine.format.write (machine.format.stamp candidate) machine.format.blank) = true)
    (orderly : machine.Orderly (machine.fates banks.a boot.save) banks.a)
    (saves : (machine.store (machine.start banks boot).1, (machine.start banks boot).2) =
      Prod.map id Outcome.start
        (machine.format.save (machine.fates banks.a boot.save) ⟨banks, snapshot, .b⟩ candidate))
    (contents : machine.contents (machine.start banks boot).1
      = machine.loaded (machine.store (machine.start banks boot).1).snapshot) :
    machine.Recovers (machine.loaded machine.empty) (machine.start banks boot) := by
  obtain ⟨stored, ended⟩ := Prod.ext_iff.mp saves
  simp only [Prod.map_fst, Prod.map_snd, id_eq] at stored ended
  rcases @save_orderly Image machine _ ⟨banks, snapshot, .b⟩ orderly candidate valid with
    saved | ⟨left, ineffective, failed⟩
  · rw [saved] at stored
    have current : Current machine.format _ _ _ := blank.advance .b (load_write valid)
    rw [Recovers, Steady, contents, stored]
    exact ⟨fun _ => ⟨⟨current, rfl⟩, isEmpty⟩, .inl ⟨_, _, current, isEmpty⟩⟩
  · rw [failed] at stored ended
    refine ⟨fun ready => ?_, .inr ⟨?_, ?_, rfl⟩⟩
    · rw [ended] at ready
      cases ready
    · rw [stored]
      refine blank.set _ ?_
      rcases ineffective with ⟨same, _⟩ | ⟨none, _⟩
      · exact same.trans (blank .a)
      · exact none
    · rw [stored]
      refine noOlder.set _ ?_
      rcases ineffective with ⟨_, same⟩ | ⟨_, none⟩
      · exact same.trans (noOlder .a)
      · exact none

/-- **A start-up finds what the banks keep.** What it does on blank banks is the
business of each store. -/
theorem Keeps.start (lawful : machine.Lawful) {banks : Banks Image} {contents : machine.Contents}
    (keeps : machine.Keeps banks contents) {boot : BootFaults machine.Faults}
    (readable : boot.Readable)
    (first : Blank machine.format banks → machine.NoOlder banks →
      machine.Recovers (machine.loaded machine.empty) (machine.start banks boot)) :
    machine.Recovers contents (machine.start banks boot) := by
  rcases keeps with ⟨side, snapshot, current, rfl⟩ | ⟨blank, noOlder, rfl⟩
  · exact start_current lawful current readable
  · exact first blank noOlder

/-- The stores that look for earlier layouts only in their own banks. -/
theorem Keeps.start_recovering (lawful : machine.Recovering) {banks : Banks Image}
    {contents : machine.Contents} (keeps : machine.Keeps banks contents)
    {boot : BootFaults machine.Faults} (readable : boot.Readable)
    (orderly : machine.Orderly (machine.fates banks.a boot.save) banks.a)
    {candidate : machine.Snapshot} (persists : machine.persists = some candidate)
    (valid : machine.format.isValid
      (machine.format.write (machine.format.stamp candidate) machine.format.blank) = true)
    (inStep : ∀ ram, machine.contents ram = machine.loaded (machine.store ram).snapshot) :
    machine.Recovers contents (machine.start banks boot) := by
  refine keeps.start lawful.toLawful readable fun blank noOlder => ?_
  refine start_first blank noOlder ?_ valid orderly
    (lawful.start_persists readable blank noOlder persists orderly.1) (inStep _)
  rw [lawful.empty_persists persists]

end HealthCheckFirmware.SnapshotStore
