import HealthCheckFirmware.Lib.SnapshotStore
import Mathlib.Tactic.Tauto

/-!
# What a failed mutation of a two-bank store leaves

A mutation that reports a failure does not change the contents in memory. What
the next start-up finds depends on the image that the failed write left in the
inactive bank (`leftBy`) and on the active one, which need not hold what is in
memory after a start-up that could not read it. `HarmlessFailure` says when the
two do no harm, and `SnapshotStore.failed_mutation` that the contents found are
the old ones in exactly these cases.

The point that matters is the last one. When both writes are carried out and only
the read that verifies them fails, the bank already holds the complete candidate
with the next generation, and a start-up takes it (`harmless_candidate`).
-/

set_option autoImplicit false

namespace HealthCheckFirmware.SnapshotStore

open TwoBank

variable {Image : Type} (machine : SnapshotStore Image)

/-! ## The states of a running store -/

/-- The states a store reaches: by a start-up on any flash, whichever reads fail, and from
there by mutations all of whose failures are reported. -/
inductive Reachable : machine.Ram → Prop
  | start (banks : Banks Image) (boot : BootFaults machine.Faults)
      (honest : ∀ image, (machine.fates image boot.save).Honest)
      (ready : (machine.start banks boot).2 = .ready) :
      Reachable (machine.start banks boot).1
  | mutate {ram : machine.Ram} (reached : Reachable ram) (request : machine.Request)
      (faults : machine.Faults) (reported : (machine.mutationFates ram faults).Reported) :
      Reachable (machine.mutate ram request faults).1

/-- With the image in the inactive bank, a start-up takes the contents in memory, whether
it finds them in that image or in the active bank. -/
def Harmless (ram : machine.Ram) (image : Image) : Prop :=
  let store := machine.store ram
  (∀ found, machine.format.load image = some found →
      (∀ held, machine.format.load (store.banks.get store.active) = some held →
        Supersedes machine.format store.active held found) →
      machine.loaded found = machine.contents ram)
    ∧ ∀ held, machine.format.load (store.banks.get store.active) = some held →
      (∀ found, machine.format.load image = some found →
        ¬ Supersedes machine.format store.active held found) →
      machine.loaded held = machine.contents ram

/-- What a failed mutation leaves in the inactive bank. A refused request leaves it as it
is, a failed erase or program leaves the image that its fate names, and a failed read-back
leaves the complete candidate. -/
def leftBy (ram : machine.Ram) (request : machine.Request) (faults : machine.Faults) : Image :=
  match machine.propose ram request with
  | .error _ => machine.target ram
  | .ok candidate =>
      match (machine.mutationFates ram faults).erase,
          (machine.mutationFates ram faults).program with
      | .refused left, _ => left
      | _, .refused left => left
      | _, _ => machine.format.write (machine.format.stamp candidate) machine.format.blank

/-- When a failed mutation does no lasting harm. -/
def HarmlessFailure (ram : machine.Ram) (request : machine.Request) (faults : machine.Faults) :
    Prop :=
  machine.Harmless ram (machine.leftBy ram request faults)

variable {machine}

/-- A mutation ends with the snapshot saved, or with the store as it was but for
an image left in the inactive bank. -/
theorem mutate_cases (lawful : machine.Lawful) {ram : machine.Ram} {request : machine.Request}
    {faults : machine.Faults} {candidate : machine.Snapshot}
    (honest : (machine.mutationFates ram faults).Honest)
    (proposed : machine.propose ram request = .ok candidate) :
    let store := machine.store ram
    let after := machine.store (machine.mutate ram request faults).1
    let stamped := machine.format.stamp candidate
    ((machine.mutate ram request faults).2 = .saved stamped ∧ after.snapshot = stamped
        ∧ machine.format.load (after.banks.get after.active) = some stamped)
      ∨ ∃ left, (∀ snapshot, (machine.mutate ram request faults).2 ≠ .saved snapshot)
        ∧ after = { store with banks := store.banks.set store.active.other left }
        ∧ (left = machine.format.write stamped machine.format.blank
            ∧ (machine.mutationFates ram faults).erase = .done
            ∧ (machine.mutationFates ram faults).program = .done
          ∨ (machine.mutationFates ram faults).erase = .refused left
          ∨ ((machine.mutationFates ram faults).erase = .done
            ∧ (machine.mutationFates ram faults).program = .refused left)
          ∨ ¬ (machine.mutationFates ram faults).Powered) := by
  obtain ⟨stored, ended⟩ := Prod.ext_iff.mp (lawful.mutate_saves proposed honest)
  simp only [Prod.map_fst, Prod.map_snd, id_eq] at stored ended
  rcases machine.format.save_cases honest (machine.store ram) candidate with
    ⟨_, valid, result⟩ | ⟨erased, programmed, _, result⟩ | ⟨left, refused, result⟩
      | ⟨left, cut, result⟩
  · left
    rw [result] at stored ended
    rw [stored]
    exact ⟨ended, rfl, by simpa using load_write valid⟩
  · right
    rw [result] at stored ended
    exact ⟨_, by simp [ended, Outcome.ending], stored, .inl ⟨rfl, erased, programmed⟩⟩
  · right
    rw [result] at stored ended
    exact ⟨left, by simp [ended, Outcome.ending], stored, .inr (refused.imp_right .inl)⟩
  · right
    rw [result] at stored ended
    refine ⟨left, by simp [ended, Outcome.ending], stored, .inr (.inr (.inr ?_))⟩
    rintro ⟨eraseOn, programOn⟩
    rcases cut with cut | ⟨_, cut⟩
    · rw [cut] at eraseOn
      exact eraseOn
    · rw [cut] at programOn
      exact programOn

/-- A mutation with honest operations keeps the memory in step with the flash. -/
theorem Rooted.mutate (lawful : machine.Lawful) {ram : machine.Ram} (rooted : machine.Rooted ram)
    {request : machine.Request} {faults : machine.Faults}
    (honest : (machine.mutationFates ram faults).Honest) :
    machine.Rooted (machine.mutate ram request faults).1 := by
  cases proposed : machine.propose ram request with
  | error status =>
      obtain ⟨same, refused⟩ := lawful.mutate_refuses faults proposed
      have kept : machine.contents (machine.mutate ram request faults).1 = machine.contents ram :=
        lawful.contents_kept (by simp [refused])
      simpa only [Rooted, same, kept] using rooted
  | ok candidate =>
      rcases mutate_cases lawful honest proposed with ⟨saved, snapshot, loads⟩ |
        ⟨left, unsaved, stored, _⟩
      · exact .inl ⟨snapshot ▸ loads, snapshot ▸ lawful.contents_saved saved⟩
      · have kept := lawful.contents_kept unsaved
        simpa only [Rooted, stored, kept, Banks.get_set_other] using rooted

/-- In every state reached the memory is in step with the flash. -/
theorem Reachable.rooted (lawful : machine.Lawful) {ram : machine.Ram}
    (reached : machine.Reachable ram) : machine.Rooted ram := by
  induction reached with
  | start banks boot honest ready => exact lawful.start_rooted honest ready
  | mutate reached request faults reported ih => exact ih.mutate lawful reported.1

/-! ## The next start-up -/

/-- What a start-up finds when only the inactive bank has changed. -/
theorem contents_start_iff (lawful : machine.Lawful) {ram : machine.Ram}
    (rooted : machine.Rooted ram) (left : Image) {boot : BootFaults machine.Faults}
    (readable : boot.Readable) :
    machine.contents (machine.start
        ((machine.store ram).banks.set (machine.store ram).active.other left) boot).1 =
      machine.contents ram ↔ machine.Harmless ram left := by
  cases held : machine.format.load
      ((machine.store ram).banks.get (machine.store ram).active) with
  | some snapshot =>
      have newest := newest_set_other held left
      cases loaded : machine.format.load left with
      | none =>
          simp only [loaded] at newest
          obtain ⟨_, _, contents⟩ := lawful.start_found readable newest
          simp [contents, Harmless, held, loaded]
      | some found =>
          by_cases taken : Supersedes machine.format (machine.store ram).active snapshot found
          · simp only [loaded, taken, if_true] at newest
            obtain ⟨_, _, contents⟩ := lawful.start_found readable newest
            simp [contents, Harmless, held, loaded, taken]
          · simp only [loaded, taken, if_false] at newest
            obtain ⟨_, _, contents⟩ := lawful.start_found readable newest
            simp [contents, Harmless, held, loaded, taken]
  | none =>
      have newest := newest_set_other_of_none held left
      cases loaded : machine.format.load left with
      | some found =>
          rw [loaded] at newest
          obtain ⟨_, _, contents⟩ := lawful.start_found readable newest
          simp [contents, Harmless, held, loaded]
      | none =>
          -- neither bank holds anything: the memory is that of an empty store
          rw [loaded] at newest
          rcases rooted with ⟨loads, _⟩ | ⟨unpersisted, _, _, absent⟩
          · rw [held] at loads
            cases loads
          · obtain ⟨_, _, contents⟩ :=
              lawful.start_fresh readable (newest_eq_none newest) unpersisted
            simp [contents, absent, Harmless, held, loaded]

/-- In a store whose active bank holds what is in memory, an image that loads as nothing
does no harm. -/
theorem harmless_of_unloaded {ram : machine.Ram} {image : Image}
    (held : machine.format.load ((machine.store ram).banks.get (machine.store ram).active) =
      some (machine.store ram).snapshot)
    (inMemory : machine.contents ram = machine.loaded (machine.store ram).snapshot)
    (unloaded : machine.format.load image = none) : machine.Harmless ram image := by
  simp [Harmless, unloaded, held, inMemory]

/-- A complete candidate in a store whose active bank holds what is in memory does no harm
only if it changes nothing or its generation has wrapped round. -/
theorem harmless_candidate (lawful : machine.Lawful) {ram : machine.Ram}
    (rooted : machine.Rooted ram)
    (held : machine.format.load ((machine.store ram).banks.get (machine.store ram).active) =
      some (machine.store ram).snapshot)
    (inMemory : machine.contents ram = machine.loaded (machine.store ram).snapshot)
    {request : machine.Request} {candidate : machine.Snapshot}
    (proposed : machine.propose ram request = .ok candidate) :
    machine.Harmless ram
        (machine.format.write (machine.format.stamp candidate) machine.format.blank) ↔
      machine.loaded candidate = machine.contents ram
        ∨ machine.format.generation (machine.store ram).snapshot = 0xFFFFFFFF := by
  have loaded := load_write (lawful.stamped_valid rooted proposed)
  have next : machine.format.generation (machine.format.stamp candidate) =
      machine.format.generation (machine.store ram).snapshot + 1 := by
    rw [machine.format.generation_stamp, lawful.generation_propose proposed]
  simp only [Harmless, loaded, held, Option.some.injEq, forall_eq', lawful.loaded_stamp,
    supersedes_next next, ← inMemory, implies_true, and_true]
  tauto

/-- **A failed mutation.** In every state reached and for every pattern of
reported failures, a mutation that does not end with its snapshot saved leaves
the contents in memory as they were; and the next start-up whose reads succeed
finds the same contents exactly if the failure was harmless. -/
theorem failed_mutation (lawful : machine.Lawful) {ram : machine.Ram}
    (reached : machine.Reachable ram) (request : machine.Request) (faults : machine.Faults)
    (reported : (machine.mutationFates ram faults).Reported)
    (failed : ∀ snapshot, (machine.mutate ram request faults).2 ≠ .saved snapshot)
    {boot : BootFaults machine.Faults} (readable : boot.Readable) :
    let after := (machine.mutate ram request faults).1
    machine.contents after = machine.contents ram
      ∧ (machine.contents (machine.start (machine.store after).banks boot).1 = machine.contents ram
        ↔ machine.HarmlessFailure ram request faults) := by
  have rooted := reached.rooted lawful
  refine ⟨lawful.contents_kept failed, ?_⟩
  unfold HarmlessFailure leftBy
  cases proposed : machine.propose ram request with
  | error status =>
      -- nothing is written: the inactive bank keeps its image
      rw [(lawful.mutate_refuses faults proposed).1]
      have untouched := contents_start_iff lawful rooted (machine.target ram) readable
      rwa [target, Banks.set_get] at untouched
  | ok candidate =>
      rcases mutate_cases lawful reported.1 proposed with ⟨saved, _, _⟩ |
        ⟨left, _, stored, point⟩
      · exact absurd saved (failed _)
      rw [stored, contents_start_iff lawful rooted left readable]
      rcases point with ⟨rfl, erased, programmed⟩ | refused | ⟨erased, refused⟩ | unpowered
      · simp only [erased, programmed]
      · simp only [refused]
      · simp only [erased, refused]
      · exact absurd reported.2 unpowered

/-- A failed read-back of a complete candidate. -/
theorem harmlessFailure_of_unverified (lawful : machine.Lawful) {ram : machine.Ram}
    (reached : machine.Reachable ram) {request : machine.Request} {faults : machine.Faults}
    {candidate : machine.Snapshot} (proposed : machine.propose ram request = .ok candidate)
    (erased : (machine.mutationFates ram faults).erase = .done)
    (programmed : (machine.mutationFates ram faults).program = .done)
    (held : machine.format.load ((machine.store ram).banks.get (machine.store ram).active) =
      some (machine.store ram).snapshot)
    (inMemory : machine.contents ram = machine.loaded (machine.store ram).snapshot) :
    machine.HarmlessFailure ram request faults ↔
      machine.loaded candidate = machine.contents ram
        ∨ machine.format.generation (machine.store ram).snapshot = 0xFFFFFFFF := by
  have left : machine.leftBy ram request faults =
      machine.format.write (machine.format.stamp candidate) machine.format.blank := by
    simp only [leftBy, proposed, erased, programmed]
  rw [HarmlessFailure, left]
  exact harmless_candidate lawful (reached.rooted lawful) held inMemory proposed

/-- A failed erase that leaves nothing to load. -/
theorem harmlessFailure_of_refused {ram : machine.Ram} {request : machine.Request}
    {faults : machine.Faults} {candidate : machine.Snapshot} {left : Image}
    (proposed : machine.propose ram request = .ok candidate)
    (refused : (machine.mutationFates ram faults).erase = .refused left)
    (unloaded : machine.format.load left = none)
    (held : machine.format.load ((machine.store ram).banks.get (machine.store ram).active) =
      some (machine.store ram).snapshot)
    (inMemory : machine.contents ram = machine.loaded (machine.store ram).snapshot) :
    machine.HarmlessFailure ram request faults := by
  have leaves : machine.leftBy ram request faults = left := by
    simp only [leftBy, proposed, refused]
  rw [HarmlessFailure, leaves]
  exact harmless_of_unloaded held inMemory unloaded

end HealthCheckFirmware.SnapshotStore
