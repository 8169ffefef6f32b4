import HealthCheckFirmware.Lib.SnapshotStore

/-!
# Two-bank stores that keep only a snapshot in memory

Most stores keep nothing in memory but the snapshot and the bank it is in. Their
mutations are all of one form: refuse, or save a candidate (`Format.commit`). For
such a store it is enough to say what it proposes and how it starts up, and the
laws of `SnapshotStore` follow (`PlainStore.machine_recovering`).
-/

set_option autoImplicit false

namespace HealthCheckFirmware

open TwoBank

/-! ## Mutations -/

/-- A mutation of a store whose memory is a snapshot and its bank: return with
the status of a refused proposal, or save the proposed candidate. -/
def TwoBank.Format.commit {Image Snapshot Status : Type} (format : Format Image Snapshot)
    (fates : SaveFates Image) (store : Store Image Snapshot)
    (proposal : Except Status Snapshot) : Store Image Snapshot × Ending Status Snapshot :=
  match proposal with
  | .error status => (store, .refused status)
  | .ok candidate => Prod.map id Outcome.ending (format.save fates store candidate)

namespace TwoBank

variable {Image Snapshot Status : Type} {format : Format Image Snapshot}
  {fates : SaveFates Image} {store : Store Image Snapshot} {proposal : Except Status Snapshot}

/-- A mutation in which nothing fails. -/
theorem commit_done {candidate : Snapshot}
    (valid : format.isValid (format.write (format.stamp candidate) format.blank) = true) :
    (format.commit .done store (.ok candidate : Except Status Snapshot)).2
        = .saved (format.stamp candidate)
      ∧ (format.commit .done store (.ok candidate : Except Status Snapshot)).1.snapshot
        = format.stamp candidate := by
  rw [Format.commit, save_done store valid]
  exact ⟨rfl, rfl⟩

/-- A save that succeeds puts its snapshot in memory. -/
theorem save_saved {candidate snapshot : Snapshot}
    (saved : (format.save fates store candidate).2 = .saved snapshot) :
    (format.save fates store candidate).1.snapshot = snapshot := by
  unfold Format.save at saved ⊢
  cases progress : (format.attempt fates (format.stamp candidate)).2 with
  | ok =>
      simp only [progress] at saved ⊢
      split at saved
      · rename_i verified
        rw [if_pos verified]
        cases saved
        rfl
      · cases saved
  | error => simp [progress] at saved
  | powerLost => simp [progress] at saved

/-- A save that succeeds saves the stamped candidate. -/
theorem save_saved_eq {candidate snapshot : Snapshot}
    (saved : (format.save fates store candidate).2 = .saved snapshot) :
    snapshot = format.stamp candidate := by
  unfold Format.save at saved
  cases progress : (format.attempt fates (format.stamp candidate)).2 with
  | ok =>
      simp only [progress] at saved
      split at saved <;> cases saved
      rfl
  | error => simp [progress] at saved
  | powerLost => simp [progress] at saved

/-- A save that does not succeed leaves the snapshot in memory. -/
theorem save_unsaved {candidate : Snapshot}
    (unsaved : ∀ snapshot, (format.save fates store candidate).2 ≠ .saved snapshot) :
    (format.save fates store candidate).1.snapshot = store.snapshot
      ∧ (format.save fates store candidate).1.active = store.active := by
  unfold Format.save at unsaved ⊢
  cases progress : (format.attempt fates (format.stamp candidate)).2 with
  | ok =>
      simp only [progress] at unsaved ⊢
      split at unsaved
      · exact absurd rfl (unsaved _)
      · rename_i unverified
        rw [if_neg unverified]
        exact ⟨rfl, rfl⟩
  | error => simp [progress]
  | powerLost => simp [progress]

theorem Outcome.ending_eq_saved {outcome : Outcome Snapshot} {snapshot : Snapshot} :
    (outcome.ending : Ending Status Snapshot) = .saved snapshot ↔ outcome = .saved snapshot := by
  cases outcome <;> simp [Outcome.ending]

theorem commit_saved {snapshot : Snapshot}
    (saved : (format.commit fates store proposal).2 = .saved snapshot) :
    (format.commit fates store proposal).1.snapshot = snapshot := by
  cases proposal with
  | error status => cases saved
  | ok candidate => exact save_saved (Outcome.ending_eq_saved.mp saved)

/-- A commit that succeeds has stamped an accepted proposal. -/
theorem commit_stamped {snapshot : Snapshot}
    (saved : (format.commit fates store proposal).2 = .saved snapshot) :
    ∃ candidate, proposal = .ok candidate
      ∧ (format.commit fates store proposal).1.snapshot = format.stamp candidate := by
  cases proposal with
  | error status => cases saved
  | ok candidate =>
      have outcome := Outcome.ending_eq_saved.mp saved
      refine ⟨candidate, rfl, (save_saved outcome).trans ?_⟩
      exact (save_saved_eq outcome)

/-- Only a proposal is refused. -/
theorem commit_refused {status : Status}
    (refused : (format.commit fates store proposal).2 = .refused status) :
    proposal = .error status := by
  cases proposal with
  | error refusal =>
      cases refused
      rfl
  | ok candidate =>
      change (format.save fates store candidate).2.ending = .refused status at refused
      cases outcome : (format.save fates store candidate).2 <;> rw [outcome] at refused <;>
        cases refused

theorem commit_unsaved
    (unsaved : ∀ snapshot, (format.commit fates store proposal).2 ≠ .saved snapshot) :
    (format.commit fates store proposal).1.snapshot = store.snapshot := by
  cases proposal with
  | error status => rfl
  | ok candidate =>
      exact (save_unsaved fun snapshot saved =>
        unsaved snapshot (Outcome.ending_eq_saved.mpr saved)).1

end TwoBank

/-! ## Stores -/

/-- The operations of a store that keeps nothing else in memory. -/
structure PlainStore (Image Snapshot Request Status Contents : Type) where
  format : Format Image Snapshot
  propose : Store Image Snapshot → Request → Except Status Snapshot
  start : Banks Image → BootFaults (SaveFates Image) → Store Image Snapshot × Start Snapshot
  older : Image → Bool
  empty : Snapshot
  persists : Option Snapshot
  contents : Snapshot → Contents

namespace PlainStore

variable {Image Snapshot Request Status Contents : Type}
  (plain : PlainStore Image Snapshot Request Status Contents)

def machine : SnapshotStore Image where
  Snapshot := Snapshot
  Ram := Store Image Snapshot
  Request := Request
  Status := Status
  Faults := SaveFates Image
  Contents := Contents
  format := plain.format
  store ram := ram
  fates _ faults := faults
  propose := plain.propose
  mutate ram request faults := plain.format.commit faults ram (plain.propose ram request)
  start := plain.start
  older := plain.older
  empty := plain.empty
  persists := plain.persists
  contents ram := plain.contents ram.snapshot
  loaded := plain.contents
  absent := plain.contents plain.empty

/-- The facts about a store of this kind that make it lawful. -/
structure Lawful : Prop where
  generation_propose : ∀ {ram request candidate}, plain.propose ram request = .ok candidate →
    plain.format.generation candidate = plain.format.generation ram.snapshot
  start_found : ∀ {banks boot side snapshot}, boot.Readable →
    plain.format.newest banks = some (side, snapshot) →
      plain.start banks boot = (⟨banks, snapshot, side⟩, .ready)
  start_blank : ∀ {banks boot}, boot.Readable → Blank plain.format banks →
    (∀ side, plain.older (banks.get side) = false) →
      plain.start banks boot =
        match plain.persists with
        | none => (⟨banks, plain.empty, .b⟩, .ready)
        | some candidate => Prod.map id Outcome.start
            (plain.format.save boot.save ⟨banks, plain.empty, .b⟩ candidate)
  start_cases : ∀ banks boot,
    (∃ side snapshot, plain.format.load (banks.get side) = some snapshot
        ∧ plain.start banks boot = (⟨banks, snapshot, side⟩, .ready))
      ∨ (plain.persists = none ∧ plain.start banks boot = (⟨banks, plain.empty, .b⟩, .ready))
      ∨ ∃ store candidate, plain.start banks boot =
        Prod.map id Outcome.start (plain.format.save boot.save store candidate)
  older_unpersisted : plain.persists = none → ∀ image, plain.older image = false
  empty_persists : ∀ {candidate}, plain.persists = some candidate →
    plain.empty = plain.format.stamp candidate
  older_valid : ∀ {image}, plain.format.isValid image = true → plain.older image = false
  older_stamped : ∀ candidate, plain.older
    (plain.format.write (plain.format.stamp candidate) plain.format.blank) = false
  stamped_valid : ∀ {ram request candidate},
    (∃ image, plain.format.load image = some ram.snapshot) ∨ ram.snapshot = plain.empty →
      plain.propose ram request = .ok candidate →
        plain.format.isValid
          (plain.format.write (plain.format.stamp candidate) plain.format.blank) = true
  contents_stamp : ∀ snapshot,
    plain.contents (plain.format.stamp snapshot) = plain.contents snapshot

variable {plain}

/-- A start-up that ends with a save leaves the bank it saved to in step. -/
theorem rooted_of_save {faults : SaveFates Image} (honest : faults.Honest)
    {store : Store Image Snapshot} {candidate : Snapshot}
    (ready : (plain.format.save faults store candidate).2.start = .ready) :
    plain.machine.Rooted (plain.format.save faults store candidate).1 := by
  rcases plain.format.save_cases honest store candidate with
    ⟨_, valid, result⟩ | ⟨_, _, _, result⟩ | ⟨left, _, result⟩ | ⟨left, _, result⟩
  · rw [result]
    exact .inl ⟨by simpa [machine] using load_write valid, rfl⟩
  all_goals
    rw [result] at ready
    cases ready

/-- The memory after a start-up that completes, whichever reads have failed. -/
theorem start_rooted (lawful : plain.Lawful) {banks : Banks Image}
    {boot : BootFaults (SaveFates Image)} (honest : boot.save.Honest)
    (ready : (plain.start banks boot).2 = .ready) :
    plain.machine.Rooted (plain.start banks boot).1 := by
  rcases lawful.start_cases banks boot with ⟨side, snapshot, loads, started⟩ |
    ⟨unpersisted, started⟩ | ⟨store, candidate, started⟩
  · rw [started]
    exact .inl ⟨loads, rfl⟩
  · rw [started]
    exact .inr ⟨unpersisted, rfl, rfl, rfl⟩
  · rw [started] at ready ⊢
    exact rooted_of_save honest ready

theorem machine_recovering (lawful : plain.Lawful) : plain.machine.Recovering where
  generation_propose := lawful.generation_propose
  mutate_refuses {ram request status} faults proposed := by
    have refused : plain.propose ram request = .error status := proposed
    simp only [machine, refused]
    exact ⟨rfl, rfl⟩
  mutate_saves {ram request candidate faults} proposed _ := by
    have accepted : plain.propose ram request = .ok candidate := proposed
    simp only [machine, accepted]
    rfl
  contents_saved saved := congrArg plain.contents (commit_saved saved)
  contents_kept unsaved := congrArg plain.contents (commit_unsaved unsaved)
  start_found {banks boot side snapshot} readable newest := by
    have started : plain.start banks boot = _ := lawful.start_found readable newest
    simp [machine, started]
  start_fresh {banks boot} readable blank unpersisted := by
    have none : plain.persists = none := unpersisted
    have started : plain.start banks boot = _ :=
      lawful.start_blank readable blank fun side => lawful.older_unpersisted none _
    rw [none] at started
    simp [machine, started]
  start_persists {banks boot candidate} readable blank older persists _ := by
    have some : plain.persists = some candidate := persists
    have started : plain.start banks boot = _ := lawful.start_blank readable blank older
    rw [some] at started
    simp only [machine, started]
  start_rooted {banks boot} honest ready := start_rooted lawful (honest banks.a) ready
  empty_persists := lawful.empty_persists
  older_valid := lawful.older_valid
  older_stamped := lawful.older_stamped
  stamped_valid {ram request candidate} rooted proposed := by
    rcases rooted with ⟨loads, _⟩ | ⟨_, _, isEmpty, _⟩
    · exact lawful.stamped_valid (.inl ⟨_, loads⟩) proposed
    · exact lawful.stamped_valid (.inr isEmpty) proposed
  loaded_stamp := lawful.contents_stamp

end PlainStore

end HealthCheckFirmware
