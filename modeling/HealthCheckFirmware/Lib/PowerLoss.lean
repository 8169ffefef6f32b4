import HealthCheckFirmware.Lib.SnapshotStore

/-!
# Two-bank stores survive power losses

The invariant of a run (`Sound`) ties the flash to the ledger. While the device
runs, its banks hold the settled snapshot as their current one, or hold none and
the store is still empty. While it is off, they hold the settled or the pending
snapshot. One event keeps the invariant (`Sound.step`): a completed save moves
the current snapshot to the other bank, an interrupted one leaves either the old
or the new snapshot current, and a start-up takes the current one.

`SnapshotStore.run_allowed` follows by induction on the run.
-/

set_option autoImplicit false

namespace HealthCheckFirmware.SnapshotStore

open TwoBank

variable {Image : Type} {machine : SnapshotStore Image}

/-! ## Saving -/

/-- The banks hold the snapshot as their current one, or the store is empty. -/
def Holding (machine : SnapshotStore Image) (banks : Banks Image) (side : Side)
    (snapshot : machine.Snapshot) : Prop :=
  Current machine.format banks side snapshot
    ∨ (Blank machine.format banks ∧ side = .b ∧ snapshot = machine.empty)

theorem Holding.advance {banks : Banks Image} {side : Side} {snapshot next : machine.Snapshot}
    (holding : machine.Holding banks side snapshot) {image : Image}
    (loaded : machine.format.load image = some next)
    (newer : machine.format.generation snapshot < machine.format.generation next) :
    Current machine.format (banks.set side.other image) side.other next := by
  rcases holding with current | ⟨blank, _, _⟩
  · exact current.advance loaded newer
  · exact blank.advance side loaded

theorem Holding.keep {banks : Banks Image} {side : Side} {snapshot : machine.Snapshot}
    (holding : machine.Holding banks side snapshot) {image : Image}
    (harmless : machine.format.load image = none
      ∨ machine.format.load image = machine.format.load (banks.get side.other)) :
    machine.Holding (banks.set side.other image) side snapshot := by
  rcases holding with current | ⟨blank, onB, isEmpty⟩
  · exact .inl (current.set_other harmless)
  · refine .inr ⟨blank.set side.other ?_, onB, isEmpty⟩
    rcases harmless with none | same
    · exact none
    · rw [same, blank]

/-- No bank holds a snapshot of an earlier layout. -/
def NoOlder (machine : SnapshotStore Image) (banks : Banks Image) : Prop :=
  ∀ side, machine.older (banks.get side) = false

theorem NoOlder.set {banks : Banks Image} (noOlder : machine.NoOlder banks) (side : Side)
    {image : Image} (current : machine.older image = false) :
    machine.NoOlder (banks.set side image) := by
  intro read
  cases side <;> cases read
  · exact current
  · exact noOlder .b
  · exact noOlder .a
  · exact current

theorem older_of_load (lawful : machine.Recovering) {image : Image} {snapshot : machine.Snapshot}
    (loaded : machine.format.load image = some snapshot) : machine.older image = false :=
  lawful.older_valid (load_eq_some.mp loaded).1

theorem Torn.older (lawful : machine.Recovering) {before left : Image} {stamped : machine.Snapshot}
    (torn : machine.Torn before stamped left) (noOlder : machine.older before = false) :
    machine.older left = false := by
  rcases torn with complete | ⟨_, same⟩ | ⟨_, rejected⟩
  · exact older_of_load lawful complete
  · rw [same, noOlder]
  · exact rejected

/-- A candidate one generation on has a higher generation when stamped. -/
theorem generation_lt_stamp {snapshot candidate : machine.Snapshot}
    (same : machine.format.generation candidate = machine.format.generation snapshot)
    (bounded : (machine.format.generation snapshot).toNat + 1 < 2 ^ 32) :
    machine.format.generation snapshot < machine.format.generation (machine.format.stamp candidate) := by
  rw [machine.format.generation_stamp, same, UInt32.lt_iff_toNat_lt, UInt32.toNat_add]
  simp only [UInt32.toNat_one]
  omega

/-- Interrupted writes are honest. -/
theorem Interrupted.honest {fates : SaveFates Image} {before : Image} {stamped : machine.Snapshot}
    (interrupted : machine.Interrupted fates before stamped) : fates.Honest :=
  ⟨interrupted.1.1.honest, interrupted.1.2.1.honest⟩

/-- What a save with interrupted writes leaves: the new snapshot current in the
other bank and acknowledged, the old one current, or, when the power was lost,
one of the two. -/
theorem save_interrupted (lawful : machine.Recovering) {fates : SaveFates Image}
    (store : Store Image machine.Snapshot) {candidate : machine.Snapshot}
    (holding : machine.Holding store.banks store.active store.snapshot)
    (noOlder : machine.NoOlder store.banks)
    (advance : ∀ {image}, machine.format.load image = some (machine.format.stamp candidate) →
      Current machine.format (store.banks.set store.active.other image) store.active.other
        (machine.format.stamp candidate))
    (interrupted : machine.Interrupted fates (store.banks.get store.active.other)
      (machine.format.stamp candidate)) :
    let stamped := machine.format.stamp candidate
    let result := machine.format.save fates store candidate
    machine.NoOlder result.1.banks
      ∧ ((result.2 = .saved stamped ∧ result.1.snapshot = stamped
          ∧ Current machine.format result.1.banks result.1.active stamped)
        ∨ (result.2 = .failed ∧ result.1.snapshot = store.snapshot
          ∧ machine.Holding result.1.banks result.1.active store.snapshot)
        ∨ (result.2 = .lost stamped
          ∧ (machine.Holding result.1.banks store.active store.snapshot
            ∨ Current machine.format result.1.banks store.active.other stamped))) := by
  rcases machine.format.save_cases interrupted.honest store candidate with
    ⟨_, valid, result⟩ | ⟨_, _, unverified, result⟩ | ⟨left, refused, _⟩ | ⟨left, cut, result⟩
  · have loaded := load_write valid
    simp only [result]
    exact ⟨noOlder.set _ (older_of_load lawful loaded),
      .inl ⟨trivial, trivial, advance loaded⟩⟩
  · -- the verifying read works, so only an invalid candidate gets here
    have invalid : machine.format.isValid
        (machine.format.write (machine.format.stamp candidate) machine.format.blank) = false := by
      rcases unverified with unread | invalid
      · rw [interrupted.1.2.2] at unread
        cases unread
      · exact invalid
    simp only [result]
    exact ⟨noOlder.set _ (lawful.older_stamped candidate),
      .inr (.inl ⟨trivial, trivial, holding.keep (.inl (load_eq_none invalid))⟩)⟩
  · rcases refused with refused | ⟨_, refused⟩
    · have works := interrupted.1.1
      rw [refused] at works
      exact works.elim
    · have works := interrupted.1.2.1
      rw [refused] at works
      exact works.elim
  · have torn : machine.Torn (store.banks.get store.active.other) (machine.format.stamp candidate)
        left := by
      rcases cut with cut | ⟨_, cut⟩
      · exact interrupted.2 left (.inl cut)
      · exact interrupted.2 left (.inr cut)
    simp only [result]
    refine ⟨noOlder.set _ (torn.older lawful (noOlder _)), .inr (.inr ⟨trivial, ?_⟩)⟩
    rcases torn with complete | ⟨same, _⟩ | ⟨rejected, _⟩
    · exact .inr (advance complete)
    · exact .inl (holding.keep (.inr same))
    · exact .inl (holding.keep (.inl rejected))

/-! ## The invariant of a run -/

/-- What the banks of a device hold, given the ledger. -/
def Device.Keeps (ledger : Ledger machine.Snapshot) : machine.Device → Prop
  | .on ram =>
      (machine.store ram).snapshot = ledger.settled ∧ ledger.pending = none
        ∧ machine.Holding (machine.store ram).banks (machine.store ram).active ledger.settled
  | .off banks =>
      (∃ side, machine.Holding banks side ledger.settled)
        ∨ (∃ side snapshot, ledger.pending = some snapshot
          ∧ Current machine.format banks side snapshot)

/-- The invariant of a run. -/
structure Sound (device : machine.Device) (ledger : Ledger machine.Snapshot) : Prop where
  noOlder : machine.NoOlder device.banks
  keeps : device.Keeps ledger
  settled_known : ledger.settled = ledger.acknowledged ∨ ledger.settled ∈ ledger.lostSince
  pending_known : ∀ snapshot, ledger.pending = some snapshot → snapshot ∈ ledger.lostSince

/-- A running device holds its snapshot whether or not it is switched off. -/
theorem Device.Keeps.holds {device : machine.Device} {ledger : Ledger machine.Snapshot}
    (keeps : device.Keeps ledger) :
    (∃ side, machine.Holding device.banks side ledger.settled)
      ∨ (∃ side snapshot, ledger.pending = some snapshot
        ∧ Current machine.format device.banks side snapshot) := by
  cases device with
  | on ram => exact .inl ⟨_, keeps.2.2⟩
  | off banks => exact keeps

/-- Blank banks and nothing else are those of a store that is still empty. -/
theorem Device.Keeps.empty {device : machine.Device} {ledger : Ledger machine.Snapshot}
    (keeps : device.Keeps ledger) (blank : Blank machine.format device.banks) :
    ledger.settled = machine.empty := by
  rcases keeps.holds with ⟨side, current | ⟨_, _, isEmpty⟩⟩ | ⟨side, snapshot, _, current⟩
  · have loads := current.loads
    rw [blank side] at loads
    cases loads
  · exact isEmpty
  · have loads := current.loads
    rw [blank side] at loads
    cases loads

/-- The current snapshot of the banks is the settled or the pending one. -/
theorem Device.Keeps.newest {device : machine.Device} {ledger : Ledger machine.Snapshot}
    (keeps : device.Keeps ledger) {side : Side} {snapshot : machine.Snapshot}
    (newest : machine.format.newest device.banks = some (side, snapshot)) :
    Current machine.format device.banks side snapshot
      ∧ (snapshot = ledger.settled ∨ ledger.pending = some snapshot) := by
  rcases keeps.holds with ⟨_, current | ⟨blank, _, _⟩⟩ | ⟨_, found, pending, current⟩
  · have same := current.newest_eq
    rw [newest] at same
    cases same
    exact ⟨current, .inl rfl⟩
  · rw [blank.newest_eq] at newest
    cases newest
  · have same := current.newest_eq
    rw [newest] at same
    cases same
    exact ⟨current, .inr pending⟩

/-! ## One event -/

/-- An event keeps the invariant when its label is allowed and the device it
leads to is sound for the ledger with that label noted. -/
def Advances (ledger : Ledger machine.Snapshot)
    (result : machine.Device × machine.Label) : Prop :=
  ledger.Allows result.2 ∧ Sound result.1 (ledger.note result.2)

/-- A power loss during a save leaves the settled or the interrupted snapshot. -/
theorem Sound.lose {ledger : Ledger machine.Snapshot} {banks : Banks Image} {side : Side}
    {stamped : machine.Snapshot} (noOlder : machine.NoOlder banks)
    (known : ledger.settled = ledger.acknowledged ∨ ledger.settled ∈ ledger.lostSince)
    (holds : machine.Holding banks side ledger.settled
      ∨ Current machine.format banks side.other stamped) :
    Advances ledger (.off banks, .lost stamped) := by
  refine ⟨trivial, noOlder, ?_, known.imp_right (List.mem_cons_of_mem _), ?_⟩
  · rcases holds with old | new
    · exact .inl ⟨side, old⟩
    · exact .inr ⟨side.other, stamped, rfl, new⟩
  · intro snapshot pending
    cases pending
    exact List.mem_cons_self

theorem Sound.mutated (lawful : machine.Recovering) {ledger : Ledger machine.Snapshot}
    {device : machine.Device} (sound : Sound device ledger) {request : machine.Request}
    {faults : machine.Faults} (admits : device.Admits (.mutate request faults)) :
    Advances ledger (machine.mutated request faults device) := by
  cases device with
  | off banks => exact ⟨trivial, sound⟩
  | on ram =>
      obtain ⟨inMemory, nonePending, holding⟩ := sound.keeps
      cases proposed : machine.propose ram request with
      | error status =>
          obtain ⟨same, refused⟩ := lawful.mutate_refuses faults proposed
          simp only [SnapshotStore.mutated, refused]
          refine ⟨trivial, ?_, ⟨same ▸ inMemory, nonePending, same ▸ holding⟩,
            sound.settled_known, sound.pending_known⟩
          rw [Device.banks_on, same]
          exact sound.noOlder
      | ok candidate =>
          obtain ⟨bounded, interrupted⟩ : _ ∧ _ := by
            cases admits with
            | on _ _ _ saves => exact saves candidate proposed
          rw [← inMemory] at holding
          have newer := generation_lt_stamp (lawful.generation_propose proposed) bounded
          have saves := lawful.mutate_saves proposed interrupted.honest
          obtain ⟨noOlder, result⟩ :=
            save_interrupted lawful (machine.store ram) holding sound.noOlder
              (holding.advance · newer) interrupted
          obtain ⟨stored, ended⟩ := Prod.ext_iff.mp saves
          simp only [Prod.map_fst, Prod.map_snd, id_eq] at stored ended
          rw [← stored] at noOlder result
          rcases result with ⟨saved, snapshot, current⟩ | ⟨failed, snapshot, kept⟩ | ⟨lost, kept⟩
          · rw [saved] at ended
            simp only [SnapshotStore.mutated, ended, Outcome.ending]
            exact ⟨trivial, noOlder, ⟨snapshot, rfl, .inl current⟩, .inl rfl, nofun⟩
          · rw [failed] at ended
            simp only [SnapshotStore.mutated, ended, Outcome.ending]
            rw [inMemory] at snapshot kept
            exact ⟨trivial, noOlder, ⟨snapshot, nonePending, kept⟩, sound.settled_known,
              sound.pending_known⟩
          · rw [lost] at ended
            simp only [SnapshotStore.mutated, ended, Outcome.ending]
            rw [inMemory] at kept
            exact Sound.lose noOlder sound.settled_known kept

/-- A start-up that finds a snapshot loads the settled or the pending one. -/
theorem Sound.reload (lawful : machine.Recovering) {ledger : Ledger machine.Snapshot}
    {device : machine.Device} (sound : Sound device ledger) {boot : BootFaults machine.Faults}
    (readable : boot.Readable) {side : Side} {snapshot : machine.Snapshot}
    (newest : machine.format.newest device.banks = some (side, snapshot)) :
    Advances ledger (machine.rebooted device.banks boot) := by
  obtain ⟨stored, ready, _⟩ := lawful.start_found readable newest
  obtain ⟨current, allowed⟩ := sound.keeps.newest newest
  have known : snapshot = ledger.acknowledged ∨ snapshot ∈ ledger.lostSince := by
    rcases allowed with rfl | pending
    · exact sound.settled_known
    · exact .inr (sound.pending_known snapshot pending)
  simp only [rebooted, ready, stored]
  refine ⟨⟨allowed, known⟩, ?_, ⟨?_, rfl, ?_⟩, known, nofun⟩
  · rw [Device.banks_on, stored]
    exact sound.noOlder
  · rw [stored]
    rfl
  · rw [stored]
    exact .inl current

/-- A start-up on blank banks loads the empty snapshot, unless the power is lost
while it is being persisted. -/
theorem Sound.bootBlank (lawful : machine.Recovering) {ledger : Ledger machine.Snapshot}
    {device : machine.Device} (sound : Sound device ledger) {boot : BootFaults machine.Faults}
    (readable : boot.Readable)
    (interrupted : machine.Interrupted (machine.fates device.banks.a boot.save) device.banks.a
      machine.empty)
    (blank : Blank machine.format device.banks) :
    Advances ledger (machine.rebooted device.banks boot) := by
  have isEmpty := sound.keeps.empty blank
  cases persists : machine.persists with
  | none =>
      obtain ⟨stored, ready, _⟩ := lawful.start_fresh readable blank persists
      simp only [rebooted, ready, stored]
      refine ⟨⟨.inl isEmpty.symm, isEmpty ▸ sound.settled_known⟩, ?_, ⟨?_, rfl, ?_⟩,
        isEmpty ▸ sound.settled_known, nofun⟩
      · rw [Device.banks_on, stored]
        exact sound.noOlder
      · rw [stored]
        rfl
      · rw [stored]
        exact .inr ⟨blank, rfl, rfl⟩
  | some candidate =>
      have saves := lawful.start_persists readable blank sound.noOlder persists interrupted.honest
      rw [lawful.empty_persists persists] at interrupted
      have holding : machine.Holding device.banks .b machine.empty := .inr ⟨blank, rfl, rfl⟩
      obtain ⟨noOlder, result⟩ :=
        save_interrupted lawful ⟨device.banks, machine.empty, .b⟩ holding sound.noOlder
          (blank.advance .b ·) interrupted
      obtain ⟨stored, ended⟩ := Prod.ext_iff.mp saves
      simp only [Prod.map_fst, Prod.map_snd, id_eq] at stored ended
      rw [← stored] at noOlder result
      rcases result with ⟨saved, snapshot, current⟩ | ⟨failed, snapshot, kept⟩ | ⟨lost, kept⟩
      · rw [saved] at ended
        simp only [rebooted, ended, Outcome.start]
        rw [← lawful.empty_persists persists, ← isEmpty] at snapshot current
        rw [snapshot]
        exact ⟨⟨.inl rfl, sound.settled_known⟩, noOlder, ⟨snapshot, rfl, .inl current⟩,
          sound.settled_known, nofun⟩
      · rw [failed] at ended
        simp only [rebooted, ended, Outcome.start]
        rw [← isEmpty] at kept
        exact ⟨trivial, noOlder, .inl ⟨_, kept⟩, sound.settled_known, sound.pending_known⟩
      · rw [lost] at ended
        simp only [rebooted, ended, Outcome.start]
        rw [← isEmpty] at kept
        exact Sound.lose noOlder sound.settled_known kept

/-- One admissible event keeps the invariant. -/
theorem Sound.step (lawful : machine.Recovering) {ledger : Ledger machine.Snapshot}
    {device : machine.Device} (sound : Sound device ledger) {event : machine.Event}
    (admits : device.Admits event) : Advances ledger (device.step event) := by
  cases event with
  | mutate request faults => exact sound.mutated lawful admits
  | reboot boot =>
      obtain ⟨readable, interrupted⟩ : boot.Readable ∧ machine.Interrupted _ _ _ := by
        cases admits with
        | reboot _ _ readable saves => exact ⟨readable, saves⟩
      cases newest : machine.format.newest device.banks with
      | none => exact sound.bootBlank lawful readable interrupted (newest_eq_none newest)
      | some found => exact sound.reload lawful readable newest

/-! ## Whole runs -/

/-- **Power-loss atomicity.** From banks that hold no snapshot of any version, in
every run of mutations and start-ups in which only the power fails, each
completed start-up loads the snapshot last settled or the one in flight when the
power was lost, and so the one last acknowledged or one lost in flight since. -/
theorem run_allowed (lawful : machine.Recovering) {banks : Banks Image}
    (blank : Blank machine.format banks) (noOlder : machine.NoOlder banks)
    {events : List machine.Event} (admits : (Device.off banks).AdmitsAll events) :
    (Ledger.opening machine.empty).AllowsAll ((Device.off banks).labels events) := by
  have opening : Sound (Device.off banks) (Ledger.opening machine.empty) :=
    ⟨noOlder, .inl ⟨.b, .inr ⟨blank, rfl, rfl⟩⟩, .inl rfl, nofun⟩
  generalize Device.off banks = device at opening admits ⊢
  generalize Ledger.opening machine.empty = ledger at opening ⊢
  induction events generalizing device ledger with
  | nil => trivial
  | cons event events ih =>
      obtain ⟨allowed, sound⟩ := opening.step lawful admits.1
      exact ⟨allowed, ih _ admits.2 _ sound⟩

end HealthCheckFirmware.SnapshotStore
