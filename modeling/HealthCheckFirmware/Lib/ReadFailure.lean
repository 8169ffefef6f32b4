import HealthCheckFirmware.Lib.PlainStore
import HealthCheckFirmware.Lib.Run
import HealthCheckFirmware.Lib.Steady

/-!
# Start-ups that cannot read a bank

A start-up takes a bank that it cannot read for one without a snapshot. It then comes
up with the snapshot of the other bank, or with whatever the store falls back to when
neither bank gives one, and reports success all the same.

`noRollback_iff` says exactly when that goes unnoticed: after a run whose writes have
succeeded or failed without effect, and in which every start-up has read the newest
bank, a further start-up that completes has the contents last acknowledged if and only
if it reads the newest bank too, or what it falls back to happens to be the same.
`PlainStore.fallsBack` gives the assumptions on the store for plain stores.

A store that finds nothing and persists nothing counts its generations from zero again.
`start_after_restart` says what becomes of the first save after that.
-/

set_option autoImplicit false

namespace HealthCheckFirmware.SnapshotStore

open TwoBank

variable {Image : Type}

/-! ## What a start-up finds -/

/-- The read of a start-up that covers a bank. -/
def bankRead : Side → ℕ
  | .a => 0
  | .b => 1

section Found

variable {Snapshot : Type} {format : Format Image Snapshot}

/-- What the first two reads of a start-up find. -/
def found (format : Format Image Snapshot) (banks : Banks Image) (reads : ℕ → Bool) :
    Option (Side × Snapshot) :=
  format.pick (format.loadIf (reads 0) banks.a) (format.loadIf (reads 1) banks.b)

/-- A start-up that can read the newest bank finds the newest snapshot, whether or not
it can read the other one. -/
theorem found_of_read {banks : Banks Image} {side : Side} {snapshot : Snapshot}
    (current : Current format banks side snapshot) {reads : ℕ → Bool}
    (read : reads (bankRead side) = true) : found format banks reads = some (side, snapshot) := by
  obtain ⟨loads, newer⟩ := current
  cases side with
  | a =>
      simp only [Banks.get, Side.other, bankRead] at loads newer read
      rw [found, read, loadIf_true, loads]
      cases second : format.loadIf (reads 1) banks.b with
      | none => rfl
      | some older =>
          have order : format.generation snapshot ≥ format.generation older :=
            UInt32.le_of_lt (newer older (load_of_loadIf second))
          simp [Format.pick, pickNewer, order]
  | b =>
      simp only [Banks.get, Side.other, bankRead] at loads newer read
      rw [found, read, loadIf_true, loads]
      cases first : format.loadIf (reads 0) banks.a with
      | none => rfl
      | some older =>
          have order : ¬ format.generation older ≥ format.generation snapshot :=
            UInt32.not_le.mpr (newer older (load_of_loadIf first))
          simp [Format.pick, pickNewer, order]

/-- One that cannot read it finds what it reads in the other bank. -/
theorem found_of_unread {banks : Banks Image} {side : Side} {reads : ℕ → Bool}
    (unread : reads (bankRead side) = false) :
    found format banks reads =
      (format.loadIf (reads (bankRead side.other)) (banks.get side.other)).map (side.other, ·) := by
  cases side with
  | a =>
      simp only [bankRead, Side.other, Banks.get] at unread ⊢
      rw [found, unread, loadIf_false]
      cases format.loadIf (reads 1) banks.b <;> rfl
  | b =>
      simp only [bankRead, Side.other, Banks.get] at unread ⊢
      rw [found, unread, loadIf_false]
      cases format.loadIf (reads 0) banks.a <;> rfl

theorem found_of_blank {banks : Banks Image} (blank : Blank format banks) (reads : ℕ → Bool) :
    found format banks reads = none := by
  have first : format.load banks.a = none := blank .a
  have second : format.load banks.b = none := blank .b
  rw [found, loadIf_of_none first, loadIf_of_none second]
  rfl

/-- A save at the end of a start-up that completes leaves what was saved in memory. -/
theorem snapshot_of_ready {fates : SaveFates Image} {store : Store Image Snapshot}
    {candidate : Snapshot} (ready : (format.save fates store candidate).2.start = .ready) :
    (format.save fates store candidate).1.snapshot = format.stamp candidate := by
  cases ended : (format.save fates store candidate).2 with
  | saved snapshot => rw [save_saved ended, save_saved_eq ended]
  | failed =>
      rw [ended] at ready
      cases ready
  | lost snapshot =>
      rw [ended] at ready
      cases ready

end Found

/-! ## Stores with a fallback -/

variable (machine : SnapshotStore Image)

/-- A running store that agrees with its flash: it is steady, or it has never been
written and does not persist its defaults. -/
def Settled (ram : machine.Ram) : Prop :=
  machine.Steady ram
    ∨ (Blank machine.format (machine.store ram).banks ∧ machine.NoOlder (machine.store ram).banks
      ∧ machine.persists = none ∧ (machine.store ram).active = .b
      ∧ (machine.store ram).snapshot = machine.empty ∧ machine.contents ram = machine.absent)

/-- The banks hold the given contents, or hold nothing. -/
def Holds (banks : Banks Image) (contents : machine.Contents) : Prop :=
  (∃ side snapshot, Current machine.format banks side snapshot
      ∧ machine.loaded snapshot = contents)
    ∨ (Blank machine.format banks ∧ machine.NoOlder banks ∧ contents = machine.absent)

/-- A start-up that is not cut off, has the given contents in memory if it completes,
and leaves them in the banks in any case. -/
def Resumes (contents : machine.Contents) (started : machine.Ram × Start machine.Snapshot) :
    Prop :=
  (∀ snapshot, started.2 ≠ .lost snapshot)
    ∧ (started.2 = .ready → machine.Settled started.1 ∧ machine.contents started.1 = contents)
    ∧ machine.Holds (machine.store started.1).banks contents

/-- How a store starts up with reads that fail. `beyond` is what it comes up with when
it finds a snapshot in neither bank. -/
structure FallsBack (beyond : Banks Image → (ℕ → Bool) → machine.Contents) : Prop
    extends machine.Lawful where
  start_picked : ∀ {banks boot side snapshot},
    found machine.format banks boot.reads = some (side, snapshot) →
      machine.store (machine.start banks boot).1 = ⟨banks, snapshot, side⟩
        ∧ machine.contents (machine.start banks boot).1 = machine.loaded snapshot
        ∧ ∀ lost, (machine.start banks boot).2 ≠ .lost lost
  start_beyond : ∀ {banks boot}, found machine.format banks boot.reads = none →
    (∀ image, (machine.fates image boot.save).Honest) →
      (machine.start banks boot).2 = .ready →
        machine.contents (machine.start banks boot).1 = beyond banks boot.reads
  beyond_blank : ∀ {banks reads}, Blank machine.format banks → machine.NoOlder banks →
    beyond banks reads = machine.absent
  start_blank : ∀ {banks boot}, Blank machine.format banks → machine.NoOlder banks →
    machine.Orderly (machine.fates banks.a boot.save) banks.a →
      machine.Resumes machine.absent (machine.start banks boot)

/-- What a start-up comes up with that cannot read the newest bank. -/
def fallback (beyond : Banks Image → (ℕ → Bool) → machine.Contents) (banks : Banks Image)
    (reads : ℕ → Bool) (side : Side) : machine.Contents :=
  match machine.format.loadIf (reads (bankRead side.other)) (banks.get side.other) with
  | some older => machine.loaded older
  | none => beyond banks reads

variable {machine} in
theorem fallback_of_none {beyond : Banks Image → (ℕ → Bool) → machine.Contents}
    {banks : Banks Image} {reads : ℕ → Bool} {side : Side}
    (none : machine.format.loadIf (reads (bankRead side.other)) (banks.get side.other) = none) :
    machine.fallback beyond banks reads side = beyond banks reads := by
  rw [fallback, none]

/-! ## Runs -/

/-- A device, with the contents last acknowledged. -/
structure Tracked where
  device : machine.Device
  acknowledged : machine.Contents

variable {machine}

/-- One event. A completed save acknowledges its snapshot. -/
def Tracked.step (tracked : machine.Tracked) (event : machine.Event) : machine.Tracked where
  device := (tracked.device.step event).1
  acknowledged :=
    match (tracked.device.step event).2 with
    | .saved snapshot => machine.loaded snapshot
    | _ => tracked.acknowledged

theorem Tracked.step_saved {ram after : machine.Ram} {request : machine.Request}
    {faults : machine.Faults} {snapshot : machine.Snapshot}
    (saved : machine.mutate ram request faults = (after, .saved snapshot))
    (acknowledged : machine.Contents) :
    Tracked.step ⟨.on ram, acknowledged⟩ (.mutate request faults)
      = ⟨.on after, machine.loaded snapshot⟩ := by
  simp only [Tracked.step, Device.step, mutated, saved]

theorem Tracked.step_ready {device : machine.Device} {boot : BootFaults machine.Faults}
    {ram : machine.Ram} (ready : machine.start device.banks boot = (ram, .ready))
    (acknowledged : machine.Contents) :
    Tracked.step ⟨device, acknowledged⟩ (.reboot boot) = ⟨.on ram, acknowledged⟩ := by
  simp only [Tracked.step, Device.step, rebooted, ready]

/-- The start-up can read the bank that holds the newest snapshot. -/
def NewestRead (machine : SnapshotStore Image) (banks : Banks Image) (reads : ℕ → Bool) : Prop :=
  ∀ side snapshot, Current machine.format banks side snapshot → reads (bankRead side) = true

/-- Writes succeed or fail without effect, no generation wraps round, and a start-up
reads the newest bank. -/
def Tracked.Sighted (tracked : machine.Tracked) : machine.Event → Prop
  | .mutate _ faults => ∀ ram, tracked.device = .on ram →
      machine.Orderly (machine.mutationFates ram faults) (machine.target ram)
        ∧ machine.format.generation (machine.store ram).snapshot ≠ 0xFFFFFFFF
  | .reboot boot => machine.NewestRead tracked.device.banks boot.reads
      ∧ machine.Orderly (machine.fates tracked.device.banks.a boot.save) tracked.device.banks.a

/-- A start-up that completes has the contents last acknowledged. -/
def Tracked.NoRollback (tracked : machine.Tracked) (boot : BootFaults machine.Faults) : Prop :=
  (machine.start tracked.device.banks boot).2 = .ready →
    machine.contents (machine.start tracked.device.banks boot).1 = tracked.acknowledged

/-- The invariant of a run. -/
def Tracked.Sound (tracked : machine.Tracked) : Prop :=
  match tracked.device with
  | .on ram => machine.Settled ram ∧ machine.contents ram = tracked.acknowledged
  | .off banks => machine.Holds banks tracked.acknowledged

variable {beyond : Banks Image → (ℕ → Bool) → machine.Contents}

theorem Settled.holds {ram : machine.Ram} (settled : machine.Settled ram) :
    machine.Holds (machine.store ram).banks (machine.contents ram) := by
  rcases settled with steady | ⟨blank, noOlder, _, _, _, absent⟩
  · exact .inl ⟨_, _, steady.1, steady.2.symm⟩
  · exact .inr ⟨blank, noOlder, absent⟩

theorem Settled.rooted {ram : machine.Ram} (settled : machine.Settled ram) :
    machine.Rooted ram := by
  rcases settled with steady | ⟨_, _, unpersisted, onB, isEmpty, absent⟩
  · exact steady.rooted
  · exact .inr ⟨unpersisted, onB, isEmpty, absent⟩

/-- A start-up that completes with a settled store. -/
theorem Settled.resumes {started : machine.Ram × Start machine.Snapshot}
    (settled : machine.Settled started.1) (ready : started.2 = .ready)
    {contents : machine.Contents} (same : machine.contents started.1 = contents) :
    machine.Resumes contents started := by
  refine ⟨fun snapshot lost => ?_, fun _ => ⟨settled, same⟩, same ▸ settled.holds⟩
  rw [ready] at lost
  cases lost

/-- A start-up that fails and leaves the contents in the banks. -/
theorem Holds.resumes {started : machine.Ram × Start machine.Snapshot}
    {contents : machine.Contents} (holds : machine.Holds (machine.store started.1).banks contents)
    (failed : started.2 = .failed) : machine.Resumes contents started := by
  refine ⟨fun snapshot lost => ?_, fun ready => ?_, holds⟩
  · rw [failed] at lost
    cases lost
  · rw [failed] at ready
    cases ready

/-- A start-up on blank banks that ends with an orderly save of the defaults. -/
theorem resumes_of_save {banks : Banks Image} (blank : Blank machine.format banks)
    (noOlder : machine.NoOlder banks) {fates : SaveFates Image}
    (orderly : machine.Orderly fates banks.a) {opening candidate : machine.Snapshot}
    (valid : machine.format.isValid
      (machine.format.write (machine.format.stamp candidate) machine.format.blank) = true)
    (defaults : machine.loaded (machine.format.stamp candidate) = machine.absent)
    {started : machine.Ram × Start machine.Snapshot}
    (saves : (machine.store started.1, started.2) = Prod.map id Outcome.start
      (machine.format.save fates ⟨banks, opening, .b⟩ candidate))
    (loaded : started.2 = .ready →
      machine.contents started.1 = machine.loaded (machine.store started.1).snapshot) :
    machine.Resumes machine.absent started := by
  obtain ⟨stored, ended⟩ := Prod.ext_iff.mp saves
  simp only [Prod.map_fst, Prod.map_snd, id_eq] at stored ended
  rcases @save_orderly _ machine fates ⟨banks, opening, .b⟩ orderly candidate valid with
    saved | ⟨left, ineffective, failed⟩
  · rw [saved] at stored ended
    have ready : started.2 = .ready := ended
    have contents := loaded ready
    have settled : machine.Settled started.1 := by
      refine .inl ⟨?_, contents⟩
      rw [stored]
      exact blank.advance .b (load_write valid)
    exact settled.resumes ready (by rw [contents, stored, defaults])
  · rw [failed] at stored ended
    have unloaded : machine.format.load left = none := by
      rcases ineffective with ⟨same, _⟩ | ⟨none, _⟩
      · exact same.trans (blank .a)
      · exact none
    have unmigrated : machine.older left = false := by
      rcases ineffective with ⟨_, same⟩ | ⟨_, none⟩
      · exact same.trans (noOlder .a)
      · exact none
    refine Holds.resumes (.inr ?_) ended
    rw [stored]
    exact ⟨blank.set .a unloaded, noOlder.set .a unmigrated, rfl⟩

/-- A mutation keeps a store settled, and is not cut off. -/
theorem Settled.mutate (lawful : machine.Lawful) {ram : machine.Ram}
    (settled : machine.Settled ram) {request : machine.Request} {faults : machine.Faults}
    (orderly : machine.Orderly (machine.mutationFates ram faults) (machine.target ram))
    (unwrapped : machine.format.generation (machine.store ram).snapshot ≠ 0xFFFFFFFF) :
    machine.Settled (machine.mutate ram request faults).1
      ∧ ∀ lost, (machine.mutate ram request faults).2 ≠ .lost lost := by
  cases proposed : machine.propose ram request with
  | error status =>
      obtain ⟨same, refused⟩ := lawful.mutate_refuses faults proposed
      have kept : machine.contents (machine.mutate ram request faults).1 = machine.contents ram :=
        lawful.contents_kept (by simp [refused])
      refine ⟨?_, by simp [refused]⟩
      rw [Settled, Steady, same, kept]
      exact settled
  | ok candidate =>
      obtain ⟨stored, ended⟩ := Prod.ext_iff.mp (lawful.mutate_saves proposed orderly.1)
      simp only [Prod.map_fst, Prod.map_snd, id_eq] at stored ended
      have valid := lawful.stamped_valid settled.rooted proposed
      rcases save_orderly orderly valid with saved | ⟨left, ineffective, failed⟩
      · rw [saved] at stored ended
        have contents := lawful.contents_saved ended
        refine ⟨.inl ⟨?_, by rw [contents, stored]⟩, by simp [ended, Outcome.ending]⟩
        rw [stored]
        rcases settled with steady | ⟨blank, _⟩
        · exact steady.1.advance (load_write valid)
            (generation_lt_stamp (lawful.generation_propose proposed) (toNat_succ_lt unwrapped))
        · exact blank.advance _ (load_write valid)
      · rw [failed] at stored ended
        have kept : machine.contents (machine.mutate ram request faults).1
            = machine.contents ram := lawful.contents_kept (by simp [ended, Outcome.ending])
        refine ⟨?_, by simp [ended, Outcome.ending]⟩
        rw [Settled, Steady, kept, stored]
        rcases settled with steady | ⟨blank, noOlder, rest⟩
        · refine .inl ⟨steady.1.set_other ?_, steady.2⟩
          rcases ineffective with ⟨same, _⟩ | ⟨none, _⟩
          · exact .inr same
          · exact .inl none
        · refine .inr ⟨blank.set _ ?_, noOlder.set _ ?_, rest⟩
          · rcases ineffective with ⟨same, _⟩ | ⟨none, _⟩
            · exact same.trans (blank _)
            · exact none
          · rcases ineffective with ⟨_, same⟩ | ⟨_, none⟩
            · exact same.trans (noOlder _)
            · exact none

/-- A start-up that reads the newest bank finds what the banks hold. -/
theorem Holds.start (lawful : machine.FallsBack beyond) {banks : Banks Image}
    {contents : machine.Contents} (holds : machine.Holds banks contents)
    {boot : BootFaults machine.Faults} (read : machine.NewestRead banks boot.reads)
    (orderly : machine.Orderly (machine.fates banks.a boot.save) banks.a) :
    machine.Resumes contents (machine.start banks boot) := by
  rcases holds with ⟨side, snapshot, current, rfl⟩ | ⟨blank, noOlder, rfl⟩
  · obtain ⟨stored, kept, on⟩ :=
      lawful.start_picked (found_of_read current (read side snapshot current))
    refine ⟨on, fun _ => ⟨.inl ?_, kept⟩, .inl ⟨side, snapshot, ?_, rfl⟩⟩
    · rw [Steady, kept, stored]
      exact ⟨current, rfl⟩
    · rw [stored]
      exact current
  · exact lawful.start_blank blank noOlder orderly

theorem Tracked.Sound.holds {tracked : machine.Tracked} (sound : tracked.Sound) :
    machine.Holds tracked.device.banks tracked.acknowledged := by
  obtain ⟨device, acknowledged⟩ := tracked
  cases device with
  | on ram => exact sound.2 ▸ sound.1.holds
  | off banks => exact sound

theorem Tracked.Sound.mutated (lawful : machine.Lawful) {tracked : machine.Tracked}
    (sound : tracked.Sound) {request : machine.Request} {faults : machine.Faults}
    (sighted : tracked.Sighted (.mutate request faults)) :
    (tracked.step (.mutate request faults)).Sound := by
  obtain ⟨device, acknowledged⟩ := tracked
  cases device with
  | off banks => exact sound
  | on ram =>
      obtain ⟨orderly, unwrapped⟩ := sighted ram rfl
      obtain ⟨settled, on⟩ : machine.Settled (machine.mutate ram request faults).1 ∧ _ :=
        sound.1.mutate lawful orderly unwrapped
      have kept : (∀ snapshot, (machine.mutate ram request faults).2 ≠ .saved snapshot) →
          machine.contents (machine.mutate ram request faults).1 = acknowledged :=
        fun unsaved => (lawful.contents_kept unsaved).trans sound.2
      cases ended : (machine.mutate ram request faults).2 with
      | saved snapshot =>
          have contents := lawful.contents_saved ended
          simp only [Sound, Tracked.step, Device.step, SnapshotStore.mutated, ended]
          exact ⟨settled, contents⟩
      | lost snapshot => exact absurd ended (on snapshot)
      | refused status =>
          simp only [Sound, Tracked.step, Device.step, SnapshotStore.mutated, ended]
          exact ⟨settled, kept (by simp [ended])⟩
      | failed =>
          simp only [Sound, Tracked.step, Device.step, SnapshotStore.mutated, ended]
          exact ⟨settled, kept (by simp [ended])⟩

theorem Tracked.Sound.rebooted (lawful : machine.FallsBack beyond) {tracked : machine.Tracked}
    (sound : tracked.Sound) {boot : BootFaults machine.Faults}
    (sighted : tracked.Sighted (.reboot boot)) : (tracked.step (.reboot boot)).Sound := by
  obtain ⟨on, completed, holds⟩ := sound.holds.start lawful sighted.1 sighted.2
  cases ended : (machine.start tracked.device.banks boot).2 with
  | ready =>
      simp only [Sound, Tracked.step, Device.step, SnapshotStore.rebooted, ended]
      exact completed ended
  | failed =>
      simp only [Sound, Tracked.step, Device.step, SnapshotStore.rebooted, ended]
      exact holds
  | lost snapshot => exact absurd ended (on snapshot)

theorem Tracked.Sound.step (lawful : machine.FallsBack beyond) {tracked : machine.Tracked}
    (sound : tracked.Sound) {event : machine.Event} (sighted : tracked.Sighted event) :
    (tracked.step event).Sound := by
  cases event with
  | mutate request faults => exact sound.mutated lawful.toLawful sighted
  | reboot boot => exact sound.rebooted lawful sighted

/-- The start-up reads the newest bank, or fails, or falls back to the contents last
acknowledged. -/
def Tracked.Sees (tracked : machine.Tracked)
    (beyond : Banks Image → (ℕ → Bool) → machine.Contents) (boot : BootFaults machine.Faults) :
    Prop :=
  ∀ side snapshot, Current machine.format tracked.device.banks side snapshot →
    boot.reads (bankRead side) = true
      ∨ (machine.start tracked.device.banks boot).2 ≠ .ready
      ∨ machine.fallback beyond tracked.device.banks boot.reads side = tracked.acknowledged

/-- What a start-up comes up with that completes without the newest bank. -/
theorem start_unread (lawful : machine.FallsBack beyond) {banks : Banks Image} {side : Side}
    {boot : BootFaults machine.Faults} (unread : boot.reads (bankRead side) = false)
    (honest : ∀ image, (machine.fates image boot.save).Honest)
    (ready : (machine.start banks boot).2 = .ready) :
    machine.contents (machine.start banks boot).1
      = machine.fallback beyond banks boot.reads side := by
  have found := @found_of_unread _ _ machine.format banks side boot.reads unread
  cases other : machine.format.loadIf (boot.reads (bankRead side.other)) (banks.get side.other) with
  | none =>
      rw [other] at found
      rw [fallback_of_none other]
      exact lawful.start_beyond found honest ready
  | some older =>
      rw [other] at found
      rw [fallback, other]
      exact (lawful.start_picked found).2.1

theorem Tracked.Sound.noRollback_iff (lawful : machine.FallsBack beyond)
    {tracked : machine.Tracked} (sound : tracked.Sound) {boot : BootFaults machine.Faults}
    (honest : ∀ image, (machine.fates image boot.save).Honest) :
    tracked.NoRollback boot ↔ tracked.Sees beyond boot := by
  constructor
  · intro kept side snapshot current
    cases read : boot.reads (bankRead side) with
    | true => exact .inl rfl
    | false =>
        by_cases ready : (machine.start tracked.device.banks boot).2 = .ready
        · exact .inr (.inr ((start_unread lawful read honest ready).symm.trans (kept ready)))
        · exact .inr (.inl ready)
  · intro sees ready
    rcases sound.holds with ⟨side, snapshot, current, contents⟩ | ⟨blank, noOlder, absent⟩
    · cases read : boot.reads (bankRead side) with
      | true =>
          obtain ⟨_, kept, _⟩ := lawful.start_picked (found_of_read current read)
          exact kept.trans contents
      | false =>
          rcases sees side snapshot current with seen | failed | same
          · rw [read] at seen
            cases seen
          · exact absurd ready failed
          · exact (start_unread lawful read honest ready).trans same
    · rw [absent, ← lawful.beyond_blank blank noOlder]
      exact lawful.start_beyond (found_of_blank blank _) honest ready

/-- **Start-ups that roll back unnoticed.** After a run from blank banks whose writes
succeed or fail without effect and whose start-ups read the newest bank, a start-up
that completes has the contents last acknowledged exactly if it sees them. -/
theorem noRollback_iff (lawful : machine.FallsBack beyond) {banks : Banks Image}
    (blank : Blank machine.format banks) (noOlder : machine.NoOlder banks)
    {events : List machine.Event}
    (sighted : Run.Throughout Tracked.step Tracked.Sighted ⟨.off banks, machine.absent⟩ events)
    {boot : BootFaults machine.Faults} (honest : ∀ image, (machine.fates image boot.save).Honest) :
    let tracked := Run.run Tracked.step ⟨.off banks, machine.absent⟩ events
    tracked.NoRollback boot ↔ tracked.Sees beyond boot := by
  have opening : Tracked.Sound (⟨.off banks, machine.absent⟩ : machine.Tracked) :=
    .inr ⟨blank, noOlder, rfl⟩
  have sound := sighted.invariant
    (fun tracked event (holds : tracked.Sound) admits => holds.step lawful admits) opening
  exact sound.noRollback_iff lawful honest

/-! ## The first save after a start-up that found nothing -/

/-- What the next start-up finds: the save, unless the second bank has a snapshot that was
not read and whose generation is larger than the first one. -/
def afterRestart (machine : SnapshotStore Image) (unread : Image) (saved : machine.Snapshot) :
    machine.Contents :=
  match machine.format.load unread with
  | none => machine.loaded saved
  | some older =>
      if machine.format.generation older ≤ machine.format.generation saved then
        machine.loaded saved
      else machine.loaded older

theorem start_after_restart (lawful : machine.Lawful) {banks : Banks Image} {ram : machine.Ram}
    (restarted : machine.store ram = ⟨banks, machine.empty, .b⟩)
    {request : machine.Request} {faults : machine.Faults}
    (honest : (machine.mutationFates ram faults).Honest) {snapshot : machine.Snapshot}
    (saved : (machine.mutate ram request faults).2 = .saved snapshot)
    {boot : BootFaults machine.Faults} (readable : boot.Readable) :
    machine.contents
        (machine.start (machine.store (machine.mutate ram request faults).1).banks boot).1
      = machine.afterRestart banks.b snapshot := by
  cases proposed : machine.propose ram request with
  | error status =>
      rw [(lawful.mutate_refuses faults proposed).2] at saved
      cases saved
  | ok candidate =>
      obtain ⟨stored, ended⟩ := Prod.ext_iff.mp (lawful.mutate_saves proposed honest)
      simp only [Prod.map_fst, Prod.map_snd, id_eq] at stored ended
      rw [saved] at ended
      rcases machine.format.save_cases honest (machine.store ram) candidate with
        ⟨_, valid, result⟩ | ⟨_, _, _, result⟩ | ⟨_, _, result⟩ | ⟨_, _, result⟩
      · rw [result] at stored ended
        obtain rfl : snapshot = machine.format.stamp candidate := Ending.saved.inj ended
        rw [restarted] at stored
        have first : machine.format.load
            (machine.format.write (machine.format.stamp candidate) machine.format.blank)
              = some (machine.format.stamp candidate) := load_write valid
        have finds (side : Side) {found : machine.Snapshot}
            (newest : machine.format.pick (some (machine.format.stamp candidate))
              (machine.format.load banks.b) = some (side, found)) :
            machine.contents (machine.start
              (machine.store (machine.mutate ram request faults).1).banks boot).1
                = machine.loaded found := by
          have newest : machine.format.newest
              (machine.store (machine.mutate ram request faults).1).banks = some (side, found) := by
            rw [stored, Format.newest]
            simp only [Side.other, Banks.set, first]
            exact newest
          exact (lawful.start_found readable newest).2.2
        unfold afterRestart
        cases second : machine.format.load banks.b with
        | none => exact finds .a (by rw [second]; rfl)
        | some older =>
            dsimp only
            split
            · next order =>
                exact finds .a (by rw [second]; simp [Format.pick, pickNewer, order])
            · next order =>
                exact finds .b (by rw [second]; simp [Format.pick, pickNewer, order])
      all_goals
        rw [result] at ended
        cases ended

end HealthCheckFirmware.SnapshotStore

namespace HealthCheckFirmware.PlainStore

open TwoBank SnapshotStore

variable {Image Snapshot Request Status Contents : Type}
  {plain : PlainStore Image Snapshot Request Status Contents}

/-! ## Plain stores -/

/-- How a plain store starts up with reads that fail: with the snapshot it finds; and
otherwise with the empty one, or it saves what it falls back to. -/
structure ReadsBack (plain : PlainStore Image Snapshot Request Status Contents)
    (beyond : Banks Image → (ℕ → Bool) → Contents) : Prop extends plain.Lawful where
  start_picked : ∀ {banks boot side snapshot},
    found plain.format banks boot.reads = some (side, snapshot) →
      plain.start banks boot = (⟨banks, snapshot, side⟩, .ready)
  start_beyond : ∀ {banks boot}, found plain.format banks boot.reads = none →
    match plain.persists with
    | none => plain.start banks boot = (⟨banks, plain.empty, .b⟩, .ready)
        ∧ beyond banks boot.reads = plain.contents plain.empty
    | some _ => ∃ store candidate, plain.start banks boot =
          Prod.map id Outcome.start (plain.format.save boot.save store candidate)
        ∧ beyond banks boot.reads = plain.contents candidate
  start_none : ∀ {banks boot candidate}, Blank plain.format banks →
    (∀ side, plain.older (banks.get side) = false) → plain.persists = some candidate →
      plain.start banks boot = Prod.map id Outcome.start
        (plain.format.save boot.save ⟨banks, plain.empty, .b⟩ candidate)
  beyond_none : ∀ {banks reads}, Blank plain.format banks →
    (∀ side, plain.older (banks.get side) = false) →
      beyond banks reads = plain.contents plain.empty
  persists_valid : ∀ {candidate}, plain.persists = some candidate →
    plain.format.isValid
      (plain.format.write (plain.format.stamp candidate) plain.format.blank) = true

variable {beyond : Banks Image → (ℕ → Bool) → Contents}

theorem fallsBack (lawful : plain.ReadsBack beyond) : plain.machine.FallsBack beyond where
  toLawful := (machine_recovering lawful.toLawful).toLawful
  start_picked {banks boot side snapshot} found := by
    have started : plain.start banks boot = _ := lawful.start_picked found
    simp [machine, started]
  start_beyond {banks boot} none _ ready := by
    have beyond := lawful.start_beyond none
    cases persists : plain.persists with
    | none =>
        rw [persists] at beyond
        have started : plain.start banks boot = _ := beyond.1
        rw [beyond.2]
        simp [machine, started]
    | some first =>
        rw [persists] at beyond
        obtain ⟨store, candidate, started, same⟩ := beyond
        have ready : (plain.start banks boot).2 = .ready := ready
        rw [started] at ready
        have kept : plain.contents (plain.start banks boot).1.snapshot
            = plain.contents candidate := by
          rw [started]
          exact (congrArg plain.contents (snapshot_of_ready ready)).trans
            (lawful.contents_stamp candidate)
        exact kept.trans same.symm
  beyond_blank blank noOlder := lawful.beyond_none blank noOlder
  start_blank {banks boot} blank noOlder orderly := by
    cases persists : plain.persists with
    | none =>
        have found : found plain.format banks boot.reads = none := found_of_blank blank _
        have beyond := lawful.start_beyond found
        rw [persists] at beyond
        have started : plain.start banks boot = _ := beyond.1
        have settled : plain.machine.Settled (plain.start banks boot).1 := by
          rw [started]
          exact .inr ⟨blank, noOlder, persists, rfl, rfl, rfl⟩
        have same : plain.contents (plain.start banks boot).1.snapshot
            = plain.contents plain.empty := by rw [started]
        exact settled.resumes (congrArg Prod.snd started) same
    | some candidate =>
        have started : plain.start banks boot = _ := lawful.start_none blank noOlder persists
        have defaults : plain.contents (plain.format.stamp candidate)
            = plain.contents plain.empty := by rw [lawful.empty_persists persists]
        exact resumes_of_save blank noOlder orderly (lawful.persists_valid persists) defaults
          started fun _ => rfl

end HealthCheckFirmware.PlainStore
