import HealthCheckFirmware.Log.Ring

/-!
# Runs of the log

A run alternates start-ups and appends. The state carries the sectors, the
variables while the firmware is running, and the ledger of an observer. An append
first makes room and then programs one slot; `step_append_ready` and
`step_append_stuck` say what follows in each case.

What is assumed of the flash in every run is `Assumed`: an erase that reports
success has erased, a slot that is not a complete record does not pass for one,
and the sequence numbers stay below the erased one.
-/

set_option autoImplicit false

namespace HealthCheckFirmware.HealthCheckLog

open TwoBank SlotScan

/-! ## States and events -/

structure State where
  sectors : Sectors
  ram : Option Ram
  ledger : Ledger

/-- Before the first start-up. -/
def State.start (sectors : Sectors) : State := ⟨sectors, none, .empty⟩

inductive Event where
  | boot (faults : InitFaults)
  | append (check : Check) (faults : AppendFaults)

/-- The ledger after an append. -/
def Ledger.after (ledger : Ledger) (log : Log) (check : Check) (faults : AppendFaults) : Ledger :=
  match makeRoom faults.erase log with
  | (.ok, ready) =>
      ledger.note (newRecord check ready.ram.nextSequence)
        (slotAfter faults.program (newRecord check ready.ram.nextSequence) ready)
        (append faults check log).1
  | _ => ledger

/-- A start-up that does not succeed leaves the firmware halted, and so does a loss
of power. -/
def step (state : State) : Event → State
  | .boot faults =>
      match init faults state.sectors with
      | (.ok, log) => ⟨log.sectors, some log.ram, state.ledger⟩
      | (_, log) => ⟨log.sectors, none, state.ledger⟩
  | .append check faults =>
      match state.ram with
      | none => state
      | some ram =>
          let ledger := state.ledger.after ⟨ram, state.sectors⟩ check faults
          match append faults check ⟨ram, state.sectors⟩ with
          | (.powerLost, after) => ⟨after.sectors, none, ledger⟩
          | (_, after) => ⟨after.sectors, some after.ram, ledger⟩

/-! ## Appending -/

theorem makeRoom_of_room (erase : Fate Slots) (log : Log)
    (room : log.ram.nextSlot < slotsPerSector) : makeRoom erase log = (.ok, log) :=
  if_neg (Nat.not_le.mpr room)

theorem makeRoom_of_full (erase : Fate Slots) (log : Log)
    (full : slotsPerSector ≤ log.ram.nextSlot) :
    makeRoom erase log = rollToSector erase log.ram.activeSector.other log :=
  if_pos full

/-- The log after the roll to an erased sector. -/
def rolled (log : Log) (side : Side) : Log :=
  ⟨{ log.ram with activeSector := side, nextSlot := 0 }, log.sectors.set side blankSector⟩

theorem rollToSector_ok {erase : Fate Slots} (honest : erase.Honest) (side : Side) (log : Log)
    (ok : erase.progress = .ok) : rollToSector erase side log = (.ok, rolled log side) := by
  simp only [rollToSector, ok, honest.leaves_eq ok, rolled]

theorem rollToSector_stuck {erase : Fate Slots} (side : Side) (log : Log)
    (stuck : erase.progress ≠ .ok) :
    rollToSector erase side log =
      (erase.progress, ⟨log.ram, log.sectors.set side (erase.leaves blankSector)⟩) := by
  cases progress : erase.progress with
  | ok => exact absurd progress stuck
  | error => simp only [rollToSector, progress]
  | powerLost => simp only [rollToSector, progress]

/-- What the caller learns of a write. -/
def outcomeOf (faults : AppendFaults) (record : Record) (content : Slot) : Appended :=
  match faults.program.progress with
  | .ok => if faults.verify && content == bytes record then .ok (entry record) else .error
  | .error => .error
  | .powerLost => .powerLost

/-- The variables after a slot was used. -/
def Ram.advance (ram : Ram) : Ram :=
  { ram with nextSlot := ram.nextSlot + 1, nextSequence := ram.nextSequence + 1 }

theorem write_eq (faults : AppendFaults) (record : Record) (log : Log) :
    write faults record log =
      (outcomeOf faults record (slotAfter faults.program record log),
        ⟨log.ram.advance, withSlot log.sectors log.ram.activeSector log.ram.nextSlot
          (slotAfter faults.program record log)⟩) := rfl

theorem append_of_ready {faults : AppendFaults} {log ready : Log} (check : Check)
    (made : makeRoom faults.erase log = (.ok, ready)) :
    append faults check log = write faults (newRecord check ready.ram.nextSequence) ready := by
  simp only [append, made]

section Append

variable {sectors : Sectors} {ram : Ram} {ledger : Ledger} {check : Check} {faults : AppendFaults}

/-- The state after a record was programmed into the next slot. -/
def afterWrite (faults : AppendFaults) (check : Check) (ledger : Ledger) (ready : Log) : State :=
  let record := newRecord check ready.ram.nextSequence
  let content := slotAfter faults.program record ready
  let outcome := outcomeOf faults record content
  ⟨withSlot ready.sectors ready.ram.activeSector ready.ram.nextSlot content,
    if outcome = .powerLost then none else some ready.ram.advance,
    ledger.note record content outcome⟩

/-- Once there is room, one slot is programmed. -/
theorem step_append_ready {ready : Log}
    (made : makeRoom faults.erase ⟨ram, sectors⟩ = (.ok, ready)) :
    step ⟨sectors, some ram, ledger⟩ (.append check faults) =
      afterWrite faults check ledger ready := by
  simp only [step, Ledger.after, made, append_of_ready check made, write_eq, afterWrite]
  cases outcomeOf faults (newRecord check ready.ram.nextSequence)
    (slotAfter faults.program (newRecord check ready.ram.nextSequence) ready) <;> simp

/-- Without room, only the other sector has changed. -/
theorem step_append_stuck (full : slotsPerSector ≤ ram.nextSlot)
    (stuck : faults.erase.progress ≠ .ok) :
    step ⟨sectors, some ram, ledger⟩ (.append check faults) =
      ⟨sectors.set ram.activeSector.other (faults.erase.leaves blankSector),
        if faults.erase.progress = .powerLost then none else some ram, ledger⟩ := by
  have made := makeRoom_of_full faults.erase ⟨ram, sectors⟩ full
  rw [rollToSector_stuck _ _ stuck] at made
  cases progress : faults.erase.progress with
  | ok => exact absurd progress stuck
  | error =>
      rw [progress] at made
      simp [step, Ledger.after, append, made]
  | powerLost =>
      rw [progress] at made
      simp [step, Ledger.after, append, made]

end Append

/-! ## What is assumed of the flash -/

/-- An erase that reports success has erased, and what it leaves otherwise holds no
new record; a programmed slot holds no record but the one written; and the sequence
number to be written is not the erased one. -/
structure Assumed (log : Log) (check : Check) (faults : AppendFaults) : Prop where
  honest : slotsPerSector ≤ log.ram.nextSlot → faults.erase.Honest
  erase : slotsPerSector ≤ log.ram.nextSlot →
    EraseDetected (log.sectors.get log.ram.activeSector.other) (faults.erase.leaves blankSector)
  program : ∀ ready, makeRoom faults.erase log = (.ok, ready) →
    ProgramDetected (slotAt (ready.sectors.get ready.ram.activeSector) ready.ram.nextSlot)
      (slotAfter faults.program (newRecord check ready.ram.nextSequence) ready)
      (newRecord check ready.ram.nextSequence)
  sequence : log.ram.nextSequence < erasedSequence

/-- After a start-up, a slot that reads as valid holds what it held before. -/
def Detected (before after : Sectors) : Prop :=
  ∀ side, EraseDetected (before.get side) (after.get side)

theorem Detected.of_roll {erase : Fate Slots} {side : Side} {log : Log}
    (detected : Detected log.sectors (rollToSector erase side log).2.sectors) :
    EraseDetected (log.sectors.get side) (erase.leaves blankSector) := by
  have after : (rollToSector erase side log).2.sectors =
      log.sectors.set side (erase.leaves blankSector) := by
    unfold rollToSector
    cases erase.progress <;> rfl
  have here := detected side
  rwa [after, Banks.get_set_self] at here

/-- A new record, completely written, reads as itself. -/
theorem read_bytes_newRecord (check : Check) {sequence : UInt32}
    (below : sequence ≠ erasedSequence) :
    read (bytes (newRecord check sequence)) = .valid (newRecord check sequence) :=
  read_bytes _ rfl below rfl

/-- Programming a slot that held no record does what `Programs` says. -/
theorem programs_of_detected (check : Check) {sequence : UInt32}
    (below : sequence ≠ erasedSequence) {old content : Slot} (faults : AppendFaults)
    (silent : (read old).record? = none)
    (detected : ProgramDetected old content (newRecord check sequence)) :
    Programs sequence (newRecord check sequence) content
      (outcomeOf faults (newRecord check sequence) content) := by
  have complete := read_bytes_newRecord check below
  refine ⟨rfl, ?_, ?_⟩
  · cases reads : read content with
    | valid other =>
        rcases detected other reads with rfl | rfl
        · rw [complete] at reads
          cases reads
          exact .inr rfl
        · rw [reads] at silent
          cases silent
    | _ => exact .inl rfl
  · intro entry accepted
    have same : content = bytes (newRecord check sequence) := by
      unfold outcomeOf at accepted
      split at accepted
      · split at accepted
        · rename_i verified
          exact eq_of_beq (Bool.and_eq_true_iff.mp verified).2
        · cases accepted
      · cases accepted
      · cases accepted
    rw [same, complete]
    rfl

/-! ## Reading -/

/-- All reads succeed. -/
def allReadable : Side → ℕ → Bool := fun _ _ => true

/-- With all reads succeeding, the list is that of the records below the next slot
and of those a scan of the other sector sees, newest first. -/
theorem getRecent_readable (capacity : ℕ) (log : Log) :
    getRecent allReadable capacity log =
      (((seenIn log.sectors log.ram.activeSector.other
        ++ records (view (log.sectors.get log.ram.activeSector)) log.ram.nextSlot).reverse).take
          capacity).map entry := by
  have all : ∀ side, allReadable side = fun _ => true := fun _ => rfl
  simp only [getRecent, all, scanSector_readable, recentBelow_readable, seenIn,
    List.reverse_append]

/-- In a sound log the records below the next slot are all those of the sector. -/
theorem Sound.records_below {sectors : Sectors} {active : Side} {nextSlot used : ℕ}
    {ledger : Ledger} (sound : Sound sectors active nextSlot used ledger) :
    records (view (sectors.get active)) nextSlot = recordsIn sectors active :=
  (records_of_silent (Nat.le_trans sound.nextSlot_le sound.used_le)
    fun slot above _ => sound.silent slot above).symm

end HealthCheckFirmware.HealthCheckLog
