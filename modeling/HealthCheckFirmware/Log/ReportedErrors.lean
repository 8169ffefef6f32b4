import HealthCheckFirmware.Log.PowerLoss

/-!
# The log under reported flash errors

The power stays on, but the erase, the program operation and the verification read
of an append may each report a failure. A failed append passes over its slot, and a
later one goes into the next slot. If the failed one left its slot reading as
erased, the scan of a start-up, and that of the sector once it is inactive, stop
below the later record: it is no longer found, and its slot is programmed again.

`Unbroken` excludes exactly that: whenever a start-up scans the sectors, or the ring
leaves the active one, no valid record lies above a slot that reads as erased. In
every run that meets it no valid record is programmed over, and every acknowledged
record is listed until a sector of further slots has been consumed
(`acknowledged_listed_unless_gap`). The shortest run that does not meet it loses an
acknowledged record at the second start-up (`acknowledged_record_lost`).
-/

set_option autoImplicit false

namespace HealthCheckFirmware.HealthCheckLog

open TwoBank SlotScan Run

/-! ## The runs -/

/-- The events of a run without loss of power, in which the operations of an append
may report failures. -/
def ReportedErrors (state : State) : Event → Prop
  | .boot faults => faults.Readable ∧ faults.erase = .done
  | .append _ faults =>
      ∀ ram, state.ram = some ram →
        faults.erase.Honest ∧ faults.erase.Powered ∧ faults.program.Powered
          ∧ ram.nextSequence < erasedSequence

/-- A start-up meets sectors that it can resume; an append that leaves the active
sector leaves it without a gap; and no slot that a failed operation leaves passes
for a record that is neither complete nor what the slot held before. -/
def Unbroken (state : State) : Event → Prop
  | .boot _ => ∀ ram, state.ram = some ram → Resumable state.sectors ram.activeSector
  | .append check faults =>
      ∀ ram, state.ram = some ram →
        (slotsPerSector ≤ ram.nextSlot →
          GaplessAt state.sectors ram.activeSector
            ∧ EraseDetected (state.sectors.get ram.activeSector.other)
              (faults.erase.leaves blankSector))
        ∧ ∀ ready, makeRoom faults.erase ⟨ram, state.sectors⟩ = (.ok, ready) →
          ProgramDetected (slotAt (ready.sectors.get ready.ram.activeSector) ready.ram.nextSlot)
            (slotAfter faults.program (newRecord check ready.ram.nextSequence) ready)
            (newRecord check ready.ram.nextSequence)

/-- The slot that an append programs holds no valid record. -/
def SparesRecords (state : State) : Event → Prop
  | .boot _ => True
  | .append _ faults =>
      ∀ ram ready, state.ram = some ram → makeRoom faults.erase ⟨ram, state.sectors⟩ = (.ok, ready) →
        (view (ready.sectors.get ready.ram.activeSector) ready.ram.nextSlot).record? = none

/-! ## The invariant -/

/-- A running log whose sectors fit its variables. -/
def Placed (sectors : Sectors) (ram : Ram) (ledger : Ledger) : Prop :=
  (∃ used, Sound sectors ram.activeSector ram.nextSlot used ledger)
    ∧ Numbered sectors ram.activeSector ram.nextSequence

/-- What holds of a state along the run. Before the first start-up there is no
record. -/
def Steady (state : State) : Prop :=
  match state.ram with
  | some ram => Placed state.sectors ram state.ledger
  | none => NoRecords state.sectors ∧ state.ledger.acknowledged = []

section Steps

variable {sectors : Sectors} {ram : Ram} {ledger : Ledger} {check : Check} {faults : AppendFaults}

/-- The first start-up. -/
theorem placed_empty {active : Side} {nextSlot used : ℕ}
    (sound : Sound sectors active nextSlot used ledger) (none : NoRecords sectors) :
    Placed (sectors.set .a blankSector) ⟨.a, 0, 1⟩ ledger := by
  have still : NoRecords (sectors.set .a blankSector) :=
    none.set fun slot record reads => by
      rw [view_blankSector] at reads
      cases reads
  have running := running_empty sound none still
  exact ⟨⟨0, running.sound⟩, running.numbered⟩

/-- The roll to the other sector. -/
theorem Placed.rolled {side : Side} {nextSlot used : ℕ} {nextSequence : UInt32}
    (sound : Sound sectors side nextSlot used ledger) (full : slotsPerSector ≤ nextSlot)
    (gapless : GaplessAt sectors side) (numbered : Numbered sectors side nextSequence) :
    Placed (sectors.set side.other blankSector) ⟨side.other, 0, nextSequence⟩ ledger := by
  refine ⟨⟨0, sound.roll full gapless⟩, numbered.of_subset ?_⟩
  simp [retained]

theorem Placed.boot (placed : Placed sectors ram ledger) {faults : InitFaults}
    (readable : faults.Readable) (erases : faults.erase = .done)
    (resumable : Resumable sectors ram.activeSector) :
    Steady (bootState (init faults sectors) ledger) := by
  obtain ⟨⟨used, sound⟩, _⟩ := placed
  rcases init_cases readable sound resumable with ⟨none, begins⟩ | ⟨side, chosen, resumes⟩
  · rw [begins, erases]
    exact placed_empty sound none
  · obtain ⟨used', resumed⟩ := sound.resume chosen
    have numbered := resumed.numbered_resume chosen.nonempty
    rw [← seenIn_eq chosen.gapless] at numbered
    rw [resumes, resumeAt]
    by_cases room : frontier (view (sectors.get side)) slotsPerSector < slotsPerSector
    · rw [if_pos room]
      exact ⟨⟨used', resumed⟩, numbered⟩
    · rw [if_neg room, erases]
      exact Placed.rolled resumed (Nat.not_lt.mp room) chosen.gapless numbered

/-- Programming the next slot. -/
theorem Placed.write (placed : Placed sectors ram ledger) (room : ram.nextSlot < slotsPerSector)
    (below : ram.nextSequence < erasedSequence) (powered : faults.program.Powered)
    (detected : ProgramDetected (slotAt (sectors.get ram.activeSector) ram.nextSlot)
      (slotAfter faults.program (newRecord check ram.nextSequence) ⟨ram, sectors⟩)
      (newRecord check ram.nextSequence)) :
    Steady (afterWrite faults check ledger ⟨ram, sectors⟩) := by
  obtain ⟨⟨used, sound⟩, numbered⟩ := placed
  have ahead : ram.nextSequence ≠ erasedSequence := UInt32.ne_of_lt below
  have programs := programs_of_detected check ahead faults
    (sound.silent ram.nextSlot (Nat.le_refl _)) detected
  have survives : faults.program.progress ≠ .powerLost := by
    cases fate : faults.program with
    | cut left => exact (fate ▸ powered : (Fate.cut left).Powered).elim
    | _ => simp [Fate.progress]
  have outcome := mt (outcomeOf_powerLost faults (newRecord check ram.nextSequence)
    (slotAfter faults.program (newRecord check ram.nextSequence) ⟨ram, sectors⟩)).mp survives
  simp only [Steady, afterWrite, outcome, if_false]
  exact ⟨⟨_, sound.advance numbered programs room (if_neg fun lost => outcome lost.1)⟩,
    sound.numbered_withSlot numbered programs room ahead⟩

theorem Placed.append (placed : Placed sectors ram ledger)
    (reported : ReportedErrors ⟨sectors, some ram, ledger⟩ (.append check faults))
    (unbroken : Unbroken ⟨sectors, some ram, ledger⟩ (.append check faults)) :
    Steady (step ⟨sectors, some ram, ledger⟩ (.append check faults)) := by
  obtain ⟨honest, erasePowered, powered, below⟩ := reported ram rfl
  obtain ⟨leaving, detected⟩ := unbroken ram rfl
  rcases Nat.lt_or_ge ram.nextSlot slotsPerSector with room | full
  · have made := makeRoom_of_room faults.erase ⟨ram, sectors⟩ room
    rw [step_append_ready made]
    exact placed.write room below powered (detected _ made)
  · obtain ⟨gapless, eraseDetected⟩ := leaving full
    obtain ⟨⟨used, sound⟩, numbered⟩ := placed
    by_cases erased : faults.erase.progress = .ok
    · have made := makeRoom_of_full faults.erase ⟨ram, sectors⟩ full
      rw [rollToSector_ok honest _ _ erased] at made
      rw [step_append_ready made]
      have room : 0 < slotsPerSector := by decide
      exact (Placed.rolled sound full gapless numbered).write room below powered (detected _ made)
    · rw [step_append_stuck full erased]
      have survives : faults.erase.progress ≠ .powerLost := by
        cases fate : faults.erase with
        | cut left => exact (fate ▸ erasePowered : (Fate.cut left).Powered).elim
        | _ => simp [Fate.progress]
      rw [if_neg survives]
      refine ⟨⟨used, sound.eraseTorn full eraseDetected⟩, numbered.of_subset ?_⟩
      simp only [retained, recordsIn_set_self, recordsIn_set_other]
      exact (eraseDetected.sublist.append (List.Sublist.refl _)).subset

end Steps

theorem Steady.step {state : State} {event : Event} (steady : Steady state)
    (reported : ReportedErrors state event) (unbroken : Unbroken state event) :
    Steady (step state event) := by
  obtain ⟨sectors, ram, ledger⟩ := state
  cases event with
  | boot faults =>
      obtain ⟨readable, erases⟩ := reported
      cases ram with
      | none =>
          obtain ⟨none, unacknowledged⟩ := steady
          have sound : Sound sectors .a 0 slotsPerSector ledger := by
            refine none.sound (Nat.le_refl _) (fun slot beyond => view_beyond beyond) ?_ ?_ <;>
            · intro record stamp member
              rw [unacknowledged] at member
              cases member
          have seen : ∀ side, seenIn sectors side = [] := fun side => by
            rw [seenIn_eq (gaplessAt_of_nil (none side)), none side]
          change Steady (bootState (init faults sectors) ledger)
          rw [init_of_nil readable seen, erases]
          exact placed_empty sound none
      | some ram => exact Placed.boot steady readable erases (unbroken ram rfl)
  | append check faults =>
      cases ram with
      | none => exact steady
      | some ram => exact Placed.append steady reported unbroken

theorem Steady.sparesRecords {state : State} {event : Event} (steady : Steady state)
    (reported : ReportedErrors state event) (unbroken : Unbroken state event) :
    SparesRecords state event := by
  cases event with
  | boot faults => trivial
  | append check faults =>
      intro ram ready on made
      rw [Steady, on] at steady
      obtain ⟨⟨used, sound⟩, numbered⟩ := steady
      rcases Nat.lt_or_ge ram.nextSlot slotsPerSector with room | full
      · rw [makeRoom_of_room _ _ room] at made
        cases made
        exact sound.silent ram.nextSlot (Nat.le_refl _)
      · rw [makeRoom_of_full _ _ full] at made
        by_cases erased : faults.erase.progress = .ok
        · rw [rollToSector_ok (reported ram on).1 _ _ erased] at made
          cases made
          simp [rolled]
        · rw [rollToSector_stuck _ _ erased] at made
          exact absurd (Prod.mk.inj made).1 erased

/-! ## The main result -/

/-- Every acknowledged record is listed, given room for all, until a sector of further
slots has been consumed. -/
def AcknowledgedListed (state : State) : Prop :=
  ∀ ram record stamp, state.ram = some ram → (record, stamp) ∈ state.ledger.acknowledged →
    (∀ capacity, 2 * slotsPerSector ≤ capacity →
      entry record ∈ getRecent allReadable capacity ⟨ram, state.sectors⟩)
    ∨ stamp + slotsPerSector ≤ state.ledger.consumed

theorem Steady.acknowledgedListed {state : State} (steady : Steady state) :
    AcknowledgedListed state := by
  intro ram record stamp on acknowledged
  rw [Steady, on] at steady
  obtain ⟨⟨used, sound⟩, _⟩ := steady
  have listed : record ∈ seenIn state.sectors ram.activeSector.other
        ++ records (view (state.sectors.get ram.activeSector)) ram.nextSlot →
      ∀ capacity, 2 * slotsPerSector ≤ capacity →
        entry record ∈ getRecent allReadable capacity ⟨ram, state.sectors⟩ := by
    intro member capacity enough
    have bound := Nat.add_le_add
      (length_records_le (view (state.sectors.get ram.activeSector.other))
        (frontier (view (state.sectors.get ram.activeSector.other)) slotsPerSector))
      (length_records_le (view (state.sectors.get ram.activeSector)) ram.nextSlot)
    have inactive := frontier_le (view (state.sectors.get ram.activeSector.other)) slotsPerSector
    have active := Nat.le_trans sound.nextSlot_le sound.used_le
    rw [getRecent_readable, List.take_of_length_le]
    · exact List.mem_map_of_mem (List.mem_reverse.mpr member)
    · simp only [List.length_reverse, List.length_append, seenIn]
      omega
  rcases sound.kept record stamp acknowledged with here | ⟨seen, _⟩ | since
  · rw [← sound.records_below] at here
    exact .inl (listed (List.mem_append_right _ here))
  · exact .inl (listed (List.mem_append_left _ seen))
  · exact .inr since

/-- **Acknowledged records stay listed unless a gap hides them.** From sectors without a
valid record, in every run with reported errors whose events all meet `Unbroken`, no
append programs a slot that holds a valid record, and in the state reached every
acknowledged record is listed until a sector of further slots has been consumed. -/
theorem acknowledged_listed_unless_gap (sectors : Sectors) (none : NoRecords sectors)
    (events : List Event)
    (reported : Throughout step ReportedErrors (State.start sectors) events)
    (unbroken : Throughout step Unbroken (State.start sectors) events) :
    Throughout step SparesRecords (State.start sectors) events
      ∧ AcknowledgedListed (run step (State.start sectors) events) := by
  have admitted := reported.and unbroken
  have start : Steady (State.start sectors) := ⟨none, rfl⟩
  have preserved : ∀ state event, Steady state →
      ReportedErrors state event ∧ Unbroken state event → Steady (step state event) :=
    fun _ _ steady admitted => steady.step admitted.1 admitted.2
  constructor
  · exact admitted.imp preserved
      (fun _ _ steady admitted => steady.sparesRecords admitted.1 admitted.2) start
  · exact (admitted.invariant preserved start).acknowledgedListed

/-- An append whose program operation reports a failure in the middle of the slot. -/
def tornAppend : Event :=
  .append sampleCheck ⟨.done, .refused (tornSlot (newRecord sampleCheck 2)), true⟩

/-- A record, a failed append, another record and a restart. -/
def tornRun : List Event := [cleanBoot, cleanAppend, tornAppend, cleanAppend, cleanBoot]

/-- What an append without room to make needs, of the slot that it programs. -/
theorem unbroken_of_room {state : State} {check : Check} {faults : AppendFaults} {ram : Ram}
    (on : state.ram = some ram) (room : ram.nextSlot < slotsPerSector)
    (detected : ProgramDetected (slotAt (state.sectors.get ram.activeSector) ram.nextSlot)
      (slotAfter faults.program (newRecord check ram.nextSequence) ⟨ram, state.sectors⟩)
      (newRecord check ram.nextSequence)) : Unbroken state (.append check faults) := by
  intro other same
  obtain rfl := Option.some.inj (on.symm.trans same)
  refine ⟨fun full => absurd room (Nat.not_lt.mpr full), fun ready made => ?_⟩
  rw [makeRoom_of_room _ _ room] at made
  cases made
  exact detected

theorem reported_of_room {state : State} {check : Check} {faults : AppendFaults} {ram : Ram}
    (on : state.ram = some ram) (powered : faults.program.Powered) (erases : faults.erase = .done)
    (below : ram.nextSequence < erasedSequence) : ReportedErrors state (.append check faults) := by
  intro other same
  obtain rfl := Option.some.inj (on.symm.trans same)
  rw [erases]
  exact ⟨trivial, trivial, powered, below⟩

/-- Before the restart the torn slot lies between two records, and no gap does. -/
theorem tornRun_resumable :
    Resumable (run step (State.start blankSectors)
      [cleanBoot, cleanAppend, tornAppend, cleanAppend]).sectors .a := by
  have used : ∀ slot < 3, (view (run step (State.start blankSectors)
      [cleanBoot, cleanAppend, tornAppend, cleanAppend]).sectors.a slot).isErased = false := by
    decide +kernel
  have silent : ∀ slot < slotsPerSector, 3 < slot → (view (run step (State.start blankSectors)
      [cleanBoot, cleanAppend, tornAppend, cleanAppend]).sectors.a slot).isErased = true := by
    decide +kernel
  refine ⟨@gapless_of_used _ _ _ 3 (fun slot below reads => ?_) fun slot above within => ?_,
    fun _ => gaplessAt_of_nil (by decide +kernel)⟩
  · exact absurd ((used slot below).symm.trans (Reading.isErased_iff.mpr reads)) (by decide)
  · exact congrArg _ (Reading.isErased_iff.mp (silent slot within above))

/-- Both records stay listed after the failed append between them and the restart. -/
theorem records_stay_listed_past_torn :
    let state := run step (State.start blankSectors) tornRun
    Throughout step SparesRecords (State.start blankSectors) tornRun
      ∧ AcknowledgedListed state
      ∧ state.ledger.acknowledged =
        [(newRecord sampleCheck 1, 1), (newRecord sampleCheck 3, 3)] := by
  have torn : read (tornSlot (newRecord sampleCheck 2)) = .torn := by decide +kernel
  have first : (run step (State.start blankSectors) [cleanBoot]).ram = some ⟨.a, 0, 1⟩ := by
    decide +kernel
  have second : (run step (State.start blankSectors) [cleanBoot, cleanAppend]).ram
      = some ⟨.a, 1, 2⟩ := by decide +kernel
  have third : (run step (State.start blankSectors) [cleanBoot, cleanAppend, tornAppend]).ram
      = some ⟨.a, 2, 3⟩ := by decide +kernel
  have last : (run step (State.start blankSectors)
      [cleanBoot, cleanAppend, tornAppend, cleanAppend]).ram = some ⟨.a, 3, 4⟩ := by
    decide +kernel
  have listed := acknowledged_listed_unless_gap blankSectors noRecords_blankSectors tornRun
    ⟨⟨fun _ _ => rfl, rfl⟩, reported_of_room first trivial rfl (by decide),
      reported_of_room second trivial rfl (by decide),
      reported_of_room third trivial rfl (by decide), ⟨fun _ _ => rfl, rfl⟩, trivial⟩
    ⟨fun _ on => (by cases on),
      unbroken_of_room first (by decide) (programDetected_done (by decide +kernel)),
      unbroken_of_room second (by decide) (programDetected_torn torn _),
      unbroken_of_room third (by decide) (programDetected_done (by decide +kernel)),
      fun _ on => Option.some.inj (last.symm.trans on) ▸ tornRun_resumable, trivial⟩
  exact ⟨listed.1, listed.2, by decide +kernel⟩

/-! ## A record lost in a gap -/

/-- An append whose program operation reports a failure and leaves the slot as it was. -/
def failedAppend : Event := .append sampleCheck ⟨.done, .refused blank, true⟩

/-- A failed append, one that is acknowledged, and a second start-up. -/
def gapRun : List Event := [cleanBoot, failedAppend, cleanAppend, cleanBoot]

theorem gapRun_reported : Throughout step ReportedErrors (State.start blankSectors) gapRun := by
  have first : (run step (State.start blankSectors) [cleanBoot]).ram = some ⟨.a, 0, 1⟩ := by
    decide +kernel
  have second : (run step (State.start blankSectors) [cleanBoot, failedAppend]).ram
      = some ⟨.a, 1, 2⟩ := by decide +kernel
  exact ⟨⟨fun _ _ => rfl, rfl⟩, reported_of_room first trivial rfl (by decide),
    reported_of_room second trivial rfl (by decide), ⟨fun _ _ => rfl, rfl⟩, trivial⟩

/-- **An acknowledged record is lost at once.** The second append goes into slot 1 and is
acknowledged, but the start-up stops at slot 0, finds no record and erases the sector. -/
theorem acknowledged_record_lost :
    NoRecords blankSectors
      ∧ Throughout step ReportedErrors (State.start blankSectors) gapRun
      ∧ (run step (State.start blankSectors) gapRun).ledger.acknowledged =
        [(newRecord sampleCheck 2, 2)]
      ∧ (run step (State.start blankSectors) gapRun).ledger.consumed = 2
      ∧ ¬ AcknowledgedListed (run step (State.start blankSectors) gapRun) := by
  have acknowledged : (run step (State.start blankSectors) gapRun).ledger.acknowledged =
      [(newRecord sampleCheck 2, 2)] := by decide +kernel
  have consumed : (run step (State.start blankSectors) gapRun).ledger.consumed = 2 := by
    decide +kernel
  have on : (run step (State.start blankSectors) gapRun).ram = some ⟨.a, 0, 1⟩ := by
    decide +kernel
  have nothing : getRecent allReadable (2 * slotsPerSector)
      ⟨⟨.a, 0, 1⟩, (run step (State.start blankSectors) gapRun).sectors⟩ = [] := by
    decide +kernel
  refine ⟨noRecords_blankSectors, gapRun_reported, acknowledged, consumed, fun listed => ?_⟩
  rcases listed ⟨.a, 0, 1⟩ (newRecord sampleCheck 2) 2 on (by rw [acknowledged]; simp)
    with found | since
  · have member := found (2 * slotsPerSector) (Nat.le_refl _)
    rw [nothing] at member
    cases member
  · rw [consumed] at since
    exact absurd since (by decide)

end HealthCheckFirmware.HealthCheckLog
