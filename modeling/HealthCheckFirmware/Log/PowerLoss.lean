import HealthCheckFirmware.Log.Runs

/-!
# The log under power loss

Flash operations work, but the power may be lost during any of them. While the
firmware runs, the used slots of the active sector read as used, the others as
erased, and the inactive sector is either full or without a record (`Running`).
After a loss of power the slot being programmed or the sector being erased may
hold anything that does not pass for a record (`Resting`), and a start-up restores
`Running` from there (`Resting.boot`).

The main result is `ring_survives_power_loss`: the list of recent records is that
of the newest records completely written, every acknowledged record stays until a
sector of further slots has been consumed, and the next sequence number is above
all that are stored.
-/

set_option autoImplicit false

namespace HealthCheckFirmware.HealthCheckLog

open TwoBank SlotScan Run

/-! ## Running and resting -/

/-- A sector without a record, or without a slot that reads as erased. -/
def Solid (sectors : Sectors) (side : Side) : Prop :=
  recordsIn sectors side = []
    ∨ ∀ slot < slotsPerSector, view (sectors.get side) slot ≠ .erased

theorem Solid.gapless {sectors : Sectors} {side : Side} (solid : Solid sectors side) :
    GaplessAt sectors side := by
  rcases solid with empty | used
  · exact gaplessAt_of_nil empty
  · intro lower upper higher within blank
    exact absurd blank (used lower (Nat.lt_trans higher within))

/-- The slots below the next one read as used. -/
def Filled (sectors : Sectors) (side : Side) (nextSlot : ℕ) : Prop :=
  ∀ slot < nextSlot, view (sectors.get side) slot ≠ .erased

/-- The records written end with the given ones. -/
def EndsWith (ledger : Ledger) (records : List Record) : Prop :=
  ∃ lost, ledger.written = lost ++ records

theorem EndsWith.right {ledger : Ledger} {first second : List Record}
    (ends : EndsWith ledger (first ++ second)) : EndsWith ledger second := by
  obtain ⟨lost, all⟩ := ends
  exact ⟨lost ++ first, by rw [all, List.append_assoc]⟩

/-- The log while the firmware runs. -/
structure Running (sectors : Sectors) (ram : Ram) (ledger : Ledger) : Prop where
  sound : Sound sectors ram.activeSector ram.nextSlot ram.nextSlot ledger
  numbered : Numbered sectors ram.activeSector ram.nextSequence
  filled : Filled sectors ram.activeSector ram.nextSlot
  solid : Solid sectors ram.activeSector.other
  begun : 0 < ram.nextSlot → recordsIn sectors ram.activeSector ≠ []
  fresh : ram.nextSlot = 0 → sectors.get ram.activeSector = blankSector
  ends : EndsWith ledger (retained sectors ram.activeSector)

/-- The log without power: there is no record at all; or the ring stands at a slot
and either the other sector is intact, or the active sector is full and holds the
newest records. -/
inductive Resting (sectors : Sectors) (ledger : Ledger) : Prop where
  | empty {active : Side} {nextSlot used : ℕ} (sound : Sound sectors active nextSlot used ledger)
      (none : NoRecords sectors)
  | intact {active : Side} {nextSlot : ℕ} (sound : Sound sectors active nextSlot nextSlot ledger)
      (filled : Filled sectors active nextSlot) (solid : Solid sectors active.other)
      (ends : EndsWith ledger (retained sectors active))
  | recycling {active : Side} {nextSlot : ℕ}
      (sound : Sound sectors active nextSlot nextSlot ledger)
      (filled : Filled sectors active nextSlot) (full : nextSlot = slotsPerSector)
      (nonempty : recordsIn sectors active ≠ []) (ends : EndsWith ledger (recordsIn sectors active))

theorem Running.resting {sectors : Sectors} {ram : Ram} {ledger : Ledger}
    (running : Running sectors ram ledger) : Resting sectors ledger :=
  .intact running.sound running.filled running.solid running.ends

/-- What holds of a state along the run. -/
def Consistent (state : State) : Prop :=
  match state.ram with
  | some ram => Running state.sectors ram state.ledger
  | none => Resting state.sectors state.ledger

theorem Consistent.resting {state : State} (consistent : Consistent state) :
    Resting state.sectors state.ledger := by
  obtain ⟨sectors, ram, ledger⟩ := state
  cases ram with
  | none => exact consistent
  | some ram => exact Running.resting consistent

/-! ## Erasing the other sector -/

section Rolling

variable {sectors : Sectors} {side : Side} {ledger : Ledger} {nextSequence : UInt32}

/-- A full sector that holds the newest records. -/
structure Full (sectors : Sectors) (side : Side) (ledger : Ledger) : Prop where
  sound : Sound sectors side slotsPerSector slotsPerSector ledger
  filled : Filled sectors side slotsPerSector
  nonempty : recordsIn sectors side ≠ []
  ends : EndsWith ledger (recordsIn sectors side)

/-- The erase is carried out: the firmware runs at the start of the other sector. -/
theorem Full.rolled (full : Full sectors side ledger)
    (numbered : Numbered sectors side nextSequence) :
    Running (sectors.set side.other blankSector) ⟨side.other, 0, nextSequence⟩ ledger := by
  have gapless : GaplessAt sectors side :=
    gapless_of_used full.filled fun other above within =>
      absurd (Nat.lt_trans above within) (Nat.lt_irrefl _)
  have kept : retained (sectors.set side.other blankSector) side.other =
      recordsIn sectors side := by
    simp [retained]
  constructor
  · exact full.sound.roll (Nat.le_refl _) gapless
  · refine numbered.of_subset ?_
    rw [kept]
    exact List.subset_append_right _ _
  · exact fun slot below => absurd below (Nat.not_lt_zero slot)
  · refine .inr fun slot within => ?_
    simpa using full.filled slot within
  · exact fun positive => absurd positive (Nat.lt_irrefl 0)
  · exact fun _ => by simp
  · rw [kept]
    exact full.ends

/-- The erase is cut off. -/
theorem Full.cut (full : Full sectors side ledger) {left : Slots}
    (detected : EraseDetected (sectors.get side.other) left) :
    Resting (sectors.set side.other left) ledger := by
  refine .recycling (full.sound.eraseTorn (Nat.le_refl _) detected) ?_ rfl ?_ ?_
  · simpa [Filled] using full.filled
  · simpa using full.nonempty
  · simpa using full.ends

/-- The state in which a start-up that rolls to a sector leaves the firmware. -/
def bootState (result : Progress × Log) (ledger : Ledger) : State :=
  match result with
  | (.ok, log) => ⟨log.sectors, some log.ram, ledger⟩
  | (_, log) => ⟨log.sectors, none, ledger⟩

theorem Full.boot (full : Full sectors side ledger)
    (ram : Ram) (numbered : Numbered sectors side ram.nextSequence) {erase : Fate Slots}
    (works : erase.Works)
    (detected : Detected sectors (rollToSector erase side.other ⟨ram, sectors⟩).2.sectors) :
    Consistent (bootState (rollToSector erase side.other ⟨ram, sectors⟩) ledger) := by
  cases erase with
  | done => exact full.rolled numbered
  | silent left => exact works.elim
  | refused left => exact works.elim
  | cut left => exact full.cut detected.of_roll

end Rolling

/-! ## Starting up -/

section Booting

variable {sectors : Sectors} {ledger : Ledger} {active : Side} {nextSlot : ℕ}

theorem frontier_of_filled (sound : Sound sectors active nextSlot nextSlot ledger)
    (filled : Filled sectors active nextSlot) :
    frontier (view (sectors.get active)) slotsPerSector = nextSlot :=
  frontier_eq sound.used_le filled fun _ => sound.blank nextSlot (Nat.le_refl _)

theorem gapless_of_filled (sound : Sound sectors active nextSlot nextSlot ledger)
    (filled : Filled sectors active nextSlot) : GaplessAt sectors active :=
  gapless_of_used filled fun other above _ => sound.silent other (Nat.le_of_lt above)

/-- The firmware running at the start of an empty log. -/
theorem running_empty {used : ℕ} (sound : Sound sectors active nextSlot used ledger)
    (none : NoRecords sectors) (still : NoRecords (sectors.set .a blankSector)) :
    Running (sectors.set .a blankSector) ⟨.a, 0, 1⟩ ledger := by
  constructor
  · refine still.sound (Nat.zero_le _) ?_ sound.stamped (sound.due none)
    intro slot _
    simp
  · refine ⟨by decide, ?_⟩
    rw [still.retained_eq]
    exact fun record member => absurd member List.not_mem_nil
  · exact fun slot below => absurd below (Nat.not_lt_zero slot)
  · exact .inl (still _)
  · exact fun positive => absurd positive (Nat.lt_irrefl 0)
  · exact fun _ => by simp
  · refine ⟨ledger.written, ?_⟩
    rw [still.retained_eq, List.append_nil]

/-- A start-up without any record begins at sector 0. -/
theorem boot_empty {used : ℕ} (sound : Sound sectors active nextSlot used ledger)
    (none : NoRecords sectors) {erase : Fate Slots} (works : erase.Works)
    (detected : Detected sectors (rollToSector erase .a ⟨⟨.a, 0, 1⟩, sectors⟩).2.sectors) :
    Consistent (bootState (rollToSector erase .a ⟨⟨.a, 0, 1⟩, sectors⟩) ledger) := by
  cases erase with
  | done => exact running_empty sound none (none.set detected.of_roll)
  | silent left => exact works.elim
  | refused left => exact works.elim
  | cut left =>
      have still : NoRecords (sectors.set .a left) := none.set detected.of_roll
      have again : Sound (sectors.set .a left) .a 0 slotsPerSector ledger :=
        still.sound (Nat.le_refl _) (fun slot beyond => view_beyond beyond) sound.stamped
          (sound.due none)
      exact .empty again still

/-- A start-up goes on after the records of the sector it has chosen. -/
theorem boot_chosen {side : Side}
    (sound : Sound sectors side (frontier (view (sectors.get side)) slotsPerSector)
      (frontier (view (sectors.get side)) slotsPerSector) ledger)
    (nonempty : recordsIn sectors side ≠ []) (gapless : GaplessAt sectors side)
    (ends : EndsWith ledger (recordsIn sectors side))
    (intact : frontier (view (sectors.get side)) slotsPerSector < slotsPerSector →
      Solid sectors side.other ∧ EndsWith ledger (retained sectors side))
    {erase : Fate Slots} (works : erase.Works)
    (detected : Detected sectors (resumeAt erase sectors side).2.sectors) :
    Consistent (bootState (resumeAt erase sectors side) ledger) := by
  have numbered := sound.numbered_resume nonempty
  rw [← seenIn_eq gapless] at numbered
  unfold resumeAt at detected ⊢
  by_cases room : frontier (view (sectors.get side)) slotsPerSector < slotsPerSector
  · rw [if_pos room]
    obtain ⟨solid, all⟩ := intact room
    refine ⟨sound, numbered, fun slot below => not_erased_below_frontier below, solid,
      fun _ => nonempty, ?_, all⟩
    -- The frontier is not slot 0, for there are records below it.
    intro start
    have none : seenIn sectors side = [] := by
      have zero : frontier (view (sectors.get side)) slotsPerSector = 0 := start
      rw [seenIn, zero]
      rfl
    rw [seenIn_eq gapless] at none
    exact absurd none nonempty
  · rw [if_neg room] at detected ⊢
    have last : frontier (view (sectors.get side)) slotsPerSector = slotsPerSector :=
      Nat.le_antisymm (frontier_le _ _) (Nat.not_lt.mp room)
    rw [last] at sound
    have full : Full sectors side ledger := by
      refine ⟨sound, fun slot below => ?_, nonempty, ends⟩
      exact not_erased_below_frontier (by rw [last]; exact below)
    exact full.boot _ numbered works detected

/-- The start-up from a ring that stands at a slot. -/
theorem boot_standing (sound : Sound sectors active nextSlot nextSlot ledger)
    (filled : Filled sectors active nextSlot)
    (other : Solid sectors active.other ∧ EndsWith ledger (retained sectors active)
      ∨ nextSlot = slotsPerSector ∧ recordsIn sectors active ≠ [])
    (ends : EndsWith ledger (recordsIn sectors active)) {faults : InitFaults}
    (readable : faults.Readable) (works : faults.erase.Works)
    (detected : Detected sectors (init faults sectors).2.sectors) :
    Consistent (bootState (init faults sectors) ledger) := by
  have gapless := gapless_of_filled sound filled
  have resumable : Resumable sectors active := by
    refine ⟨gapless, fun empty => ?_⟩
    rcases other with ⟨solid, _⟩ | ⟨_, nonempty⟩
    · exact solid.gapless
    · exact absurd empty nonempty
  rcases init_cases readable sound resumable with ⟨none, begins⟩ | ⟨side, chosen, resumes⟩
  · rw [begins] at detected ⊢
    exact boot_empty sound none works detected
  · rw [resumes] at detected ⊢
    have frontierHere := frontier_of_filled sound filled
    rcases Side.eq_or_other active side with rfl | rfl
    · refine boot_chosen ?_ chosen.nonempty gapless ends ?_ works detected
      · rw [frontierHere]
        exact sound
      · intro room
        rcases other with intact | ⟨full, _⟩
        · exact intact
        · rw [frontierHere, full] at room
          exact absurd room (Nat.lt_irrefl _)
    · -- The active sector holds no record yet, and the other one is full.
      have empty : recordsIn sectors active = [] := by
        rcases chosen.active with same | empty
        · cases active <;> cases same
        · exact empty
      rcases other with ⟨solid, all⟩ | ⟨_, nonempty⟩
      · have used : ∀ slot < slotsPerSector, view (sectors.get active.other) slot ≠ .erased := by
          rcases solid with none | used
          · exact absurd none chosen.nonempty
          · exact used
        have last : frontier (view (sectors.get active.other)) slotsPerSector = slotsPerSector :=
          frontier_eq (Nat.le_refl _) used fun within => absurd within (Nat.lt_irrefl _)
        obtain ⟨used', resumed⟩ := sound.resume chosen
        rw [last] at resumed
        have same := resumed.used_eq (Nat.le_refl _)
        subst same
        refine boot_chosen ?_ chosen.nonempty chosen.gapless ?_ ?_ works detected
        · rw [last]
          exact resumed
        · rw [retained, empty, List.append_nil] at all
          exact all
        · intro room
          rw [last] at room
          exact absurd room (Nat.lt_irrefl _)
      · exact absurd empty nonempty

/-- **A start-up restores a running log.** -/
theorem Resting.boot (resting : Resting sectors ledger) {faults : InitFaults}
    (readable : faults.Readable) (works : faults.erase.Works)
    (detected : Detected sectors (init faults sectors).2.sectors) :
    Consistent (bootState (init faults sectors) ledger) := by
  cases resting with
  | empty sound none =>
      have seen : ∀ side, seenIn sectors side = [] := fun side => by
        rw [seenIn_eq (gaplessAt_of_nil (none side)), none side]
      rw [init_of_nil readable seen] at detected ⊢
      exact boot_empty sound none works detected
  | intact sound filled solid ends =>
      exact boot_standing sound filled (.inl ⟨solid, ends⟩) ends.right readable works detected
  | recycling sound filled full nonempty ends =>
      exact boot_standing sound filled (.inr ⟨full, nonempty⟩) ends readable works detected

end Booting

/-! ## Appending -/

section Appending

variable {sectors : Sectors} {ram : Ram} {ledger : Ledger} {check : Check} {faults : AppendFaults}

theorem Running.full (running : Running sectors ram ledger)
    (full : slotsPerSector ≤ ram.nextSlot) : Full sectors ram.activeSector ledger := by
  have last : ram.nextSlot = slotsPerSector := Nat.le_antisymm running.sound.used_le full
  have sound := running.sound
  have filled := running.filled
  rw [last] at sound filled
  exact ⟨sound, filled, running.begun (Nat.lt_of_lt_of_le (by decide) full), running.ends.right⟩

/-- The slot after a program operation that works: it reads as used unless the
power was lost, and a record is completely written exactly if it reads as valid. -/
structure Programmed (ram : Ram) (old content : Slot) (check : Check) (faults : AppendFaults) :
    Prop where
  programs : Programs ram.nextSequence (newRecord check ram.nextSequence) content
    (outcomeOf faults (newRecord check ram.nextSequence) content)
  used : faults.program.progress ≠ .powerLost → read content ≠ .erased
  written : content = bytes (newRecord check ram.nextSequence) ↔
    (read content).record? = some (newRecord check ram.nextSequence)
  clean : old = blank → faults.program.progress ≠ .powerLost →
    content = bytes (newRecord check ram.nextSequence)

theorem programmed_of_works {old : Slot} (blank : read old = .erased)
    (below : ram.nextSequence < erasedSequence) (works : faults.program.Works)
    (detected : ProgramDetected old
      (faults.program.leaves (programSlot old (bytes (newRecord check ram.nextSequence))))
      (newRecord check ram.nextSequence)) :
    Programmed ram old
      (faults.program.leaves (programSlot old (bytes (newRecord check ram.nextSequence))))
      check faults := by
  have room : ram.nextSequence ≠ erasedSequence := UInt32.ne_of_lt below
  have silent : (read old).record? = none := by
    rw [blank]
    rfl
  refine ⟨programs_of_detected check room faults silent detected, ?_, ?_, ?_⟩
  · intro powered
    cases fate : faults.program with
    | done => exact read_programSlot_ne_erased blank _ room
    | silent left => exact (fate ▸ works : (Fate.silent left).Works).elim
    | refused left => exact (fate ▸ works : (Fate.refused left).Works).elim
    | cut left =>
        rw [fate] at powered
        exact absurd rfl powered
  · constructor
    · intro complete
      rw [complete, read_bytes_newRecord check room]
      rfl
    · intro reads
      rcases detected _ (Reading.record?_eq_some.mp reads) with complete | same
      · exact complete
      · rw [same, blank] at reads
        cases reads
  · intro fresh powered
    cases fate : faults.program with
    | done =>
        rw [fresh]
        exact programSlot_blank _
    | silent left => exact (fate ▸ works : (Fate.silent left).Works).elim
    | refused left => exact (fate ▸ works : (Fate.refused left).Works).elim
    | cut left =>
        rw [fate] at powered
        exact absurd rfl powered

/-- The records written stay the newest ones. -/
theorem EndsWith.note {retained : List Record} (ends : EndsWith ledger retained)
    {record : Record} {content : Slot} {outcome : Appended}
    (reads : (read content).record? = none ∨ (read content).record? = some record)
    (written : content = bytes record ↔ (read content).record? = some record) :
    EndsWith (ledger.note record content outcome)
      (retained ++ (read content).record?.toList) := by
  obtain ⟨lost, all⟩ := ends
  refine ⟨lost, ?_⟩
  rcases reads with none | some_
  · have torn : content ≠ bytes record := fun complete => by
      rw [written.mp complete] at none
      cases none
    simp [Ledger.note, torn, none, all]
  · have wrote : (ledger.note record content outcome).written = ledger.written ++ [record] :=
      if_pos (written.mpr some_)
    rw [wrote, all, some_, List.append_assoc]
    rfl

theorem outcomeOf_powerLost (faults : AppendFaults) (record : Record) (content : Slot) :
    outcomeOf faults record content = .powerLost ↔ faults.program.progress = .powerLost := by
  unfold outcomeOf
  cases faults.program.progress with
  | ok =>
      simp only [reduceCtorEq, iff_false]
      split <;> simp
  | error => simp
  | powerLost => simp

theorem Filled.programmed {active : Side} {nextSlot : ℕ} (filled : Filled sectors active nextSlot)
    (content : Slot) : Filled (withSlot sectors active nextSlot content) active nextSlot := by
  intro slot below
  rw [get_withSlot, view_setSlot_other content (Nat.ne_of_lt below)]
  exact filled slot below

theorem Filled.succ {active : Side} {nextSlot : ℕ} (filled : Filled sectors active nextSlot)
    (room : nextSlot < slotsPerSector) {content : Slot} (used : read content ≠ .erased) :
    Filled (withSlot sectors active nextSlot content) active (nextSlot + 1) := by
  intro slot below
  rcases Nat.lt_succ_iff_lt_or_eq.mp below with lower | rfl
  · exact filled.programmed content slot lower
  · rw [get_withSlot, view_setSlot_self content room]
    exact used

theorem Solid.programmed {active : Side} (solid : Solid sectors active.other) (slot : ℕ)
    (content : Slot) : Solid (withSlot sectors active slot content) active.other := by
  simpa [Solid, recordsIn] using solid

/-- The program operation comes to its end. -/
theorem Running.wrote (running : Running sectors ram ledger) (room : ram.nextSlot < slotsPerSector)
    (below : ram.nextSequence < erasedSequence) {content : Slot}
    (programmed : Programmed ram (slotAt (sectors.get ram.activeSector) ram.nextSlot) content check
      faults)
    (powered : faults.program.progress ≠ .powerLost) :
    Running (withSlot sectors ram.activeSector ram.nextSlot content) ram.advance
      (ledger.note (newRecord check ram.nextSequence) content
        (outcomeOf faults (newRecord check ram.nextSequence) content)) := by
  have used := programmed.used powered
  have consumes : (ledger.note (newRecord check ram.nextSequence) content
      (outcomeOf faults (newRecord check ram.nextSequence) content)).consumed =
      ledger.consumed + 1 := if_neg fun lost => used lost.2
  have next := running.sound.advance running.numbered programmed.programs room consumes
  rw [Nat.max_eq_right (Nat.le_succ _)] at next
  constructor
  · exact next
  · exact running.sound.numbered_withSlot running.numbered programmed.programs room
      (UInt32.ne_of_lt below)
  · exact running.filled.succ room used
  · exact running.solid.programmed _ _
  · intro _
    have grown := running.sound.recordsIn_withSlot room content
    change recordsIn (withSlot sectors ram.activeSector ram.nextSlot content)
      ram.activeSector ≠ []
    rw [grown]
    rcases Nat.eq_zero_or_pos ram.nextSlot with start | later
    · -- The first slot of an erased sector takes the record as it is.
      have old : slotAt (sectors.get ram.activeSector) ram.nextSlot = blank := by
        rw [running.fresh start, slotAt, dif_pos room]
        rfl
      rw [programmed.written.mp (programmed.clean old powered)]
      simp
    · simp [running.begun later]
  · intro start
    cases start
  · change EndsWith _ (retained (withSlot sectors ram.activeSector ram.nextSlot content)
      ram.activeSector)
    rw [running.sound.retained_withSlot room]
    exact running.ends.note programmed.programs.reads programmed.written

/-- The power is lost during the program operation. -/
theorem Running.cut (running : Running sectors ram ledger) (room : ram.nextSlot < slotsPerSector)
    {content : Slot}
    (programmed : Programmed ram (slotAt (sectors.get ram.activeSector) ram.nextSlot) content check
      faults)
    (lost : faults.program.progress = .powerLost) :
    Resting (withSlot sectors ram.activeSector ram.nextSlot content)
      (ledger.note (newRecord check ram.nextSequence) content
        (outcomeOf faults (newRecord check ram.nextSequence) content)) := by
  have outcome : outcomeOf faults (newRecord check ram.nextSequence) content = .powerLost :=
    (outcomeOf_powerLost _ _ _).mpr lost
  have ends : EndsWith (ledger.note (newRecord check ram.nextSequence) content
      (outcomeOf faults (newRecord check ram.nextSequence) content))
      (retained (withSlot sectors ram.activeSector ram.nextSlot content) ram.activeSector) := by
    rw [running.sound.retained_withSlot room]
    exact running.ends.note programmed.programs.reads programmed.written
  have solid := running.solid.programmed ram.nextSlot content
  by_cases blank : read content = .erased
  · have stays := running.sound.stay running.numbered programmed.programs room blank
      (if_pos ⟨outcome, blank⟩)
    exact .intact stays (running.filled.programmed content) solid ends
  · have next := running.sound.advance running.numbered programmed.programs room
      (if_neg fun lost => blank lost.2)
    rw [Nat.max_eq_right (Nat.le_succ _)] at next
    exact .intact next (running.filled.succ room blank) solid ends

/-- Programming the next slot of a running log. -/
theorem Running.write (running : Running sectors ram ledger) (room : ram.nextSlot < slotsPerSector)
    (below : ram.nextSequence < erasedSequence) (works : faults.program.Works)
    (detected : ProgramDetected (slotAt (sectors.get ram.activeSector) ram.nextSlot)
      (slotAfter faults.program (newRecord check ram.nextSequence) ⟨ram, sectors⟩)
      (newRecord check ram.nextSequence)) :
    Consistent (afterWrite faults check ledger ⟨ram, sectors⟩) := by
  have programmed : Programmed ram (slotAt (sectors.get ram.activeSector) ram.nextSlot)
      (slotAfter faults.program (newRecord check ram.nextSequence) ⟨ram, sectors⟩) check faults :=
    programmed_of_works (running.sound.blank ram.nextSlot (Nat.le_refl _)) below works detected
  have ending := outcomeOf_powerLost faults (newRecord check ram.nextSequence)
    (slotAfter faults.program (newRecord check ram.nextSequence) ⟨ram, sectors⟩)
  by_cases lost : faults.program.progress = .powerLost
  · have outcome := ending.mpr lost
    simp only [Consistent, afterWrite, outcome, if_true]
    have rests := running.cut room programmed lost
    rw [outcome] at rests
    exact rests
  · have outcome := mt ending.mp lost
    simp only [Consistent, afterWrite, outcome, if_false]
    exact running.wrote room below programmed lost

end Appending

/-! ## Runs -/

/-- The events of a run in which operations work unless the power is lost. -/
def PowerLossOnly (state : State) : Event → Prop
  | .boot faults =>
      faults.Readable ∧ faults.erase.Works
        ∧ Detected state.sectors (init faults state.sectors).2.sectors
  | .append check faults =>
      ∀ ram, state.ram = some ram →
        Assumed ⟨ram, state.sectors⟩ check faults ∧ faults.program.Works
          ∧ (slotsPerSector ≤ ram.nextSlot → faults.erase.Works)

theorem Running.append {sectors : Sectors} {ram : Ram} {ledger : Ledger} {check : Check}
    {faults : AppendFaults} (running : Running sectors ram ledger)
    (assumed : Assumed ⟨ram, sectors⟩ check faults) (works : faults.program.Works)
    (eraseWorks : slotsPerSector ≤ ram.nextSlot → faults.erase.Works) :
    Consistent (step ⟨sectors, some ram, ledger⟩ (.append check faults)) := by
  rcases Nat.lt_or_ge ram.nextSlot slotsPerSector with room | full
  · have made := makeRoom_of_room faults.erase ⟨ram, sectors⟩ room
    rw [step_append_ready made]
    exact running.write room assumed.sequence works (assumed.program _ made)
  · have filled := running.full full
    by_cases erased : faults.erase.progress = .ok
    · have made := makeRoom_of_full faults.erase ⟨ram, sectors⟩ full
      rw [rollToSector_ok (assumed.honest full) _ _ erased] at made
      rw [step_append_ready made]
      have room : 0 < slotsPerSector := by decide
      exact (filled.rolled running.numbered).write room assumed.sequence works
        (assumed.program _ made)
    · rw [step_append_stuck full erased]
      cases fate : faults.erase with
      | done =>
          rw [fate] at erased
          exact absurd rfl erased
      | silent left => exact (fate ▸ eraseWorks full : (Fate.silent left).Works).elim
      | refused left => exact (fate ▸ eraseWorks full : (Fate.refused left).Works).elim
      | cut left =>
          have detected := assumed.erase full
          rw [fate] at detected
          exact filled.cut detected

theorem Consistent.step {state : State} {event : Event} (consistent : Consistent state)
    (admitted : PowerLossOnly state event) : Consistent (step state event) := by
  cases event with
  | boot faults =>
      obtain ⟨readable, works, detected⟩ := admitted
      exact consistent.resting.boot readable works detected
  | append check faults =>
      obtain ⟨sectors, ram, ledger⟩ := state
      cases ram with
      | none => exact consistent
      | some ram =>
          obtain ⟨assumed, works, eraseWorks⟩ := admitted ram rfl
          exact Running.append consistent assumed works eraseWorks

theorem consistent_start {sectors : Sectors} (none : NoRecords sectors) :
    Consistent (State.start sectors) := by
  have sound : Sound sectors .a 0 slotsPerSector .empty :=
    none.sound (Nat.le_refl _) (fun slot beyond => view_beyond beyond)
      (fun record stamp member => absurd member List.not_mem_nil)
      (fun record stamp member => absurd member List.not_mem_nil)
  exact Resting.empty sound none

/-- What a running log shows of what was written to it. -/
structure RingCorrect (sectors : Sectors) (ram : Ram) (ledger : Ledger) : Prop where
  recent : ∀ capacity, getRecent allReadable capacity ⟨ram, sectors⟩ =
    (ledger.written.reverse.take
      (min capacity (retained sectors ram.activeSector).length)).map entry
  decreasing : ∀ capacity,
    (getRecent allReadable capacity ⟨ram, sectors⟩).Pairwise
      fun newer older => older.sequence < newer.sequence
  kept : ∀ record stamp, (record, stamp) ∈ ledger.acknowledged →
    record ∈ retained sectors ram.activeSector ∨ stamp + slotsPerSector ≤ ledger.consumed
  next : ∀ record ∈ retained sectors ram.activeSector, record.body.sequence < ram.nextSequence

theorem Running.getRecent_eq {sectors : Sectors} {ram : Ram} {ledger : Ledger}
    (running : Running sectors ram ledger) (capacity : ℕ) :
    getRecent allReadable capacity ⟨ram, sectors⟩ =
      ((retained sectors ram.activeSector).reverse.take capacity).map entry := by
  rw [getRecent_readable, running.sound.records_below, seenIn_eq running.solid.gapless]
  rfl

theorem Running.ringCorrect {sectors : Sectors} {ram : Ram} {ledger : Ledger}
    (running : Running sectors ram ledger) : RingCorrect sectors ram ledger := by
  refine ⟨?_, ?_, ?_, running.numbered.above⟩
  · intro capacity
    obtain ⟨lost, all⟩ := running.ends
    have newest : ledger.written.reverse.take (retained sectors ram.activeSector).length =
        (retained sectors ram.activeSector).reverse := by
      rw [all, List.reverse_append, List.take_left' (List.length_reverse)]
    rw [running.getRecent_eq, ← List.take_take, newest]
  · intro capacity
    rw [running.getRecent_eq]
    refine List.pairwise_map.mpr (List.Pairwise.sublist (List.take_sublist _ _) ?_)
    exact List.pairwise_reverse.mpr running.sound.rising
  · intro record stamp acknowledged
    rcases running.sound.kept record stamp acknowledged with here | ⟨seen, _⟩ | since
    · exact .inl (List.mem_append_right _ here)
    · exact .inl (List.mem_append_left _ (seenIn_subset _ _ seen))
    · exact .inr since

/-- **The ring survives power loss.** From sectors without a valid record, along any
run in which operations work unless the power is lost: whenever the firmware runs,
the list of recent records is that of the newest records completely written, as many
as are retained and fit, in strictly decreasing order; every acknowledged record is
retained until a sector of further slots has been consumed; and the next sequence
number is above that of every valid record. -/
theorem ring_survives_power_loss (sectors : Sectors) (none : NoRecords sectors)
    (events : List Event)
    (admitted : Throughout step PowerLossOnly (State.start sectors) events) (ram : Ram)
    (on : (run step (State.start sectors) events).ram = some ram) :
    RingCorrect (run step (State.start sectors) events).sectors ram
      (run step (State.start sectors) events).ledger := by
  have consistent : Consistent (run step (State.start sectors) events) :=
    Throughout.invariant (fun _ _ consistent admitted => consistent.step admitted)
      (consistent_start none) admitted
  rw [Consistent, on] at consistent
  exact consistent.ringCorrect

/-! ## A record that is cut off -/

/-- Two erased sectors. -/
def blankSectors : Sectors := ⟨blankSector, blankSector⟩

/-- A start-up without a fault. -/
def cleanBoot : Event := .boot ⟨allReadable, .done⟩

def sampleCheck : Check := ⟨0, 1, 1700000000, ⟨.ok, 0, 200, 120, 0⟩⟩

/-- An append without a fault. -/
def cleanAppend : Event := .append sampleCheck ⟨.done, .done, true⟩

theorem noRecords_blankSectors : NoRecords blankSectors := by
  intro side
  cases side <;> exact records_blankSector slotsPerSector

/-- The first start-up on erased flash. -/
theorem init_blankSectors :
    init ⟨allReadable, .done⟩ blankSectors =
      rollToSector .done .a ⟨⟨.a, 0, 1⟩, blankSectors⟩ := by
  refine init_of_nil (fun _ _ => rfl) fun side => ?_
  rw [seenIn_eq (gaplessAt_of_nil (noRecords_blankSectors side)), noRecords_blankSectors side]

theorem step_cleanBoot :
    step (State.start blankSectors) cleanBoot = ⟨blankSectors, some ⟨.a, 0, 1⟩, .empty⟩ := by
  simp only [step, cleanBoot, State.start, init_blankSectors]
  rfl

theorem detected_blankSectors :
    Detected blankSectors (init ⟨allReadable, .done⟩ blankSectors).2.sectors := by
  rw [init_blankSectors]
  intro side slot record reads
  cases side <;>
  · simp only [rollToSector, Fate.progress, Fate.leaves, Banks.set, Banks.get, blankSectors,
      view_blankSector] at reads
    cases reads

/-- An append with room in the active sector. -/
theorem assumed_of_room {log : Log} {check : Check} {faults : AppendFaults}
    (room : log.ram.nextSlot < slotsPerSector) (sequence : log.ram.nextSequence < erasedSequence)
    (detected : ProgramDetected (slotAt (log.sectors.get log.ram.activeSector) log.ram.nextSlot)
      (slotAfter faults.program (newRecord check log.ram.nextSequence) log)
      (newRecord check log.ram.nextSequence)) : Assumed log check faults where
  honest full := absurd room (Nat.not_lt.mpr full)
  erase full := absurd room (Nat.not_lt.mpr full)
  program ready made := by
    rw [makeRoom_of_room _ _ room] at made
    cases made
    exact detected
  sequence := sequence

theorem programDetected_done {record : Record} {log : Log}
    (erased : slotAt (log.sectors.get log.ram.activeSector) log.ram.nextSlot = blank) :
    ProgramDetected (slotAt (log.sectors.get log.ram.activeSector) log.ram.nextSlot)
      (slotAfter .done record log) record := by
  intro other _
  left
  rw [slotAfter, erased]
  exact programSlot_blank _

theorem programDetected_torn {old left : Slot} (torn : read left = .torn) (record : Record) :
    ProgramDetected old left record := by
  intro other reads
  rw [torn] at reads
  cases reads

/-- A start-up that goes on in the first sector leaves the sectors alone. -/
theorem detected_of_room {faults : InitFaults} {sectors : Sectors}
    (found : (scanSector (faults.readable .a) sectors.a).count ≠ 0)
    (newer : (scanSector (faults.readable .b) sectors.b).lastSequence
      ≤ (scanSector (faults.readable .a) sectors.a).lastSequence)
    (room : (scanSector (faults.readable .a) sectors.a).next < slotsPerSector) :
    Detected sectors (init faults sectors).2.sectors := by
  have same : (init faults sectors).2.sectors = sectors := by
    simp [init, found, newer, room]
  rw [same]
  exact fun _ _ _ _ => rfl

/-- A slot of which only the first bytes, up to the sequence number, have been programmed. -/
def tornSlot (record : Record) : Slot :=
  Vector.ofFn fun index : Fin recordSize =>
    if index.val < 8 then (bytes record).get index else 0xFF

/-- An append during which the power is lost. -/
def cutAppend : Event :=
  .append sampleCheck ⟨.done, .cut (tornSlot (newRecord sampleCheck 2)), true⟩

/-- A record, one that is cut off, a restart and another record. -/
def cutRun : List Event := [cleanBoot, cleanAppend, cutAppend, cleanBoot, cleanAppend]

theorem cutRun_admitted : Throughout step PowerLossOnly (State.start blankSectors) cutRun := by
  have torn : read (tornSlot (newRecord sampleCheck 2)) = .torn := by decide +kernel
  refine ⟨⟨fun _ _ => rfl, trivial, detected_blankSectors⟩, ?_, ?_, ?_, ?_, trivial⟩
  · rw [step_cleanBoot]
    intro ram on
    cases on
    exact ⟨assumed_of_room (by decide) (by decide) (programDetected_done rfl), trivial,
      fun _ => trivial⟩
  · intro ram on
    obtain rfl : ram = ⟨.a, 1, 2⟩ := by
      have running : (run step (State.start blankSectors) [cleanBoot, cleanAppend]).ram
          = some ⟨.a, 1, 2⟩ := by decide +kernel
      exact Option.some.inj (on.symm.trans running)
    exact ⟨assumed_of_room (by decide) (by decide) (programDetected_torn torn _), trivial,
      fun _ => trivial⟩
  · exact ⟨fun _ _ => rfl, trivial, detected_of_room (by decide +kernel) (by decide +kernel)
      (by decide +kernel)⟩
  · intro ram on
    obtain rfl : ram = ⟨.a, 2, 2⟩ := by
      have running : (run step (State.start blankSectors)
          [cleanBoot, cleanAppend, cutAppend, cleanBoot]).ram = some ⟨.a, 2, 2⟩ := by
        decide +kernel
      exact Option.some.inj (on.symm.trans running)
    exact ⟨assumed_of_room (by decide) (by decide) (programDetected_done (by decide +kernel)),
      trivial, fun _ => trivial⟩

/-- After a loss of power while a record was being programmed, the records before and after
it are listed. -/
theorem records_listed_after_cut :
    let state := run step (State.start blankSectors) cutRun
    RingCorrect state.sectors ⟨.a, 3, 3⟩ state.ledger
      ∧ getRecent allReadable 10 ⟨⟨.a, 3, 3⟩, state.sectors⟩ =
        [entry (newRecord sampleCheck 2), entry (newRecord sampleCheck 1)] :=
  ⟨ring_survives_power_loss blankSectors noRecords_blankSectors cutRun cutRun_admitted
    ⟨.a, 3, 3⟩ (by decide +kernel), by decide +kernel⟩

end HealthCheckFirmware.HealthCheckLog
