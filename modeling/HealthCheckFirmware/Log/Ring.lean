import Mathlib.Data.List.Induction
import HealthCheckFirmware.Lib.Run
import HealthCheckFirmware.Log.HealthCheckLog

/-!
# What the two sectors of the log hold along a run

`Sound` relates the two sectors to the place where the next record goes: there is
no record at or above that place, the records of the inactive sector are older
than those of the active one, and every acknowledged record is still where a
reader looks for it or at least a sector of further slots has been consumed since.

The module says what each operation does to `Sound`: an erase that is carried out
moves it to the other sector (`Sound.roll`), one that is not carried out leaves it
where it was (`Sound.eraseTorn`), programming a slot moves it up
(`Sound.advance`, `Sound.stay`) and a start-up finds a place for which it holds
(`init_cases`, `Sound.resume`). A `Ledger` counts the consumed slots and keeps the
records that were acknowledged and those that were completely written.
-/

set_option autoImplicit false

namespace HealthCheckFirmware.HealthCheckLog

open TwoBank SlotScan

/-! ## Records of a sector -/

/-- The valid records of a sector, oldest first. -/
def recordsIn (sectors : Sectors) (side : Side) : List Record :=
  records (view (sectors.get side)) slotsPerSector

/-- The records of a sector that a scan sees. -/
def seenIn (sectors : Sectors) (side : Side) : List Record :=
  records (view (sectors.get side)) (frontier (view (sectors.get side)) slotsPerSector)

/-- The valid records of both sectors. -/
def retained (sectors : Sectors) (active : Side) : List Record :=
  recordsIn sectors active.other ++ recordsIn sectors active

/-- No valid record of a sector lies above a slot that reads as erased. -/
def GaplessAt (sectors : Sectors) (side : Side) : Prop :=
  Gapless (view (sectors.get side)) slotsPerSector

theorem seenIn_eq {sectors : Sectors} {side : Side} (gapless : GaplessAt sectors side) :
    seenIn sectors side = recordsIn sectors side :=
  records_frontier gapless

theorem seenIn_subset (sectors : Sectors) (side : Side) :
    seenIn sectors side ⊆ recordsIn sectors side :=
  records_frontier_subset _ _

theorem gaplessAt_of_nil {sectors : Sectors} {side : Side} (empty : recordsIn sectors side = []) :
    GaplessAt sectors side :=
  gapless_of_records_eq_nil empty

theorem sequence_ne_of_mem {sectors : Sectors} {side : Side} {record : Record}
    (member : record ∈ recordsIn sectors side) : record.body.sequence ≠ erasedSequence := by
  obtain ⟨slot, _, reads⟩ := mem_records.mp member
  exact sequence_of_valid reads

@[simp] theorem recordsIn_set_self (sectors : Sectors) (side : Side) (sector : Slots) :
    recordsIn (sectors.set side sector) side = records (view sector) slotsPerSector := by
  simp [recordsIn]

@[simp] theorem recordsIn_set_other (sectors : Sectors) (side : Side) (sector : Slots) :
    recordsIn (sectors.set side.other sector) side = recordsIn sectors side := by
  simp [recordsIn]

@[simp] theorem recordsIn_other_set (sectors : Sectors) (side : Side) (sector : Slots) :
    recordsIn (sectors.set side sector) side.other = recordsIn sectors side.other := by
  simp [recordsIn]

@[simp] theorem seenIn_set_other (sectors : Sectors) (side : Side) (sector : Slots) :
    seenIn (sectors.set side.other sector) side = seenIn sectors side := by
  simp [seenIn]

@[simp] theorem seenIn_other_set (sectors : Sectors) (side : Side) (sector : Slots) :
    seenIn (sectors.set side sector) side.other = seenIn sectors side.other := by
  simp [seenIn]

@[simp] theorem records_blankSector (count : ℕ) : records (view blankSector) count = [] := by
  rw [records_eq_nil]
  intro slot _
  rw [view_blankSector]
  rfl

/-! ## Torn content -/

/-- After an erase that was not carried out, a slot that reads as valid holds what
it held before. -/
def EraseDetected (old left : Slots) : Prop :=
  ∀ slot record, view left slot = .valid record → slotAt left slot = slotAt old slot

/-- After a program operation, a slot that reads as valid holds the complete
record, or what it held before. -/
def ProgramDetected (old left : Slot) (record : Record) : Prop :=
  ∀ other, read left = .valid other → left = bytes record ∨ left = old

theorem EraseDetected.sublist {old left : Slots} (detected : EraseDetected old left) :
    (records (view left) slotsPerSector).Sublist (records (view old) slotsPerSector) := by
  refine records_sublist fun slot _ record reads => ?_
  rw [view, ← detected slot record reads]
  exact reads

/-! ## The ledger -/

/-- What an observer of the run has noted: the number of slots consumed, the
acknowledged records, each with the number of slots consumed up to and with its
own, and the records completely written. -/
structure Ledger where
  consumed : ℕ
  acknowledged : List (Record × ℕ)
  written : List Record

def Ledger.empty : Ledger := ⟨0, [], []⟩

/-- Note the programming of a record. A slot that still reads as erased when the
power is lost will be used again and has not been consumed. -/
def Ledger.note (ledger : Ledger) (record : Record) (content : Slot) (outcome : Appended) :
    Ledger :=
  let consumed :=
    if outcome = .powerLost ∧ read content = .erased then ledger.consumed
    else ledger.consumed + 1
  { consumed := consumed
    acknowledged := match outcome with
      | .ok _ => ledger.acknowledged ++ [(record, consumed)]
      | _ => ledger.acknowledged
    written := if content = bytes record then ledger.written ++ [record] else ledger.written }

/-! ## Soundness -/

/-- An acknowledged record is in the active sector, or a scan of the inactive one
sees it and the slots used in the active one have been consumed since, or a
sector of slots has been consumed since. -/
def Kept (sectors : Sectors) (active : Side) (used consumed : ℕ) (record : Record) (stamp : ℕ) :
    Prop :=
  record ∈ recordsIn sectors active
    ∨ (record ∈ seenIn sectors active.other ∧ stamp + used ≤ consumed)
    ∨ stamp + slotsPerSector ≤ consumed

/-- Sequence numbers rise from one record to the next. -/
def Rising (records : List Record) : Prop :=
  records.Pairwise fun earlier later => earlier.body.sequence < later.body.sequence

/-- The sectors fit the place where the next record goes: slot `nextSlot` of
`active`, of which no slot from `used` on has been written since its erase. -/
structure Sound (sectors : Sectors) (active : Side) (nextSlot used : ℕ) (ledger : Ledger) :
    Prop where
  nextSlot_le : nextSlot ≤ used
  used_le : used ≤ slotsPerSector
  silent : ∀ slot, nextSlot ≤ slot → (view (sectors.get active) slot).record? = none
  blank : ∀ slot, used ≤ slot → view (sectors.get active) slot = .erased
  rising : Rising (retained sectors active)
  positive : ∀ record ∈ retained sectors active, 0 < record.body.sequence
  stamped : ∀ record stamp, (record, stamp) ∈ ledger.acknowledged → stamp ≤ ledger.consumed
  kept : ∀ record stamp, (record, stamp) ∈ ledger.acknowledged →
    Kept sectors active used ledger.consumed record stamp

/-- The next sequence number is above those of all valid records. -/
structure Numbered (sectors : Sectors) (active : Side) (nextSequence : UInt32) : Prop where
  positive : 0 < nextSequence
  above : ∀ record ∈ retained sectors active, record.body.sequence < nextSequence

/-! ## Sequence numbers -/

theorem lastSequence_nil : lastSequence [] = 0 := rfl

theorem lastSequence_mem {records : List Record} (some_ : records ≠ []) :
    ∃ record ∈ records, lastSequence records = record.body.sequence := by
  refine ⟨records.getLast some_, List.getLast_mem some_, ?_⟩
  simp [lastSequence, List.getLast?_eq_some_getLast some_]

theorem Rising.le_lastSequence {records : List Record} (rising : Rising records)
    {record : Record} (member : record ∈ records) :
    record.body.sequence ≤ lastSequence records := by
  induction records using List.reverseRecOn with
  | nil => cases member
  | append_singleton rest last _ =>
      have final : lastSequence (rest ++ [last]) = last.body.sequence := by simp [lastSequence]
      rw [final]
      rcases List.mem_append.mp member with earlier | same
      · have order := (List.pairwise_append.mp rising).2.2
        exact UInt32.le_of_lt (order record earlier last (List.mem_singleton_self last))
      · rw [List.mem_singleton.mp same]
        exact UInt32.le_refl _

theorem lastSequence_append {first second : List Record} (some_ : second ≠ []) :
    lastSequence (first ++ second) = lastSequence second := by
  simp [lastSequence, List.getLast?_append, List.getLast?_eq_some_getLast some_]

/-- A number above a record's that cannot wrap. -/
theorem lt_succ_of_le {lower upper : UInt32} (order : lower ≤ upper)
    (room : upper ≠ erasedSequence) : lower < upper + 1 := by
  have bound : upper.toNat ≠ 2 ^ 32 - 1 := fun same => room (UInt32.toNat_inj.mp same)
  have top := upper.toNat_lt
  rw [UInt32.le_iff_toNat_le] at order
  rw [UInt32.lt_iff_toNat_lt, UInt32.toNat_add]
  have one : (1 : UInt32).toNat = 1 := rfl
  rw [one, Nat.mod_eq_of_lt (by omega)]
  omega

/-! ## Erasing -/

section Erasing

variable {sectors : Sectors} {active : Side} {nextSlot used : ℕ} {ledger : Ledger}

theorem Sound.used_eq (sound : Sound sectors active nextSlot used ledger)
    (full : slotsPerSector ≤ nextSlot) : used = slotsPerSector :=
  Nat.le_antisymm sound.used_le (Nat.le_trans full sound.nextSlot_le)

/-- When the active sector is full, the records of the other one may go. -/
theorem Sound.recyclable (sound : Sound sectors active nextSlot used ledger)
    (full : slotsPerSector ≤ nextSlot) {record : Record} {stamp : ℕ}
    (acknowledged : (record, stamp) ∈ ledger.acknowledged) :
    record ∈ recordsIn sectors active ∨ stamp + slotsPerSector ≤ ledger.consumed := by
  rcases sound.kept record stamp acknowledged with here | ⟨_, since⟩ | since
  · exact .inl here
  · rw [sound.used_eq full] at since
    exact .inr since
  · exact .inr since

/-- The other sector has been erased: the ring moves on to it. -/
theorem Sound.roll (sound : Sound sectors active nextSlot used ledger)
    (full : slotsPerSector ≤ nextSlot) (gapless : GaplessAt sectors active) :
    Sound (sectors.set active.other blankSector) active.other 0 0 ledger := by
  have same : retained (sectors.set active.other blankSector) active.other =
      recordsIn sectors active := by
    simp [retained]
  have subset : ∀ record ∈ recordsIn sectors active, record ∈ retained sectors active :=
    fun record member => List.mem_append_right _ member
  constructor
  · exact Nat.le_refl 0
  · exact Nat.zero_le _
  · intro slot _
    simp
  · intro slot _
    simp
  · rw [same]
    exact sound.rising.sublist (List.sublist_append_right _ _)
  · rw [same]
    exact fun record member => sound.positive record (subset record member)
  · exact sound.stamped
  · intro record stamp acknowledged
    have order := sound.stamped record stamp acknowledged
    rcases sound.recyclable full acknowledged with here | since
    · refine .inr (.inl ⟨?_, order⟩)
      rw [Side.other_other, seenIn_set_other, seenIn_eq gapless]
      exact here
    · exact .inr (.inr since)

/-- The erase of the other sector was not carried out: the ring stays. -/
theorem Sound.eraseTorn (sound : Sound sectors active nextSlot used ledger)
    (full : slotsPerSector ≤ nextSlot) {left : Slots}
    (detected : EraseDetected (sectors.get active.other) left) :
    Sound (sectors.set active.other left) active nextSlot used ledger := by
  have fewer : (retained (sectors.set active.other left) active).Sublist
      (retained sectors active) := by
    simp only [retained, recordsIn_set_self, recordsIn_set_other]
    exact detected.sublist.append (List.Sublist.refl _)
  constructor
  · exact sound.nextSlot_le
  · exact sound.used_le
  · simpa using sound.silent
  · simpa using sound.blank
  · exact sound.rising.sublist fewer
  · exact fun record member => sound.positive record (fewer.subset member)
  · exact sound.stamped
  · intro record stamp acknowledged
    rcases sound.recyclable full acknowledged with here | since
    · refine .inl ?_
      rwa [recordsIn_set_other]
    · exact .inr (.inr since)

/-- Neither sector holds a record. -/
def NoRecords (sectors : Sectors) : Prop := ∀ side, recordsIn sectors side = []

theorem NoRecords.retained_eq (empty : NoRecords sectors) : retained sectors active = [] := by
  simp [retained, empty active, empty active.other]

/-- What an erase leaves of sectors without a record holds none. -/
theorem NoRecords.set {side : Side} {left : Slots} (empty : NoRecords sectors)
    (detected : EraseDetected (sectors.get side) left) : NoRecords (sectors.set side left) := by
  have none : records (view left) slotsPerSector = [] := by
    have fewer := detected.sublist
    have here : records (view (sectors.get side)) slotsPerSector = [] := empty side
    rw [here] at fewer
    exact List.sublist_nil.mp fewer
  intro other
  rcases Side.eq_or_other side other with rfl | rfl
  · rw [recordsIn_set_self, none]
  · rw [recordsIn_other_set]
    exact empty _

/-- Sectors without a record fit any place, once no acknowledged record is due. -/
theorem NoRecords.sound (empty : NoRecords sectors) (within : used ≤ slotsPerSector)
    (blank : ∀ slot, used ≤ slot → view (sectors.get active) slot = .erased)
    (stamped : ∀ record stamp, (record, stamp) ∈ ledger.acknowledged → stamp ≤ ledger.consumed)
    (due : ∀ record stamp, (record, stamp) ∈ ledger.acknowledged →
      stamp + slotsPerSector ≤ ledger.consumed) :
    Sound sectors active 0 used ledger := by
  constructor
  · exact Nat.zero_le used
  · exact within
  · intro slot _
    rcases Nat.lt_or_ge slot slotsPerSector with below | beyond
    · exact records_eq_nil.mp (empty active) slot below
    · rw [view_beyond beyond]
      rfl
  · exact blank
  · rw [empty.retained_eq]
    exact List.Pairwise.nil
  · rw [empty.retained_eq]
    exact fun record member => absurd member List.not_mem_nil
  · exact stamped
  · exact fun record stamp acknowledged => .inr (.inr (due record stamp acknowledged))

/-- When there is no record left, none is due. -/
theorem Sound.due (sound : Sound sectors active nextSlot used ledger) (empty : NoRecords sectors)
    (record : Record) (stamp : ℕ) (acknowledged : (record, stamp) ∈ ledger.acknowledged) :
    stamp + slotsPerSector ≤ ledger.consumed := by
  rcases sound.kept record stamp acknowledged with here | ⟨seen, _⟩ | since
  · rw [empty active] at here
    exact absurd here List.not_mem_nil
  · have there := seenIn_subset _ _ seen
    rw [empty active.other] at there
    exact absurd there List.not_mem_nil
  · exact since

end Erasing

/-! ## Programming a slot -/

section Programming

variable {sectors : Sectors} {active : Side} {nextSlot used : ℕ} {ledger : Ledger}
  {record : Record} {content : Slot} {outcome : Appended}

/-- The sectors after a slot of the active one was programmed. -/
def withSlot (sectors : Sectors) (active : Side) (slot : ℕ) (content : Slot) : Sectors :=
  sectors.set active (setSlot (sectors.get active) slot content)

@[simp] theorem get_withSlot (sectors : Sectors) (active : Side) (slot : ℕ) (content : Slot) :
    (withSlot sectors active slot content).get active =
      setSlot (sectors.get active) slot content := by
  simp [withSlot]

@[simp] theorem get_other_withSlot (sectors : Sectors) (active : Side) (slot : ℕ)
    (content : Slot) :
    (withSlot sectors active slot content).get active.other = sectors.get active.other := by
  simp [withSlot]

/-- Programming the next slot adds what it then reads as. -/
theorem Sound.recordsIn_withSlot (sound : Sound sectors active nextSlot used ledger)
    (room : nextSlot < slotsPerSector) (content : Slot) :
    recordsIn (withSlot sectors active nextSlot content) active =
      recordsIn sectors active ++ (read content).record?.toList := by
  rw [recordsIn, get_withSlot,
    records_write room (fun other apart => view_setSlot_other content apart)
      (fun other above _ => sound.silent other above), view_setSlot_self content room]
  rfl

theorem Sound.retained_withSlot (sound : Sound sectors active nextSlot used ledger)
    (room : nextSlot < slotsPerSector) (content : Slot) :
    retained (withSlot sectors active nextSlot content) active =
      retained sectors active ++ (read content).record?.toList := by
  rw [retained, sound.recordsIn_withSlot room, retained, List.append_assoc, recordsIn,
    get_other_withSlot]
  rfl

/-- The program operation on the next slot, as far as the log can tell: the slot
reads as no record, or holds the new one with the next sequence number; and the
record is acknowledged only if it is there. -/
structure Programs (nextSequence : UInt32) (record : Record) (content : Slot)
    (outcome : Appended) : Prop where
  sequence : record.body.sequence = nextSequence
  reads : (read content).record? = none ∨ (read content).record? = some record
  acknowledged : ∀ entry, outcome = .ok entry → (read content).record? = some record

theorem Sound.rising_withSlot {nextSequence : UInt32}
    (sound : Sound sectors active nextSlot used ledger)
    (numbered : Numbered sectors active nextSequence)
    (programs : Programs nextSequence record content outcome) (room : nextSlot < slotsPerSector) :
    Rising (retained (withSlot sectors active nextSlot content) active) := by
  rw [sound.retained_withSlot room]
  rcases programs.reads with none | some_
  · rw [none]
    simpa using sound.rising
  · rw [some_]
    refine List.pairwise_append.mpr ⟨sound.rising, List.pairwise_singleton _ _, ?_⟩
    intro earlier member later new
    rw [List.mem_singleton.mp new, programs.sequence]
    exact numbered.above earlier member

theorem Sound.positive_withSlot {nextSequence : UInt32}
    (sound : Sound sectors active nextSlot used ledger)
    (numbered : Numbered sectors active nextSequence)
    (programs : Programs nextSequence record content outcome) (room : nextSlot < slotsPerSector) :
    ∀ other ∈ retained (withSlot sectors active nextSlot content) active,
      0 < other.body.sequence := by
  intro other member
  rw [sound.retained_withSlot room] at member
  rcases List.mem_append.mp member with earlier | new
  · exact sound.positive other earlier
  · rcases programs.reads with none | some_
    · rw [none] at new
      cases new
    · rw [some_] at new
      rw [List.mem_singleton.mp new, programs.sequence]
      exact numbered.positive

theorem Kept.withSlot (sound : Sound sectors active nextSlot used ledger)
    (room : nextSlot < slotsPerSector) (content : Slot) {used' consumed' : ℕ}
    (later : ledger.consumed ≤ consumed') (used_le : used' ≤ used + (consumed' - ledger.consumed))
    {other : Record} {stamp : ℕ} (kept : Kept sectors active used ledger.consumed other stamp) :
    Kept (withSlot sectors active nextSlot content) active used' consumed' other stamp := by
  rcases kept with here | ⟨seen, since⟩ | since
  · refine .inl ?_
    rw [sound.recordsIn_withSlot room]
    exact List.mem_append_left _ here
  · refine .inr (.inl ⟨?_, by omega⟩)
    rw [seenIn, get_other_withSlot]
    exact seen
  · exact .inr (.inr (Nat.le_trans since later))

/-- The entries that a programmed record adds to the acknowledged ones. -/
theorem Ledger.mem_note {entry : Record × ℕ}
    (member : entry ∈ (ledger.note record content outcome).acknowledged) :
    entry ∈ ledger.acknowledged
      ∨ (∃ result, outcome = .ok result)
        ∧ entry = (record, (ledger.note record content outcome).consumed) := by
  cases outcome with
  | ok result =>
      rcases List.mem_append.mp member with earlier | new
      · exact .inl earlier
      · exact .inr ⟨⟨result, rfl⟩, List.mem_singleton.mp new⟩
  | error => exact .inl member
  | powerLost => exact .inl member

/-- The bookkeeping half of programming a slot. -/
theorem Sound.kept_withSlot {nextSequence : UInt32}
    (sound : Sound sectors active nextSlot used ledger)
    (programs : Programs nextSequence record content outcome) (room : nextSlot < slotsPerSector)
    {used' : ℕ} (later : ledger.consumed ≤ (ledger.note record content outcome).consumed)
    (used_le : used' ≤
      used + ((ledger.note record content outcome).consumed - ledger.consumed)) :
    ∀ other stamp, (other, stamp) ∈ (ledger.note record content outcome).acknowledged →
      stamp ≤ (ledger.note record content outcome).consumed
        ∧ Kept (withSlot sectors active nextSlot content) active used'
          (ledger.note record content outcome).consumed other stamp := by
  intro other stamp member
  rcases Ledger.mem_note member with earlier | ⟨⟨entry, accepted⟩, new⟩
  · exact ⟨Nat.le_trans (sound.stamped other stamp earlier) later,
      Kept.withSlot sound room content later used_le (sound.kept other stamp earlier)⟩
  · cases new
    refine ⟨Nat.le_refl _, .inl ?_⟩
    rw [sound.recordsIn_withSlot room, programs.acknowledged entry accepted]
    exact List.mem_append_right _ (List.mem_singleton_self record)

/-- The slot has been consumed: the next one follows it. -/
theorem Sound.advance {nextSequence : UInt32} (sound : Sound sectors active nextSlot used ledger)
    (numbered : Numbered sectors active nextSequence)
    (programs : Programs nextSequence record content outcome) (room : nextSlot < slotsPerSector)
    (consumes : (ledger.note record content outcome).consumed = ledger.consumed + 1) :
    Sound (withSlot sectors active nextSlot content) active (nextSlot + 1) (max used (nextSlot + 1))
      (ledger.note record content outcome) := by
  have step := sound.nextSlot_le
  have book := sound.kept_withSlot programs room (by omega : ledger.consumed ≤ _)
    (by omega : max used (nextSlot + 1) ≤ _)
  constructor
  · exact Nat.le_max_right _ _
  · exact Nat.max_le.mpr ⟨sound.used_le, room⟩
  · intro slot above
    rw [get_withSlot, view_setSlot_other content (Nat.ne_of_gt above)]
    exact sound.silent slot (Nat.le_of_succ_le above)
  · intro slot above
    have apart : nextSlot + 1 ≤ slot := Nat.le_trans (Nat.le_max_right _ _) above
    rw [get_withSlot, view_setSlot_other content (Nat.ne_of_gt apart)]
    exact sound.blank slot (Nat.le_trans (Nat.le_max_left _ _) above)
  · exact sound.rising_withSlot numbered programs room
  · exact sound.positive_withSlot numbered programs room
  · exact fun other stamp member => (book other stamp member).1
  · exact fun other stamp member => (book other stamp member).2

/-- The slot still reads as erased after a power loss: it stays the next one. -/
theorem Sound.stay {nextSequence : UInt32} (sound : Sound sectors active nextSlot used ledger)
    (numbered : Numbered sectors active nextSequence)
    (programs : Programs nextSequence record content outcome) (room : nextSlot < slotsPerSector)
    (blank : read content = .erased)
    (same : (ledger.note record content outcome).consumed = ledger.consumed) :
    Sound (withSlot sectors active nextSlot content) active nextSlot used
      (ledger.note record content outcome) := by
  have book := sound.kept_withSlot programs room (by omega : ledger.consumed ≤ _)
    (by omega : used ≤ _)
  have there : view (setSlot (sectors.get active) nextSlot content) nextSlot = .erased := by
    rw [view_setSlot_self content room, blank]
  constructor
  · exact sound.nextSlot_le
  · exact sound.used_le
  · intro slot above
    rw [get_withSlot]
    rcases Nat.lt_or_eq_of_le above with higher | rfl
    · rw [view_setSlot_other content (Nat.ne_of_gt higher)]
      exact sound.silent slot above
    · rw [there]
      rfl
  · intro slot above
    rw [get_withSlot]
    rcases Nat.lt_or_eq_of_le (Nat.le_trans sound.nextSlot_le above) with higher | rfl
    · rw [view_setSlot_other content (Nat.ne_of_gt higher)]
      exact sound.blank slot above
    · exact there
  · exact sound.rising_withSlot numbered programs room
  · exact sound.positive_withSlot numbered programs room
  · exact fun other stamp member => (book other stamp member).1
  · exact fun other stamp member => (book other stamp member).2

/-- The next sequence number stays above all of them. -/
theorem Sound.numbered_withSlot {nextSequence : UInt32}
    (sound : Sound sectors active nextSlot used ledger)
    (numbered : Numbered sectors active nextSequence)
    (programs : Programs nextSequence record content outcome) (room : nextSlot < slotsPerSector)
    (below : nextSequence ≠ erasedSequence) :
    Numbered (withSlot sectors active nextSlot content) active (nextSequence + 1) := by
  refine ⟨lt_succ_of_le (UInt32.le_of_lt numbered.positive) below, ?_⟩
  intro other member
  rw [sound.retained_withSlot room] at member
  rcases List.mem_append.mp member with earlier | new
  · exact lt_succ_of_le (UInt32.le_of_lt (numbered.above other earlier)) below
  · rcases programs.reads with none | some_
    · rw [none] at new
      cases new
    · rw [some_] at new
      rw [List.mem_singleton.mp new, programs.sequence]
      exact lt_succ_of_le (UInt32.le_refl _) below

end Programming

/-! ## Starting up -/

section Starting

variable {sectors : Sectors} {active side : Side} {nextSlot used : ℕ} {ledger : Ledger}

/-- A start-up can find the next slot: the active sector has no gap, and neither
has the other one if the active sector holds no record. -/
def Resumable (sectors : Sectors) (active : Side) : Prop :=
  GaplessAt sectors active
    ∧ (recordsIn sectors active = [] → GaplessAt sectors active.other)

/-- The sector that a start-up takes for the active one. -/
structure Chosen (sectors : Sectors) (active side : Side) : Prop where
  nonempty : recordsIn sectors side ≠ []
  gapless : GaplessAt sectors side
  active : side = active ∨ recordsIn sectors active = []

/-- **Resuming at the frontier of the chosen sector.** -/
theorem Sound.resume (sound : Sound sectors active nextSlot used ledger)
    (chosen : Chosen sectors active side) :
    ∃ used', Sound sectors side (frontier (view (sectors.get side)) slotsPerSector) used'
      ledger := by
  have within := frontier_le (view (sectors.get side)) slotsPerSector
  have silent : ∀ slot, frontier (view (sectors.get side)) slotsPerSector ≤ slot →
      (view (sectors.get side) slot).record? = none := by
    intro slot above
    rcases Nat.lt_or_ge slot slotsPerSector with below | beyond
    · exact chosen.gapless.silent slot above below
    · rw [view_beyond beyond]
      rfl
  rcases chosen.active with rfl | empty
  · refine ⟨used, ?_, sound.used_le, silent, sound.blank, sound.rising, sound.positive,
      sound.stamped, sound.kept⟩
    exact frontier_le_of_erased (sound.blank used (Nat.le_refl used))
  · rcases Side.eq_or_other active side with rfl | rfl
    · exact absurd empty chosen.nonempty
    · -- The active sector holds nothing, so the other one takes its place.
      have same : retained sectors active.other = retained sectors active := by
        unfold retained
        rw [Side.other_other]
        generalize recordsIn sectors active = here at empty ⊢
        rw [empty, List.nil_append, List.append_nil]
      refine ⟨slotsPerSector, within, Nat.le_refl _, silent, fun slot beyond => view_beyond beyond,
        ?_, ?_, sound.stamped, ?_⟩
      · rw [same]
        exact sound.rising
      · rw [same]
        exact sound.positive
      · intro record stamp acknowledged
        rcases sound.kept record stamp acknowledged with here | ⟨seen, _⟩ | since
        · rw [empty] at here
          cases here
        · exact .inl (seenIn_subset _ _ seen)
        · exact .inr (.inr since)

/-- The number after the last one of the chosen sector is above all of them. -/
theorem Sound.numbered_resume (sound : Sound sectors side nextSlot used ledger)
    (nonempty : recordsIn sectors side ≠ []) :
    Numbered sectors side (lastSequence (recordsIn sectors side) + 1) := by
  have last : lastSequence (retained sectors side) = lastSequence (recordsIn sectors side) :=
    lastSequence_append nonempty
  obtain ⟨final, member, value⟩ := lastSequence_mem nonempty
  have room : lastSequence (recordsIn sectors side) ≠ erasedSequence := by
    rw [value]
    exact sequence_ne_of_mem member
  constructor
  · have zero : (0 : UInt32) ≤ lastSequence (recordsIn sectors side) := UInt32.zero_le
    exact lt_succ_of_le zero room
  · intro record within
    have order := sound.rising.le_lastSequence within
    rw [last] at order
    exact lt_succ_of_le order room

theorem Numbered.of_subset {sectors' : Sectors} {active' : Side} {nextSequence : UInt32}
    (numbered : Numbered sectors active nextSequence)
    (subset : retained sectors' active' ⊆ retained sectors active) :
    Numbered sectors' active' nextSequence :=
  ⟨numbered.positive, fun record member => numbered.above record (subset member)⟩

/-- A sector with a record wins against one whose visible records are all older. -/
theorem lastSequence_lt_of_active (sound : Sound sectors active nextSlot used ledger)
    (nonempty : recordsIn sectors active ≠ []) :
    lastSequence (seenIn sectors active.other) < lastSequence (recordsIn sectors active) := by
  obtain ⟨final, member, value⟩ := lastSequence_mem nonempty
  rw [value]
  by_cases none : seenIn sectors active.other = []
  · rw [none, lastSequence_nil]
    exact sound.positive final (List.mem_append_right _ member)
  · obtain ⟨older, seen, olderValue⟩ := lastSequence_mem none
    rw [olderValue]
    exact (List.pairwise_append.mp sound.rising).2.2 older (seenIn_subset _ _ seen) final member

/-- What `HealthCheckLog_Init` does once it has found the sector with the newest
record. -/
def resumeAt (erase : Fate Slots) (sectors : Sectors) (side : Side) : Progress × Log :=
  if frontier (view (sectors.get side)) slotsPerSector < slotsPerSector then
    (.ok, ⟨⟨side, frontier (view (sectors.get side)) slotsPerSector,
      lastSequence (seenIn sectors side) + 1⟩, sectors⟩)
  else
    rollToSector erase side.other ⟨⟨.a, 0, lastSequence (seenIn sectors side) + 1⟩, sectors⟩

/-- All reads of the start-up succeed. -/
def InitFaults.Readable (faults : InitFaults) : Prop := ∀ side slot, faults.readable side slot = true

theorem scanSector_of_readable {faults : InitFaults} (readable : faults.Readable)
    (sectors : Sectors) (side : Side) :
    scanSector (faults.readable side) (sectors.get side) =
      ⟨(seenIn sectors side).length, frontier (view (sectors.get side)) slotsPerSector,
        lastSequence (seenIn sectors side)⟩ := by
  have all : faults.readable side = fun _ => true := funext (readable side)
  rw [all]
  exact scanSector_readable _

theorem init_of_nil {faults : InitFaults} (readable : faults.Readable)
    (empty : ∀ side, seenIn sectors side = []) :
    init faults sectors = rollToSector faults.erase .a ⟨⟨.a, 0, 1⟩, sectors⟩ := by
  have first := scanSector_of_readable readable sectors .a
  have second := scanSector_of_readable readable sectors .b
  simp only [Banks.get] at first second
  simp [init, first, second, empty]

theorem init_of_newer {faults : InitFaults} (readable : faults.Readable)
    (newer : lastSequence (seenIn sectors side.other) < lastSequence (seenIn sectors side)) :
    init faults sectors = resumeAt faults.erase sectors side := by
  have first := scanSector_of_readable readable sectors .a
  have second := scanSector_of_readable readable sectors .b
  have nonempty : seenIn sectors side ≠ [] := by
    intro none
    rw [none, lastSequence_nil] at newer
    exact absurd newer UInt32.not_lt_zero
  simp only [Banks.get] at first second
  cases side with
  | a =>
      have order : lastSequence (seenIn sectors .a) ≥ lastSequence (seenIn sectors .b) :=
        UInt32.le_of_lt newer
      by_cases room : frontier (view sectors.a) slotsPerSector < slotsPerSector <;>
        simp only [init, first, second, List.length_eq_zero_iff, nonempty, order, false_and,
          room, if_true, if_false, resumeAt, Banks.get]
  | b =>
      have order : ¬ lastSequence (seenIn sectors .a) ≥ lastSequence (seenIn sectors .b) :=
        UInt32.not_le.mpr newer
      by_cases room : frontier (view sectors.b) slotsPerSector < slotsPerSector <;>
        simp only [init, first, second, List.length_eq_zero_iff, nonempty, order, and_false,
          room, if_true, if_false, resumeAt, Banks.get]

/-- **What a start-up does**, where the sectors can be resumed: it begins anew if
there is no record, and else goes on after the newest one. -/
theorem init_cases {faults : InitFaults} (readable : faults.Readable)
    (sound : Sound sectors active nextSlot used ledger)
    (resumable : Resumable sectors active) :
    (NoRecords sectors
        ∧ init faults sectors = rollToSector faults.erase .a ⟨⟨.a, 0, 1⟩, sectors⟩)
      ∨ ∃ side, Chosen sectors active side
        ∧ init faults sectors = resumeAt faults.erase sectors side := by
  obtain ⟨gapless, gaplessOther⟩ := resumable
  by_cases empty : recordsIn sectors active = []
  · have otherGapless := gaplessOther empty
    have none : seenIn sectors active = [] := by rw [seenIn_eq gapless, empty]
    by_cases emptyOther : recordsIn sectors active.other = []
    · have noneOther : seenIn sectors active.other = [] := by
        rw [seenIn_eq otherGapless, emptyOther]
      refine .inl ⟨?_, init_of_nil readable ?_⟩
      · intro side
        rcases Side.eq_or_other active side with rfl | rfl
        · exact empty
        · exact emptyOther
      · intro side
        rcases Side.eq_or_other active side with rfl | rfl
        · exact none
        · exact noneOther
    · refine .inr ⟨active.other, ⟨emptyOther, otherGapless, .inr empty⟩, init_of_newer readable ?_⟩
      obtain ⟨final, member, value⟩ := lastSequence_mem emptyOther
      rw [Side.other_other, none, seenIn_eq otherGapless, value, lastSequence_nil]
      exact sound.positive final (List.mem_append_left _ member)
  · refine .inr ⟨active, ⟨empty, gapless, .inl rfl⟩, init_of_newer readable ?_⟩
    rw [seenIn_eq gapless]
    exact lastSequence_lt_of_active sound empty

end Starting

end HealthCheckFirmware.HealthCheckLog
