import HealthCheckFirmware.Flash.Layout
import HealthCheckFirmware.Lib.Codec
import HealthCheckFirmware.Lib.Run

/-!
# The factory reset and the marker

A confirmed factory reset writes a marker to a sector of its own, erases the two sectors of
the callback configuration, and then the range that starts with the marker and holds all
other stores. The range is erased from its end, so the marker goes last: while something is
left to erase, the next start finds the marker and erases again.

`erasePersistentState_spec` says what one attempt does. It follows that a reset is all or
nothing, wherever failures and power cuts come and however often (`reset_all_or_nothing`):
a start that goes on finds the stores as they were, or erased.

While an attempt runs, nothing else writes to the flash.
-/

set_option autoImplicit false

namespace HealthCheckFirmware.FactoryReset

open W25Q64 FlashLayout

/-! ## The marker -/

/-- `FACTORY_RESET_MARKER_MAGIC`. -/
def markerMagic : UInt32 := 0x46525354

/-- `FactoryResetMarker_TypeDef`. -/
structure Marker where
  magic : UInt32
  inverseMagic : UInt32
  deriving DecidableEq

namespace Marker

def codec : Codec Marker :=
  (Codec.u32.seq .u32).record (fun fields => ⟨fields.1, fields.2⟩)
    (fun marker => (marker.magic, marker.inverseMagic)) fun _ => rfl

/-- The marker that is written. -/
def written : Marker := ⟨markerMagic, ~~~markerMagic⟩

def isValid (marker : Marker) : Bool :=
  marker.magic == markerMagic && marker.inverseMagic == ~~~markerMagic

end Marker

/-- The sector of the marker holds a valid one. -/
def isMarked (flash : Flash) : Bool :=
  (Marker.codec.decode (region flash factoryResetMarker Marker.codec.size)).isValid

/-- What happens to a read: whether the mutex is taken, and the result of the command. -/
structure Reading where
  locks : Bool
  command : W25Q64.Status

/-- `factoryResetService_ReadMarker`. -/
def readMarker (reading : Reading) (flash : Flash) : Except W25Q64.Status Bool :=
  (read reading.locks reading.command flash factoryResetMarker Marker.codec.size).map fun bytes =>
    (Marker.codec.decode bytes).isValid

/-- How the programming of the marker ends. If the power is lost in it, the sector may hold
anything. -/
inductive Programming where
  | returned (locks : Bool) (commands : ℕ → Command)
  | powerLost (left : ℕ → UInt8)

/-- The status of the programming, if it returns, and the device it leaves. -/
def Programming.perform (programming : Programming) (flash : Flash) :
    Option W25Q64.Status × Flash :=
  match programming with
  | .returned locks commands =>
      let result := W25Q64.program locks commands flash factoryResetMarker
        (Marker.codec.encode Marker.written)
      (some result.status, result.flash)
  | .powerLost left => (none, withSector flash (factoryResetMarker / sectorSize) left)

/-- What happens while the marker is written. The power may also be lost before it is read
back. -/
structure MarkerWrite where
  locks : Bool
  erasure : Erasure
  programming : Programming
  reading : Option Reading

/-- The first half of `factoryResetService_WriteMarker`: the sector is erased and
programmed. -/
def placeMarker (write : MarkerWrite) (flash : Flash) : Option W25Q64.Status × Flash :=
  let erased := eraseSector write.locks write.erasure flash factoryResetMarker
  if erased.status = some .ok then write.programming.perform erased.flash
  else (erased.status, erased.flash)

/-- The second half: the marker that is read back decides, whatever was reported before. -/
def confirmMarker (operation : W25Q64.Status) (reading : Reading) (flash : Flash) : W25Q64.Status :=
  match readMarker reading flash with
  | .ok true => .ok
  | .ok false => if operation ≠ .ok then operation else .ioError
  | .error status => if operation ≠ .ok then operation else status

/-- `factoryResetService_WriteMarker`: the status, if it returns, and the device. -/
def writeMarker (write : MarkerWrite) (flash : Flash) : Option W25Q64.Status × Flash :=
  let placed := placeMarker write flash
  (placed.1.bind fun operation => write.reading.map fun reading =>
    confirmMarker operation reading placed.2, placed.2)

/-! ## Erasing the stores -/

/-- What happens to the flash operations of one attempt, in their order. -/
structure Attempt where
  locks : ℕ → Bool
  erasures : ℕ → Erasure

/-- The sectors of the range that is erased: the marker and all data. -/
def resetSectors : ℕ := (factoryResetDataLength + sectorSize) / sectorSize

theorem resetRange_accepted :
    isEraseRange factoryResetMarker (factoryResetDataLength + sectorSize) = true := by
  decide

/-- The last call of `factoryResetService_ErasePersistentState`; its loop takes a turn for
each sector at most. -/
def eraseResetRange (locks : Bool) (erasures : ℕ → Erasure) (flash : Flash) : Erased :=
  (eraseRange resetSectors locks erasures flash factoryResetMarker
    (factoryResetDataLength + sectorSize)).get
      (eraseRange_isSome resetRange_accepted (Nat.le_refl resetSectors) locks)

/-- `factoryResetService_ErasePersistentState`: the status, if it returns, and the device. -/
def erasePersistentState (attempt : Attempt) (flash : Flash) : Option W25Q64.Status × Flash :=
  let first := eraseSector (attempt.locks 0) (attempt.erasures 0) flash callbackConfigA
  if first.status ≠ some .ok then (first.status, first.flash) else
  let second := eraseSector (attempt.locks 1) (attempt.erasures 1) first.flash callbackConfigB
  if second.status ≠ some .ok then (second.status, second.flash) else
  let rest := eraseResetRange (attempt.locks 2) (fun turn => attempt.erasures (turn + 2)) second.flash
  (rest.status, rest.flash)

/-- The end of `factoryResetService_Task`, from the expiry of the window on: the status of
the marker, if it is written, and the device when the task goes on or the system restarts. -/
def performReset (write : MarkerWrite) (attempt : Attempt) (flash : Flash) :
    Option W25Q64.Status × Flash :=
  let marked := writeMarker write flash
  if marked.1 = some .ok then (marked.1, (erasePersistentState attempt marked.2).2) else marked

/-! ## The start of the system -/

/-- What happens to the flash operations of a start. -/
structure Boot where
  reading : Reading
  attempt : Attempt

/-- What `FactoryResetService_ResumePending` does: it lets the start go on, or stops it with
a status, or restarts the system; or the power is lost. -/
inductive Resumed where
  | continues
  | stops (status : W25Q64.Status)
  | restarts
  | powerLost
  deriving DecidableEq

/-- `FactoryResetService_ResumePending`. -/
def resumePending (boot : Boot) (flash : Flash) : Resumed × Flash :=
  match readMarker boot.reading flash with
  | .error status => (.stops status, flash)
  | .ok false => (.continues, flash)
  | .ok true =>
      match erasePersistentState boot.attempt flash with
      | (some .ok, left) => (.restarts, left)
      | (some status, left) => (.stops status, left)
      | (none, left) => (.powerLost, left)

/-- The device after a start, as far as it concerns the reset. -/
def boot (flash : Flash) (boot : Boot) : Flash := (resumePending boot flash).2

/-! ## One attempt -/

/-- The sectors of all stores are erased. -/
def Wiped (flash : Flash) : Prop :=
  (∀ cell, callbackConfigA ≤ cell → cell < factoryResetMarker → flash cell = 0xFF)
    ∧ ∀ cell, factoryResetDataStart ≤ cell → cell < capacityBytes → flash cell = 0xFF

/-- The cells of the marker's sector are the same. -/
def SameMarker (before after : Flash) : Prop :=
  ∀ cell, factoryResetMarker ≤ cell → cell < factoryResetDataStart → after cell = before cell

/-- All other cells are the same. -/
def SameStores (before after : Flash) : Prop :=
  ∀ cell, cell < factoryResetMarker ∨ factoryResetDataStart ≤ cell → after cell = before cell

theorem callbackConfigA_eq : callbackConfigA = 2019 * sectorSize := by decide
theorem factoryResetMarker_eq : factoryResetMarker = 2021 * sectorSize := by decide
theorem factoryResetDataStart_eq : factoryResetDataStart = 2022 * sectorSize := by decide
theorem capacityBytes_eq : capacityBytes = 2048 * sectorSize := by decide

theorem resetRange_end : factoryResetMarker + (factoryResetDataLength + sectorSize) = capacityBytes := by
  decide

theorem isMarked_of_sameMarker {before after : Flash} (same : SameMarker before after) :
    isMarked after = isMarked before := by
  have cells : region after factoryResetMarker Marker.codec.size =
      region before factoryResetMarker Marker.codec.size := by
    refine List.map_congr_left fun offset inside => same _ (Nat.le_add_right _ _) ?_
    have small : offset < 8 := List.mem_range.mp inside
    rw [factoryResetMarker_eq, factoryResetDataStart_eq]
    unfold sectorSize
    omega
  rw [isMarked, isMarked, cells]

/-- An erased sector holds no marker. -/
theorem isMarked_wiped (flash : Flash) : isMarked (wiped flash factoryResetMarker capacityBytes) = false := by
  have cells : region (wiped flash factoryResetMarker capacityBytes) factoryResetMarker
      Marker.codec.size = List.replicate 8 0xFF := by
    refine List.eq_replicate_iff.mpr ⟨rfl, fun byte inside => ?_⟩
    obtain ⟨offset, small, rfl⟩ := List.mem_map.mp inside
    have small : offset < 8 := List.mem_range.mp small
    refine if_pos ⟨Nat.le_add_right _ _, ?_⟩
    rw [factoryResetMarker_eq, capacityBytes_eq]
    unfold sectorSize
    omega
  rw [isMarked, cells]
  decide

/-- The last call of an attempt. -/
theorem eraseResetRange_cases (locks : Bool) (erasures : ℕ → Erasure) (flash : Flash) :
    (∀ cell < factoryResetMarker, (eraseResetRange locks erasures flash).flash cell = flash cell)
      ∧ ((eraseResetRange locks erasures flash).status = some .ok →
        (eraseResetRange locks erasures flash).flash =
          wiped flash factoryResetMarker capacityBytes)
      ∧ (SameMarker flash (eraseResetRange locks erasures flash).flash ∨
        ∀ cell, factoryResetDataStart ≤ cell → cell < capacityBytes →
          (eraseResetRange locks erasures flash).flash cell = 0xFF) := by
  obtain ⟨outside, ok, first⟩ := eraseRange_cases resetRange_accepted (Nat.le_refl resetSectors)
    (Option.some_get (eraseRange_isSome resetRange_accepted (Nat.le_refl resetSectors) locks)).symm
  have start : factoryResetMarker + sectorSize = factoryResetDataStart := by decide
  rw [resetRange_end] at outside ok first
  rw [start] at first
  exact ⟨fun cell low => outside cell (.inl low), ok,
    first.imp (fun same cell _ low => same cell low) id⟩

/-- The device where the two sectors of the callback configuration are replaced. -/
def callbackErased (flash : Flash) : Flash := wiped flash callbackConfigA factoryResetMarker

/-- An attempt either ends in the sectors of the callback configuration or comes to the
range, with both of them erased. -/
theorem erasePersistentState_cases (attempt : Attempt) (flash : Flash) :
    ((erasePersistentState attempt flash).1 ≠ some .ok
        ∧ ∀ cell, cell < callbackConfigA ∨ factoryResetMarker ≤ cell →
          (erasePersistentState attempt flash).2 cell = flash cell)
      ∨ (let rest := eraseResetRange (attempt.locks 2) (fun turn => attempt.erasures (turn + 2))
          (callbackErased flash)
        erasePersistentState attempt flash = (rest.status, rest.flash)) := by
  have aSector : callbackConfigA / sectorSize = 2019 := by decide
  have bSector : callbackConfigB / sectorSize = 2020 := by decide
  have low : callbackConfigA = 2019 * sectorSize := callbackConfigA_eq
  have high : factoryResetMarker = 2021 * sectorSize := factoryResetMarker_eq
  unfold erasePersistentState
  by_cases firstOk :
      (eraseSector (attempt.locks 0) (attempt.erasures 0) flash callbackConfigA).status = some .ok
  · have first := eraseSector_ok firstOk
    rw [aSector] at first
    dsimp only
    rw [if_neg (not_not.mpr firstOk), first]
    by_cases secondOk : (eraseSector (attempt.locks 1) (attempt.erasures 1)
        (withSector flash 2019 fun _ => 0xFF) callbackConfigB).status = some .ok
    · have second := eraseSector_ok secondOk
      have both : withSector (withSector flash 2019 fun _ => 0xFF) 2020 (fun _ => 0xFF) =
          callbackErased flash := by
        funext cell
        simp only [withSector, callbackErased, wiped, low, high, div_sectorSize_eq]
        unfold sectorSize
        grind
      rw [bSector, both] at second
      rw [if_neg (not_not.mpr secondOk), second]
      exact .inr rfl
    · rw [if_pos secondOk]
      refine .inl ⟨secondOk, fun cell outside => ?_⟩
      have other : cell / sectorSize ≠ 2019 ∧ cell / sectorSize ≠ 2020 := by
        rw [low, high] at outside
        unfold sectorSize at outside ⊢
        omega
      exact (eraseSector_other _ _ _ (bSector ▸ other.2)).trans (if_neg other.1)
  · dsimp only
    rw [if_pos firstOk]
    refine .inl ⟨firstOk, fun cell outside => eraseSector_other _ _ _ ?_⟩
    rw [aSector]
    rw [low, high] at outside
    unfold sectorSize at outside ⊢
    omega

/-- **One attempt**, whatever happens in it: nothing below the stores changes; if it
succeeds, the stores and the marker are erased; and the sector of the marker is touched
only when all stores are erased. -/
theorem erasePersistentState_spec (attempt : Attempt) (flash : Flash) :
    (∀ cell < callbackConfigA, (erasePersistentState attempt flash).2 cell = flash cell)
      ∧ ((erasePersistentState attempt flash).1 = some .ok →
        Wiped (erasePersistentState attempt flash).2
          ∧ isMarked (erasePersistentState attempt flash).2 = false)
      ∧ (SameMarker flash (erasePersistentState attempt flash).2
        ∨ Wiped (erasePersistentState attempt flash).2) := by
  have order : callbackConfigA ≤ factoryResetMarker := by decide
  rcases erasePersistentState_cases attempt flash with ⟨failed, outside⟩ | result
  · exact ⟨fun cell low => outside cell (.inl low), fun ok => absurd ok failed,
      .inl fun cell low _ => outside cell (.inr low)⟩
  · obtain ⟨below, ok, first⟩ := eraseResetRange_cases (attempt.locks 2)
      (fun turn => attempt.erasures (turn + 2)) (callbackErased flash)
    rw [result]
    dsimp only
    -- The callback configuration is erased before the range, which lies above it.
    have callback : ∀ cell, callbackConfigA ≤ cell → cell < factoryResetMarker →
        (eraseResetRange (attempt.locks 2) (fun turn => attempt.erasures (turn + 2))
          (callbackErased flash)).flash cell = 0xFF :=
      fun cell low high => (below cell high).trans (if_pos ⟨low, high⟩)
    refine ⟨fun cell low => ?_, fun succeeded => ?_, first.imp (fun same cell low high => ?_) fun rest => ⟨callback, rest⟩⟩
    · rw [below cell (low.trans_le order), callbackErased, wiped, if_neg (by omega)]
    · refine ⟨⟨callback, fun cell low high => ?_⟩, ?_⟩
      · rw [ok succeeded]
        refine if_pos ⟨Nat.le_trans ?_ low, high⟩
        decide
      · rw [ok succeeded]
        exact isMarked_wiped _
    · rw [same cell low high, callbackErased, wiped, if_neg (by omega)]

/-- An attempt in which all goes well. -/
def Attempt.Works (attempt : Attempt) : Prop :=
  (∀ call, attempt.locks call = true) ∧ ∀ index, (attempt.erasures index).status = some .ok

theorem Attempt.Works.ok {attempt : Attempt} (works : attempt.Works) (flash : Flash) :
    (erasePersistentState attempt flash).1 = some .ok := by
  obtain ⟨locks, erases⟩ := works
  have single (erasure : ℕ) (flash : Flash) (address : ℕ)
      (valid : ¬ (capacityBytes ≤ address ∨ address % sectorSize ≠ 0)) :
      (eraseSector true (attempt.erasures erasure) flash address).status = some .ok := by
    rw [eraseSector, if_neg valid, if_pos rfl]
    exact erases erasure
  have range : (eraseResetRange true (fun turn => attempt.erasures (turn + 2))
      (eraseSector true (attempt.erasures 1)
        (eraseSector true (attempt.erasures 0) flash callbackConfigA).flash
        callbackConfigB).flash).status = some .ok := by
    simp only [eraseResetRange, eraseRange_ok resetRange_accepted (Nat.le_refl resetSectors)
      fun index _ => erases (index + 2), Option.get_some]
  simp only [erasePersistentState, locks, single 0 flash callbackConfigA (by decide),
    single 1 _ callbackConfigB (by decide), ne_eq, not_true_eq_false, if_false, range]

/-! ## Writing the marker -/

/-- Reading the marker gives what the flash holds, or fails. -/
theorem readMarker_ok {reading : Reading} {flash : Flash} {valid : Bool}
    (result : readMarker reading flash = .ok valid) : isMarked flash = valid := by
  unfold readMarker W25Q64.read at result
  rw [if_pos (show isRangeValid factoryResetMarker Marker.codec.size = true by decide)] at result
  split at result
  · split at result
    · exact Except.ok.inj result
    · cases result
  · cases result

theorem readMarker_error_ne_ok (reading : Reading) (flash : Flash) :
    readMarker reading flash ≠ .error .ok := by
  unfold readMarker W25Q64.read
  rw [if_pos (show isRangeValid factoryResetMarker Marker.codec.size = true by decide)]
  split
  · split
    · exact fun same => by cases same
    · rename_i failed
      exact fun same => failed (Except.error.inj same)
  · exact fun same => by cases same

/-- Nothing outside the sector of the marker changes while it is written. -/
theorem writeMarker_sameStores (write : MarkerWrite) (flash : Flash) :
    SameStores flash (writeMarker write flash).2 := by
  have sector : factoryResetMarker / sectorSize = 2021 := by decide
  have accepted : isRangeValid factoryResetMarker
      (Marker.codec.encode Marker.written).length = true := by decide
  intro cell outside
  have other : cell / sectorSize ≠ factoryResetMarker / sectorSize := by
    rw [factoryResetMarker_eq, factoryResetDataStart_eq] at outside
    rw [sector]
    unfold sectorSize at outside ⊢
    omega
  have erased := eraseSector_other write.locks write.erasure flash other
  have programmed : (write.programming.perform
      (eraseSector write.locks write.erasure flash factoryResetMarker).flash).2 cell = flash cell := by
    rw [← erased]
    cases write.programming with
    | powerLost left => exact if_neg other
    | returned locks commands =>
        cases locks with
        | false => rw [Programming.perform, W25Q64.program, if_pos accepted, if_neg Bool.false_ne_true]
        | true =>
            refine program_outside accepted _ commands ?_
            have short : (Marker.codec.encode Marker.written).length = 8 := by decide
            rw [factoryResetMarker_eq, factoryResetDataStart_eq] at outside
            rw [short, factoryResetMarker_eq]
            unfold sectorSize at outside ⊢
            omega
  show (placeMarker write flash).2 cell = flash cell
  unfold placeMarker
  dsimp only
  split
  · exact programmed
  · exact erased

/-- Success is reported only if the marker is there. -/
theorem writeMarker_ok {write : MarkerWrite} {flash : Flash}
    (ok : (writeMarker write flash).1 = some .ok) : isMarked (writeMarker write flash).2 = true := by
  simp only [writeMarker, Option.bind_eq_some_iff, Option.map_eq_some_iff] at ok ⊢
  obtain ⟨operation, -, reading, -, confirmed⟩ := ok
  unfold confirmMarker at confirmed
  split at confirmed
  · rename_i found
    exact readMarker_ok found
  · split at confirmed
    · rename_i failed
      exact absurd confirmed failed
    · cases confirmed
  · rename_i status unread
    split at confirmed
    · rename_i failed
      exact absurd confirmed failed
    · subst confirmed
      exact absurd unread (readMarker_error_ne_ok _ _)

/-- A read that succeeds. -/
def Reading.Works (reading : Reading) : Prop := reading.locks = true ∧ reading.command = .ok

theorem Reading.Works.readMarker {reading : Reading} (works : reading.Works) (flash : Flash) :
    readMarker reading flash = .ok (isMarked flash) := by
  unfold FactoryReset.readMarker W25Q64.read
  rw [if_pos (show isRangeValid factoryResetMarker Marker.codec.size = true by decide),
    if_pos works.1, if_pos works.2]
  rfl

/-- All operations succeed while the marker is written. -/
def MarkerWrite.Works (write : MarkerWrite) : Prop :=
  write.locks = true ∧ write.erasure.status = some .ok
    ∧ (∃ commands, write.programming = .returned true commands
      ∧ ∀ index, (commands index).status = .ok)
    ∧ ∃ reading, write.reading = some reading ∧ reading.Works

theorem MarkerWrite.Works.ok {write : MarkerWrite} (works : write.Works) (flash : Flash) :
    (writeMarker write flash).1 = some .ok := by
  obtain ⟨locks, erases, ⟨commands, programming, programs⟩, reading, reads, readable⟩ := works
  have accepted : isRangeValid factoryResetMarker
      (Marker.codec.encode Marker.written).length = true := by decide
  have sector : factoryResetMarker / sectorSize = 2021 := by decide
  have erased : (eraseSector write.locks write.erasure flash factoryResetMarker).status =
      some .ok := by
    rw [eraseSector, if_neg (by decide), if_pos locks]
    exact erases
  obtain ⟨status, left⟩ := program_ok accepted
    (eraseSector write.locks write.erasure flash factoryResetMarker).flash programs
  have placed : placeMarker write flash =
      (some .ok, merged (withSector flash 2021 fun _ => 0xFF) factoryResetMarker
        (Marker.codec.encode Marker.written)) := by
    rw [placeMarker, if_pos erased, programming, Programming.perform]
    rw [status, left, eraseSector_ok erased, sector]
  have blank : region (withSector flash 2021 fun _ => 0xFF) factoryResetMarker Marker.codec.size =
      List.replicate 8 0xFF := by
    refine List.eq_replicate_iff.mpr ⟨rfl, fun byte inside => ?_⟩
    obtain ⟨offset, small, rfl⟩ := List.mem_map.mp inside
    have small : offset < 8 := List.mem_range.mp small
    refine if_pos ?_
    rw [factoryResetMarker_eq]
    unfold sectorSize
    omega
  have marked : isMarked (merged (withSector flash 2021 fun _ => 0xFF) factoryResetMarker
      (Marker.codec.encode Marker.written)) = true := by
    rw [isMarked, merged_region _ _ (by decide), blank]
    decide
  rw [writeMarker, placed, reads]
  simp only [Option.bind_some, Option.map_some, confirmMarker, readable.readMarker, marked]

/-! ## Runs -/

/-- The reset is going to take place, or has. -/
def Committed (flash : Flash) : Prop := isMarked flash = true ∨ Wiped flash

/-- An attempt does not take back a reset. -/
theorem erasePersistentState_committed (attempt : Attempt) {flash : Flash}
    (marked : isMarked flash = true) : Committed (erasePersistentState attempt flash).2 :=
  (erasePersistentState_spec attempt flash).2.2.imp
    (fun same => (isMarked_of_sameMarker same).trans marked) id

/-- A start leaves the flash alone, unless it finds the marker. -/
theorem resumePending_cases (start : Boot) (flash : Flash) :
    (resumePending start flash).2 = flash ∨
      isMarked flash = true ∧
        (resumePending start flash).2 = (erasePersistentState start.attempt flash).2 := by
  unfold resumePending
  split
  · exact .inl rfl
  · exact .inl rfl
  · rename_i found
    refine .inr ⟨readMarker_ok found, ?_⟩
    split <;>
    · rename_i result
      rw [result]

theorem boot_committed (start : Boot) {flash : Flash} (committed : Committed flash) :
    Committed (boot flash start) := by
  rcases resumePending_cases start flash with same | ⟨marked, attempted⟩
  · rwa [boot, same]
  · rw [boot, attempted]
    exact erasePersistentState_committed start.attempt marked

theorem boot_unmarked (start : Boot) {flash : Flash} (unmarked : isMarked flash = false) :
    boot flash start = flash := by
  rcases resumePending_cases start flash with same | ⟨marked, -⟩
  · exact same
  · rw [unmarked] at marked
    cases marked

theorem boot_below (start : Boot) (flash : Flash) {cell : ℕ} (low : cell < callbackConfigA) :
    boot flash start cell = flash cell := by
  rcases resumePending_cases start flash with same | ⟨-, attempted⟩
  · rw [boot, same]
  · rw [boot, attempted]
    exact (erasePersistentState_spec start.attempt flash).1 cell low

/-- However many starts there are, they do not take it back. -/
theorem boots_committed (starts : List Boot) {flash : Flash} (committed : Committed flash) :
    Committed (Run.run boot flash starts) := by
  induction starts generalizing flash with
  | nil => exact committed
  | cons first rest ih => exact ih (boot_committed first committed)

theorem boots_unmarked (starts : List Boot) {flash : Flash} (unmarked : isMarked flash = false) :
    Run.run boot flash starts = flash := by
  induction starts with
  | nil => rfl
  | cons first rest ih =>
      rw [Run.run, List.foldl_cons, boot_unmarked first unmarked]
      exact ih

theorem boots_below (starts : List Boot) (flash : Flash) {cell : ℕ} (low : cell < callbackConfigA) :
    Run.run boot flash starts cell = flash cell := by
  induction starts generalizing flash with
  | nil => rfl
  | cons first rest ih => exact (ih (boot flash first)).trans (boot_below first flash low)

/-- A start that goes on has found no marker. -/
theorem unmarked_of_continues {start : Boot} {flash : Flash}
    (goesOn : (resumePending start flash).1 = .continues) : isMarked flash = false := by
  unfold resumePending at goesOn
  split at goesOn
  · cases goesOn
  · rename_i found
    exact readMarker_ok found
  · split at goesOn <;> cases goesOn

/-- A start in which all goes well. -/
def Boot.Works (start : Boot) : Prop := start.reading.Works ∧ start.attempt.Works

/-- It leaves no marker behind. -/
theorem Boot.Works.unmarked {start : Boot} (works : start.Works) (flash : Flash) :
    isMarked (boot flash start) = false := by
  rw [boot, resumePending, works.1.readMarker]
  cases marked : isMarked flash with
  | false => exact marked
  | true =>
      have ok := works.2.ok flash
      have gone := ((erasePersistentState_spec start.attempt flash).2.1 ok).2
      dsimp only
      split <;>
      · rename_i result
        rw [result] at gone
        exact gone

theorem Boot.Works.continues {start : Boot} (works : start.Works) {flash : Flash}
    (unmarked : isMarked flash = false) : (resumePending start flash).1 = .continues := by
  rw [resumePending, works.1.readMarker, unmarked]

/-- What a reset and any number of starts after it have come to: it was not taken up and the
stores are as they were, or it is committed. -/
theorem performReset_cases (write : MarkerWrite) (attempt : Attempt) (flash : Flash) :
    (∀ cell < callbackConfigA, (performReset write attempt flash).2 cell = flash cell)
      ∧ ((performReset write attempt flash).1 = some .ok →
        Committed (performReset write attempt flash).2)
      ∧ (SameStores flash (performReset write attempt flash).2
        ∨ Committed (performReset write attempt flash).2) := by
  have order : callbackConfigA ≤ factoryResetMarker := by decide
  have same := writeMarker_sameStores write flash
  unfold performReset
  dsimp only
  split
  · rename_i ok
    have committed := erasePersistentState_committed attempt (writeMarker_ok ok)
    refine ⟨fun cell low => ?_, fun _ => committed, .inr committed⟩
    rw [(erasePersistentState_spec attempt _).1 cell low]
    exact same cell (.inl (low.trans_le order))
  · rename_i failed
    exact ⟨fun cell low => same cell (.inl (low.trans_le order)), fun ok => absurd ok failed,
      .inl same⟩

theorem performReset_ok {write : MarkerWrite} {attempt : Attempt} {flash : Flash}
    (ok : (writeMarker write flash).1 = some .ok) :
    (performReset write attempt flash).1 = some .ok := by
  rw [performReset, if_pos ok]
  exact ok

/-- **A factory reset is all or nothing**, as long as nothing else writes to the flash
meanwhile. For every content of the flash, whatever happens while the marker is written and
the stores are erased, and after any number of starts that each may fail or lose their power
at any operation: nothing outside the stores and the marker has changed; the marker is
reported written if all operations on it work, and then it is there or all stores are erased;
a start that goes on finds all stores as they were, or all erased, and all erased if the
marker was reported written; and of two starts in which all operations work, the second goes
on. -/
theorem reset_all_or_nothing (flash : Flash) (write : MarkerWrite) (attempt : Attempt)
    (starts : List Boot) :
    let reset := performReset write attempt flash
    let after := Run.run boot reset.2 starts
    (∀ cell < callbackConfigA, after cell = flash cell)
      ∧ (write.Works → reset.1 = some .ok)
      ∧ (reset.1 = some .ok → isMarked after = true ∨ Wiped after)
      ∧ (∀ start, (resumePending start after).1 = .continues →
        SameStores flash after ∧ reset.1 ≠ some .ok ∨ Wiped after)
      ∧ ∀ first second : Boot, first.Works → second.Works →
        (resumePending second (boot after first)).1 = .continues := by
  obtain ⟨below, taken, either⟩ := performReset_cases write attempt flash
  dsimp only
  refine ⟨fun cell low => (boots_below starts _ low).trans (below cell low),
    fun works => performReset_ok (works.ok flash), fun ok => boots_committed starts (taken ok), fun start goesOn => ?_,
    fun first second works again => ?_⟩
  · have unmarked := unmarked_of_continues goesOn
    -- Without a marker, what is committed is done.
    have done (committed : Committed (performReset write attempt flash).2) :
        Wiped (Run.run boot (performReset write attempt flash).2 starts) := by
      rcases boots_committed starts committed with marked | wiped
      · rw [unmarked] at marked
        cases marked
      · exact wiped
    by_cases ok : (performReset write attempt flash).1 = some .ok
    · exact .inr (done (taken ok))
    · rcases either with same | committed
      · cases marked : isMarked (performReset write attempt flash).2 with
        | true => exact .inr (done (.inl marked))
        | false =>
            rw [boots_unmarked starts marked]
            exact .inl ⟨same, ok⟩
      · exact .inr (done committed)
  · exact again.continues (works.unmarked _)

end HealthCheckFirmware.FactoryReset
