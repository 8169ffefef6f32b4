import HealthCheckFirmware.Flash.PageProgram
import HealthCheckFirmware.Storage.Sector

/-!
# Erasing ranges of sectors

`W25Q64_EraseRange` erases the sectors of a range one by one, from the last to the first,
and stops at the first erase that fails. The loop has no bound of its own: it ends because
the address comes down to that of the first sector, which a range that is not made of whole
sectors would step over. For the ranges that are accepted it always ends
(`eraseRange_descends`), with a sector of the range erased for each turn that succeeded, and
nothing touched below the sector of the last turn.

An erase that fails, or during which the power is lost, may leave anything in its sector.
-/

set_option autoImplicit false

namespace HealthCheckFirmware.W25Q64

/-! ## One sector -/

/-- The device with the cells of one sector replaced. -/
def withSector (flash : Flash) (sector : ℕ) (image : ℕ → UInt8) : Flash := fun cell =>
  if cell / sectorSize = sector then image (cell % sectorSize) else flash cell

/-- How the erase of a sector ends: the results of `w25q64_WriteEnable`, of the command with
its address and of `w25q64_WaitReady`, or that the power is lost before it returns. In the
end `left` is what the cells of the sector hold, unless the erase is complete or the chip
was not told to start it. -/
inductive Erasure where
  | returned (enabled commanded ready : Status) (left : ℕ → UInt8)
  | powerLost (left : ℕ → UInt8)

/-- The status that is returned, if the call returns. -/
def Erasure.status : Erasure → Option Status
  | .returned enabled commanded ready _ =>
      some (if enabled ≠ .ok then enabled else if commanded ≠ .ok then commanded else ready)
  | .powerLost _ => none

/-- What the erase does to the device. -/
def Erasure.perform (erasure : Erasure) (flash : Flash) (address : ℕ) : Flash :=
  match erasure with
  | .returned enabled commanded ready left =>
      if enabled ≠ .ok then flash
      else withSector flash (address / sectorSize)
        (if commanded = .ok ∧ ready = .ok then fun _ => 0xFF else left)
  | .powerLost left => withSector flash (address / sectorSize) left

/-- The result of an erasing call: its status, if it returns, the device it leaves, and the
addresses of the sectors that were to be erased. -/
structure Erased where
  status : Option Status
  flash : Flash
  visited : List ℕ

/-- `w25q64_EraseSectorUnlocked`. Three bytes of the address are sent. -/
def eraseSectorUnlocked (erasure : Erasure) (flash : Flash) (address : ℕ) : Erased :=
  ⟨erasure.status, erasure.perform flash (address % 2 ^ 24), [address]⟩

/-- `W25Q64_EraseSector`; `locks` is whether the mutex is taken. -/
def eraseSector (locks : Bool) (erasure : Erasure) (flash : Flash) (address : ℕ) : Erased :=
  if capacityBytes ≤ address ∨ address % sectorSize ≠ 0 then ⟨some .invalidArgument, flash, []⟩
  else if locks then eraseSectorUnlocked erasure flash address
  else ⟨some .ioError, flash, []⟩

theorem Erasure.perform_ok {erasure : Erasure} (ok : erasure.status = some .ok) (flash : Flash)
    (address : ℕ) :
    erasure.perform flash address = withSector flash (address / sectorSize) fun _ => 0xFF := by
  cases erasure with
  | powerLost left => cases ok
  | returned enabled commanded ready left =>
      simp only [status, Option.some.injEq] at ok
      split at ok
      · rename_i disabled
        exact absurd ok disabled
      · rename_i allowed
        split at ok
        · rename_i rejected
          exact absurd ok rejected
        · rename_i taken
          rw [perform, if_neg allowed, if_pos ⟨not_not.mp taken, ok⟩]

/-- Whatever happens, no other sector is touched. -/
theorem Erasure.perform_other (erasure : Erasure) (flash : Flash) {address cell : ℕ}
    (other : cell / sectorSize ≠ address / sectorSize) :
    erasure.perform flash address cell = flash cell := by
  cases erasure with
  | powerLost left => simp only [perform, withSector, if_neg other]
  | returned enabled commanded ready left =>
      simp only [perform]
      split
      · rfl
      · simp only [withSector, if_neg other]

/-- Whatever happens, no other sector is touched. -/
theorem eraseSector_other (locks : Bool) (erasure : Erasure) (flash : Flash) {address cell : ℕ}
    (other : cell / sectorSize ≠ address / sectorSize) :
    (eraseSector locks erasure flash address).flash cell = flash cell := by
  unfold eraseSector
  split
  · rfl
  · rename_i inside
    have short : address % 2 ^ 24 = address := by
      have capacity : capacityBytes = 8388608 := rfl
      exact Nat.mod_eq_of_lt (by omega)
    split
    · rw [eraseSectorUnlocked, short]
      exact erasure.perform_other flash other
    · rfl

theorem eraseSector_ok {locks : Bool} {erasure : Erasure} {flash : Flash} {address : ℕ}
    (ok : (eraseSector locks erasure flash address).status = some .ok) :
    (eraseSector locks erasure flash address).flash =
      withSector flash (address / sectorSize) fun _ => 0xFF := by
  unfold eraseSector at ok ⊢
  split at ok
  · cases ok
  · rename_i inside
    rw [if_neg inside]
    have short : address % 2 ^ 24 = address := by
      have capacity : capacityBytes = 8388608 := rfl
      exact Nat.mod_eq_of_lt (by omega)
    split at ok
    · rename_i locked
      rw [if_pos locked, eraseSectorUnlocked, short]
      exact erasure.perform_ok ok flash address
    · cases ok

/-! ## Ranges -/

/-- The loop of `W25Q64_EraseRange`, for at most the given number of turns. Addresses have
32 bits. -/
def eraseLoop (erasures : ℕ → Erasure) (first : ℕ) : ℕ → ℕ → Flash → ℕ → Option Erased
  | 0, _, _, _ => none
  | fuel + 1, turn, flash, current =>
      let erased := eraseSectorUnlocked (erasures turn) flash current
      if erased.status ≠ some .ok ∨ current = first then some erased
      else
        (eraseLoop erasures first fuel (turn + 1) erased.flash
          ((current + (2 ^ 32 - sectorSize)) % 2 ^ 32)).map fun rest =>
            { rest with visited := current :: rest.visited }

/-- The check of the arguments. -/
def isEraseRange (address length : ℕ) : Bool :=
  length != 0 && address % sectorSize == 0 && length % sectorSize == 0
    && isRangeValid address length

/-- `W25Q64_EraseRange`, for at most the given number of turns of its loop. -/
def eraseRange (fuel : ℕ) (locks : Bool) (erasures : ℕ → Erasure) (flash : Flash)
    (address length : ℕ) : Option Erased :=
  if isEraseRange address length then
    if locks then eraseLoop erasures address fuel 0 flash (address + length - sectorSize)
    else some ⟨some .ioError, flash, []⟩
  else some ⟨some .invalidArgument, flash, []⟩

/-! ## Erased cells -/

/-- The device with the cells of a range erased. -/
def wiped (flash : Flash) (start stop : ℕ) : Flash := fun cell =>
  if start ≤ cell ∧ cell < stop then 0xFF else flash cell

@[simp] theorem wiped_self (flash : Flash) (start : ℕ) : wiped flash start start = flash := by
  funext cell
  rw [wiped, if_neg (by omega)]

/-- A sector is the range of its cells. -/
theorem div_sectorSize_eq (cell sector : ℕ) :
    cell / sectorSize = sector ↔ sector * sectorSize ≤ cell ∧ cell < (sector + 1) * sectorSize := by
  unfold sectorSize
  omega

/-- Erasing the sector below an erased range extends the range. -/
theorem withSector_wiped (flash : Flash) {sector stop : ℕ} (below : (sector + 1) * sectorSize ≤ stop) :
    withSector (wiped flash ((sector + 1) * sectorSize) stop) sector (fun _ => 0xFF) =
      wiped flash (sector * sectorSize) stop := by
  funext cell
  simp only [withSector, div_sectorSize_eq, wiped]
  have next : (sector + 1) * sectorSize = sector * sectorSize + sectorSize := Nat.succ_mul _ _
  by_cases here : sector * sectorSize ≤ cell ∧ cell < (sector + 1) * sectorSize
  · rw [if_pos here, if_pos (by omega)]
  · rw [if_neg here]
    by_cases above : (sector + 1) * sectorSize ≤ cell ∧ cell < stop
    · rw [if_pos above, if_pos (by omega)]
    · rw [if_neg above, if_neg (by omega)]

/-! ## The loop -/

/-- The addresses of the given number of sectors, the last one first. -/
def descending (address count : ℕ) : List ℕ :=
  (List.range count).map fun turn => address + (count - 1 - turn) * sectorSize

theorem descending_succ (address count : ℕ) :
    descending address (count + 1) = (address + count * sectorSize) :: descending address count := by
  rw [descending, List.range_succ_eq_map, List.map_cons, List.map_map, descending]
  refine List.cons_eq_cons.mpr ⟨by rw [Nat.add_sub_cancel, Nat.sub_zero], ?_⟩
  refine List.map_congr_left fun turn _ => ?_
  have same : count + 1 - 1 - (turn + 1) = count - 1 - turn := by omega
  rw [Function.comp_apply, Nat.succ_eq_add_one, same]

section Loop

variable {erasures : ℕ → Erasure} {flash : Flash} {sector stop : ℕ}

/-- The address below a sector is that of the sector before it. -/
theorem step_down {count : ℕ} (fits : (sector + (count + 1)) * sectorSize < 2 ^ 32) :
    ((sector + (count + 1)) * sectorSize + (2 ^ 32 - sectorSize)) % 2 ^ 32 =
      (sector + count) * sectorSize := by
  have within : sectorSize ≤ 2 ^ 32 := by decide
  have whole : (sector + (count + 1)) * sectorSize + (2 ^ 32 - sectorSize) =
      (sector + count) * sectorSize + 2 ^ 32 := by
    rw [← Nat.add_assoc sector, Nat.succ_mul]
    omega
  rw [← Nat.add_assoc sector, Nat.succ_mul] at fits
  rw [whole, Nat.add_mod_right, Nat.mod_eq_of_lt (by omega)]

/-- One turn of the loop above the first sector. -/
theorem eraseLoop_succ {fuel turn count : ℕ} (ok : (erasures turn).status = some .ok)
    (fits : (sector + (count + 1) + 1) * sectorSize ≤ capacityBytes)
    (below : (sector + (count + 1) + 1) * sectorSize ≤ stop) :
    eraseLoop erasures (sector * sectorSize) (fuel + 1) turn
        (wiped flash ((sector + (count + 1) + 1) * sectorSize) stop)
        ((sector + (count + 1)) * sectorSize) =
      (eraseLoop erasures (sector * sectorSize) fuel (turn + 1)
        (wiped flash ((sector + (count + 1)) * sectorSize) stop)
        ((sector + count) * sectorSize)).map fun rest =>
          { rest with visited := (sector + (count + 1)) * sectorSize :: rest.visited } := by
  have size : sectorSize = 4096 := rfl
  have capacity : capacityBytes = 8388608 := rfl
  have above : (sector + (count + 1)) * sectorSize ≠ sector * sectorSize := by
    rw [size]
    omega
  have short : (sector + (count + 1)) * sectorSize % 2 ^ 24 =
      (sector + (count + 1)) * sectorSize := by
    rw [size] at fits ⊢
    exact Nat.mod_eq_of_lt (by omega)
  rw [eraseLoop, if_neg (by simp [eraseSectorUnlocked, ok, above]),
    step_down (by rw [size] at fits ⊢; omega)]
  simp only [eraseSectorUnlocked, short, Erasure.perform_ok ok]
  rw [Nat.mul_div_cancel _ (by decide), withSector_wiped flash below]

/-- The last turn of the loop: an erase that fails, or that of the first sector. -/
theorem eraseLoop_last {fuel turn count : ℕ} (last : (erasures turn).status ≠ some .ok ∨ count = 0)
    (fits : (sector + count + 1) * sectorSize ≤ capacityBytes) :
    eraseLoop erasures (sector * sectorSize) (fuel + 1) turn flash ((sector + count) * sectorSize) =
      some ⟨(erasures turn).status,
        (erasures turn).perform flash ((sector + count) * sectorSize),
        [(sector + count) * sectorSize]⟩ := by
  have size : sectorSize = 4096 := rfl
  have capacity : capacityBytes = 8388608 := rfl
  have ends : (erasures turn).status ≠ some .ok ∨
      (sector + count) * sectorSize = sector * sectorSize := by
    rcases last with failed | rfl
    · exact .inl failed
    · exact .inr rfl
  have short : (sector + count) * sectorSize % 2 ^ 24 = (sector + count) * sectorSize := by
    rw [size] at fits ⊢
    exact Nat.mod_eq_of_lt (by omega)
  rw [eraseLoop, if_pos (by simpa [eraseSectorUnlocked] using ends)]
  simp only [eraseSectorUnlocked, short]

/-- All erases succeed. -/
theorem eraseLoop_ok {fuel turn count : ℕ} (enough : count < fuel)
    (ok : ∀ index ≤ count, (erasures (turn + index)).status = some .ok)
    (fits : (sector + count + 1) * sectorSize ≤ capacityBytes)
    (below : (sector + count + 1) * sectorSize ≤ stop) :
    eraseLoop erasures (sector * sectorSize) fuel turn
        (wiped flash ((sector + count + 1) * sectorSize) stop) ((sector + count) * sectorSize) =
      some ⟨some .ok, wiped flash (sector * sectorSize) stop,
        descending (sector * sectorSize) (count + 1)⟩ := by
  -- From the top of the range down: each turn leaves one sector less.
  induction count generalizing fuel turn with
  | zero =>
      obtain ⟨fuel, rfl⟩ : ∃ more, fuel = more + 1 := ⟨fuel - 1, by omega⟩
      have first := ok 0 le_rfl
      rw [Nat.add_zero] at first
      rw [eraseLoop_last (.inr rfl) fits, first, Erasure.perform_ok first,
        Nat.mul_div_cancel _ (by decide)]
      simp only [Nat.add_zero] at below ⊢
      rw [withSector_wiped flash below, descending_succ, Nat.zero_mul, Nat.add_zero]
      rfl
  | succ count ih =>
      obtain ⟨fuel, rfl⟩ : ∃ more, fuel = more + 1 := ⟨fuel - 1, by omega⟩
      have rest := @ih fuel (turn + 1) (by omega)
        (fun index inside => by
          have next := ok (index + 1) (by omega)
          rwa [Nat.add_comm index, ← Nat.add_assoc] at next)
        (Nat.le_trans (Nat.mul_le_mul_right _ (by omega)) fits)
        (Nat.le_trans (Nat.mul_le_mul_right _ (by omega)) below)
      rw [Nat.add_assoc sector count 1] at rest
      have first := ok 0 (Nat.zero_le _)
      rw [Nat.add_zero] at first
      rw [eraseLoop_succ first fits below, rest, descending_succ _ (count + 1), Nat.add_mul sector]
      rfl

/-- The erase of one turn is the first to fail. -/
theorem eraseLoop_failed {fuel turn count failing : ℕ} (enough : count < fuel)
    (inside : failing ≤ count)
    (before : ∀ index < failing, (erasures (turn + index)).status = some .ok)
    (fails : (erasures (turn + failing)).status ≠ some .ok)
    (fits : (sector + count + 1) * sectorSize ≤ capacityBytes)
    (below : (sector + count + 1) * sectorSize ≤ stop) :
    eraseLoop erasures (sector * sectorSize) fuel turn
        (wiped flash ((sector + count + 1) * sectorSize) stop) ((sector + count) * sectorSize) =
      some ⟨(erasures (turn + failing)).status,
        (erasures (turn + failing)).perform
          (wiped flash ((sector + (count - failing) + 1) * sectorSize) stop)
          ((sector + (count - failing)) * sectorSize),
        (descending (sector * sectorSize) (count + 1)).take (failing + 1)⟩ := by
  induction failing generalizing fuel turn count with
  | zero =>
      obtain ⟨fuel, rfl⟩ : ∃ more, fuel = more + 1 := ⟨fuel - 1, by omega⟩
      simp only [Nat.add_zero, Nat.sub_zero] at fails ⊢
      rw [eraseLoop_last (.inl fails) fits, descending_succ, ← Nat.add_mul, List.take_succ_cons,
        List.take_zero]
  | succ failing ih =>
      obtain ⟨fuel, rfl⟩ : ∃ more, fuel = more + 1 := ⟨fuel - 1, by omega⟩
      obtain ⟨count, rfl⟩ : ∃ fewer, count = fewer + 1 := ⟨count - 1, by omega⟩
      have later (index : ℕ) : turn + (index + 1) = turn + 1 + index := by omega
      have rest := @ih fuel (turn + 1) count (by omega) (by omega)
        (fun index earlier => later index ▸ before (index + 1) (by omega)) (later failing ▸ fails)
        (Nat.le_trans (Nat.mul_le_mul_right _ (by omega)) fits)
        (Nat.le_trans (Nat.mul_le_mul_right _ (by omega)) below)
      rw [Nat.add_assoc sector count 1] at rest
      have first := before 0 (Nat.succ_pos _)
      rw [Nat.add_zero] at first
      rw [eraseLoop_succ first fits below, rest, descending_succ _ (count + 1), later failing,
        Nat.add_sub_add_right, ← Nat.add_mul, List.take_succ_cons, Option.map_some]

end Loop

/-! ## The call -/

/-- A range that is accepted is made of whole sectors of the device. -/
theorem isEraseRange_sectors {address length : ℕ} (accepted : isEraseRange address length = true) :
    ∃ sector count, address = sector * sectorSize ∧ length = (count + 1) * sectorSize
      ∧ (sector + count + 1) * sectorSize ≤ capacityBytes := by
  simp only [isEraseRange, isRangeValid, Bool.and_eq_true, bne_iff_ne, beq_iff_eq,
    decide_eq_true_eq] at accepted
  have size : sectorSize = 4096 := rfl
  have capacity : capacityBytes = 8388608 := rfl
  refine ⟨address / sectorSize, length / sectorSize - 1, ?_, ?_, ?_⟩ <;>
  · rw [size] at accepted ⊢
    omega

section Call

variable {address length fuel : ℕ} {erasures : ℕ → Erasure} {flash : Flash}

/-- All erases succeed. -/
theorem eraseRange_ok (accepted : isEraseRange address length = true)
    (enough : length / sectorSize ≤ fuel)
    (ok : ∀ index < length / sectorSize, (erasures index).status = some .ok) :
    eraseRange fuel true erasures flash address length =
      some ⟨some .ok, wiped flash address (address + length),
        descending address (length / sectorSize)⟩ := by
  rw [eraseRange, if_pos accepted, if_pos rfl]
  obtain ⟨sector, count, rfl, rfl, fits⟩ := isEraseRange_sectors accepted
  have sectors : (count + 1) * sectorSize / sectorSize = count + 1 :=
    Nat.mul_div_cancel _ (by decide)
  have top : sector * sectorSize + (count + 1) * sectorSize - sectorSize =
      (sector + count) * sectorSize := by
    unfold sectorSize
    omega
  have stop : sector * sectorSize + (count + 1) * sectorSize = (sector + count + 1) * sectorSize := by
    unfold sectorSize
    omega
  rw [sectors] at enough ok
  rw [sectors, top, stop]
  have result := @eraseLoop_ok erasures flash sector ((sector + count + 1) * sectorSize) fuel 0
    count (by omega) (fun index inside => by rw [Nat.zero_add]; exact ok index (by omega)) fits
    le_rfl
  rwa [wiped_self] at result

/-- One erase is the first to fail, or to be cut off. -/
theorem eraseRange_failed (accepted : isEraseRange address length = true)
    (enough : length / sectorSize ≤ fuel) {index : ℕ} (inside : index < length / sectorSize)
    (before : ∀ earlier < index, (erasures earlier).status = some .ok)
    (fails : (erasures index).status ≠ some .ok) :
    eraseRange fuel true erasures flash address length =
      some ⟨(erasures index).status,
        (erasures index).perform
          (wiped flash (address + length - index * sectorSize) (address + length))
          (address + length - (index + 1) * sectorSize),
        (descending address (length / sectorSize)).take (index + 1)⟩ := by
  rw [eraseRange, if_pos accepted, if_pos rfl]
  obtain ⟨sector, count, rfl, rfl, fits⟩ := isEraseRange_sectors accepted
  have size : sectorSize = 4096 := rfl
  have sectors : (count + 1) * sectorSize / sectorSize = count + 1 :=
    Nat.mul_div_cancel _ (by decide)
  rw [sectors] at enough inside
  have top : sector * sectorSize + (count + 1) * sectorSize - sectorSize =
      (sector + count) * sectorSize := by
    rw [size]
    omega
  have lower : sector * sectorSize + (count + 1) * sectorSize - index * sectorSize =
      (sector + (count - index) + 1) * sectorSize := by
    rw [size]
    omega
  have own : sector * sectorSize + (count + 1) * sectorSize - (index + 1) * sectorSize =
      (sector + (count - index)) * sectorSize := by
    rw [size]
    omega
  have stop : sector * sectorSize + (count + 1) * sectorSize = (sector + count + 1) * sectorSize := by
    rw [size]
    omega
  rw [sectors, top, lower, own, stop]
  have result := @eraseLoop_failed erasures flash sector ((sector + count + 1) * sectorSize) fuel 0
    count index (by omega) (by omega)
    (fun earlier early => by rw [Nat.zero_add]; exact before earlier early)
    (by rwa [Nat.zero_add]) fits le_rfl
  rwa [wiped_self, Nat.zero_add] at result

/-- The loop ends. -/
theorem eraseRange_isSome (accepted : isEraseRange address length = true)
    (enough : length / sectorSize ≤ fuel) (locks : Bool) :
    (eraseRange fuel locks erasures flash address length).isSome = true := by
  cases locks with
  | false => rw [eraseRange, if_pos accepted, if_neg Bool.false_ne_true, Option.isSome_some]
  | true =>
      by_cases ok : ∀ index < length / sectorSize, (erasures index).status = some .ok
      · rw [eraseRange_ok accepted enough ok, Option.isSome_some]
      · obtain ⟨index, ⟨inside, fails⟩, before⟩ := exists_first_failure ok
        rw [eraseRange_failed accepted enough inside before fails, Option.isSome_some]

/-- What is left when the loop ends: nothing outside the range has changed, all of it is
erased if the call succeeds, and the first sector of the range is touched only when the
others are erased. -/
theorem eraseRange_cases (accepted : isEraseRange address length = true)
    (enough : length / sectorSize ≤ fuel) {locks : Bool} {erased : Erased}
    (result : eraseRange fuel locks erasures flash address length = some erased) :
    (∀ cell, cell < address ∨ address + length ≤ cell → erased.flash cell = flash cell)
      ∧ (erased.status = some .ok → erased.flash = wiped flash address (address + length))
      ∧ ((∀ cell < address + sectorSize, erased.flash cell = flash cell) ∨
        ∀ cell, address + sectorSize ≤ cell → cell < address + length →
          erased.flash cell = 0xFF) := by
  cases locks with
  | false =>
      rw [eraseRange, if_pos accepted, if_neg Bool.false_ne_true] at result
      obtain rfl := Option.some.inj result
      exact ⟨fun _ _ => rfl, (fun ok => by cases ok), .inl fun _ _ => rfl⟩
  | true =>
      by_cases ok : ∀ index < length / sectorSize, (erasures index).status = some .ok
      · rw [eraseRange_ok accepted enough ok] at result
        obtain rfl := Option.some.inj result
        refine ⟨fun cell outside => ?_, fun _ => rfl, .inr fun cell above inside => ?_⟩
        · exact if_neg (by omega)
        · exact if_pos (by omega)
      · obtain ⟨index, ⟨inside, fails⟩, before⟩ := exists_first_failure ok
        rw [eraseRange_failed accepted enough inside before fails] at result
        obtain rfl := Option.some.inj result
        obtain ⟨sector, count, rfl, rfl, -⟩ := isEraseRange_sectors accepted
        have size : sectorSize = 4096 := rfl
        rw [Nat.mul_div_cancel _ (by decide)] at inside
        -- The sector of the erase that fails.
        have own : sector * sectorSize + (count + 1) * sectorSize - (index + 1) * sectorSize =
            (sector + (count - index)) * sectorSize := by
          rw [size]
          omega
        have elsewhere {cell : ℕ} (other : cell / sectorSize ≠ sector + (count - index)) :
            (erasures index).perform (wiped flash
                (sector * sectorSize + (count + 1) * sectorSize - index * sectorSize)
                (sector * sectorSize + (count + 1) * sectorSize))
              (sector * sectorSize + (count + 1) * sectorSize - (index + 1) * sectorSize) cell =
              wiped flash (sector * sectorSize + (count + 1) * sectorSize - index * sectorSize)
                (sector * sectorSize + (count + 1) * sectorSize) cell := by
          refine Erasure.perform_other _ _ ?_
          rwa [own, Nat.mul_div_cancel _ (by decide)]
        refine ⟨fun cell outside => ?_, fun ok => absurd ok fails, ?_⟩
        · refine (elsewhere ?_).trans (if_neg ?_) <;>
          · rw [size] at outside ⊢
            omega
        · rcases Nat.lt_or_ge index count with early | last
          · refine .inl fun cell low => (elsewhere ?_).trans (if_neg ?_) <;>
            · rw [size] at low ⊢
              omega
          · refine .inr fun cell above below => (elsewhere ?_).trans (if_pos ?_) <;>
            · rw [size] at above below ⊢
              omega

end Call

/-- **Erasing a range.** For every range that is accepted, every content of the device and
all that can happen to the erases: the call returns unless the power is lost. If all erases
succeed, they are those of the sectors of the range, each once and the last one first, and
exactly the range is erased. If one is the first to fail or to be cut off, the sectors above
its own are erased, its own is left as it may be, and nothing else has changed. -/
theorem eraseRange_descends {address length fuel : ℕ} (accepted : isEraseRange address length = true)
    (enough : length / sectorSize ≤ fuel) (flash : Flash) (erasures : ℕ → Erasure) :
    ((∀ index < length / sectorSize, (erasures index).status = some .ok) →
      eraseRange fuel true erasures flash address length =
        some ⟨some .ok, wiped flash address (address + length),
          descending address (length / sectorSize)⟩)
      ∧ ∀ index < length / sectorSize, (∀ earlier < index, (erasures earlier).status = some .ok) →
        (erasures index).status ≠ some .ok →
        eraseRange fuel true erasures flash address length =
          some ⟨(erasures index).status,
            (erasures index).perform
              (wiped flash (address + length - index * sectorSize) (address + length))
              (address + length - (index + 1) * sectorSize),
            (descending address (length / sectorSize)).take (index + 1)⟩ :=
  ⟨eraseRange_ok accepted enough, fun _ => eraseRange_failed accepted enough⟩

/-- An erase to which nothing happens. -/
def Erasure.smooth : Erasure := .returned .ok .ok .ok fun _ => 0

/-- The second of two sectors is erased before the first. -/
theorem eraseRange_descends_two :
    isEraseRange 4096 8192 = true ∧
      eraseRange 2 true (fun _ => .smooth) (fun _ => 0) 4096 8192 =
        some ⟨some .ok, wiped (fun _ => 0) 4096 12288, [8192, 4096]⟩ := by
  have accepted : isEraseRange 4096 8192 = true := by decide
  refine ⟨accepted, ?_⟩
  exact (@eraseRange_descends 4096 8192 2 accepted (by decide) (fun _ => 0) fun _ => .smooth).1
    fun _ _ => rfl

end HealthCheckFirmware.W25Q64
