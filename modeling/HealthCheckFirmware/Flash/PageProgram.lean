import Mathlib.Data.List.GetD
import Mathlib.Data.Nat.Find
import Mathlib.Logic.Function.Basic
import HealthCheckFirmware.Lib.CString
import HealthCheckFirmware.Lib.NorFlash

/-!
# Programming across pages

`W25Q64_Program` splits a range at the pages of the chip and sends one command for each
piece. The chip takes the bytes of a command one after the other, clears bits, and goes
back to the start of the page behind its end; a piece that stays within its page never
gets there (`pageProgram_eq`). Piece by piece the loop therefore leaves what programming
the range as a whole would (`programLoop_ok`), up to the first command that fails
(`programLoop_failed`).

For the stores above, this is the programming of a region of cells (`merged_region`).
-/

set_option autoImplicit false

namespace HealthCheckFirmware.W25Q64

/-! ## The chip -/

/-- `W25Q64_PAGE_SIZE`. -/
def pageSize : ℕ := 256

/-- `W25Q64_CAPACITY_BYTES`. -/
def capacityBytes : ℕ := 8 * 1024 * 1024

/-- The bytes of the device by their addresses. -/
abbrev Flash := ℕ → UInt8

/-- The effect of a page-program command: each byte clears bits of the next cell of the
page, which is followed by its first one. -/
def pageProgram (flash : Flash) (page : ℕ) (offset : ℕ) : List UInt8 → Flash
  | [] => flash
  | byte :: rest =>
      pageProgram
        (Function.update flash (page * pageSize + offset % pageSize)
          (flash (page * pageSize + offset % pageSize) &&& byte))
        page (offset + 1) rest

/-- `W25Q64_StatusTypeDef`. -/
inductive Status where
  | ok
  | invalidArgument
  | ioError
  | timeout
  | unavailable
  deriving DecidableEq

/-- What happens to one command: the result of `w25q64_WriteEnable`, whether the command
with its address and whether the data are transferred, how much of data that are not
transferred as a whole the chip has taken, and the result of `w25q64_WaitReady`. -/
structure Command where
  enabled : Status
  addressed : Bool
  transferred : Bool
  taken : ℕ
  ready : Status

/-- The status that the loop has after the command. -/
def Command.status (command : Command) : Status :=
  if command.enabled = .ok then
    if command.addressed && command.transferred then command.ready else .ioError
  else command.enabled

/-- What the command does to the device. -/
def Command.perform (command : Command) (flash : Flash) (address : ℕ) (data : List UInt8) : Flash :=
  if command.enabled = .ok ∧ command.addressed = true then
    pageProgram flash (address / pageSize) (address % pageSize)
      (if command.transferred then data else data.take command.taken)
  else flash

/-! ## The driver -/

/-- `w25q64_IsRangeValid`. -/
def isRangeValid (address length : ℕ) : Bool :=
  length != 0 && decide (length ≤ capacityBytes) && decide (address ≤ capacityBytes - length)

/-- The result of a call: its status, the device it leaves, and the addresses and lengths
of the commands it has sent. -/
structure Result where
  status : Status
  flash : Flash
  sent : List (ℕ × ℕ)

/-- The number of bytes that are left of a page, or of the data. -/
def chunkLength (address length : ℕ) : ℕ := min (pageSize - address % pageSize) length

theorem chunkLength_pos {address length : ℕ} (some_ : length ≠ 0) : 0 < chunkLength address length := by
  have remainder : address % pageSize < pageSize := Nat.mod_lt _ (by decide)
  rw [chunkLength]
  omega

theorem chunkLength_le (address length : ℕ) : chunkLength address length ≤ length :=
  Nat.min_le_right _ _

/-- The loop of `W25Q64_Program`. Three bytes of the address are sent. -/
def programLoop (commands : ℕ → Command) (count : ℕ) (flash : Flash) (address : ℕ)
    (data : List UInt8) : Result :=
  if empty : data = [] then ⟨.ok, flash, []⟩
  else
    let chunk := chunkLength address data.length
    let sent := address % 2 ^ 24
    let left := (commands count).perform flash sent (data.take chunk)
    if (commands count).status = .ok then
      have shorter : data.length - chunkLength address data.length < data.length := by
        have some_ : data.length ≠ 0 := fun zero => empty (List.eq_nil_of_length_eq_zero zero)
        have positive := @chunkLength_pos address _ some_
        omega
      let rest := programLoop commands (count + 1) left ((address + chunk) % 2 ^ 32) (data.drop chunk)
      ⟨rest.status, rest.flash, (sent, chunk) :: rest.sent⟩
    else ⟨(commands count).status, left, [(sent, chunk)]⟩
  termination_by data.length

/-- `W25Q64_Program`; `locks` is whether the mutex is taken. -/
def program (locks : Bool) (commands : ℕ → Command) (flash : Flash) (address : ℕ)
    (data : List UInt8) : Result :=
  if isRangeValid address data.length then
    if locks then programLoop commands 0 flash address data else ⟨.ioError, flash, []⟩
  else ⟨.invalidArgument, flash, []⟩

/-! ## Ranges as a whole -/

/-- The device with bits cleared in a range. -/
def merged (flash : Flash) (address : ℕ) (data : List UInt8) : Flash := fun cell =>
  if address ≤ cell ∧ cell < address + data.length then flash cell &&& data.getD (cell - address) 0
  else flash cell

/-- Clearing bits in two neighbouring ranges clears them in both together. -/
theorem merged_append (flash : Flash) (address : ℕ) (front back : List UInt8) :
    merged (merged flash address front) (address + front.length) back =
      merged flash address (front ++ back) := by
  funext cell
  simp only [merged, List.length_append]
  rcases Nat.lt_or_ge cell address with low | high
  · rw [if_neg (by omega), if_neg (by omega), if_neg (by omega)]
  rcases Nat.lt_or_ge cell (address + front.length) with inFront | behind
  · rw [if_neg (by omega), if_pos (by omega), if_pos (by omega),
      List.getD_append _ _ _ _ (by omega)]
  rcases Nat.lt_or_ge cell (address + front.length + back.length) with inBack | beyond
  · rw [if_pos (by omega), if_neg (by omega), if_pos (by omega),
      List.getD_append_right _ _ _ _ (by omega), Nat.sub_add_eq]
  · rw [if_neg (by omega), if_neg (by omega), if_neg (by omega)]

theorem merged_nil (flash : Flash) (address : ℕ) : merged flash address [] = flash := by
  funext cell
  rw [merged, if_neg (by simp)]

/-- **A command that stays within its page clears bits where it should.** -/
theorem pageProgram_eq (flash : Flash) (page : ℕ) {offset : ℕ} {data : List UInt8}
    (within : offset + data.length ≤ pageSize) :
    pageProgram flash page offset data = merged flash (page * pageSize + offset) data := by
  induction data generalizing flash offset with
  | nil => exact (merged_nil flash _).symm
  | cons byte rest ih =>
      rw [List.length_cons] at within
      have here : offset % pageSize = offset := Nat.mod_eq_of_lt (by omega)
      have one : Function.update flash (page * pageSize + offset)
          (flash (page * pageSize + offset) &&& byte) =
            merged flash (page * pageSize + offset) [byte] := by
        funext cell
        by_cases same : cell = page * pageSize + offset
        · subst same
          rw [Function.update_self, merged, if_pos (by simp), Nat.sub_self]
          rfl
        · rw [Function.update_of_ne same, merged, if_neg (by simp; omega)]
      rw [pageProgram, here, one, ih _ (by omega), ← Nat.add_assoc]
      exact merged_append flash _ [byte] rest

/-! ## The pieces -/

/-- Where a piece of a range starts: at the range itself, and then at each page. -/
def chunkStart (address index : ℕ) : ℕ :=
  if index = 0 then address else (address / pageSize + index) * pageSize

/-- Where a piece ends: at the end of its page, or at that of the range. -/
def chunkEnd (address length index : ℕ) : ℕ :=
  min (address + length) ((address / pageSize + index + 1) * pageSize)

/-- The number of pieces. -/
def chunkCount (address length : ℕ) : ℕ :=
  (address + length - 1) / pageSize - address / pageSize + 1

section Pieces

variable {address length : ℕ}

theorem chunkEnd_zero : chunkEnd address length 0 = address + chunkLength address length := by
  have division := Nat.div_add_mod address pageSize
  have remainder : address % pageSize < pageSize := Nat.mod_lt _ (by decide)
  rw [chunkEnd, chunkLength, Nat.add_zero, Nat.add_mul, Nat.one_mul, Nat.mul_comm]
  omega

/-- Behind the first piece, the others are the pieces of what is left. -/
theorem pieces_succ (more : chunkLength address length < length) (index : ℕ) :
    chunkStart address (index + 1) = chunkStart (address + chunkLength address length) index ∧
      chunkEnd address length (index + 1) =
        chunkEnd (address + chunkLength address length) (length - chunkLength address length)
          index ∧
      chunkCount address length =
        chunkCount (address + chunkLength address length) (length - chunkLength address length)
          + 1 := by
  have page : chunkLength address length = pageSize - address % pageSize := by
    rw [chunkLength] at more ⊢
    omega
  have next : address + chunkLength address length = (address / pageSize + 1) * pageSize := by
    have division := Nat.div_add_mod address pageSize
    have remainder : address % pageSize < pageSize := Nat.mod_lt _ (by decide)
    rw [page, Nat.add_mul, Nat.one_mul, Nat.mul_comm]
    omega
  have quotient : (address + chunkLength address length) / pageSize = address / pageSize + 1 := by
    rw [next]
    exact Nat.mul_div_cancel _ (by decide)
  refine ⟨?_, ?_, ?_⟩
  · rw [chunkStart, chunkStart, if_neg (by omega), quotient]
    split
    · rename_i zero
      rw [next, zero]
    · rw [Nat.add_assoc (address / pageSize), Nat.add_comm 1]
  · have sameEnd : address + chunkLength address length + (length - chunkLength address length) =
        address + length := by omega
    rw [chunkEnd, chunkEnd, quotient, sameEnd, Nat.add_assoc (address / pageSize) 1,
      Nat.add_comm 1]
  · rw [chunkCount, chunkCount, quotient]
    have sameEnd : address + chunkLength address length + (length - chunkLength address length) - 1 =
        address + length - 1 := by omega
    have reaches : address / pageSize + 1 ≤ (address + length - 1) / pageSize := by
      rw [Nat.le_div_iff_mul_le (by decide), ← next]
      omega
    rw [sameEnd]
    omega

theorem chunkCount_last (last : chunkLength address length = length) (some_ : length ≠ 0) :
    chunkCount address length = 1 := by
  have division := Nat.div_add_mod address pageSize
  have inPage : address % pageSize + length ≤ pageSize := by
    have remainder : address % pageSize < pageSize := Nat.mod_lt _ (by decide)
    rw [chunkLength] at last
    omega
  have samePage : (address + length - 1) / pageSize = address / pageSize := by
    rw [Nat.div_eq_iff (by decide)]
    constructor
    · rw [Nat.mul_comm]
      omega
    · rw [Nat.mul_comm]
      omega
  rw [chunkCount, samePage, Nat.sub_self]

theorem le_chunkStart (address index : ℕ) : address ≤ chunkStart address index := by
  have division := Nat.div_add_mod address pageSize
  have remainder : address % pageSize < pageSize := Nat.mod_lt _ (by decide)
  rw [chunkStart]
  split
  · exact le_rfl
  · have next : (address / pageSize + 1) * pageSize ≤ (address / pageSize + index) * pageSize :=
      Nat.mul_le_mul_right _ (by omega)
    rw [Nat.add_mul, Nat.one_mul, Nat.mul_comm] at next
    omega

end Pieces

/-! ## The loop -/

section Loop

variable {commands : ℕ → Command} {count address : ℕ} {flash : Flash} {data : List UInt8}

/-- What a command does to the device, as long as it stays within its page. -/
theorem Command.perform_eq (command : Command) {chunk : List UInt8}
    (within : address % pageSize + chunk.length ≤ pageSize) :
    ∃ taken, (command.status = .ok → taken = chunk) ∧ taken.length ≤ chunk.length ∧
      command.perform flash address chunk = merged flash address taken := by
  have whole : address / pageSize * pageSize + address % pageSize = address := by
    rw [Nat.mul_comm]
    exact Nat.div_add_mod address pageSize
  by_cases started : command.enabled = .ok ∧ command.addressed = true
  · refine ⟨if command.transferred then chunk else chunk.take command.taken, ?_, ?_, ?_⟩
    · intro succeeds
      rw [if_pos]
      by_contra failed
      simp [Command.status, started, failed] at succeeds
    · split
      · exact le_rfl
      · rw [List.length_take]
        omega
    · rw [Command.perform, if_pos started, pageProgram_eq, whole]
      split
      · exact within
      · rw [List.length_take]
        omega
  · refine ⟨[], ?_, Nat.zero_le _, ?_⟩
    · intro succeeds
      rw [Command.status] at succeeds
      split at succeeds
      · rename_i enabled
        split at succeeds
        · rename_i both
          rw [Bool.and_eq_true] at both
          exact absurd ⟨enabled, both.1⟩ started
        · cases succeeds
      · exact absurd succeeds ‹_›
    · rw [Command.perform, if_neg started, merged_nil]

/-- One turn of the loop. The address fits its three bytes, and the next one its word. -/
theorem programLoop_turn (nonempty : data ≠ []) (fits : address + data.length ≤ capacityBytes) :
    ∃ taken, ((commands count).status = .ok →
        taken = data.take (chunkLength address data.length)) ∧
      taken.length ≤ chunkLength address data.length ∧
      programLoop commands count flash address data =
        if (commands count).status = .ok then
          let rest := programLoop commands (count + 1) (merged flash address taken)
            (address + chunkLength address data.length)
            (data.drop (chunkLength address data.length))
          ⟨rest.status, rest.flash, (address, chunkLength address data.length) :: rest.sent⟩
        else
          ⟨(commands count).status, merged flash address taken,
            [(address, chunkLength address data.length)]⟩ := by
  have positive : data.length ≠ 0 := fun zero => nonempty (List.eq_nil_of_length_eq_zero zero)
  have atMost := chunkLength_le address data.length
  have capacity : capacityBytes = 8388608 := rfl
  have threeBytes : address % 2 ^ 24 = address := Nat.mod_eq_of_lt (by omega)
  have word : (address + chunkLength address data.length) % 2 ^ 32 =
      address + chunkLength address data.length := Nat.mod_eq_of_lt (by omega)
  have length : (data.take (chunkLength address data.length)).length =
      chunkLength address data.length := by
    rw [List.length_take]
    omega
  have within : address % pageSize + (data.take (chunkLength address data.length)).length ≤
      pageSize := by
    have remainder : address % pageSize < pageSize := Nat.mod_lt _ (by decide)
    rw [length, chunkLength]
    omega
  obtain ⟨taken, all, short, performed⟩ := @Command.perform_eq address flash (commands count) _ within
  rw [length] at short
  refine ⟨taken, all, short, ?_⟩
  rw [programLoop, dif_neg nonempty]
  dsimp only
  rw [threeBytes, word, performed]

/-- The pieces up to some number, as they are sent. -/
def pieces (address length count : ℕ) : List (ℕ × ℕ) :=
  (List.range count).map fun index =>
    (chunkStart address index, chunkEnd address length index - chunkStart address index)

theorem pieces_one (address length : ℕ) : pieces address length 1 = [(address, chunkLength address length)] := by
  rw [pieces, List.range_one, List.map_singleton, chunkEnd_zero, chunkStart, if_pos rfl,
    Nat.add_sub_cancel_left]

theorem pieces_cons {address length : ℕ} (more : chunkLength address length < length) (count : ℕ) :
    pieces address length (count + 1) =
      (address, chunkLength address length) ::
        pieces (address + chunkLength address length) (length - chunkLength address length) count := by
  rw [pieces, List.range_succ_eq_map, List.map_cons, List.map_map, chunkEnd_zero, chunkStart,
    if_pos rfl, Nat.add_sub_cancel_left]
  refine congrArg (List.cons _) (List.map_congr_left fun index _ => ?_)
  obtain ⟨start, stop, -⟩ := pieces_succ more index
  rw [Function.comp_apply, start, stop]

/-- **If all commands succeed, bits are cleared in the whole range and nowhere else.** -/
theorem programLoop_ok (nonempty : data ≠ []) (fits : address + data.length ≤ capacityBytes)
    (succeed : ∀ index < chunkCount address data.length, (commands (count + index)).status = .ok) :
    programLoop commands count flash address data =
      ⟨.ok, merged flash address data,
        pieces address data.length (chunkCount address data.length)⟩ := by
  induction remaining : data.length using Nat.strong_induction_on
    generalizing count flash address data with
  | _ remaining ih =>
      subst remaining
      have positive : data.length ≠ 0 := fun zero => nonempty (List.eq_nil_of_length_eq_zero zero)
      obtain ⟨taken, all, -, turn⟩ := @programLoop_turn commands count address flash data nonempty fits
      have first : (commands count).status = .ok := succeed 0 (by rw [chunkCount]; omega)
      have atMost := chunkLength_le address data.length
      have someBytes := @chunkLength_pos address _ positive
      rw [turn, if_pos first, all first]
      rcases Nat.lt_or_eq_of_le atMost with more | last
      · obtain ⟨-, -, counted⟩ := pieces_succ more 0
        have left : (data.drop (chunkLength address data.length)).length =
            data.length - chunkLength address data.length := List.length_drop
        have front : (data.take (chunkLength address data.length)).length =
            chunkLength address data.length := by
          rw [List.length_take]
          omega
        have rest := @ih (data.length - chunkLength address data.length) (by omega) (count + 1)
          (address + chunkLength address data.length)
          (merged flash address (data.take (chunkLength address data.length)))
          (data.drop (chunkLength address data.length))
          (fun empty => by rw [empty, List.length_nil] at left; omega) (by rw [left]; omega)
          (fun index inside => by
            have later := succeed (index + 1) (by rw [counted, ← left]; omega)
            rwa [Nat.add_comm index, ← Nat.add_assoc] at later)
          left
        have joined := merged_append flash address (data.take (chunkLength address data.length))
          (data.drop (chunkLength address data.length))
        rw [front, List.take_append_drop] at joined
        rw [rest]
        dsimp only
        rw [joined, counted, pieces_cons more]
      · rw [last, List.take_length, List.drop_length, programLoop, dif_pos rfl,
          chunkCount_last last positive, pieces_one, last]

/-- **The first command that fails ends the call**: the pieces before it are complete, it may
have cleared bits in its own piece, and nothing behind this piece is touched. -/
theorem programLoop_failed (nonempty : data ≠ []) (fits : address + data.length ≤ capacityBytes)
    {index : ℕ} (inside : index < chunkCount address data.length)
    (before : ∀ earlier < index, (commands (count + earlier)).status = .ok)
    (fails : (commands (count + index)).status ≠ .ok) :
    ∃ taken, chunkStart address index + taken.length ≤ chunkEnd address data.length index ∧
      programLoop commands count flash address data =
        ⟨(commands (count + index)).status,
          merged (merged flash address (data.take (chunkStart address index - address)))
            (chunkStart address index) taken,
          pieces address data.length (index + 1)⟩ := by
  induction index generalizing count flash address data with
  | zero =>
      obtain ⟨taken, -, short, turn⟩ := @programLoop_turn commands count address flash data nonempty fits
      rw [Nat.add_zero] at fails
      refine ⟨taken, ?_, ?_⟩
      · rw [chunkEnd_zero, chunkStart, if_pos rfl]
        omega
      · rw [turn, if_neg fails, chunkStart, if_pos rfl, Nat.sub_self, List.take_zero, merged_nil,
          Nat.add_zero, pieces_one]
  | succ index ih =>
      have positive : data.length ≠ 0 := fun zero => nonempty (List.eq_nil_of_length_eq_zero zero)
      obtain ⟨taken, all, -, turn⟩ := @programLoop_turn commands count address flash data nonempty fits
      have first : (commands count).status = .ok := before 0 (by omega)
      have atMost := chunkLength_le address data.length
      have more : chunkLength address data.length < data.length := by
        rcases Nat.lt_or_eq_of_le atMost with more | last
        · exact more
        · rw [chunkCount_last last positive] at inside
          omega
      obtain ⟨start, stop, counted⟩ := pieces_succ more index
      have left : (data.drop (chunkLength address data.length)).length =
          data.length - chunkLength address data.length := List.length_drop
      have front : (data.take (chunkLength address data.length)).length =
          chunkLength address data.length := by
        rw [List.length_take]
        omega
      have sameCommand : count + 1 + index = count + (index + 1) := by omega
      obtain ⟨rest, short, looped⟩ := @ih (count + 1) (address + chunkLength address data.length)
        (merged flash address (data.take (chunkLength address data.length)))
        (data.drop (chunkLength address data.length))
        (fun empty => by rw [empty, List.length_nil] at left; omega) (by rw [left]; omega)
        (by rw [left]; omega)
        (fun earlier early => by
          have succeeds := before (earlier + 1) (by omega)
          rwa [Nat.add_comm earlier, ← Nat.add_assoc] at succeeds)
        (by rwa [sameCommand])
      rw [left, ← stop, ← start] at short
      refine ⟨rest, short, ?_⟩
      have reaches : address + chunkLength address data.length ≤ chunkStart address (index + 1) :=
        start ▸ le_chunkStart _ index
      have joined := merged_append flash address (data.take (chunkLength address data.length))
        ((data.drop (chunkLength address data.length)).take
          (chunkStart address (index + 1) - (address + chunkLength address data.length)))
      have split : chunkLength address data.length +
          (chunkStart address (index + 1) - (address + chunkLength address data.length)) =
            chunkStart address (index + 1) - address := by omega
      rw [front, ← List.take_add, split] at joined
      rw [left, ← start, joined, sameCommand] at looped
      rw [turn, if_pos first, all first, looped, pieces_cons more]

end Loop

/-! ## The call -/

/-- The pieces lie one behind the other in the range, each within one page, and their
addresses fit the three bytes of a command. -/
theorem piece_within {address length index : ℕ} (some_ : length ≠ 0)
    (fits : address + length ≤ capacityBytes) (inside : index < chunkCount address length) :
    chunkStart address index < chunkEnd address length index ∧
      chunkEnd address length index ≤ address + length ∧
      chunkStart address index < 2 ^ 24 ∧
      chunkStart address index % pageSize +
        (chunkEnd address length index - chunkStart address index) ≤ pageSize := by
  have capacity : capacityBytes = 8388608 := rfl
  rw [capacity] at fits
  simp only [chunkCount, chunkStart, chunkEnd, pageSize] at inside ⊢
  split
  · rename_i zero
    rw [zero] at inside ⊢
    omega
  · omega

/-- Among some that do not all succeed, one is the first to fail. -/
theorem exists_first_failure {succeeds : ℕ → Prop} {count : ℕ}
    (fail : ¬ ∀ index < count, succeeds index) :
    ∃ index, (index < count ∧ ¬ succeeds index) ∧ ∀ earlier < index, succeeds earlier := by
  classical
  have some_ : ∃ index, index < count ∧ ¬ succeeds index := by
    by_contra none
    exact fail fun index inside => by_contra fun fails => none ⟨index, inside, fails⟩
  refine ⟨Nat.find some_, Nat.find_spec some_, fun earlier early => ?_⟩
  by_contra fails
  have inside := (Nat.find_spec some_).1
  exact Nat.find_min some_ early ⟨by omega, fails⟩

/-- **Flash programming splits correctly.** For every accepted range, every content of the
device and all that can happen to the commands: if all commands succeed, bits are cleared
in the range and nowhere else; if a command is the first to fail, the pieces before it are
complete, and nothing behind its own piece or before the range is touched; and the
commands sent are for pieces that lie within one page, with addresses of 24 bits. -/
theorem program_splits {address : ℕ} {data : List UInt8}
    (accepted : isRangeValid address data.length = true) (flash : Flash) (commands : ℕ → Command) :
    ((∀ index < chunkCount address data.length, (commands index).status = .ok) →
      (program true commands flash address data).status = .ok ∧
        ∀ cell, (program true commands flash address data).flash cell =
          if address ≤ cell ∧ cell < address + data.length then
            flash cell &&& data.getD (cell - address) 0
          else flash cell) ∧
      (∀ index < chunkCount address data.length,
        (∀ earlier < index, (commands earlier).status = .ok) → (commands index).status ≠ .ok →
        (program true commands flash address data).status = (commands index).status ∧
          (∀ cell < chunkStart address index,
            (program true commands flash address data).flash cell =
              if address ≤ cell then flash cell &&& data.getD (cell - address) 0
              else flash cell) ∧
          ∀ cell, chunkEnd address data.length index ≤ cell →
            (program true commands flash address data).flash cell = flash cell) ∧
      ∀ piece ∈ (program true commands flash address data).sent,
        ∃ index < chunkCount address data.length,
          piece = (chunkStart address index,
            chunkEnd address data.length index - chunkStart address index) ∧
          piece.1 + piece.2 ≤ capacityBytes ∧ piece.1 < 2 ^ 24 ∧
          piece.1 % pageSize + piece.2 ≤ pageSize := by
  have looped : program true commands flash address data = programLoop commands 0 flash address data := by
    rw [program, if_pos accepted, if_pos rfl]
  simp only [isRangeValid, Bool.and_eq_true, bne_iff_ne, decide_eq_true_eq] at accepted
  obtain ⟨⟨some_, small⟩, low⟩ := accepted
  have nonempty : data ≠ [] := fun empty => some_ (by rw [empty, List.length_nil])
  have fits : address + data.length ≤ capacityBytes := by omega
  have sentPieces (count : ℕ) (upTo : count ≤ chunkCount address data.length) :
      ∀ piece ∈ pieces address data.length count,
        ∃ index < chunkCount address data.length,
          piece = (chunkStart address index,
            chunkEnd address data.length index - chunkStart address index) ∧
          piece.1 + piece.2 ≤ capacityBytes ∧ piece.1 < 2 ^ 24 ∧
          piece.1 % pageSize + piece.2 ≤ pageSize := by
    intro piece member
    obtain ⟨index, inside, rfl⟩ := List.mem_map.mp member
    rw [List.mem_range] at inside
    obtain ⟨order, last, threeBytes, onePage⟩ := piece_within some_ fits
      (Nat.lt_of_lt_of_le inside upTo)
    exact ⟨index, by omega, rfl, by dsimp only; omega, threeBytes, onePage⟩
  rw [looped]
  refine ⟨?_, ?_, ?_⟩
  · intro succeed
    have result := @programLoop_ok commands 0 address flash data nonempty fits
      (fun index inside => by rw [Nat.zero_add]; exact succeed index inside)
    rw [result]
    exact ⟨rfl, fun cell => rfl⟩
  · intro index inside before fails
    obtain ⟨taken, short, result⟩ := @programLoop_failed commands 0 address flash data nonempty fits
      index inside (fun earlier early => by rw [Nat.zero_add]; exact before earlier early)
      (by rwa [Nat.zero_add])
    obtain ⟨order, last, -, -⟩ := piece_within some_ fits inside
    have from_ := le_chunkStart address index
    have complete : (data.take (chunkStart address index - address)).length =
        chunkStart address index - address := by
      rw [List.length_take]
      omega
    rw [Nat.zero_add] at result
    rw [result]
    refine ⟨rfl, fun cell early => ?_, fun cell late => ?_⟩
    · dsimp only
      rw [merged, if_neg (by omega), merged, complete]
      by_cases inRange : address ≤ cell
      · rw [if_pos (by omega), if_pos inRange, List.getD_eq_getElem?_getD, List.getElem?_take,
          if_pos (by omega), ← List.getD_eq_getElem?_getD]
      · rw [if_neg (by omega), if_neg inRange]
    · dsimp only
      rw [merged, if_neg (by omega), merged, complete, if_neg (by omega)]
  · by_cases succeed : ∀ index < chunkCount address data.length, (commands index).status = .ok
    · have result := @programLoop_ok commands 0 address flash data nonempty fits
        (fun index inside => by rw [Nat.zero_add]; exact succeed index inside)
      rw [result]
      exact sentPieces _ le_rfl
    · obtain ⟨index, ⟨inside, fails⟩, before⟩ := exists_first_failure succeed
      obtain ⟨taken, -, result⟩ := @programLoop_failed commands 0 address flash data nonempty fits
        index inside (fun earlier early => by rw [Nat.zero_add]; exact before earlier early)
        (by rwa [Nat.zero_add])
      rw [result]
      exact sentPieces _ inside

/-- A command to which nothing happens. -/
def smooth : Command := ⟨.ok, true, true, 0, .ok⟩

/-- Four bytes across the end of the first page of an erased device. -/
theorem program_splits_across_pages :
    isRangeValid 254 (ascii "wrap").length = true ∧
      (program true (fun _ => smooth) (fun _ => 0xFF) 254 (ascii "wrap")).status = .ok ∧
      (program true (fun _ => smooth) (fun _ => 0xFF) 254 (ascii "wrap")).flash 256 = 0x61 ∧
      (program true (fun _ => smooth) (fun _ => 0xFF) 254 (ascii "wrap")).flash 0 = 0xFF := by
  obtain ⟨succeeds, -, -⟩ := @program_splits 254 (ascii "wrap") (by decide) (fun _ => 0xFF)
    (fun _ => smooth)
  obtain ⟨status, cells⟩ := succeeds fun _ _ => by decide
  refine ⟨by decide, status, ?_, ?_⟩
  · rw [cells]
    decide
  · rw [cells]
    decide

/-- Whatever happens to the commands, the rest of the device is left alone. -/
theorem program_outside {address : ℕ} {data : List UInt8}
    (accepted : isRangeValid address data.length = true) (flash : Flash) (commands : ℕ → Command)
    {cell : ℕ} (outside : cell < address ∨ address + data.length ≤ cell) :
    (program true commands flash address data).flash cell = flash cell := by
  rw [program, if_pos accepted, if_pos rfl]
  simp only [isRangeValid, Bool.and_eq_true, bne_iff_ne, decide_eq_true_eq] at accepted
  obtain ⟨⟨some_, small⟩, low⟩ := accepted
  have nonempty : data ≠ [] := fun empty => some_ (by rw [empty, List.length_nil])
  have fits : address + data.length ≤ capacityBytes := by omega
  by_cases succeed : ∀ index < chunkCount address data.length, (commands index).status = .ok
  · rw [@programLoop_ok commands 0 address flash data nonempty fits
      (fun index inside => by rw [Nat.zero_add]; exact succeed index inside)]
    dsimp only
    rw [merged, if_neg (by omega)]
  · obtain ⟨index, ⟨inside, fails⟩, before⟩ := exists_first_failure succeed
    obtain ⟨taken, short, result⟩ := @programLoop_failed commands 0 address flash data nonempty fits
      index inside (fun earlier early => by rw [Nat.zero_add]; exact before earlier early)
      (by rwa [Nat.zero_add])
    obtain ⟨order, last, -, -⟩ := piece_within some_ fits inside
    have from_ := le_chunkStart address index
    rw [result]
    dsimp only
    rw [merged, if_neg (by omega), merged, List.length_take, if_neg (by omega)]

/-- If all commands succeed, bits are cleared in the range. -/
theorem program_ok {address : ℕ} {data : List UInt8}
    (accepted : isRangeValid address data.length = true) (flash : Flash) {commands : ℕ → Command}
    (succeed : ∀ index, (commands index).status = .ok) :
    (program true commands flash address data).status = .ok ∧
      (program true commands flash address data).flash = merged flash address data := by
  rw [program, if_pos accepted, if_pos rfl]
  simp only [isRangeValid, Bool.and_eq_true, bne_iff_ne, decide_eq_true_eq] at accepted
  obtain ⟨⟨some_, small⟩, low⟩ := accepted
  have nonempty : data ≠ [] := fun empty => some_ (by rw [empty, List.length_nil])
  rw [@programLoop_ok commands 0 address flash data nonempty (by omega) fun index _ => succeed _]
  exact ⟨rfl, rfl⟩

/-! ## Regions of cells -/

/-- The cells of a region. -/
def region (flash : Flash) (base size : ℕ) : List UInt8 :=
  (List.range size).map fun offset => flash (base + offset)

/-- `W25Q64_Read`; `locks` is whether the mutex is taken and `command` the result of the
command that reads. -/
def read (locks : Bool) (command : Status) (flash : Flash) (address length : ℕ) :
    Except Status (List UInt8) :=
  if isRangeValid address length then
    if locks then if command = .ok then .ok (region flash address length) else .error command
    else .error .ioError
  else .error .invalidArgument

/-- **What the stores know as programming a region** is what the device does with a range
at its start. -/
theorem merged_region (flash : Flash) (base : ℕ) {size : ℕ} {data : List UInt8}
    (fits : data.length ≤ size) :
    region (merged flash base data) base size =
      HealthCheckFirmware.program (region flash base size) data := by
  have length : (region flash base size).length = size := by
    rw [region, List.length_map, List.length_range]
  refine List.ext_getElem ?_ fun index inside _ => ?_
  · rw [HealthCheckFirmware.program, List.length_append, List.length_zipWith, List.length_drop,
      length, region, List.length_map, List.length_range]
    omega
  · rw [region, List.length_map, List.length_range] at inside
    simp only [region, HealthCheckFirmware.program, List.getElem_map, List.getElem_range, merged]
    by_cases written : index < data.length
    · rw [if_pos (by omega), List.getElem_append_left (by simp; omega), List.getElem_zipWith,
        List.getElem_map, List.getElem_range, Nat.add_sub_cancel_left,
        List.getD_eq_getElem _ _ written]
    · rw [if_neg (by omega), List.getElem_append_right (by simp; omega), List.getElem_drop,
        List.getElem_map, List.getElem_range]
      congr 1
      simp
      omega

end HealthCheckFirmware.W25Q64
