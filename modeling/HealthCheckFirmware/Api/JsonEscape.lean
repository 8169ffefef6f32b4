import Mathlib.Logic.Function.Basic
import HealthCheckFirmware.Api.Json
import HealthCheckFirmware.Lib.JsonString

/-!
# Appending a string to a JSON text

`apiService_AppendJsonString` on the memory that it writes to. The loop keeps the number
of bytes used below the capacity, so that there is always room for the terminator
(`appendLoop_written`); the text it has appended is the escaped value. A write past the
buffer would show in the memory: there is none (`appendLoop_beyond`).

In terms of the text that the buffer holds, the loop is `appendJsonString`
(`appendLoop_contents`).
-/

set_option autoImplicit false

namespace HealthCheckFirmware.ApiService

/-- The memory behind `output`, byte by byte. -/
abbrev Memory := ℕ → UInt8

/-- What the function returns, and the memory and the fill level it leaves. -/
structure Written where
  done : Bool
  memory : Memory
  used : ℕ

/-- The loop of `apiService_AppendJsonString`, over the characters of the value. -/
def appendLoop (capacity : ℕ) (memory : Memory) (used : ℕ) : List UInt8 → Written
  | [] => ⟨true, Function.update memory used 0, used⟩
  | byte :: rest =>
      if byte < 0x20 then ⟨false, memory, used⟩
      else if byte = 0x22 ∨ byte = 0x5C then
        if capacity - used ≤ 2 then ⟨false, memory, used⟩
        else
          appendLoop capacity
            (Function.update (Function.update memory used 0x5C) (used + 1) byte) (used + 2) rest
      else if capacity - used ≤ 1 then ⟨false, memory, used⟩
      else appendLoop capacity (Function.update memory used byte) (used + 1) rest

/-- `apiService_AppendJsonString`. The value is the string at the start of some bytes. -/
def writeJsonString (capacity : ℕ) (memory : Memory) (used : ℕ) (value : List UInt8) : Written :=
  if capacity ≤ used then ⟨false, memory, used⟩
  else appendLoop capacity memory used (cString value)

/-- The bytes of a memory from one index up to another. -/
def between (memory : Memory) (first last : ℕ) : List UInt8 :=
  (List.range' first (last - first)).map memory

variable {capacity used : ℕ} {memory : Memory}

theorem between_self (memory : Memory) (index : ℕ) : between memory index index = [] := by
  rw [between, Nat.sub_self]
  rfl

theorem between_cons {first last : ℕ} (before : first < last) :
    between memory first last = memory first :: between memory (first + 1) last := by
  obtain ⟨count, rfl⟩ : ∃ count, last = first + 1 + count := ⟨last - first - 1, by omega⟩
  rw [between, between, show first + 1 + count - first = count + 1 by omega,
    show first + 1 + count - (first + 1) = count by omega, List.range'_succ, List.map_cons]

/-! ## The loop -/

/-- What the loop has done when it succeeds: it has written the escaped value and its
terminator, and nothing before them. -/
structure Appended (capacity used : ℕ) (memory : Memory) (value : List UInt8) (written : Written) :
    Prop where
  text : between written.memory used written.used = escape value
  printable : ∀ byte ∈ value, ¬ byte < 0x20
  kept : ∀ index < used, written.memory index = memory index
  ends : written.memory written.used = 0
  reaches : used ≤ written.used
  fits : written.used < capacity

theorem appendLoop_written {value : List UInt8} (room : used < capacity)
    (succeeds : (appendLoop capacity memory used value).done = true) :
    Appended capacity used memory value (appendLoop capacity memory used value) := by
  induction value generalizing memory used with
  | nil =>
      exact ⟨between_self _ _, nofun, fun index before =>
        Function.update_of_ne (by omega) _ _, Function.update_self _ _ _, le_rfl, room⟩
  | cons byte rest ih =>
      rw [appendLoop] at succeeds ⊢
      by_cases control : byte < 0x20
      · rw [if_pos control] at succeeds
        cases succeeds
      rw [if_neg control] at succeeds ⊢
      by_cases special : byte = 0x22 ∨ byte = 0x5C
      · rw [if_pos special] at succeeds ⊢
        by_cases full : capacity - used ≤ 2
        · rw [if_pos full] at succeeds
          cases succeeds
        rw [if_neg full] at succeeds ⊢
        obtain ⟨text, printable, kept, ends, reaches, fits⟩ := ih (by omega) succeeds
        refine ⟨?_, ?_, fun index before => ?_, ends, by omega, fits⟩
        · rw [between_cons (by omega), between_cons (by omega), text, escape_cons, escapeByte,
            if_pos special, kept used (by omega), kept (used + 1) (by omega),
            Function.update_of_ne (by omega), Function.update_self, Function.update_self]
          rfl
        · exact List.forall_mem_cons.mpr ⟨control, printable⟩
        · rw [kept index (by omega), Function.update_of_ne (by omega),
            Function.update_of_ne (by omega)]
      · rw [if_neg special] at succeeds ⊢
        by_cases full : capacity - used ≤ 1
        · rw [if_pos full] at succeeds
          cases succeeds
        rw [if_neg full] at succeeds ⊢
        obtain ⟨text, printable, kept, ends, reaches, fits⟩ := ih (by omega) succeeds
        refine ⟨?_, ?_, fun index before => ?_, ends, by omega, fits⟩
        · rw [between_cons (by omega), text, escape_cons, escapeByte, if_neg special,
            kept used (by omega), Function.update_self]
          rfl
        · exact List.forall_mem_cons.mpr ⟨control, printable⟩
        · rw [kept index (by omega), Function.update_of_ne (by omega)]

/-- The loop writes nothing past the buffer. -/
theorem appendLoop_beyond {value : List UInt8} (room : used < capacity) {index : ℕ}
    (beyond : capacity ≤ index) :
    (appendLoop capacity memory used value).memory index = memory index := by
  induction value generalizing memory used with
  | nil => exact Function.update_of_ne (by omega) _ _
  | cons byte rest ih =>
      rw [appendLoop]
      split
      · rfl
      split
      · split
        · rfl
        · rw [ih (by omega), Function.update_of_ne (by omega), Function.update_of_ne (by omega)]
      · split
        · rfl
        · rw [ih (by omega), Function.update_of_ne (by omega)]

/-- The loop gives up on printable characters only if there is no room for them. -/
theorem appendLoop_full {value : List UInt8} (room : used < capacity)
    (printable : ∀ byte ∈ value, ¬ byte < 0x20)
    (fails : (appendLoop capacity memory used value).done = false) :
    capacity < used + (escape value).length + 1 := by
  induction value generalizing memory used with
  | nil => cases fails
  | cons byte rest ih =>
      have later : ∀ byte ∈ rest, ¬ byte < 0x20 := fun byte member => printable byte (by simp [member])
      rw [appendLoop, if_neg (printable byte (by simp))] at fails
      rw [escape_cons, escapeByte, List.length_append]
      by_cases special : byte = 0x22 ∨ byte = 0x5C
      · rw [if_pos special] at fails ⊢
        by_cases full : capacity - used ≤ 2
        · simp only [List.length_cons, List.length_nil]
          omega
        · rw [if_neg full] at fails
          have short := ih (by omega) later fails
          simp only [List.length_cons, List.length_nil]
          omega
      · rw [if_neg special] at fails ⊢
        by_cases full : capacity - used ≤ 1
        · simp only [List.length_cons, List.length_nil]
          omega
        · rw [if_neg full] at fails
          have short := ih (by omega) later fails
          simp only [List.length_cons, List.length_nil]
          omega

/-! ## The text in the buffer -/

theorem between_append {first middle last : ℕ} (before : first ≤ middle) (after : middle ≤ last) :
    between memory first last = between memory first middle ++ between memory middle last := by
  obtain ⟨count, rfl⟩ : ∃ count, middle = first + count := ⟨middle - first, by omega⟩
  obtain ⟨more, rfl⟩ : ∃ more, last = first + count + more := ⟨last - (first + count), by omega⟩
  rw [between, between, between, ← List.map_append,
    show first + count - first = count by omega,
    show first + count + more - (first + count) = more by omega,
    show first + count + more - first = count + more by omega,
    List.range'_append_1]

theorem between_congr {other : Memory} {first last : ℕ}
    (same : ∀ index, first ≤ index → index < last → memory index = other index) :
    between memory first last = between other first last := by
  refine List.map_congr_left fun index member => ?_
  rw [List.mem_range'_1] at member
  exact same index member.1 (by omega)

/-- The text before the fill level, after one more byte. -/
theorem between_update (byte : UInt8) :
    between (Function.update memory used byte) 0 (used + 1) = between memory 0 used ++ [byte] := by
  have last : between (Function.update memory used byte) used (used + 1) = [byte] := by
    rw [between_cons (by omega), between_self, Function.update_self]
  rw [between_append (Nat.zero_le used) (by omega), last]
  congr 1
  exact between_congr fun index _ before => Function.update_of_ne (by omega) _ _

theorem length_between : (between memory 0 used).length = used := by
  rw [between, List.length_map, List.length_range', Nat.sub_zero]

/-- The loop does to the text in the buffer what `appendJsonString` says. -/
theorem appendLoop_contents {value : List UInt8} (room : used < capacity) :
    ((appendLoop capacity memory used value).done,
        between (appendLoop capacity memory used value).memory 0
          (appendLoop capacity memory used value).used) =
      appendJsonString capacity (between memory 0 used) value := by
  induction value generalizing memory used with
  | nil =>
      rw [appendLoop, appendJsonString, length_between, decide_eq_true room]
      dsimp only
      refine congrArg (Prod.mk true) (between_congr fun index _ before => ?_)
      exact Function.update_of_ne (by omega) _ _
  | cons byte rest ih =>
      rw [appendLoop, appendJsonString, length_between]
      by_cases control : byte < 0x20
      · rw [if_pos control, if_pos (Or.inr control)]
      have open_ : ¬ (capacity ≤ used ∨ byte < 0x20) := by
        rw [not_or, Nat.not_le]
        exact ⟨room, control⟩
      rw [if_neg control, if_neg open_]
      by_cases special : byte = 0x22 ∨ byte = 0x5C
      · rw [if_pos special, if_pos special]
        by_cases full : capacity - used ≤ 2
        · rw [if_pos full, if_pos full]
        · rw [if_neg full, if_neg full, ih (by omega), between_update, between_update,
            List.append_assoc]
          rfl
      · rw [if_neg special, if_neg special]
        by_cases full : capacity - used ≤ 1
        · rw [if_pos full, if_pos full]
        · rw [if_neg full, if_neg full, ih (by omega), between_update]

/-! ## The function -/

/-- **Strings are escaped exactly.** On success the appended text is read as the value,
what was there before is unchanged, and the terminator is within the capacity; on
failure nothing past the capacity was written; and printable values are refused only for
lack of room. -/
theorem writeJsonString_exact (capacity : ℕ) (memory : Memory) (used : ℕ) (value : List UInt8) :
    ((writeJsonString capacity memory used value).done = true →
      unescape (between (writeJsonString capacity memory used value).memory used
          (writeJsonString capacity memory used value).used) = some (cString value) ∧
        (∀ index < used,
          (writeJsonString capacity memory used value).memory index = memory index) ∧
        (writeJsonString capacity memory used value).memory
          (writeJsonString capacity memory used value).used = 0 ∧
        (writeJsonString capacity memory used value).used < capacity) ∧
      ((writeJsonString capacity memory used value).done = false →
        ∀ index, capacity ≤ index →
          (writeJsonString capacity memory used value).memory index = memory index) ∧
      ((∀ byte ∈ cString value, ¬ byte < 0x20) →
        (writeJsonString capacity memory used value).done = false →
          capacity < used + (escape (cString value)).length + 1) := by
  by_cases full : capacity ≤ used
  · have refused : writeJsonString capacity memory used value = ⟨false, memory, used⟩ := by
      rw [writeJsonString, if_pos full]
    rw [refused]
    exact ⟨nofun, fun _ _ _ => rfl, fun _ _ => by omega⟩
  · have looped : writeJsonString capacity memory used value =
        appendLoop capacity memory used (cString value) := by
      rw [writeJsonString, if_neg full]
    rw [looped]
    refine ⟨fun succeeds => ?_, fun _ index beyond => ?_, fun printable fails => ?_⟩
    · have appended := appendLoop_written (by omega) succeeds
      rw [appended.text, unescape_escape appended.printable]
      exact ⟨rfl, appended.kept, appended.ends, appended.fits⟩
    · exact appendLoop_beyond (by omega) beyond
    · exact appendLoop_full (by omega) printable fails

/-- A letter and a quote fit four bytes, but not three. -/
theorem writeJsonString_exact_quote :
    (writeJsonString 4 (fun _ => 0) 0 (ascii "a\"")).done = true ∧
      unescape (between (writeJsonString 4 (fun _ => 0) 0 (ascii "a\"")).memory 0
          (writeJsonString 4 (fun _ => 0) 0 (ascii "a\"")).used) = some (ascii "a\"") ∧
        (writeJsonString 3 (fun _ => 0) 0 (ascii "a\"")).done = false := by
  obtain ⟨succeeds, -, -⟩ := writeJsonString_exact 4 (fun _ => 0) 0 (ascii "a\"")
  exact ⟨by decide, (succeeds (by decide)).1, by decide⟩

end HealthCheckFirmware.ApiService
