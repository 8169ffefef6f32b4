import Mathlib.Algebra.Group.Int.Defs
import Mathlib.Algebra.Group.Nat.Defs
import Mathlib.Data.List.TakeWhile

/-!
# C strings in byte buffers

A C string is the run of bytes before the first zero byte. A buffer of fixed size
holds one if it has a zero byte; `fillBuffer` is the buffer that a bounded copy
into zeroed storage leaves.
-/

set_option autoImplicit false

namespace HealthCheckFirmware

/-- The string at the start of some bytes. -/
def cString (bytes : List UInt8) : List UInt8 := bytes.takeWhile (· ≠ 0)

/-- The bytes of a text. -/
def ascii (text : String) : List UInt8 := text.toList.map fun char => UInt8.ofNat char.toNat

/-- A zeroed buffer into which at most `size - 1` bytes have been copied. -/
def fillBuffer (size : ℕ) (text : List UInt8) : Vector UInt8 size :=
  Vector.ofFn fun index : Fin size => (text.take (size - 1)).getD index 0

/-- The string that a buffer holds. -/
def bufferString {size : ℕ} (buffer : Vector UInt8 size) : List UInt8 := cString buffer.toList

/-- A string has no zero byte. -/
theorem zero_notMem_cString (bytes : List UInt8) : 0 ∉ cString bytes := by
  intro member
  have nonzero := List.mem_takeWhile_imp member
  simp at nonzero

theorem cString_append_zero {text : List UInt8} (nonzero : 0 ∉ text) (rest : List UInt8) :
    cString (text ++ 0 :: rest) = text := by
  have all : ∀ byte ∈ text, decide (byte ≠ 0) = true := by
    intro byte member
    simp only [ne_eq, decide_not, Bool.not_eq_eq_eq_not, Bool.not_true, decide_eq_false_iff_not]
    rintro rfl
    exact nonzero member
  rw [cString, List.takeWhile_append_of_pos all, List.takeWhile_cons_of_neg (by simp),
    List.append_nil]

/-- The string at the start of some bytes is a prefix of them. -/
theorem cString_append (bytes more : List UInt8) :
    ∃ rest, cString (bytes ++ more) = cString bytes ++ rest := by
  unfold cString
  rw [List.takeWhile_append]
  split
  · rename_i whole
    have same : bytes.takeWhile (fun byte => decide (byte ≠ 0)) = bytes :=
      (List.takeWhile_prefix _).eq_of_length whole
    exact ⟨more.takeWhile _, by rw [same]⟩
  · exact ⟨[], (List.append_nil _).symm⟩

/-- A string is its own string. -/
theorem cString_of_nonzero {text : List UInt8} (nonzero : 0 ∉ text) : cString text = text := by
  unfold cString
  rw [List.takeWhile_eq_self_iff]
  intro byte member
  simp only [ne_eq, decide_not, Bool.not_eq_eq_eq_not, Bool.not_true, decide_eq_false_iff_not]
  rintro rfl
  exact nonzero member

/-- A string goes on after bytes that are not zero. -/
theorem cString_append_of_nonzero {text : List UInt8} (nonzero : 0 ∉ text) (rest : List UInt8) :
    cString (text ++ rest) = text ++ cString rest := by
  have whole : cString text = text := cString_of_nonzero nonzero
  unfold cString at whole ⊢
  exact List.takeWhile_append_of_pos (List.takeWhile_eq_self_iff.mp whole)

theorem toList_fillBuffer {size : ℕ} {text : List UInt8} (fits : text.length < size) :
    (fillBuffer size text).toList = text ++ List.replicate (size - text.length) 0 := by
  have whole : text.take (size - 1) = text := List.take_of_length_le (by omega)
  apply List.ext_getElem
  · simp
    omega
  · intro index within _
    simp only [fillBuffer, whole, Vector.getElem_toList, Vector.getElem_ofFn]
    by_cases inText : index < text.length
    · simp [inText]
    · simp [Nat.not_lt.mp inText]

/-- A string that fits is what the buffer then holds. -/
theorem bufferString_fillBuffer {size : ℕ} {text : List UInt8} (fits : text.length < size)
    (nonzero : 0 ∉ text) : bufferString (fillBuffer size text) = text := by
  obtain ⟨count, room⟩ : ∃ count, size - text.length = count + 1 := ⟨size - text.length - 1, by omega⟩
  rw [bufferString, toList_fillBuffer fits, room, List.replicate_succ,
    cString_append_zero nonzero]

/-- A filled buffer is terminated. -/
theorem zero_mem_fillBuffer {size : ℕ} (positive : 0 < size) (text : List UInt8) :
    0 ∈ (fillBuffer size text).toList := by
  rw [List.mem_iff_getElem]
  have last : size - 1 < size := by omega
  refine ⟨size - 1, by simpa using last, ?_⟩
  rw [Vector.getElem_toList, fillBuffer, Vector.getElem_ofFn]
  rw [List.getD_eq_getElem?_getD, List.getElem?_eq_none (List.length_take_le _ _),
    Option.getD_none]

/-- The string in a terminated buffer is shorter than the buffer. -/
theorem length_bufferString_lt {size : ℕ} {buffer : Vector UInt8 size}
    (terminated : 0 ∈ buffer.toList) : (bufferString buffer).length < size := by
  have sublist : (bufferString buffer).length ≤ buffer.toList.length :=
    (List.takeWhile_sublist _).length_le
  rw [Vector.length_toList] at sublist
  refine Nat.lt_of_le_of_ne sublist fun full => ?_
  have whole : bufferString buffer = buffer.toList :=
    (List.takeWhile_prefix _).eq_of_length (full.trans Vector.length_toList.symm)
  rw [← whole] at terminated
  exact zero_notMem_cString buffer.toList terminated

end HealthCheckFirmware
