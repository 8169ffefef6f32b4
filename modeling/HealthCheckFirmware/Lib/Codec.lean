import Mathlib.Algebra.Group.Nat.Defs
import Mathlib.Data.List.Basic
import Mathlib.Data.Nat.Basic

/-!
# Fixed-width byte layouts

A layout fixes how many bytes a value takes, which bytes it is written as and
which value a run of bytes reads as. Reading is total: bytes that are missing
read as zero, so that an image of any origin, a torn one included, reads as some
value.

The one law of a layout is that a value written in front of any other bytes
reads back as itself (`Codec.decode_encode`). Layouts compose: in sequence
(`Codec.seq`), as a fixed-length array (`Codec.array`), through a bijection with
a record type (`Codec.record`) and in front of padding (`Codec.pad`). The law of
a composite follows from the laws of its parts.
-/

set_option autoImplicit false

namespace HealthCheckFirmware

/-! ## Little-endian numbers -/

/-- The low `width` bytes of a number, least significant first. -/
def leBytes : ℕ → ℕ → List UInt8
  | 0, _ => []
  | width + 1, value => UInt8.ofNat value :: leBytes width (value / 256)

/-- The number that little-endian bytes spell. -/
def leValue : List UInt8 → ℕ
  | [] => 0
  | byte :: rest => byte.toNat + 256 * leValue rest

@[simp] theorem leBytes_length (width value : ℕ) : (leBytes width value).length = width := by
  induction width generalizing value with
  | zero => rfl
  | succ width ih => simp only [leBytes, List.length_cons, ih]

theorem leValue_leBytes (width value : ℕ) :
    leValue (leBytes width value) = value % 256 ^ width := by
  induction width generalizing value with
  | zero => simp [leBytes, leValue, Nat.mod_one]
  | succ width ih =>
      simp only [leBytes, leValue, ih]
      have byte : (UInt8.ofNat value).toNat = value % 256 := by simp
      rw [byte, Nat.pow_succ, Nat.mul_comm (256 ^ width) 256, Nat.mod_mul]

/-- Bytes in front of others read as the number they spell. -/
theorem leValue_take_leBytes (width value : ℕ) (rest : List UInt8) :
    leValue ((leBytes width value ++ rest).take width) = value % 256 ^ width := by
  rw [List.take_left' (leBytes_length width value), leValue_leBytes]

theorem leValue_lt (bytes : List UInt8) : leValue bytes < 256 ^ bytes.length := by
  induction bytes with
  | nil => simp [leValue]
  | cons byte bytes ih =>
      have digit : byte.toNat < 256 := byte.toNat_lt
      rw [leValue, List.length_cons, Nat.pow_succ]
      omega

/-- The largest number of a width has all its bits set. -/
theorem eq_replicate_of_leValue (bytes : List UInt8)
    (largest : leValue bytes + 1 = 256 ^ bytes.length) :
    bytes = List.replicate bytes.length 0xFF := by
  induction bytes with
  | nil => rfl
  | cons byte bytes ih =>
      have digit : byte.toNat < 256 := byte.toNat_lt
      have bound := leValue_lt bytes
      rw [leValue, List.length_cons, Nat.pow_succ] at largest
      have low : byte.toNat = (0xFF : UInt8).toNat := by
        have value : (0xFF : UInt8).toNat = 255 := rfl
        omega
      have high : leValue bytes + 1 = 256 ^ bytes.length := by omega
      rw [List.length_cons, List.replicate_succ, ← ih high, UInt8.toNat_inj.mp low]

/-! ## Layouts -/

/-- How a value of `α` is laid out in bytes. -/
structure Codec (α : Type) where
  size : ℕ
  encode : α → List UInt8
  decode : List UInt8 → α
  encode_length : ∀ value, (encode value).length = size
  decode_encode : ∀ value rest, decode (encode value ++ rest) = value

namespace Codec

variable {α β : Type}

attribute [simp] encode_length decode_encode

/-- A value written alone reads back as itself. -/
@[simp] theorem decode_encode_nil (codec : Codec α) (value : α) :
    codec.decode (codec.encode value) = value := by
  have read := codec.decode_encode value []
  rwa [List.append_nil] at read

/-- One byte. -/
def u8 : Codec UInt8 where
  size := 1
  encode value := [value]
  decode bytes := bytes.headD 0
  encode_length _ := rfl
  decode_encode _ _ := rfl

/-- A 16-bit little-endian word. -/
def u16 : Codec UInt16 where
  size := 2
  encode value := leBytes 2 value.toNat
  decode bytes := UInt16.ofNat (leValue (bytes.take 2))
  encode_length value := leBytes_length 2 value.toNat
  decode_encode value rest := by
    have bound : value.toNat % 256 ^ 2 = value.toNat := Nat.mod_eq_of_lt value.toNat_lt
    rw [leValue_take_leBytes, bound, UInt16.ofNat_toNat]

/-- A 32-bit little-endian word. -/
def u32 : Codec UInt32 where
  size := 4
  encode value := leBytes 4 value.toNat
  decode bytes := UInt32.ofNat (leValue (bytes.take 4))
  encode_length value := leBytes_length 4 value.toNat
  decode_encode value rest := by
    have bound : value.toNat % 256 ^ 4 = value.toNat := Nat.mod_eq_of_lt value.toNat_lt
    rw [leValue_take_leBytes, bound, UInt32.ofNat_toNat]

/-- One value after another. -/
def seq (first : Codec α) (second : Codec β) : Codec (α × β) where
  size := first.size + second.size
  encode value := first.encode value.1 ++ second.encode value.2
  decode bytes := (first.decode bytes, second.decode (bytes.drop first.size))
  encode_length value := by simp
  decode_encode value rest := by
    rw [List.append_assoc, first.decode_encode,
      List.drop_left' (first.encode_length value.1), second.decode_encode]

/-- A value followed by padding bytes, which are written as zero and not read. -/
def pad (width : ℕ) (codec : Codec α) : Codec α where
  size := codec.size + width
  encode value := codec.encode value ++ List.replicate width 0
  decode bytes := codec.decode bytes
  encode_length value := by simp
  decode_encode value rest := by rw [List.append_assoc, codec.decode_encode]

/-- A record laid out as the tuple of its fields. -/
def record (codec : Codec α) (build : α → β) (fields : β → α)
    (build_fields : ∀ value, build (fields value) = value) : Codec β where
  size := codec.size
  encode value := codec.encode (fields value)
  decode bytes := build (codec.decode bytes)
  encode_length value := codec.encode_length (fields value)
  decode_encode value rest := by rw [codec.decode_encode, build_fields]

/-! ## Arrays -/

theorem length_flatMap_encode (codec : Codec α) (values : List α) :
    (values.flatMap codec.encode).length = values.length * codec.size := by
  induction values with
  | nil => simp
  | cons value values ih =>
      rw [List.flatMap_cons, List.length_append, codec.encode_length, ih, List.length_cons,
        Nat.succ_mul, Nat.add_comm]

/-- The element at an index is read at the index times the element's size. -/
theorem decode_drop_flatMap (codec : Codec α) (values : List α) (rest : List UInt8)
    (index : ℕ) (within : index < values.length) :
    codec.decode ((values.flatMap codec.encode ++ rest).drop (index * codec.size)) =
      values[index] := by
  induction values generalizing index with
  | nil => exact absurd within (Nat.not_lt_zero index)
  | cons value values ih =>
      rw [List.flatMap_cons, List.append_assoc]
      cases index with
      | zero => simp
      | succ index =>
          have skip : (index + 1) * codec.size = (codec.encode value).length
              + index * codec.size := by
            rw [codec.encode_length, Nat.succ_mul, Nat.add_comm]
          rw [skip, List.drop_length_add_append, ih index (Nat.lt_of_succ_lt_succ within)]
          rfl

/-- A fixed number of values back to back. -/
def array (count : ℕ) (codec : Codec α) : Codec (Vector α count) where
  size := count * codec.size
  encode values := values.toList.flatMap codec.encode
  decode bytes := Vector.ofFn fun index : Fin count =>
    codec.decode (bytes.drop (index.val * codec.size))
  encode_length values := by rw [length_flatMap_encode, Vector.length_toList]
  decode_encode values rest := by
    ext index within
    rw [Vector.getElem_ofFn,
      decode_drop_flatMap codec values.toList rest index (by simpa using within)]
    simp

/-- A fixed number of raw bytes. -/
def bytes (count : ℕ) : Codec (Vector UInt8 count) := array count u8

end Codec

end HealthCheckFirmware
