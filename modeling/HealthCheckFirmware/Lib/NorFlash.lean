import HealthCheckFirmware.Lib.Codec

/-!
# Erasing and programming NOR flash

An erase sets every bit of a sector. Programming can only clear bits: a
programmed cell holds the conjunction of what it held and of what was written.
Bytes programmed into an erased sector therefore read back as written
(`program_erased`).

A write operation does not always do what it was asked. A `Fate` says how one
operation ends: carried out; carried out only as far as its status reports;
refused with an error; or cut off by a loss of power. In the last three the
cells are left holding some image, which the fate names.
-/

set_option autoImplicit false

namespace HealthCheckFirmware

/-! ## Cells -/

/-- A region whose every bit is set. -/
def erased (size : ℕ) : List UInt8 := List.replicate size 0xFF

/-- The region after programming `data` at its start. -/
def program (region data : List UInt8) : List UInt8 :=
  List.zipWith (fun old new => old &&& new) region data ++ region.drop data.length

theorem ones_and (byte : UInt8) : 0xFF &&& byte = byte := by
  rw [UInt8.and_comm]
  exact UInt8.and_neg_one

theorem zipWith_and_replicate (data : List UInt8) (size : ℕ) (fits : data.length ≤ size) :
    List.zipWith (fun old new => old &&& new) (List.replicate size 0xFF) data = data := by
  induction data generalizing size with
  | nil => simp
  | cons byte data ih =>
      cases size with
      | zero => exact absurd fits (by simp)
      | succ size =>
          rw [List.replicate_succ, List.zipWith_cons_cons, ones_and,
            ih size (Nat.le_of_succ_le_succ fits)]

/-- What is programmed into an erased region reads back as written. -/
theorem program_erased (data : List UInt8) (size : ℕ) (fits : data.length ≤ size) :
    program (erased size) data = data ++ (erased size).drop data.length := by
  rw [program, erased, zipWith_and_replicate data size fits]

/-! ## How an operation ends -/

/-- The end of one erase or program operation on a region. -/
inductive Fate (Image : Type) where
  | done
  | silent (left : Image)
  | refused (left : Image)
  | cut (left : Image)

/-- What the caller of an operation learns: its status, or nothing at all when
the power was lost during it. -/
inductive Progress where
  | ok
  | error
  | powerLost
  deriving DecidableEq, Repr

namespace Fate

variable {Image : Type}

/-- The image an operation leaves, given the one it was meant to leave. -/
def leaves (fate : Fate Image) (intended : Image) : Image :=
  match fate with
  | .done => intended
  | .silent left => left
  | .refused left => left
  | .cut left => left

/-- What the caller learns. -/
def progress : Fate Image → Progress
  | .done => .ok
  | .silent _ => .ok
  | .refused _ => .error
  | .cut _ => .powerLost

/-- An operation that reports success did what it was asked. -/
def Honest : Fate Image → Prop
  | .silent _ => False
  | _ => True

/-- An operation during which the power stays on. -/
def Powered : Fate Image → Prop
  | .cut _ => False
  | _ => True

/-- An operation that, unless the power is lost, does what it was asked. -/
def Works : Fate Image → Prop
  | .done => True
  | .cut _ => True
  | _ => False

theorem Works.honest {fate : Fate Image} (works : fate.Works) : fate.Honest := by
  cases fate with
  | silent left => exact works
  | _ => trivial

/-- An honest operation that reports success leaves the image it was meant to. -/
theorem Honest.leaves_eq {fate : Fate Image} (honest : fate.Honest) {intended : Image}
    (ok : fate.progress = .ok) : fate.leaves intended = intended := by
  cases fate with
  | done => rfl
  | silent left => exact honest.elim
  | refused left => cases ok
  | cut left => cases ok

end Fate

end HealthCheckFirmware
