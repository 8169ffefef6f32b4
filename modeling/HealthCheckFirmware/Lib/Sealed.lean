import HealthCheckFirmware.Lib.TwoBank

/-!
# Snapshots sealed with a checksum

A sealed snapshot is a body followed by the checksum of the bytes the body is
written as. A `SealScheme` says how the body is laid out, which bodies are acceptable
and how a new one is marked before it is written. From it come the validity test
of a run of bytes, the stamping of a candidate, and the `Format` of a store whose
banks are single sectors. A stamped snapshot passes the test exactly if its body
is acceptable (`SealScheme.isValid_stamp`).
-/

set_option autoImplicit false

namespace HealthCheckFirmware

open TwoBank

/-- A snapshot with its checksum. -/
structure Sealed (Body : Type) where
  body : Body
  crc : UInt32
  deriving DecidableEq, Repr

/-- A proposed body, with the checksum not yet recomputed. -/
def Sealed.propose {Body Status : Type} (crc : UInt32) (proposal : Except Status Body) :
    Except Status (Sealed Body) :=
  proposal.map (⟨·, crc⟩)

theorem Sealed.of_propose {Body Status : Type} {crc : UInt32} {proposal : Except Status Body}
    {candidate : Sealed Body} (proposed : Sealed.propose crc proposal = .ok candidate) :
    proposal = .ok candidate.body := by
  cases proposal with
  | error status => cases proposed
  | ok body =>
      cases proposed
      rfl

theorem Sealed.of_propose_error {Body Status : Type} {crc : UInt32}
    {proposal : Except Status Body} {status : Status}
    (refused : Sealed.propose crc proposal = .error status) : proposal = .error status := by
  cases proposal with
  | error refusal =>
      cases refused
      rfl
  | ok body => cases refused

/-- How the snapshots of a store are laid out, tested and marked. -/
structure SealScheme (Body : Type) where
  codec : Codec Body
  checksum : List UInt8 → UInt32
  accepts : Body → Bool
  mark : Body → Body
  generation : Body → UInt32
  generation_mark : ∀ body, generation (mark body) = generation body + 1

namespace SealScheme

variable {Body : Type} (scheme : SealScheme Body)

/-- The layout of a sealed snapshot: the body, then the checksum. -/
def layout : Codec (Sealed Body) :=
  Codec.record (Codec.seq scheme.codec Codec.u32) (fun fields => ⟨fields.1, fields.2⟩)
    (fun snapshot => (snapshot.body, snapshot.crc)) (fun _ => rfl)

theorem layout_size : scheme.layout.size = scheme.codec.size + 4 := rfl

theorem layout_encode (snapshot : Sealed Body) :
    scheme.layout.encode snapshot =
      scheme.codec.encode snapshot.body ++ Codec.u32.encode snapshot.crc := rfl

/-- The validity test of the bytes of a snapshot. -/
def isValid (bytes : List UInt8) : Bool :=
  scheme.accepts (scheme.layout.decode bytes).body
    && ((scheme.layout.decode bytes).crc == scheme.checksum (bytes.take scheme.codec.size))

/-- Mark a candidate with the next generation and add its checksum. -/
def stamp (candidate : Sealed Body) : Sealed Body :=
  ⟨scheme.mark candidate.body, scheme.checksum (scheme.codec.encode (scheme.mark candidate.body))⟩

@[simp] theorem stamp_body (candidate : Sealed Body) :
    (scheme.stamp candidate).body = scheme.mark candidate.body := rfl

theorem isValid_accepts {bytes : List UInt8} (valid : scheme.isValid bytes = true) :
    scheme.accepts (scheme.layout.decode bytes).body = true := by
  unfold isValid at valid
  exact (Bool.and_eq_true_iff.mp valid).1

/-- The test of a snapshot begins with the fields of its header. -/
theorem isValid_of_rejected {bytes : List UInt8}
    (rejected : scheme.accepts (scheme.layout.decode bytes).body = false) :
    scheme.isValid bytes = false := by
  rw [isValid, rejected, Bool.false_and]

/-- A stamped snapshot, whatever follows it, is valid if its body is acceptable. -/
theorem isValid_stamp (candidate : Sealed Body) (rest : List UInt8) :
    scheme.isValid (scheme.layout.encode (scheme.stamp candidate) ++ rest) =
      scheme.accepts (scheme.mark candidate.body) := by
  have covered : (scheme.layout.encode (scheme.stamp candidate) ++ rest).take scheme.codec.size =
      scheme.codec.encode (scheme.mark candidate.body) := by
    rw [layout_encode, List.append_assoc]
    exact List.take_left' (scheme.codec.encode_length _)
  rw [isValid, covered, Codec.decode_encode]
  simp [stamp]

theorem generation_stamp (snapshot : Sealed Body) :
    scheme.generation (scheme.stamp snapshot).body = scheme.generation snapshot.body + 1 :=
  scheme.generation_mark snapshot.body

/-- The format of a store whose banks are single sectors. -/
def format (size : ℕ) (fits : scheme.layout.size ≤ size) : Format (List UInt8) (Sealed Body) where
  blank := erased size
  write snapshot image := program image (scheme.layout.encode snapshot)
  read image := scheme.layout.decode image
  isValid := scheme.isValid
  stamp := scheme.stamp
  generation snapshot := scheme.generation snapshot.body
  read_write snapshot := by
    rw [program_erased _ _ (by rw [Codec.encode_length]; exact fits), Codec.decode_encode]
  generation_stamp := scheme.generation_stamp

section SingleSector

variable {size : ℕ} (fits : scheme.layout.size ≤ size)

theorem format_write_blank (snapshot : Sealed Body) :
    (scheme.format size fits).write snapshot (scheme.format size fits).blank =
      scheme.layout.encode snapshot ++ (erased size).drop (scheme.layout.encode snapshot).length :=
  program_erased _ _ (by rw [Codec.encode_length]; exact fits)

theorem format_isValid_stamp (candidate : Sealed Body) :
    (scheme.format size fits).isValid ((scheme.format size fits).write
        ((scheme.format size fits).stamp candidate) (scheme.format size fits).blank) =
      scheme.accepts (scheme.mark candidate.body) := by
  rw [format_write_blank]
  exact scheme.isValid_stamp candidate _

theorem format_load_accepts {image : List UInt8} {snapshot : Sealed Body}
    (loaded : (scheme.format size fits).load image = some snapshot) :
    scheme.accepts snapshot.body = true := by
  obtain ⟨valid, rfl⟩ := load_eq_some.mp loaded
  exact scheme.isValid_accepts valid

end SingleSector

end SealScheme

end HealthCheckFirmware
