import HealthCheckFirmware.Lib.Sealed

/-!
# Banks of several sectors

A bank of several sectors is erased sector by sector and programmed as one range.
Seen from a two-bank store, the erase of the whole bank ends in one way, the
`eraseFate`, which the fates of the single erases determine. Data programmed into
an erased bank reads back as written (`bytes_programBank_blank`).
-/

set_option autoImplicit false

namespace HealthCheckFirmware.MultiSector

open TwoBank

/-- The sectors of a bank. -/
abbrev Bank (count : ℕ) := Vector (List UInt8) count

variable {count : ℕ}

/-- The bytes of a bank, in the order of their addresses. -/
def bytes (bank : Bank count) : List UInt8 := bank.toList.flatten

def blank (count size : ℕ) : Bank count := .replicate count (erased size)

/-- Erase some sectors one after the other, until one fails. -/
def eraseSectors (size : ℕ) (fates : Fin count → Fate (List UInt8)) :
    List (Fin count) → Bank count → Bank count × Progress
  | [], bank => (bank, .ok)
  | sector :: sectors, bank =>
      let after := bank.set sector ((fates sector).leaves (erased size))
      match (fates sector).progress with
      | .ok => eraseSectors size fates sectors after
      | progress => (after, progress)

/-- Erase all sectors of a bank in the order of their addresses. -/
def erase (size : ℕ) (fates : Fin count → Fate (List UInt8)) (bank : Bank count) :
    Bank count × Progress :=
  eraseSectors size fates (List.finRange count) bank

/-- How the erase of a whole bank ends. -/
def eraseFate (size : ℕ) (fates : Fin count → Fate (List UInt8)) (bank : Bank count) :
    Fate (Bank count) :=
  match (erase size fates bank).2 with
  | .ok => if (erase size fates bank).1 = blank count size then .done
      else .silent (erase size fates bank).1
  | .error => .refused (erase size fates bank).1
  | .powerLost => .cut (erase size fates bank).1

theorem eraseFate_leaves (size : ℕ) (fates : Fin count → Fate (List UInt8)) (bank : Bank count) :
    (eraseFate size fates bank).leaves (blank count size) = (erase size fates bank).1 := by
  unfold eraseFate
  split
  · split
    · rename_i whole
      exact whole.symm
    · rfl
  · rfl
  · rfl

theorem eraseFate_progress (size : ℕ) (fates : Fin count → Fate (List UInt8))
    (bank : Bank count) :
    (eraseFate size fates bank).progress = (erase size fates bank).2 := by
  unfold eraseFate
  split
  · rename_i ok
    split <;> exact ok.symm
  · rename_i error
    exact error.symm
  · rename_i lost
    exact lost.symm

/-- Sectors that are all erased as asked; the others are left alone. -/
theorem eraseSectors_done (size : ℕ) (sectors : List (Fin count)) (bank : Bank count) :
    ∃ after, eraseSectors size (fun _ => .done) sectors bank = (after, .ok)
      ∧ ∀ index (within : index < count),
        (⟨index, within⟩ ∈ sectors → after[index] = erased size)
          ∧ (⟨index, within⟩ ∉ sectors → after[index] = bank[index]) := by
  induction sectors generalizing bank with
  | nil => exact ⟨bank, rfl, fun index within => by simp⟩
  | cons first sectors ih =>
      obtain ⟨after, result, contents⟩ := ih (bank.set first (erased size))
      refine ⟨after, result, fun index within => ?_⟩
      obtain ⟨done, kept⟩ := contents index within
      constructor
      · intro asked
        by_cases later : (⟨index, within⟩ : Fin count) ∈ sectors
        · exact done later
        · obtain rfl : ⟨index, within⟩ = first := by simpa [later] using asked
          rw [kept later]
          simp
      · intro spared
        rw [List.mem_cons, not_or] at spared
        obtain ⟨other, later⟩ := spared
        have apart : first.val ≠ index := fun same => other (Fin.ext same.symm)
        rw [kept later, Vector.getElem_set_ne _ _ apart]

/-- A bank whose sectors are all erased as asked is blank. -/
theorem eraseFate_done (size : ℕ) (bank : Bank count) :
    eraseFate size (fun _ => .done) bank = .done := by
  obtain ⟨after, result, contents⟩ := eraseSectors_done size (List.finRange count) bank
  have whole : after = blank count size := by
    ext index within : 1
    rw [(contents index within).1 (List.mem_finRange _)]
    simp [blank]
  rw [eraseFate, erase, result]
  simp [whole]

/-- Program a range that starts with the first sector. -/
def programSectors (size : ℕ) : List (List UInt8) → List UInt8 → List (List UInt8)
  | [], _ => []
  | sector :: sectors, data =>
      program sector (data.take size) :: programSectors size sectors (data.drop size)

@[simp] theorem length_programSectors (size : ℕ) (sectors : List (List UInt8))
    (data : List UInt8) : (programSectors size sectors data).length = sectors.length := by
  induction sectors generalizing data with
  | nil => rfl
  | cons sector sectors ih => simp only [programSectors, List.length_cons, ih]

/-- Program a range that starts with the bank. -/
def programBank (size : ℕ) (bank : Bank count) (data : List UInt8) : Bank count :=
  ⟨(programSectors size bank.toList data).toArray, by simp⟩

theorem flatten_programSectors (size number : ℕ) (data : List UInt8)
    (fits : data.length ≤ number * size) :
    ∃ rest, (programSectors size (List.replicate number (erased size)) data).flatten =
      data ++ rest := by
  induction number generalizing data with
  | zero =>
      rw [Nat.zero_mul, Nat.le_zero, List.length_eq_zero_iff] at fits
      exact ⟨[], by simp [fits, programSectors]⟩
  | succ number ih =>
      obtain ⟨rest, later⟩ := ih (data.drop size) (by
        rw [List.length_drop]
        rw [Nat.succ_mul] at fits
        omega)
      rw [List.replicate_succ, programSectors, List.flatten_cons, later,
        program_erased _ _ (by rw [List.length_take]; exact Nat.min_le_left _ _)]
      by_cases short : data.length ≤ size
      · exact ⟨_, by rw [List.take_of_length_le short, List.append_assoc]⟩
      · have full : (data.take size).length = size := by
          rw [List.length_take]
          omega
        refine ⟨rest, ?_⟩
        rw [full, erased, List.drop_replicate, Nat.sub_self, List.replicate_zero, List.append_nil,
          ← List.append_assoc, List.take_append_drop]

/-- Data programmed into an erased bank reads back as written. -/
theorem bytes_programBank_blank {size : ℕ} {data : List UInt8}
    (fits : data.length ≤ count * size) :
    ∃ rest, bytes (programBank size (blank count size) data) = data ++ rest := by
  have sectors : (programBank size (blank count size) data).toList =
      programSectors size (List.replicate count (erased size)) data := by
    simp [programBank, blank, Vector.toList]
  rw [bytes, sectors]
  exact flatten_programSectors size count data fits

/-! ## Sealed snapshots in such banks -/

section Format

variable {Body : Type} (scheme : SealScheme Body) {size : ℕ}
  (fits : scheme.layout.size ≤ count * size)

include fits in
/-- A snapshot written to a blank bank is read back. -/
theorem decode_programBank (snapshot : Sealed Body) :
    scheme.layout.decode (bytes (programBank size (blank count size)
      (scheme.layout.encode snapshot))) = snapshot := by
  have within : (scheme.layout.encode snapshot).length ≤ count * size := by
    rw [Codec.encode_length]
    exact fits
  obtain ⟨rest, written⟩ := bytes_programBank_blank within
  rw [written, Codec.decode_encode]

/-- The format of a store whose banks have several sectors. -/
def format : Format (Bank count) (Sealed Body) where
  blank := blank count size
  write snapshot bank := programBank size bank (scheme.layout.encode snapshot)
  read bank := scheme.layout.decode (bytes bank)
  isValid bank := scheme.isValid (bytes bank)
  stamp := scheme.stamp
  generation snapshot := scheme.generation snapshot.body
  read_write := decode_programBank scheme fits
  generation_stamp := scheme.generation_stamp

theorem format_isValid_stamp (candidate : Sealed Body) :
    (format scheme fits).isValid ((format scheme fits).write
        ((format scheme fits).stamp candidate) (format scheme fits).blank) =
      scheme.accepts (scheme.mark candidate.body) := by
  have within : (scheme.layout.encode (scheme.stamp candidate)).length ≤ count * size := by
    rw [Codec.encode_length]
    exact fits
  obtain ⟨rest, written⟩ := bytes_programBank_blank within
  refine Eq.trans ?_ (scheme.isValid_stamp candidate rest)
  exact congrArg scheme.isValid written

theorem format_load_accepts {bank : Bank count} {snapshot : Sealed Body}
    (loaded : (format scheme fits).load bank = some snapshot) :
    scheme.accepts snapshot.body = true := by
  obtain ⟨valid, rfl⟩ := load_eq_some.mp loaded
  exact scheme.isValid_accepts valid

end Format

end HealthCheckFirmware.MultiSector
