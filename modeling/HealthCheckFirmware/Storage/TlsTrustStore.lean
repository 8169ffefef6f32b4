import HealthCheckFirmware.Lib.MultiSector
import HealthCheckFirmware.Storage.Sector

/-!
# The trust store

The store of `tls_trust_store.c`: up to six CA certificates, kept in two banks of
four sectors each. Two earlier layouts live in banks of their own, which are only
read. Unlike its siblings the store takes over what it reads back after a save,
and does not compare the generation it finds there.

What the TLS library finds in a certificate is a parameter (`Examination`).
`machine` presents the store as an instance of the two-bank scheme
(`machine_lawful`): as long as failures are reported, what is read back is the
candidate, and the store saves as its siblings do (`save_eq`).
-/

set_option autoImplicit false

namespace HealthCheckFirmware.TlsTrustStore

open TwoBank MultiSector

/-! ## Anchors and snapshots -/

def maxDerSize : ℕ := 2048
def subjectSize : ℕ := 128
def bankSectors : ℕ := 4
def previousBankSectors : ℕ := 3
def legacyBankSectors : ℕ := 2
def previousMaxPersisted : ℕ := 5
def legacyMaxPersisted : ℕ := 3

/-- `TlsTrustStore_StatusTypeDef`. -/
inductive Status where
  | ok
  | invalidArgument
  | invalidCertificate
  | noMemory
  | notCa
  | notFound
  | full
  | storageError
  deriving DecidableEq, Repr

/-- `TlsTrustStore_AnchorTypeDef`. -/
structure Anchor where
  occupied : UInt8
  reserved : UInt8
  derLength : UInt16
  subject : Vector UInt8 subjectSize
  der : Vector UInt8 maxDerSize
  deriving DecidableEq

def Anchor.codec : Codec Anchor :=
  Codec.record (.seq .u8 (.seq .u8 (.seq .u16 (.seq (.bytes subjectSize) (.bytes maxDerSize)))))
    (fun ⟨occupied, reserved, derLength, subject, der⟩ =>
      ⟨occupied, reserved, derLength, subject, der⟩)
    (fun anchor => (anchor.occupied, anchor.reserved, anchor.derLength, anchor.subject,
      anchor.der))
    (fun _ => rfl)

/-- An anchor slot of zero bytes. -/
def Anchor.zero : Anchor := ⟨0, 0, 0, .replicate subjectSize 0, .replicate maxDerSize 0⟩

/-- The fields of a snapshot that its checksum covers, for any number of slots:
the three layouts differ in nothing else. -/
structure Body (count : ℕ) where
  magic : UInt32
  version : UInt16
  reserved : UInt16
  generation : UInt32
  anchors : Vector Anchor count
  deriving DecidableEq

def Body.codec (count : ℕ) : Codec (Body count) :=
  Codec.record (.seq .u32 (.seq .u16 (.seq .u16 (.seq .u32 (.array count Anchor.codec)))))
    (fun ⟨magic, version, reserved, generation, anchors⟩ =>
      ⟨magic, version, reserved, generation, anchors⟩)
    (fun body => (body.magic, body.version, body.reserved, body.generation, body.anchors))
    (fun _ => rfl)

abbrev CurrentBody := Body maxPersisted
abbrev Snapshot := Sealed CurrentBody

def magic : UInt32 := 0x54525354
def currentVersion : UInt16 := 3
def previousVersion : UInt16 := 2
def legacyVersion : UInt16 := 1

/-- `tlsTrustStore_Crc`. -/
def crc : List UInt8 → UInt32 := crc32

/-- The test of one slot: an occupied one has a length in range and a terminated
subject. -/
def Anchor.isValid (anchor : Anchor) : Bool :=
  !(anchor.occupied != 0 && (anchor.derLength == 0 || decide (maxDerSize < anchor.derLength.toNat)
    || !anchor.subject.toList.contains 0))

/-- The tests that the three validity functions share, but for the checksum. -/
def accepts {count : ℕ} (version : UInt16) (candidate : Body count) : Bool :=
  candidate.magic == magic && candidate.version == version
    && candidate.anchors.toList.all Anchor.isValid

/-- The fields that `tlsTrustStore_CommitCandidate` sets before it computes the
checksum. -/
def mark {count : ℕ} (version : UInt16) (candidate : Body count) : Body count :=
  { candidate with
    magic := magic, version := version, reserved := 0, generation := candidate.generation + 1 }

/-- A layout of a given version. -/
def schemeOf (version : UInt16) (count : ℕ) : SealScheme (Body count) where
  codec := Body.codec count
  checksum := crc
  accepts := accepts version
  mark := mark version
  generation := Body.generation
  generation_mark _ := rfl

/-- `tlsTrustStore_IsSnapshotValid` is the test of this scheme. -/
def scheme : SealScheme CurrentBody := schemeOf currentVersion maxPersisted

/-- `tlsTrustStore_IsPreviousSnapshotValid`. -/
def previousScheme : SealScheme (Body previousMaxPersisted) :=
  schemeOf previousVersion previousMaxPersisted

/-- `tlsTrustStore_IsLegacySnapshotValid`. -/
def legacyScheme : SealScheme (Body legacyMaxPersisted) :=
  schemeOf legacyVersion legacyMaxPersisted

theorem fits : scheme.layout.size ≤ bankSectors * sectorSize := by decide

abbrev TrustBank := Bank bankSectors

def format : Format TrustBank Snapshot := MultiSector.format scheme fits

/-! ## Saving -/

abbrev Ram := Store TrustBank Snapshot

/-- How the flash operations of one save end: one erase for each sector, the
program of the whole snapshot and the read that verifies it. -/
structure BankFaults where
  erase : Fin bankSectors → Fate Sector
  program : Fate TrustBank
  verify : Bool

/-- The erase and program calls of a save: the bank they leave and what the code
learns of them. -/
def writeBank (faults : BankFaults) (bank : TrustBank) (candidate : Snapshot) :
    TrustBank × Progress :=
  let erased := MultiSector.erase sectorSize faults.erase bank
  match erased.2 with
  | .ok =>
      (faults.program.leaves (programBank sectorSize erased.1 (scheme.layout.encode candidate)),
        faults.program.progress)
  | progress => (erased.1, progress)

/-- `tlsTrustStore_Save`. What is read back becomes the snapshot in memory. -/
def save (faults : BankFaults) (ram : Ram) (candidate : Snapshot) : Ram × Outcome Snapshot :=
  let target := ram.active.other
  let image := (writeBank faults (ram.banks.get target) candidate).1
  let banks := ram.banks.set target image
  match (writeBank faults (ram.banks.get target) candidate).2 with
  | .powerLost => ({ ram with banks := banks }, .lost candidate)
  | .error => ({ ram with banks := banks }, .failed)
  | .ok =>
      if faults.verify && format.isValid image then
        (⟨banks, format.read image, target⟩, .saved (format.read image))
      else ({ ram with banks := banks }, .failed)

/-- `tlsTrustStore_CommitCandidate`. -/
def commitCandidate (faults : BankFaults) (ram : Ram) (candidate : Snapshot) :
    Ram × Outcome Snapshot :=
  save faults ram (format.stamp candidate)

/-! ## Mutations -/

/-- What the TLS library makes of a certificate: it does not parse, it is not a CA
certificate that may sign others, or it is one with the given subject, if that
can be written out at all. -/
inductive Examination where
  | unparsable
  | notCa
  | authority (subject : Option (List UInt8))

/-- `tlsTrustStore_ValidateDer`. Parsing may also fail for want of memory. -/
def validateDer (examine : List UInt8 → Examination) (der : List UInt8) (memory : Bool) :
    Except Status Anchor :=
  if der.length = 0 ∨ maxDerSize < der.length then .error .invalidArgument
  else if memory = false then .error .noMemory
  else
    match examine der with
    | .unparsable => .error .invalidCertificate
    | .notCa => .error .notCa
    | .authority none => .error .invalidCertificate
    | .authority (some subject) =>
        if subject.length = 0 ∨ subjectSize ≤ subject.length then .error .invalidCertificate
        else .ok
          { occupied := 1
            reserved := 0
            derLength := UInt16.ofNat der.length
            subject := fillBuffer subjectSize subject
            der := Vector.ofFn fun index : Fin maxDerSize => der.getD index 0 }

/-- The snapshot with one slot replaced. -/
def Body.withAnchor (body : CurrentBody) (index : ℕ) (anchor : Anchor) : CurrentBody :=
  { body with anchors := body.anchors.setIfInBounds index anchor }

/-- The slot of an anchor number, when that is in range. -/
def slotOf (id : UInt8) : Option ℕ :=
  if id < minId ∨ maxPersisted < id.toNat then none else some (id.toNat - 1)

/-- The anchor in a slot, when it is occupied. -/
def occupiedAnchor (body : CurrentBody) (index : ℕ) : Option Anchor :=
  (body.anchors.toList)[index]?.filter (·.occupied ≠ 0)

/-- The first slot that is not occupied. -/
def firstFree (body : CurrentBody) : Option ℕ := body.anchors.toList.findIdx? (·.occupied == 0)

/-- A mutating call. The parsing of a certificate may run out of memory. -/
inductive Request where
  | add (der : List UInt8) (memory : Bool)
  | replace (id : UInt8) (der : List UInt8) (memory : Bool)
  | delete (id : UInt8)
  | reset

/-- The candidate of `TlsTrustStore_Add`. -/
def addCandidate (examine : List UInt8 → Examination) (body : CurrentBody) (der : List UInt8)
    (memory : Bool) : Except Status CurrentBody :=
  match firstFree body with
  | none => .error .full
  | some index => (validateDer examine der memory).map (body.withAnchor index)

/-- The occupied slot of an anchor number, as replacing and deleting look it up. -/
def occupiedSlot (body : CurrentBody) (id : UInt8) : Option ℕ :=
  (slotOf id).filter fun index => (occupiedAnchor body index).isSome

/-- The candidate of `TlsTrustStore_Replace`. -/
def replaceCandidate (examine : List UInt8 → Examination) (body : CurrentBody) (id : UInt8)
    (der : List UInt8) (memory : Bool) : Except Status CurrentBody :=
  match occupiedSlot body id with
  | none => .error .notFound
  | some index => (validateDer examine der memory).map (body.withAnchor index)

/-- The candidate of `TlsTrustStore_Delete`. -/
def deleteCandidate (body : CurrentBody) (id : UInt8) : Except Status CurrentBody :=
  match occupiedSlot body id with
  | none => .error .notFound
  | some index => .ok (body.withAnchor index Anchor.zero)

/-- The candidate of `TlsTrustStore_Reset`. -/
def resetCandidate (body : CurrentBody) : CurrentBody :=
  ⟨0, 0, 0, body.generation, .replicate maxPersisted Anchor.zero⟩

/-- The body that a call proposes. -/
def amend (examine : List UInt8 → Examination) (body : CurrentBody) :
    Request → Except Status CurrentBody
  | .add der memory => addCandidate examine body der memory
  | .replace id der memory => replaceCandidate examine body id der memory
  | .delete id => deleteCandidate body id
  | .reset => .ok (resetCandidate body)

def propose (examine : List UInt8 → Examination) (ram : Ram) (request : Request) :
    Except Status Snapshot :=
  Sealed.propose ram.snapshot.crc (amend examine ram.snapshot.body request)

/-- A mutating call with its flash operations. -/
def mutate (examine : List UInt8 → Examination) (ram : Ram) (request : Request)
    (faults : BankFaults) : Ram × Ending Status Snapshot :=
  match propose examine ram request with
  | .error status => (ram, .refused status)
  | .ok candidate => Prod.map id Outcome.ending (commitCandidate faults ram candidate)

/-- The status that a mutating call returns. Nothing is returned when the power
is lost, so the value given there is never seen. -/
def status : Ending Status Snapshot → Status
  | .refused status => status
  | .saved _ => .ok
  | .failed => .storageError
  | .lost _ => .storageError

/-! ## Start-up and queries -/

/-- The bytes of the banks of the two earlier layouts, which are never written. -/
structure OlderBanks where
  previousA : List UInt8
  previousB : List UInt8
  legacyA : List UInt8
  legacyB : List UInt8

/-- `tlsTrustStore_ReadPreviousSnapshot` and `tlsTrustStore_ReadLegacySnapshot`. -/
def readOlder {count : ℕ} (scheme : SealScheme (Body count)) (readable : Bool)
    (bytes : List UInt8) : Option (Body count) :=
  if readable && scheme.isValid bytes then some (scheme.layout.decode bytes).body else none

/-- The newer of two earlier snapshots; here the second bank wins a tie. -/
def pickLater {count : ℕ} (first second : Option (Body count)) : Option (Body count) :=
  match first, second with
  | some first, some second =>
      if second.generation ≥ first.generation then some second else some first
  | some first, none => some first
  | none, second => second

/-- `tlsTrustStore_MigratePrevious` and `tlsTrustStore_MigrateLegacy`. -/
def migrate {count : ℕ} (source : Body count) : CurrentBody :=
  { magic := 0
    version := 0
    reserved := 0
    generation := source.generation
    anchors := Vector.ofFn fun index : Fin maxPersisted =>
      (source.anchors.toList)[index.val]?.getD Anchor.zero }

/-- The store without any anchor. -/
def emptyBody : CurrentBody := ⟨0, 0, 0, 0, .replicate maxPersisted Anchor.zero⟩

/-- The last step of a start-up that found no current snapshot. -/
def commitAtStart (faults : BankFaults) (ram : Ram) (body : CurrentBody) : Ram × Start Snapshot :=
  Prod.map id Outcome.start (commitCandidate faults ram ⟨body, 0⟩)

/-- `TlsTrustStore_Init`. The first bank, when chosen, is read a second time. -/
def init (older : OlderBanks) (banks : Banks TrustBank) (boot : BootFaults BankFaults) :
    Ram × Start Snapshot :=
  match format.pick (format.loadIf (boot.reads 0) banks.a)
      (format.loadIf (boot.reads 1) banks.b) with
  | some (.a, snapshot) =>
      match format.loadIf (boot.reads 2) banks.a with
      | some again => (⟨banks, again, .a⟩, .ready)
      | none => (⟨banks, snapshot, .a⟩, .failed)
  | some (.b, snapshot) => (⟨banks, snapshot, .b⟩, .ready)
  | none =>
  match pickLater (readOlder previousScheme (boot.reads 2) older.previousA)
      (readOlder previousScheme (boot.reads 3) older.previousB) with
  | some previous =>
      commitAtStart boot.save ⟨banks, ⟨migrate previous, 0⟩, .a⟩ (migrate previous)
  | none =>
  match pickLater (readOlder legacyScheme (boot.reads 4) older.legacyA)
      (readOlder legacyScheme (boot.reads 5) older.legacyB) with
  | some legacy => commitAtStart boot.save ⟨banks, ⟨migrate legacy, 0⟩, .b⟩ (migrate legacy)
  | none => commitAtStart boot.save ⟨banks, format.read banks.a, .b⟩ emptyBody

/-- `TlsTrustStore_Exists`. -/
def anchorExists (ram : Ram) (id : UInt8) : Bool :=
  match slotOf id with
  | none => false
  | some index => (occupiedAnchor ram.snapshot.body index).isSome

/-- What a listing shows of an anchor. -/
structure Info where
  id : ℕ
  derLength : UInt16
  subject : List UInt8

/-- `TlsTrustStore_List`. -/
def list (ram : Ram) (capacity : ℕ) : List Info :=
  ((ram.snapshot.body.anchors.toList.zipIdx.filter (·.1.occupied ≠ 0)).map fun (anchor, index) =>
    ⟨index + 1, anchor.derLength, (bufferString anchor.subject).take (subjectSize - 1)⟩).take
      capacity

/-! ## The store as an instance of the two-bank scheme -/

/-- How the erase of the whole bank, its program and its read-back end. -/
def saveFates (target : TrustBank) (faults : BankFaults) : SaveFates TrustBank :=
  ⟨eraseFate sectorSize faults.erase target, faults.program, faults.verify⟩

def machine (examine : List UInt8 → Examination) (older : OlderBanks) :
    SnapshotStore TrustBank where
  Snapshot := Snapshot
  Ram := Ram
  Request := Request
  Status := Status
  Faults := BankFaults
  Contents := Vector Anchor maxPersisted
  format := format
  store ram := ram
  fates := saveFates
  propose := propose examine
  mutate := mutate examine
  start := init older
  older _ := false
  empty := scheme.stamp ⟨emptyBody, 0⟩
  persists := some ⟨emptyBody, 0⟩
  contents ram := ram.snapshot.body.anchors
  loaded snapshot := snapshot.body.anchors
  absent := emptyBody.anchors

/-- The writes of a save, seen as those of one erase and one program. -/
theorem attempt_eq (faults : BankFaults) (bank : TrustBank) (candidate : Snapshot) :
    format.attempt (saveFates bank faults) candidate = writeBank faults bank candidate := by
  have leaves : (saveFates bank faults).erase.leaves format.blank =
      (MultiSector.erase sectorSize faults.erase bank).1 :=
    eraseFate_leaves sectorSize faults.erase bank
  have progress : (saveFates bank faults).erase.progress =
      (MultiSector.erase sectorSize faults.erase bank).2 :=
    eraseFate_progress sectorSize faults.erase bank
  simp only [Format.attempt, writeBank, leaves, progress]
  rfl

/-- When failures are reported, what is read back is the candidate, and the save
is that of the two-bank scheme. -/
theorem save_eq {faults : BankFaults} {ram : Ram}
    (honest : (saveFates (ram.banks.get ram.active.other) faults).Honest) (candidate : Snapshot) :
    commitCandidate faults ram candidate =
      format.save (saveFates (ram.banks.get ram.active.other) faults) ram candidate := by
  have writes := attempt_eq faults (ram.banks.get ram.active.other) (format.stamp candidate)
  simp only [commitCandidate, save, Format.save, writes]
  cases progress : (writeBank faults (ram.banks.get ram.active.other) (format.stamp candidate)).2
    with
  | ok =>
      have image := attempt_ok honest ((congrArg Prod.snd writes).trans progress)
      rw [writes] at image
      simp only [image, format.read_write, Format.verifies, beq_self_eq_true, Bool.and_true]
      rfl
  | error => rfl
  | powerLost => rfl

variable {examine : List UInt8 → Examination}

/-- A validated certificate is an occupied slot that passes the test of slots. -/
theorem validateDer_ok {der : List UInt8} {memory : Bool} {anchor : Anchor}
    (valid : validateDer examine der memory = .ok anchor) :
    anchor.occupied = 1 ∧ anchor.isValid = true := by
  unfold validateDer at valid
  split at valid
  · cases valid
  rename_i range
  split at valid
  · cases valid
  cases verdict : examine der with
  | unparsable => simp [verdict] at valid
  | notCa => simp [verdict] at valid
  | authority subject =>
      cases subject with
      | none => simp [verdict] at valid
      | some subject =>
          simp only [verdict] at valid
          split at valid
          · cases valid
          rename_i subjectRange
          simp only [not_or, Nat.not_lt, Nat.not_le, maxDerSize] at range subjectRange
          cases valid
          refine ⟨rfl, ?_⟩
          have length : (UInt16.ofNat der.length).toNat = der.length :=
            Nat.mod_eq_of_lt (by omega)
          have nonzero : UInt16.ofNat der.length ≠ 0 := by
            intro zero
            rw [zero] at length
            exact range.1 length.symm
          have terminated := zero_mem_fillBuffer (Nat.zero_lt_of_lt subjectRange.2) subject
          simp [Anchor.isValid, length, nonzero, maxDerSize, range.2, terminated]

/-- The four ways in which a call amends the anchors. -/
theorem amend_cases {body candidate : CurrentBody} {request : Request}
    (amended : amend examine body request = .ok candidate) :
    (∃ der memory index anchor, request = .add der memory ∧ firstFree body = some index
        ∧ validateDer examine der memory = .ok anchor
        ∧ candidate = body.withAnchor index anchor)
      ∨ (∃ id der memory index anchor, request = .replace id der memory
        ∧ occupiedSlot body id = some index ∧ validateDer examine der memory = .ok anchor
        ∧ candidate = body.withAnchor index anchor)
      ∨ (∃ id index, request = .delete id ∧ occupiedSlot body id = some index
        ∧ candidate = body.withAnchor index Anchor.zero)
      ∨ (request = .reset ∧ candidate = resetCandidate body) := by
  cases request with
  | add der memory =>
      left
      simp only [amend, addCandidate] at amended
      cases free : firstFree body with
      | none => simp [free] at amended
      | some index =>
          cases valid : validateDer examine der memory with
          | error status => simp [free, valid, Except.map] at amended
          | ok anchor =>
              simp only [free, valid, Except.map] at amended
              cases amended
              exact ⟨der, memory, index, anchor, rfl, rfl, valid, rfl⟩
  | replace id der memory =>
      right; left
      simp only [amend, replaceCandidate] at amended
      cases occupied : occupiedSlot body id with
      | none => simp [occupied] at amended
      | some index =>
          cases valid : validateDer examine der memory with
          | error status => simp [occupied, valid, Except.map] at amended
          | ok anchor =>
              simp only [occupied, valid, Except.map] at amended
              cases amended
              exact ⟨id, der, memory, index, anchor, rfl, occupied, valid, rfl⟩
  | delete id =>
      right; right; left
      simp only [amend, deleteCandidate] at amended
      cases occupied : occupiedSlot body id with
      | none => simp [occupied] at amended
      | some index =>
          rw [occupied] at amended
          cases amended
          exact ⟨id, index, rfl, occupied, rfl⟩
  | reset =>
      right; right; right
      cases amended
      exact ⟨rfl, rfl⟩

theorem generation_amend {body candidate : CurrentBody} {request : Request}
    (amended : amend examine body request = .ok candidate) :
    candidate.generation = body.generation := by
  rcases amend_cases amended with ⟨_, _, _, _, _, _, _, same⟩ | ⟨_, _, _, _, _, _, _, _, same⟩ |
    ⟨_, _, _, _, same⟩ | ⟨_, same⟩ <;> rw [same] <;> rfl

/-- The invariant of the snapshot in memory: every slot passes its test. -/
def Body.WellFormed {count : ℕ} (body : Body count) : Prop :=
  ∀ anchor ∈ body.anchors.toList, anchor.isValid = true

theorem zero_isValid : Anchor.zero.isValid = true := rfl

theorem wellFormed_withAnchor {body : CurrentBody} (wellFormed : body.WellFormed) {anchor : Anchor}
    (valid : anchor.isValid = true) (index : ℕ) : (body.withAnchor index anchor).WellFormed := by
  intro other member
  simp only [Body.withAnchor, Vector.toList_setIfInBounds] at member
  rcases List.mem_or_eq_of_mem_set member with kept | rfl
  · exact wellFormed other kept
  · exact valid

theorem wellFormed_reset (body : CurrentBody) : (resetCandidate body).WellFormed := by
  intro anchor member
  simp only [resetCandidate, Vector.toList_replicate, List.mem_replicate] at member
  rw [member.2]
  exact zero_isValid

/-- The empty store can be saved. -/
theorem emptyBody_valid :
    format.isValid (format.write (format.stamp ⟨emptyBody, 0⟩) format.blank) = true := by
  refine (format_isValid_stamp scheme fits _).trans ?_
  simp only [scheme, schemeOf, accepts, mark, beq_self_eq_true, Bool.true_and, List.all_eq_true]
  exact wellFormed_reset emptyBody

theorem wellFormed_amend {body candidate : CurrentBody} {request : Request}
    (amended : amend examine body request = .ok candidate) (wellFormed : body.WellFormed) :
    candidate.WellFormed := by
  rcases amend_cases amended with ⟨_, _, _, _, _, _, valid, same⟩ |
    ⟨_, _, _, _, _, _, _, valid, same⟩ | ⟨_, _, _, _, same⟩ | ⟨_, same⟩ <;> rw [same]
  · exact wellFormed_withAnchor wellFormed (validateDer_ok valid).2 _
  · exact wellFormed_withAnchor wellFormed (validateDer_ok valid).2 _
  · exact wellFormed_withAnchor wellFormed zero_isValid _
  · exact wellFormed_reset body

variable {older : OlderBanks}

theorem init_found {banks : Banks TrustBank} {boot : BootFaults BankFaults}
    (readable : boot.Readable) {side : Side} {snapshot : Snapshot}
    (newest : format.newest banks = some (side, snapshot)) :
    init older banks boot = (⟨banks, snapshot, side⟩, .ready) := by
  have loads := newest_loads newest
  rw [Format.newest] at newest
  cases side with
  | a => simp_all [init, Format.loadIf, readable 0, readable 1, readable 2, Banks.get]
  | b => simp [init, Format.loadIf, readable 0, readable 1, newest]

/-- A start-up that commits a snapshot leaves the bank it wrote to in step. -/
theorem commitAtStart_rooted {faults : BankFaults} {ram : Ram} {body : CurrentBody}
    (honest : ∀ bank, (saveFates bank faults).Honest)
    (ready : (commitAtStart faults ram body).2 = .ready) :
    (machine examine older).Rooted (commitAtStart faults ram body).1 := by
  unfold commitAtStart at ready ⊢
  rw [save_eq (honest _)] at ready ⊢
  rcases format.save_cases (honest _) ram ⟨body, 0⟩ with
    ⟨_, valid, result⟩ | ⟨_, _, _, result⟩ | ⟨left, _, result⟩ | ⟨left, _, result⟩
  · rw [result]
    exact .inl ⟨by simpa [machine] using load_write valid, rfl⟩
  all_goals
    rw [result] at ready
    cases ready

theorem init_rooted {banks : Banks TrustBank} {boot : BootFaults BankFaults}
    (honest : ∀ bank, (saveFates bank boot.save).Honest)
    (ready : (init older banks boot).2 = .ready) :
    (machine examine older).Rooted (init older banks boot).1 := by
  unfold init at ready ⊢
  cases newest : format.pick (format.loadIf (boot.reads 0) banks.a)
      (format.loadIf (boot.reads 1) banks.b) with
  | some found =>
      obtain ⟨side, snapshot⟩ := found
      simp only [newest] at ready ⊢
      cases side with
      | a =>
          -- the first bank is read again, and it is what that read finds that is kept
          cases again : format.loadIf (boot.reads 2) banks.a with
          | some other => exact .inl ⟨load_of_loadIf again, rfl⟩
          | none =>
              simp only [again] at ready
              cases ready
      | b =>
          rcases pickNewer_eq_some newest with ⟨contradiction, _⟩ | ⟨_, loads⟩
          · cases contradiction
          · exact .inl ⟨load_of_loadIf loads, rfl⟩
  | none =>
      simp only [newest] at ready ⊢
      split at ready
      · exact commitAtStart_rooted honest ready
      split at ready
      · exact commitAtStart_rooted honest ready
      · exact commitAtStart_rooted honest ready

theorem mutate_refuses {ram : Ram} {request : Request} {status : Status} (faults : BankFaults)
    (proposed : propose examine ram request = .error status) :
    mutate examine ram request faults = (ram, .refused status) := by
  simp [mutate, proposed]

theorem mutate_saves {ram : Ram} {request : Request} {candidate : Snapshot} {faults : BankFaults}
    (proposed : propose examine ram request = .ok candidate) :
    mutate examine ram request faults =
      Prod.map id Outcome.ending (commitCandidate faults ram candidate) := by
  simp [mutate, proposed]

theorem mutate_saves_honest {ram : Ram} {request : Request} {candidate : Snapshot}
    {faults : BankFaults} (proposed : propose examine ram request = .ok candidate)
    (honest : (saveFates (ram.banks.get ram.active.other) faults).Honest) :
    mutate examine ram request faults = Prod.map id Outcome.ending
      (format.save (saveFates (ram.banks.get ram.active.other) faults) ram candidate) := by
  rw [mutate_saves proposed, save_eq honest]

/-- A save that succeeds puts what it reports in memory. -/
theorem save_saved {faults : BankFaults} {ram : Ram} {candidate snapshot : Snapshot}
    (saved : (save faults ram candidate).2 = .saved snapshot) :
    (save faults ram candidate).1.snapshot = snapshot := by
  unfold save at saved ⊢
  cases progress : (writeBank faults (ram.banks.get ram.active.other) candidate).2 with
  | ok =>
      simp only [progress] at saved ⊢
      split at saved
      · rename_i verified
        rw [if_pos verified]
        cases saved
        rfl
      · cases saved
  | error => simp [progress] at saved
  | powerLost => simp [progress] at saved

/-- A save that does not succeed leaves the snapshot in memory. -/
theorem save_unsaved {faults : BankFaults} {ram : Ram} {candidate : Snapshot}
    (unsaved : ∀ snapshot, (save faults ram candidate).2 ≠ .saved snapshot) :
    (save faults ram candidate).1.snapshot = ram.snapshot := by
  unfold save at unsaved ⊢
  cases progress : (writeBank faults (ram.banks.get ram.active.other) candidate).2 with
  | ok =>
      simp only [progress] at unsaved ⊢
      split at unsaved
      · exact absurd rfl (unsaved _)
      · rename_i unverified
        rw [if_neg unverified]
  | error => simp [progress]
  | powerLost => simp [progress]

theorem mutate_saved {ram : Ram} {request : Request} {faults : BankFaults} {snapshot : Snapshot}
    (saved : (mutate examine ram request faults).2 = .saved snapshot) :
    (mutate examine ram request faults).1.snapshot = snapshot := by
  cases proposed : propose examine ram request with
  | error status =>
      rw [mutate_refuses faults proposed] at saved
      cases saved
  | ok candidate =>
      rw [mutate_saves proposed] at saved ⊢
      exact save_saved (Outcome.ending_eq_saved.mp saved)

theorem mutate_unsaved {ram : Ram} {request : Request} {faults : BankFaults}
    (unsaved : ∀ snapshot, (mutate examine ram request faults).2 ≠ .saved snapshot) :
    (mutate examine ram request faults).1.snapshot = ram.snapshot := by
  cases proposed : propose examine ram request with
  | error status => rw [mutate_refuses faults proposed]
  | ok candidate =>
      rw [mutate_saves proposed] at unsaved ⊢
      exact save_unsaved fun snapshot saved =>
        unsaved snapshot (Outcome.ending_eq_saved.mpr saved)

theorem machine_lawful (examine : List UInt8 → Examination) (older : OlderBanks) :
    (machine examine older).Lawful where
  generation_propose proposed := generation_amend (Sealed.of_propose proposed)
  mutate_refuses faults proposed := by
    have refused := mutate_refuses faults proposed
    exact ⟨congrArg Prod.fst refused, congrArg Prod.snd refused⟩
  mutate_saves proposed honest := mutate_saves_honest proposed honest
  contents_saved saved := congrArg (·.body.anchors) (mutate_saved saved)
  contents_kept unsaved := congrArg (·.body.anchors) (mutate_unsaved unsaved)
  start_found {banks boot side snapshot} readable newest := by
    have started : init older banks boot = _ := init_found readable newest
    simp [machine, started]
  start_fresh := nofun
  start_rooted honest ready := init_rooted honest ready
  stamped_valid {ram request candidate} rooted proposed := by
    have loads : format.load (ram.banks.get ram.active) = some ram.snapshot := by
      rcases rooted with ⟨loads, _⟩ | ⟨persists, _⟩
      · exact loads
      · cases persists
    have kept : candidate.body.WellFormed := by
      refine wellFormed_amend (Sealed.of_propose proposed) ?_
      have accepted := format_load_accepts scheme fits loads
      simp only [scheme, schemeOf, accepts, Bool.and_eq_true, List.all_eq_true] at accepted
      exact accepted.2
    refine (format_isValid_stamp scheme fits candidate).trans ?_
    simp only [scheme, schemeOf, accepts, mark, beq_self_eq_true, Bool.true_and, List.all_eq_true]
    exact kept
  loaded_stamp _ := rfl

end HealthCheckFirmware.TlsTrustStore
