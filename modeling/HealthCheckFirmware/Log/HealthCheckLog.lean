import HealthCheckFirmware.Lib.SlotScan
import HealthCheckFirmware.Storage.Sector

/-!
# The health-check log

The log of `health_check_log.c`: a ring of two flash sectors, each a run of slots
of one record. Records are programmed into one slot after another and a sector is
erased only when the ring comes round to it. In memory there are the active
sector, the next slot in it and the next sequence number; a start-up finds them
again by scanning both sectors.

A slot whose sequence field has all bits set counts as erased, whatever its other
bytes hold. A slot that is not erased and fails the magic or the checksum is torn
and is passed over.
-/

set_option autoImplicit false

namespace HealthCheckFirmware

/-- `TlsTransport_StatusTypeDef`. -/
inductive TlsTransport.Status where
  | ok
  | dnsError
  | connectError
  | configError
  | certificateError
  | handshakeError
  | ioError
  | protocolError
  deriving DecidableEq, Repr

def TlsTransport.Status.code : TlsTransport.Status → UInt8
  | .ok => 0
  | .dnsError => 1
  | .connectError => 2
  | .configError => 3
  | .certificateError => 4
  | .handshakeError => 5
  | .ioError => 6
  | .protocolError => 7

/-- `TlsTransport_ResultTypeDef`, the fields that the log records. -/
structure TlsTransport.Result where
  status : TlsTransport.Status
  detail : Int32
  httpStatus : UInt16
  elapsedMs : UInt32
  certificateExpiresAt : UInt32
  deriving DecidableEq

namespace HealthCheckLog

open TwoBank SlotScan

/-! ## Records -/

/-- `HEALTH_CHECK_LOG_ERASED_SEQUENCE`. -/
def erasedSequence : UInt32 := 0xFFFFFFFF

/-- `HEALTH_CHECK_LOG_RECORD_MAGIC`. -/
def recordMagic : UInt32 := 0x48434C32

/-- `HEALTH_CHECK_LOG_EXPIRING_SECONDS`. -/
def expiringSeconds : UInt32 := 10 * 24 * 60 * 60

/-- The fields of `healthCheckLog_RecordTypeDef` that its checksum covers. -/
structure Body where
  magic : UInt32
  sequence : UInt32
  timestampUnix : UInt32
  elapsedMs : UInt32
  detail : Int32
  certificateExpiresAt : UInt32
  certificateDaysLeft : Int32
  httpStatus : UInt16
  resourceIndex : UInt8
  status : UInt8
  certificateAnchorId : UInt8
  certificateExpiring : UInt8
  reserved : Vector UInt8 2
  deriving DecidableEq

/-- A 32-bit signed word in two's complement. -/
def i32 : Codec Int32 :=
  Codec.record Codec.u32 UInt32.toInt32 Int32.toUInt32 (fun _ => rfl)

def Body.codec : Codec Body :=
  Codec.record
    (.seq .u32 (.seq .u32 (.seq .u32 (.seq .u32 (.seq i32 (.seq .u32 (.seq i32 (.seq .u16
      (.seq .u8 (.seq .u8 (.seq .u8 (.seq .u8 (.bytes 2)))))))))))))
    (fun ⟨magic, sequence, timestampUnix, elapsedMs, detail, certificateExpiresAt,
        certificateDaysLeft, httpStatus, resourceIndex, status, certificateAnchorId,
        certificateExpiring, reserved⟩ =>
      ⟨magic, sequence, timestampUnix, elapsedMs, detail, certificateExpiresAt,
        certificateDaysLeft, httpStatus, resourceIndex, status, certificateAnchorId,
        certificateExpiring, reserved⟩)
    (fun body => (body.magic, body.sequence, body.timestampUnix, body.elapsedMs, body.detail,
      body.certificateExpiresAt, body.certificateDaysLeft, body.httpStatus, body.resourceIndex,
      body.status, body.certificateAnchorId, body.certificateExpiring, body.reserved))
    (fun _ => rfl)

abbrev Record := Sealed Body

/-- The layout of a record: the body, then the checksum. -/
def layout : Codec Record :=
  Codec.record (.seq Body.codec .u32) (fun fields => ⟨fields.1, fields.2⟩)
    (fun record => (record.body, record.crc)) (fun _ => rfl)

/-- The size of a record, which the source asserts. -/
def recordSize : ℕ := 40

theorem layout_size : layout.size = recordSize := rfl

/-- `HEALTH_CHECK_LOG_SLOTS_PER_SECTOR`. -/
def slotsPerSector : ℕ := sectorSize / recordSize

/-- `HealthCheckLog_EntryTypeDef`. -/
structure Entry where
  sequence : UInt32
  timestampUnix : UInt32
  elapsedMs : UInt32
  detail : Int32
  certificateExpiresAt : UInt32
  certificateDaysLeft : Int32
  httpStatus : UInt16
  resourceIndex : UInt8
  status : UInt8
  certificateAnchorId : UInt8
  certificateExpiring : UInt8
  deriving DecidableEq

/-- What a caller is given of a record. -/
def entry (record : Record) : Entry where
  sequence := record.body.sequence
  timestampUnix := record.body.timestampUnix
  elapsedMs := record.body.elapsedMs
  detail := record.body.detail
  certificateExpiresAt := record.body.certificateExpiresAt
  certificateDaysLeft := record.body.certificateDaysLeft
  httpStatus := record.body.httpStatus
  resourceIndex := record.body.resourceIndex
  status := record.body.status
  certificateAnchorId := record.body.certificateAnchorId
  certificateExpiring := record.body.certificateExpiring

/-! ## Slots -/

/-- The bytes of one slot. -/
abbrev Slot := Vector UInt8 recordSize

/-- The bytes a record is written as. -/
def bytes (record : Record) : Slot :=
  ⟨(layout.encode record).toArray, by simp [layout_size]⟩

def blank : Slot := Vector.replicate recordSize 0xFF

/-- Programming a slot can only clear bits. -/
def programSlot (old new : Slot) : Slot := Vector.zipWith (fun old new => old &&& new) old new

/-- The tests that a slot's content undergoes, in the order of the source. -/
def read (slot : Slot) : Reading Record :=
  let record := layout.decode slot.toList
  if record.body.sequence = erasedSequence then .erased
  else if record.body.magic = recordMagic
      ∧ record.crc = crc32 (slot.toList.take Body.codec.size) then .valid record
  else .torn

@[simp] theorem toList_bytes (record : Record) : (bytes record).toList = layout.encode record := by
  simp [bytes]

@[simp] theorem read_blank : read blank = .erased := by
  decide

/-- A completely written record reads as itself. -/
theorem read_bytes (record : Record) (magic : record.body.magic = recordMagic)
    (sequence : record.body.sequence ≠ erasedSequence)
    (sealed : record.crc = crc32 (Body.codec.encode record.body)) :
    read (bytes record) = .valid record := by
  have covered : (layout.encode record).take Body.codec.size = Body.codec.encode record.body :=
    List.take_left' (Body.codec.encode_length record.body)
  simp [read, covered, magic, sequence, sealed]

theorem read_eq_erased {slot : Slot} :
    read slot = .erased ↔ (layout.decode slot.toList).body.sequence = erasedSequence := by
  unfold read
  constructor
  · intro reads
    by_contra used
    simp only [used, if_false] at reads
    split at reads <;> cases reads
  · intro sequence
    simp only [sequence, if_true]

/-- What a slot that reads as valid holds is not the erased sequence number. -/
theorem sequence_of_valid {slot : Slot} {record : Record} (reads : read slot = .valid record) :
    record.body.sequence ≠ erasedSequence := by
  unfold read at reads
  simp only at reads
  split at reads
  · cases reads
  · rename_i used
    split at reads
    · cases reads
      exact used
    · cases reads

theorem programSlot_blank (new : Slot) : programSlot blank new = new := by
  ext index within
  simp [programSlot, blank, ones_and]

/-- The bytes of the sequence field. -/
def sequenceBytes (slot : Slot) : List UInt8 := (slot.toList.drop 4).take 4

theorem length_sequenceBytes (slot : Slot) : (sequenceBytes slot).length = 4 := by
  have size : slot.toList.length = 40 := slot.length_toList
  rw [sequenceBytes, List.length_take, List.length_drop, size]
  rfl

theorem decode_sequence (slot : Slot) :
    (layout.decode slot.toList).body.sequence = UInt32.ofNat (leValue (sequenceBytes slot)) := rfl

theorem sequenceBytes_of_erased {slot : Slot} (reads : read slot = .erased) :
    sequenceBytes slot = List.replicate 4 0xFF := by
  have field := read_eq_erased.mp reads
  rw [decode_sequence] at field
  have bound := leValue_lt (sequenceBytes slot)
  rw [length_sequenceBytes] at bound
  have value : leValue (sequenceBytes slot) = 2 ^ 32 - 1 := by
    have number := congrArg UInt32.toNat field
    rw [UInt32.toNat_ofNat_of_lt' bound] at number
    exact number
  have ones := eq_replicate_of_leValue (sequenceBytes slot)
    (by rw [length_sequenceBytes]; omega)
  rwa [length_sequenceBytes] at ones

/-- Programming a slot that reads as erased sets its sequence field, even if other
bits of it were already cleared. -/
theorem read_programSlot_ne_erased {old : Slot} (reads : read old = .erased) (record : Record)
    (sequence : record.body.sequence ≠ erasedSequence) :
    read (programSlot old (bytes record)) ≠ .erased := by
  have field : sequenceBytes (programSlot old (bytes record)) = sequenceBytes (bytes record) := by
    have old_ones := sequenceBytes_of_erased reads
    have fits := length_sequenceBytes (bytes record)
    unfold sequenceBytes at old_ones fits ⊢
    rw [programSlot, Vector.toList_zipWith, List.drop_zipWith, List.take_zipWith, old_ones,
      zipWith_and_replicate _ 4 (Nat.le_of_eq fits)]
  intro erasedAgain
  have same := read_eq_erased.mp erasedAgain
  rw [decode_sequence, field, ← decode_sequence, toList_bytes, Codec.decode_encode_nil] at same
  exact sequence same

/-- The slots of one sector. The bytes after the last slot are never used. -/
abbrev Slots := Fin slotsPerSector → Slot

def blankSector : Slots := fun _ => blank

/-- The content of a slot, by its number. -/
def slotAt (sector : Slots) (slot : ℕ) : Slot :=
  if within : slot < slotsPerSector then sector ⟨slot, within⟩ else blank

def setSlot (sector : Slots) (slot : ℕ) (content : Slot) : Slots :=
  fun index => if index.val = slot then content else sector index

/-- A sector as a scan sees it. -/
def view (sector : Slots) (slot : ℕ) : Reading Record := read (slotAt sector slot)

theorem view_beyond {sector : Slots} {slot : ℕ} (beyond : slotsPerSector ≤ slot) :
    view sector slot = .erased := by
  rw [view, slotAt, dif_neg (Nat.not_lt.mpr beyond), read_blank]

@[simp] theorem view_blankSector (slot : ℕ) : view blankSector slot = .erased := by
  rw [view, slotAt]
  split <;> exact read_blank

theorem view_setSlot_self {sector : Slots} {slot : ℕ} (content : Slot)
    (within : slot < slotsPerSector) : view (setSlot sector slot content) slot = read content := by
  simp [view, slotAt, setSlot, within]

theorem view_setSlot_other {sector : Slots} {slot other : ℕ} (content : Slot)
    (apart : other ≠ slot) : view (setSlot sector slot content) other = view sector other := by
  simp [view, slotAt, setSlot, apart]

/-- The two sectors; sector 0 is `a`. -/
abbrev Sectors := Banks Slots

/-! ## Scanning -/

/-- The three results of `healthCheckLog_ScanSector`. -/
structure Scan where
  count : ℕ
  next : ℕ
  lastSequence : UInt32
  deriving DecidableEq

/-- The loop of the scan, from a slot on. A slot that cannot be read is passed
over like a torn one. -/
def scanFrom (readable : ℕ → Bool) (sector : Slots) : (slot remaining : ℕ) → Scan → Scan
  | _, 0, scan => scan
  | slot, remaining + 1, scan =>
      if readable slot then
        match view sector slot with
        | .erased => { scan with next := slot }
        | .torn => scanFrom readable sector (slot + 1) remaining { scan with next := slot + 1 }
        | .valid record =>
            scanFrom readable sector (slot + 1) remaining
              ⟨scan.count + 1, slot + 1, record.body.sequence⟩
      else scanFrom readable sector (slot + 1) remaining { scan with next := slot + 1 }

/-- `healthCheckLog_ScanSector`. -/
def scanSector (readable : ℕ → Bool) (sector : Slots) : Scan :=
  scanFrom readable sector 0 slotsPerSector ⟨0, slotsPerSector, 0⟩

/-- The sequence number of the last of some records, or 0. -/
def lastSequence (records : List Record) : UInt32 :=
  (records.getLast?.map (·.body.sequence)).getD 0

theorem scanFrom_readable (sector : Slots) (slot remaining : ℕ) (scan : Scan)
    (starts : 0 < remaining ∨ scan.next = slot) :
    scanFrom (fun _ => true) sector slot remaining scan =
      ⟨scan.count +
          (recordsFrom (view sector) slot (leading (view sector) slot remaining)).length,
        slot + leading (view sector) slot remaining,
        ((recordsFrom (view sector) slot (leading (view sector) slot remaining)).getLast?.map
          (·.body.sequence)).getD scan.lastSequence⟩ := by
  induction remaining generalizing slot scan with
  | zero =>
      rcases starts with positive | same
      · exact absurd positive (Nat.lt_irrefl 0)
      · simp [scanFrom, leading, recordsFrom, ← same]
  | succ remaining ih =>
      rw [scanFrom, if_pos rfl, leading]
      cases reads : view sector slot with
      | erased => simp [Reading.isErased, recordsFrom]
      | torn =>
          simp only [Reading.isErased, Bool.false_eq_true, if_false]
          rw [ih (slot + 1) _ (.inr rfl)]
          simp [recordsFrom, reads, Nat.add_assoc, Nat.add_comm 1]
      | valid record =>
          simp only [Reading.isErased, Bool.false_eq_true, if_false]
          rw [ih (slot + 1) _ (.inr rfl)]
          simp [recordsFrom, reads, Nat.add_assoc, Nat.add_comm 1, List.getLast?_cons]

/-- A scan in which every read succeeds stops at the frontier and counts the
records below it. -/
theorem scanSector_readable (sector : Slots) :
    scanSector (fun _ => true) sector =
      ⟨(records (view sector) (frontier (view sector) slotsPerSector)).length,
        frontier (view sector) slotsPerSector,
        lastSequence (records (view sector) (frontier (view sector) slotsPerSector))⟩ := by
  rw [scanSector, scanFrom_readable _ _ _ _ (.inl (by decide))]
  simp [records, SlotScan.frontier, lastSequence]

/-! ## The log in operation -/

/-- The variables `activeSector`, `nextSlot` and `nextSequence`. -/
structure Ram where
  activeSector : Side
  nextSlot : ℕ
  nextSequence : UInt32
  deriving DecidableEq

structure Log where
  ram : Ram
  sectors : Sectors

/-- `healthCheckLog_RollToSector`. -/
def rollToSector (erase : Fate Slots) (sector : Side) (log : Log) : Progress × Log :=
  let sectors := log.sectors.set sector (erase.leaves blankSector)
  match erase.progress with
  | .ok => (.ok, ⟨{ log.ram with activeSector := sector, nextSlot := 0 }, sectors⟩)
  | progress => (progress, { log with sectors := sectors })

/-- The flash operations of a start-up: which slots can be read, and how the
erase ends. -/
structure InitFaults where
  readable : Side → ℕ → Bool
  erase : Fate Slots

/-- `HealthCheckLog_Init`. Before it the variables hold zero. -/
def init (faults : InitFaults) (sectors : Sectors) : Progress × Log :=
  let first := scanSector (faults.readable .a) sectors.a
  let second := scanSector (faults.readable .b) sectors.b
  if first.count = 0 ∧ second.count = 0 then
    rollToSector faults.erase .a ⟨⟨.a, 0, 1⟩, sectors⟩
  else
    let active := if first.lastSequence ≥ second.lastSequence then Side.a else .b
    let scan := if first.lastSequence ≥ second.lastSequence then first else second
    if scan.next < slotsPerSector then
      (.ok, ⟨⟨active, scan.next, scan.lastSequence + 1⟩, sectors⟩)
    else
      rollToSector faults.erase active.other ⟨⟨.a, 0, scan.lastSequence + 1⟩, sectors⟩

/-- The arguments of `HealthCheckLog_Append`. -/
structure Check where
  resourceIndex : UInt8
  trustAnchorId : UInt8
  timestampUnix : UInt32
  result : TlsTransport.Result
  deriving DecidableEq

/-- The remaining days recorded for a certificate, negative when it is overdue. -/
def daysLeft (expiresAt timestamp : UInt32) : Int32 :=
  if expiresAt = 0 then 0
  else if expiresAt ≤ timestamp then
    -(Int32.ofNat (((timestamp - expiresAt).toNat + 86399) / 86400))
  else Int32.ofNat ((expiresAt - timestamp).toNat / 86400)

/-- Whether a certificate that has not expired is recorded as expiring soon. -/
def expiring (expiresAt timestamp : UInt32) : UInt8 :=
  if expiresAt ≠ 0 ∧ timestamp < expiresAt ∧ expiresAt - timestamp < expiringSeconds then 1 else 0

/-- The body of the record that `HealthCheckLog_Append` builds. -/
def newBody (check : Check) (sequence : UInt32) : Body where
  magic := recordMagic
  sequence := sequence
  timestampUnix := check.timestampUnix
  elapsedMs := check.result.elapsedMs
  detail := check.result.detail
  certificateExpiresAt := check.result.certificateExpiresAt
  certificateDaysLeft := daysLeft check.result.certificateExpiresAt check.timestampUnix
  httpStatus := check.result.httpStatus
  resourceIndex := check.resourceIndex
  status := check.result.status.code
  certificateAnchorId := check.trustAnchorId
  certificateExpiring := expiring check.result.certificateExpiresAt check.timestampUnix
  reserved := Vector.replicate 2 0

/-- The body with its checksum. -/
def newRecord (check : Check) (sequence : UInt32) : Record :=
  ⟨newBody check sequence, crc32 (Body.codec.encode (newBody check sequence))⟩

/-- The flash operations of `HealthCheckLog_Append`. The last is the verification
read. -/
structure AppendFaults where
  erase : Fate Slots
  program : Fate Slot
  verify : Bool

/-- How `HealthCheckLog_Append` ends. -/
inductive Appended where
  | ok (entry : Entry)
  | error
  | powerLost
  deriving DecidableEq

/-- The roll to the other sector when the active one is full. -/
def makeRoom (erase : Fate Slots) (log : Log) : Progress × Log :=
  if log.ram.nextSlot ≥ slotsPerSector then
    rollToSector erase log.ram.activeSector.other log
  else (.ok, log)

/-- The content of the next slot after the program operation. -/
def slotAfter (fate : Fate Slot) (record : Record) (log : Log) : Slot :=
  fate.leaves (programSlot (slotAt (log.sectors.get log.ram.activeSector) log.ram.nextSlot)
    (bytes record))

/-- Program a record into the next slot and move past it, whatever comes of it. -/
def write (faults : AppendFaults) (record : Record) (log : Log) : Appended × Log :=
  let content := slotAfter faults.program record log
  let sector := setSlot (log.sectors.get log.ram.activeSector) log.ram.nextSlot content
  let ram := { log.ram with
    nextSlot := log.ram.nextSlot + 1, nextSequence := log.ram.nextSequence + 1 }
  let outcome := match faults.program.progress with
    | .ok => if faults.verify && content == bytes record then Appended.ok (entry record) else .error
    | .error => .error
    | .powerLost => .powerLost
  (outcome, ⟨ram, log.sectors.set log.ram.activeSector sector⟩)

/-- `HealthCheckLog_Append`. -/
def append (faults : AppendFaults) (check : Check) (log : Log) : Appended × Log :=
  match makeRoom faults.erase log with
  | (.ok, log) => write faults (newRecord check log.ram.nextSequence) log
  | (.error, log) => (.error, log)
  | (.powerLost, log) => (.powerLost, log)

/-- The records that one pass of `HealthCheckLog_GetRecent` finds below a slot,
going down. A slot that cannot be read ends the pass. -/
def recentBelow (readable : ℕ → Bool) (sector : Slots) : ℕ → List Record
  | 0 => []
  | slot + 1 =>
      if readable slot then
        (view sector slot).record?.toList ++ recentBelow readable sector slot
      else []

theorem recentBelow_readable (sector : Slots) (slot : ℕ) :
    recentBelow (fun _ => true) sector slot = (records (view sector) slot).reverse := by
  induction slot with
  | zero => rfl
  | succ slot ih =>
      rw [recentBelow, if_pos rfl, records_succ, List.reverse_append, ih]
      cases view sector slot <;> rfl

/-- `HealthCheckLog_GetRecent`: the active sector first, then the used part of
the other. -/
def getRecent (readable : Side → ℕ → Bool) (capacity : ℕ) (log : Log) : List Entry :=
  let active := log.ram.activeSector
  let inactive := active.other
  let used := (scanSector (readable inactive) (log.sectors.get inactive)).next
  ((recentBelow (readable active) (log.sectors.get active) log.ram.nextSlot ++
    recentBelow (readable inactive) (log.sectors.get inactive) used).take capacity).map entry

end HealthCheckLog

end HealthCheckFirmware
