import HealthCheckFirmware.Storage.Sector

/-!
# The health-check configuration

The store of `health_check_config.c`: the check period and up to six resources,
with the migrations from three earlier layouts. A start-up that finds no snapshot
of the current layout looks for one of each earlier layout in turn, and persists
what it migrates, or the defaults.

`machine` presents the store as an instance of the two-bank scheme
(`machine_recovering`). `Body.WellFormed` is the range of the period, which every
snapshot in memory keeps.
-/

set_option autoImplicit false

namespace HealthCheckFirmware.HealthCheckConfig

open TwoBank

/-! ## Resources and snapshots -/

def maxResources : ℕ := 6
def previousMaxResources : ℕ := 3
def hostSize : ℕ := 64
def pathSize : ℕ := 80
def minPeriodSeconds : UInt32 := 60
def maxPeriodSeconds : UInt32 := 1800
def defaultPeriodSeconds : UInt32 := 60

/-- `HealthCheckConfig_StatusTypeDef`. -/
inductive Status where
  | ok
  | invalidArgument
  | notFound
  | full
  | storageError
  deriving DecidableEq, Repr

structure Resource where
  occupied : UInt8
  enabled : UInt8
  trustAnchorId : UInt8
  reserved : UInt8
  port : UInt16
  host : Vector UInt8 hostSize
  path : Vector UInt8 pathSize
  deriving DecidableEq

def Resource.codec : Codec Resource :=
  Codec.record
    (.seq .u8 (.seq .u8 (.seq .u8 (.seq .u8 (.seq .u16 (.seq (.bytes hostSize)
      (.bytes pathSize)))))))
    (fun ⟨occupied, enabled, trustAnchorId, reserved, port, host, path⟩ =>
      ⟨occupied, enabled, trustAnchorId, reserved, port, host, path⟩)
    (fun resource => (resource.occupied, resource.enabled, resource.trustAnchorId,
      resource.reserved, resource.port, resource.host, resource.path))
    (fun _ => rfl)

/-- A resource slot of zero bytes. -/
def Resource.zero : Resource :=
  ⟨0, 0, 0, 0, 0, .replicate hostSize 0, .replicate pathSize 0⟩

/-- A resource of the first layout, which had no trust anchors. -/
structure LegacyResource where
  occupied : UInt8
  enabled : UInt8
  port : UInt16
  host : Vector UInt8 hostSize
  path : Vector UInt8 pathSize
  deriving DecidableEq

def LegacyResource.codec : Codec LegacyResource :=
  Codec.record
    (.seq .u8 (.seq .u8 (.seq .u16 (.seq (.bytes hostSize) (.bytes pathSize)))))
    (fun ⟨occupied, enabled, port, host, path⟩ => ⟨occupied, enabled, port, host, path⟩)
    (fun resource => (resource.occupied, resource.enabled, resource.port, resource.host,
      resource.path))
    (fun _ => rfl)

/-- The fields of a snapshot that its checksum covers, for any kind and number of
resource slots: the four layouts differ in nothing else. -/
structure Body (Slot : Type) (count : ℕ) where
  magic : UInt32
  version : UInt16
  reserved : UInt16
  generation : UInt32
  periodSeconds : UInt32
  resources : Vector Slot count
  deriving DecidableEq

def Body.codec {Slot : Type} (count : ℕ) (slot : Codec Slot) : Codec (Body Slot count) :=
  Codec.record (.seq .u32 (.seq .u16 (.seq .u16 (.seq .u32 (.seq .u32 (.array count slot))))))
    (fun ⟨magic, version, reserved, generation, periodSeconds, resources⟩ =>
      ⟨magic, version, reserved, generation, periodSeconds, resources⟩)
    (fun body => (body.magic, body.version, body.reserved, body.generation, body.periodSeconds,
      body.resources))
    (fun _ => rfl)

abbrev CurrentBody := Body Resource maxResources
abbrev PreviousBody := Body Resource previousMaxResources
abbrev LegacyBody := Body LegacyResource previousMaxResources
abbrev Snapshot := Sealed CurrentBody

def magic : UInt32 := 0x48434643
def currentVersion : UInt16 := 4
def factoryVersion : UInt16 := 3
def previousVersion : UInt16 := 2
def legacyVersion : UInt16 := 1

/-- `healthCheckConfig_Crc`. -/
def crc : List UInt8 → UInt32 := crc32

section Validity

variable {Slot : Type} {count : ℕ}

/-- The tests that the four validity functions share, but for the checksum. -/
def accepts (version : UInt16) (candidate : Body Slot count) : Bool :=
  candidate.magic == magic && candidate.version == version
    && decide (minPeriodSeconds ≤ candidate.periodSeconds)
    && decide (candidate.periodSeconds ≤ maxPeriodSeconds)

/-- The fields that `healthCheckConfig_Save` sets before it computes the checksum. -/
def mark (version : UInt16) (candidate : Body Slot count) : Body Slot count :=
  { candidate with magic := magic, version := version, generation := candidate.generation + 1 }

/-- A layout of a given version. -/
def schemeOf (version : UInt16) (codec : Codec (Body Slot count)) :
    SealScheme (Body Slot count) where
  codec := codec
  checksum := crc
  accepts := accepts version
  mark := mark version
  generation := Body.generation
  generation_mark _ := rfl

end Validity

/-- `healthCheckConfig_IsValid` is the test of this scheme. -/
def scheme : SealScheme CurrentBody :=
  schemeOf currentVersion (Body.codec maxResources Resource.codec)

/-- `healthCheckConfig_IsFactoryVersionValid`. -/
def factoryScheme : SealScheme CurrentBody :=
  schemeOf factoryVersion (Body.codec maxResources Resource.codec)

/-- `healthCheckConfig_IsPreviousValid`; two bytes of padding precede the checksum. -/
def previousScheme : SealScheme PreviousBody :=
  schemeOf previousVersion (.pad 2 (Body.codec previousMaxResources Resource.codec))

/-- `healthCheckConfig_IsLegacyValid`. -/
def legacyScheme : SealScheme LegacyBody :=
  schemeOf legacyVersion (Body.codec previousMaxResources LegacyResource.codec)

theorem fits : scheme.layout.size ≤ sectorSize := by decide

def format : Format Sector Snapshot := scheme.format sectorSize fits

/-! ## Migrations -/

/-- `healthCheckConfig_RemoveFactoryReferences`. -/
def removeFactoryReferences (target : CurrentBody) : CurrentBody :=
  { target with resources := Vector.ofFn fun index : Fin maxResources =>
      let resource := target.resources.get index
      if resource.occupied ≠ 0 ∧ resource.trustAnchorId = 0 then Resource.zero else resource }

/-- `healthCheckConfig_MigratePrevious`. -/
def migratePrevious (previous : PreviousBody) : CurrentBody :=
  removeFactoryReferences
    { magic := 0
      version := 0
      reserved := 0
      generation := previous.generation
      periodSeconds := previous.periodSeconds
      resources := Vector.ofFn fun index : Fin maxResources =>
        (previous.resources.toList)[index.val]?.getD Resource.zero }

/-- `healthCheckConfig_MigrateLegacy`. -/
def migrateLegacy (legacy : LegacyBody) : CurrentBody :=
  { magic := 0
    version := 0
    reserved := 0
    generation := legacy.generation
    periodSeconds := legacy.periodSeconds
    resources := .replicate maxResources Resource.zero }

/-- `healthCheckConfig_SetDefault`. -/
def setDefault : CurrentBody :=
  { magic := 0
    version := 0
    reserved := 0
    generation := 0
    periodSeconds := defaultPeriodSeconds
    resources := .replicate maxResources Resource.zero }

/-! ## Operations -/

abbrev Ram := Store Sector Snapshot

/-- `healthCheckConfig_Save` of the snapshot in memory itself, as a start-up calls
it: the candidate is stamped in place, whether or not it then gets saved. -/
def saveInPlace (faults : SectorFaults) (banks : Banks Sector) (side : Side)
    (candidate : Snapshot) : Ram × Start Snapshot :=
  Prod.map id Outcome.start
    (format.save faults ⟨banks, format.stamp candidate, side⟩ candidate)

/-- The body that a sector read holds under a scheme, when its test passes. -/
def readBody {Body : Type} (scheme : SealScheme Body) (readable : Bool) (sector : Sector) :
    Option Body :=
  if readable && scheme.isValid sector then some (scheme.layout.decode sector).body else none

/-- The newer of two earlier snapshots, sector A first. -/
def readOlder {Slot : Type} {count : ℕ} (scheme : SealScheme (Body Slot count)) (first second : Bool)
    (banks : Banks Sector) : Option (Side × Body Slot count) :=
  pickNewer Body.generation (readBody scheme first banks.a) (readBody scheme second banks.b)

/-- `HealthCheckConfig_Init`. -/
def init (banks : Banks Sector) (boot : BootFaults SectorFaults) : Ram × Start Snapshot :=
  match format.readNewest boot.reads banks with
  | some (side, snapshot) => (⟨banks, snapshot, side⟩, .ready)
  | none =>
  match readOlder factoryScheme (boot.reads 2) (boot.reads 3) banks with
  | some (side, previous) =>
      saveInPlace boot.save banks side ⟨removeFactoryReferences previous, 0⟩
  | none =>
  match readOlder previousScheme (boot.reads 4) (boot.reads 5) banks with
  | some (side, previous) => saveInPlace boot.save banks side ⟨migratePrevious previous, 0⟩
  | none =>
  match readOlder legacyScheme (boot.reads 6) (boot.reads 7) banks with
  | some (side, legacy) => saveInPlace boot.save banks side ⟨migrateLegacy legacy, 0⟩
  | none => saveInPlace boot.save banks .b ⟨setDefault, 0⟩

/-- `HealthCheckConfig_GetPeriodSeconds`. -/
def getPeriodSeconds (ram : Ram) : UInt32 := ram.snapshot.body.periodSeconds

/-- `HealthCheckConfig_GetResources`. -/
def getResources (ram : Ram) : Vector Resource maxResources := ram.snapshot.body.resources

/-- `HealthCheckConfig_IsTrustAnchorInUse`. -/
def isTrustAnchorInUse (ram : Ram) (trustAnchorId : UInt8) : Bool :=
  ram.snapshot.body.resources.toList.any fun resource =>
    resource.occupied ≠ 0 && resource.trustAnchorId == trustAnchorId

/-- The parameters of a resource that a caller gives. -/
structure ResourceInput where
  host : List UInt8
  port : UInt16
  path : List UInt8
  enabled : UInt8
  trustAnchorId : UInt8

/-- The checks that adding and updating a resource make first. -/
def ResourceInput.isValid (input : ResourceInput) : Bool :=
  !(input.host == [] || input.path.head? != some 0x2F || input.port == 0
    || input.trustAnchorId < TlsTrustStore.minId
    || decide (TlsTrustStore.maxPersisted < input.trustAnchorId.toNat)
    || decide (hostSize ≤ input.host.length)
    || decide (pathSize ≤ input.path.length))

/-- The fields of a slot that adding and updating set from the input. -/
def ResourceInput.assign (input : ResourceInput) (slot : Resource) : Resource :=
  { slot with
    enabled := if input.enabled ≠ 0 then 1 else 0
    trustAnchorId := input.trustAnchorId
    port := input.port
    host := fillBuffer hostSize input.host
    path := fillBuffer pathSize input.path }

/-- The first slot that is not occupied. -/
def firstFree (resources : Vector Resource maxResources) : Option ℕ :=
  resources.toList.findIdx? (·.occupied == 0)

/-- The configuration with one slot replaced. -/
def Body.withSlot (body : CurrentBody) (index : ℕ) (slot : Resource) : CurrentBody :=
  { body with resources := body.resources.setIfInBounds index slot }

/-- The candidate of `HealthCheckConfig_SetPeriodSeconds`. -/
def setPeriodCandidate (body : CurrentBody) (periodSeconds : UInt32) :
    Except Status CurrentBody :=
  if periodSeconds < minPeriodSeconds ∨ maxPeriodSeconds < periodSeconds then
    .error .invalidArgument
  else .ok { body with periodSeconds := periodSeconds }

/-- The candidate of `HealthCheckConfig_AddResource`. -/
def addCandidate (body : CurrentBody) (input : ResourceInput) : Except Status CurrentBody :=
  if input.isValid = false then .error .invalidArgument
  else
    match firstFree body.resources with
    | none => .error .full
    | some index => .ok (body.withSlot index (input.assign { Resource.zero with occupied := 1 }))

/-- The slot at an index that is in range and occupied. -/
def occupiedSlot (body : CurrentBody) (index : UInt8) : Option Resource :=
  (body.resources.toList)[index.toNat]?.filter (·.occupied ≠ 0)

/-- The candidate of `HealthCheckConfig_UpdateResource`. -/
def updateCandidate (body : CurrentBody) (index : UInt8) (input : ResourceInput) :
    Except Status CurrentBody :=
  if maxResources ≤ index.toNat ∨ input.isValid = false then .error .invalidArgument
  else
    match occupiedSlot body index with
    | none => .error .notFound
    | some slot => .ok (body.withSlot index.toNat (input.assign slot))

/-- The candidate of `HealthCheckConfig_DeleteResource`. -/
def deleteCandidate (body : CurrentBody) (index : UInt8) : Except Status CurrentBody :=
  if maxResources ≤ index.toNat then .error .invalidArgument
  else
    match occupiedSlot body index with
    | none => .error .notFound
    | some _ => .ok (body.withSlot index.toNat Resource.zero)

/-- A mutating call. -/
inductive Request where
  | setPeriodSeconds (periodSeconds : UInt32)
  | addResource (input : ResourceInput)
  | updateResource (index : UInt8) (input : ResourceInput)
  | deleteResource (index : UInt8)

/-- The body that a call proposes. -/
def amend (body : CurrentBody) : Request → Except Status CurrentBody
  | .setPeriodSeconds periodSeconds => setPeriodCandidate body periodSeconds
  | .addResource input => addCandidate body input
  | .updateResource index input => updateCandidate body index input
  | .deleteResource index => deleteCandidate body index

/-- The candidate of a call, or the status with which it returns before saving. -/
def propose (ram : Ram) (request : Request) : Except Status Snapshot :=
  Sealed.propose ram.snapshot.crc (amend ram.snapshot.body request)

/-- A mutating call with its flash operations. -/
def mutate (ram : Ram) (request : Request) (faults : SectorFaults) :
    Ram × Ending Status Snapshot :=
  format.commit faults ram (propose ram request)

/-- The status that a mutating call returns. Nothing is returned when the power
is lost, so the value given there is never seen. -/
def status : Ending Status Snapshot → Status
  | .refused status => status
  | .saved _ => .ok
  | .failed => .storageError
  | .lost _ => .storageError

/-! ## The store as an instance of the two-bank scheme -/

/-- The snapshot that a store without any snapshot comes up with. -/
def initial : Snapshot := format.stamp ⟨setDefault, 0⟩

/-- Some sector holds a snapshot of an earlier layout. -/
def isOlder (sector : Sector) : Bool :=
  factoryScheme.isValid sector || previousScheme.isValid sector || legacyScheme.isValid sector

/-- What callers see of a snapshot: the period and the resource slots. -/
def contents (snapshot : Snapshot) : UInt32 × Vector Resource maxResources :=
  (snapshot.body.periodSeconds, snapshot.body.resources)

def plain : PlainStore Sector Snapshot Request Status (UInt32 × Vector Resource maxResources) where
  format := format
  propose := propose
  start := init
  older := isOlder
  empty := initial
  persists := some ⟨setDefault, 0⟩
  contents := contents

def machine : SnapshotStore Sector := plain.machine

example (ram : Ram) (request : Request) (faults : SectorFaults) :
    machine.mutate ram request faults = mutate ram request faults := rfl

/-- The invariant of the snapshot in memory: the period is in range. -/
def Body.WellFormed {Slot : Type} {count : ℕ} (body : Body Slot count) : Prop :=
  minPeriodSeconds ≤ body.periodSeconds ∧ body.periodSeconds ≤ maxPeriodSeconds

theorem accepts_iff {Slot : Type} {count : ℕ} {version : UInt16} {body : Body Slot count} :
    accepts version body = true ↔
      body.magic = magic ∧ body.version = version ∧ body.WellFormed := by
  simp only [accepts, Bool.and_eq_true, beq_iff_eq, decide_eq_true_eq, Body.WellFormed, and_assoc]

/-- The version of a valid sector, which all layouts keep in the same place. -/
theorem version_of_isValid {Slot : Type} {count : ℕ} {version : UInt16}
    {codec : Codec (Body Slot count)} {sector : Sector}
    (valid : (schemeOf version codec).isValid sector = true) :
    ((schemeOf version codec).layout.decode sector).body.version = version :=
  (accepts_iff.mp ((schemeOf version codec).isValid_accepts valid)).2.1

/-- A sector whose version is the current one holds no earlier layout. -/
theorem isOlder_eq_false {sector : Sector}
    (current : (scheme.layout.decode sector).body.version = currentVersion) :
    isOlder sector = false := by
  simp only [isOlder, Bool.or_eq_false_iff]
  refine ⟨⟨?_, ?_⟩, ?_⟩ <;>
  · rw [← Bool.not_eq_true]
    intro valid
    have version := version_of_isValid valid
    exact absurd (current.symm.trans version) (by decide)

/-- The four ways in which a call amends the configuration. -/
theorem amend_cases {body candidate : CurrentBody} {request : Request}
    (amended : amend body request = .ok candidate) :
    (∃ seconds, request = .setPeriodSeconds seconds
        ∧ minPeriodSeconds ≤ seconds ∧ seconds ≤ maxPeriodSeconds
        ∧ candidate = { body with periodSeconds := seconds })
      ∨ (∃ input index, request = .addResource input ∧ input.isValid = true
        ∧ firstFree body.resources = some index
        ∧ candidate = body.withSlot index (input.assign { Resource.zero with occupied := 1 }))
      ∨ (∃ index input slot, request = .updateResource index input ∧ input.isValid = true
        ∧ occupiedSlot body index = some slot
        ∧ candidate = body.withSlot index.toNat (input.assign slot))
      ∨ (∃ index slot, request = .deleteResource index ∧ occupiedSlot body index = some slot
        ∧ candidate = body.withSlot index.toNat Resource.zero) := by
  cases request with
  | setPeriodSeconds seconds =>
      left
      simp only [amend, setPeriodCandidate] at amended
      split at amended
      · cases amended
      · rename_i within
        rw [not_or, UInt32.not_lt, UInt32.not_lt] at within
        cases amended
        exact ⟨seconds, rfl, within.1, within.2, rfl⟩
  | addResource input =>
      right; left
      simp only [amend, addCandidate] at amended
      split at amended
      · cases amended
      rename_i valid
      cases free : firstFree body.resources with
      | none => simp [free] at amended
      | some index =>
          rw [free] at amended
          cases amended
          exact ⟨input, index, rfl, by simpa using valid, rfl, rfl⟩
  | updateResource index input =>
      right; right; left
      simp only [amend, updateCandidate] at amended
      split at amended
      · cases amended
      rename_i checked
      cases occupied : occupiedSlot body index with
      | none => simp [occupied] at amended
      | some slot =>
          rw [occupied] at amended
          cases amended
          exact ⟨index, input, slot, rfl, by simpa using (not_or.mp checked).2, occupied, rfl⟩
  | deleteResource index =>
      right; right; right
      simp only [amend, deleteCandidate] at amended
      split at amended
      · cases amended
      cases occupied : occupiedSlot body index with
      | none => simp [occupied] at amended
      | some slot =>
          rw [occupied] at amended
          cases amended
          exact ⟨index, slot, rfl, occupied, rfl⟩

theorem generation_amend {body candidate : CurrentBody} {request : Request}
    (amended : amend body request = .ok candidate) : candidate.generation = body.generation := by
  rcases amend_cases amended with ⟨_, _, _, _, same⟩ | ⟨_, _, _, _, _, same⟩ |
    ⟨_, _, _, _, _, _, same⟩ | ⟨_, _, _, _, same⟩ <;> rw [same] <;> rfl

theorem wellFormed_amend {body candidate : CurrentBody} {request : Request}
    (amended : amend body request = .ok candidate) (wellFormed : body.WellFormed) :
    candidate.WellFormed := by
  rcases amend_cases amended with ⟨_, _, low, high, same⟩ | ⟨_, _, _, _, _, same⟩ |
    ⟨_, _, _, _, _, _, same⟩ | ⟨_, _, _, _, same⟩ <;> rw [same]
  · exact ⟨low, high⟩
  all_goals exact wellFormed

theorem setDefault_wellFormed : setDefault.WellFormed := ⟨by decide, by decide⟩

/-- What is well formed can be saved. -/
theorem stamp_valid {candidate : Snapshot} (wellFormed : candidate.body.WellFormed) :
    format.isValid (format.write (format.stamp candidate) format.blank) = true :=
  (scheme.format_isValid_stamp fits candidate).trans (accepts_iff.mpr ⟨rfl, rfl, wellFormed⟩)

theorem setDefault_valid :
    format.isValid (format.write (format.stamp ⟨setDefault, 0⟩) format.blank) = true :=
  stamp_valid setDefault_wellFormed

/-- A call leaves the configuration in memory as it was, or as it proposes. -/
theorem mutate_resources (ram : Ram) (request : Request) (faults : SectorFaults) :
    (mutate ram request faults).1.snapshot = ram.snapshot
      ∨ ∃ candidate, amend ram.snapshot.body request = .ok candidate
        ∧ (mutate ram request faults).1.snapshot.body.resources = candidate.resources := by
  by_cases unsaved : ∀ snapshot, (mutate ram request faults).2 ≠ .saved snapshot
  · exact .inl (commit_unsaved unsaved)
  · simp only [not_forall, not_not] at unsaved
    obtain ⟨snapshot, saved⟩ := unsaved
    obtain ⟨candidate, proposed, stamped⟩ := commit_stamped saved
    have stored : (mutate ram request faults).1.snapshot = format.stamp candidate := stamped
    exact .inr ⟨candidate.body, Sealed.of_propose proposed, by rw [stored]; rfl⟩

theorem mutate_refused {ram : Ram} {request : Request} {status : Status}
    (refused : amend ram.snapshot.body request = .error status) (faults : SectorFaults) :
    (mutate ram request faults).1 = ram := by
  rw [mutate, propose, refused]
  rfl

/-- A call in which nothing fails stores what it proposes. -/
theorem mutate_done {ram : Ram} (wellFormed : ram.snapshot.body.WellFormed) {request : Request}
    {candidate : CurrentBody} (amended : amend ram.snapshot.body request = .ok candidate) :
    (mutate ram request .done).1.snapshot.body.resources = candidate.resources := by
  have valid := @stamp_valid ⟨candidate, ram.snapshot.crc⟩ (wellFormed_amend amended wellFormed)
  obtain ⟨-, stored⟩ := @commit_done _ _ Status format ram _ valid
  rw [mutate, propose, amended]
  exact (congrArg (fun snapshot : Snapshot => snapshot.body.resources) stored).trans rfl

/-- A snapshot that was loaded is well formed, and so is the initial one. -/
theorem wellFormed_of_load {snapshot : Snapshot}
    (loads : (∃ image, format.load image = some snapshot) ∨ snapshot = initial) :
    snapshot.body.WellFormed := by
  rcases loads with ⟨image, loads⟩ | rfl
  · exact (accepts_iff.mp (scheme.format_load_accepts fits loads)).2.2
  · exact setDefault_wellFormed

theorem init_found {banks : Banks Sector} {boot : BootFaults SectorFaults}
    (readable : boot.Readable) {side : Side} {snapshot : Snapshot}
    (newest : format.newest banks = some (side, snapshot)) :
    init banks boot = (⟨banks, snapshot, side⟩, .ready) := by
  simp [init, format.readNewest_readable readable, newest]

/-- With no snapshot of any layout, the defaults are persisted. -/
theorem init_blank {banks : Banks Sector} {boot : BootFaults SectorFaults}
    (readable : boot.Readable) (blank : Blank format banks)
    (noOlder : ∀ side, isOlder (banks.get side) = false) :
    init banks boot = saveInPlace boot.save banks .b ⟨setDefault, 0⟩ := by
  have first := noOlder .a
  have second := noOlder .b
  simp only [isOlder, Bool.or_eq_false_iff, Banks.get] at first second
  simp [init, format.readNewest_readable readable, blank.newest_eq, readOlder, readBody, pickNewer,
    first, second]

/-- How a start-up ends, whichever reads fail: it takes a snapshot that a sector holds, or
saves what it migrates or the defaults. -/
theorem init_cases (banks : Banks Sector) (boot : BootFaults SectorFaults) :
    (∃ side snapshot, format.load (banks.get side) = some snapshot
        ∧ init banks boot = (⟨banks, snapshot, side⟩, .ready))
      ∨ ∃ store candidate, init banks boot =
        Prod.map id Outcome.start (format.save boot.save store candidate) := by
  unfold init
  cases newest : format.readNewest boot.reads banks with
  | some found => exact .inl ⟨found.1, found.2, format.readNewest_loads newest, rfl⟩
  | none =>
      right
      dsimp only
      split
      · exact ⟨_, _, rfl⟩
      split
      · exact ⟨_, _, rfl⟩
      split
      · exact ⟨_, _, rfl⟩
      · exact ⟨_, _, rfl⟩

theorem plain_lawful : plain.Lawful where
  generation_propose proposed := generation_amend (Sealed.of_propose proposed)
  start_found readable newest := init_found readable newest
  start_blank readable blank noOlder := init_blank readable blank noOlder
  start_cases banks boot := (init_cases banks boot).imp_right .inr
  older_unpersisted := nofun
  empty_persists persists := by
    cases persists
    rfl
  older_valid valid := isOlder_eq_false (version_of_isValid valid)
  older_stamped candidate := by
    refine isOlder_eq_false ?_
    have written := format.read_write (format.stamp candidate)
    exact congrArg (fun snapshot : Snapshot => snapshot.body.version) written
  stamped_valid loads proposed :=
    stamp_valid (wellFormed_amend (Sealed.of_propose proposed) (wellFormed_of_load loads))
  contents_stamp _ := rfl

theorem machine_recovering : machine.Recovering := PlainStore.machine_recovering plain_lawful

end HealthCheckFirmware.HealthCheckConfig
