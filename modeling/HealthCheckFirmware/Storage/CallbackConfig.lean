import HealthCheckFirmware.Storage.Sector

/-!
# The callback configuration

The store of `callback_config.c`: where failed checks are reported to, and how.
A configuration is only stored, and a sector only accepted, if all its fields are
in range and the longest request target that can be built from it fits its
buffer. A start-up without a valid sector persists the defaults.

`machine` presents the store as an instance of the two-bank scheme
(`machine_recovering`).
-/

set_option autoImplicit false

namespace HealthCheckFirmware.CallbackConfig

open TwoBank

/-! ## Configurations and snapshots -/

def hostSize : ℕ := 64
def pathSize : ℕ := 80

/-- `CALLBACK_METHOD_GET` and `CALLBACK_METHOD_POST`. -/
def methodGet : UInt8 := 0
def methodPost : UInt8 := 1

structure Config where
  enabled : UInt8
  method : UInt8
  trustAnchorId : UInt8
  reserved : UInt8
  port : UInt16
  host : Vector UInt8 hostSize
  path : Vector UInt8 pathSize
  deriving DecidableEq

def Config.codec : Codec Config :=
  Codec.record
    (.seq .u8 (.seq .u8 (.seq .u8 (.seq .u8 (.seq .u16 (.seq (.bytes hostSize)
      (.bytes pathSize)))))))
    (fun ⟨enabled, method, trustAnchorId, reserved, port, host, path⟩ =>
      ⟨enabled, method, trustAnchorId, reserved, port, host, path⟩)
    (fun config => (config.enabled, config.method, config.trustAnchorId, config.reserved,
      config.port, config.host, config.path))
    (fun _ => rfl)

/-- The fields of a snapshot that its checksum covers. -/
structure Body where
  magic : UInt32
  version : UInt16
  reserved : UInt16
  generation : UInt32
  config : Config
  deriving DecidableEq

/-- The layout of the body; two bytes of padding precede the checksum. -/
def Body.codec : Codec Body :=
  Codec.record (.seq .u32 (.seq .u16 (.seq .u16 (.seq .u32 (.pad 2 Config.codec)))))
    (fun ⟨magic, version, reserved, generation, config⟩ =>
      ⟨magic, version, reserved, generation, config⟩)
    (fun body => (body.magic, body.version, body.reserved, body.generation, body.config))
    (fun _ => rfl)

abbrev Snapshot := Sealed Body

def magic : UInt32 := 0x43424B43
def version : UInt16 := 1

/-! ## Validity -/

/-- A letter, a digit, a full stop or a hyphen. -/
def hostCharacter (character : UInt8) : Bool :=
  (0x61 ≤ character && character ≤ 0x7A) || (0x41 ≤ character && character ≤ 0x5A)
    || (0x30 ≤ character && character ≤ 0x39) || character == 0x2E || character == 0x2D

/-- A visible character other than a quote, a backslash or a number sign. -/
def pathCharacter (character : UInt8) : Bool :=
  !(character < 0x21 || 0x7E < character || character == 0x22 || character == 0x5C
    || character == 0x23)

/-- The scan of a buffer: every character before the terminator is allowed, and
there is a terminator. -/
def terminatedBy (allowed : UInt8 → Bool) : List UInt8 → Bool
  | [] => false
  | character :: rest =>
      if character = 0 then true else allowed character && terminatedBy allowed rest

/-- `callbackConfig_HostValid`. -/
def hostValid (host : Vector UInt8 hostSize) : Bool :=
  bufferString host != [] && terminatedBy hostCharacter host.toList

/-- `callbackConfig_PathValid`. -/
def pathValid (path : Vector UInt8 pathSize) : Bool :=
  (bufferString path).head? == some 0x2F && terminatedBy pathCharacter path.toList

/-- The longest query that a request target can be given. -/
def longestQuery : List UInt8 :=
  ascii ("sequence=4294967295&timestamp=4294967295&resource_index=255&"
    ++ "status=fail&stage=certificate_error&http_status=65535&"
    ++ "elapsed_ms=4294967295&detail=-2147483648")

/-- The size of the buffer that a request target is built in. -/
def resourceSize : ℕ := 256

/-- `CallbackConfig_IsValid`. -/
def configIsValid (config : Config) : Bool :=
  config.enabled ≤ 1 && config.method ≤ methodPost && config.port != 0
    && TlsTrustStore.minId ≤ config.trustAnchorId
    && config.trustAnchorId.toNat ≤ TlsTrustStore.maxPersisted
    && hostValid config.host && pathValid config.path
    -- the path, one separator and the query, with room for the terminator
    && (bufferString config.path).length + 1 + longestQuery.length < resourceSize

/-- `callbackConfig_Crc`. -/
def crc : List UInt8 → UInt32 := crc32

/-- `callbackConfig_IsValid`, but for the checksum. -/
def accepts (candidate : Body) : Bool :=
  candidate.magic == magic && candidate.version == version && configIsValid candidate.config

/-- The fields that `callbackConfig_Save` sets before it computes the checksum. -/
def mark (candidate : Body) : Body :=
  { candidate with magic := magic, version := version, generation := candidate.generation + 1 }

def scheme : SealScheme Body where
  codec := Body.codec
  checksum := crc
  accepts := accepts
  mark := mark
  generation := Body.generation
  generation_mark _ := rfl

theorem fits : scheme.layout.size ≤ sectorSize := by decide

def format : Format Sector Snapshot := scheme.format sectorSize fits

/-! ## Operations -/

abbrev Ram := Store Sector Snapshot

/-- The configuration that a start-up without a valid sector persists. -/
def defaultConfig : Config :=
  { enabled := 0
    method := methodPost
    trustAnchorId := TlsTrustStore.minId
    reserved := 0
    port := 443
    host := fillBuffer hostSize (ascii "callback.invalid")
    path := fillBuffer pathSize (ascii "/") }

def defaultSnapshot : Snapshot := ⟨⟨0, 0, 0, 0, defaultConfig⟩, 0⟩

/-- `CallbackConfig_Init`. The defaults are stamped in place before their save. -/
def init (banks : Banks Sector) (boot : BootFaults SectorFaults) : Ram × Start Snapshot :=
  match format.readNewest boot.reads banks with
  | some (side, snapshot) => (⟨banks, snapshot, side⟩, .ready)
  | none =>
      Prod.map id Outcome.start
        (format.save boot.save ⟨banks, format.stamp defaultSnapshot, .b⟩ defaultSnapshot)

/-- `CallbackConfig_Get`. -/
def get (ram : Ram) : Config := ram.snapshot.body.config

/-- The candidate of `CallbackConfig_Set`. -/
def setCandidate (body : Body) (config : Config) : Except Status Body :=
  if configIsValid config = false then .error .error else .ok { body with config := config }

def propose (ram : Ram) (config : Config) : Except Status Snapshot :=
  Sealed.propose ram.snapshot.crc (setCandidate ram.snapshot.body config)

/-- `CallbackConfig_Set`. -/
def set (ram : Ram) (config : Config) (faults : SectorFaults) : Ram × Ending Status Snapshot :=
  format.commit faults ram (propose ram config)

/-- `CallbackConfig_IsTrustAnchorInUse`. -/
def isTrustAnchorInUse (ram : Ram) (trustAnchorId : UInt8) : Bool :=
  (get ram).enabled != 0 && (get ram).trustAnchorId == trustAnchorId

/-! ## The store as an instance of the two-bank scheme -/

def plain : PlainStore Sector Snapshot Config Status Config where
  format := format
  propose := propose
  start := init
  older _ := false
  empty := format.stamp defaultSnapshot
  persists := some defaultSnapshot
  contents snapshot := snapshot.body.config

def machine : SnapshotStore Sector := plain.machine

example (ram : Ram) (config : Config) (faults : SectorFaults) :
    machine.mutate ram config faults = set ram config faults := rfl

theorem setCandidate_cases {body candidate : Body} {config : Config}
    (proposed : setCandidate body config = .ok candidate) :
    configIsValid config = true ∧ candidate = { body with config := config } := by
  unfold setCandidate at proposed
  split at proposed
  · cases proposed
  · rename_i valid
    cases proposed
    exact ⟨by simpa using valid, rfl⟩

theorem init_found {banks : Banks Sector} {boot : BootFaults SectorFaults}
    (readable : boot.Readable) {side : Side} {snapshot : Snapshot}
    (newest : format.newest banks = some (side, snapshot)) :
    init banks boot = (⟨banks, snapshot, side⟩, .ready) := by
  simp [init, format.readNewest_readable readable, newest]

theorem init_blank {banks : Banks Sector} {boot : BootFaults SectorFaults}
    (readable : boot.Readable) (blank : Blank format banks) :
    init banks boot = Prod.map id Outcome.start
      (format.save boot.save ⟨banks, format.stamp defaultSnapshot, .b⟩ defaultSnapshot) := by
  simp [init, format.readNewest_readable readable, blank.newest_eq]

/-- How a start-up ends, whichever reads fail. -/
theorem init_cases (banks : Banks Sector) (boot : BootFaults SectorFaults) :
    (∃ side snapshot, format.load (banks.get side) = some snapshot
        ∧ init banks boot = (⟨banks, snapshot, side⟩, .ready))
      ∨ ∃ store candidate, init banks boot =
        Prod.map id Outcome.start (format.save boot.save store candidate) := by
  unfold init
  cases newest : format.readNewest boot.reads banks with
  | none => exact .inr ⟨_, _, rfl⟩
  | some found => exact .inl ⟨found.1, found.2, format.readNewest_loads newest, rfl⟩

theorem plain_lawful : plain.Lawful where
  generation_propose proposed := by
    obtain ⟨_, same⟩ := setCandidate_cases (Sealed.of_propose proposed)
    exact (congrArg Body.generation same).trans rfl
  start_found readable newest := init_found readable newest
  start_blank readable blank _ := init_blank readable blank
  start_cases banks boot := (init_cases banks boot).imp_right .inr
  older_unpersisted := nofun
  empty_persists persists := by
    cases persists
    rfl
  older_valid _ := rfl
  older_stamped _ := rfl
  stamped_valid {_ _ candidate} _ proposed := by
    obtain ⟨valid, same⟩ := setCandidate_cases (Sealed.of_propose proposed)
    refine (scheme.format_isValid_stamp fits candidate).trans ?_
    simpa [scheme, accepts, mark, same] using valid
  contents_stamp _ := rfl

theorem machine_recovering : machine.Recovering := PlainStore.machine_recovering plain_lawful

/-- The defaults pass their own check. -/
theorem defaultConfig_valid : configIsValid defaultConfig = true := by decide +kernel

theorem defaultSnapshot_valid :
    format.isValid (format.write (format.stamp defaultSnapshot) format.blank) = true := by
  refine (scheme.format_isValid_stamp fits _).trans ?_
  simp only [scheme, accepts, mark, defaultSnapshot, beq_self_eq_true, Bool.true_and]
  exact defaultConfig_valid

end HealthCheckFirmware.CallbackConfig
