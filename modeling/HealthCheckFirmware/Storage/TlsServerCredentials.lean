import HealthCheckFirmware.Storage.Sector

/-!
# The server credentials

The store of `tls_server_credentials.c`: the certificate and private key that the
management server presents. An upload is staged in memory; once a certificate and
a key are at hand that parse and belong together, the pair is saved.

What the TLS library says of the bytes is a parameter (`CredentialChecks`).
`machine` presents the store as an instance of the two-bank scheme
(`machine_recovering`).
-/

set_option autoImplicit false

namespace HealthCheckFirmware.TlsServerCredentials

open TwoBank

/-! ## Snapshots -/

def maxCertificateSize : ℕ := 1152
def maxKeySize : ℕ := 384

/-- `TlsServerCredentials_StatusTypeDef`. -/
inductive Status where
  | activated
  | pending
  | invalidData
  | mismatch
  | storageError
  deriving DecidableEq, Repr

/-- The fields of a snapshot that its checksum covers. -/
structure Body where
  magic : UInt32
  version : UInt16
  reserved : UInt16
  generation : UInt32
  certificateLength : UInt16
  keyLength : UInt16
  certificate : Vector UInt8 maxCertificateSize
  key : Vector UInt8 maxKeySize
  deriving DecidableEq

def Body.codec : Codec Body :=
  Codec.record
    (.seq .u32 (.seq .u16 (.seq .u16 (.seq .u32 (.seq .u16 (.seq .u16
      (.seq (.bytes maxCertificateSize) (.bytes maxKeySize))))))))
    (fun ⟨magic, version, reserved, generation, certificateLength, keyLength, certificate, key⟩ =>
      ⟨magic, version, reserved, generation, certificateLength, keyLength, certificate, key⟩)
    (fun body => (body.magic, body.version, body.reserved, body.generation,
      body.certificateLength, body.keyLength, body.certificate, body.key))
    (fun _ => rfl)

abbrev Snapshot := Sealed Body

def magic : UInt32 := 0x54534352
def version : UInt16 := 3

/-- `tlsServerCredentials_Crc`. -/
def crc : List UInt8 → UInt32 := crc32

/-- `tlsServerCredentials_IsValid`, but for the checksum. -/
def accepts (candidate : Body) : Bool :=
  candidate.magic == magic && candidate.version == version
    && decide (candidate.certificateLength.toNat ≤ maxCertificateSize)
    && decide (candidate.keyLength.toNat ≤ maxKeySize)

/-- The fields that `tlsServerCredentials_Save` sets before it computes the
checksum. -/
def mark (candidate : Body) : Body :=
  { candidate with magic := magic, version := version, generation := candidate.generation + 1 }

def scheme : SealScheme Body where
  codec := Body.codec
  checksum := crc
  accepts := accepts
  mark := mark
  generation := Body.generation
  generation_mark _ := rfl

theorem fits : scheme.layout.size ≤ sectorSize := by decide

def format : Format Sector Snapshot := scheme.format sectorSize fits

/-! ## Operations -/

/-- What the TLS library finds when it parses a certificate, parses a key and
compares the two. -/
structure CredentialChecks where
  certificateParses : List UInt8 → Bool
  keyParses : List UInt8 → Bool
  pairs : List UInt8 → List UInt8 → Bool

/-- An upload waiting for its counterpart. -/
structure Staged (capacity : ℕ) where
  bytes : List UInt8
  fits : bytes.length ≤ capacity

/-- The memory of the store. -/
structure Ram where
  store : Store Sector Snapshot
  hasValidSnapshot : Bool
  pendingCertificate : Option (Staged maxCertificateSize)
  pendingKey : Option (Staged maxKeySize)

/-- The snapshot of zero bytes that a start-up without a valid sector leaves. -/
def empty : Snapshot :=
  ⟨⟨0, 0, 0, 0, 0, 0, .replicate maxCertificateSize 0, .replicate maxKeySize 0⟩, 0⟩

/-- `TlsServerCredentials_Init`. -/
def init (banks : Banks Sector) (boot : BootFaults SectorFaults) : Ram × Start Snapshot :=
  match format.readNewest boot.reads banks with
  | some (side, snapshot) => (⟨⟨banks, snapshot, side⟩, true, none, none⟩, .ready)
  | none => (⟨⟨banks, empty, .b⟩, false, none, none⟩, .ready)

/-- `tlsServerCredentials_ClearStaging`. -/
def clearStaging (ram : Ram) : Ram := { ram with pendingCertificate := none, pendingKey := none }

/-- The certificate of the snapshot in memory. -/
def Body.certificateBytes (body : Body) : List UInt8 :=
  body.certificate.toList.take body.certificateLength.toNat

/-- The key of the snapshot in memory. -/
def Body.keyBytes (body : Body) : List UInt8 := body.key.toList.take body.keyLength.toNat

/-- The certificate an activation would use: the staged one, or the active one. -/
def certificateData (ram : Ram) : Option (List UInt8) :=
  match ram.pendingCertificate with
  | some staged => some staged.bytes
  | none => if ram.hasValidSnapshot then some ram.store.snapshot.body.certificateBytes else none

/-- The key an activation would use: the staged one, or the active one. -/
def keyData (ram : Ram) : Option (List UInt8) :=
  match ram.pendingKey with
  | some staged => some staged.bytes
  | none => if ram.hasValidSnapshot then some ram.store.snapshot.body.keyBytes else none

/-- The candidate snapshot with a given pair. -/
def withPair (body : Body) (certificate key : List UInt8) : Body :=
  { body with
    certificateLength := UInt16.ofNat certificate.length
    certificate := Vector.ofFn fun index : Fin maxCertificateSize => certificate.getD index 0
    keyLength := UInt16.ofNat key.length
    key := Vector.ofFn fun index : Fin maxKeySize => key.getD index 0 }

/-- What an activation does: return with a status, clearing what is staged or
keeping it, or save a pair. -/
inductive Activation where
  | keep (status : Status)
  | discard (status : Status)
  | save (candidate : Body)

/-- The decisions of `tlsServerCredentials_TryActivate`. The random generator that
the checks need may fail to be seeded. -/
def tryActivate (checks : CredentialChecks) (seeded : Bool) (ram : Ram) : Activation :=
  match certificateData ram with
  | none => .keep .pending
  | some certificate =>
      match keyData ram with
      | none => .keep .pending
      | some key =>
          if !(seeded && checks.certificateParses certificate && checks.keyParses key) then
            .discard .invalidData
          else if checks.pairs certificate key then
            .save (withPair ram.store.snapshot.body certificate key)
          else if ram.pendingCertificate.isNone || ram.pendingKey.isNone then .keep .pending
          else .discard .mismatch

/-- What a call finds when it starts: whether it gets the lock of the TLS platform
and whether the random generator gets seeded. -/
structure Conditions where
  locked : Bool
  seeded : Bool

/-- An upload. -/
inductive Request where
  | stageCertificate (der : List UInt8) (conditions : Conditions)
  | stagePrivateKey (der : List UInt8) (conditions : Conditions)

/-- The checks and the staging that precede an activation. -/
def stage (ram : Ram) : Request → Except Status (Ram × Bool)
  | .stageCertificate der conditions =>
      if fits : 0 < der.length ∧ der.length ≤ maxCertificateSize then
        if conditions.locked then
          .ok ({ ram with pendingCertificate := some ⟨der, fits.2⟩ }, conditions.seeded)
        else .error .storageError
      else .error .invalidData
  | .stagePrivateKey der conditions =>
      if fits : 0 < der.length ∧ der.length ≤ maxKeySize then
        if conditions.locked then
          .ok ({ ram with pendingKey := some ⟨der, fits.2⟩ }, conditions.seeded)
        else .error .storageError
      else .error .invalidData

/-- `tlsServerCredentials_Save` and the clearing of what was staged. -/
def activate (ram : Ram) (candidate : Body) (faults : SectorFaults) :
    Ram × Ending Status Snapshot :=
  let saved := format.save faults ram.store ⟨candidate, ram.store.snapshot.crc⟩
  let after := { ram with store := saved.1 }
  match saved.2 with
  | .saved snapshot => (clearStaging { after with hasValidSnapshot := true }, .saved snapshot)
  | .failed => (clearStaging after, .failed)
  | .lost snapshot => (after, .lost snapshot)

/-- `TlsServerCredentials_StageCertificate` and `TlsServerCredentials_StagePrivateKey`. -/
def mutate (checks : CredentialChecks) (ram : Ram) (request : Request) (faults : SectorFaults) :
    Ram × Ending Status Snapshot :=
  match stage ram request with
  | .error status => (ram, .refused status)
  | .ok (staged, seeded) =>
      match tryActivate checks seeded staged with
      | .keep status => (staged, .refused status)
      | .discard status => (clearStaging staged, .refused status)
      | .save candidate => activate staged candidate faults

/-- The candidate that an upload leads to, or the status without a save. -/
def propose (checks : CredentialChecks) (ram : Ram) (request : Request) :
    Except Status Snapshot :=
  match stage ram request with
  | .error status => .error status
  | .ok (staged, seeded) =>
      match tryActivate checks seeded staged with
      | .keep status => .error status
      | .discard status => .error status
      | .save candidate => .ok ⟨candidate, ram.store.snapshot.crc⟩

/-- The status that an upload returns. Nothing is returned when the power is lost,
so the value given there is never seen. -/
def status : Ending Status Snapshot → Status
  | .refused status => status
  | .saved _ => .activated
  | .failed => .storageError
  | .lost _ => .storageError

/-- `TlsServerCredentials_GetCertificate`, given the certificate compiled in. -/
def getCertificate (compiled : List UInt8) (ram : Ram) : List UInt8 :=
  if ram.hasValidSnapshot then ram.store.snapshot.body.certificateBytes else compiled

/-- `TlsServerCredentials_GetPrivateKey`, given the key compiled in. -/
def getPrivateKey (compiled : List UInt8) (ram : Ram) : List UInt8 :=
  if ram.hasValidSnapshot then ram.store.snapshot.body.keyBytes else compiled

/-! ## The store as an instance of the two-bank scheme -/

/-- The pair of a snapshot. -/
structure Pair where
  certificateLength : UInt16
  certificate : Vector UInt8 maxCertificateSize
  keyLength : UInt16
  key : Vector UInt8 maxKeySize
  deriving DecidableEq

def Body.pair (body : Body) : Pair :=
  ⟨body.certificateLength, body.certificate, body.keyLength, body.key⟩

/-- The pair in force, if one has been activated. -/
def activePair (ram : Ram) : Option Pair :=
  if ram.hasValidSnapshot then some ram.store.snapshot.body.pair else none

def machine (checks : CredentialChecks) : SnapshotStore Sector where
  Snapshot := Snapshot
  Ram := Ram
  Request := Request
  Status := Status
  Faults := SectorFaults
  Contents := Option Pair
  format := format
  store := Ram.store
  fates _ faults := faults
  propose := propose checks
  mutate := mutate checks
  start := init
  older _ := false
  empty := empty
  persists := none
  contents := activePair
  loaded snapshot := some snapshot.body.pair
  absent := none

/-- The invariant of the snapshot in memory: both lengths fit. -/
def Body.WellFormed (body : Body) : Prop :=
  body.certificateLength.toNat ≤ maxCertificateSize ∧ body.keyLength.toNat ≤ maxKeySize

theorem accepts_wellFormed {body : Body} (accepted : accepts body = true) : body.WellFormed := by
  simp only [accepts, Bool.and_eq_true, decide_eq_true_eq] at accepted
  exact ⟨accepted.1.2, accepted.2⟩

theorem accepts_mark {body : Body} (wellFormed : body.WellFormed) :
    accepts (mark body) = true := by
  have lengths : (mark body).certificateLength.toNat ≤ maxCertificateSize
      ∧ (mark body).keyLength.toNat ≤ maxKeySize := wellFormed
  simp only [accepts, lengths, decide_true, Bool.and_true]
  rfl

variable {checks : CredentialChecks}

/-- Staging touches neither the store nor the pair in force. -/
theorem stage_ok {ram staged : Ram} {request : Request} {seeded : Bool}
    (ok : stage ram request = .ok (staged, seeded)) :
    staged.store = ram.store ∧ staged.hasValidSnapshot = ram.hasValidSnapshot := by
  cases request <;> simp only [stage] at ok <;> split at ok
  all_goals first
    | cases ok
    | (split at ok
       · cases ok
         exact ⟨rfl, rfl⟩
       · cases ok)

/-- The three ways in which an upload ends. -/
theorem mutate_cases (checks : CredentialChecks) (ram : Ram) (request : Request)
    (faults : SectorFaults) :
    (∃ status after, propose checks ram request = .error status
        ∧ mutate checks ram request faults = (after, .refused status)
        ∧ after.store = ram.store ∧ after.hasValidSnapshot = ram.hasValidSnapshot)
      ∨ (∃ candidate staged, propose checks ram request = .ok ⟨candidate, ram.store.snapshot.crc⟩
        ∧ mutate checks ram request faults = activate staged candidate faults
        ∧ staged.store = ram.store ∧ staged.hasValidSnapshot = ram.hasValidSnapshot
        ∧ ∃ seeded, tryActivate checks seeded staged = .save candidate) := by
  unfold propose mutate
  cases staging : stage ram request with
  | error status => exact .inl ⟨status, ram, rfl, rfl, rfl, rfl⟩
  | ok staging' =>
      obtain ⟨staged, seeded⟩ := staging'
      obtain ⟨sameStore, sameFlag⟩ := stage_ok staging
      cases activation : tryActivate checks seeded staged with
      | keep status => exact .inl ⟨status, staged, by simp [activation], by simp [activation],
          sameStore, sameFlag⟩
      | discard status => exact .inl ⟨status, clearStaging staged, by simp [activation],
          by simp [activation], sameStore, sameFlag⟩
      | save candidate => exact .inr ⟨candidate, staged, by simp [activation],
          by simp [activation], sameStore, sameFlag, seeded, activation⟩

/-- An activation saves only a pair that parses and belongs together. -/
theorem tryActivate_save {ram : Ram} {seeded : Bool} {candidate : Body}
    (activation : tryActivate checks seeded ram = .save candidate) :
    ∃ certificate key, certificateData ram = some certificate ∧ keyData ram = some key
      ∧ checks.certificateParses certificate = true ∧ checks.keyParses key = true
      ∧ checks.pairs certificate key = true
      ∧ candidate = withPair ram.store.snapshot.body certificate key := by
  unfold tryActivate at activation
  cases certificateFound : certificateData ram with
  | none => simp [certificateFound] at activation
  | some certificate =>
      cases keyFound : keyData ram with
      | none => simp [certificateFound, keyFound] at activation
      | some key =>
          simp only [certificateFound, keyFound] at activation
          split at activation
          · cases activation
          rename_i parses
          split at activation
          · rename_i paired
            simp only [Bool.not_eq_true', Bool.not_eq_false, Bool.and_eq_true] at parses
            cases activation
            exact ⟨certificate, key, rfl, rfl, parses.1.2, parses.2, paired, rfl⟩
          · split at activation <;> cases activation

theorem certificateData_length {ram : Ram} {certificate : List UInt8}
    (data : certificateData ram = some certificate) : certificate.length ≤ maxCertificateSize := by
  unfold certificateData at data
  split at data
  · rename_i staged _
    cases data
    exact staged.fits
  · split at data
    · cases data
      simp only [Body.certificateBytes, List.length_take, Vector.length_toList]
      omega
    · cases data

theorem keyData_length {ram : Ram} {key : List UInt8}
    (data : keyData ram = some key) : key.length ≤ maxKeySize := by
  unfold keyData at data
  split at data
  · rename_i staged _
    cases data
    exact staged.fits
  · split at data
    · cases data
      simp only [Body.keyBytes, List.length_take, Vector.length_toList]
      omega
    · cases data

theorem withPair_wellFormed {body : Body} {certificate key : List UInt8}
    (certificateFits : certificate.length ≤ maxCertificateSize) (keyFits : key.length ≤ maxKeySize) :
    (withPair body certificate key).WellFormed := by
  constructor
  · exact Nat.le_trans (Nat.mod_le _ _) certificateFits
  · exact Nat.le_trans (Nat.mod_le _ _) keyFits

/-- An activation is a save of the store, with the flag and the staging around it. -/
theorem activate_saves (ram : Ram) (candidate : Body) (faults : SectorFaults) :
    ((activate ram candidate faults).1.store, (activate ram candidate faults).2) =
      Prod.map id Outcome.ending
        (format.save faults ram.store ⟨candidate, ram.store.snapshot.crc⟩) := by
  unfold activate
  cases outcome : (format.save faults ram.store ⟨candidate, ram.store.snapshot.crc⟩).2 <;>
    simp only [outcome, Prod.map, Outcome.ending, clearStaging, id_eq]

theorem activate_saved {ram : Ram} {candidate : Body} {faults : SectorFaults}
    {snapshot : Snapshot} (saved : (activate ram candidate faults).2 = .saved snapshot) :
    activePair (activate ram candidate faults).1 = some snapshot.body.pair := by
  have ended := congrArg Prod.snd (activate_saves ram candidate faults)
  have outcome : (format.save faults ram.store ⟨candidate, ram.store.snapshot.crc⟩).2 =
      .saved snapshot := Outcome.ending_eq_saved.mp (ended.symm.trans saved)
  have inMemory := save_saved outcome
  simp [activate, outcome, activePair, clearStaging, inMemory]

theorem activate_unsaved {ram : Ram} {candidate : Body} {faults : SectorFaults}
    (unsaved : ∀ snapshot, (activate ram candidate faults).2 ≠ .saved snapshot) :
    activePair (activate ram candidate faults).1 = activePair ram := by
  have ended := congrArg Prod.snd (activate_saves ram candidate faults)
  have outcome : ∀ snapshot,
      (format.save faults ram.store ⟨candidate, ram.store.snapshot.crc⟩).2 ≠ .saved snapshot :=
    fun snapshot saved => unsaved snapshot (ended.trans (Outcome.ending_eq_saved.mpr saved))
  have inMemory := (save_unsaved outcome).1
  unfold activate
  cases result : (format.save faults ram.store ⟨candidate, ram.store.snapshot.crc⟩).2 with
  | saved snapshot => exact absurd result (outcome snapshot)
  | failed => simp [result, activePair, clearStaging, inMemory]
  | lost snapshot => simp [result, activePair, inMemory]

theorem activePair_congr {ram other : Ram} (store : ram.store = other.store)
    (flag : ram.hasValidSnapshot = other.hasValidSnapshot) : activePair ram = activePair other := by
  rw [activePair, activePair, store, flag]

theorem init_found {banks : Banks Sector} {boot : BootFaults SectorFaults}
    (readable : boot.Readable) {side : Side} {snapshot : Snapshot}
    (newest : format.newest banks = some (side, snapshot)) :
    init banks boot = (⟨⟨banks, snapshot, side⟩, true, none, none⟩, .ready) := by
  simp [init, format.readNewest_readable readable, newest]

theorem init_blank {banks : Banks Sector} {boot : BootFaults SectorFaults}
    (readable : boot.Readable) (blank : Blank format banks) :
    init banks boot = (⟨⟨banks, empty, .b⟩, false, none, none⟩, .ready) := by
  simp [init, format.readNewest_readable readable, blank.newest_eq]

theorem init_rooted (banks : Banks Sector) (boot : BootFaults SectorFaults) :
    (machine checks).Rooted (init banks boot).1 := by
  unfold init
  cases newest : format.readNewest boot.reads banks with
  | none => exact .inr ⟨rfl, rfl, rfl, rfl⟩
  | some found => exact .inl ⟨format.readNewest_loads newest, rfl⟩

theorem generation_propose {ram : Ram} {request : Request} {candidate : Snapshot}
    (proposed : propose checks ram request = .ok candidate) :
    candidate.body.generation = ram.store.snapshot.body.generation := by
  rcases mutate_cases checks ram request .done with ⟨_, _, refused, _⟩ |
    ⟨body, staged, accepted, _, same, _, seeded, activation⟩
  · rw [refused] at proposed
    cases proposed
  · obtain ⟨certificate, key, _, _, _, _, _, rfl⟩ := tryActivate_save activation
    rw [accepted] at proposed
    cases proposed
    rw [same]
    rfl

theorem propose_wellFormed {ram : Ram} {request : Request} {candidate : Snapshot}
    (proposed : propose checks ram request = .ok candidate) : candidate.body.WellFormed := by
  rcases mutate_cases checks ram request .done with ⟨_, _, refused, _⟩ |
    ⟨body, staged, accepted, _, _, _, seeded, activation⟩
  · rw [refused] at proposed
    cases proposed
  · obtain ⟨certificate, key, certificateFound, keyFound, _, _, _, rfl⟩ :=
      tryActivate_save activation
    rw [accepted] at proposed
    cases proposed
    exact withPair_wellFormed (certificateData_length certificateFound) (keyData_length keyFound)

theorem mutate_refuses {ram : Ram} {request : Request} {status : Status} (faults : SectorFaults)
    (proposed : propose checks ram request = .error status) :
    (mutate checks ram request faults).1.store = ram.store
      ∧ (mutate checks ram request faults).2 = .refused status := by
  rcases mutate_cases checks ram request faults with ⟨_, after, refused, result, same, _⟩ |
    ⟨_, _, accepted, _⟩
  · rw [refused] at proposed
    cases proposed
    rw [result]
    exact ⟨same, rfl⟩
  · rw [accepted] at proposed
    cases proposed

theorem mutate_saves {ram : Ram} {request : Request} {candidate : Snapshot} {faults : SectorFaults}
    (proposed : propose checks ram request = .ok candidate) :
    ((mutate checks ram request faults).1.store, (mutate checks ram request faults).2) =
      Prod.map id Outcome.ending (format.save faults ram.store candidate) := by
  rcases mutate_cases checks ram request faults with ⟨_, _, refused, _⟩ |
    ⟨body, staged, accepted, result, same, _⟩
  · rw [refused] at proposed
    cases proposed
  · rw [accepted] at proposed
    cases proposed
    rw [result, activate_saves, same]

theorem activePair_saved {ram : Ram} {request : Request} {faults : SectorFaults}
    {snapshot : Snapshot} (saved : (mutate checks ram request faults).2 = .saved snapshot) :
    activePair (mutate checks ram request faults).1 = some snapshot.body.pair := by
  rcases mutate_cases checks ram request faults with ⟨_, _, _, result, _⟩ | ⟨_, _, _, result, _⟩
  · rw [result] at saved
    cases saved
  · rw [result] at saved ⊢
    exact activate_saved saved

theorem activePair_kept {ram : Ram} {request : Request} {faults : SectorFaults}
    (unsaved : ∀ snapshot, (mutate checks ram request faults).2 ≠ .saved snapshot) :
    activePair (mutate checks ram request faults).1 = activePair ram := by
  rcases mutate_cases checks ram request faults with ⟨_, _, _, result, store, flag⟩ |
    ⟨_, _, _, result, store, flag, _⟩
  · rw [result]
    exact activePair_congr store flag
  · rw [result] at unsaved ⊢
    rw [activate_unsaved unsaved]
    exact activePair_congr store flag

theorem machine_recovering (checks : CredentialChecks) : (machine checks).Recovering where
  generation_propose := generation_propose
  mutate_refuses faults proposed := mutate_refuses faults proposed
  mutate_saves proposed _ := mutate_saves proposed
  contents_saved := activePair_saved
  contents_kept := activePair_kept
  start_found {banks boot side snapshot} readable newest := by
    have started : init banks boot = _ := init_found readable newest
    simp [machine, started, activePair]
  start_fresh {banks boot} readable blank _ := by
    have started : init banks boot = _ := init_blank readable blank
    simp [machine, started, activePair]
  start_persists := nofun
  start_rooted _ _ := init_rooted _ _
  empty_persists := nofun
  older_valid _ := rfl
  older_stamped _ := rfl
  stamped_valid {_ _ candidate} _ proposed :=
    (scheme.format_isValid_stamp fits candidate).trans (accepts_mark (propose_wellFormed proposed))
  loaded_stamp _ := rfl

/-- Nothing is found in an erased sector. -/
theorem load_erased : format.load (erased sectorSize) = none := by
  have rejected : scheme.accepts (scheme.layout.decode (erased sectorSize)).body = false := by
    decide
  exact load_eq_none (scheme.isValid_of_rejected rejected)

end HealthCheckFirmware.TlsServerCredentials
