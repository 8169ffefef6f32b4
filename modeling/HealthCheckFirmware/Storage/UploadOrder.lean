import HealthCheckFirmware.Lib.StoredProperty
import HealthCheckFirmware.Storage.TlsServerCredentials

/-!
# The order of the uploads of a pair

A certificate and its key are uploaded one after the other. The first upload may pair
with the other half of the pair in force and be saved with it at once, or wait. In every
state that the store can reach, what is in force has parsed before (`Reachable.sound`), so
the first upload is never thrown away; the second one then finds its counterpart, staged
or in force, and the pair is saved (`mutate_completes`). Both orders end alike in memory
(`either_order`).

In flash the pair lasts only if the bank that was active gives way to it (`Yields`). It
does not after a start-up that could not read that bank: the store then counts from
zero again, and the next start-up takes the older pair (`unread_pair_returns`).
-/

set_option autoImplicit false

namespace HealthCheckFirmware.TlsServerCredentials

open TwoBank

variable {checks : CredentialChecks}

/-! ## What a saved pair holds -/

theorem take_ofFn_getD {size : ℕ} {bytes : List UInt8} (fits : bytes.length ≤ size) :
    (Vector.ofFn fun index : Fin size => bytes.getD index 0).toList.take bytes.length = bytes := by
  refine List.ext_getElem ?_ fun index inside inside' => ?_
  · simp only [List.length_take, Vector.length_toList]
    omega
  · simp [List.getElem_take, inside']

theorem certificateBytes_withPair {body : Body} {certificate key : List UInt8}
    (fits : certificate.length ≤ maxCertificateSize) :
    (withPair body certificate key).certificateBytes = certificate := by
  have short : (UInt16.ofNat certificate.length).toNat = certificate.length :=
    UInt16.toNat_ofNat_of_lt' (Nat.lt_of_le_of_lt fits (by decide))
  rw [Body.certificateBytes, withPair, short]
  exact take_ofFn_getD fits

theorem keyBytes_withPair {body : Body} {certificate key : List UInt8}
    (fits : key.length ≤ maxKeySize) : (withPair body certificate key).keyBytes = key := by
  have short : (UInt16.ofNat key.length).toNat = key.length :=
    UInt16.toNat_ofNat_of_lt' (Nat.lt_of_le_of_lt fits (by decide))
  rw [Body.keyBytes, withPair, short]
  exact take_ofFn_getD fits

/-! ## Reachable states -/

/-- The states of the store from a start-up on an unwritten flash, through uploads and
further start-ups. Operations of the flash and reads may fail at any point. -/
inductive Reachable (checks : CredentialChecks) : Ram → Prop
  | start {banks : Banks Sector} (unwritten : Blank format banks) (boot : BootFaults SectorFaults) :
      Reachable checks (init banks boot).1
  | upload {ram : Ram} (reached : Reachable checks ram) (request : Request) {faults : SectorFaults}
      (detected : ∀ candidate, propose checks ram request = .ok candidate →
        Detected format faults ram.store (format.stamp candidate)) :
      Reachable checks (mutate checks ram request faults).1
  | restart {ram : Ram} (reached : Reachable checks ram) (boot : BootFaults SectorFaults) :
      Reachable checks (init ram.store.banks boot).1

/-- Both halves of a snapshot parse. -/
def Body.Parses (checks : CredentialChecks) (body : Body) : Prop :=
  checks.certificateParses body.certificateBytes = true ∧ checks.keyParses body.keyBytes = true

/-- The snapshot in force and all that the banks hold parse. -/
structure Sound (checks : CredentialChecks) (ram : Ram) : Prop where
  inForce : ram.hasValidSnapshot = true → ram.store.snapshot.body.Parses checks
  stored : Stored format (fun snapshot => snapshot.body.Parses checks) ram.store.banks

theorem init_sound {banks : Banks Sector}
    (stored : Stored format (fun snapshot => snapshot.body.Parses checks) banks) (boot : BootFaults SectorFaults) :
    Sound checks (init banks boot).1 := by
  rw [init]
  cases newest : format.readNewest boot.reads banks with
  | none => exact ⟨fun ready => absurd ready Bool.false_ne_true, stored⟩
  | some found =>
      obtain ⟨side, snapshot⟩ := found
      exact ⟨fun _ => stored side snapshot (format.readNewest_loads newest), stored⟩

/-- What an activation saves has parsed. -/
theorem parses_of_tryActivate {ram : Ram} {seeded : Bool} {candidate : Body}
    (activation : tryActivate checks seeded ram = .save candidate) :
    (mark candidate).Parses checks := by
  obtain ⟨certificate, key, certificateFound, keyFound, certificateParses, keyParses, -, rfl⟩ :=
    tryActivate_save activation
  constructor
  · have same := @certificateBytes_withPair ram.store.snapshot.body certificate key
      (certificateData_length certificateFound)
    exact (congrArg checks.certificateParses same).trans certificateParses
  · have same := @keyBytes_withPair ram.store.snapshot.body certificate key
      (keyData_length keyFound)
    exact (congrArg checks.keyParses same).trans keyParses

theorem activate_sound {ram : Ram} (sound : Sound checks ram) {candidate : Body}
    (parses : (mark candidate).Parses checks) {faults : SectorFaults}
    (detected : Detected format faults ram.store
      (format.stamp ⟨candidate, ram.store.snapshot.crc⟩)) :
    Sound checks (activate ram candidate faults).1 := by
  have stampedParses :
      (format.stamp ⟨candidate, ram.store.snapshot.crc⟩).body.Parses checks := parses
  have store : (activate ram candidate faults).1.store =
      (format.save faults ram.store ⟨candidate, ram.store.snapshot.crc⟩).1 :=
    congrArg Prod.fst (activate_saves ram candidate faults)
  refine ⟨fun valid => ?_, ?_⟩
  · rw [store]
    rcases save_snapshot faults ram.store ⟨candidate, ram.store.snapshot.crc⟩ with kept | stamped
    · cases outcome : (format.save faults ram.store ⟨candidate, ram.store.snapshot.crc⟩).2 with
      | saved snapshot =>
          rw [save_saved outcome, save_saved_eq outcome]
          exact stampedParses
      | failed =>
          rw [kept]
          exact sound.inForce (by simpa [activate, outcome, clearStaging] using valid)
      | lost snapshot =>
          rw [kept]
          exact sound.inForce (by simpa [activate, outcome] using valid)
    · rw [stamped]
      exact stampedParses
  · rw [store]
    exact sound.stored.save detected stampedParses

/-- **What is in force has parsed**, in every state that the store can reach. -/
theorem Reachable.sound {ram : Ram} (reached : Reachable checks ram) : Sound checks ram := by
  induction reached with
  | start unwritten boot =>
      exact init_sound unwritten.stored boot
  | @upload ram _ request faults detected ih =>
      rcases mutate_cases checks ram request faults with ⟨_, after, _, result, store, flag⟩ |
        ⟨candidate, staged, proposed, result, store, flag, seeded, activation⟩
      · rw [result]
        exact ⟨fun valid => store ▸ ih.inForce (flag ▸ valid), store ▸ ih.stored⟩
      · rw [result]
        have stagedSound : Sound checks staged :=
          ⟨fun valid => store ▸ ih.inForce (flag ▸ valid), store ▸ ih.stored⟩
        refine activate_sound stagedSound (parses_of_tryActivate activation) ?_
        rw [store]
        exact detected _ proposed
  | restart _ boot ih => exact init_sound ih.stored boot

/-! ## What the server presents -/

/-- The server presents this pair, whatever is compiled in. -/
def Presents (certificate key : List UInt8) (ram : Ram) : Prop :=
  ∀ compiledCertificate compiledKey, getCertificate compiledCertificate ram = certificate
    ∧ getPrivateKey compiledKey ram = key

theorem presents_iff {certificate key : List UInt8} {ram : Ram} :
    Presents certificate key ram ↔ ram.hasValidSnapshot = true
      ∧ ram.store.snapshot.body.certificateBytes = certificate
      ∧ ram.store.snapshot.body.keyBytes = key := by
  constructor
  · intro presents
    cases override : ram.hasValidSnapshot with
    | true => simpa [getCertificate, getPrivateKey, override] using presents [] []
    | false =>
        -- without an override any other certificate compiled in would be presented
        have compiled := (presents (0 :: certificate) []).1
        simp [getCertificate, override] at compiled
  · rintro ⟨override, rfl, rfl⟩ compiledCertificate compiledKey
    simp [getCertificate, getPrivateKey, override]

/-- Every start-up that reads the flash presents the pair. -/
def Lasting (certificate key : List UInt8) (ram : Ram) : Prop :=
  ∀ boot : BootFaults SectorFaults, boot.Readable →
    Presents certificate key (init ram.store.banks boot).1

/-- The state after a call that has put a pair in force, with nothing staged. -/
structure InForce (certificate key : List UInt8) (result : Ram × Ending Status Snapshot) :
    Prop where
  activated : status result.2 = .activated
  nothingStaged : result.1.pendingCertificate = none ∧ result.1.pendingKey = none
  presents : Presents certificate key result.1

/-- What the active bank holds gives way to the snapshot that is saved next, or is the same
pair. -/
def Yields (ram : Ram) (certificate key : List UInt8) : Prop :=
  ∀ held, format.load (ram.store.banks.get ram.store.active) = some held →
    Supersedes format ram.store.active held (format.stamp ram.store.snapshot)
      ∨ held.body.certificateBytes = certificate ∧ held.body.keyBytes = key

/-! ## One upload -/

variable {ram staged : Ram} {request : Request} {certificate key : List UInt8}

/-- The store after the save of a pair: it is in the other bank, one generation on. -/
structure Saved (certificate key : List UInt8) (before after : Store Sector Snapshot) : Prop where
  loads : format.load (after.banks.get after.active) = some after.snapshot
  active : after.active = before.active.other
  kept : after.banks.get before.active = before.banks.get before.active
  generation : after.snapshot.body.generation = before.snapshot.body.generation + 1
  certificate : after.snapshot.body.certificateBytes = certificate
  key : after.snapshot.body.keyBytes = key

/-- **An upload that finds its counterpart puts the pair in force.** -/
theorem mutate_completes (staging : stage ram request = .ok (staged, true))
    (certificateFound : certificateData staged = some certificate)
    (keyFound : keyData staged = some key)
    (certificateParses : checks.certificateParses certificate = true)
    (keyParses : checks.keyParses key = true) (paired : checks.pairs certificate key = true) :
    InForce certificate key (mutate checks ram request .done)
      ∧ Saved certificate key ram.store (mutate checks ram request .done).1.store := by
  have activation : tryActivate checks true staged =
      .save (withPair staged.store.snapshot.body certificate key) := by
    simp [tryActivate, certificateFound, keyFound, certificateParses, keyParses, paired]
  have result : mutate checks ram request .done =
      activate staged (withPair staged.store.snapshot.body certificate key) .done := by
    simp [mutate, staging, activation]
  have certificateFits := certificateData_length certificateFound
  have keyFits := keyData_length keyFound
  have wellFormed := @withPair_wellFormed staged.store.snapshot.body _ _ certificateFits keyFits
  have valid : format.isValid (format.write (format.stamp
      ⟨withPair staged.store.snapshot.body certificate key, staged.store.snapshot.crc⟩)
        format.blank) = true :=
    (scheme.format_isValid_stamp fits _).trans (accepts_mark wellFormed)
  have saved := save_done staged.store valid
  have after : activate staged (withPair staged.store.snapshot.body certificate key) .done =
      (clearStaging { staged with
          store := (format.save .done staged.store
            ⟨withPair staged.store.snapshot.body certificate key,
              staged.store.snapshot.crc⟩).1, hasValidSnapshot := true },
        .saved (format.stamp ⟨withPair staged.store.snapshot.body certificate key,
          staged.store.snapshot.crc⟩)) := by
    simp only [activate, saved]
  have sameCertificate := @certificateBytes_withPair staged.store.snapshot.body certificate key
    certificateFits
  have sameKey := @keyBytes_withPair staged.store.snapshot.body certificate key keyFits
  rw [result, after, saved, ← (stage_ok staging).1]
  refine ⟨⟨rfl, ⟨rfl, rfl⟩, presents_iff.mpr ⟨rfl, sameCertificate, sameKey⟩⟩, ?_⟩
  refine ⟨?_, rfl, ?_, rfl, sameCertificate, sameKey⟩
  · simp only [clearStaging, Banks.get_set_self]
    exact load_write valid
  · simp only [clearStaging, Banks.get_set_other]

theorem supersedes_congr {side : Side} {held first second : Snapshot}
    (same : first.body.generation = second.body.generation) :
    Supersedes format side held first ↔ Supersedes format side held second := by
  have generations : format.generation first = format.generation second := same
  cases side <;> simp only [Supersedes, generations]

theorem supersedes_b_iff {held found : Snapshot} :
    Supersedes format .b held found ↔ held.body.generation ≤ found.body.generation := Iff.rfl

/-- What a start-up takes after a save: the pair saved, unless the bank that was active
before holds a snapshot that does not give way to it. -/
theorem Saved.newest_eq {before after : Store Sector Snapshot}
    (saved : Saved certificate key before after) :
    format.newest after.banks =
      match format.load (before.banks.get before.active) with
      | none => some (before.active.other, after.snapshot)
      | some held =>
          if Supersedes format before.active held after.snapshot then
            some (before.active.other, after.snapshot)
          else some (before.active, held) := by
  have loads : format.load (after.banks.get before.active.other) = some after.snapshot :=
    saved.active ▸ saved.loads
  have banks : after.banks.set before.active.other (after.banks.get before.active.other) =
      after.banks := Banks.set_get _ _
  rw [← saved.kept]
  cases held : format.load (after.banks.get before.active) with
  | none =>
      have newest := newest_set_other_of_none held (after.banks.get before.active.other)
      rw [banks, loads] at newest
      exact newest
  | some older =>
      have newest := newest_set_other held (after.banks.get before.active.other)
      rw [banks, loads] at newest
      exact newest

theorem presents_init_iff {banks : Banks Sector} {side : Side} {snapshot : Snapshot}
    (newest : format.newest banks = some (side, snapshot)) {boot : BootFaults SectorFaults}
    (readable : boot.Readable) :
    Presents certificate key (init banks boot).1 ↔
      snapshot.body.certificateBytes = certificate ∧ snapshot.body.keyBytes = key := by
  rw [presents_iff, init_found readable newest]
  simp

/-- **A saved pair lasts exactly if the bank that was active before gives way to it.** -/
theorem Saved.lasting_iff {after : Ram} (saved : Saved certificate key ram.store after.store) :
    Lasting certificate key after ↔ Yields ram certificate key := by
  have newest := saved.newest_eq
  have stamped : (format.stamp ram.store.snapshot).body.generation =
      after.store.snapshot.body.generation := saved.generation.symm
  have ready : (⟨fun _ => true, .done⟩ : BootFaults SectorFaults).Readable := fun _ => rfl
  rw [Yields]
  cases held : format.load (ram.store.banks.get ram.store.active) with
  | none =>
      simp only [held] at newest
      refine iff_of_true (fun boot readable => ?_) nofun
      exact (presents_init_iff newest readable).mpr ⟨saved.certificate, saved.key⟩
  | some older =>
      simp only [Option.some.injEq, forall_eq', supersedes_congr stamped]
      by_cases gives : Supersedes format ram.store.active older after.store.snapshot
      · simp only [held, gives, if_true] at newest
        refine iff_of_true (fun boot readable => ?_) (.inl gives)
        exact (presents_init_iff newest readable).mpr ⟨saved.certificate, saved.key⟩
      · simp only [held, gives, if_false] at newest
        rw [or_iff_right gives]
        exact ⟨fun lasting => (presents_init_iff newest ready).mp (lasting _ ready),
          fun same boot readable => (presents_init_iff newest readable).mpr same⟩

/-- The bank of a pair just saved gives way to the next one unless the generation then wraps
round. -/
theorem Saved.yields_iff {after : Ram} (saved : Saved certificate key ram.store after.store)
    (nextCertificate nextKey : List UInt8) :
    Yields after nextCertificate nextKey ↔
      ram.store.snapshot.body.generation ≠ 0xFFFFFFFE
        ∨ certificate = nextCertificate ∧ key = nextKey := by
  have next : format.generation (format.stamp after.store.snapshot) =
      format.generation after.store.snapshot + 1 := format.generation_stamp _
  have last : format.generation after.store.snapshot ≠ 0xFFFFFFFF ↔
      ram.store.snapshot.body.generation ≠ 0xFFFFFFFE := by
    have generation : format.generation after.store.snapshot =
        ram.store.snapshot.body.generation + 1 := saved.generation
    have before : (0xFFFFFFFF : UInt32) = 0xFFFFFFFE + 1 := rfl
    rw [generation, before, Ne, Ne, UInt32.add_left_inj]
  rw [Yields, saved.loads]
  simp only [Option.some.injEq, forall_eq', supersedes_next next, last, saved.certificate,
    saved.key]

/-- An upload that does not find a counterpart, or one that it does not belong to, waits. -/
theorem mutate_waits (staging : stage ram request = .ok (staged, true))
    (apart : certificateData staged = none ∨ keyData staged = none ∨
      ∃ certificate key, certificateData staged = some certificate ∧ keyData staged = some key ∧
        checks.certificateParses certificate = true ∧ checks.keyParses key = true ∧
        checks.pairs certificate key = false ∧
        (staged.pendingCertificate = none ∨ staged.pendingKey = none)) :
    mutate checks ram request .done = (staged, .refused .pending) := by
  have activation : tryActivate checks true staged = .keep .pending := by
    rcases apart with none | none | ⟨certificate, key, certificateFound, keyFound,
      certificateParses, keyParses, unpaired, alone⟩
    · simp [tryActivate, none]
    · cases found : certificateData staged with
      | none => simp [tryActivate, found]
      | some certificate => simp [tryActivate, found, none]
    · rcases alone with alone | alone
      · simp [tryActivate, certificateFound, keyFound, certificateParses, keyParses, unpaired, alone]
      · simp [tryActivate, certificateFound, keyFound, certificateParses, keyParses, unpaired, alone]
  simp [mutate, staging, activation]

/-! ## Two uploads -/

/-- The conditions under which a call gets its lock and its random numbers. -/
def working : Conditions := ⟨true, true⟩

theorem stage_certificate (ram : Ram)
    (size : 0 < certificate.length ∧ certificate.length ≤ maxCertificateSize) :
    stage ram (.stageCertificate certificate working) =
      .ok ({ ram with pendingCertificate := some ⟨certificate, size.2⟩ }, true) := by
  simp [stage, size, working]

theorem stage_key (ram : Ram) (size : 0 < key.length ∧ key.length ≤ maxKeySize) :
    stage ram (.stagePrivateKey key working) =
      .ok ({ ram with pendingKey := some ⟨key, size.2⟩ }, true) := by
  simp [stage, size, working]

/-- When the pair lasts if the certificate is uploaded first. A certificate that belongs to
the key in force is saved with it at once, and there are two saves; otherwise it waits. -/
def CertificateFirst (checks : CredentialChecks) (ram : Ram) (certificate key : List UInt8) :
    Prop :=
  if ram.hasValidSnapshot = true
      ∧ checks.pairs certificate ram.store.snapshot.body.keyBytes = true then
    ram.store.snapshot.body.generation ≠ 0xFFFFFFFE ∨ ram.store.snapshot.body.keyBytes = key
  else Yields ram certificate key

/-- When the pair lasts if the key is uploaded first. -/
def KeyFirst (checks : CredentialChecks) (ram : Ram) (certificate key : List UInt8) : Prop :=
  if ram.hasValidSnapshot = true
      ∧ checks.pairs ram.store.snapshot.body.certificateBytes key = true then
    ram.store.snapshot.body.generation ≠ 0xFFFFFFFE
      ∨ ram.store.snapshot.body.certificateBytes = certificate
  else Yields ram certificate key

/-- What was put in force is found by the next upload. -/
theorem InForce.found {result : Ram × Ending Status Snapshot}
    (inForce : InForce certificate key result) :
    certificateData result.1 = some certificate ∧ keyData result.1 = some key := by
  obtain ⟨override, sameCertificate, sameKey⟩ := presents_iff.mp inForce.presents
  rw [certificateData, keyData, inForce.nothingStaged.1, inForce.nothingStaged.2]
  simp only [override, if_true, sameCertificate, sameKey, and_self]

section Orders

variable (sound : Sound checks ram)
  (nothing : ram.pendingCertificate = none ∧ ram.pendingKey = none)
  (certificateSize : 0 < certificate.length ∧ certificate.length ≤ maxCertificateSize)
  (keySize : 0 < key.length ∧ key.length ≤ maxKeySize)
  (certificateParses : checks.certificateParses certificate = true)
  (keyParses : checks.keyParses key = true)

include sound nothing certificateSize certificateParses in
/-- After the upload of a certificate, it is what the next upload will find. -/
theorem certificate_first (key : List UInt8) :
    let middle := (mutate checks ram (.stageCertificate certificate working) .done).1
    certificateData middle = some certificate
      ∧ (Yields middle certificate key ↔ CertificateFirst checks ram certificate key) := by
  have staging := stage_certificate ram certificateSize
  unfold CertificateFirst
  by_cases override : ram.hasValidSnapshot = true
  · have found : keyData { ram with pendingCertificate := some ⟨certificate, certificateSize.2⟩ } =
        some ram.store.snapshot.body.keyBytes := by
      simp [keyData, nothing.2, override]
    obtain ⟨-, activeParses⟩ := sound.inForce override
    cases paired : checks.pairs certificate ram.store.snapshot.body.keyBytes with
    | true =>
        obtain ⟨inForce, saved⟩ :=
          mutate_completes staging rfl found certificateParses activeParses paired
        refine ⟨inForce.found.1, ?_⟩
        rw [if_pos ⟨override, rfl⟩, saved.yields_iff]
        simp
    | false =>
        rw [mutate_waits staging (.inr (.inr ⟨_, _, rfl, found, certificateParses, activeParses,
          paired, .inr nothing.2⟩)), if_neg (by simp)]
        exact ⟨rfl, Iff.rfl⟩
  · have missing : keyData { ram with pendingCertificate := some ⟨certificate, certificateSize.2⟩ } =
        none := by
      simp [keyData, nothing.2, override]
    rw [mutate_waits staging (.inr (.inl missing)), if_neg fun both => override both.1]
    exact ⟨rfl, Iff.rfl⟩

include sound nothing keySize keyParses in
/-- After the upload of a key, it is what the next upload will find. -/
theorem key_first (certificate : List UInt8) :
    let middle := (mutate checks ram (.stagePrivateKey key working) .done).1
    keyData middle = some key
      ∧ (Yields middle certificate key ↔ KeyFirst checks ram certificate key) := by
  have staging := stage_key ram keySize
  unfold KeyFirst
  by_cases override : ram.hasValidSnapshot = true
  · have found : certificateData { ram with pendingKey := some ⟨key, keySize.2⟩ } =
        some ram.store.snapshot.body.certificateBytes := by
      simp [certificateData, nothing.1, override]
    obtain ⟨activeParses, -⟩ := sound.inForce override
    cases paired : checks.pairs ram.store.snapshot.body.certificateBytes key with
    | true =>
        obtain ⟨inForce, saved⟩ :=
          mutate_completes staging found rfl activeParses keyParses paired
        refine ⟨inForce.found.2, ?_⟩
        rw [if_pos ⟨override, rfl⟩, saved.yields_iff]
        simp
    | false =>
        rw [mutate_waits staging (.inr (.inr ⟨_, _, found, rfl, activeParses, keyParses,
          paired, .inl nothing.1⟩)), if_neg (by simp)]
        exact ⟨rfl, Iff.rfl⟩
  · have missing : certificateData { ram with pendingKey := some ⟨key, keySize.2⟩ } = none := by
      simp [certificateData, nothing.1, override]
    rw [mutate_waits staging (.inl missing), if_neg fun both => override both.1]
    exact ⟨rfl, Iff.rfl⟩

end Orders

/-- **The order of the uploads does not matter for what is in force.** From every reachable
state with nothing staged, a certificate and a key that parse, belong together and fit are in
force after both uploads, in either order, with nothing staged and the second upload
answered as activated. They are what the next start-up presents exactly if the bank that
is active gives way to a new snapshot, or, where the first upload is saved on its own, if
the generation does not wrap round at the second. -/
theorem either_order (reached : Reachable checks ram)
    (nothing : ram.pendingCertificate = none ∧ ram.pendingKey = none)
    (certificateSize : 0 < certificate.length ∧ certificate.length ≤ maxCertificateSize)
    (keySize : 0 < key.length ∧ key.length ≤ maxKeySize)
    (certificateParses : checks.certificateParses certificate = true)
    (keyParses : checks.keyParses key = true) (paired : checks.pairs certificate key = true) :
    let certificateThenKey :=
      mutate checks (mutate checks ram (.stageCertificate certificate working) .done).1
        (.stagePrivateKey key working) .done
    let keyThenCertificate :=
      mutate checks (mutate checks ram (.stagePrivateKey key working) .done).1
        (.stageCertificate certificate working) .done
    InForce certificate key certificateThenKey ∧ InForce certificate key keyThenCertificate
      ∧ (Lasting certificate key certificateThenKey.1 ↔
        CertificateFirst checks ram certificate key)
      ∧ (Lasting certificate key keyThenCertificate.1 ↔ KeyFirst checks ram certificate key) := by
  have sound := reached.sound
  obtain ⟨certificateFound, certificateYields⟩ :=
    certificate_first sound nothing certificateSize certificateParses key
  obtain ⟨keyFound, keyYields⟩ := key_first sound nothing keySize keyParses certificate
  obtain ⟨firstInForce, firstSaved⟩ := mutate_completes
    (stage_key _ keySize) certificateFound rfl certificateParses keyParses paired
  obtain ⟨secondInForce, secondSaved⟩ := mutate_completes
    (stage_certificate _ certificateSize) rfl keyFound certificateParses keyParses paired
  exact ⟨firstInForce, secondInForce, firstSaved.lasting_iff.trans certificateYields,
    secondSaved.lasting_iff.trans keyYields⟩

/-- In a store whose active bank holds nothing but what is in memory, both orders last until
the generations run out. -/
theorem lasts_of_agrees
    (agrees : ∀ held, format.load (ram.store.banks.get ram.store.active) = some held →
      held = ram.store.snapshot)
    (unwrapped : ram.store.snapshot.body.generation.toNat + 2 < 2 ^ 32)
    (certificate key : List UInt8) :
    CertificateFirst checks ram certificate key ∧ KeyFirst checks ram certificate key := by
  have room (last : UInt32) (high : 2 ^ 32 ≤ last.toNat + 2) :
      ram.store.snapshot.body.generation ≠ last := by
    rintro rfl
    omega
  have yields : Yields ram certificate key := by
    intro held loads
    rw [agrees held loads]
    exact .inl ((supersedes_next (format.generation_stamp _)).mpr (room _ (by decide)))
  unfold CertificateFirst KeyFirst
  constructor
  · split
    · exact .inl (room _ (by decide))
    · exact yields
  · split
    · exact .inl (room _ (by decide))
    · exact yields

/-! ## A store that has never been written -/

/-- A test of the TLS library for which a certificate belongs to the key of the same bytes. -/
def sameBytes : CredentialChecks := ⟨fun _ => true, fun _ => true, fun certificate key =>
  certificate == key⟩

/-- The store as it comes up on erased sectors. -/
def newStore : Ram := (init ⟨erased sectorSize, erased sectorSize⟩ ⟨fun _ => true, .done⟩).1

theorem erased_blank : Blank format ⟨erased sectorSize, erased sectorSize⟩ := by
  intro side
  cases side <;> exact load_erased

theorem newStore_eq :
    newStore = ⟨⟨⟨erased sectorSize, erased sectorSize⟩, empty, .b⟩, false, none, none⟩ :=
  congrArg Prod.fst (init_blank (fun _ => rfl) erased_blank)

/-- The first pair of a new store is in force and lasts. -/
theorem either_order_first_pair :
    let certificateThenKey :=
      mutate sameBytes (mutate sameBytes newStore (.stageCertificate [1] working) .done).1
        (.stagePrivateKey [1] working) .done
    let keyThenCertificate :=
      mutate sameBytes (mutate sameBytes newStore (.stagePrivateKey [1] working) .done).1
        (.stageCertificate [1] working) .done
    (InForce [1] [1] certificateThenKey ∧ Lasting [1] [1] certificateThenKey.1)
      ∧ InForce [1] [1] keyThenCertificate ∧ Lasting [1] [1] keyThenCertificate.1 := by
  have lasts : CertificateFirst sameBytes newStore [1] [1] ∧ KeyFirst sameBytes newStore [1] [1] := by
    refine lasts_of_agrees ?_ ?_ [1] [1]
    · rw [newStore_eq]
      exact fun held loads => absurd ((erased_blank .b).symm.trans loads) nofun
    · rw [newStore_eq]
      decide
  obtain ⟨first, second, firstLasts, secondLasts⟩ := @either_order sameBytes newStore [1] [1]
    (.start erased_blank _) (by rw [newStore_eq]; exact ⟨rfl, rfl⟩) (by decide) (by decide)
    rfl rfl rfl
  exact ⟨⟨first, firstLasts.mpr lasts.1⟩, second, secondLasts.mpr lasts.2⟩

/-! ## A pair that comes back -/

/-- Both uploads of the pair with these bytes. -/
def uploadPair (ram : Ram) (bytes : List UInt8) : Ram × Ending Status Snapshot :=
  mutate sameBytes (mutate sameBytes ram (.stageCertificate bytes working) .done).1
    (.stagePrivateKey bytes working) .done

/-- An upload in which nothing fails is detected. -/
theorem detected_done {store : Store Sector Snapshot} {stamped : Snapshot} :
    Detected format .done store stamped := by
  intro snapshot loads
  obtain ⟨-, rfl⟩ := load_eq_some.mp loads
  exact .inl (format.read_write stamped)

theorem Reachable.uploadPair (reached : Reachable sameBytes ram) (bytes : List UInt8) :
    Reachable sameBytes (TlsServerCredentials.uploadPair ram bytes).1 :=
  .upload (.upload reached _ fun _ _ => detected_done) _ fun _ _ => detected_done

/-- A pair with other bytes than the one in force is saved by its second upload. -/
theorem uploadPair_saves (bytes : List UInt8)
    (size : 0 < bytes.length ∧ bytes.length ≤ maxKeySize)
    (nothing : ram.pendingCertificate = none ∧ ram.pendingKey = none)
    (other : ram.hasValidSnapshot = true → ram.store.snapshot.body.keyBytes ≠ bytes) :
    InForce bytes bytes (uploadPair ram bytes)
      ∧ Saved bytes bytes ram.store (uploadPair ram bytes).1.store := by
  have certificateSize : 0 < bytes.length ∧ bytes.length ≤ maxCertificateSize :=
    ⟨size.1, Nat.le_trans size.2 (by decide)⟩
  have staging := stage_certificate ram certificateSize
  have waits : mutate sameBytes ram (.stageCertificate bytes working) .done =
      ({ ram with pendingCertificate := some ⟨bytes, certificateSize.2⟩ }, .refused .pending) := by
    refine mutate_waits staging ?_
    by_cases override : ram.hasValidSnapshot = true
    · refine .inr (.inr ⟨bytes, ram.store.snapshot.body.keyBytes, rfl, ?_, rfl, rfl, ?_,
        .inr nothing.2⟩)
      · simp [keyData, nothing.2, override]
      · exact beq_eq_false_iff_ne.mpr (other override).symm
    · exact .inr (.inl (by simp [keyData, nothing.2, override]))
  rw [uploadPair, waits]
  exact mutate_completes (stage_key _ size) rfl rfl rfl rfl (beq_self_eq_true bytes)

/-- The store after two pairs. -/
def twoPairs (ram : Ram) : Ram := (uploadPair (uploadPair ram [1]).1 [2]).1

/-- The same flash after a start-up that could read neither sector. -/
def unread (ram : Ram) : Ram := (init (twoPairs ram).store.banks ⟨fun _ => false, .done⟩).1

theorem init_unread (banks : Banks Sector) :
    (init banks ⟨fun _ => false, .done⟩).1 = ⟨⟨banks, empty, .b⟩, false, none, none⟩ := rfl

/-- A store without a pair, which saves to sector A first. -/
structure Vacant (ram : Ram) : Prop where
  nothing : ram.pendingCertificate = none ∧ ram.pendingKey = none
  compiled : ram.hasValidSnapshot = false
  active : ram.store.active = .b
  generation : ram.store.snapshot.body.generation = 0

theorem Vacant.saves (vacant : Vacant ram) (bytes : List UInt8)
    (size : 0 < bytes.length ∧ bytes.length ≤ maxKeySize) :
    InForce bytes bytes (uploadPair ram bytes)
      ∧ Saved bytes bytes ram.store (uploadPair ram bytes).1.store :=
  uploadPair_saves bytes size vacant.nothing fun override =>
    absurd (vacant.compiled.symm.trans override) Bool.false_ne_true

theorem vacant_unread (ram : Ram) : Vacant (unread ram) := by
  rw [unread, init_unread]
  exact ⟨⟨rfl, rfl⟩, rfl, rfl, rfl⟩

/-- The second pair is in sector B, with generation 2. -/
theorem Vacant.twoPairs_held (vacant : Vacant ram) :
    ∃ held, format.load ((twoPairs ram).store.banks.get .b) = some held
      ∧ held.body.generation = 2 ∧ held.body.certificateBytes = [2]
      ∧ held.body.keyBytes = [2] := by
  obtain ⟨first, firstSaved⟩ := vacant.saves [1] (by decide)
  have differ : ([1] : List UInt8) ≠ [2] := by decide
  obtain ⟨second, secondSaved⟩ := uploadPair_saves [2] (by decide) first.nothingStaged
    fun _ same => differ (firstSaved.key.symm.trans same)
  have side : (twoPairs ram).store.active = .b := by
    rw [twoPairs, secondSaved.active, firstSaved.active, vacant.active]
    rfl
  have generation : (twoPairs ram).store.snapshot.body.generation = 2 := by
    rw [twoPairs, secondSaved.generation, firstSaved.generation, vacant.generation]
    rfl
  refine ⟨(twoPairs ram).store.snapshot, ?_, generation, secondSaved.certificate,
    secondSaved.key⟩
  rw [← side]
  exact secondSaved.loads

/-- A third pair is in force, but the next start-up takes the second one. -/
theorem Vacant.second_returns (vacant : Vacant ram) :
    InForce [3] [3] (uploadPair (unread ram) [3])
      ∧ ∀ boot : BootFaults SectorFaults, boot.Readable →
        Presents [2] [2] (init (uploadPair (unread ram) [3]).1.store.banks boot).1 := by
  obtain ⟨held, loads, generation, certificate, key⟩ := vacant.twoPairs_held
  have again := vacant_unread ram
  obtain ⟨inForce, saved⟩ := again.saves [3] (by decide)
  refine ⟨inForce, fun boot readable => ?_⟩
  have one : (uploadPair (unread ram) [3]).1.store.snapshot.body.generation = 1 := by
    rw [saved.generation, again.generation]
    rfl
  have older : ¬ Supersedes format .b held (uploadPair (unread ram) [3]).1.store.snapshot := by
    rw [supersedes_b_iff, generation, one]
    decide
  have sameBank : (unread ram).store.banks.get .b = (twoPairs ram).store.banks.get .b := rfl
  have newest := saved.newest_eq
  rw [again.active, sameBank] at newest
  simp only [loads, older, if_false] at newest
  exact (presents_init_iff newest readable).mpr ⟨certificate, key⟩

theorem newStore_vacant : Vacant newStore := by
  rw [newStore_eq]
  exact ⟨⟨rfl, rfl⟩, rfl, rfl, rfl⟩

theorem Reachable.unread (reached : Reachable sameBytes ram) :
    Reachable sameBytes (TlsServerCredentials.unread ram) :=
  .restart ((reached.uploadPair [1]).uploadPair [2]) _

/-- **A pair that was replaced comes back.** Two pairs are uploaded, and then a start-up can
read neither sector. A third pair is uploaded and answered as activated, but it gets
generation 1, and the next start-up takes the second pair. -/
theorem unread_pair_returns :
    Reachable sameBytes (unread newStore)
      ∧ InForce [3] [3] (uploadPair (unread newStore) [3])
      ∧ ¬ Lasting [3] [3] (uploadPair (unread newStore) [3]).1
      ∧ ∀ boot : BootFaults SectorFaults, boot.Readable →
        Presents [2] [2] (init (uploadPair (unread newStore) [3]).1.store.banks boot).1 := by
  have reached : Reachable sameBytes newStore := .start erased_blank _
  obtain ⟨inForce, presents⟩ := newStore_vacant.second_returns
  refine ⟨reached.unread, inForce, fun lasting => ?_, presents⟩
  have ready : (⟨fun _ => true, .done⟩ : BootFaults SectorFaults).Readable := fun _ => rfl
  have third := (lasting _ ready [] []).1
  have second := (presents _ ready [] []).1
  have differ : ([2] : List UInt8) ≠ [3] := by decide
  exact differ (second.symm.trans third)

end HealthCheckFirmware.TlsServerCredentials
