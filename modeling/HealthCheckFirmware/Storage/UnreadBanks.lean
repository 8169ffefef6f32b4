import HealthCheckFirmware.Lib.ReadFailure
import HealthCheckFirmware.Storage.FailedMutation
import HealthCheckFirmware.Storage.TrustMigration

/-!
# Start-ups of the stores with reads that fail

No store tells a sector that it cannot read from one that holds nothing. A start-up whose
read of the newest sector fails comes up with the older snapshot, or with defaults, and
reports success. `start_keeps_acknowledged_iff` says for all five stores when that happens.

The user store and the server credentials persist nothing in that case, and number their
snapshots from zero again. The save that is acknowledged next may then be older, by its
number, than the snapshot that could not be read (`save_after_unread_start`).
-/

set_option autoImplicit false

namespace HealthCheckFirmware

open TwoBank SnapshotStore

/-! ## What each store falls back to -/

theorem UserStore.plain_readsBack :
    UserStore.plain.ReadsBack fun _ _ => UserStore.contents UserStore.empty where
  toLawful := UserStore.plain_lawful
  start_picked {banks boot side snapshot} picked := by
    have read : UserStore.format.readNewest boot.reads banks = some (side, snapshot) := picked
    exact (by rw [UserStore.init, read] : UserStore.init banks boot = _)
  start_beyond {banks boot} none := by
    have read : UserStore.format.readNewest boot.reads banks = .none := none
    have started : UserStore.init banks boot = (⟨banks, UserStore.empty, .b⟩, .ready) := by
      simp only [UserStore.init, read]
    exact ⟨started, rfl⟩
  start_none _ _ persists := by cases persists
  beyond_none _ _ := rfl
  persists_valid persists := by cases persists

theorem CallbackConfig.plain_readsBack :
    CallbackConfig.plain.ReadsBack fun _ _ => CallbackConfig.defaultConfig where
  toLawful := CallbackConfig.plain_lawful
  start_picked {banks boot side snapshot} picked := by
    have read : CallbackConfig.format.readNewest boot.reads banks = some (side, snapshot) := picked
    exact (by rw [CallbackConfig.init, read] : CallbackConfig.init banks boot = _)
  start_beyond {banks boot} none := by
    have read : CallbackConfig.format.readNewest boot.reads banks = .none := none
    have started : CallbackConfig.init banks boot = Prod.map id Outcome.start
        (CallbackConfig.format.save boot.save
          ⟨banks, CallbackConfig.format.stamp CallbackConfig.defaultSnapshot, .b⟩
          CallbackConfig.defaultSnapshot) := by
      simp only [CallbackConfig.init, read]
    exact ⟨_, CallbackConfig.defaultSnapshot, started, rfl⟩
  start_none {banks boot candidate} blank _ persists := by
    have read : CallbackConfig.format.readNewest boot.reads banks = .none :=
      found_of_blank blank boot.reads
    have started : CallbackConfig.init banks boot = Prod.map id Outcome.start
        (CallbackConfig.format.save boot.save
          ⟨banks, CallbackConfig.format.stamp CallbackConfig.defaultSnapshot, .b⟩
          CallbackConfig.defaultSnapshot) := by
      simp only [CallbackConfig.init, read]
    cases persists
    exact started
  beyond_none _ _ := rfl
  persists_valid persists := by
    cases persists
    exact CallbackConfig.defaultSnapshot_valid

/-- What the health-check configuration makes of the layouts before the current one, as far as
it can read them. -/
def HealthCheckConfig.earlier (banks : Banks Sector) (reads : ℕ → Bool) : CurrentBody :=
  match readOlder factoryScheme (reads 2) (reads 3) banks with
  | some (_, previous) => removeFactoryReferences previous
  | none =>
  match readOlder previousScheme (reads 4) (reads 5) banks with
  | some (_, previous) => migratePrevious previous
  | none =>
  match readOlder legacyScheme (reads 6) (reads 7) banks with
  | some (_, legacy) => migrateLegacy legacy
  | none => setDefault

theorem HealthCheckConfig.init_unfound {banks : Banks Sector} {boot : BootFaults SectorFaults}
    (none : format.readNewest boot.reads banks = none) :
    ∃ side, init banks boot = saveInPlace boot.save banks side ⟨earlier banks boot.reads, 0⟩ := by
  cases factory : readOlder factoryScheme (boot.reads 2) (boot.reads 3) banks with
  | some found =>
      refine ⟨found.1, ?_⟩
      simp only [init, earlier, none, factory]
  | none =>
      cases previous : readOlder previousScheme (boot.reads 4) (boot.reads 5) banks with
      | some found =>
          refine ⟨found.1, ?_⟩
          simp only [init, earlier, none, factory, previous]
      | none =>
          cases legacy : readOlder legacyScheme (boot.reads 6) (boot.reads 7) banks with
          | some found =>
              refine ⟨found.1, ?_⟩
              simp only [init, earlier, none, factory, previous, legacy]
          | none =>
              refine ⟨.b, ?_⟩
              simp only [init, earlier, none, factory, previous, legacy]

theorem HealthCheckConfig.readOlder_of_invalid {Slot : Type} {count : ℕ}
    {scheme : SealScheme (Body Slot count)} {banks : Banks Sector}
    (invalid : ∀ side, scheme.isValid (banks.get side) = false) (first second : Bool) :
    readOlder scheme first second banks = none := by
  have first : scheme.isValid banks.a = false := invalid .a
  have second : scheme.isValid banks.b = false := invalid .b
  simp [readOlder, readBody, pickNewer, first, second]

section NoEarlierLayout

variable {banks : Banks Sector}
  (noOlder : ∀ side, HealthCheckConfig.isOlder (banks.get side) = false) (first second : Bool)

include noOlder

theorem HealthCheckConfig.readOlder_none :
    readOlder factoryScheme first second banks = none
      ∧ readOlder previousScheme first second banks = none
      ∧ readOlder legacyScheme first second banks = none := by
  have invalid side : factoryScheme.isValid (banks.get side) = false
      ∧ previousScheme.isValid (banks.get side) = false
      ∧ legacyScheme.isValid (banks.get side) = false := by
    simpa [isOlder, and_assoc] using noOlder side
  exact ⟨readOlder_of_invalid (fun side => (invalid side).1) first second,
    readOlder_of_invalid (fun side => (invalid side).2.1) first second,
    readOlder_of_invalid (fun side => (invalid side).2.2) first second⟩

/-- Without an earlier layout there are the defaults, whichever reads fail. -/
theorem HealthCheckConfig.earlier_none (reads : ℕ → Bool) :
    earlier banks reads = setDefault := by
  simp only [earlier, (readOlder_none noOlder _ _).1, (readOlder_none noOlder _ _).2.1,
    (readOlder_none noOlder _ _).2.2]

/-- They are saved. -/
theorem HealthCheckConfig.init_none {boot : BootFaults SectorFaults}
    (none : format.readNewest boot.reads banks = none) :
    init banks boot = saveInPlace boot.save banks .b ⟨setDefault, 0⟩ := by
  simp only [init, none, (readOlder_none noOlder _ _).1, (readOlder_none noOlder _ _).2.1,
    (readOlder_none noOlder _ _).2.2]

end NoEarlierLayout

theorem HealthCheckConfig.plain_readsBack :
    plain.ReadsBack fun banks reads => contents ⟨earlier banks reads, 0⟩ where
  toLawful := plain_lawful
  start_picked {banks boot side snapshot} picked := by
    have read : format.readNewest boot.reads banks = some (side, snapshot) := picked
    have started : init banks boot = (⟨banks, snapshot, side⟩, .ready) := by
      simp only [init, read]
    exact started
  start_beyond {banks boot} none := by
    obtain ⟨side, started⟩ := init_unfound none
    exact ⟨_, _, started, rfl⟩
  start_none {banks boot candidate} blank noOlder persists := by
    have started : init banks boot = _ :=
      init_none noOlder (found_of_blank blank boot.reads)
    cases persists
    exact started
  beyond_none _ noOlder := by
    rw [earlier_none noOlder]
    rfl
  persists_valid persists := by
    cases persists
    exact setDefault_valid

theorem TlsServerCredentials.machine_fallsBack (checks : CredentialChecks) :
    (machine checks).FallsBack fun _ _ => none where
  toLawful := (machine_recovering checks).toLawful
  start_picked {banks boot side snapshot} picked := by
    have read : format.readNewest boot.reads banks = some (side, snapshot) := picked
    have started : init banks boot = (⟨⟨banks, snapshot, side⟩, true, none, none⟩, .ready) := by
      simp only [init, read]
    simp [machine, started, activePair]
  start_beyond {banks boot} none _ _ := by
    have read : format.readNewest boot.reads banks = .none := none
    have started : init banks boot = (⟨⟨banks, empty, .b⟩, false, .none, .none⟩, .ready) := by
      simp only [init, read]
    simp [machine, started, activePair]
  beyond_blank _ _ := rfl
  start_blank {banks boot} blank noOlder _ := by
    have read : format.readNewest boot.reads banks = none := found_of_blank blank boot.reads
    have started : init banks boot = (⟨⟨banks, empty, .b⟩, false, none, none⟩, .ready) := by
      simp only [init, read]
    have settled : (machine checks).Settled (init banks boot).1 := by
      rw [started]
      exact .inr ⟨blank, noOlder, rfl, rfl, rfl, rfl⟩
    have inactive : activePair (init banks boot).1 = none := by
      rw [started]
      rfl
    exact settled.resumes (congrArg Prod.snd started) inactive

/-- The banks of the earlier layouts of the trust store hold nothing. -/
structure TlsTrustStore.OlderBanks.Vacant (older : OlderBanks) : Prop where
  previousA : previousScheme.isValid older.previousA = false
  previousB : previousScheme.isValid older.previousB = false
  legacyA : legacyScheme.isValid older.legacyA = false
  legacyB : legacyScheme.isValid older.legacyB = false

namespace TlsTrustStore

variable {older : OlderBanks} {banks : Banks TrustBank} {boot : BootFaults BankFaults}

/-- A start-up that finds nothing commits the empty store. -/
theorem init_unfound (vacant : older.Vacant)
    (none : found format banks boot.reads = none) :
    init older banks boot = commitAtStart boot.save ⟨banks, format.read banks.a, .b⟩ emptyBody := by
  have read : format.pick (format.loadIf (boot.reads 0) banks.a)
      (format.loadIf (boot.reads 1) banks.b) = .none := none
  simp only [init, read, readOlder, vacant.previousA, vacant.previousB, vacant.legacyA,
    vacant.legacyB, Bool.and_false, Bool.false_eq_true, if_false, pickLater]

/-- The first bank, when it is the newest one, is read again. The start-up fails if that read
does. -/
theorem init_picked {side : Side} {snapshot : Snapshot}
    (picked : found format banks boot.reads = some (side, snapshot)) :
    (init older banks boot).1 = ⟨banks, snapshot, side⟩
      ∧ ((init older banks boot).2 = .ready ∨ (init older banks boot).2 = .failed) := by
  have read : format.pick (format.loadIf (boot.reads 0) banks.a)
      (format.loadIf (boot.reads 1) banks.b) = some (side, snapshot) := picked
  cases side with
  | b => simp [init, read]
  | a =>
      cases again : format.loadIf (boot.reads 2) banks.a with
      | none => simp [init, read, again]
      | some other =>
          have same : some other = some snapshot := by
            rcases pickNewer_eq_some read with ⟨_, loads⟩ | ⟨contradiction, _⟩
            · exact (load_of_loadIf again).symm.trans (load_of_loadIf loads)
            · cases contradiction
          cases same
          simp [init, read, again]

theorem machine_fallsBack (examine : List UInt8 → Examination) (vacant : older.Vacant) :
    (machine examine older).FallsBack fun _ _ => emptyBody.anchors where
  toLawful := machine_lawful examine older
  start_picked {banks boot side snapshot} picked := by
    obtain ⟨stored, ended⟩ := @init_picked older banks boot side snapshot picked
    refine ⟨stored, congrArg (·.snapshot.body.anchors) stored, fun lost cut => ?_⟩
    have cut : (init older banks boot).2 = .lost lost := cut
    rcases ended with ready | failed
    · rw [ready] at cut
      cases cut
    · rw [failed] at cut
      cases cut
  start_beyond {banks boot} none honest ready := by
    have started := (init_unfound vacant none).trans
      (commitAtStart_eq ⟨banks, format.read banks.a, .b⟩ (honest banks.a) emptyBody)
    have ready : (init older banks boot).2 = .ready := ready
    have kept : (init older banks boot).1.snapshot = format.stamp ⟨emptyBody, 0⟩ := by
      rw [started] at ready ⊢
      exact snapshot_of_ready ready
    exact congrArg (fun snapshot : Snapshot => snapshot.body.anchors) kept
  beyond_blank _ _ := rfl
  start_blank {banks boot} blank noOlder orderly := by
    have started : init older banks boot = _ :=
      (init_unfound vacant (found_of_blank blank boot.reads)).trans
        (commitAtStart_eq ⟨banks, format.read banks.a, .b⟩ orderly.1 emptyBody)
    exact resumes_of_save blank noOlder orderly emptyBody_valid rfl started fun _ => rfl

end TlsTrustStore

/-! ## The first user -/

namespace UserStore

/-- A record to be saved, and the snapshot that holds nothing else. -/
def guest : Record := { Record.zero with username := fillBuffer usernameSize (ascii "guest") }

def guestBody : Body :=
  { empty.body with users := empty.body.users.setIfInBounds 0 guest, count := 1 }

/-- The snapshot with that record alone, as it is saved first. -/
def guestSnapshot : Snapshot := format.stamp ⟨guestBody, 0⟩

theorem load_guest :
    format.load (format.write guestSnapshot format.blank) = some guestSnapshot := by
  have wellFormed : guestBody.WellFormed := by
    unfold Body.WellFormed
    decide
  exact load_write ((scheme.format_isValid_stamp fits _).trans (accepts_mark wellFormed))

theorem put_guest (banks : Banks Sector) :
    machine.mutate ⟨banks, empty, .b⟩ (.put guest) .done =
      (⟨banks.set .a (format.write guestSnapshot format.blank), guestSnapshot, .a⟩,
        .saved guestSnapshot) := by
  have proposed : propose ⟨banks, empty, .b⟩ (.put guest) = .ok ⟨guestBody, 0⟩ := rfl
  have saves : machine.mutate ⟨banks, empty, .b⟩ (.put guest) .done =
      format.commit .done ⟨banks, empty, .b⟩ (propose ⟨banks, empty, .b⟩ (.put guest)) := rfl
  rw [saves, proposed, Format.commit, save_done _ (load_eq_some.mp load_guest).1]
  rfl

/-- A new device after its first start-up and the first user. -/
def newSectors : Banks Sector := ⟨erased sectorSize, erased sectorSize⟩

theorem newSectors_blank : Blank format newSectors := by
  intro side
  cases side <;> exact load_erased

def firstUser : List machine.Event := [.reboot faultFree, .mutate (.put guest) .done]

theorem init_newSectors : init newSectors faultFree = (⟨newSectors, empty, .b⟩, .ready) :=
  init_blank (fun _ => rfl) newSectors_blank

theorem step_firstStart :
    Tracked.step (⟨.off newSectors, machine.absent⟩ : machine.Tracked) (.reboot faultFree) =
      ⟨.on ⟨newSectors, empty, .b⟩, machine.absent⟩ :=
  Tracked.step_ready init_newSectors _

theorem step_guest (acknowledged : machine.Contents) :
    Tracked.step (⟨.on ⟨newSectors, empty, .b⟩, acknowledged⟩ : machine.Tracked)
        (.mutate (.put guest) .done) =
      ⟨.on ⟨newSectors.set .a (format.write guestSnapshot format.blank), guestSnapshot, .a⟩,
        machine.loaded guestSnapshot⟩ :=
  Tracked.step_saved (put_guest _) acknowledged

theorem run_firstUser :
    Run.run Tracked.step (⟨.off newSectors, machine.absent⟩ : machine.Tracked) firstUser =
      ⟨.on ⟨newSectors.set .a (format.write guestSnapshot format.blank), guestSnapshot, .a⟩,
        machine.loaded guestSnapshot⟩ := by
  rw [firstUser, Run.run, List.foldl_cons, step_firstStart, List.foldl_cons, step_guest,
    List.foldl_nil]

/-- Without the first sector nothing is found in the second one. -/
theorem fallback_firstUser (image : Sector) :
    machine.fallback (fun _ _ => contents empty) (newSectors.set .a image)
      (fun read => read != 0) .a = contents empty :=
  fallback_of_none load_erased

theorem init_ready (banks : Banks Sector) (boot : BootFaults SectorFaults) :
    (init banks boot).2 = .ready := by
  unfold init
  split <;> rfl

theorem sighted_firstUser :
    Run.Throughout Tracked.step Tracked.Sighted
      (⟨.off newSectors, machine.absent⟩ : machine.Tracked) firstUser := by
  have orderly (before : Sector) : machine.Orderly .done before :=
    ⟨⟨trivial, trivial⟩, .inl rfl⟩
  refine ⟨⟨fun _ _ _ => rfl, orderly _⟩, ?_⟩
  rw [step_firstStart]
  refine ⟨fun ram running => ⟨orderly _, ?_⟩, trivial⟩
  cases running
  decide

end UserStore

/-! ## All stores -/

namespace TwoBankStore

/-- What a store comes up with when it finds a snapshot in neither bank. -/
def beyond (environment : StoreEnvironment) :
    (which : TwoBankStore) → Banks which.Image → (ℕ → Bool) →
      (which.machine environment).Contents
  | .single .users, _, _ => UserStore.contents UserStore.empty
  | .single .healthCheckConfig, banks, reads =>
      HealthCheckConfig.contents ⟨HealthCheckConfig.earlier banks reads, 0⟩
  | .single .callbackConfig, _, _ => CallbackConfig.defaultConfig
  | .single .serverCredentials, _, _ => (none : Option TlsServerCredentials.Pair)
  | .trustAnchors, _, _ => TlsTrustStore.emptyBody.anchors

theorem machine_fallsBack (environment : StoreEnvironment) (vacant : environment.older.Vacant)
    (which : TwoBankStore) :
    (which.machine environment).FallsBack (which.beyond environment) := by
  cases which with
  | single which =>
      cases which with
      | users => exact PlainStore.fallsBack UserStore.plain_readsBack
      | healthCheckConfig => exact PlainStore.fallsBack HealthCheckConfig.plain_readsBack
      | callbackConfig => exact PlainStore.fallsBack CallbackConfig.plain_readsBack
      | serverCredentials => exact TlsServerCredentials.machine_fallsBack environment.checks
  | trustAnchors => exact TlsTrustStore.machine_fallsBack environment.examine vacant

/-- **Start-ups that roll back unnoticed.** Take any run of a store from banks without a
snapshot, in which writes succeed or fail without effect, no generation wraps round and every
start-up reads the newest bank. A further start-up that completes has the contents last
acknowledged exactly if it reads the newest bank, or comes up with the same contents without
it: those of the other bank if it reads a snapshot there, and otherwise its defaults or what
it migrates. -/
theorem start_keeps_acknowledged_iff (environment : StoreEnvironment)
    (vacant : environment.older.Vacant) (which : TwoBankStore) (banks : Banks which.Image)
    (blank : Blank (which.machine environment).format banks)
    (noOlder : (which.machine environment).NoOlder banks)
    (events : List (which.machine environment).Event)
    (sighted : Run.Throughout Tracked.step Tracked.Sighted
      ⟨.off banks, (which.machine environment).absent⟩ events)
    (boot : BootFaults (which.machine environment).Faults)
    (honest : ∀ image, ((which.machine environment).fates image boot.save).Honest) :
    let store := which.machine environment
    let tracked := Run.run Tracked.step ⟨.off banks, store.absent⟩ events
    let flash := tracked.device.banks
    ((store.start flash boot).2 = .ready →
        store.contents (store.start flash boot).1 = tracked.acknowledged)
      ↔ ∀ side snapshot, Current store.format flash side snapshot →
        boot.reads (bankRead side) = true
          ∨ (store.start flash boot).2 ≠ .ready
          ∨ store.fallback (which.beyond environment) flash boot.reads side
            = tracked.acknowledged :=
  noRollback_iff (machine_fallsBack environment vacant which) blank noOlder sighted honest

theorem permissive_vacant : permissive.older.Vacant where
  previousA := TlsTrustStore.previousScheme.isValid_of_rejected (by decide)
  previousB := TlsTrustStore.previousScheme.isValid_of_rejected (by decide)
  legacyA := TlsTrustStore.legacyScheme.isValid_of_rejected (by decide)
  legacyB := TlsTrustStore.legacyScheme.isValid_of_rejected (by decide)

/-- The first user of a new device is not there after a start-up that cannot read the sector
with that user. -/
theorem start_keeps_acknowledged_iff_first_user :
    let tracked := Run.run Tracked.step
      (⟨.off UserStore.newSectors, UserStore.machine.absent⟩ : UserStore.machine.Tracked)
      UserStore.firstUser
    ¬ tracked.NoRollback ⟨fun read => read != 0, .done⟩ := by
  intro tracked
  -- for any sectors and events, so that the run is not evaluated to compare the two machines
  have law : ∀ (banks : Banks Sector) (events : List UserStore.machine.Event)
      (boot : BootFaults SectorFaults), Blank UserStore.format banks →
      Run.Throughout Tracked.step Tracked.Sighted
        (⟨.off banks, UserStore.machine.absent⟩ : UserStore.machine.Tracked) events →
      boot.save.Honest →
      let tracked : UserStore.machine.Tracked :=
        Run.run Tracked.step ⟨.off banks, UserStore.machine.absent⟩ events
      tracked.NoRollback boot
        ↔ tracked.Sees (fun _ _ => UserStore.contents UserStore.empty) boot :=
    fun banks events boot blank sighted honest =>
      start_keeps_acknowledged_iff permissive permissive_vacant (.single .users) banks blank
        (fun _ => rfl) events sighted boot (fun _ => honest)
  intro kept
  have sees := (law UserStore.newSectors UserStore.firstUser ⟨fun read => read != 0, .done⟩
    UserStore.newSectors_blank UserStore.sighted_firstUser ⟨trivial, trivial⟩).mp kept
  rw [UserStore.run_firstUser] at sees
  rcases sees .a UserStore.guestSnapshot
      (UserStore.newSectors_blank.advance .b UserStore.load_guest) with read | failed | same
  · exact absurd read (by decide)
  · exact failed (UserStore.init_ready _ _)
  · have counted : (0 : UInt16) = 1 :=
      congrArg Prod.fst ((UserStore.fallback_firstUser _).symm.trans same)
    exact absurd counted (by decide)

end TwoBankStore

/-! ## Users saved after a start-up that found nothing -/

namespace UserStore

/-- **A save after a start-up that found nothing.** Whatever the sectors hold: a start-up that
can read neither of them, or finds nothing where it can, reports success. The save that is
acknowledged next has the first number. The next start-up without faults finds it, unless the
second sector holds a snapshot with a larger number, which then comes back. -/
theorem save_after_unread_start {banks : Banks Sector} {boot : BootFaults SectorFaults}
    (unread : format.readNewest boot.reads banks = none) {request : Request}
    {faults : SectorFaults} (honest : faults.Honest) {snapshot : Snapshot}
    (saved : (machine.mutate (init banks boot).1 request faults).2 = .saved snapshot)
    {next : BootFaults SectorFaults} (readable : next.Readable) :
    let flash := (machine.mutate (init banks boot).1 request faults).1.banks
    (init banks boot).2 = .ready
      ∧ snapshot.body.generation = 1
      ∧ contents (init flash next).1.snapshot =
        match format.load banks.b with
        | none => contents snapshot
        | some older =>
            if older.body.generation ≤ 1 then contents snapshot else contents older := by
  have started : init banks boot = (⟨banks, empty, .b⟩, .ready) := by
    simp only [init, unread]
  intro flash
  have numbered : snapshot.body.generation = 1 := by
    rw [started] at saved
    obtain ⟨candidate, proposed, stamped⟩ := commit_stamped saved
    have first : candidate.body.generation = 0 := generation_amend (Sealed.of_propose proposed)
    have same : snapshot = format.stamp candidate := (commit_saved saved).symm.trans stamped
    have counted : (format.stamp candidate).body.generation = candidate.body.generation + 1 := rfl
    rw [same, counted, first]
    rfl
  refine ⟨congrArg Prod.snd started, numbered, ?_⟩
  have restarted : machine.store (init banks boot).1 = ⟨banks, empty, .b⟩ :=
    congrArg Prod.fst started
  have found := start_after_restart machine_recovering.toLawful restarted honest saved readable
  refine found.trans ?_
  have load : machine.format.load banks.b = format.load banks.b := rfl
  unfold afterRestart
  rw [load]
  cases format.load banks.b with
  | none => rfl
  | some older =>
      have first : machine.format.generation snapshot = 1 := numbered
      dsimp only
      rw [first]
      rfl

/-- A snapshot of the fifth generation without users. -/
def fifth : Snapshot := format.stamp ⟨{ empty.body with generation := 4 }, 0⟩

theorem load_fifth : format.load (format.write fifth format.blank) = some fifth := by
  have wellFormed : ({ empty.body with generation := 4 } : Body).WellFormed := Nat.zero_le _
  exact load_write ((scheme.format_isValid_stamp fits _).trans (accepts_mark wellFormed))

theorem numbered_fifth : ¬ fifth.body.generation ≤ 1 := by
  have number : fifth.body.generation = 5 := rfl
  rw [number]
  decide

theorem contents_fifth : contents fifth = contents empty := rfl

/-- Sectors of which the second one holds that snapshot. -/
def fifthSectors : Banks Sector := ⟨erased sectorSize, format.write fifth format.blank⟩

theorem unread_fifthSectors : format.readNewest (fun _ => false) fifthSectors = none := by
  simp [Format.readNewest, Format.pick, pickNewer]

/-- When that snapshot cannot be read, the user that is saved then is gone at the next
start-up. -/
theorem save_after_unread_start_undone :
    (init fifthSectors ⟨fun _ => false, .done⟩).2 = .ready
      ∧ (machine.mutate (init fifthSectors ⟨fun _ => false, .done⟩).1 (.put guest) .done).2
        = .saved (format.stamp ⟨guestBody, 0⟩)
      ∧ contents (init (machine.mutate (init fifthSectors ⟨fun _ => false, .done⟩).1 (.put guest)
          .done).1.banks ⟨fun _ => true, .done⟩).1.snapshot = contents empty := by
  have saved : (machine.mutate (init fifthSectors ⟨fun _ => false, .done⟩).1 (.put guest) .done).2
      = .saved (format.stamp ⟨guestBody, 0⟩) := by
    simp only [init, unread_fifthSectors]
    exact congrArg Prod.snd (put_guest fifthSectors)
  have law := @save_after_unread_start fifthSectors ⟨fun _ => false, .done⟩ unread_fifthSectors
    (.put guest) .done ⟨trivial, trivial⟩ _ saved ⟨fun _ => true, .done⟩ (fun _ => rfl)
  have second : format.load fifthSectors.b = some fifth := load_fifth
  refine ⟨law.1, saved, law.2.2.trans ?_⟩
  rw [second]
  exact (if_neg numbered_fifth).trans contents_fifth

end UserStore

end HealthCheckFirmware
