import HealthCheckFirmware.Api.Answers
import HealthCheckFirmware.Lib.StoredProperty
import HealthCheckFirmware.Startup.TrustReferences

/-!
# The strings in the stores

Names of accounts, hosts and paths come into the stores from string values of request
bodies, and those have no quotes, no backslashes and no control characters. The stores keep
them across starts, provided that a write that fails leaves nothing behind that passes for
a snapshot that was never written (`Detects`). So on every device that has been set up through
its interface, in every run of requests and starts, all strings are plain and every
resource can be used (`Appliance.Legible.run`).
-/

set_option autoImplicit false

namespace HealthCheckFirmware

open TwoBank
open ApiService (IsText Usable)

/-! ## Accounts -/

namespace UserStore

/-- The names in use are plain. -/
def Legible (snapshot : Snapshot) : Prop :=
  snapshot.body.WellFormed ∧ ∀ record ∈ snapshot.body.listed, IsText record.name

theorem legible_empty : Legible empty :=
  ⟨Nat.zero_le _, fun _ isMember => absurd isMember List.not_mem_nil⟩

variable {snapshot : Snapshot} (legible : Legible snapshot) {candidate : Body}

include legible

theorem Legible.put {record : Record} (plain : IsText record.name)
    (proposed : putCandidate snapshot.body record = .ok candidate) (crc : UInt32) :
    Legible (format.stamp ⟨candidate, crc⟩) := by
  have wellFormed := @wellFormed_amend _ _ (.put record) proposed legible.1
  refine ⟨wellFormed, ?_⟩
  have listed : ∀ other ∈ candidate.listed, other ∈ snapshot.body.listed ∨ other = record := by
    intro other isMember
    rcases putCandidate_cases proposed with ⟨-, ⟨index, -, rfl⟩ | ⟨-, room, rfl⟩⟩
    · rw [listed_replace] at isMember
      exact List.mem_or_eq_of_mem_set isMember
    · rw [listed_append room, List.mem_append, List.mem_singleton] at isMember
      exact isMember
  intro other isMember
  rcases listed other isMember with kept | rfl
  · exact legible.2 other kept
  · exact plain

theorem Legible.delete {username : List UInt8}
    (proposed : deleteCandidate snapshot.body username = .ok candidate) (crc : UInt32) :
    Legible (format.stamp ⟨candidate, crc⟩) := by
  have wellFormed := @wellFormed_amend _ _ (.delete username) proposed legible.1
  refine ⟨wellFormed, ?_⟩
  obtain ⟨index, found, rfl⟩ := deleteCandidate_cases proposed
  intro record isMember
  have remaining : record ∈ snapshot.body.listed.eraseIdx index :=
    listed_remove legible.1 found ▸ isMember
  exact legible.2 record (List.mem_of_mem_eraseIdx remaining)

end UserStore

/-- What `AuthService_PutUser` does to the store. -/
theorem AuthService.putUser_users (crypto : Crypto) (ambient : Ambient) (state : State)
    (actor : Principal) (input : UserInput) :
    (putUser crypto ambient state actor input).1.users = state.users
      ∨ ∃ salt, (putUser crypto ambient state actor input).1.users =
        (UserStore.put state.users (newRecord crypto input salt) ambient.faults).1 := by
  unfold putUser
  cases putUserChecks state actor input with
  | error failure => exact .inl rfl
  | ok _ =>
      cases ambient.salt with
      | none => exact .inl rfl
      | some salt =>
          cases ambient.derived with
          | false => exact .inl rfl
          | true =>
              refine .inr ⟨salt, ?_⟩
              dsimp only
              rw [if_pos rfl]
              generalize UserStore.put state.users (newRecord crypto input salt) ambient.faults =
                stored
              obtain ⟨users, ending⟩ := stored
              cases ending <;> rfl

/-- What `AuthService_DeleteUser` does to the store. -/
theorem AuthService.deleteUser_users (ambient : Ambient) (state : State) (actor : Principal)
    (username : List UInt8) :
    (deleteUser ambient state actor username).1.users = state.users
      ∨ (deleteUser ambient state actor username).1.users =
        (UserStore.delete state.users (cString username) ambient.faults).1 := by
  unfold deleteUser
  dsimp only
  split
  · exact .inl rfl
  split
  · exact .inl rfl
  refine .inr ?_
  generalize UserStore.delete state.users (cString username) ambient.faults = stored
  obtain ⟨users, ending⟩ := stored
  cases ending <;> rfl

/-! ## Resources -/

namespace HealthCheckConfig

/-- Every resource in use can be used. -/
def Legible (snapshot : Snapshot) : Prop :=
  ∀ resource ∈ snapshot.body.resources.toList, resource.occupied ≠ 0 → Usable resource

/-- A valid input with plain strings makes a resource that can be used. -/
theorem usable_assign {input : ResourceInput} (valid : input.isValid = true)
    (host : IsText input.host) (path : IsText input.path) (slot : Resource) :
    Usable (input.assign slot) := by
  simp only [ResourceInput.isValid, Bool.not_eq_true', Bool.or_eq_false_iff, beq_eq_false_iff_ne,
    bne_eq_false_iff_eq, decide_eq_false_iff_not, Nat.not_le] at valid
  obtain ⟨⟨⟨⟨⟨⟨hostSome, pathStart⟩, port⟩, -⟩, -⟩, hostFits⟩, pathFits⟩ := valid
  have hostText : bufferString (input.assign slot).host = input.host :=
    bufferString_fillBuffer hostFits host.zero_notMem
  have pathText : bufferString (input.assign slot).path = input.path :=
    bufferString_fillBuffer pathFits path.zero_notMem
  constructor
  · exact hostText.symm ▸ host
  · exact hostText.symm ▸ hostSome
  · exact hostText.symm ▸ hostFits
  · exact pathText.symm ▸ path
  · exact pathText.symm ▸ pathStart
  · exact pathText.symm ▸ pathFits
  · exact port

/-- The strings that a request brings are plain. -/
def Request.Plain : Request → Prop
  | .setPeriodSeconds _ => True
  | .addResource input => IsText input.host ∧ IsText input.path
  | .updateResource _ input => IsText input.host ∧ IsText input.path
  | .deleteResource _ => True

theorem Legible.withSlot {snapshot : Snapshot} (legible : Legible snapshot) (index : ℕ)
    {slot : Resource} (usable : slot.occupied ≠ 0 → Usable slot) :
    ∀ resource ∈ (snapshot.body.withSlot index slot).resources.toList,
      resource.occupied ≠ 0 → Usable resource := by
  intro resource isMember occupied
  rw [Body.withSlot, Vector.toList_setIfInBounds] at isMember
  rcases List.mem_or_eq_of_mem_set isMember with kept | rfl
  · exact legible resource kept occupied
  · exact usable occupied

theorem Legible.amend {snapshot : Snapshot} (legible : Legible snapshot) {request : Request}
    (plain : request.Plain) {candidate : CurrentBody}
    (amended : amend snapshot.body request = .ok candidate) (crc : UInt32) :
    Legible (format.stamp ⟨candidate, crc⟩) := by
  rcases amend_cases amended with ⟨seconds, -, -, -, rfl⟩ | ⟨input, index, rfl, valid, -, rfl⟩ |
    ⟨index, input, slot, rfl, valid, -, rfl⟩ | ⟨index, slot, -, -, rfl⟩
  · exact legible
  · exact legible.withSlot index fun _ => usable_assign valid plain.1 plain.2 _
  · exact legible.withSlot index.toNat fun _ => usable_assign valid plain.1 plain.2 slot
  · exact legible.withSlot index.toNat fun occupied => absurd rfl occupied

theorem legible_setDefault : Legible (format.stamp ⟨setDefault, 0⟩) := by
  intro resource isMember occupied
  have inDefaults : resource ∈ setDefault.resources.toList := isMember
  rw [setDefault, Vector.toList_replicate] at inDefaults
  exact absurd (congrArg Resource.occupied (List.eq_of_mem_replicate inDefaults)) occupied

/-- Where there is nothing of an earlier layout, none is found. -/
theorem readOlder_eq_none {Slot : Type} {count : ℕ} {scheme : SealScheme (Body Slot count)}
    {banks : Banks Sector} (first : scheme.isValid banks.a = false)
    (second : scheme.isValid banks.b = false) (reads reads' : Bool) :
    readOlder scheme reads reads' banks = none := by
  simp [readOlder, readBody, first, second, pickNewer]

/-- A start without anything of an earlier layout, whichever of its reads fail. -/
theorem init_current {banks : Banks Sector}
    (current : ∀ side, isOlder (banks.get side) = false) (boot : BootFaults SectorFaults) :
    (∃ side snapshot, format.load (banks.get side) = some snapshot
        ∧ init banks boot = (⟨banks, snapshot, side⟩, .ready))
      ∨ init banks boot = saveInPlace boot.save banks .b ⟨setDefault, 0⟩ := by
  have first := current .a
  have second := current .b
  simp only [isOlder, Bool.or_eq_false_iff, Banks.get] at first second
  unfold init
  split
  · rename_i side snapshot newest
    exact .inl ⟨side, snapshot, format.readNewest_loads newest, rfl⟩
  · rw [readOlder_eq_none first.1.1 second.1.1, readOlder_eq_none first.1.2 second.1.2,
      readOlder_eq_none first.2 second.2]
    exact .inr rfl

end HealthCheckConfig

/-! ## The callback configuration -/

namespace CallbackConfig

/-- The configuration in memory is valid after every start, whichever operations fail. -/
theorem init_valid (banks : Banks Sector) (boot : BootFaults SectorFaults) :
    configIsValid (init banks boot).1.snapshot.body.config = true := by
  have default : configIsValid (format.stamp defaultSnapshot).body.config = true :=
    defaultConfig_valid
  unfold init
  split
  · rename_i side snapshot newest
    have accepted := scheme.format_load_accepts fits (format.readNewest_loads newest)
    have valid : accepts snapshot.body = true := accepted
    rw [accepts, Bool.and_eq_true] at valid
    exact valid.2
  · change configIsValid (format.save _ _ _).1.snapshot.body.config = true
    rcases save_snapshot boot.save ⟨banks, format.stamp defaultSnapshot, .b⟩ defaultSnapshot with
      same | same <;> rw [same] <;> exact default

theorem set_valid {ram : Ram} (valid : configIsValid ram.snapshot.body.config = true)
    (config : Config) (faults : SectorFaults) :
    configIsValid (set ram config faults).1.snapshot.body.config = true := by
  by_cases unsaved : ∀ snapshot, (set ram config faults).2 ≠ .saved snapshot
  · have same : (set ram config faults).1.snapshot = ram.snapshot := commit_unsaved unsaved
    rw [same]
    exact valid
  · simp only [not_forall, not_not] at unsaved
    obtain ⟨snapshot, saved⟩ := unsaved
    obtain ⟨candidate, proposed, stamped⟩ := commit_stamped saved
    obtain ⟨accepted, same⟩ := setCandidate_cases (Sealed.of_propose proposed)
    have stored : (set ram config faults).1.snapshot = format.stamp candidate := stamped
    have config_ : (format.stamp candidate).body.config = config := congrArg (·.config) same
    rw [stored, config_]
    exact accepted

end CallbackConfig

namespace Startup

/-! ## Devices -/

/-- All strings in the stores of a device are plain, in memory and in flash, and there is no
configuration of an earlier layout. -/
structure DeviceLegible (device : ApiService.Device) : Prop where
  users : Held UserStore.format UserStore.Legible device.auth.users
  healthCheck : Held HealthCheckConfig.format HealthCheckConfig.Legible device.healthCheck
  current : ∀ side, HealthCheckConfig.isOlder (device.healthCheck.banks.get side) = false
  callback : CallbackConfig.configIsValid device.callback.snapshot.body.config = true

/-- The same of a device that is off. -/
structure FlashLegible (flash : StoreFlash) : Prop where
  users : Stored UserStore.format UserStore.Legible flash.users
  healthCheck : Stored HealthCheckConfig.format HealthCheckConfig.Legible flash.healthCheck
  current : ∀ side, HealthCheckConfig.isOlder (flash.healthCheck.get side) = false

/-- The writes of a request leave no snapshot behind that was never written, whichever
snapshot the request writes: so one whose erase or program fails leaves in its bank what loads
as before, or does not load. -/
structure DetectedWrites (environment : ApiService.Environment) (device : ApiService.Device) :
    Prop where
  users : ∀ stamped, Detected UserStore.format environment.acting.faults device.auth.users stamped
  healthCheck : ∀ stamped, Detected HealthCheckConfig.format environment.healthCheckFaults
    device.healthCheck stamped
  current : ∀ candidate, HealthCheckConfig.isOlder (HealthCheckConfig.format.attempt
    environment.healthCheckFaults (HealthCheckConfig.format.stamp candidate)).1 = false

/-- Nor does the one write of a start that concerns these stores. -/
structure DetectedStart (faults : ServiceFaults) (flash : StoreFlash) : Prop where
  healthCheck : Detected HealthCheckConfig.format faults.healthCheck.save
    ⟨flash.healthCheck, HealthCheckConfig.initial, .b⟩ HealthCheckConfig.initial
  current : ∀ candidate, HealthCheckConfig.isOlder (HealthCheckConfig.format.attempt
    faults.healthCheck.save (HealthCheckConfig.format.stamp candidate)).1 = false

variable {library : ApiService.Library} {environment : ApiService.Environment}
  {device : ApiService.Device}

theorem DeviceLegible.readable (legible : DeviceLegible device) : device.Readable where
  users := legible.users.memory.2
  resources := legible.healthCheck.memory
  callback := legible.callback

theorem DeviceLegible.flash (legible : DeviceLegible device) (older : TlsTrustStore.OlderBanks) :
    FlashLegible (flashOf older device) where
  users := legible.users.stored
  healthCheck := legible.healthCheck.stored
  current := legible.current

/-! ## Requests -/

/-- A mutation of the health-check configuration with plain strings. -/
theorem DeviceLegible.mutateHealthCheck (legible : DeviceLegible device)
    (detected : DetectedWrites environment device) {request : HealthCheckConfig.Request}
    (plain : request.Plain) :
    DeviceLegible { device with
      healthCheck := (HealthCheckConfig.mutate device.healthCheck request
        environment.healthCheckFaults).1 } where
  users := legible.users
  healthCheck := by
    refine legible.healthCheck.commit (fun _ _ => detected.healthCheck _) fun candidate proposed => ?_
    exact legible.healthCheck.memory.amend plain (Sealed.of_propose proposed) candidate.crc
  current := commit_everywhere (fun image => HealthCheckConfig.isOlder image = false)
    legible.current detected.current _
  callback := legible.callback

/-- Another state of the accounts that is either the old one or legible. -/
theorem DeviceLegible.withAuth (legible : DeviceLegible device) {auth : AuthService.State}
    (users : auth.users = device.auth.users
      ∨ Held UserStore.format UserStore.Legible auth.users) :
    DeviceLegible { device with auth := auth } where
  users := by
    rcases users with same | held
    · exact same.symm ▸ legible.users
    · exact held
  healthCheck := legible.healthCheck
  current := legible.current
  callback := legible.callback

/-- The name that is stored for an account is the one that was asked for. -/
theorem name_newRecord {crypto : AuthService.Crypto} {input : AuthService.UserInput}
    {salt : AuthService.Salt} (plain : IsText input.username)
    (short : input.username.length < UserStore.usernameSize) :
    (AuthService.newRecord crypto input salt).name = input.username := by
  rw [UserStore.Record.name, AuthService.newRecord, cString_of_nonzero plain.zero_notMem]
  exact bufferString_fillBuffer short plain.zero_notMem

theorem DeviceLegible.putUser (legible : DeviceLegible device)
    (detected : DetectedWrites environment device) (principal : AuthService.Principal)
    {input : AuthService.UserInput} (plain : IsText input.username)
    (short : input.username.length < UserStore.usernameSize) :
    DeviceLegible { device with
      auth := (AuthService.putUser library.crypto environment.acting device.auth principal
        input).1 } := by
  refine legible.withAuth ?_
  rcases AuthService.putUser_users library.crypto environment.acting device.auth principal input
    with same | ⟨salt, stored⟩
  · exact .inl same
  · right
    rw [stored]
    refine legible.users.commit (fun _ _ => detected.users _) fun candidate proposed => ?_
    exact legible.users.memory.put ((name_newRecord plain short).symm ▸ plain)
      (Sealed.of_propose proposed) candidate.crc

theorem DeviceLegible.deleteUser (legible : DeviceLegible device)
    (detected : DetectedWrites environment device) (principal : AuthService.Principal)
    (username : List UInt8) :
    DeviceLegible { device with
      auth := (AuthService.deleteUser environment.acting device.auth principal username).1 } := by
  refine legible.withAuth ?_
  rcases AuthService.deleteUser_users environment.acting device.auth principal username
    with same | stored
  · exact .inl same
  · right
    rw [stored]
    refine legible.users.commit (fun _ _ => detected.users _) fun candidate proposed => ?_
    exact legible.users.memory.delete (Sealed.of_propose proposed) candidate.crc

/-- **A request keeps the strings plain.** -/
theorem DeviceLegible.changed (legible : DeviceLegible device)
    (detected : DetectedWrites environment device) {after : ApiService.Device}
    (changed : ApiService.Changed library environment device after) : DeviceLegible after := by
  cases changed with
  | sessions table => exact legible.withAuth (.inl rfl)
  | alert alerts => exact ⟨legible.users, legible.healthCheck, legible.current, legible.callback⟩
  | putUser principal input known =>
      rcases known with ⟨body, read⟩ | ⟨existing, found⟩
      · obtain ⟨short, plain⟩ := ApiService.jsonText_some (by decide) read
        exact legible.putUser detected principal plain short
      · have plain := legible.readable.isText_of_find found
        by_cases short : input.username.length < UserStore.usernameSize
        · exact legible.putUser detected principal plain short
        · -- A longer name is refused before anything is stored.
          refine legible.withAuth (.inl ?_)
          have refused : AuthService.putUserChecks device.auth principal input =
              .error .forbidden := by
            rw [AuthService.putUserChecks, if_pos]
            rw [cString_of_nonzero plain.zero_notMem]
            exact .inr (.inr (.inr (.inl (Nat.not_lt.mp short))))
          rw [AuthService.putUser, refused]
  | deleteUser principal username => exact legible.deleteUser detected principal username
  | stage request => exact ⟨legible.users, legible.healthCheck, legible.current, legible.callback⟩
  | trust request unused =>
      exact ⟨legible.users, legible.healthCheck, legible.current, legible.callback⟩
  | callback config known =>
      exact ⟨legible.users, legible.healthCheck, legible.current,
        CallbackConfig.set_valid legible.callback config environment.callbackFaults⟩
  | period seconds => exact legible.mutateHealthCheck detected trivial
  | addResource body update described known =>
      obtain ⟨⟨host, -⟩, path, -⟩ := ApiService.newResource_some described
      exact legible.mutateHealthCheck detected ⟨host, path⟩
  | updateResource index resource body found known =>
      obtain ⟨inStore, occupied, -⟩ := ApiService.mem_of_occupiedSlot found
      obtain ⟨⟨host, -⟩, path, -⟩ := ApiService.changedResource_texts
        (legible.healthCheck.memory resource inStore occupied) body
      exact legible.mutateHealthCheck detected ⟨host, path⟩
  | deleteResource index => exact legible.mutateHealthCheck detected trivial

/-! ## Starts -/

/-- The user store after a start holds what its banks load, or nothing. -/
theorem users_started {banks : Banks Sector}
    (stored : Stored UserStore.format UserStore.Legible banks) (boot : BootFaults SectorFaults) :
    Held UserStore.format UserStore.Legible (UserStore.init banks boot).1 := by
  unfold UserStore.init
  split
  · rename_i side snapshot newest
    exact ⟨stored side snapshot (UserStore.format.readNewest_loads newest), stored⟩
  · exact ⟨UserStore.legible_empty, stored⟩

/-- The health-check configuration after a start. -/
theorem healthCheck_started {flash : StoreFlash} (legible : FlashLegible flash)
    {faults : ServiceFaults} (detected : DetectedStart faults flash) :
    let started := (HealthCheckConfig.init flash.healthCheck faults.healthCheck).1
    Held HealthCheckConfig.format HealthCheckConfig.Legible started
      ∧ ∀ side, HealthCheckConfig.isOlder (started.banks.get side) = false := by
  dsimp only
  rcases HealthCheckConfig.init_current legible.current faults.healthCheck with
    ⟨side, snapshot, loads, started⟩ | started
  · rw [started]
    exact ⟨⟨legible.healthCheck side snapshot loads, legible.healthCheck⟩, legible.current⟩
  · have initial : Held HealthCheckConfig.format HealthCheckConfig.Legible
        ⟨flash.healthCheck, HealthCheckConfig.initial, .b⟩ :=
      ⟨HealthCheckConfig.legible_setDefault, legible.healthCheck⟩
    have kept := @save_everywhere _ _ HealthCheckConfig.format
      (fun image => HealthCheckConfig.isOlder image = false) faults.healthCheck.save
      ⟨flash.healthCheck, HealthCheckConfig.initial, .b⟩ legible.current
      ⟨HealthCheckConfig.setDefault, 0⟩ (detected.current _)
    rw [started, HealthCheckConfig.saveInPlace, Prod.map_fst, id_eq]
    exact ⟨initial.save detected.healthCheck HealthCheckConfig.legible_setDefault, kept⟩

/-- **A start keeps the strings plain.** -/
theorem FlashLegible.start {flash : StoreFlash} (legible : FlashLegible flash)
    {faults : ServiceFaults} (detected : DetectedStart faults flash) :
    FlashLegible (startServices faults flash).flash
      ∧ ∀ device, (startServices faults flash).device = some device → DeviceLegible device := by
  obtain ⟨configured, current⟩ := healthCheck_started legible detected
  have users := users_started legible.users faults.users
  obtain ⟨-, -, -, healthCheckAfter, usersAfter⟩ := startServices_flash faults flash
  refine ⟨⟨?_, ?_, ?_⟩, fun device started => ?_⟩
  · rcases usersAfter with same | after
    · exact same ▸ legible.users
    · exact after ▸ users.stored
  · rcases healthCheckAfter with same | after
    · exact same ▸ legible.healthCheck
    · exact after ▸ configured.stored
  · rcases healthCheckAfter with same | after
    · exact same ▸ legible.current
    · exact after ▸ current
  · obtain ⟨-, callbackReady, healthCheckReady, usersReady⟩ := startServices_ready started
    have callback := CallbackConfig.init_valid flash.callback faults.callback
    rw [callbackReady] at callback
    rw [healthCheckReady] at configured current
    rw [usersReady] at users
    exact ⟨users, configured, current, callback⟩

/-! ## Runs -/

/-- The writes of an event are ones that are detected when they fail. -/
def Detects : Appliance → Event → Prop
  | .on _ device, .request environment _ => DetectedWrites environment device
  | .off _, .request _ _ => True
  | appliance, .reboot faults => DetectedStart faults appliance.flash

def Appliance.Legible : Appliance → Prop
  | .on _ device => DeviceLegible device
  | .off flash => FlashLegible flash

theorem Appliance.Legible.flash {appliance : Appliance} (legible : appliance.Legible) :
    FlashLegible appliance.flash := by
  cases appliance with
  | off flash => exact legible
  | on older device => exact DeviceLegible.flash legible older

theorem boot_legible {flash : StoreFlash} (legible : FlashLegible flash) {faults : ServiceFaults}
    (detected : DetectedStart faults flash) : (boot faults flash).Legible := by
  obtain ⟨kept, started⟩ := legible.start detected
  unfold boot
  split
  · rename_i device running
    exact started device running
  · exact kept

/-- One event keeps the strings plain. -/
theorem Appliance.Legible.step {appliance : Appliance} (legible : appliance.Legible)
    {event : Event} (detects : Detects appliance event) :
    (Startup.step library appliance event).Legible := by
  cases event with
  | request environment request =>
      cases appliance with
      | on older device =>
          exact DeviceLegible.changed legible detects (ApiService.dispatch_changed request)
      | off flash => exact legible
  | reboot faults =>
      cases appliance with
      | on older device => exact boot_legible legible.flash detects
      | off flash => exact boot_legible legible.flash detects

/-- All events of a run keep them plain. -/
theorem Appliance.Legible.run {appliance : Appliance} (legible : appliance.Legible)
    {events : List Event}
    (detects : Run.Throughout (Startup.step library) Detects appliance events) :
    (Run.run (Startup.step library) appliance events).Legible :=
  detects.invariant (fun _ _ holds admits => holds.step admits) legible

end Startup

end HealthCheckFirmware
