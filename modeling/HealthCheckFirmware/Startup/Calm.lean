import HealthCheckFirmware.Api.Changes
import HealthCheckFirmware.Api.LogResponse
import HealthCheckFirmware.Log.PowerLoss
import HealthCheckFirmware.Startup.ErasedFlash

/-!
# A device without faults

A library that accepts everything, an environment and a start in which nothing fails,
and the session of an administrator. The runs that show what the code does on some
fixed input are runs of such a device.

Most of them begin with the `preparation`: a first start on erased flash, a login, a
trust anchor and a resource that refers to it. `Stage` is what matters of a device
along such a run, and there is one lemma for each kind of event.
-/

set_option autoImplicit false

namespace HealthCheckFirmware.Startup

open TwoBank SnapshotStore

/-- A library that accepts every password, certificate and key. -/
def lenient : ApiService.Library where
  crypto := ⟨fun _ => .replicate AuthService.digestSize 0, fun _ _ _ => AuthService.masterVerifier⟩
  examine _ := .authority (some (ascii "CN=A"))
  checks := ⟨fun _ => true, fun _ => true, fun _ _ => true⟩
  gmtime := ApiService.countingGmtime
  version := ascii "1.0"
  buildDate := ascii "2026-01-01T00:00:00Z"

/-- A call in which nothing fails. -/
def calmAmbient : AuthService.Ambient where
  clock _ := 0
  random _ := some (.replicate AuthService.tokenBytes 0)
  salt := some (.replicate UserStore.saltSize 0)
  hashed _ := true
  derived := true
  faults := .done
  forward := monotone_const
  powered := TwoBank.SaveFates.powered_done

def calmBank : TlsTrustStore.BankFaults := ⟨fun _ => .done, .done, true⟩

/-- A request in which nothing fails. -/
def calm : ApiService.Environment where
  authorizing := calmAmbient
  acting := calmAmbient
  networkReady := true
  timeSynchronized := true
  flashAvailable := true
  uptimeMs := 0
  unixTime := none
  telemetry := ⟨0, .replicate 9 0⟩
  callbackTelemetry := ⟨0, 0, 0, 0, 0, 0, 0, 0⟩
  buzzerAccepts := true
  memory := true
  conditions := ⟨true, true⟩
  healthCheckFaults := .done
  callbackFaults := .done
  credentialFaults := .done
  trustFaults := calmBank
  logReadable _ _ := true
  powered := ⟨⟨trivial, trivial⟩, ⟨trivial, trivial⟩, ⟨trivial, trivial⟩, fun _ => trivial, trivial⟩

/-- A start in which nothing fails. -/
def calmStart : ServiceFaults where
  platform := true
  trust := ⟨fun _ => true, calmBank⟩
  callback := ⟨fun _ => true, .done⟩
  healthCheck := ⟨fun _ => true, .done⟩
  log := ⟨HealthCheckLog.allReadable, .done⟩
  credentials := ⟨fun _ => true, .done⟩
  tasks := true
  users := ⟨fun _ => true, .done⟩

/-- The token that a draw of zero bytes gives. -/
def bearer : List UInt8 := AuthService.hex (.replicate AuthService.tokenBytes 0)

/-- The sessions after the login. -/
def loggedIn : AuthService.Table :=
  Function.update (fun _ => AuthService.Session.zero) ⟨0, AuthService.sessionCount_pos⟩
    (AuthService.newSession lenient.crypto AuthService.masterUsername
      AuthService.Role.administrator.code bearer bearer 0)

theorem authorize_bearer : AuthService.authorize lenient.crypto calm.authorizing loggedIn bearer
    = .ok ⟨AuthService.masterUsername, AuthService.Role.administrator.code⟩ := by
  decide

/-- A user store without accounts. -/
def noUsers : UserStore.Ram := ⟨⟨[], []⟩, UserStore.empty, .b⟩

/-- A device with the given accounts and the session of an administrator, on which
nothing else is stored. -/
def calmDevice (users : UserStore.Ram) : ApiService.Device where
  auth := ⟨loggedIn, users⟩
  healthCheck := ⟨⟨[], []⟩, HealthCheckConfig.initial, .b⟩
  callback := ⟨⟨[], []⟩, CallbackConfig.defaultSnapshot, .b⟩
  trust := ⟨⟨TlsTrustStore.format.blank, TlsTrustStore.format.blank⟩, ⟨TlsTrustStore.emptyBody, 0⟩,
    .b⟩
  credentials := ⟨⟨⟨[], []⟩, TlsServerCredentials.empty, .b⟩, false, none, none⟩
  buzzer := []
  log := ⟨⟨.a, 0, 1⟩, ⟨HealthCheckLog.blankSector, HealthCheckLog.blankSector⟩⟩

/-! ## The first start -/

theorem saveFates_calm (bank : TlsTrustStore.TrustBank) :
    TlsTrustStore.saveFates bank calmBank = .done := by
  simp only [TlsTrustStore.saveFates, calmBank, MultiSector.eraseFate_done, SaveFates.done]

/-- A start of the trust store that finds no snapshot, because there is none or because
none can be read, comes up without anchors and saves that. -/
theorem trust_init {banks : Banks TlsTrustStore.TrustBank} {reads : ℕ → Bool}
    (nothing : TlsTrustStore.format.pick (TlsTrustStore.format.loadIf (reads 0) banks.a)
      (TlsTrustStore.format.loadIf (reads 1) banks.b) = none) :
    ∃ image, TlsTrustStore.format.load image
        = some (TlsTrustStore.format.stamp ⟨TlsTrustStore.emptyBody, 0⟩)
      ∧ TlsTrustStore.init erasedFlash.older banks ⟨reads, calmBank⟩ =
        (⟨banks.set .a image, TlsTrustStore.format.stamp ⟨TlsTrustStore.emptyBody, 0⟩, .a⟩,
          .ready) := by
  have started : TlsTrustStore.init erasedFlash.older banks ⟨reads, calmBank⟩ =
      TlsTrustStore.commitAtStart calmBank ⟨banks, TlsTrustStore.format.read banks.a, .b⟩
        TlsTrustStore.emptyBody := by
    simp only [TlsTrustStore.init, nothing, (pickLater_erased _ _).1, (pickLater_erased _ _).2]
  have fates : TlsTrustStore.saveFates (banks.get Side.b.other) calmBank = .done :=
    saveFates_calm _
  have saves := @TlsTrustStore.save_eq calmBank
    ⟨banks, TlsTrustStore.format.read banks.a, .b⟩ (fates ▸ ⟨trivial, trivial⟩)
    ⟨TlsTrustStore.emptyBody, 0⟩
  rw [fates, save_done _ TlsTrustStore.emptyBody_valid] at saves
  refine ⟨_, load_write TlsTrustStore.emptyBody_valid, started.trans ?_⟩
  exact congrArg (Prod.map id Outcome.start) saves

theorem callback_init : ∃ image, CallbackConfig.format.load image
      = some (CallbackConfig.format.stamp CallbackConfig.defaultSnapshot)
    ∧ CallbackConfig.init erasedFlash.callback calmStart.callback =
      (⟨erasedFlash.callback.set .a image,
        CallbackConfig.format.stamp CallbackConfig.defaultSnapshot, .a⟩, .ready) := by
  have readable : calmStart.callback.Readable := fun _ => rfl
  refine ⟨_, load_write CallbackConfig.defaultSnapshot_valid,
    (CallbackConfig.init_blank readable blank_callback).trans ?_⟩
  exact congrArg (Prod.map id Outcome.start) (save_done _ CallbackConfig.defaultSnapshot_valid)

theorem healthCheck_init : ∃ image, HealthCheckConfig.format.load image
      = some HealthCheckConfig.initial
    ∧ HealthCheckConfig.init erasedFlash.healthCheck calmStart.healthCheck =
      (⟨erasedFlash.healthCheck.set .a image, HealthCheckConfig.initial, .a⟩, .ready) := by
  have readable : calmStart.healthCheck.Readable := fun _ => rfl
  refine ⟨_, load_write HealthCheckConfig.setDefault_valid, (HealthCheckConfig.init_blank readable
    blank_healthCheck noOlder_healthCheck).trans ?_⟩
  exact congrArg (Prod.map id Outcome.start) (save_done _ HealthCheckConfig.setDefault_valid)

/-- The stores that the run leaves alone. -/
structure Untouched (device : ApiService.Device) : Prop where
  log : device.log.sectors = erasedFlash.log
  credentials : device.credentials.store.banks = erasedFlash.credentials
  users : device.auth.users.banks = erasedFlash.users
  callback : CallbackConfig.machine.Steady device.callback
  callbackGeneration : device.callback.snapshot.body.generation ≠ 0xFFFFFFFF

/-- What matters of a device along the run: its sessions, and the contents and
generations of the two stores that the run changes. -/
structure Stage (sessions : AuthService.Table) (generation : UInt32)
    (resources : Vector HealthCheckConfig.Resource HealthCheckConfig.maxResources)
    (trustGeneration : UInt32) (anchors : Vector TlsTrustStore.Anchor TlsTrustStore.maxPersisted)
    (device : ApiService.Device) : Prop where
  sessions : device.auth.sessions = sessions
  healthCheck : HealthCheckConfig.machine.Steady device.healthCheck
  generation : device.healthCheck.snapshot.body.generation = generation
  resources : device.healthCheck.snapshot.body.resources = resources
  trust : (TlsTrustStore.machine lenient.examine erasedFlash.older).Steady device.trust
  trustGeneration : device.trust.snapshot.body.generation = trustGeneration
  anchors : device.trust.snapshot.body.anchors = anchors
  untouched : Untouched device

/-- No resource slot is occupied. -/
def noResources : Vector HealthCheckConfig.Resource HealthCheckConfig.maxResources :=
  .replicate HealthCheckConfig.maxResources HealthCheckConfig.Resource.zero

/-- No anchor slot is occupied. -/
def noAnchors : Vector TlsTrustStore.Anchor TlsTrustStore.maxPersisted :=
  .replicate TlsTrustStore.maxPersisted TlsTrustStore.Anchor.zero

theorem log_init : HealthCheckLog.init calmStart.log erasedFlash.log
    = (.ok, ⟨⟨.a, 0, 1⟩, HealthCheckLog.blankSectors.set .a HealthCheckLog.blankSector⟩) :=
  HealthCheckLog.init_blankSectors

theorem credentials_init :
    TlsServerCredentials.init erasedFlash.credentials calmStart.credentials
      = (⟨⟨erasedFlash.credentials, TlsServerCredentials.empty, .b⟩, false, none, none⟩, .ready) := by
  have readable : calmStart.credentials.Readable := fun _ => rfl
  simp only [TlsServerCredentials.init, Format.readNewest_readable _ readable,
    blank_credentials.newest_eq]

theorem users_init : UserStore.init erasedFlash.users calmStart.users
    = (⟨erasedFlash.users, UserStore.empty, .b⟩, .ready) := by
  have readable : calmStart.users.Readable := fun _ => rfl
  simp only [UserStore.init, Format.readNewest_readable _ readable, blank_users.newest_eq]

/-- The first start leads to a device without resources and anchors. -/
theorem first_start :
    ∃ device, step lenient (.off erasedFlash) (.reboot calmStart) = .on erasedFlash.older device
      ∧ Stage (fun _ => AuthService.Session.zero) 1 noResources 1 noAnchors device := by
  obtain ⟨trustImage, trustLoads, trust⟩ :=
    @trust_init erasedFlash.trust calmStart.trust.reads blank_trust.newest_eq
  obtain ⟨callbackImage, callbackLoads, callback⟩ := callback_init
  obtain ⟨healthCheckImage, healthCheckLoads, healthCheck⟩ := healthCheck_init
  have started := startServices_device rfl rfl trust callback healthCheck log_init
    credentials_init users_init
  refine ⟨_, step_reboot started, ?_⟩
  exact
    { sessions := rfl
      healthCheck := ⟨blank_healthCheck.advance .b healthCheckLoads, rfl⟩
      generation := rfl
      resources := rfl
      trust := ⟨blank_trust.advance .b trustLoads, rfl⟩
      trustGeneration := rfl
      anchors := rfl
      untouched :=
        { log := rfl
          credentials := rfl
          users := rfl
          callback := ⟨blank_callback.advance .b callbackLoads, rfl⟩
          callbackGeneration := (by decide : (1 : UInt32) ≠ 0xFFFFFFFF) } }

/-! ## The requests of the run -/

def ask (method path : String) (body : List UInt8) : Event :=
  .request calm ⟨ascii method, ascii path, bearer, body⟩

def credentials : List UInt8 :=
  ascii "\x7b\"username\":\"master\",\"password\":\"x\"\x7d"

def newResource : List UInt8 :=
  ascii "\x7b\"host\":\"a\",\"path\":\"/\",\"port\":443,\"trust_anchor_id\":1\x7d"

def login : Event := ask "POST" "/api/v1/auth/token" credentials

def addAnchor : Event := ask "POST" "/api/v1/trust-anchors" [0x30]

def addResource : Event := ask "POST" "/api/v1/health-check/resources" newResource

/-- The anchor that is added. -/
def anchor : TlsTrustStore.Anchor where
  occupied := 1
  reserved := 0
  derLength := 1
  subject := fillBuffer TlsTrustStore.subjectSize (ascii "CN=A")
  der := Vector.ofFn fun index => [0x30].getD index.val 0

/-- The resource that is added; it refers to the anchor. -/
def resource : HealthCheckConfig.Resource where
  occupied := 1
  enabled := 1
  trustAnchorId := 1
  reserved := 0
  port := 443
  host := fillBuffer HealthCheckConfig.hostSize (ascii "a")
  path := fillBuffer HealthCheckConfig.pathSize (ascii "/")

def oneAnchor : Vector TlsTrustStore.Anchor TlsTrustStore.maxPersisted :=
  noAnchors.setIfInBounds 0 anchor

def oneResource : Vector HealthCheckConfig.Resource HealthCheckConfig.maxResources :=
  noResources.setIfInBounds 0 resource

theorem login_master (users : UserStore.Ram) :
    (AuthService.login lenient.crypto calm.acting ⟨fun _ => AuthService.Session.zero, users⟩
      (ascii "master") (ascii "x")).1 = loggedIn := by
  rfl

/-! ## Single steps -/

/-- A change of the health-check configuration whose generation does not wrap
round. -/
theorem healthCheck_mutated {ram : HealthCheckConfig.Ram}
    (steady : HealthCheckConfig.machine.Steady ram)
    (unwrapped : ram.snapshot.body.generation ≠ 0xFFFFFFFF)
    {request : HealthCheckConfig.Request} {candidate : HealthCheckConfig.CurrentBody}
    (amended : HealthCheckConfig.amend ram.snapshot.body request = .ok candidate) :
    let after := (HealthCheckConfig.mutate ram request calm.healthCheckFaults).1
    HealthCheckConfig.machine.Steady after
      ∧ after.snapshot.body.generation = ram.snapshot.body.generation + 1
      ∧ after.snapshot.body.resources = candidate.resources := by
  have proposed : HealthCheckConfig.machine.propose ram request
      = .ok ⟨candidate, ram.snapshot.crc⟩ := congrArg (Sealed.propose _) amended
  have done : HealthCheckConfig.machine.mutationFates ram calm.healthCheckFaults = .done := rfl
  obtain ⟨kept, stored⟩ := steady.mutate_done HealthCheckConfig.machine_recovering.toLawful done
    proposed unwrapped
  have snapshot : (HealthCheckConfig.mutate ram request calm.healthCheckFaults).1.snapshot
      = HealthCheckConfig.format.stamp ⟨candidate, ram.snapshot.crc⟩ := stored
  refine ⟨kept, ?_, ?_⟩
  · rw [snapshot, ← HealthCheckConfig.generation_amend amended]
    rfl
  · rw [snapshot]
    rfl

/-- A change of the trust store whose generation does not wrap round. -/
theorem trust_mutated {ram : TlsTrustStore.Ram}
    (steady : (TlsTrustStore.machine lenient.examine erasedFlash.older).Steady ram)
    (unwrapped : ram.snapshot.body.generation ≠ 0xFFFFFFFF)
    {request : TlsTrustStore.Request} {candidate : TlsTrustStore.CurrentBody}
    (amended : TlsTrustStore.amend lenient.examine ram.snapshot.body request = .ok candidate) :
    let after := (TlsTrustStore.mutate lenient.examine ram request calm.trustFaults).1
    (TlsTrustStore.machine lenient.examine erasedFlash.older).Steady after
      ∧ after.snapshot.body.generation = ram.snapshot.body.generation + 1
      ∧ after.snapshot.body.anchors = candidate.anchors := by
  have proposed : (TlsTrustStore.machine lenient.examine erasedFlash.older).propose ram request
      = .ok ⟨candidate, ram.snapshot.crc⟩ := congrArg (Sealed.propose _) amended
  have done : (TlsTrustStore.machine lenient.examine erasedFlash.older).mutationFates ram
      calm.trustFaults = .done := saveFates_calm _
  obtain ⟨kept, stored⟩ := steady.mutate_done (TlsTrustStore.machine_lawful _ _) done
    proposed unwrapped
  have snapshot : (TlsTrustStore.mutate lenient.examine ram request calm.trustFaults).1.snapshot
      = TlsTrustStore.format.stamp ⟨candidate, ram.snapshot.crc⟩ := stored
  refine ⟨kept, ?_, ?_⟩
  · rw [snapshot, ← TlsTrustStore.generation_amend amended]
    rfl
  · rw [snapshot]
    rfl

section Steps

variable {device : ApiService.Device} {generation trustGeneration : UInt32}
  {resources : Vector HealthCheckConfig.Resource HealthCheckConfig.maxResources}
  {anchors : Vector TlsTrustStore.Anchor TlsTrustStore.maxPersisted} {sessions : AuthService.Table}

/-- A request of the administrator is carried out. -/
theorem step_ask {environment : ApiService.Environment}
    (authorizing : environment.authorizing = calmAmbient)
    (sessions : device.auth.sessions = loggedIn)
    {method path : String} {body : List UInt8} {operation : ApiService.Operation}
    (endpoint : ApiService.route (cString (ascii method)) (cString (ascii path))
      = .authorized operation) :
    step lenient (.on erasedFlash.older device)
        (.request environment ⟨ascii method, ascii path, bearer, body⟩)
      = .on erasedFlash.older (ApiService.operate lenient environment device
          ⟨ascii method, ascii path, bearer, body⟩
          ⟨AuthService.masterUsername, AuthService.Role.administrator.code⟩ operation).1 := by
  have authorized : AuthService.authorize lenient.crypto calmAmbient loggedIn bearer = _ :=
    authorize_bearer
  simp only [step, ApiService.dispatch, endpoint, sessions, authorizing, authorized]

/-- The stage after a change of the health-check configuration. -/
theorem Stage.healthCheckMutated
    (stage : Stage sessions generation resources trustGeneration anchors device)
    (unwrapped : generation ≠ 0xFFFFFFFF) {request : HealthCheckConfig.Request}
    {candidate : HealthCheckConfig.CurrentBody}
    (amended : HealthCheckConfig.amend device.healthCheck.snapshot.body request = .ok candidate) :
    Stage sessions (generation + 1) candidate.resources trustGeneration anchors
      { device with healthCheck :=
        (HealthCheckConfig.mutate device.healthCheck request calm.healthCheckFaults).1 } := by
  obtain ⟨steady, next, kept⟩ :=
    healthCheck_mutated stage.healthCheck (stage.generation ▸ unwrapped) amended
  exact { stage with
    healthCheck := steady
    generation := next.trans (congrArg (· + 1) stage.generation)
    resources := kept
    untouched := { stage.untouched with } }

theorem Stage.login
    (stage : Stage (fun _ => AuthService.Session.zero) generation resources trustGeneration anchors
      device) :
    ∃ after, step lenient (.on erasedFlash.older device) login = .on erasedFlash.older after
      ∧ Stage loggedIn generation resources trustGeneration anchors after := by
  refine ⟨device.withSessions loggedIn, congrArg (Appliance.on _) ?_, ?_⟩
  · have endpoint : ApiService.route (cString (ascii "POST")) (cString (ascii "/api/v1/auth/token"))
        = .token := by decide
    have username : ApiService.jsonText (cString credentials) (ascii "username")
        UserStore.usernameSize = some (ascii "master") := by decide
    have password : ApiService.jsonText (cString credentials) (ascii "password") 129
        = some (ascii "x") := by decide
    have logged := login_master device.auth.users
    rw [← stage.sessions] at logged
    simp only [ApiService.dispatch, endpoint, ApiService.token, username, password]
    split <;> rw [← logged]
  · exact { stage with
      sessions := rfl
      untouched := { stage.untouched with } }

theorem Stage.addAnchor (stage : Stage loggedIn generation resources 1 noAnchors device) :
    ∃ after, step lenient (.on erasedFlash.older device) addAnchor = .on erasedFlash.older after
      ∧ Stage loggedIn generation resources 2 oneAnchor after := by
  have endpoint : ApiService.route (cString (ascii "POST"))
      (cString (ascii "/api/v1/trust-anchors")) = .authorized .addTrustAnchor := by decide
  refine ⟨_, (step_ask rfl stage.sessions endpoint).trans
    (congrArg _ (ApiService.mutateTrust_fst _ _)), ?_⟩
  have free : TlsTrustStore.firstFree device.trust.snapshot.body = some 0 := by
    rw [TlsTrustStore.firstFree, stage.anchors]
    rfl
  have valid : TlsTrustStore.validateDer lenient.examine [0x30] true = .ok anchor := rfl
  have amended : TlsTrustStore.amend lenient.examine device.trust.snapshot.body
      (.add [0x30] true) = .ok (device.trust.snapshot.body.withAnchor 0 anchor) := by
    simp only [TlsTrustStore.amend, TlsTrustStore.addCandidate, free, valid, Except.map]
  obtain ⟨steady, next, kept⟩ := trust_mutated stage.trust
    (by rw [stage.trustGeneration]; decide) amended
  exact { stage with
    trust := steady
    trustGeneration := next.trans (congrArg (· + 1) stage.trustGeneration)
    anchors := kept.trans (congrArg (·.setIfInBounds 0 anchor) stage.anchors)
    untouched := { stage.untouched with } }

theorem Stage.addResource (stage : Stage loggedIn 1 noResources trustGeneration oneAnchor device) :
    ∃ after, step lenient (.on erasedFlash.older device) addResource = .on erasedFlash.older after
      ∧ Stage loggedIn 2 oneResource trustGeneration oneAnchor after := by
  have endpoint : ApiService.route (cString (ascii "POST"))
      (cString (ascii "/api/v1/health-check/resources")) = .authorized .addResource := by
    decide
  have described : ApiService.newResource (cString newResource)
      = some ⟨ascii "a", ascii "/", 443, 1, 1⟩ := by decide
  have known : ApiService.anchorAcceptable device 1 true = true := by
    have occupied : TlsTrustStore.anchorExists device.trust 1 = true := by
      have slot : TlsTrustStore.slotOf 1 = some 0 := by decide
      simp only [TlsTrustStore.anchorExists, slot, TlsTrustStore.occupiedAnchor, stage.anchors]
      rfl
    exact occupied
  have free : HealthCheckConfig.firstFree device.healthCheck.snapshot.body.resources = some 0 := by
    rw [stage.resources]
    rfl
  have amended : HealthCheckConfig.amend device.healthCheck.snapshot.body
      (.addResource ⟨ascii "a", 443, ascii "/", 1, 1⟩)
        = .ok (device.healthCheck.snapshot.body.withSlot 0 resource) := by
    have valid : HealthCheckConfig.ResourceInput.isValid ⟨ascii "a", 443, ascii "/", 1, 1⟩
        = true := by decide
    simp only [HealthCheckConfig.amend, HealthCheckConfig.addCandidate, free, valid]
    rfl
  have handled : (ApiService.addResource calm device (cString newResource)).1
      = { device with healthCheck := (HealthCheckConfig.mutate device.healthCheck
          (.addResource ⟨ascii "a", 443, ascii "/", 1, 1⟩) calm.healthCheckFaults).1 } := by
    have port : ApiService.portAcceptable 443 = true := by decide
    simp only [ApiService.addResource, described, ApiService.checkedResource, port, known,
      Bool.true_eq_false, if_false]
    rfl
  refine ⟨_, (step_ask rfl stage.sessions endpoint).trans (congrArg _ handled), ?_⟩
  have next := stage.healthCheckMutated (by decide) amended
  rwa [HealthCheckConfig.Body.withSlot, stage.resources] at next

/-- A restart in which at most the trust store has trouble. -/
theorem Stage.reboot (stage : Stage sessions generation resources trustGeneration anchors device)
    {boot : BootFaults TlsTrustStore.BankFaults} {trust : TlsTrustStore.Ram}
    (trustInit : TlsTrustStore.init erasedFlash.older device.trust.banks boot = (trust, .ready)) :
    ∃ after, step lenient (.on erasedFlash.older device) (.reboot { calmStart with trust := boot })
        = .on erasedFlash.older after
      ∧ after.trust = trust ∧ after.healthCheck = device.healthCheck
      ∧ after.auth.sessions = (fun _ => AuthService.Session.zero) ∧ Untouched after := by
  have readable : calmStart.healthCheck.Readable := fun _ => rfl
  have log : HealthCheckLog.init calmStart.log device.log.sectors = _ :=
    stage.untouched.log.symm ▸ log_init
  have credentials : TlsServerCredentials.init device.credentials.store.banks
      calmStart.credentials = _ := stage.untouched.credentials.symm ▸ credentials_init
  have users : UserStore.init device.auth.users.banks calmStart.users = _ :=
    stage.untouched.users.symm ▸ users_init
  have callback : CallbackConfig.init device.callback.banks calmStart.callback = _ :=
    CallbackConfig.init_found readable stage.untouched.callback.1.newest_eq
  have healthCheck : HealthCheckConfig.init device.healthCheck.banks calmStart.healthCheck = _ :=
    HealthCheckConfig.init_found readable stage.healthCheck.1.newest_eq
  have started : (startServices { calmStart with trust := boot }
      (flashOf erasedFlash.older device)).device = _ :=
    startServices_device rfl rfl trustInit callback healthCheck log credentials users
  refine ⟨_, step_reboot started, rfl, rfl, rfl, ?_⟩
  exact
    { log := rfl
      credentials := stage.untouched.credentials
      users := stage.untouched.users
      callback := stage.untouched.callback
      callbackGeneration := stage.untouched.callbackGeneration }

/-- A restart in which nothing fails keeps everything but the sessions. -/
theorem Stage.restart (stage : Stage sessions generation resources trustGeneration anchors device) :
    ∃ after, step lenient (.on erasedFlash.older device) (.reboot calmStart)
        = .on erasedFlash.older after
      ∧ Stage (fun _ => AuthService.Session.zero) generation resources trustGeneration anchors
        after := by
  have readable : calmStart.trust.Readable := fun _ => rfl
  have found : TlsTrustStore.init erasedFlash.older device.trust.banks calmStart.trust = _ :=
    TlsTrustStore.init_found readable stage.trust.1.newest_eq
  obtain ⟨after, restarted, trust, healthCheck, zero, untouched⟩ := stage.reboot found
  refine ⟨after, restarted, ?_⟩
  exact
    { sessions := zero
      healthCheck := healthCheck ▸ stage.healthCheck
      generation := healthCheck ▸ stage.generation
      resources := healthCheck ▸ stage.resources
      trust := trust ▸ stage.trust
      trustGeneration := trust ▸ stage.trustGeneration
      anchors := trust ▸ stage.anchors
      untouched := untouched }

end Steps

/-! ## The preparation -/

/-- An event in which nothing fails. -/
def Event.Calm : Event → Prop
  | .request environment _ => environment = calm
  | .reboot faults => faults = calmStart

/-- A start, a login, an anchor and a resource that refers to it. -/
def preparation : List Event := [.reboot calmStart, login, addAnchor, addResource]

theorem prepared :
    ∃ device, Run.run (step lenient) (.off erasedFlash) preparation = .on erasedFlash.older device
      ∧ Stage loggedIn 2 oneResource 2 oneAnchor device := by
  obtain ⟨first, started, stage⟩ := first_start
  obtain ⟨second, loggedIn, stage⟩ := stage.login
  obtain ⟨third, anchored, stage⟩ := stage.addAnchor
  obtain ⟨fourth, added, stage⟩ := stage.addResource
  refine ⟨fourth, ?_, stage⟩
  simp only [Run.run, preparation, List.foldl_cons, List.foldl_nil, started, loggedIn, anchored,
    added]

theorem preparation_calm : ∀ event ∈ preparation, event.Calm := by
  intro event member
  simp only [preparation, List.mem_cons, List.not_mem_nil, or_false] at member
  rcases member with rfl | rfl | rfl | rfl <;> exact rfl

end HealthCheckFirmware.Startup
