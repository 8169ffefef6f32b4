import HealthCheckFirmware.Api.Dispatch

/-!
# The start of the services

What the health-check task does before its loop, and the management task before it
listens: the stores are loaded one after the other, and the first failure stops the
start. `startServices` gives the flash that this leaves, the stores that were loaded,
and the device that requests act on when every store was loaded.

Each store is left alone or is the work of its own start-up (`startServices_flash`), and
a device has come up with every store ready (`startServices_ready`). A run of a device is
one of requests and restarts.
-/

set_option autoImplicit false

namespace HealthCheckFirmware.Startup

open TwoBank

/-- The part of the flash that the stores own. -/
structure StoreFlash where
  trust : Banks TlsTrustStore.TrustBank
  older : TlsTrustStore.OlderBanks
  callback : Banks Sector
  healthCheck : Banks Sector
  log : HealthCheckLog.Sectors
  credentials : Banks Sector
  users : Banks Sector

/-- The persistent stores. -/
inductive StoreName where
  | trustStore
  | callbackConfig
  | healthCheckConfig
  | healthCheckLog
  | serverCredentials
  | userStore
  deriving DecidableEq, Repr

/-- What the start of the services meets: whether the TLS platform comes up, the
outcomes of the flash operations of each store, and whether the tasks for callbacks
and for the management interface can be created. -/
structure ServiceFaults where
  platform : Bool
  trust : BootFaults TlsTrustStore.BankFaults
  callback : BootFaults SectorFaults
  healthCheck : BootFaults SectorFaults
  log : HealthCheckLog.InitFaults
  credentials : BootFaults SectorFaults
  tasks : Bool
  users : BootFaults SectorFaults

/-- How far a start of the services got. -/
structure Started where
  flash : StoreFlash
  loaded : List StoreName
  device : Option ApiService.Device

/-- The start-up of a store has completed. -/
def isReady {Snapshot : Type} : Start Snapshot → Bool
  | .ready => true
  | _ => false

theorem isReady_iff {Snapshot : Type} {start : Start Snapshot} :
    isReady start = true ↔ start = .ready := by
  cases start <;> simp [isReady]

/-- The flash of a running device. -/
def flashOf (older : TlsTrustStore.OlderBanks) (device : ApiService.Device) : StoreFlash where
  trust := device.trust.banks
  older := older
  callback := device.callback.banks
  healthCheck := device.healthCheck.banks
  log := device.log.sectors
  credentials := device.credentials.store.banks
  users := device.auth.users.banks

/-- The beginning of `healthCheckService_Task`, and then that of `apiService_Task`. -/
def startServices (faults : ServiceFaults) (flash : StoreFlash) : Started :=
  if faults.platform = false then ⟨flash, [], none⟩ else
  let trust := TlsTrustStore.init flash.older flash.trust faults.trust
  let flash := { flash with trust := trust.1.banks }
  if isReady trust.2 = false then ⟨flash, [.trustStore], none⟩ else
  let callback := CallbackConfig.init flash.callback faults.callback
  let flash := { flash with callback := callback.1.banks }
  if isReady callback.2 = false then ⟨flash, [.trustStore, .callbackConfig], none⟩ else
  let healthCheck := HealthCheckConfig.init flash.healthCheck faults.healthCheck
  let flash := { flash with healthCheck := healthCheck.1.banks }
  if isReady healthCheck.2 = false then
    ⟨flash, [.trustStore, .callbackConfig, .healthCheckConfig], none⟩ else
  let log := HealthCheckLog.init faults.log flash.log
  let flash := { flash with log := log.2.sectors }
  if log.1 ≠ .ok then
    ⟨flash, [.trustStore, .callbackConfig, .healthCheckConfig, .healthCheckLog], none⟩ else
  let credentials := TlsServerCredentials.init flash.credentials faults.credentials
  let flash := { flash with credentials := credentials.1.store.banks }
  let loaded := [.trustStore, .callbackConfig, .healthCheckConfig, .healthCheckLog,
    .serverCredentials]
  if isReady credentials.2 = false ∨ faults.tasks = false then ⟨flash, loaded, none⟩ else
  let users := UserStore.init flash.users faults.users
  let flash := { flash with users := users.1.banks }
  if isReady users.2 = false then ⟨flash, loaded ++ [.userStore], none⟩ else
  ⟨flash, loaded ++ [.userStore],
    some
      { auth := AuthService.init users.1
        healthCheck := healthCheck.1
        callback := callback.1
        trust := trust.1
        credentials := credentials.1
        buzzer := []
        log := log.2 }⟩

/-- A start in which every store comes up. -/
theorem startServices_device {faults : ServiceFaults} {flash : StoreFlash}
    {trust : TlsTrustStore.Ram} {callback : CallbackConfig.Ram}
    {healthCheck : HealthCheckConfig.Ram} {log : HealthCheckLog.Log}
    {credentials : TlsServerCredentials.Ram} {users : UserStore.Ram}
    (platform : faults.platform = true) (tasks : faults.tasks = true)
    (trustInit : TlsTrustStore.init flash.older flash.trust faults.trust = (trust, .ready))
    (callbackInit : CallbackConfig.init flash.callback faults.callback = (callback, .ready))
    (healthCheckInit : HealthCheckConfig.init flash.healthCheck faults.healthCheck
      = (healthCheck, .ready))
    (logInit : HealthCheckLog.init faults.log flash.log = (.ok, log))
    (credentialsInit : TlsServerCredentials.init flash.credentials faults.credentials
      = (credentials, .ready))
    (usersInit : UserStore.init flash.users faults.users = (users, .ready)) :
    (startServices faults flash).device = some
      { auth := AuthService.init users
        healthCheck := healthCheck
        callback := callback
        trust := trust
        credentials := credentials
        buzzer := []
        log := log } := by
  unfold startServices
  dsimp only
  rw [trustInit, callbackInit, healthCheckInit, logInit, credentialsInit, usersInit]
  simp [platform, tasks, isReady]

/-- A store in flash is left alone or is what its own start-up makes of it. -/
theorem startServices_flash (faults : ServiceFaults) (flash : StoreFlash) :
    let after := (startServices faults flash).flash
    after.older = flash.older
      ∧ (after.trust = flash.trust
        ∨ after.trust = (TlsTrustStore.init flash.older flash.trust faults.trust).1.banks)
      ∧ (after.callback = flash.callback
        ∨ after.callback = (CallbackConfig.init flash.callback faults.callback).1.banks)
      ∧ (after.healthCheck = flash.healthCheck
        ∨ after.healthCheck =
          (HealthCheckConfig.init flash.healthCheck faults.healthCheck).1.banks)
      ∧ (after.users = flash.users
        ∨ after.users = (UserStore.init flash.users faults.users).1.banks) := by
  unfold startServices
  dsimp only
  split_ifs <;> simp

/-- A device has come up with every store ready. -/
theorem startServices_ready {faults : ServiceFaults} {flash : StoreFlash}
    {device : ApiService.Device} (started : (startServices faults flash).device = some device) :
    TlsTrustStore.init flash.older flash.trust faults.trust = (device.trust, .ready)
      ∧ CallbackConfig.init flash.callback faults.callback = (device.callback, .ready)
      ∧ HealthCheckConfig.init flash.healthCheck faults.healthCheck = (device.healthCheck, .ready)
      ∧ UserStore.init flash.users faults.users = (device.auth.users, .ready) := by
  unfold startServices at started
  dsimp only at started
  split_ifs at started with platform trust callback healthCheck log credentials users
  rw [Bool.not_eq_false, isReady_iff] at trust callback healthCheck users
  obtain rfl := Option.some.inj started
  exact ⟨Prod.ext rfl trust, Prod.ext rfl callback, Prod.ext rfl healthCheck, Prod.ext rfl users⟩

/-! ## Runs of a device -/

/-- A device that handles requests, or one that does not, because it is off or its
start has failed. -/
inductive Appliance where
  | on (older : TlsTrustStore.OlderBanks) (device : ApiService.Device)
  | off (flash : StoreFlash)

def Appliance.flash : Appliance → StoreFlash
  | .on older device => flashOf older device
  | .off flash => flash

/-- What happens to a device. -/
inductive Event where
  | request (environment : ApiService.Environment) (request : ApiService.Request)
  | reboot (faults : ServiceFaults)

/-- The start of a device from its flash. -/
def boot (faults : ServiceFaults) (flash : StoreFlash) : Appliance :=
  match (startServices faults flash).device with
  | some device => .on flash.older device
  | none => .off (startServices faults flash).flash

/-- One event. -/
def step (library : ApiService.Library) : Appliance → Event → Appliance
  | .on older device, .request environment request =>
      .on older (ApiService.dispatch library environment device request).1
  | .off flash, .request _ _ => .off flash
  | appliance, .reboot faults => boot faults appliance.flash

theorem step_reboot {library : ApiService.Library} {appliance : Appliance}
    {faults : ServiceFaults} {device : ApiService.Device}
    (started : (startServices faults appliance.flash).device = some device) :
    step library appliance (.reboot faults) = .on appliance.flash.older device := by
  cases appliance <;> simp only [step, boot, started]

end HealthCheckFirmware.Startup
