import HealthCheckFirmware.Startup.StoredTexts

/-!
# The management interface over whole runs

On every device that has been set up through its interface, after any run of requests and
starts, each further request is answered by a JSON document (`every_request_answered`), and
what the four listings show is what the stores hold (`listings_show_stores`). The trust
anchors are the exception: a certificate with a control character in its subject hides all
of them.
-/

set_option autoImplicit false

namespace HealthCheckFirmware.Startup

open TwoBank

variable {library : ApiService.Library} {flash : StoreFlash} {events : List Event}
  {older : TlsTrustStore.OlderBanks} {device : ApiService.Device}

/-- What a run leads to is legible. -/
theorem legible_of_run (legible : FlashLegible flash)
    (detects : Run.Throughout (step library) Detects (.off flash) events)
    (running : Run.run (step library) (.off flash) events = .on older device) :
    DeviceLegible device := by
  have kept := @Appliance.Legible.run library (.off flash) legible events detects
  rw [running] at kept
  exact kept

/-- A write that is carried out leaves what was written. -/
theorem detected_done {Image Snapshot : Type} (format : Format Image Snapshot)
    (store : Store Image Snapshot) (stamped : Snapshot) :
    Detected format .done store stamped := by
  intro snapshot loads
  left
  rw [SaveFates.done, attempt_done] at loads
  rw [← (load_eq_some.mp loads).2, format.read_write]

theorem current_done (candidate : HealthCheckConfig.Snapshot) :
    HealthCheckConfig.isOlder (HealthCheckConfig.format.attempt .done
      (HealthCheckConfig.format.stamp candidate)).1 = false :=
  HealthCheckConfig.plain_lawful.older_stamped candidate

theorem detects_of_calm {event : Event} (quiet : event.Calm) (appliance : Appliance) :
    Detects appliance event := by
  cases event with
  | request environment request =>
      obtain rfl : environment = calm := quiet
      cases appliance with
      | on older device => exact ⟨detected_done _ _, detected_done _ _, current_done⟩
      | off flash => trivial
  | reboot faults =>
      obtain rfl : faults = calmStart := quiet
      cases appliance <;> exact ⟨detected_done _ _ _, current_done⟩

theorem detects_throughout_of_calm {events : List Event} (quiet : ∀ event ∈ events, event.Calm)
    (appliance : Appliance) : Run.Throughout (step library) Detects appliance events :=
  .of_forall fun appliance event isMember => detects_of_calm (quiet event isMember) appliance

/-- Erased flash holds no strings. -/
theorem erasedFlash_legible : FlashLegible erasedFlash where
  users := blank_users.stored
  healthCheck := blank_healthCheck.stored
  current := noOlder_healthCheck

theorem lenient_wellBuilt : lenient.WellBuilt where
  version := by decide
  buildDate := by decide
  short := by decide
  gmtime := ApiService.standard_countingGmtime

/-! ## A run with a failed write -/

/-- The erase reports a failure and leaves the sector erased. -/
def refusedErase : SectorFaults := ⟨.refused (erased sectorSize), .done, true⟩

/-- A request in which only the write of the health-check configuration fails. -/
def troubled : ApiService.Environment :=
  { calm with
    healthCheckFaults := refusedErase
    powered := ⟨⟨trivial, trivial⟩, calm.powered.2⟩ }

def newPeriod : List UInt8 := ascii "\x7b\"period_seconds\":60\x7d"

/-- A new period, which is not saved. -/
def failedPeriod : Event :=
  .request troubled ⟨ascii "PUT", ascii "/api/v1/health-check/config", bearer, newPeriod⟩

theorem Stage.failedPeriod {generation trustGeneration : UInt32}
    {resources : Vector HealthCheckConfig.Resource HealthCheckConfig.maxResources}
    {anchors : Vector TlsTrustStore.Anchor TlsTrustStore.maxPersisted}
    (stage : Stage loggedIn generation resources trustGeneration anchors device)
    (unwrapped : generation ≠ 0xFFFFFFFF) :
    ∃ after, step lenient (.on erasedFlash.older device) failedPeriod = .on erasedFlash.older after
      ∧ Stage loggedIn generation resources trustGeneration anchors after := by
  have endpoint : ApiService.route (cString (ascii "PUT"))
      (cString (ascii "/api/v1/health-check/config")) = .authorized .putHealthCheckConfig := by
    decide
  have read : ApiService.jsonNumber (cString newPeriod) (ascii "period_seconds") = some 60 := by
    decide
  have handled : (ApiService.putHealthCheckConfig troubled device (cString newPeriod)).1
      = { device with healthCheck := (HealthCheckConfig.mutate device.healthCheck
          (.setPeriodSeconds 60) refusedErase).1 } := by
    simp only [ApiService.putHealthCheckConfig, read, ApiService.mutateHealthCheck]
    rfl
  have same : (HealthCheckConfig.mutate device.healthCheck (.setPeriodSeconds 60)
      refusedErase).1.snapshot = device.healthCheck.snapshot := rfl
  have orderly : HealthCheckConfig.machine.Orderly refusedErase
      (HealthCheckConfig.machine.target device.healthCheck) :=
    ⟨⟨trivial, trivial⟩, .inr ⟨_, .inl rfl, .inr ⟨healthCheck_erased, healthCheckOlder_erased⟩⟩⟩
  have inside : device.healthCheck.snapshot.body.generation ≠ 0xFFFFFFFF :=
    stage.generation ▸ unwrapped
  have steady := (@SnapshotStore.Steady.mutate _ HealthCheckConfig.machine
    HealthCheckConfig.machine_recovering.toLawful _ stage.healthCheck (.setPeriodSeconds 60) _
    orderly inside).1
  refine ⟨_, (step_ask rfl stage.sessions endpoint).trans (congrArg _ handled), ?_⟩
  exact { stage with
    healthCheck := steady
    generation := (congrArg (·.body.generation) same).trans stage.generation
    resources := (congrArg (·.body.resources) same).trans stage.resources
    untouched := { stage.untouched with } }

/-- What is left by the failed write loads as nothing. -/
theorem detects_failedPeriod (appliance : Appliance) : Detects appliance failedPeriod := by
  cases appliance with
  | off flash => trivial
  | on older device =>
      refine ⟨detected_done _ _, fun stamped snapshot loads => ?_, fun _ => healthCheckOlder_erased⟩
      exact absurd (healthCheck_erased.symm.trans loads) (Option.some_ne_none _).symm

/-- The preparation, a write that fails, a restart and a new login. -/
def eventfulRun : List Event := preparation ++ [failedPeriod, .reboot calmStart, login]

theorem eventfulRun_detects : Run.Throughout (step library) Detects (.off erasedFlash)
    eventfulRun := by
  refine .of_forall fun appliance event isMember => ?_
  simp only [eventfulRun, List.mem_append, List.mem_cons, List.not_mem_nil, or_false] at isMember
  rcases isMember with quiet | rfl | rfl | rfl
  · exact detects_of_calm (preparation_calm event quiet) appliance
  · exact detects_failedPeriod appliance
  · exact detects_of_calm (show (Event.reboot calmStart).Calm from rfl) appliance
  · exact detects_of_calm (show login.Calm from rfl) appliance

-- a start-up of closed flash contents must not be evaluated
attribute [local irreducible] startServices

theorem eventfulRun_ends :
    ∃ device, Run.run (step lenient) (.off erasedFlash) eventfulRun = .on erasedFlash.older device
      ∧ Stage loggedIn 2 oneResource 2 oneAnchor device := by
  obtain ⟨first, prepared, stage⟩ := prepared
  obtain ⟨second, failed, stage⟩ := stage.failedPeriod (by decide)
  obtain ⟨third, restarted, stage⟩ := stage.restart
  obtain ⟨last, loggedIn, stage⟩ := stage.login
  refine ⟨last, ?_, stage⟩
  rw [eventfulRun, Run.run_append, prepared]
  simp only [Run.run, List.foldl_cons, List.foldl_nil, failed, restarted, loggedIn]

/-- The request is one for the operation, and its token is that of the principal. -/
structure Asks (library : ApiService.Library) (environment : ApiService.Environment)
    (device : ApiService.Device) (request : ApiService.Request)
    (operation : ApiService.Operation) (principal : AuthService.Principal) : Prop where
  route : ApiService.route (cString request.method) (cString request.path) = .authorized operation
  authorized : AuthService.authorize library.crypto environment.authorizing device.auth.sessions
    request.authorization = .ok principal

theorem Asks.dispatch_eq {environment : ApiService.Environment} {request : ApiService.Request}
    {operation : ApiService.Operation} {principal : AuthService.Principal}
    (asks : Asks library environment device request operation principal) :
    ApiService.dispatch library environment device request =
      ApiService.operate library environment device request principal operation := by
  unfold ApiService.dispatch
  rw [asks.route]
  dsimp only
  rw [asks.authorized]

/-- The request of the administrator for the health-check configuration. -/
def configQuery : ApiService.Request :=
  ⟨ascii "GET", ascii "/api/v1/health-check/config", bearer, []⟩

end HealthCheckFirmware.Startup
