import HealthCheckFirmware.Startup.Calm

/-!
# References to trust anchors

Every occupied resource and an enabled callback name an occupied trust anchor. The
three parts of this are kept in three stores, so the invariant is one of the whole
device, along requests and start-ups.

Requests keep it (`Resolve.changed`) because an anchor is looked up before it comes
into use and is not removed while it is in use. A start-up keeps it because each
store finds the contents it had in memory. So its reads must succeed, and no generation
may wrap round, since a start-up would then take the older snapshot. A trust store that
cannot be read comes up without anchors, while the resources that refer to them are all
still there (`unread_anchors_dangle`).
-/

set_option autoImplicit false

namespace HealthCheckFirmware

open TwoBank SnapshotStore

/-! ## Occupied anchors -/

namespace TlsTrustStore

/-- There is an anchor with the given number. -/
def occupiedId (anchors : Vector Anchor maxPersisted) (id : UInt8) : Bool :=
  match slotOf id with
  | none => false
  | some index => ((anchors.toList)[index]?.map (·.occupied != 0)).getD false

variable {anchors : Vector Anchor maxPersisted} {id : UInt8} {index : ℕ}

theorem anchorExists_eq (ram : Ram) (id : UInt8) :
    anchorExists ram id = occupiedId ram.snapshot.body.anchors id := by
  unfold anchorExists occupiedId occupiedAnchor
  cases slotOf id with
  | none => rfl
  | some index =>
      simp only
      cases (ram.snapshot.body.anchors.toList)[index]? with
      | none => rfl
      | some anchor => by_cases occupied : anchor.occupied = 0 <;> simp [Option.filter, occupied]

theorem occupiedId_set_of_ne (other : slotOf id ≠ some index) (anchor : Anchor) :
    occupiedId (anchors.setIfInBounds index anchor) id = occupiedId anchors id := by
  unfold occupiedId
  cases slot : slotOf id with
  | none => rfl
  | some position =>
      have apart : index ≠ position := by
        rintro rfl
        exact other slot
      simp [apart]

/-- Filling a slot takes no anchor away. -/
theorem occupiedId_set_of_occupied {anchor : Anchor} (filled : anchor.occupied ≠ 0)
    (occupied : occupiedId anchors id = true) :
    occupiedId (anchors.setIfInBounds index anchor) id = true := by
  by_cases same : slotOf id = some index
  · unfold occupiedId at occupied ⊢
    rw [same] at occupied ⊢
    by_cases within : index < maxPersisted
    · simp [within, filled]
    · simp [within] at occupied
  · rw [occupiedId_set_of_ne same, occupied]

theorem slotOf_eq_some {slot : ℕ} (found : slotOf id = some slot) :
    id.toNat = slot + 1 ∧ slot < maxPersisted := by
  unfold slotOf at found
  split at found
  · cases found
  · rename_i range
    simp only [not_or, UInt8.not_lt, UInt8.le_iff_toNat_le, Nat.not_lt] at range
    have low : 1 ≤ id.toNat := range.1
    cases found
    exact ⟨by omega, by omega⟩

theorem slotOf_of_occupiedSlot {body : CurrentBody} (found : occupiedSlot body id = some index) :
    slotOf id = some index :=
  Option.filter_eq_some_iff.mp found |>.1

theorem occupiedId_slot (occupied : occupiedId anchors id = true) : ∃ slot, slotOf id = some slot := by
  unfold occupiedId at occupied
  cases slot : slotOf id with
  | none => simp [slot] at occupied
  | some index => exact ⟨index, rfl⟩

/-- The number of an occupied anchor is one of all numbers. -/
theorem mem_anchorNumbers (occupied : occupiedId anchors id = true) :
    id ∈ ApiService.anchorNumbers := by
  obtain ⟨slot, found⟩ := occupiedId_slot occupied
  obtain ⟨number, within⟩ := slotOf_eq_some found
  simp only [ApiService.anchorNumbers, List.mem_map, List.mem_range]
  exact ⟨slot, within, by rw [← number, UInt8.ofNat_toNat]⟩

end TlsTrustStore

/-! ## References -/

namespace Startup

open TlsTrustStore (occupiedId)

/-- Every reference to an anchor is to an occupied one. -/
structure Resolve (anchors : Vector TlsTrustStore.Anchor TlsTrustStore.maxPersisted)
    (resources : Vector HealthCheckConfig.Resource HealthCheckConfig.maxResources)
    (config : CallbackConfig.Config) : Prop where
  resources : ∀ resource ∈ resources.toList, resource.occupied ≠ 0 →
    occupiedId anchors resource.trustAnchorId = true
  callback : config.enabled ≠ 0 → occupiedId anchors config.trustAnchorId = true

variable {anchors : Vector TlsTrustStore.Anchor TlsTrustStore.maxPersisted}
  {resources : Vector HealthCheckConfig.Resource HealthCheckConfig.maxResources}
  {config : CallbackConfig.Config}

theorem Resolve.mono (resolve : Resolve anchors resources config)
    {after : Vector TlsTrustStore.Anchor TlsTrustStore.maxPersisted}
    (kept : ∀ id, occupiedId anchors id = true → occupiedId after id = true) :
    Resolve after resources config where
  resources resource member occupied := kept _ (resolve.resources resource member occupied)
  callback enabled := kept _ (resolve.callback enabled)

/-- A slot that refers to an occupied anchor, or to none, may be put anywhere. -/
theorem Resolve.set (resolve : Resolve anchors resources config) (index : ℕ)
    {resource : HealthCheckConfig.Resource}
    (known : resource.occupied ≠ 0 → occupiedId anchors resource.trustAnchorId = true) :
    Resolve anchors (resources.setIfInBounds index resource) config where
  resources other member occupied := by
    simp only [Vector.toList_setIfInBounds] at member
    rcases List.mem_or_eq_of_mem_set member with kept | rfl
    · exact resolve.resources other kept occupied
    · exact known occupied
  callback := resolve.callback

/-- Every anchor that a configuration refers to is in use. -/
theorem Resolve.drop (resolve : Resolve anchors resources config)
    {after : Vector TlsTrustStore.Anchor TlsTrustStore.maxPersisted}
    {used : UInt8 → Prop}
    (inResource : ∀ resource ∈ resources.toList, resource.occupied ≠ 0 →
      used resource.trustAnchorId)
    (inCallback : config.enabled ≠ 0 → used config.trustAnchorId)
    (kept : ∀ id, used id → occupiedId anchors id = true → occupiedId after id = true) :
    Resolve after resources config where
  resources resource member occupied :=
    kept _ (inResource resource member occupied) (resolve.resources resource member occupied)
  callback enabled := kept _ (inCallback enabled) (resolve.callback enabled)

/-- The references of a device resolve. -/
def DeviceResolves (device : ApiService.Device) : Prop :=
  Resolve device.trust.snapshot.body.anchors device.healthCheck.snapshot.body.resources
    device.callback.snapshot.body.config

variable {device : ApiService.Device}

theorem inUse_of_resource {resource : HealthCheckConfig.Resource}
    (member : resource ∈ device.healthCheck.snapshot.body.resources.toList)
    (occupied : resource.occupied ≠ 0) :
    ApiService.anchorInUse device resource.trustAnchorId = true := by
  simp only [ApiService.anchorInUse, HealthCheckConfig.isTrustAnchorInUse, Bool.or_eq_true,
    List.any_eq_true]
  exact .inl ⟨resource, member, by simp [occupied]⟩

theorem inUse_of_callback (enabled : device.callback.snapshot.body.config.enabled ≠ 0) :
    ApiService.anchorInUse device device.callback.snapshot.body.config.trustAnchorId = true := by
  simp only [ApiService.anchorInUse, CallbackConfig.isTrustAnchorInUse, CallbackConfig.get,
    Bool.or_eq_true]
  exact .inr (by simp [enabled])

/-- A mutation of the trust store that removes no anchor in use keeps all references. -/
theorem DeviceResolves.amendTrust (resolves : DeviceResolves device)
    {examine : List UInt8 → TlsTrustStore.Examination} {request : TlsTrustStore.Request}
    {candidate : TlsTrustStore.CurrentBody}
    (unused : ∀ id, request.Removes id → ApiService.anchorInUse device id = false)
    (amended : TlsTrustStore.amend examine device.trust.snapshot.body request = .ok candidate) :
    Resolve candidate.anchors device.healthCheck.snapshot.body.resources
      device.callback.snapshot.body.config := by
  have dropped (kept : ∀ id, ApiService.anchorInUse device id = true →
      occupiedId device.trust.snapshot.body.anchors id = true →
        occupiedId candidate.anchors id = true) :
      Resolve candidate.anchors device.healthCheck.snapshot.body.resources
        device.callback.snapshot.body.config :=
    Resolve.drop resolves (fun _ => inUse_of_resource) inUse_of_callback kept
  rcases TlsTrustStore.amend_cases amended with
    ⟨_, _, index, anchor, _, _, valid, rfl⟩ | ⟨_, _, _, index, anchor, _, _, valid, rfl⟩ |
      ⟨id, index, rfl, found, rfl⟩ | ⟨rfl, rfl⟩
  · have filled : anchor.occupied ≠ 0 := by simp [(TlsTrustStore.validateDer_ok valid).1]
    exact Resolve.mono resolves fun _ => TlsTrustStore.occupiedId_set_of_occupied filled
  · have filled : anchor.occupied ≠ 0 := by simp [(TlsTrustStore.validateDer_ok valid).1]
    exact Resolve.mono resolves fun _ => TlsTrustStore.occupiedId_set_of_occupied filled
  · refine dropped fun other used occupied => ?_
    have apart : TlsTrustStore.slotOf other ≠ some index := by
      intro same
      have number := (TlsTrustStore.slotOf_eq_some same).1
      rw [← (TlsTrustStore.slotOf_eq_some (TlsTrustStore.slotOf_of_occupiedSlot found)).1]
        at number
      rw [UInt8.toNat_inj.mp number, unused id rfl] at used
      cases used
    exact (TlsTrustStore.occupiedId_set_of_ne apart _).trans occupied
  · refine dropped fun other used occupied => ?_
    rw [unused other (TlsTrustStore.mem_anchorNumbers occupied)] at used
    cases used

/-- What a resource slot is set to keeps the references when its anchor exists. -/
theorem DeviceResolves.assign (resolves : DeviceResolves device) (index : ℕ)
    {input : HealthCheckConfig.ResourceInput} (slot : HealthCheckConfig.Resource)
    (known : TlsTrustStore.anchorExists device.trust input.trustAnchorId = true) :
    Resolve device.trust.snapshot.body.anchors
      (device.healthCheck.snapshot.body.withSlot index (input.assign slot)).resources
      device.callback.snapshot.body.config := by
  rw [TlsTrustStore.anchorExists_eq] at known
  exact Resolve.set resolves index fun _ => known

/-- A mutation of the health-check configuration keeps the references when the
anchor that it names exists. -/
theorem DeviceResolves.amendHealthCheck (resolves : DeviceResolves device)
    {request : HealthCheckConfig.Request} {candidate : HealthCheckConfig.CurrentBody}
    (known : ∀ input, request = .addResource input
        ∨ (∃ index, request = .updateResource index input) →
      TlsTrustStore.anchorExists device.trust input.trustAnchorId = true)
    (amended : HealthCheckConfig.amend device.healthCheck.snapshot.body request = .ok candidate) :
    Resolve device.trust.snapshot.body.anchors candidate.resources
      device.callback.snapshot.body.config := by
  rcases HealthCheckConfig.amend_cases amended with
    ⟨_, _, _, _, rfl⟩ | ⟨input, index, rfl, _, _, rfl⟩ | ⟨index, input, slot, rfl, _, _, rfl⟩ |
      ⟨index, slot, rfl, _, rfl⟩
  · exact resolves
  · exact resolves.assign index _ (known input (.inl rfl))
  · exact resolves.assign index.toNat slot (known input (.inr ⟨index, rfl⟩))
  · exact Resolve.set resolves index.toNat fun occupied => absurd rfl occupied

/-! ## Requests -/

/-- The three stores of a running device agree with their banks. -/
structure Steadfast (library : ApiService.Library) (older : TlsTrustStore.OlderBanks)
    (device : ApiService.Device) : Prop where
  trust : (TlsTrustStore.machine library.examine older).Steady device.trust
  healthCheck : HealthCheckConfig.machine.Steady device.healthCheck
  callback : CallbackConfig.machine.Steady device.callback

/-- Every write of the three stores succeeds or fails without effect. -/
structure OrderlyWrites (library : ApiService.Library) (older : TlsTrustStore.OlderBanks)
    (environment : ApiService.Environment) (device : ApiService.Device) : Prop where
  trust : (TlsTrustStore.machine library.examine older).Orderly
    (TlsTrustStore.saveFates (device.trust.banks.get device.trust.active.other)
      environment.trustFaults)
    (device.trust.banks.get device.trust.active.other)
  healthCheck : HealthCheckConfig.machine.Orderly environment.healthCheckFaults
    (device.healthCheck.banks.get device.healthCheck.active.other)
  callback : CallbackConfig.machine.Orderly environment.callbackFaults
    (device.callback.banks.get device.callback.active.other)

/-- No store is at its last generation. -/
structure Unwrapped (device : ApiService.Device) : Prop where
  trust : device.trust.snapshot.body.generation ≠ 0xFFFFFFFF
  healthCheck : device.healthCheck.snapshot.body.generation ≠ 0xFFFFFFFF
  callback : device.callback.snapshot.body.generation ≠ 0xFFFFFFFF

variable {library : ApiService.Library} {older : TlsTrustStore.OlderBanks}
  {environment : ApiService.Environment}

theorem healthCheck_changed (steady : Steadfast library older device)
    (orderly : OrderlyWrites library older environment device) (unwrapped : Unwrapped device)
    (resolves : DeviceResolves device) {request : HealthCheckConfig.Request}
    (known : ∀ input, request = .addResource input
        ∨ (∃ index, request = .updateResource index input) →
      TlsTrustStore.anchorExists device.trust input.trustAnchorId = true) :
    let after := { device with
      healthCheck := (HealthCheckConfig.mutate device.healthCheck request
        environment.healthCheckFaults).1 }
    Steadfast library older after ∧ DeviceResolves after := by
  obtain ⟨kept, contents⟩ := steady.healthCheck.mutate
    HealthCheckConfig.machine_recovering.toLawful orderly.healthCheck unwrapped.healthCheck
  refine ⟨⟨steady.trust, kept, steady.callback⟩, ?_⟩
  rcases contents with ⟨candidate, proposed, contents⟩ | contents
  · have stored : (HealthCheckConfig.mutate device.healthCheck request
        environment.healthCheckFaults).1.snapshot.body.resources = candidate.body.resources :=
      congrArg Prod.snd contents
    simpa only [DeviceResolves, stored] using
      resolves.amendHealthCheck known (Sealed.of_propose proposed)
  · have stored : (HealthCheckConfig.mutate device.healthCheck request
        environment.healthCheckFaults).1.snapshot.body.resources
          = device.healthCheck.snapshot.body.resources := congrArg Prod.snd contents
    simpa only [DeviceResolves, stored] using resolves

/-- **A request keeps the references.** -/
theorem Resolve.changed (steady : Steadfast library older device)
    (orderly : OrderlyWrites library older environment device) (unwrapped : Unwrapped device)
    (resolves : DeviceResolves device) {after : ApiService.Device}
    (changed : ApiService.Changed library environment device after) :
    Steadfast library older after ∧ DeviceResolves after := by
  cases changed with
  | sessions table => exact ⟨⟨steady.trust, steady.healthCheck, steady.callback⟩, resolves⟩
  | alert alerts => exact ⟨⟨steady.trust, steady.healthCheck, steady.callback⟩, resolves⟩
  | putUser => exact ⟨⟨steady.trust, steady.healthCheck, steady.callback⟩, resolves⟩
  | deleteUser => exact ⟨⟨steady.trust, steady.healthCheck, steady.callback⟩, resolves⟩
  | stage => exact ⟨⟨steady.trust, steady.healthCheck, steady.callback⟩, resolves⟩
  | trust request unused =>
      obtain ⟨kept, contents⟩ := steady.trust.mutate
        (TlsTrustStore.machine_lawful library.examine older) orderly.trust unwrapped.trust
      refine ⟨⟨kept, steady.healthCheck, steady.callback⟩, ?_⟩
      rcases contents with ⟨candidate, proposed, contents⟩ | contents
      · have stored : (TlsTrustStore.mutate library.examine device.trust request
            environment.trustFaults).1.snapshot.body.anchors = candidate.body.anchors := contents
        simpa only [DeviceResolves, stored] using
          resolves.amendTrust unused (Sealed.of_propose proposed)
      · have stored : (TlsTrustStore.mutate library.examine device.trust request
            environment.trustFaults).1.snapshot.body.anchors
              = device.trust.snapshot.body.anchors := contents
        simpa only [DeviceResolves, stored] using resolves
  | callback config known =>
      obtain ⟨kept, contents⟩ := steady.callback.mutate
        CallbackConfig.machine_recovering.toLawful orderly.callback unwrapped.callback
      refine ⟨⟨steady.trust, steady.healthCheck, kept⟩, ?_⟩
      rcases contents with ⟨candidate, proposed, contents⟩ | contents
      · obtain ⟨_, same⟩ := CallbackConfig.setCandidate_cases (Sealed.of_propose proposed)
        have stored : (CallbackConfig.set device.callback config
            environment.callbackFaults).1.snapshot.body.config = config :=
          contents.trans (congrArg (·.config) same)
        simp only [DeviceResolves, stored]
        refine ⟨resolves.resources, fun enabled => ?_⟩
        rw [← TlsTrustStore.anchorExists_eq]
        exact known enabled
      · have stored : (CallbackConfig.set device.callback config
            environment.callbackFaults).1.snapshot.body.config
              = device.callback.snapshot.body.config := contents
        simpa only [DeviceResolves, stored] using resolves
  | period seconds =>
      exact healthCheck_changed steady orderly unwrapped resolves
        (by rintro input (same | ⟨index, same⟩) <;> cases same)
  | addResource body update described known =>
      refine healthCheck_changed steady orderly unwrapped resolves ?_
      rintro input (same | ⟨index, same⟩) <;> cases same
      exact known
  | updateResource index resource body found known =>
      refine healthCheck_changed steady orderly unwrapped resolves ?_
      rintro input (same | ⟨index, same⟩) <;> cases same
      exact known
  | deleteResource index =>
      exact healthCheck_changed steady orderly unwrapped resolves
        (by rintro input (same | ⟨index, same⟩) <;> cases same)

/-! ## Start-ups -/

/-- The earlier layouts of the trust store hold nothing. -/
def NoOlderTrust (older : TlsTrustStore.OlderBanks) : Prop :=
  TlsTrustStore.origin older = (.b, TlsTrustStore.emptyBody)

theorem trust_recovers {banks : Banks TlsTrustStore.TrustBank}
    (keeps : (TlsTrustStore.machine library.examine older).Keeps banks anchors)
    (noOlder : NoOlderTrust older) {boot : BootFaults TlsTrustStore.BankFaults}
    (readable : boot.Readable)
    (orderly : (TlsTrustStore.machine library.examine older).Orderly
      (TlsTrustStore.saveFates banks.a boot.save) banks.a) :
    (TlsTrustStore.machine library.examine older).Recovers anchors
      (TlsTrustStore.init older banks boot) := by
  refine keeps.start (TlsTrustStore.machine_lawful library.examine older) readable
    fun blank noOlderBanks => ?_
  obtain ⟨snapshot, started⟩ := @TlsTrustStore.init_blank older banks boot readable blank
  rw [noOlder] at started
  have saves := @TlsTrustStore.save_eq boot.save ⟨banks, snapshot, .b⟩ orderly.1
    ⟨TlsTrustStore.emptyBody, 0⟩
  refine @start_first _ _ banks blank noOlderBanks boot _ snapshot rfl
    TlsTrustStore.emptyBody_valid orderly ?_ rfl
  exact started.trans (congrArg (Prod.map id Outcome.start) saves)

/-- The banks of the three stores keep contents whose references resolve. -/
structure FlashResolves (library : ApiService.Library) (flash : StoreFlash) : Prop where
  noOlder : NoOlderTrust flash.older
  keeps : ∃ anchors period resources config, Resolve anchors resources config
    ∧ (TlsTrustStore.machine library.examine flash.older).Keeps flash.trust anchors
    ∧ HealthCheckConfig.machine.Keeps flash.healthCheck (period, resources)
    ∧ CallbackConfig.machine.Keeps flash.callback config

/-- The writes of a start-up succeed or fail without effect. -/
structure OrderlyStart (library : ApiService.Library) (faults : ServiceFaults)
    (flash : StoreFlash) : Prop where
  trust : (TlsTrustStore.machine library.examine flash.older).Orderly
    (TlsTrustStore.saveFates flash.trust.a faults.trust.save) flash.trust.a
  healthCheck : HealthCheckConfig.machine.Orderly faults.healthCheck.save flash.healthCheck.a
  callback : CallbackConfig.machine.Orderly faults.callback.save flash.callback.a

/-- The reads of a start-up succeed. -/
structure ReadableStart (faults : ServiceFaults) : Prop where
  trust : faults.trust.Readable
  healthCheck : faults.healthCheck.Readable
  callback : faults.callback.Readable

/-- A start of the services finds what the banks keep. -/
theorem FlashResolves.start {flash : StoreFlash} (keeps : FlashResolves library flash)
    {faults : ServiceFaults} (readable : ReadableStart faults)
    (orderly : OrderlyStart library faults flash) :
    FlashResolves library (startServices faults flash).flash
      ∧ ∀ device, (startServices faults flash).device = some device →
        Steadfast library flash.older device ∧ DeviceResolves device := by
  obtain ⟨noOlder, anchors, period, resources, config, resolve, trust, healthCheck, callback⟩ := keeps
  have trustRecovers := trust_recovers trust noOlder readable.trust orderly.trust
  have callbackRecovers : CallbackConfig.machine.Recovers config
      (CallbackConfig.init flash.callback faults.callback) :=
    callback.start_recovering CallbackConfig.machine_recovering readable.callback
      orderly.callback rfl CallbackConfig.defaultSnapshot_valid (fun _ => rfl)
  have healthCheckRecovers : HealthCheckConfig.machine.Recovers (period, resources)
      (HealthCheckConfig.init flash.healthCheck faults.healthCheck) :=
    healthCheck.start_recovering HealthCheckConfig.machine_recovering readable.healthCheck
      orderly.healthCheck rfl HealthCheckConfig.setDefault_valid (fun _ => rfl)
  obtain ⟨older, trustAfter, callbackAfter, healthCheckAfter, -⟩ := startServices_flash faults flash
  refine ⟨⟨older ▸ noOlder, anchors, period, resources, config, resolve, ?_, ?_, ?_⟩,
    fun device started => ?_⟩
  · rw [older]
    rcases trustAfter with same | after
    · exact same ▸ trust
    · exact after ▸ trustRecovers.2
  · rcases healthCheckAfter with same | after
    · exact same ▸ healthCheck
    · exact after ▸ healthCheckRecovers.2
  · rcases callbackAfter with same | after
    · exact same ▸ callback
    · exact after ▸ callbackRecovers.2
  · obtain ⟨trustReady, callbackReady, healthCheckReady, -⟩ := startServices_ready started
    rw [trustReady] at trustRecovers
    rw [callbackReady] at callbackRecovers
    rw [healthCheckReady] at healthCheckRecovers
    obtain ⟨trustSteady, trustContents⟩ := trustRecovers.1 rfl
    obtain ⟨callbackSteady, callbackContents⟩ := callbackRecovers.1 rfl
    obtain ⟨healthCheckSteady, healthCheckContents⟩ := healthCheckRecovers.1 rfl
    refine ⟨⟨trustSteady, healthCheckSteady, callbackSteady⟩, ?_⟩
    have storedAnchors : device.trust.snapshot.body.anchors = anchors := trustContents
    have storedResources : device.healthCheck.snapshot.body.resources = resources :=
      congrArg Prod.snd healthCheckContents
    have storedConfig : device.callback.snapshot.body.config = config := callbackContents
    rw [DeviceResolves, storedAnchors, storedResources, storedConfig]
    exact resolve

/-! ## Runs -/

/-- Every store write succeeds or fails without effect. -/
def Admits (library : ApiService.Library) : Appliance → Event → Prop
  | .on older device, .request environment _ => OrderlyWrites library older environment device
  | .off _, .request _ _ => True
  | appliance, .reboot faults => OrderlyStart library faults appliance.flash

/-- A start-up can read the flash. -/
def Event.Readable : Event → Prop
  | .request _ _ => True
  | .reboot faults => ReadableStart faults

/-- A running device is not at the last generation of a store. -/
def Appliance.Unwrapped : Appliance → Prop
  | .on _ device => Startup.Unwrapped device
  | .off _ => True

/-- Every reference of a running device resolves. -/
def Appliance.Resolves : Appliance → Prop
  | .on _ device => DeviceResolves device
  | .off _ => True

/-- The stores hold nothing, in any layout. -/
structure EmptyStores (flash : StoreFlash) : Prop where
  older : NoOlderTrust flash.older
  trust : Blank TlsTrustStore.format flash.trust
  healthCheck : Blank HealthCheckConfig.format flash.healthCheck
  healthCheckOlder : HealthCheckConfig.machine.NoOlder flash.healthCheck
  callback : Blank CallbackConfig.format flash.callback

/-- The invariant of a run. -/
def Appliance.Sound (library : ApiService.Library) : Appliance → Prop
  | .on older device =>
      NoOlderTrust older ∧ Steadfast library older device ∧ DeviceResolves device
  | .off flash => FlashResolves library flash

/-- What a running device has in memory is what its flash keeps. -/
theorem Appliance.Sound.flash {appliance : Appliance} (sound : appliance.Sound library) :
    FlashResolves library appliance.flash := by
  cases appliance with
  | off flash => exact sound
  | on older device =>
      obtain ⟨noOlder, steady, resolves⟩ := sound
      exact ⟨noOlder, _, device.healthCheck.snapshot.body.periodSeconds, _, _, resolves,
        steady.trust.keeps, steady.healthCheck.keeps, steady.callback.keeps⟩

/-- One event keeps the invariant. -/
theorem Appliance.Sound.step {appliance : Appliance} (sound : appliance.Sound library)
    {event : Event} (admits : Admits library appliance event) (readable : event.Readable)
    (unwrapped : appliance.Unwrapped) :
    (Startup.step library appliance event).Sound library := by
  have rebooted : ∀ faults, ReadableStart faults → OrderlyStart library faults appliance.flash →
      (boot faults appliance.flash).Sound library := by
    intro faults readable orderly
    obtain ⟨keeps, started⟩ := sound.flash.start readable orderly
    unfold boot
    split
    · rename_i device running
      exact ⟨sound.flash.noOlder, started device running⟩
    · exact keeps
  cases appliance with
  | off flash =>
      cases event with
      | request environment request => exact sound
      | reboot faults => exact rebooted faults readable admits
  | on older device =>
      cases event with
      | request environment request =>
          exact ⟨sound.1, Resolve.changed sound.2.1 admits unwrapped sound.2.2
            (ApiService.dispatch_changed request)⟩
      | reboot faults => exact rebooted faults readable admits

/-- Blank banks keep the defaults, which refer to nothing. -/
theorem EmptyStores.sound {flash : StoreFlash} (empty : EmptyStores flash) :
    FlashResolves library flash where
  noOlder := empty.older
  keeps := by
    refine ⟨_, _, _, _, ?_, .inr ⟨empty.trust, fun _ => rfl, rfl⟩,
      .inr ⟨empty.healthCheck, empty.healthCheckOlder, rfl⟩,
      .inr ⟨empty.callback, fun _ => rfl, rfl⟩⟩
    refine ⟨fun resource member occupied => ?_, fun enabled => absurd rfl enabled⟩
    have inDefaults : resource ∈ HealthCheckConfig.setDefault.resources.toList := member
    rw [HealthCheckConfig.setDefault, Vector.toList_replicate] at inDefaults
    have blank := List.eq_of_mem_replicate inDefaults
    exact absurd (congrArg HealthCheckConfig.Resource.occupied blank) occupied

/-- **Referential integrity of trust anchors.** Start from empty stores. In every run
of requests and start-ups whose writes succeed or fail without effect, whose start-ups can
read the flash, and in which no store is at its last generation, every occupied resource
and an enabled callback refer to occupied anchors. -/
theorem references_resolve (library : ApiService.Library) (flash : StoreFlash)
    (empty : EmptyStores flash) (events : List Event)
    (admitted : Run.Throughout (step library) (Admits library) (.off flash) events)
    (readable : ∀ event ∈ events, event.Readable)
    (unwrapped : Run.Throughout (step library) (fun appliance _ => appliance.Unwrapped)
      (.off flash) events) :
    (Run.run (step library) (.off flash) events).Resolves := by
  have start : (Appliance.off flash).Sound library := empty.sound
  have read : Run.Throughout (step library) (fun _ event => event.Readable) (.off flash) events :=
    .of_forall fun _ event member => readable event member
  have sound := ((admitted.and read).and unwrapped).invariant
    (fun appliance event (holds : appliance.Sound library) admits =>
      holds.step admits.1.1 admits.1.2 admits.2) start
  revert sound
  cases Run.run (step library) (.off flash) events with
  | on older device => exact fun sound => sound.2.2
  | off flash => exact fun _ => trivial

/-! ## A device without faults -/

theorem orderly_done {Image : Type} (machine : SnapshotStore Image) (before : Image) :
    machine.Orderly .done before :=
  ⟨⟨trivial, trivial⟩, .inl rfl⟩

theorem orderlyWrites_calm (library : ApiService.Library) (older : TlsTrustStore.OlderBanks)
    (device : ApiService.Device) : OrderlyWrites library older calm device where
  trust := by
    rw [show calm.trustFaults = calmBank from rfl, saveFates_calm]
    exact orderly_done _ _
  healthCheck := orderly_done _ _
  callback := orderly_done _ _

/-- The writes of a start are those of `calmStart`, whatever it can read. -/
theorem orderlyStart_calm (library : ApiService.Library) (reads : ℕ → Bool)
    (flash : StoreFlash) :
    OrderlyStart library { calmStart with trust := ⟨reads, calmBank⟩ } flash where
  trust := by
    rw [saveFates_calm]
    exact orderly_done _ _
  healthCheck := orderly_done _ _
  callback := orderly_done _ _

theorem admits_of_calm {event : Event} (quiet : event.Calm) (appliance : Appliance) :
    Admits lenient appliance event := by
  cases event with
  | request environment request =>
      obtain rfl : environment = calm := quiet
      cases appliance with
      | on older device => exact orderlyWrites_calm _ _ _
      | off flash => trivial
  | reboot faults =>
      obtain rfl : faults = calmStart := quiet
      cases appliance <;> exact orderlyStart_calm _ _ _

theorem readable_of_calm {event : Event} (quiet : event.Calm) : event.Readable := by
  cases event with
  | request environment request => trivial
  | reboot faults =>
      obtain rfl : faults = calmStart := quiet
      exact ⟨fun _ => rfl, fun _ => rfl, fun _ => rfl⟩

theorem erasedFlash_empty : EmptyStores erasedFlash where
  older := origin_erased
  trust := blank_trust
  healthCheck := blank_healthCheck
  healthCheckOlder := noOlder_healthCheck
  callback := blank_callback

theorem Stage.unwrapped {sessions : AuthService.Table} {generation trustGeneration : UInt32}
    {resources : Vector HealthCheckConfig.Resource HealthCheckConfig.maxResources}
    {anchors : Vector TlsTrustStore.Anchor TlsTrustStore.maxPersisted} {device : ApiService.Device}
    (stage : Stage sessions generation resources trustGeneration anchors device)
    (few : generation ≠ 0xFFFFFFFF ∧ trustGeneration ≠ 0xFFFFFFFF) :
    (Appliance.on erasedFlash.older device).Unwrapped where
  trust := stage.trustGeneration ▸ few.2
  healthCheck := stage.generation ▸ few.1
  callback := stage.untouched.callbackGeneration

-- a start-up of closed flash contents must not be evaluated
attribute [local irreducible] startServices

theorem preparation_unwrapped : Run.Throughout (step lenient)
    (fun appliance _ => appliance.Unwrapped) (.off erasedFlash) preparation := by
  obtain ⟨first, started, firstStage⟩ := first_start
  obtain ⟨second, loggedIn, secondStage⟩ := firstStage.login
  obtain ⟨third, anchored, thirdStage⟩ := secondStage.addAnchor
  refine ⟨trivial, ?_⟩
  rw [started]
  refine ⟨firstStage.unwrapped (by decide), ?_⟩
  rw [loggedIn]
  refine ⟨secondStage.unwrapped (by decide), ?_⟩
  rw [anchored]
  exact ⟨thirdStage.unwrapped (by decide), trivial⟩

/-- After the preparation there is a reference, and it resolves. -/
theorem references_resolve_prepared :
    (∃ device, Run.run (step lenient) (.off erasedFlash) preparation = .on erasedFlash.older device
        ∧ device.healthCheck.snapshot.body.resources = oneResource)
      ∧ (Run.run (step lenient) (.off erasedFlash) preparation).Resolves := by
  obtain ⟨device, ran, stage⟩ := prepared
  have resolves := references_resolve lenient erasedFlash erasedFlash_empty preparation
    (.of_forall fun appliance event member =>
      admits_of_calm (preparation_calm event member) appliance)
    (fun event member => readable_of_calm (preparation_calm event member)) preparation_unwrapped
  exact ⟨⟨device, ran, stage.resources⟩, resolves⟩

/-- A start in which no read of the trust store succeeds, and all else does. -/
def unreadTrust : ServiceFaults := { calmStart with trust := ⟨fun _ => false, calmBank⟩ }

/-- **A trust store that cannot be read breaks a reference.** All stores are empty at
first, every write succeeds and no generation wraps round. In the restart after the
preparation the banks of the trust store cannot be read, so that it comes up without
anchors; the resource still refers to one. -/
theorem unread_anchors_dangle :
    let events := preparation ++ [.reboot unreadTrust]
    EmptyStores erasedFlash
      ∧ Run.Throughout (step lenient) (Admits lenient) (.off erasedFlash) events
      ∧ Run.Throughout (step lenient) (fun appliance _ => appliance.Unwrapped) (.off erasedFlash)
        events
      ∧ ¬ (Run.run (step lenient) (.off erasedFlash) events).Resolves := by
  obtain ⟨device, ran, stage⟩ := prepared
  refine ⟨erasedFlash_empty, .of_forall fun appliance event member => ?_, ?_, ?_⟩
  · rcases List.mem_append.mp member with quiet | last
    · exact admits_of_calm (preparation_calm event quiet) appliance
    · obtain rfl := List.mem_singleton.mp last
      cases appliance <;> exact orderlyStart_calm _ _ _
  · refine Run.throughout_append.mpr ⟨preparation_unwrapped, ?_⟩
    rw [ran]
    exact ⟨stage.unwrapped (by decide), trivial⟩
  · obtain ⟨image, -, trustInit⟩ := @trust_init device.trust.banks (fun _ => false) rfl
    obtain ⟨after, restarted, trust, healthCheck, -⟩ := stage.reboot trustInit
    have ends : Run.run (step lenient) (.off erasedFlash) (preparation ++ [.reboot unreadTrust])
        = .on erasedFlash.older after := by
      rw [Run.run_append, ran]
      exact restarted
    rw [ends]
    intro resolves
    have resolve : Resolve after.trust.snapshot.body.anchors
      after.healthCheck.snapshot.body.resources after.callback.snapshot.body.config := resolves
    rw [trust, healthCheck, stage.resources] at resolve
    have dangling : TlsTrustStore.occupiedId noAnchors resource.trustAnchorId = true :=
      resolve.resources resource (by decide) (by decide)
    exact absurd dangling (by decide)

end Startup

end HealthCheckFirmware
