import HealthCheckFirmware.Api.Dispatch

/-!
# What a request can change

`Changed` lists everything that a request can do to the device, with what has been
checked before it is done: an anchor that is removed is not in use, an anchor that
comes into use exists, the strings that are stored come from the body or were stored
before. Every dispatch is one of these (`dispatch_changed`), and all invariants of
the stores under requests are proved by going through the list.
-/

set_option autoImplicit false

namespace HealthCheckFirmware

/-- The anchors that a mutation of the trust store takes away. -/
def TlsTrustStore.Request.Removes : TlsTrustStore.Request → UInt8 → Prop
  | .add _ _, _ => False
  | .replace _ _ _, _ => False
  | .delete id, removed => removed = id
  | .reset, removed => removed ∈ ApiService.anchorNumbers

namespace ApiService

/-- The device after a request, and what was checked on the way. -/
inductive Changed (library : Library) (environment : Environment) (device : Device) : Device → Prop
  | sessions (table : AuthService.Table) :
      Changed library environment device (device.withSessions table)
  | alert (alerts : List Alert) :
      Changed library environment device { device with buzzer := alerts }
  | putUser (principal : AuthService.Principal) (input : AuthService.UserInput)
      (known : (∃ body, jsonText body (ascii "username") UserStore.usernameSize
          = some input.username)
        ∨ ∃ existing, UserStore.find device.auth.users.snapshot.body input.username
          = some existing) :
      Changed library environment device { device with
        auth := (AuthService.putUser library.crypto environment.acting device.auth principal
          input).1 }
  | deleteUser (principal : AuthService.Principal) (username : List UInt8) :
      Changed library environment device { device with
        auth := (AuthService.deleteUser environment.acting device.auth principal username).1 }
  | stage (request : TlsServerCredentials.Request) :
      Changed library environment device { device with
        credentials := (TlsServerCredentials.mutate library.checks device.credentials request
          environment.credentialFaults).1 }
  | trust (request : TlsTrustStore.Request)
      (unused : ∀ id, request.Removes id → anchorInUse device id = false) :
      Changed library environment device { device with
        trust := (TlsTrustStore.mutate library.examine device.trust request
          environment.trustFaults).1 }
  | callback (config : CallbackConfig.Config)
      (known : config.enabled ≠ 0 →
        TlsTrustStore.anchorExists device.trust config.trustAnchorId = true) :
      Changed library environment device { device with
        callback := (CallbackConfig.set device.callback config environment.callbackFaults).1 }
  | period (seconds : UInt32) :
      Changed library environment device { device with
        healthCheck := (HealthCheckConfig.mutate device.healthCheck (.setPeriodSeconds seconds)
          environment.healthCheckFaults).1 }
  | addResource (body : List UInt8) (update : ResourceUpdate)
      (described : newResource body = some update)
      (known : TlsTrustStore.anchorExists device.trust update.input.trustAnchorId = true) :
      Changed library environment device { device with
        healthCheck := (HealthCheckConfig.mutate device.healthCheck (.addResource update.input)
          environment.healthCheckFaults).1 }
  | updateResource (index : UInt8) (resource : HealthCheckConfig.Resource) (body : List UInt8)
      (found : HealthCheckConfig.occupiedSlot device.healthCheck.snapshot.body index
        = some resource)
      (known : TlsTrustStore.anchorExists device.trust
        (changedResource resource body).input.trustAnchorId = true) :
      Changed library environment device { device with
        healthCheck := (HealthCheckConfig.mutate device.healthCheck
          (.updateResource index (changedResource resource body).input)
          environment.healthCheckFaults).1 }
  | deleteResource (index : UInt8) :
      Changed library environment device { device with
        healthCheck := (HealthCheckConfig.mutate device.healthCheck (.deleteResource index)
          environment.healthCheckFaults).1 }

variable {library : Library} {environment : Environment} {device : Device}

theorem Changed.refl : Changed library environment device device :=
  .sessions device.auth.sessions

/-! ## One lemma for each handler -/

theorem token_changed (body : List UInt8) :
    Changed library environment device (token library environment device body).1 := by
  unfold token
  split
  · dsimp only
    split <;> exact .sessions _
  · exact .refl

theorem refresh_changed (body : List UInt8) :
    Changed library environment device (refresh library environment device body).1 := by
  unfold refresh
  split
  · exact .refl
  · dsimp only
    split <;> exact .sessions _

theorem revoke_changed (authorization : List UInt8) :
    Changed library environment device (revoke library environment device authorization).1 := by
  unfold revoke
  dsimp only
  split <;> exact .sessions _

theorem testAlert_changed (alert : UInt8 → Alert) (body : List UInt8) :
    Changed library environment device (testAlert environment device alert body).1 := by
  unfold testAlert
  split
  · exact .refl
  split
  · exact .refl
  split
  · exact .alert _
  · exact .refl

theorem saveUser_changed {principal : AuthService.Principal} {body username role : List UInt8}
    {enabled : UInt8} {updating : Bool}
    (known : (∃ body, jsonText body (ascii "username") UserStore.usernameSize = some username)
      ∨ ∃ existing, UserStore.find device.auth.users.snapshot.body username = some existing) :
    Changed library environment device
      (saveUser library environment device principal body username role enabled updating).1 := by
  unfold saveUser
  split
  · exact .refl
  · dsimp only
    split <;> exact .putUser principal _ known

theorem createUser_changed (principal : AuthService.Principal) (body : List UInt8) :
    Changed library environment device
      (createUser library environment device principal body).1 := by
  unfold createUser
  split
  · exact .refl
  · rename_i username read
    exact saveUser_changed (.inl ⟨body, read⟩)

theorem updateUser_changed (principal : AuthService.Principal) (suffix body : List UInt8) :
    Changed library environment device
      (updateUser library environment device principal suffix body).1 := by
  unfold updateUser
  split
  · exact .refl
  · rename_i existing found
    exact saveUser_changed (.inr ⟨existing, found⟩)

theorem deleteUser_changed (principal : AuthService.Principal) (suffix : List UInt8) :
    Changed library environment device (deleteUser environment device principal suffix).1 := by
  unfold deleteUser
  dsimp only
  split <;> exact .deleteUser principal _

theorem putCertificate_changed (body : List UInt8) :
    Changed library environment device (putCertificate library environment device body).1 := by
  unfold putCertificate
  split
  · exact .refl
  · exact .stage _

theorem putPrivateKey_changed (body : List UInt8) :
    Changed library environment device (putPrivateKey library environment device body).1 := by
  unfold putPrivateKey
  split
  · exact .refl
  · exact .stage _

theorem mutateTrust_fst (request : TlsTrustStore.Request) (success : Answer) :
    (mutateTrust library environment device request success).1 = { device with
      trust := (TlsTrustStore.mutate library.examine device.trust request
        environment.trustFaults).1 } := by
  unfold mutateTrust
  dsimp only
  split <;> rfl

theorem mutateTrust_changed {request : TlsTrustStore.Request} {success : Answer}
    (unused : ∀ id, request.Removes id → anchorInUse device id = false) :
    Changed library environment device
      (mutateTrust library environment device request success).1 := by
  rw [mutateTrust_fst]
  exact .trust request unused

theorem resetTrustAnchors_changed :
    Changed library environment device (resetTrustAnchors library environment device).1 := by
  unfold resetTrustAnchors
  split
  · exact .refl
  · rename_i unused
    refine mutateTrust_changed fun id removed => ?_
    simp only [List.any_eq_true, not_exists, not_and, Bool.not_eq_true] at unused
    exact unused id removed

theorem replaceTrustAnchor_changed (idText body : List UInt8) :
    Changed library environment device
      (replaceTrustAnchor library environment device idText body).1 := by
  unfold replaceTrustAnchor
  split
  · exact .refl
  · exact mutateTrust_changed fun _ => False.elim

theorem deleteTrustAnchor_changed (idText : List UInt8) :
    Changed library environment device
      (deleteTrustAnchor library environment device idText).1 := by
  unfold deleteTrustAnchor
  split
  · exact .refl
  split
  · exact .refl
  · rename_i id _ unused
    refine mutateTrust_changed fun removed same => ?_
    obtain rfl : removed = id := same
    simpa using unused

/-- An anchor that is needed and acceptable exists. -/
theorem anchorExists_of_acceptable {trustAnchor : UInt32} {needed : Bool}
    (acceptable : anchorAcceptable device trustAnchor needed = true) (isNeeded : needed = true) :
    TlsTrustStore.anchorExists device.trust trustAnchor.toUInt8 = true := by
  simp only [anchorAcceptable, isNeeded, Bool.not_true, Bool.false_or, Bool.and_eq_true]
    at acceptable
  exact acceptable.2

theorem putCallbackConfig_changed (body : List UInt8) :
    Changed library environment device (putCallbackConfig environment device body).1 := by
  unfold putCallbackConfig
  dsimp only
  split
  · exact .refl
  rename_i update _
  split
  · exact .refl
  split
  · exact .refl
  split
  · exact .refl
  rename_i acceptable
  split
  · exact .refl
  have known : (update.apply (CallbackConfig.get device.callback)).enabled ≠ 0 →
      TlsTrustStore.anchorExists device.trust
        (update.apply (CallbackConfig.get device.callback)).trustAnchorId = true := by
    intro enabled
    exact anchorExists_of_acceptable (Bool.not_eq_false _ ▸ acceptable) (bne_iff_ne.mpr enabled)
  split <;> exact .callback _ known

theorem putHealthCheckConfig_changed (body : List UInt8) :
    Changed library environment device (putHealthCheckConfig environment device body).1 := by
  unfold putHealthCheckConfig
  split
  · exact .refl
  · exact .period _

/-- What passes the checks on a resource proceeds with an anchor that exists. -/
theorem checkedResource_changed {update : ResourceUpdate} {proceed : Device × Answer}
    (proceeds : TlsTrustStore.anchorExists device.trust update.input.trustAnchorId = true →
      Changed library environment device proceed.1) :
    Changed library environment device (checkedResource device update proceed).1 := by
  unfold checkedResource
  split
  · exact .refl
  split
  · exact .refl
  · rename_i acceptable
    exact proceeds (anchorExists_of_acceptable (Bool.not_eq_false _ ▸ acceptable) rfl)

theorem addResource_changed (body : List UInt8) :
    Changed library environment device (addResource environment device body).1 := by
  unfold addResource
  split
  · exact .refl
  · rename_i update described
    exact checkedResource_changed fun known => .addResource body update described known

theorem deleteResource_changed (indexText : List UInt8) :
    Changed library environment device (deleteResource environment device indexText).1 := by
  unfold deleteResource
  split
  · exact .refl
  · exact .deleteResource _

theorem updateResource_changed (indexText body : List UInt8) :
    Changed library environment device
      (updateResource environment device indexText body).1 := by
  unfold updateResource
  split
  · exact .refl
  rename_i index _
  split
  · exact .refl
  · rename_i resource found
    exact checkedResource_changed fun known => .updateResource index resource body found known

/-! ## Dispatch -/

theorem restricted_changed {principal : AuthService.Principal} {result : Device × Answer}
    (changed : Changed library environment device result.1) :
    Changed library environment device (restricted device principal result).1 := by
  unfold restricted
  split
  · exact changed
  · exact .refl

theorem operate_changed (request : Request) (principal : AuthService.Principal)
    (operation : Operation) :
    Changed library environment device
      (operate library environment device request principal operation).1 := by
  cases operation with
  | revoke => exact revoke_changed _
  | rtc => exact .refl
  | telemetry => exact .refl
  | testHealthCheckAlert => exact restricted_changed (testAlert_changed _ _)
  | testCertificateAlert => exact restricted_changed (testAlert_changed _ _)
  | listUsers => exact restricted_changed .refl
  | createUser => exact restricted_changed (createUser_changed _ _)
  | updateUser username => exact restricted_changed (updateUser_changed _ _ _)
  | deleteUser username => exact restricted_changed (deleteUser_changed _ _)
  | putCertificate => exact restricted_changed (putCertificate_changed _)
  | putPrivateKey => exact restricted_changed (putPrivateKey_changed _)
  | listTrustAnchors => exact .refl
  | addTrustAnchor => exact restricted_changed (mutateTrust_changed fun _ => False.elim)
  | resetTrustAnchors => exact restricted_changed resetTrustAnchors_changed
  | replaceTrustAnchor idText => exact restricted_changed (replaceTrustAnchor_changed _ _)
  | deleteTrustAnchor idText => exact restricted_changed (deleteTrustAnchor_changed _)
  | getCallbackConfig => exact .refl
  | putCallbackConfig => exact restricted_changed (putCallbackConfig_changed _)
  | getHealthCheckConfig => exact .refl
  | putHealthCheckConfig => exact restricted_changed (putHealthCheckConfig_changed _)
  | addResource => exact restricted_changed (addResource_changed _)
  | updateResource indexText => exact restricted_changed (updateResource_changed _ _)
  | deleteResource indexText => exact restricted_changed (deleteResource_changed _)
  | getLogs => exact .refl
  | unknown => exact .refl

/-- Every dispatch does one of the things that the list allows. -/
theorem dispatch_changed (request : Request) :
    Changed library environment device (dispatch library environment device request).1 := by
  unfold dispatch
  split
  · exact .refl
  · exact token_changed _
  · exact refresh_changed _
  · split
    · exact .refl
    · exact operate_changed request _ _

end ApiService

end HealthCheckFirmware
