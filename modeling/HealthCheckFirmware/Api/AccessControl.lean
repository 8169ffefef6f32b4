import HealthCheckFirmware.Api.Dispatch
import HealthCheckFirmware.Auth.Transitions

/-!
# Access control

Whoever is not an administrator can change nothing but sessions
(`access_controlled`). Every operation that touches a store or the buzzer is behind
the test of the role (`restricted`), so that the result needs no knowledge of what
the operations do.
-/

set_option autoImplicit false

namespace HealthCheckFirmware.ApiService

variable {library : Library} {environment : Environment} {device : Device} {request : Request}

/-- The bearer token of the request is accepted as the access token of an active
session whose role is administrator. -/
def ByAdministrator (library : Library) (environment : Environment) (device : Device)
    (request : Request) : Prop :=
  ∃ index, (device.auth.sessions index).active = true
    ∧ (device.auth.sessions index).accessDigest
      = library.crypto.sha256 (cString request.authorization)
    ∧ (device.auth.sessions index).role = AuthService.Role.administrator.code
    ∧ AuthService.authorize library.crypto environment.authorizing device.auth.sessions
        request.authorization
      = .ok ⟨(device.auth.sessions index).name, (device.auth.sessions index).role⟩

/-- The stores and the buzzer queue of one state are those of another. -/
structure Device.SameStores (before after : Device) : Prop where
  users : after.auth.users = before.auth.users
  healthCheck : after.healthCheck = before.healthCheck
  callback : after.callback = before.callback
  trust : after.trust = before.trust
  credentials : after.credentials = before.credentials
  buzzer : after.buzzer = before.buzzer

/-- The request is one to log in, to refresh a session or to revoke one. -/
def Request.OnSessions (request : Request) : Prop :=
  cString request.method = ascii "POST"
    ∧ (cString request.path = ascii "/api/v1/auth/token"
      ∨ cString request.path = ascii "/api/v1/auth/refresh"
      ∨ cString request.path = ascii "/api/v1/auth/revoke")

@[simp] theorem Device.withSessions_sessions (device : Device) :
    device.withSessions device.auth.sessions = device := rfl

theorem Device.sameStores_withSessions (device : Device) (table : AuthService.Table) :
    device.SameStores (device.withSessions table) :=
  ⟨rfl, rfl, rfl, rfl, rfl, rfl⟩

/-- A restricted operation does nothing for anyone else. -/
theorem restricted_of_ne {principal : AuthService.Principal}
    (other : principal.role ≠ AuthService.Role.administrator.code) (result : Device × Answer) :
    (restricted device principal result).1 = device := by
  rw [restricted, if_neg other]

/-- A choice is not what neither alternative is. -/
theorem ite_ne_of_ne {Value : Type} {condition : Prop} [Decidable condition]
    {first second value : Value} (notFirst : first ≠ value) (notSecond : second ≠ value) :
    (if condition then first else second) ≠ value := by
  split
  · exact notFirst
  · exact notSecond

theorem operation_eq_revoke {method path : List UInt8} (same : operation method path = .revoke) :
    method = ascii "POST" ∧ path = ascii "/api/v1/auth/revoke" := by
  by_cases matching : exactly method path "POST" "/api/v1/auth/revoke" = true
  · simpa only [exactly, Bool.and_eq_true, beq_iff_eq] using matching
  · rw [operation, if_neg matching] at same
    refine absurd same ?_
    repeat' apply ite_ne_of_ne
    all_goals nofun

/-- The three endpoints that act on sessions. -/
theorem onSessions_of_route
    (endpoint : route (cString request.method) (cString request.path) = .token
      ∨ route (cString request.method) (cString request.path) = .refresh
      ∨ route (cString request.method) (cString request.path) = .authorized .revoke) :
    request.OnSessions := by
  by_cases login : cString request.method = ascii "POST"
      ∧ cString request.path = ascii "/api/v1/auth/token"
  · exact ⟨login.1, .inl login.2⟩
  by_cases renewal : cString request.method = ascii "POST"
      ∧ cString request.path = ascii "/api/v1/auth/refresh"
  · exact ⟨renewal.1, .inr (.inl renewal.2)⟩
  rw [route, if_neg login, if_neg renewal] at endpoint
  rcases endpoint with token | refresh | revoke
  · exact absurd token (ite_ne_of_ne nofun nofun)
  · exact absurd refresh (ite_ne_of_ne nofun nofun)
  · split at revoke
    · cases revoke
    · obtain ⟨method, path⟩ := operation_eq_revoke (Endpoint.authorized.inj revoke)
      exact ⟨method, .inr (.inr path)⟩

theorem token_sessions (body : List UInt8) :
    ∃ table, (token library environment device body).1 = device.withSessions table := by
  unfold token
  split
  · simp only
    split <;> exact ⟨_, rfl⟩
  · exact ⟨device.auth.sessions, rfl⟩

theorem refresh_sessions (body : List UInt8) :
    ∃ table, (refresh library environment device body).1 = device.withSessions table := by
  unfold refresh
  split
  · exact ⟨device.auth.sessions, rfl⟩
  · simp only
    split <;> exact ⟨_, rfl⟩

theorem revoke_sessions (authorization : List UInt8) :
    ∃ table, (revoke library environment device authorization).1 = device.withSessions table := by
  unfold revoke
  simp only
  split <;> exact ⟨_, rfl⟩

/-- Anyone but an administrator gets nothing changed, but for a revocation. -/
theorem operate_of_ne {principal : AuthService.Principal}
    (other : principal.role ≠ AuthService.Role.administrator.code) (operation : Operation) :
    (operate library environment device request principal operation).1 = device
      ∨ (operation = .revoke ∧ ∃ table,
        (operate library environment device request principal operation).1
          = device.withSessions table) := by
  cases operation with
  | revoke => exact .inr ⟨rfl, revoke_sessions request.authorization⟩
  | rtc => exact .inl rfl
  | telemetry => exact .inl rfl
  | listTrustAnchors => exact .inl rfl
  | getCallbackConfig => exact .inl rfl
  | getHealthCheckConfig => exact .inl rfl
  | getLogs => exact .inl rfl
  | unknown => exact .inl rfl
  | _ => exact .inl (restricted_of_ne other _)

/-- An accepted token of an administrator is that of an active session. -/
theorem byAdministrator_of_authorize {principal : AuthService.Principal}
    (accepted : AuthService.authorize library.crypto environment.authorizing device.auth.sessions
      request.authorization = .ok principal)
    (administrator : principal.role = AuthService.Role.administrator.code) :
    ByAdministrator library environment device request := by
  obtain ⟨index, found, rfl⟩ := AuthService.authorize_ok accepted
  obtain ⟨active, _, digest⟩ := AuthService.matching_some found
  exact ⟨index, active, digest.symm, administrator, accepted⟩

/-- A request that is not an administrator's changes at most the session table, and
that only at the endpoints that act on sessions. -/
theorem dispatch_of_not_byAdministrator
    (other : ¬ ByAdministrator library environment device request) :
    (dispatch library environment device request).1 = device
      ∨ (request.OnSessions ∧ ∃ table,
        (dispatch library environment device request).1 = device.withSessions table) := by
  unfold dispatch
  cases endpoint : route (cString request.method) (cString request.path) with
  | health headersOnly => exact .inl rfl
  | token => exact .inr ⟨onSessions_of_route (.inl endpoint), token_sessions _⟩
  | refresh => exact .inr ⟨onSessions_of_route (.inr (.inl endpoint)), refresh_sessions _⟩
  | authorized operation =>
      simp only
      cases accepted : AuthService.authorize library.crypto environment.authorizing
          device.auth.sessions request.authorization with
      | error failure => exact .inl rfl
      | ok principal =>
          have role : principal.role ≠ AuthService.Role.administrator.code :=
            fun administrator => other (byAdministrator_of_authorize accepted administrator)
          rcases operate_of_ne role operation with unchanged | ⟨rfl, table, sessions⟩
          · exact .inl unchanged
          · exact .inr ⟨onSessions_of_route (.inr (.inr endpoint)), table, sessions⟩

/-- **Access control over the whole interface.** In every state and for every
request: if a store or the buzzer queue changes, then the token is that of an
administrator; without one, nothing but the session table can change, and that only
at the endpoints for sessions. -/
theorem access_controlled (library : Library) (environment : Environment) (device : Device)
    (request : Request) :
    (¬ device.SameStores (dispatch library environment device request).1 →
        ByAdministrator library environment device request)
      ∧ (¬ ByAdministrator library environment device request →
        (∃ table, (dispatch library environment device request).1 = device.withSessions table)
          ∧ ((dispatch library environment device request).1 ≠ device → request.OnSessions)) := by
  constructor
  · intro changed
    by_contra other
    refine changed ?_
    rcases dispatch_of_not_byAdministrator other with unchanged | ⟨_, table, sessions⟩
    · rw [unchanged]
      exact device.sameStores_withSessions device.auth.sessions
    · rw [sessions]
      exact device.sameStores_withSessions table
  · intro other
    rcases dispatch_of_not_byAdministrator other with unchanged | ⟨endpoint, sessions⟩
    · exact ⟨⟨device.auth.sessions, unchanged⟩, fun changed => absurd unchanged changed⟩
    · exact ⟨sessions, fun _ => endpoint⟩

end HealthCheckFirmware.ApiService
