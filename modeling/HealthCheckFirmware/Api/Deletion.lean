import HealthCheckFirmware.Api.Addressing
import HealthCheckFirmware.Api.Changes

/-!
# Accounts that can be deleted

Names of accounts come from JSON strings, which may contain spaces, and the target of a
request cannot. So an account that was created can be deleted exactly if its name has
no space (`addressable_iff`).
-/

set_option autoImplicit false

namespace HealthCheckFirmware.ApiService

variable {library : Library} {environment : Environment} {device : Device} {request : Request}

/-! ## Creating and deleting -/

/-- A request of this kind has created an account of that name. -/
def Created (username : List UInt8) : Prop :=
  ∃ library environment device request response,
    cString request.method = ascii "POST" ∧ cString request.path = ascii "/api/v1/users" ∧
      jsonText (cString request.body) (ascii "username") UserStore.usernameSize = some username ∧
        (dispatch library environment device request).2 = .response response ∧
          response.status = 201

/-- Exactly one account of that name has been taken out. -/
def Removed (username : List UInt8) (before after : UserStore.Body) : Prop :=
  ∃ index record, before.listed[index]? = some record ∧ record.name = username ∧
    after.listed = before.listed.eraseIdx index

/-- A connection over which the bytes arrive at once. -/
def sent (bytes : List UInt8) (uninitialised : Request) : Connection where
  established := true
  reads _ :=
    match bytes with
    | [] => .eof
    | first :: rest => .data first rest
  uninitialised := uninitialised

/-- There is a target with which administrators can delete the account, on every device
that has it and in which the deletion can be stored. -/
def Addressable (username : List UInt8) : Prop :=
  ∃ target, IsTarget target ∧ target.length ≤ bodySize ∧
    ∀ library environment device (drawn : Vector UInt8 AuthService.tokenBytes) uninitialised,
      device.auth.users.snapshot.body.WellFormed →
        UserStore.find device.auth.users.snapshot.body username ≠ none →
          environment.acting.faults = .done →
            ByAdministrator library environment device
                (deletionRequest target (AuthService.hex drawn.toList)) →
              ∃ request,
                serve (sent (deletion target (AuthService.hex drawn.toList) ++ headerTerminator)
                  uninitialised) = .dispatch request ∧
                Removed username device.auth.users.snapshot.body
                  (dispatch library environment device request).1.auth.users.snapshot.body

/-- The deletion is dispatched. -/
theorem serve_deletion {target token : List UInt8} (isTarget : IsTarget target)
    (short : target.length ≤ bodySize) (written : IsToken token) (uninitialised : Request) :
    serve (sent (deletion target token ++ headerTerminator) uninitialised) =
      .dispatch (deletionRequest target token) := by
  have complete := complete_deletion isTarget written
  have room : (deletion target token ++ headerTerminator).length < requestSize := by
    have tokenShort : token.length < 65 := written.1
    have targetShort : target.length ≤ 2048 := short
    simp only [deletion, List.length_append]
    change 7 + (target.length + (33 + token.length)) + 4 < 2560
    omega
  exact serve_of_complete complete room rfl uninitialised

theorem respond_status {status : ℕ} {reason : String} {json : List UInt8} {response : Response}
    (answered : respond status reason json = .response response) : response.status = status := by
  unfold respond at answered
  dsimp only at answered
  split at answered
  · cases answered
    rfl
  · cases answered

theorem error_not_created {status : ℕ} {reason code : String} {response : Response}
    (other : status ≠ 201) (answered : error status reason code = .response response)
    (created : response.status = 201) : False :=
  other ((respond_status answered).symm.trans created)

/-- What can be created: a plain name that fits and is not the built-in one. -/
theorem Created.facts {username : List UInt8} (created : Created username) :
    username.length < UserStore.usernameSize ∧ (∀ byte ∈ username, IsPlain byte) ∧
      username ≠ AuthService.masterUsername := by
  obtain ⟨library, environment, device, request, response, method, path, given, answered, status⟩ :=
    created
  obtain ⟨fits, plain⟩ := jsonText_some (by decide) given
  refine ⟨fits, plain, ?_⟩
  rintro rfl
  have endpoint : route (cString request.method) (cString request.path) = .authorized .createUser := by
    rw [method, path]
    decide
  rw [dispatch, endpoint] at answered
  dsimp only at answered
  split at answered
  · dsimp only at answered
    exact error_not_created (by decide) answered status
  · rw [operate, restricted] at answered
    split at answered
    · rw [createUser, given] at answered
      dsimp only at answered
      rw [saveUser] at answered
      split at answered
      · dsimp only at answered
        exact error_not_created (by decide) answered status
      · have master : cString AuthService.masterUsername = AuthService.masterUsername := by decide
        dsimp only at answered
        rw [AuthService.putUser_master _ _ _ _ master] at answered
        dsimp only at answered
        exact error_not_created (by decide) answered status
    · dsimp only at answered
      exact error_not_created (by decide) answered status

theorem isSpace_of_plain {byte : UInt8} (plain : IsPlain byte) (other : byte ≠ 0x20) :
    isSpace byte = false := by
  have printable : 32 ≤ byte.toNat := by
    have low := plain.2.2
    rw [UInt8.lt_iff_toNat_lt, Nat.not_lt] at low
    exact low
  rw [isSpace, Bool.or_eq_false_iff, Bool.and_eq_false_iff]
  refine ⟨beq_eq_false_iff_ne.mpr other, Or.inr ?_⟩
  rw [decide_eq_false_iff_not, UInt8.le_iff_toNat_le, Nat.not_le]
  exact Nat.lt_of_lt_of_le (by decide) printable

/-- A plain name without spaces is looked up as it is. -/
theorem addressed_of_plain {username : List UInt8} (fits : username.length < UserStore.usernameSize)
    (plain : ∀ byte ∈ username, IsPlain byte) (spaceless : 0x20 ∉ username) :
    addressed username = username := by
  have word : ∀ byte ∈ username, (!isSpace byte) = true := by
    intro byte member
    have other : byte ≠ 0x20 := fun same => spaceless (same ▸ member)
    rw [isSpace_of_plain (plain byte member) other]
    rfl
  rw [addressed, List.takeWhile_eq_self_iff.mpr word, pathUsername]
  exact List.take_of_length_le (by omega)

theorem addressable_of_spaceless {username : List UInt8} (created : Created username)
    (spaceless : 0x20 ∉ username) : Addressable username := by
  obtain ⟨fits, plain, ordinary⟩ := created.facts
  have whole := addressed_of_plain fits plain spaceless
  have isName : IsName username := by
    intro byte member
    obtain ⟨-, -, printable⟩ := plain byte member
    refine ⟨(plain byte member).ne_zero, fun same => spaceless (same ▸ member), ?_, ?_⟩
    · rintro rfl
      exact printable (by decide)
    · rintro rfl
      exact printable (by decide)
  have short : (usersPath ++ username).length ≤ bodySize := by
    have limit : username.length < 25 := fits
    rw [List.length_append]
    change 14 + username.length ≤ 2048
    omega
  refine ⟨usersPath ++ username, isTarget_users isName, short, ?_⟩
  intro library environment device drawn uninitialised wellFormed known done by_
  refine ⟨_, serve_deletion (isTarget_users isName) short (hex_isToken drawn) uninitialised, ?_⟩
  obtain ⟨principal, role, result⟩ := dispatch_delete by_ rfl
    (zero_notMem_suffixOf isName.nonzero) (pathOf_users username)
  rw [pathUsername_suffixOf, whole] at result
  have same : cString username = username := cString_of_nonzero isName.nonzero
  rw [Ne, UserStore.find_eq_none_iff, ← Ne, Option.ne_none_iff_exists'] at known
  obtain ⟨index, position⟩ := known
  have deleted := @AuthService.deleteUser_done environment.acting done device.auth wellFormed
    principal (by rw [AuthService.isAdministrator, role]; rfl) username (by rwa [same]) index
    (by rwa [same])
  obtain ⟨within, own, -⟩ := List.findIdx?_eq_some_iff_getElem.mp position
  refine ⟨index, _, List.getElem?_eq_getElem within, by simpa using own, ?_⟩
  rw [result]
  exact deleted

/-! ## Names with a space -/

theorem listed_holding (username : List UInt8) :
    (holding username).snapshot.body.listed = [{ UserStore.Record.zero with
      enabled := 1
      username := fillBuffer UserStore.usernameSize username }] := rfl

theorem resetTrustAnchors_auth :
    (resetTrustAnchors library environment device).1.auth = device.auth := by
  unfold resetTrustAnchors
  split
  · rfl
  · rw [mutateTrust_fst]

theorem deleteTrustAnchor_auth (idText : List UInt8) :
    (deleteTrustAnchor library environment device idText).1.auth = device.auth := by
  unfold deleteTrustAnchor
  split
  · rfl
  · split
    · rfl
    · rw [mutateTrust_fst]

theorem deleteResource_auth (indexText : List UInt8) :
    (deleteResource environment device indexText).1.auth = device.auth := by
  unfold deleteResource
  split <;> rfl

/-- A request to delete something changes accounts only at the endpoint for them. -/
theorem dispatch_deletion_users {target token : List UInt8} (nonzero : 0 ∉ pathOf target)
    (elsewhere : usersPath.isPrefixOf (pathOf target) = false)
    (by_ : ByAdministrator library environment device (deletionRequest target token)) :
    (dispatch library environment device (deletionRequest target token)).1.auth = device.auth := by
  have endpoint : route (cString (ascii "DELETE")) (cString (pathOf target)) =
      .authorized (operation (ascii "DELETE") (pathOf target)) := by
    rw [cString_of_nonzero nonzero]
    exact route_authorized _ (.inr rfl)
  obtain ⟨principal, role, result⟩ := dispatch_byAdministrator by_ endpoint
  rw [result, operation_delete, if_neg (by rw [Bool.not_eq_true]; exact elsewhere)]
  split
  · rw [operate, restricted, if_pos role, resetTrustAnchors_auth]
  split
  · rw [operate, restricted, if_pos role, deleteTrustAnchor_auth]
  split
  · rw [operate, restricted, if_pos role, deleteResource_auth]
  · rfl

theorem bearer_eq :
    AuthService.hex (Vector.replicate AuthService.tokenBytes 0).toList = Startup.bearer := by
  rw [Vector.toList_replicate]
  rfl

/-- No target leads to an account if all names have spaces. -/
theorem deletion_misses {target : List UInt8}
    (nonzero : 0 ∉ pathOf target)
    (missing : ∀ other, 0x20 ∉ other → UserStore.find device.auth.users.snapshot.body other = none)
    (wellFormed : device.auth.users.snapshot.body.WellFormed) {token : List UInt8}
    (by_ : ByAdministrator library environment device (deletionRequest target token)) :
    (dispatch library environment device (deletionRequest target token)).1.auth = device.auth := by
  have spaceless : 0x20 ∉ pathOf target := by
    intro member
    have kind := List.mem_takeWhile_imp (List.mem_of_mem_take member)
    exact absurd kind (by decide)
  cases elsewhere : usersPath.isPrefixOf (pathOf target) with
  | false => exact dispatch_deletion_users nonzero elsewhere by_
  | true =>
      obtain ⟨suffix, split⟩ := List.isPrefixOf_iff_prefix.mp elsewhere
      rw [← split, List.mem_append, not_or] at nonzero spaceless
      obtain ⟨principal, -, result⟩ := dispatch_delete by_ rfl nonzero.2 split.symm
      have touches := AuthService.deleteUser_touches environment.acting wellFormed principal
        (pathUsername suffix)
      rw [← result] at touches
      refine touches.resolve_right ?_
      rintro ⟨found, -⟩
      refine found (missing _ ?_)
      intro member
      exact spaceless.2 (List.mem_of_mem_take ((List.takeWhile_sublist _).mem member))

/-- The only account of a store is found under its name. -/
theorem find_holding {username : List UInt8} (fits : username.length < UserStore.usernameSize)
    (nonzero : 0 ∉ username) (other : List UInt8) :
    UserStore.find (holding username).snapshot.body other = none ↔ other ≠ username := by
  have named : bufferString (fillBuffer UserStore.usernameSize username) = username :=
    bufferString_fillBuffer fits nonzero
  rw [UserStore.find, listed_holding, List.find?_singleton]
  simp only [UserStore.Record.name, named, beq_iff_eq]
  split
  · rename_i same
    simp [same]
  · rename_i different
    simp [Ne.symm different]

/-- A list with an entry taken out is another list. -/
theorem ne_eraseIdx {Entry : Type} {entries : List Entry} {index : ℕ} {entry : Entry}
    (within : entries[index]? = some entry) : entries ≠ entries.eraseIdx index := by
  intro same
  obtain ⟨inside, -⟩ := List.getElem?_eq_some_iff.mp within
  have shorter := congrArg List.length same
  rw [List.length_eraseIdx_of_lt inside] at shorter
  omega

theorem not_addressable_of_space {username : List UInt8}
    (fits : username.length < UserStore.usernameSize) (nonzero : 0 ∉ username)
    (space : 0x20 ∈ username) : ¬ Addressable username := by
  rintro ⟨target, isTarget, short, deletes⟩
  have pathNonzero : 0 ∉ pathOf target := by
    intro member
    exact (isTarget.inline 0 ((List.takeWhile_sublist _).mem (List.mem_of_mem_take member))).1 rfl
  have known : UserStore.find (holding username).snapshot.body username ≠ none := by
    rw [Ne, find_holding fits nonzero]
    exact not_not.mpr rfl
  have missing : ∀ other, 0x20 ∉ other →
      UserStore.find (holding username).snapshot.body other = none := by
    intro other spaceless
    rw [find_holding fits nonzero]
    rintro rfl
    exact spaceless space
  have specific := deletes Startup.lenient Startup.calm (Startup.calmDevice (holding username))
    (.replicate AuthService.tokenBytes 0) ⟨[], [], [], []⟩ (holding_wellFormed username) known rfl
  have own := serve_deletion isTarget short
    (hex_isToken (.replicate AuthService.tokenBytes 0)) ⟨[], [], [], []⟩
  rw [bearer_eq] at specific own
  have by_ := byAdministrator_calm (holding username)
    (show (deletionRequest target Startup.bearer).authorization = _ from rfl)
  obtain ⟨request, dispatched, index, record, within, -, after⟩ := specific by_
  have same : request = deletionRequest target Startup.bearer :=
    Action.dispatch.inj (dispatched.symm.trans own)
  have unchanged := @deletion_misses Startup.lenient Startup.calm
    (Startup.calmDevice (holding username)) target pathNonzero missing
    (holding_wellFormed username) Startup.bearer by_
  rw [same, unchanged] at after
  exact ne_eraseIdx within after

/-! ## Creating an account -/

theorem respond_of_small {status : ℕ} {reason : String} {json : List UInt8}
    (statusSmall : status < 10 ^ 3) (reasonSmall : (ascii reason).length ≤ 100)
    (jsonSmall : json.length < 10 ^ 3) :
    respond status reason json = .response ⟨status, reason, json⟩ := by
  refine if_pos ?_
  have statusDigits := length_decimalText_le statusSmall
  have lengthDigits := length_decimalText_le jsonSmall
  simp only [Response.header, List.length_append]
  have texts : (ascii "HTTP/1.1 ").length + (ascii " ").length
      + (ascii "\r\nContent-Type: application/json\r\nContent-Length: ").length
      + (ascii "\r\nConnection: close\r\nCache-Control: no-store\r\n\r\n").length ≤ 200 := by
    decide
  change _ < 2048
  omega

/-- The request that asks for an account. -/
def creation (body : List UInt8) : Request :=
  ⟨ascii "POST", ascii "/api/v1/users", Startup.bearer, body⟩

/-- **Every plain name can be created** that fits, is not empty and is not the built-in
one. -/
theorem created_of_body {username password body : List UInt8} (nonzero : 0 ∉ body)
    (given : jsonText body (ascii "username") UserStore.usernameSize = some username)
    (secret : jsonText body (ascii "password") 129 = some password)
    (long : AuthService.minPasswordLength ≤ password.length) (some : username ≠ [])
    (ordinary : username ≠ AuthService.masterUsername) : Created username := by
  obtain ⟨fits, plain⟩ := jsonText_some (by decide) given
  obtain ⟨passwordFits, -⟩ := jsonText_some (by decide) secret
  have string : cString body = body := cString_of_nonzero nonzero
  have name : cString username = username :=
    cString_of_nonzero fun zero => (plain 0 zero).ne_zero rfl
  have saved (input : AuthService.UserInput) (named : input.username = username)
      (password' : input.password = password) (new : input.mustExist = false) :
      (AuthService.putUser Startup.lenient.crypto Startup.calm.acting ⟨Startup.loggedIn, Startup.noUsers⟩
        ⟨AuthService.masterUsername, AuthService.Role.administrator.code⟩ input).2 = .ok () := by
    have missing : UserStore.find Startup.noUsers.snapshot.body username = none := rfl
    have checked : AuthService.putUserChecks ⟨Startup.loggedIn, Startup.noUsers⟩
        ⟨AuthService.masterUsername, AuthService.Role.administrator.code⟩ input = .ok () := by
      rw [AuthService.putUserChecks, named, name, password', new]
      dsimp only
      rw [if_neg, missing]
      simp only [not_or, Nat.not_lt, Nat.not_le]
      exact ⟨by decide, long, by change password.length ≤ 128; omega, fits, ordinary⟩
    have own : (AuthService.newRecord Startup.lenient.crypto input
        (.replicate UserStore.saltSize 0)).name = username := by
      rw [AuthService.name_newRecord _ _ (by rwa [named, name]), named, name]
    refine @AuthService.putUser_done _ Startup.calm.acting rfl _ rfl rfl _ (Nat.zero_le _) _ _ checked
      { Startup.noUsers.snapshot.body with
        users := Startup.noUsers.snapshot.body.users.setIfInBounds 0
          (AuthService.newRecord Startup.lenient.crypto input (.replicate UserStore.saltSize 0))
        count := 1 } ?_
    rw [UserStore.putCandidate, own, if_neg some]
    rfl
  have endpoint : route (cString (creation body).method) (cString (creation body).path) =
      .authorized .createUser :=
    (by decide : route (cString (ascii "POST")) (cString (ascii "/api/v1/users"))
      = .authorized .createUser)
  have accepted : AuthService.authorize Startup.lenient.crypto Startup.calm.authorizing
      (Startup.calmDevice Startup.noUsers).auth.sessions (creation body).authorization =
        .ok ⟨AuthService.masterUsername, AuthService.Role.administrator.code⟩ :=
    Startup.authorize_bearer
  refine ⟨Startup.lenient, Startup.calm, Startup.calmDevice Startup.noUsers, creation body,
    ⟨201, "Created", snprintf 96 (ascii "\x7b\"username\":\"" ++ username ++ ascii "\"\x7d")⟩,
    rfl, rfl, string.symm ▸ given, ?_, rfl⟩
  rw [dispatch, endpoint]
  dsimp only
  rw [accepted]
  dsimp only
  rw [operate, restricted, if_pos rfl, createUser, show (creation body).body = body from rfl, string,
    given]
  dsimp only
  rw [saveUser, secret]
  dsimp only
  split
  · rename_i failed
    cases failed.symm.trans (saved _ rfl rfl rfl)
  · rename_i failed
    cases failed.symm.trans (saved _ rfl rfl rfl)
  · refine respond_of_small (by decide) (by decide) ?_
    exact Nat.lt_of_le_of_lt (List.length_take_le _ _) (by decide)

/-- **An account that was created can be deleted exactly if its name has no space.** -/
theorem addressable_iff {username : List UInt8} (created : Created username) :
    Addressable username ↔ 0x20 ∉ username := by
  constructor
  · intro addressable space
    obtain ⟨fits, plain, -⟩ := created.facts
    exact not_addressable_of_space fits (fun zero => (plain 0 zero).ne_zero rfl) space addressable
  · exact addressable_of_spaceless created

/-- A body that asks for an account. -/
def creationBody (username : String) : List UInt8 :=
  ascii "\x7b\"username\":\"" ++ ascii username ++ ascii "\",\"password\":\"0123456789ab\"\x7d"

theorem created_amy : Created (ascii "amy") :=
  @created_of_body _ (ascii "0123456789ab") (creationBody "amy") (by decide) (by decide)
    (by decide) (by decide) (by decide) (by decide)

theorem addressable_amy : Created (ascii "amy") ∧ Addressable (ascii "amy") :=
  ⟨created_amy, (addressable_iff created_amy).mpr (by decide)⟩

/-- **An account whose name has a space can be created and not be deleted.** -/
theorem spaced_name_created_and_not_addressable :
    Created (ascii "a b") ∧ ¬ Addressable (ascii "a b") := by
  constructor
  · exact @created_of_body _ (ascii "0123456789ab") (creationBody "a b") (by decide)
      (by decide) (by decide) (by decide) (by decide) (by decide)
  · exact not_addressable_of_space (by decide) (by decide) (by decide)

end HealthCheckFirmware.ApiService
