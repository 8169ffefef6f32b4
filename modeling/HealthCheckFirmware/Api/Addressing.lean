import HealthCheckFirmware.Api.AccessControl
import HealthCheckFirmware.Api.Wire
import HealthCheckFirmware.Auth.Accounts
import HealthCheckFirmware.Startup.Calm

/-!
# Which account a request addresses

The name of an account in a target is read up to the first white space and cut to the
size of a username, and whatever is then found under it is acted on. So requests act on
the named account only, exactly if the name is not cut or nothing else is stored under
what is left of it (`faithful_iff`).
-/

set_option autoImplicit false

namespace HealthCheckFirmware.ApiService

/-! ## Names in targets -/

/-- The beginning of the targets of single accounts. -/
def usersPath : List UInt8 := ascii "/api/v1/users/"

/-- The name that the code looks up. -/
def addressed (name : List UInt8) : List UInt8 :=
  pathUsername (name.takeWhile fun byte => !isSpace byte)

/-- What the path of a request has behind the beginning for accounts. -/
def suffixOf (name : List UInt8) : List UInt8 :=
  (name.takeWhile fun byte => !isSpace byte).take 65

theorem pathOf_users (name : List UInt8) :
    pathOf (usersPath ++ name) = usersPath ++ suffixOf name := by
  have word : ∀ byte ∈ usersPath, (!isSpace byte) = true := List.all_eq_true.mp (by decide)
  rw [pathOf, List.takeWhile_append_of_pos word, List.take_append,
    List.take_of_length_le (by decide)]
  rfl

theorem pathUsername_suffixOf (name : List UInt8) : pathUsername (suffixOf name) = addressed name := by
  rw [pathUsername, suffixOf, List.take_take, addressed, pathUsername]
  rfl

theorem operation_put (suffix : List UInt8) :
    operation (ascii "PUT") (usersPath ++ suffix) = .updateUser suffix := rfl

theorem operation_delete (path : List UInt8) :
    operation (ascii "DELETE") path =
      if (ascii "/api/v1/users/").isPrefixOf path then .deleteUser (behind path "/api/v1/users/")
      else if path == ascii "/api/v1/trust-anchors" then .resetTrustAnchors
      else if (ascii "/api/v1/trust-anchors/").isPrefixOf path then
        .deleteTrustAnchor (behind path "/api/v1/trust-anchors/")
      else if (ascii "/api/v1/health-check/resources/").isPrefixOf path then
        .deleteResource (behind path "/api/v1/health-check/resources/")
      else .unknown := rfl

theorem zero_notMem_suffixOf {name : List UInt8} (nonzero : 0 ∉ name) : 0 ∉ suffixOf name := by
  intro member
  exact nonzero ((List.takeWhile_sublist _).mem (List.mem_of_mem_take member))

/-! ## Requests for an account -/

/-- A method that has no endpoint without a token. -/
theorem route_authorized {method : List UInt8} (path : List UInt8)
    (other : method = ascii "PUT" ∨ method = ascii "DELETE") :
    route method path = .authorized (operation method path) := by
  rcases other with rfl | rfl
  · rw [route, if_neg fun same => absurd same.1 (by decide),
      if_neg fun same => absurd same.1 (by decide), if_neg fun same => absurd same.1 (by decide)]
  · rw [route, if_neg fun same => absurd same.1 (by decide),
      if_neg fun same => absurd same.1 (by decide), if_neg fun same => absurd same.1 (by decide)]

/-- The bytes are a request to update or to delete the account of that name. -/
def IsFor (name bytes : List UInt8) (request : Request) : Prop :=
  ∃ header method rest, (method = ascii "PUT" ∨ method = ascii "DELETE") ∧
    Complete bytes request header ∧ header = method ++ 0x20 :: (usersPath ++ name ++ 0x20 :: rest)

variable {library : Library} {environment : Environment} {device : Device} {request : Request}
  {name bytes : List UInt8}

/-- What the code makes of the request line. -/
theorem IsFor.fields (isFor : IsFor name bytes request) :
    (request.method = ascii "PUT" ∨ request.method = ascii "DELETE") ∧
      request.path = usersPath ++ suffixOf name ∧ 0 ∉ name := by
  obtain ⟨header, method, rest, kind, complete, rfl⟩ := isFor
  have word : scanWord 7 (method ++ 0x20 :: (usersPath ++ name ++ 0x20 :: rest)) =
      some (method, 0x20 :: (usersPath ++ name ++ 0x20 :: rest)) := by
    rcases kind with rfl | rfl <;> rfl
  have absolute : (usersPath ++ name).head? = some 0x2F := rfl
  obtain ⟨left, path⟩ := scanWord_target absolute rest
  have fields := complete.fields
  rw [parseHeader, word] at fields
  dsimp only at fields
  rw [path] at fields
  have nonzero : 0 ∉ name := by
    intro member
    refine complete.text ?_
    simp [member]
  rw [← pathOf_users]
  cases authorization : authorizationLine (method ++ 0x20 :: (usersPath ++ name ++ 0x20 :: rest)) with
  | none =>
      simp only [authorization, Option.some.injEq, Prod.mk.injEq] at fields
      rw [← fields.1, ← fields.2.1]
      exact ⟨kind, rfl, nonzero⟩
  | some line =>
      simp only [authorization, Option.map_eq_some_iff, Prod.mk.injEq] at fields
      obtain ⟨token, -, methods, paths, -⟩ := fields
      rw [← methods, ← paths]
      exact ⟨kind, rfl, nonzero⟩

/-- The principal of an administrator's request. -/
theorem dispatch_byAdministrator (by_ : ByAdministrator library environment device request)
    {operation : Operation}
    (endpoint : route (cString request.method) (cString request.path) = .authorized operation) :
    ∃ principal, principal.role = AuthService.Role.administrator.code ∧
      dispatch library environment device request =
        operate library environment device request principal operation := by
  obtain ⟨index, -, -, role, accepted⟩ := by_
  refine ⟨⟨(device.auth.sessions index).name, (device.auth.sessions index).role⟩, role, ?_⟩
  rw [dispatch, endpoint]
  dsimp only
  rw [accepted]

/-- The accounts that saving an account touches. -/
theorem saveUser_touches (principal : AuthService.Principal) (body username role : List UInt8)
    (enabled : UInt8) (updating : Bool) (nonzero : 0 ∉ username)
    (known : UserStore.find device.auth.users.snapshot.body username ≠ none) :
    AuthService.Touches username device.auth
      (saveUser library environment device principal body username role enabled updating).1.auth := by
  unfold saveUser
  split
  · exact .inl rfl
  · dsimp only
    have touches (input : AuthService.UserInput) (named : input.username = username) :
        AuthService.Touches username device.auth
          (AuthService.putUser library.crypto environment.acting device.auth principal input).1 := by
      have own := @AuthService.putUser_touches library.crypto environment.acting device.auth
        principal input
      rw [named, cString_of_nonzero nonzero] at own
      exact own known
    split <;> exact touches _ rfl

theorem deleteUser_auth (principal : AuthService.Principal) (suffix : List UInt8) :
    (deleteUser environment device principal suffix).1.auth =
      (AuthService.deleteUser environment.acting device.auth principal (pathUsername suffix)).1 := by
  rw [deleteUser]
  split <;> rfl

/-- The deletion of an account by an administrator. -/
theorem dispatch_delete (by_ : ByAdministrator library environment device request)
    (method : request.method = ascii "DELETE") {suffix : List UInt8} (nonzero : 0 ∉ suffix)
    (path : request.path = usersPath ++ suffix) :
    ∃ principal, principal.role = AuthService.Role.administrator.code ∧
      (dispatch library environment device request).1.auth =
        (AuthService.deleteUser environment.acting device.auth principal
          (pathUsername suffix)).1 := by
  have pathString : cString request.path = usersPath ++ suffix := by
    rw [path]
    exact cString_of_nonzero (by simp only [List.mem_append]; exact not_or.mpr ⟨by decide, nonzero⟩)
  have endpoint : route (cString request.method) (cString request.path) =
      .authorized (.deleteUser suffix) := by
    rw [pathString, method]
    exact route_authorized _ (.inr rfl)
  obtain ⟨principal, role, result⟩ := dispatch_byAdministrator by_ endpoint
  refine ⟨principal, role, ?_⟩
  rw [result, operate, restricted, if_pos role, deleteUser_auth]

/-- The update of an account by an administrator. -/
theorem dispatch_put (by_ : ByAdministrator library environment device request)
    (method : request.method = ascii "PUT") {suffix : List UInt8} (nonzero : 0 ∉ suffix)
    (path : request.path = usersPath ++ suffix) :
    ∃ principal, principal.role = AuthService.Role.administrator.code ∧
      dispatch library environment device request =
        updateUser library environment device principal suffix (cString request.body) := by
  have pathString : cString request.path = usersPath ++ suffix := by
    rw [path]
    exact cString_of_nonzero (by simp only [List.mem_append]; exact not_or.mpr ⟨by decide, nonzero⟩)
  have endpoint : route (cString request.method) (cString request.path) =
      .authorized (.updateUser suffix) := by
    rw [pathString, method, ← operation_put]
    exact route_authorized _ (.inl rfl)
  obtain ⟨principal, role, result⟩ := dispatch_byAdministrator by_ endpoint
  refine ⟨principal, role, ?_⟩
  rw [result, operate, restricted, if_pos role]

theorem zero_notMem_addressed (nonzero : 0 ∉ name) : 0 ∉ addressed name := by
  rw [← pathUsername_suffixOf]
  exact fun member => zero_notMem_suffixOf nonzero (List.mem_of_mem_take member)

/-- **A request for an account touches at most the account that is looked up.** -/
theorem dispatch_touches (wellFormed : device.auth.users.snapshot.body.WellFormed)
    (isFor : IsFor name bytes request) (by_ : ByAdministrator library environment device request) :
    AuthService.Touches (addressed name) device.auth
      (dispatch library environment device request).1.auth := by
  obtain ⟨kind, path, nonzero⟩ := isFor.fields
  rcases kind with put | delete
  · obtain ⟨principal, -, result⟩ := dispatch_put by_ put (zero_notMem_suffixOf nonzero) path
    rw [result, updateUser, pathUsername_suffixOf]
    split
    · exact .inl rfl
    · rename_i existing found
      exact saveUser_touches _ _ _ _ _ _ (zero_notMem_addressed nonzero) (by rw [found]; nofun)
  · obtain ⟨principal, -, result⟩ := dispatch_delete by_ delete (zero_notMem_suffixOf nonzero) path
    have touches := AuthService.deleteUser_touches environment.acting wellFormed principal
      (addressed name)
    rwa [cString_of_nonzero (zero_notMem_addressed nonzero), ← pathUsername_suffixOf, ← result,
      pathUsername_suffixOf] at touches

/-! ## Acting on the named account only -/

/-- Only the account of that name is touched, and nothing at all if there is none. -/
structure ActsOnlyOn (name : List UInt8) (before after : AuthService.State) : Prop where
  others : after.users.snapshot.body.others name = before.users.snapshot.body.others name
  absent : UserStore.find before.users.snapshot.body name = none → after = before

/-- Requests of administrators for the account of that name act on it only. -/
def Faithful (users : UserStore.Ram) (name : List UInt8) : Prop :=
  ∀ library environment device bytes request, device.auth.users = users →
    IsFor name bytes request → ByAdministrator library environment device request →
      ActsOnlyOn name device.auth (dispatch library environment device request).1.auth

/-- The name is looked up as it is, or there is nothing to be touched under what is
looked up. -/
def Uncut (users : UserStore.Ram) (name : List UInt8) : Prop :=
  addressed name = name ∨ UserStore.find users.snapshot.body (addressed name) = none
    ∨ addressed name = AuthService.masterUsername

instance (users : UserStore.Ram) (name : List UInt8) : Decidable (Uncut users name) :=
  inferInstanceAs (Decidable (_ ∨ _ ∨ _))

theorem faithful_of_uncut {users : UserStore.Ram} (wellFormed : users.snapshot.body.WellFormed)
    (uncut : Uncut users name) : Faithful users name := by
  rintro library environment device bytes request rfl isFor by_
  rcases dispatch_touches wellFormed isFor by_ with same | ⟨found, ordinary, others⟩
  · exact ⟨by rw [same], fun _ => same⟩
  · rcases uncut with whole | missing | master
    · rw [whole] at found others
      exact ⟨others, fun absent => absurd absent found⟩
    · exact absurd missing found
    · exact absurd master ordinary

/-! ## Deleting an account over the wire -/

/-- A name that can be written in a target. -/
def IsName (name : List UInt8) : Prop :=
  ∀ byte ∈ name, byte ≠ 0 ∧ byte ≠ 0x20 ∧ byte ≠ 0x0D ∧ byte ≠ 0x0A

instance (name : List UInt8) : Decidable (IsName name) :=
  List.decidableBAll _ name

theorem IsName.nonzero (isName : IsName name) : 0 ∉ name := fun member => (isName 0 member).1 rfl

theorem isName_usersPath : IsName usersPath := by decide

theorem isTarget_users (isName : IsName name) : IsTarget (usersPath ++ name) where
  absolute := rfl
  inline byte member := by
    rcases List.mem_append.mp member with fixed | named
    · exact isName_usersPath byte fixed
    · exact isName byte named

theorem hex_isToken (drawn : Vector UInt8 AuthService.tokenBytes) :
    IsToken (AuthService.hex drawn.toList) := by
  have digit : ∀ index : Fin 16, AuthService.hexDigits.get index ≠ 0
      ∧ isBlank (AuthService.hexDigits.get index) = false
      ∧ AuthService.hexDigits.get index ≠ 0x0D := by decide
  constructor
  · have length : ∀ bytes : List UInt8, (AuthService.hex bytes).length = 2 * bytes.length := by
      intro bytes
      induction bytes with
      | nil => rfl
      | cons byte rest ih =>
          rw [AuthService.hex, List.flatMap_cons, List.length_append, ← AuthService.hex, ih]
          simp only [AuthService.hexByte, List.length_cons, List.length_nil]
          omega
    rw [length, Vector.length_toList]
    decide
  · intro byte member
    obtain ⟨source, -, inByte⟩ := List.mem_flatMap.mp member
    simp only [AuthService.hexByte, List.mem_cons, List.not_mem_nil, or_false] at inByte
    rcases inByte with rfl | rfl
    · exact digit _
    · exact digit _

theorem isFor_deletion (isName : IsName name) {token : List UInt8} (written : IsToken token) :
    IsFor name (deletion (usersPath ++ name) token ++ headerTerminator)
      (deletionRequest (usersPath ++ name) token) :=
  ⟨_, ascii "DELETE", ascii "HTTP/1.1\r\nAuthorization: Bearer " ++ token, .inr rfl,
    complete_deletion (isTarget_users isName) written, rfl⟩

/-- The administrator of the device without faults. -/
theorem byAdministrator_calm (users : UserStore.Ram) {request : Request}
    (token : request.authorization = Startup.bearer) :
    ByAdministrator Startup.lenient Startup.calm (Startup.calmDevice users) request := by
  refine ⟨⟨0, by decide⟩, rfl, rfl, rfl, ?_⟩
  rw [token]
  exact Startup.authorize_bearer

/-- Under a cut name, another account is deleted. -/
theorem not_faithful_of_cut {users : UserStore.Ram} (wellFormed : users.snapshot.body.WellFormed)
    (isName : IsName name) (cut : ¬ Uncut users name) : ¬ Faithful users name := by
  simp only [Uncut, not_or] at cut
  obtain ⟨other, found, ordinary⟩ := cut
  intro faithful
  have written : IsToken Startup.bearer :=
    hex_isToken (.replicate AuthService.tokenBytes 0)
  have by_ := byAdministrator_calm users
    (show (deletionRequest (usersPath ++ name) Startup.bearer).authorization = _ from rfl)
  have acts := faithful _ _ _ _ _ rfl (isFor_deletion isName written) by_
  obtain ⟨principal, role, result⟩ := dispatch_delete by_ rfl (zero_notMem_suffixOf isName.nonzero)
    (pathOf_users name)
  have same : cString (addressed name) = addressed name :=
    cString_of_nonzero (zero_notMem_addressed isName.nonzero)
  rw [UserStore.find_eq_none_iff, ← Ne, Option.ne_none_iff_exists'] at found
  obtain ⟨index, position⟩ := found
  have deleted := @AuthService.deleteUser_done Startup.calm.acting rfl ⟨Startup.loggedIn, users⟩
    wellFormed principal (by rw [AuthService.isAdministrator, role]; rfl) (addressed name)
    (by rwa [same]) index (by rwa [same])
  have others := acts.others
  rw [result, pathUsername_suffixOf] at others
  refine KeyedList.others_erase_ne position (Ne.symm other) ?_
  rw [← deleted]
  exact others

/-- **Requests act on the named account only, exactly if its name is looked up as it
is, or nothing is stored under what is looked up.** -/
theorem faithful_iff {users : UserStore.Ram} (wellFormed : users.snapshot.body.WellFormed)
    (isName : IsName name) : Faithful users name ↔ Uncut users name := by
  constructor
  · intro faithful
    by_contra cut
    exact not_faithful_of_cut wellFormed isName cut faithful
  · exact faithful_of_uncut wellFormed

/-! ## A name that is cut -/

/-- A user store with a single account. -/
def holding (username : List UInt8) : UserStore.Ram where
  banks := ⟨[], []⟩
  snapshot := ⟨⟨UserStore.magic, UserStore.version, 1, 1,
    (Vector.replicate UserStore.maxUsers UserStore.Record.zero).setIfInBounds 0
      { UserStore.Record.zero with
        enabled := 1
        username := fillBuffer UserStore.usernameSize username }⟩, 0⟩
  active := .b

theorem holding_wellFormed (username : List UInt8) :
    (holding username).snapshot.body.WellFormed :=
  (by decide : 1 ≤ UserStore.maxUsers)

/-- A name that is looked up as it is. -/
theorem faithful_amy : Faithful (holding (ascii "amy")) (ascii "amy") :=
  (faithful_iff (holding_wellFormed _) (by decide)).mpr (.inl (by decide))

/-- A name of 24 characters. -/
def longName : List UInt8 := List.replicate 24 0x61

/-- **A request that names no account deletes one**: its name has a character more than
the account's. -/
theorem longer_name_deletes :
    UserStore.find (holding longName).snapshot.body (longName ++ [0x61]) = none
      ∧ ¬ Faithful (holding longName) (longName ++ [0x61]) := by
  refine ⟨by decide, not_faithful_of_cut (holding_wellFormed _) (by decide) ?_⟩
  decide

end HealthCheckFirmware.ApiService
