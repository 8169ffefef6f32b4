import HealthCheckFirmware.Lib.SlotTable
import HealthCheckFirmware.Storage.UserStore

/-!
# Sessions and accounts

The session table of `auth_service.c` and its operations: login, refresh,
authorization and revocation of tokens, and the administration of accounts.

The cryptographic functions are a parameter (`Crypto`). What can differ from one
call to the next is its `Ambient`: the times at which it reads the clock, what the
random generator yields, which cryptographic calls fail, and the faults of the
flash operations. The clock is real time in milliseconds; the code only sees it
modulo `2 ^ 32`.
-/

set_option autoImplicit false

namespace HealthCheckFirmware.AuthService

/-! ## Data -/

/-- `AuthService_StatusTypeDef`, without the success that carries a result. -/
inductive Failure where
  | invalidPassword
  | invalidArgument
  | cryptoError
  | notFound
  | forbidden
  | storageError
  deriving DecidableEq, Repr

/-- `UserStore_RoleTypeDef`. -/
inductive Role where
  | user
  | administrator
  deriving DecidableEq, Repr

/-- The byte that a role is stored as. -/
def Role.code : Role → UInt8
  | .user => 0
  | .administrator => 1

def tokenBytes : ℕ := 32
def tokenTextSize : ℕ := 65
def digestSize : ℕ := 32
def sessionCount : ℕ := UserStore.maxUsers + 1

theorem sessionCount_pos : 0 < sessionCount := Nat.succ_pos _

def minPasswordLength : ℕ := 12
def maxPasswordLength : ℕ := 128
def accessLifetimeSec : UInt32 := 900
def refreshLifetimeSec : UInt32 := 604800
def userIterations : UInt32 := 100000
def masterIterations : UInt32 := 100000

/-- `AUTH_SERVICE_MASTER_USERNAME`. -/
def masterUsername : List UInt8 := ascii "master"

abbrev Digest := Vector UInt8 digestSize
abbrev Salt := Vector UInt8 UserStore.saltSize
abbrev Verifier := Vector UInt8 UserStore.verifierSize

/-- `AuthService_SessionTypeDef`. A slot is only ever zeroed or filled with a bounded
copy of a name, so that its name is terminated. -/
structure Session where
  active : Bool
  role : UInt8
  username : Vector UInt8 UserStore.usernameSize
  accessDigest : Digest
  refreshDigest : Digest
  accessIssuedAt : UInt32
  refreshIssuedAt : UInt32
  terminated : 0 ∈ username.toList
  deriving DecidableEq

/-- A slot of zero bytes. -/
def Session.zero : Session :=
  ⟨false, 0, .replicate UserStore.usernameSize 0, .replicate digestSize 0,
    .replicate digestSize 0, 0, 0, by decide⟩

/-- The account of a session. -/
def Session.name (session : Session) : List UInt8 := bufferString session.username

/-- The nine session slots. -/
abbrev Table := Fin sessionCount → Session

/-- `AuthService_TokenPairTypeDef`. -/
structure TokenPair where
  accessToken : List UInt8
  refreshToken : List UInt8
  accessExpiresIn : UInt32
  refreshExpiresIn : UInt32
  deriving DecidableEq

/-- `AuthService_PrincipalTypeDef`. -/
structure Principal where
  username : List UInt8
  role : UInt8
  deriving DecidableEq

/-- The cryptographic functions. -/
structure Crypto where
  sha256 : List UInt8 → Digest
  pbkdf2 : List UInt8 → Salt → UInt32 → Verifier

/-- What a single call meets: the real time, in milliseconds, of each reading of
the uptime; the bytes of each draw of a token, if it succeeds, and of a salt;
whether each hash and the key derivation succeed; and the faults of the flash. Time
does not run backwards, and the power stays on during a call that returns. -/
structure Ambient where
  clock : ℕ → ℕ
  random : ℕ → Option (Vector UInt8 tokenBytes)
  salt : Option Salt
  hashed : ℕ → Bool
  derived : Bool
  faults : SectorFaults
  forward : Monotone clock
  powered : faults.Powered

/-- `TimeService_GetUptimeMs` at a reading of the clock. -/
def Ambient.uptimeMs (ambient : Ambient) (reading : ℕ) : UInt32 :=
  UInt32.ofNat (ambient.clock reading)

structure State where
  sessions : Table
  users : UserStore.Ram

/-! ## Tokens -/

/-- The sixteen digits of `authService_Hex`. -/
def hexDigits : Vector UInt8 16 :=
  #v[0x30, 0x31, 0x32, 0x33, 0x34, 0x35, 0x36, 0x37, 0x38, 0x39, 0x61, 0x62, 0x63, 0x64, 0x65, 0x66]

/-- The two digits of a byte. -/
def hexByte (byte : UInt8) : List UInt8 :=
  [hexDigits.get ⟨byte.toNat / 16, by have := byte.toNat_lt; omega⟩,
    hexDigits.get ⟨byte.toNat % 16, by omega⟩]

/-- `authService_Hex`. -/
def hex (input : List UInt8) : List UInt8 := input.flatMap hexByte

/-- `authService_FindSession`: the active session of the account, or else the
first free slot. -/
def findSession (table : Table) (username : List UInt8) : Option (Fin sessionCount) :=
  SlotTable.locate Session.active Session.name table username

/-- The session that `authService_Issue` writes. -/
def newSession (crypto : Crypto) (username : List UInt8) (role : UInt8)
    (access refresh : List UInt8) (now : UInt32) : Session where
  active := true
  role := role
  username := fillBuffer UserStore.usernameSize username
  accessDigest := crypto.sha256 access
  refreshDigest := crypto.sha256 refresh
  accessIssuedAt := now
  refreshIssuedAt := now
  terminated := zero_mem_fillBuffer (by decide) username

/-- `authService_Issue`. The hashes of the call so far and its readings of the
clock are counted from outside. -/
def issue (crypto : Crypto) (ambient : Ambient) (hashes reading : ℕ) (table : Table)
    (username : List UInt8) (role : UInt8) : Except Failure (Table × TokenPair) :=
  match ambient.random 0, ambient.random 1 with
  | some access, some refresh =>
      let accessToken := hex access.toList
      let refreshToken := hex refresh.toList
      if ambient.hashed hashes && ambient.hashed (hashes + 1) then
        match findSession table username with
        | none => .error .cryptoError
        | some index =>
            .ok (Function.update table index (newSession crypto username role accessToken
                refreshToken (ambient.uptimeMs reading)),
              ⟨accessToken, refreshToken, accessLifetimeSec, refreshLifetimeSec⟩)
      else .error .cryptoError
  | _, _ => .error .cryptoError

/-! ## Login and refresh -/

/-- `authService_Derive`. -/
def derive (crypto : Crypto) (ambient : Ambient) (password : List UInt8) (salt : Salt)
    (iterations : UInt32) : Except Failure Verifier :=
  if ambient.derived then .ok (crypto.pbkdf2 password salt iterations) else .error .cryptoError

/-- `masterPasswordSalt`. -/
def masterSalt : Salt :=
  #v[0x1A, 0x5F, 0x0F, 0x46, 0x20, 0xA7, 0x35, 0x14, 0x88, 0x21, 0xB6, 0x29, 0x93, 0x36, 0x94, 0xD5]

/-- `masterPasswordVerifier`. -/
def masterVerifier : Verifier :=
  #v[0x1A, 0xE4, 0x1B, 0x9F, 0x34, 0x97, 0x71, 0x88, 0xDA, 0xFD, 0x59, 0xC3, 0xC0, 0xAC, 0x56, 0xC5,
    0x44, 0xA1, 0x1A, 0x73, 0x93, 0x40, 0x6D, 0xCB, 0xC1, 0xC0, 0xD4, 0xF2, 0x5A, 0x98, 0x79, 0x8A]

/-- `AuthService_VerifyMasterPassword`. -/
def verifyMasterPassword (crypto : Crypto) (ambient : Ambient) (password : List UInt8) :
    Except Failure Unit :=
  if password.length = 0 ∨ maxPasswordLength < password.length then .error .invalidArgument
  else
    match derive crypto ambient password masterSalt masterIterations with
    | .error failure => .error failure
    | .ok verifier =>
        if verifier = masterVerifier then .ok () else .error .invalidPassword

/-- `authService_DummySalt`. -/
def dummySalt : Salt :=
  #v[0x8E, 0xC5, 0x31, 0xA9, 0x44, 0x76, 0xD2, 0x0B, 0xF3, 0x18, 0x65, 0x9C, 0x27, 0xBA, 0x50, 0xDE]

/-- The password check of a stored account. An account that does not exist costs a
derivation as well. -/
def verifyUserPassword (crypto : Crypto) (ambient : Ambient) (record : Option UserStore.Record)
    (password : List UInt8) : Except Failure UInt8 :=
  let salt := (record.map UserStore.Record.salt).getD dummySalt
  let iterations := (record.map UserStore.Record.iterations).getD userIterations
  match derive crypto ambient password salt iterations with
  | .error failure => .error failure
  | .ok verifier =>
      match record with
      | none => .error .invalidPassword
      | some record =>
          if record.enabled ≠ 0 ∧ verifier = record.verifier then .ok record.role
          else .error .invalidPassword

/-- The role that a login obtains. -/
def authenticate (crypto : Crypto) (ambient : Ambient) (users : UserStore.Ram)
    (username password : List UInt8) : Except Failure UInt8 :=
  if username = masterUsername then
    (verifyMasterPassword crypto ambient password).map fun _ => Role.administrator.code
  else verifyUserPassword crypto ambient (UserStore.find users.snapshot.body username) password

/-- The table after an issue, and what the caller gets. -/
def issued (table : Table) : Except Failure (Table × TokenPair) → Table × Except Failure TokenPair
  | .ok (changed, tokens) => (changed, .ok tokens)
  | .error failure => (table, .error failure)

/-- `AuthService_Login`. -/
def login (crypto : Crypto) (ambient : Ambient) (state : State) (username password : List UInt8) :
    Table × Except Failure TokenPair :=
  let username := cString username
  match authenticate crypto ambient state.users username password with
  | .error failure => (state.sessions, .error failure)
  | .ok role =>
      issued state.sessions (issue crypto ambient 0 0 state.sessions username role)

/-- The first active session with the given digest whose age, as the code sees it,
is within the lifetime. -/
def matching (table : Table) (digestOf : Session → Digest) (issuedAt : Session → UInt32)
    (lifetimeSec : UInt32) (now : UInt32) (digest : Digest) : Option (Fin sessionCount) :=
  (List.finRange sessionCount).find? fun index =>
    (table index).active && decide (now - issuedAt (table index) ≤ lifetimeSec * 1000)
      && digest == digestOf (table index)

/-- The checks on a presented token and its digest. -/
def presented (crypto : Crypto) (ambient : Ambient) (token : List UInt8) :
    Except Failure Digest :=
  if (cString token).length ≠ tokenTextSize - 1 then .error .invalidArgument
  else if ambient.hashed 0 then .ok (crypto.sha256 (cString token)) else .error .cryptoError

/-- The session that a refresh token is found in. -/
def matchRefresh (table : Table) (now : UInt32) (digest : Digest) : Option (Fin sessionCount) :=
  matching table Session.refreshDigest Session.refreshIssuedAt refreshLifetimeSec now digest

/-- The session that an access token is found in. -/
def matchAccess (table : Table) (now : UInt32) (digest : Digest) : Option (Fin sessionCount) :=
  matching table Session.accessDigest Session.accessIssuedAt accessLifetimeSec now digest

/-- `AuthService_Refresh`. -/
def refresh (crypto : Crypto) (ambient : Ambient) (table : Table) (refreshToken : List UInt8) :
    Table × Except Failure TokenPair :=
  match presented crypto ambient refreshToken with
  | .error failure => (table, .error failure)
  | .ok digest =>
      match matchRefresh table (ambient.uptimeMs 0) digest with
      | none => (table, .error .invalidPassword)
      | some index =>
          issued table (issue crypto ambient 1 1 table (table index).name (table index).role)

/-! ## Authorization and revocation -/

/-- `AuthService_Authorize`. -/
def authorize (crypto : Crypto) (ambient : Ambient) (table : Table) (accessToken : List UInt8) :
    Except Failure Principal :=
  match presented crypto ambient accessToken with
  | .error failure => .error failure
  | .ok digest =>
      match matchAccess table (ambient.uptimeMs 0) digest with
      | none => .error .invalidPassword
      | some index => .ok ⟨(table index).name, (table index).role⟩

/-- `AuthService_Revoke`. The slot found for the account is cleared, whether or not
it is that of the presented token. -/
def revoke (crypto : Crypto) (ambient : Ambient) (table : Table) (accessToken : List UInt8) :
    Table × Except Failure Unit :=
  match authorize crypto ambient table accessToken with
  | .error failure => (table, .error failure)
  | .ok principal =>
      match findSession table principal.username with
      | none => (table, .ok ())
      | some index => (Function.update table index Session.zero, .ok ())

/-! ## Accounts -/

/-- `authService_IsAdministrator`. -/
def isAdministrator (actor : Principal) : Bool := actor.role == Role.administrator.code

/-- The session of an account, if it has an active one, is cleared. -/
def dropSession (table : Table) (username : List UInt8) : Table :=
  match findSession table username with
  | none => table
  | some index =>
      if (table index).active && (table index).name == username then
        Function.update table index Session.zero
      else table

/-- What `AuthService_PutUser` is asked for. -/
structure UserInput where
  username : List UInt8
  password : List UInt8
  role : Role
  enabled : Bool
  mustExist : Bool

/-- The record that `AuthService_PutUser` stores. -/
def newRecord (crypto : Crypto) (input : UserInput) (salt : Salt) : UserStore.Record where
  enabled := if input.enabled then 1 else 0
  role := input.role.code
  username := fillBuffer UserStore.usernameSize (cString input.username)
  salt := salt
  verifier := crypto.pbkdf2 input.password salt userIterations
  iterations := userIterations

/-- The checks of `AuthService_PutUser` before it draws a salt. -/
def putUserChecks (state : State) (actor : Principal) (input : UserInput) : Except Failure Unit :=
  let username := cString input.username
  if isAdministrator actor = false ∨ input.password.length < minPasswordLength
      ∨ maxPasswordLength < input.password.length
      ∨ UserStore.usernameSize ≤ username.length ∨ username = masterUsername then
    .error .forbidden
  else
    match input.mustExist, UserStore.find state.users.snapshot.body username with
    | true, none => .error .notFound
    | false, some _ => .error .invalidArgument
    | _, _ => .ok ()

/-- `AuthService_PutUser`. -/
def putUser (crypto : Crypto) (ambient : Ambient) (state : State) (actor : Principal)
    (input : UserInput) : State × Except Failure Unit :=
  match putUserChecks state actor input with
  | .error failure => (state, .error failure)
  | .ok () =>
      match ambient.salt with
      | none => (state, .error .cryptoError)
      | some salt =>
          if ambient.derived then
            let stored := UserStore.put state.users (newRecord crypto input salt) ambient.faults
            match stored.2 with
            | .saved _ => (⟨dropSession state.sessions (cString input.username), stored.1⟩, .ok ())
            | _ => (⟨state.sessions, stored.1⟩, .error .storageError)
          else (state, .error .cryptoError)

/-- `AuthService_DeleteUser`. -/
def deleteUser (ambient : Ambient) (state : State) (actor : Principal) (username : List UInt8) :
    State × Except Failure Unit :=
  let username := cString username
  if isAdministrator actor = false ∨ username = masterUsername then (state, .error .forbidden)
  else if UserStore.find state.users.snapshot.body username = none then (state, .error .notFound)
  else
    let stored := UserStore.delete state.users username ambient.faults
    match stored.2 with
    | .saved _ => (⟨dropSession state.sessions username, stored.1⟩, .ok ())
    | _ => (⟨state.sessions, stored.1⟩, .error .storageError)

/-- `AuthService_ListUsers`. -/
def listUsers (state : State) (actor : Principal) (capacity : ℕ) : List UserStore.Record :=
  if isAdministrator actor then UserStore.list state.users.snapshot.body capacity else []

/-- `AuthService_Init`: all slots are cleared. -/
def init (users : UserStore.Ram) : State := ⟨fun _ => Session.zero, users⟩

end HealthCheckFirmware.AuthService
