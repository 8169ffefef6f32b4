import HealthCheckFirmware.Auth.AuthService

/-!
# Runs of the session table

A call of the authentication service and what it does. `perform` carries out a call
as the code does. `change` reads off from its reply what it has done to the sessions
of which account: issued a new pair of tokens, dropped the session, or nothing.

`perform_transition` says once what a call can do to the state. The invariants of
runs are all derived from it.
-/

set_option autoImplicit false

namespace HealthCheckFirmware.AuthService

/-! ## Calls -/

inductive Operation where
  | login (username password : List UInt8)
  | refresh (token : List UInt8)
  | authorize (token : List UInt8)
  | revoke (token : List UInt8)
  | putUser (actor : Principal) (input : UserInput)
  | deleteUser (actor : Principal) (username : List UInt8)

/-- An operation and what it meets. -/
structure Call where
  operation : Operation
  ambient : Ambient

inductive Reply where
  | tokens (pair : TokenPair)
  | principal (principal : Principal)
  | done
  | failed (failure : Failure)
  deriving DecidableEq

/-- The reply of an operation whose success is reported by `accept`. -/
def reply {α : Type} (accept : α → Reply) : Except Failure α → Reply
  | .ok result => accept result
  | .error failure => .failed failure

/-- What a call does and returns. -/
def perform (crypto : Crypto) (state : State) (call : Call) : State × Reply :=
  match call.operation with
  | .login username password =>
      let result := login crypto call.ambient state username password
      ({ state with sessions := result.1 }, reply .tokens result.2)
  | .refresh token =>
      let result := refresh crypto call.ambient state.sessions token
      ({ state with sessions := result.1 }, reply .tokens result.2)
  | .authorize token =>
      (state, reply .principal (authorize crypto call.ambient state.sessions token))
  | .revoke token =>
      let result := revoke crypto call.ambient state.sessions token
      ({ state with sessions := result.1 }, reply (fun _ => .done) result.2)
  | .putUser actor input =>
      let result := putUser crypto call.ambient state actor input
      (result.1, reply (fun _ => .done) result.2)
  | .deleteUser actor username =>
      let result := deleteUser call.ambient state actor username
      (result.1, reply (fun _ => .done) result.2)

/-- The state after a sequence of calls. -/
def run (crypto : Crypto) (state : State) (calls : List Call) : State :=
  calls.foldl (fun state call => (perform crypto state call).1) state

/-! ## Changes -/

/-- A pair of tokens that was issued to an account, and the real time of its issue. -/
structure Issue where
  account : List UInt8
  access : List UInt8
  refresh : List UInt8
  time : ℕ
  deriving DecidableEq

/-- What a call has done to the sessions. -/
inductive Change where
  | none
  | issued (issue : Issue)
  | dropped (account : List UInt8)
  deriving DecidableEq

/-- The slot in which a refresh finds its token. -/
def refreshHolder (crypto : Crypto) (ambient : Ambient) (table : Table) (token : List UInt8) :
    Option (Fin sessionCount) :=
  match presented crypto ambient token with
  | .ok digest => matchRefresh table (ambient.uptimeMs 0) digest
  | .error _ => none

/-- The change that a call makes, as its reply tells it. -/
def change (crypto : Crypto) (state : State) (call : Call) : Change :=
  match call.operation, (perform crypto state call).2 with
  | .login username _, .tokens pair =>
      .issued ⟨cString username, pair.accessToken, pair.refreshToken, call.ambient.clock 0⟩
  | .refresh token, .tokens pair =>
      match refreshHolder crypto call.ambient state.sessions token with
      | some index => .issued ⟨(state.sessions index).name, pair.accessToken, pair.refreshToken,
          call.ambient.clock 1⟩
      | none => .none
  | .revoke token, .done =>
      match authorize crypto call.ambient state.sessions token with
      | .ok principal => .dropped principal.username
      | .error _ => .none
  | .putUser _ input, .done => .dropped (cString input.username)
  | .deleteUser _ username, .done => .dropped (cString username)
  | _, _ => .none

/-! ## What a call can do -/

/-- The account is the master with the role of an administrator, or an enabled
account of the store with the role. -/
def Backed (users : UserStore.Body) (account : List UInt8) (role : UInt8) : Prop :=
  (account = masterUsername ∧ role = Role.administrator.code)
    ∨ ∃ record, UserStore.find users account = some record ∧ record.enabled ≠ 0
      ∧ record.role = role

/-- The account may be given a session with the role: by the store, or because it
has one already. -/
def Entitled (state : State) (account : List UInt8) (role : UInt8) : Prop :=
  Backed state.users.snapshot.body account role
    ∨ ∃ index, (state.sessions index).active = true ∧ (state.sessions index).name = account
      ∧ (state.sessions index).role = role

/-- The session of an issue. -/
def Issue.session (crypto : Crypto) (issue : Issue) (role : UInt8) : Session :=
  newSession crypto issue.account role issue.access issue.refresh (UInt32.ofNat issue.time)

/-- **What a call can do to the state**, by the change that it makes. -/
inductive Transition (crypto : Crypto) (state : State) : Change → State → Prop where
  | idle {users : UserStore.Ram} (same : users.snapshot = state.users.snapshot) :
      Transition crypto state .none ⟨state.sessions, users⟩
  | issued {issue : Issue} {role : UInt8} {index : Fin sessionCount}
      (entitled : Entitled state issue.account role)
      (found : findSession state.sessions issue.account = some index) :
      Transition crypto state (.issued issue)
        ⟨Function.update state.sessions index (issue.session crypto role), state.users⟩
  | revoked {holder index : Fin sessionCount} (active : (state.sessions holder).active = true)
      (found : findSession state.sessions (state.sessions holder).name = some index) :
      Transition crypto state (.dropped (state.sessions holder).name)
        ⟨Function.update state.sessions index Session.zero, state.users⟩
  | put {users : UserStore.Ram} {record : UserStore.Record} {candidate : UserStore.Body}
      (ordinary : record.name ≠ masterUsername) (terminated : 0 ∈ record.username.toList)
      (proposed : UserStore.putCandidate state.users.snapshot.body record = .ok candidate)
      (stored : users.snapshot.body = UserStore.mark candidate) :
      Transition crypto state (.dropped record.name)
        ⟨dropSession state.sessions record.name, users⟩
  | deleted {users : UserStore.Ram} {username : List UInt8} {candidate : UserStore.Body}
      (ordinary : username ≠ masterUsername)
      (proposed : UserStore.deleteCandidate state.users.snapshot.body username = .ok candidate)
      (stored : users.snapshot.body = UserStore.mark candidate) :
      Transition crypto state (.dropped username) ⟨dropSession state.sessions username, users⟩

variable {crypto : Crypto} {ambient : Ambient} {state : State} {table : Table}

/-- The tokens are the texts of two draws of random bytes. -/
def TokenPair.Drawn (pair : TokenPair) (ambient : Ambient) : Prop :=
  ∃ access refresh, ambient.random 0 = some access ∧ ambient.random 1 = some refresh
    ∧ pair.accessToken = hex access.toList ∧ pair.refreshToken = hex refresh.toList

theorem issue_ok {hashes reading : ℕ} {username : List UInt8} {role : UInt8} {changed : Table}
    {pair : TokenPair}
    (issued : issue crypto ambient hashes reading table username role = .ok (changed, pair)) :
    pair.Drawn ambient ∧ ∃ index, findSession table username = some index
      ∧ changed = Function.update table index (newSession crypto username role pair.accessToken
          pair.refreshToken (ambient.uptimeMs reading)) := by
  unfold issue at issued
  split at issued
  · rename_i access refresh first second
    split at issued
    · split at issued
      · cases issued
      · rename_i index found
        cases issued
        exact ⟨⟨access, refresh, first, second, rfl, rfl⟩, index, found, rfl⟩
    · cases issued
  · cases issued

/-- A login that authenticates is entitled to a session. -/
theorem authenticate_backed {username password : List UInt8} {role : UInt8}
    (authentic : authenticate crypto ambient state.users username password = .ok role) :
    Backed state.users.snapshot.body username role := by
  unfold authenticate at authentic
  split at authentic
  · rename_i master
    cases verified : verifyMasterPassword crypto ambient password with
    | error failure =>
        rw [verified] at authentic
        cases authentic
    | ok _ =>
        rw [verified] at authentic
        cases authentic
        exact .inl ⟨master, rfl⟩
  · right
    cases found : UserStore.find state.users.snapshot.body username with
    | none =>
        rw [found] at authentic
        simp only [verifyUserPassword] at authentic
        split at authentic <;> cases authentic
    | some record =>
        rw [found] at authentic
        simp only [verifyUserPassword] at authentic
        split at authentic
        · cases authentic
        · split at authentic
          · rename_i accepted
            cases authentic
            exact ⟨record, rfl, accepted.1, rfl⟩
          · cases authentic

/-- The slot that a token is found in is in use, and the token was in time as the
code measures it. -/
theorem matching_some {digestOf : Session → Digest} {issuedAt : Session → UInt32}
    {lifetimeSec now : UInt32} {digest : Digest} {index : Fin sessionCount}
    (found : matching table digestOf issuedAt lifetimeSec now digest = some index) :
    (table index).active = true ∧ now - issuedAt (table index) ≤ lifetimeSec * 1000
      ∧ digest = digestOf (table index) := by
  have holds := List.find?_some found
  simpa [and_assoc] using holds

/-- A token is found if some slot in use has it, in time. -/
theorem matching_isSome {digestOf : Session → Digest} {issuedAt : Session → UInt32}
    {lifetimeSec now : UInt32} {digest : Digest} {index : Fin sessionCount}
    (active : (table index).active = true)
    (inTime : now - issuedAt (table index) ≤ lifetimeSec * 1000)
    (same : digest = digestOf (table index)) :
    ∃ first, matching table digestOf issuedAt lifetimeSec now digest = some first := by
  rw [← Option.isSome_iff_exists, matching, List.find?_isSome]
  exact ⟨index, List.mem_finRange index, by simp [active, inTime, same]⟩

theorem presented_ok {token : List UInt8} {digest : Digest}
    (valid : presented crypto ambient token = .ok digest) :
    digest = crypto.sha256 (cString token) := by
  unfold presented at valid
  split at valid
  · cases valid
  · split at valid <;> cases valid
    rfl

theorem presented_eq {token : List UInt8} (length : (cString token).length = tokenTextSize - 1)
    (hashed : ambient.hashed 0 = true) :
    presented crypto ambient token = .ok (crypto.sha256 (cString token)) := by
  simp [presented, length, hashed]

/-- An accepted token is that of a slot in use, and the principal is its account. -/
theorem authorize_ok {token : List UInt8} {principal : Principal}
    (accepted : authorize crypto ambient table token = .ok principal) :
    ∃ index, matchAccess table (ambient.uptimeMs 0) (crypto.sha256 (cString token)) = some index
      ∧ principal = ⟨(table index).name, (table index).role⟩ := by
  unfold authorize at accepted
  split at accepted
  · cases accepted
  · rename_i digest valid
    rw [presented_ok valid] at accepted
    split at accepted
    · cases accepted
    · rename_i index found
      cases accepted
      exact ⟨index, found, rfl⟩

theorem refreshHolder_some {token : List UInt8} {holder : Fin sessionCount}
    (held : refreshHolder crypto ambient table token = some holder) :
    matchRefresh table (ambient.uptimeMs 0) (crypto.sha256 (cString token)) = some holder := by
  unfold refreshHolder at held
  split at held
  · rename_i valid
    rwa [presented_ok valid] at held
  · cases held

/-! ## Each operation -/

/-- A login fails, or writes a session for an account that the store backs. -/
theorem login_cases (crypto : Crypto) (ambient : Ambient) (state : State)
    (username password : List UInt8) :
    (∃ failure, login crypto ambient state username password = (state.sessions, .error failure))
      ∨ ∃ role pair index, pair.Drawn ambient
        ∧ Backed state.users.snapshot.body (cString username) role
        ∧ findSession state.sessions (cString username) = some index
        ∧ login crypto ambient state username password =
          (Function.update state.sessions index (newSession crypto (cString username) role
            pair.accessToken pair.refreshToken (ambient.uptimeMs 0)), .ok pair) := by
  simp only [login]
  cases authentic : authenticate crypto ambient state.users (cString username) password with
  | error failure => exact .inl ⟨failure, rfl⟩
  | ok role =>
      cases result : issue crypto ambient 0 0 state.sessions (cString username) role with
      | error failure => exact .inl ⟨failure, by simp [result, issued]⟩
      | ok outcome =>
          obtain ⟨changed, pair⟩ := outcome
          obtain ⟨drawn, index, found, rfl⟩ := issue_ok result
          exact .inr ⟨role, pair, index, drawn, authenticate_backed authentic, found,
            by simp [result, issued]⟩

/-- A refresh fails, or writes a session for the account whose session has the
token. -/
theorem refresh_cases (crypto : Crypto) (ambient : Ambient) (table : Table) (token : List UInt8) :
    (∃ failure, refresh crypto ambient table token = (table, .error failure))
      ∨ ∃ holder pair index, pair.Drawn ambient
        ∧ refreshHolder crypto ambient table token = some holder ∧ (table holder).active = true
        ∧ findSession table (table holder).name = some index
        ∧ refresh crypto ambient table token =
          (Function.update table index (newSession crypto (table holder).name (table holder).role
            pair.accessToken pair.refreshToken (ambient.uptimeMs 1)), .ok pair) := by
  unfold refresh refreshHolder
  cases presented crypto ambient token with
  | error failure => exact .inl ⟨failure, rfl⟩
  | ok digest =>
      cases matched : matchRefresh table (ambient.uptimeMs 0) digest with
      | none => exact .inl ⟨.invalidPassword, by simp [matched]⟩
      | some holder =>
          cases result : issue crypto ambient 1 1 table (table holder).name (table holder).role with
          | error failure => exact .inl ⟨failure, by simp [matched, result, issued]⟩
          | ok outcome =>
              obtain ⟨changed, pair⟩ := outcome
              obtain ⟨drawn, index, found, rfl⟩ := issue_ok result
              exact .inr ⟨holder, pair, index, drawn, matched, (matching_some matched).1, found,
                by simp [matched, result, issued]⟩

/-- A revocation fails, or clears the slot found for the account of the token. -/
theorem revoke_cases (crypto : Crypto) (ambient : Ambient) (table : Table) (token : List UInt8) :
    (∃ failure, revoke crypto ambient table token = (table, .error failure))
      ∨ ∃ holder index, authorize crypto ambient table token =
          .ok ⟨(table holder).name, (table holder).role⟩
        ∧ (table holder).active = true ∧ findSession table (table holder).name = some index
        ∧ revoke crypto ambient table token =
          (Function.update table index Session.zero, .ok ()) := by
  unfold revoke
  cases accepted : authorize crypto ambient table token with
  | error failure => exact .inl ⟨failure, rfl⟩
  | ok principal =>
      obtain ⟨holder, matched, rfl⟩ := authorize_ok accepted
      have active := (matching_some matched).1
      cases found : findSession table (table holder).name with
      | none => exact absurd found (SlotTable.locate_used active)
      | some index => exact .inr ⟨holder, index, rfl, active, found, by simp [found]⟩

theorem name_newRecord (crypto : Crypto) {input : UserInput} (salt : Salt)
    (fits : (cString input.username).length < UserStore.usernameSize) :
    (newRecord crypto input salt).name = cString input.username :=
  bufferString_fillBuffer fits (zero_notMem_cString _)

theorem putUserChecks_ok {actor : Principal} {input : UserInput}
    (passed : putUserChecks state actor input = .ok ()) :
    (cString input.username).length < UserStore.usernameSize
      ∧ cString input.username ≠ masterUsername := by
  unfold putUserChecks at passed
  simp only at passed
  split at passed
  · cases passed
  · rename_i allowed
    simp only [not_or, Nat.not_le] at allowed
    exact ⟨allowed.2.2.2.1, allowed.2.2.2.2⟩

/-- The account of a user is put and its session dropped, or nothing changes in
memory. -/
theorem putUser_cases (crypto : Crypto) (ambient : Ambient) (state : State) (actor : Principal) (input : UserInput) :
    (∃ failure users, users.snapshot = state.users.snapshot
        ∧ putUser crypto ambient state actor input = (⟨state.sessions, users⟩, .error failure))
      ∨ ∃ users record candidate, record.name = cString input.username
        ∧ record.name ≠ masterUsername ∧ 0 ∈ record.username.toList
        ∧ UserStore.putCandidate state.users.snapshot.body record = .ok candidate
        ∧ users.snapshot.body = UserStore.mark candidate
        ∧ putUser crypto ambient state actor input =
          (⟨dropSession state.sessions record.name, users⟩, .ok ()) := by
  unfold putUser
  cases passed : putUserChecks state actor input with
  | error failure => exact .inl ⟨failure, state.users, rfl, rfl⟩
  | ok _ =>
      obtain ⟨fits, ordinary⟩ := putUserChecks_ok passed
      cases ambient.salt with
      | none => exact .inl ⟨.cryptoError, state.users, rfl, rfl⟩
      | some salt =>
          have named := name_newRecord crypto salt fits
          simp only
          split
          · split
            · rename_i saved
              obtain ⟨candidate, proposed, stored⟩ := UserStore.put_saved saved
              exact .inr ⟨_, newRecord crypto input salt, candidate, named, by rwa [named],
                zero_mem_fillBuffer (by decide) _, proposed, stored, by rw [named]⟩
            · rename_i unsaved
              exact .inl ⟨.storageError, _, UserStore.put_unsaved unsaved, rfl⟩
          · exact .inl ⟨.cryptoError, state.users, rfl, rfl⟩

/-- An account is deleted and its session dropped, or nothing changes in memory. -/
theorem deleteUser_cases (ambient : Ambient) (state : State) (actor : Principal)
    (username : List UInt8) :
    (∃ failure users, users.snapshot = state.users.snapshot
        ∧ deleteUser ambient state actor username = (⟨state.sessions, users⟩, .error failure))
      ∨ ∃ users candidate, cString username ≠ masterUsername
        ∧ UserStore.deleteCandidate state.users.snapshot.body (cString username) = .ok candidate
        ∧ users.snapshot.body = UserStore.mark candidate
        ∧ deleteUser ambient state actor username =
          (⟨dropSession state.sessions (cString username), users⟩, .ok ()) := by
  unfold deleteUser
  simp only
  split
  · exact .inl ⟨.forbidden, state.users, rfl, rfl⟩
  · rename_i allowed
    split
    · exact .inl ⟨.notFound, state.users, rfl, rfl⟩
    · split
      · rename_i saved
        obtain ⟨candidate, proposed, stored⟩ := UserStore.delete_saved saved
        exact .inr ⟨_, candidate, fun master => allowed (.inr master), proposed, stored, rfl⟩
      · rename_i unsaved
        exact .inl ⟨.storageError, _, UserStore.delete_unsaved unsaved, rfl⟩

/-- **Every call is one of the transitions.** -/
theorem perform_transition (crypto : Crypto) (state : State) (call : Call) :
    Transition crypto state (change crypto state call) (perform crypto state call).1 := by
  obtain ⟨operation, ambient⟩ := call
  cases operation with
  | login username password =>
      rcases login_cases crypto ambient state username password with
        ⟨failure, result⟩ | ⟨role, pair, index, _, backed, found, result⟩
      · simp only [change, perform, result, reply]
        exact .idle rfl
      · simp only [change, perform, result, reply]
        exact .issued (.inl backed) found
  | refresh token =>
      rcases refresh_cases crypto ambient state.sessions token with
        ⟨failure, result⟩ | ⟨holder, pair, index, _, held, active, found, result⟩
      · simp only [change, perform, result, reply]
        exact .idle rfl
      · simp only [change, perform, result, reply, held]
        exact .issued (.inr ⟨holder, active, rfl, rfl⟩) found
  | authorize token =>
      simp only [change, perform]
      exact .idle rfl
  | revoke token =>
      rcases revoke_cases crypto ambient state.sessions token with
        ⟨failure, result⟩ | ⟨holder, index, accepted, active, found, result⟩
      · simp only [change, perform, result, reply]
        exact .idle rfl
      · simp only [change, perform, result, reply, accepted]
        exact .revoked active found
  | putUser actor input =>
      rcases putUser_cases crypto ambient state actor input with ⟨failure, users, same, result⟩ |
        ⟨users, record, candidate, named, ordinary, terminated, proposed, stored, result⟩
      · simp only [change, perform, result, reply]
        exact .idle same
      · simp only [change, perform, result, reply, ← named]
        exact .put ordinary terminated proposed stored
  | deleteUser actor username =>
      rcases deleteUser_cases ambient state actor username with ⟨failure, users, same, result⟩ |
        ⟨users, candidate, ordinary, proposed, stored, result⟩
      · simp only [change, perform, result, reply]
        exact .idle same
      · simp only [change, perform, result, reply]
        exact .deleted ordinary proposed stored

end HealthCheckFirmware.AuthService
