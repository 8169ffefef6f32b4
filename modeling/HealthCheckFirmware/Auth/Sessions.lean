import HealthCheckFirmware.Auth.Transitions

/-!
# Sessions and the user store agree

The invariant of the session table (`Consistent`): no account has two active
sessions, and every active session is backed by the user store, with its role. Since
the store has at most eight accounts, the nine slots then always suffice.

The invariant is kept by every transition (`Consistent.step`), so it holds in every
run (`Consistent.run`).
-/

set_option autoImplicit false

namespace HealthCheckFirmware.AuthService

variable {crypto : Crypto} {state : State} {table : Table}

/-! ## The invariant -/

/-- No account has two active sessions. -/
abbrev Distinct (table : Table) : Prop := SlotTable.Distinct Session.active Session.name table

/-- The session table and the user store agree. -/
structure Consistent (state : State) : Prop where
  distinct : Distinct state.sessions
  backed : ∀ index, (state.sessions index).active = true →
    Backed state.users.snapshot.body (state.sessions index).name (state.sessions index).role
  wellFormed : state.users.snapshot.body.WellFormed
  terminated : state.users.snapshot.body.Terminated

/-- The name of a backed account fits into a session. -/
theorem Backed.fits {users : UserStore.Body} (terminated : users.Terminated)
    {account : List UInt8} {role : UInt8} (backed : Backed users account role) :
    account.length < UserStore.usernameSize ∧ 0 ∉ account := by
  rcases backed with ⟨rfl, _⟩ | ⟨record, found, _⟩
  · decide
  · obtain ⟨member, rfl⟩ := UserStore.mem_listed_of_find found
    exact ⟨length_bufferString_lt (terminated record member), zero_notMem_cString _⟩

/-- The store backs the accounts it has and the master account. -/
theorem Backed.mem {users : UserStore.Body} {account : List UInt8} {role : UInt8}
    (backed : Backed users account role) :
    account ∈ masterUsername :: users.listed.map UserStore.Record.name := by
  rcases backed with ⟨rfl, _⟩ | ⟨record, found, _⟩
  · exact List.mem_cons_self
  · obtain ⟨member, rfl⟩ := UserStore.mem_listed_of_find found
    exact List.mem_cons_of_mem _ (List.mem_map_of_mem member)

/-- **The slots suffice**: there is one for every account that the store backs. -/
theorem Consistent.findSession_ne_none (consistent : Consistent state) {account : List UInt8}
    {role : UInt8} (backed : Backed state.users.snapshot.body account role) :
    findSession state.sessions account ≠ none := by
  have bound : state.users.snapshot.body.count.toNat ≤ UserStore.maxUsers := consistent.wellFormed
  refine SlotTable.locate_ne_none consistent.distinct
    (fun index active => (consistent.backed index active).mem) backed.mem ?_
  simp only [List.length_cons, List.length_map, UserStore.length_listed consistent.wellFormed,
    sessionCount]
  omega

/-- Under the invariant, whoever is entitled to a session is backed by the store. -/
theorem Consistent.backed_of_entitled (consistent : Consistent state) {account : List UInt8}
    {role : UInt8} (entitled : Entitled state account role) :
    Backed state.users.snapshot.body account role := by
  rcases entitled with backed | ⟨index, active, rfl, rfl⟩
  · exact backed
  · exact consistent.backed index active

/-- The session of an issue is active, for its account. -/
theorem Issue.session_name {users : UserStore.Body} (terminated : users.Terminated)
    {issue : Issue} {role : UInt8} (backed : Backed users issue.account role) :
    (issue.session crypto role).name = issue.account :=
  bufferString_fillBuffer (backed.fits terminated).1 (backed.fits terminated).2

/-! ## Dropping a session -/

/-- Dropping the session of an account clears its slot, if it has one. -/
theorem dropSession_cases (table : Table) (account : List UInt8) :
    (dropSession table account = table
        ∧ ∀ index, (table index).active = true → (table index).name ≠ account)
      ∨ ∃ index, findSession table account = some index
        ∧ dropSession table account = Function.update table index Session.zero := by
  unfold dropSession
  cases found : findSession table account with
  | none =>
      refine .inl ⟨rfl, fun index active same => ?_⟩
      subst same
      exact SlotTable.locate_used active found
  | some index =>
      simp only
      split
      · exact .inr ⟨index, rfl, rfl⟩
      · rename_i other
        refine .inl ⟨rfl, fun place active same => ?_⟩
        rcases SlotTable.locate_cases found with ⟨inUse, named⟩ | ⟨_, unused⟩
        · simp [inUse, named] at other
        · exact unused place active same

theorem distinct_clear (distinct : Distinct table) {account : List UInt8}
    {index : Fin sessionCount} (found : findSession table account = some index) :
    Distinct (Function.update table index Session.zero) :=
  SlotTable.distinct_update distinct found (by simp [Session.zero])

theorem distinct_dropSession (distinct : Distinct table) (account : List UInt8) :
    Distinct (dropSession table account) := by
  rcases dropSession_cases table account with ⟨same, _⟩ | ⟨index, found, result⟩
  · rwa [same]
  · rw [result]
    exact distinct_clear distinct found

/-- An active session after one slot was cleared was there before. -/
theorem active_clear {index place : Fin sessionCount}
    (active : (Function.update table index Session.zero place).active = true) :
    place ≠ index ∧ Function.update table index Session.zero place = table place := by
  have ne : place ≠ index := by
    rintro rfl
    simp [Session.zero] at active
  exact ⟨ne, Function.update_of_ne ne _ _⟩

/-- An active session after the session of an account was dropped was there before
and belongs to another account. -/
theorem active_dropSession (distinct : Distinct table) {account : List UInt8}
    {place : Fin sessionCount} (active : (dropSession table account place).active = true) :
    dropSession table account place = table place ∧ (table place).name ≠ account := by
  rcases dropSession_cases table account with ⟨same, none⟩ | ⟨index, found, result⟩
  · rw [same] at active ⊢
    exact ⟨rfl, none place active⟩
  · rw [result] at active ⊢
    obtain ⟨ne, kept⟩ := active_clear active
    rw [kept] at active
    exact ⟨kept, fun named => ne (SlotTable.eq_of_locate distinct found active named)⟩

/-! ## Every transition keeps the invariant -/

/-- Writing the session of a backed account. -/
theorem Consistent.issue (consistent : Consistent state) {issue : Issue} {role : UInt8}
    (backed : Backed state.users.snapshot.body issue.account role) {index : Fin sessionCount}
    (found : findSession state.sessions issue.account = some index) :
    Consistent ⟨Function.update state.sessions index (issue.session crypto role), state.users⟩ where
  distinct := SlotTable.distinct_update consistent.distinct found
    fun _ => Issue.session_name consistent.terminated backed
  backed place active := by
    by_cases here : place = index
    · subst here
      simp only [Function.update_self]
      rw [Issue.session_name consistent.terminated backed]
      exact backed
    · simp only [Function.update_of_ne here] at active ⊢
      exact consistent.backed place active
  wellFormed := consistent.wellFormed
  terminated := consistent.terminated

/-- Dropping the session of an account whose entry in the store has changed. -/
theorem Consistent.drop (consistent : Consistent state) {users : UserStore.Ram}
    {candidate : UserStore.Body} (stored : users.snapshot.body = UserStore.mark candidate)
    {account : List UInt8}
    (others : ∀ other, other ≠ account → UserStore.find candidate other =
      UserStore.find state.users.snapshot.body other)
    (wellFormed : candidate.WellFormed) (terminated : candidate.Terminated) :
    Consistent ⟨dropSession state.sessions account, users⟩ where
  distinct := distinct_dropSession consistent.distinct account
  backed place active := by
    obtain ⟨kept, other⟩ := active_dropSession consistent.distinct active
    simp only [kept] at active ⊢
    rcases consistent.backed place active with master | ⟨record, found, rest⟩
    · exact .inl master
    · rw [stored]
      exact .inr ⟨record, (others _ other).trans found, rest⟩
  wellFormed := by
    rw [stored]
    exact wellFormed
  terminated := by
    rw [stored]
    exact terminated

theorem Consistent.step (consistent : Consistent state) {change : Change} {next : State}
    (transition : Transition crypto state change next) : Consistent next := by
  cases transition with
  | idle same =>
      have users := congrArg Sealed.body same
      exact ⟨consistent.distinct, users.symm ▸ consistent.backed,
        users.symm ▸ consistent.wellFormed, users.symm ▸ consistent.terminated⟩
  | issued entitled found => exact consistent.issue (consistent.backed_of_entitled entitled) found
  | @revoked holder index active found =>
      refine ⟨distinct_clear consistent.distinct found, fun place active => ?_,
        consistent.wellFormed, consistent.terminated⟩
      obtain ⟨_, kept⟩ := active_clear active
      simp only [kept] at active ⊢
      exact consistent.backed place active
  | put _ terminated proposed stored =>
      refine consistent.drop stored (fun other otherName => ?_) ?_ ?_
      · exact (UserStore.find_put proposed other).trans (if_neg otherName)
      · exact @UserStore.wellFormed_amend _ _ (.put _) proposed consistent.wellFormed
      · exact UserStore.terminated_put proposed consistent.terminated terminated
  | deleted _ proposed stored =>
      refine consistent.drop stored (fun other otherName => ?_) ?_ ?_
      · exact UserStore.find_delete consistent.wellFormed proposed otherName
      · exact @UserStore.wellFormed_amend _ _ (.delete _) proposed consistent.wellFormed
      · exact UserStore.terminated_delete consistent.wellFormed proposed consistent.terminated

theorem Consistent.perform (consistent : Consistent state) (crypto : Crypto) (call : Call) :
    Consistent (AuthService.perform crypto state call).1 :=
  consistent.step (perform_transition crypto state call)

theorem Consistent.run (consistent : Consistent state) (crypto : Crypto) (calls : List Call) :
    Consistent (AuthService.run crypto state calls) := by
  induction calls generalizing state with
  | nil => exact consistent
  | cons call rest ih => exact ih (consistent.perform crypto call)

/-- A start-up leaves no session at all. -/
theorem consistent_init {users : UserStore.Ram} (wellFormed : users.snapshot.body.WellFormed)
    (terminated : users.snapshot.body.Terminated) : Consistent (init users) where
  distinct first _ active := by simp [init, Session.zero] at active
  backed _ active := by simp [init, Session.zero] at active
  wellFormed := wellFormed
  terminated := terminated

/-! ## The result -/

/-- **Sessions and accounts in every run.** After a start-up from a store whose names
are terminated and any sequence of calls, whatever fails in them: no account has two
active sessions; an active session is the master's, as an administrator, or that of
an account that is in the store, enabled, and has the session's role; and a login or
a refresh that has verified its caller finds a slot. -/
theorem sessions_match_accounts (crypto : Crypto) (banks : TwoBank.Banks Sector)
    (boot : BootFaults SectorFaults) (calls : List Call)
    (terminated : (UserStore.init banks boot).1.snapshot.body.Terminated) :
    let state := run crypto (init (UserStore.init banks boot).1) calls
    (∀ first second, (state.sessions first).active = true →
        (state.sessions second).active = true →
          (state.sessions first).name = (state.sessions second).name → first = second)
      ∧ (∀ index, (state.sessions index).active = true →
        ((state.sessions index).name = masterUsername
            ∧ (state.sessions index).role = Role.administrator.code)
          ∨ ∃ record, UserStore.find state.users.snapshot.body (state.sessions index).name =
              some record
            ∧ record.enabled ≠ 0 ∧ record.role = (state.sessions index).role)
      ∧ (∀ ambient username password role,
        authenticate crypto ambient state.users (cString username) password = .ok role →
          findSession state.sessions (cString username) ≠ none)
      ∧ ∀ ambient token holder, refreshHolder crypto ambient state.sessions token = some holder →
          findSession state.sessions (state.sessions holder).name ≠ none := by
  intro state
  have consistent : Consistent state :=
    (consistent_init (UserStore.init_wellFormed banks boot) terminated).run crypto calls
  refine ⟨consistent.distinct, consistent.backed, ?_, ?_⟩
  · intro ambient username password role authentic
    exact consistent.findSession_ne_none (authenticate_backed authentic)
  · intro ambient token holder held
    exact SlotTable.locate_used (matching_some (refreshHolder_some held)).1

/-- Functions to evaluate runs with: the digest of a text is its first bytes, and
every password is the master password. -/
def sampleCrypto : Crypto where
  sha256 text := Vector.ofFn fun index : Fin digestSize => text.getD index 0
  pbkdf2 _ _ _ := masterVerifier

/-- A call at the given time in which nothing fails and whose tokens are made of
the given byte and its successor. -/
def sampleAmbient (time : ℕ) (byte : UInt8) : Ambient where
  clock _ := time
  random draw := some (.replicate tokenBytes (if draw = 0 then byte else byte + 1))
  salt := some (.replicate UserStore.saltSize 0)
  hashed _ := true
  derived := true
  faults := .done
  forward := monotone_const
  powered := TwoBank.SaveFates.powered_done

/-- A login of the master. -/
def masterLogin (time : ℕ) (byte : UInt8) : Call :=
  ⟨.login masterUsername (ascii "password"), sampleAmbient time byte⟩

/-- The state after a start-up with no account stored. -/
def noAccounts : State := init (UserStore.init ⟨[], []⟩ ⟨fun _ => true, .done⟩).1

/-- The slot that the first login after a start-up takes. -/
def firstSlot : Fin sessionCount := ⟨0, sessionCount_pos⟩

/-- An account, as the master stores it, and its login. -/
def aliceStored : Call :=
  ⟨.putUser ⟨masterUsername, Role.administrator.code⟩
    ⟨ascii "alice", ascii "a long password", .user, true, false⟩, sampleAmbient 0 1⟩

def aliceLogin : Call := ⟨.login (ascii "alice") (ascii "a long password"), sampleAmbient 0 3⟩

/-- The session of a stored account is backed by its record. -/
theorem stored_session_backed :
    let state := run sampleCrypto noAccounts [aliceStored, aliceLogin]
    (state.sessions firstSlot).active = true
      ∧ ∃ record, UserStore.find state.users.snapshot.body (ascii "alice") = some record
        ∧ record.enabled ≠ 0 ∧ record.role = (state.sessions firstSlot).role := by
  have session : ((run sampleCrypto noAccounts [aliceStored, aliceLogin]).sessions
        firstSlot).active = true
      ∧ ((run sampleCrypto noAccounts [aliceStored, aliceLogin]).sessions firstSlot).name
        = ascii "alice" := by
    decide +kernel
  have empty : (UserStore.init ⟨[], []⟩ ⟨fun _ => true, .done⟩).1.snapshot.body.Terminated := by
    unfold UserStore.Body.Terminated
    decide
  -- stated for any calls, so that the run is not evaluated once more
  have law (calls : List Call)
      (active : ((run sampleCrypto noAccounts calls).sessions firstSlot).active = true)
      (name : ((run sampleCrypto noAccounts calls).sessions firstSlot).name = ascii "alice") :
      ∃ record, UserStore.find (run sampleCrypto noAccounts calls).users.snapshot.body
          (ascii "alice") = some record
        ∧ record.enabled ≠ 0
        ∧ record.role = ((run sampleCrypto noAccounts calls).sessions firstSlot).role := by
    rcases (sessions_match_accounts sampleCrypto _ _ calls empty).2.1 firstSlot active with
      ⟨master, _⟩ | stored
    · exact absurd (name.symm.trans master) (by decide)
    · rw [← name]
      exact stored
  exact ⟨session.1, law _ session.1 session.2⟩

end HealthCheckFirmware.AuthService
