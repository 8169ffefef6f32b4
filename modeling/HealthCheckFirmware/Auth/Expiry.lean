import HealthCheckFirmware.Auth.Sessions

/-!
# Expiry of tokens

The code measures the age of a token as a difference of 32-bit millisecond counters.
Beside the run of the session table we keep, for every slot, the issue that its
session comes from, with the real time of that issue (`Watched`).

A token is then accepted only within its lifetime as long as no token is presented
whose real age has wrapped around into its lifetime (`Unwrapped`); a token that is
presented at such a time is accepted although it has expired
(`accepted_in_time_unless_wrapped`). A session is not removed when it expires, so a
token can be presented at such a time (`token_accepted_after_wrap`).
-/

set_option autoImplicit false

namespace HealthCheckFirmware.AuthService

variable {crypto : Crypto}

/-! ## Real ages -/

/-- The counter difference of two times is the real difference modulo its range. -/
theorem toNat_counter_sub {earlier later : ℕ} (order : earlier ≤ later) :
    (UInt32.ofNat later - UInt32.ofNat earlier).toNat = (later - earlier) % 2 ^ 32 := by
  rw [UInt32.toNat_sub, UInt32.toNat_ofNat', UInt32.toNat_ofNat']
  omega

/-- One of the two tokens of a session: where its digest and the time of its issue
are kept, how long it lives, and which token of an issue it is. -/
structure TokenKind where
  digestOf : Session → Digest
  issuedAt : Session → UInt32
  lifetimeSec : UInt32
  tokenOf : Issue → List UInt8
  short : lifetimeSec.toNat * 1000 < 2 ^ 32

def accessKind : TokenKind where
  digestOf := Session.accessDigest
  issuedAt := Session.accessIssuedAt
  lifetimeSec := accessLifetimeSec
  tokenOf := Issue.access
  short := by decide

def refreshKind : TokenKind where
  digestOf := Session.refreshDigest
  issuedAt := Session.refreshIssuedAt
  lifetimeSec := refreshLifetimeSec
  tokenOf := Issue.refresh
  short := by decide

/-- The lifetime of a token in milliseconds. -/
def TokenKind.lifetime (kind : TokenKind) : ℕ := kind.lifetimeSec.toNat * 1000

theorem TokenKind.toNat_lifetime (kind : TokenKind) :
    (kind.lifetimeSec * 1000).toNat = kind.lifetime := by
  rw [UInt32.toNat_mul]
  exact Nat.mod_eq_of_lt kind.short

/-! ## Runs with the origin of each session -/

/-- The state, and the issue that each slot was last written by. -/
structure Watched where
  state : State
  origin : Fin sessionCount → Option Issue

/-- Nothing has been issued after a start-up. -/
def Watched.start (users : UserStore.Ram) : Watched := ⟨init users, fun _ => none⟩

/-- The origins after a change to the table. -/
def note (table : Table) (origin : Fin sessionCount → Option Issue) :
    Change → Fin sessionCount → Option Issue
  | .issued issue =>
      match findSession table issue.account with
      | some index => Function.update origin index (some issue)
      | none => origin
  | _ => origin

def Watched.next (crypto : Crypto) (watched : Watched) (call : Call) : Watched where
  state := (perform crypto watched.state call).1
  origin := note watched.state.sessions watched.origin (change crypto watched.state call)

/-- The property holds at every call of the run, of the state before it. -/
def Throughout (crypto : Crypto) (property : Watched → Call → Prop) :
    Watched → List Call → Prop
  | _, [] => True
  | watched, call :: rest =>
      property watched call ∧ Throughout crypto property (watched.next crypto call) rest

/-- Real time does not run backwards from one call to the next. -/
def Timed : ℕ → List Call → Prop
  | _, [] => True
  | now, call :: rest => now ≤ call.ambient.clock 0 ∧ Timed (call.ambient.clock 1) rest

/-- The slot holds the presented token, which comes from the given issue. -/
structure Holds (crypto : Crypto) (kind : TokenKind) (watched : Watched) (token : List UInt8)
    (index : Fin sessionCount) (issue : Issue) : Prop where
  active : (watched.state.sessions index).active = true
  origin : watched.origin index = some issue
  digest : crypto.sha256 (kind.tokenOf issue) = crypto.sha256 (cString token)

/-- The token has expired at the given time, but its age modulo the range of the
counter is within its lifetime. -/
def TokenKind.Wrapped (kind : TokenKind) (issue : Issue) (now : ℕ) : Prop :=
  kind.lifetime < now - issue.time ∧ (now - issue.time) % 2 ^ 32 ≤ kind.lifetime

/-- The kind of token that an operation presents, and the token. -/
def Operation.token : Operation → Option (TokenKind × List UInt8)
  | .refresh token => some (refreshKind, token)
  | .authorize token => some (accessKind, token)
  | .revoke token => some (accessKind, token)
  | _ => none

/-- **The condition**: the call does not present a token whose age has wrapped
around into its lifetime. -/
def Unwrapped (crypto : Crypto) (watched : Watched) (call : Call) : Prop :=
  ∀ kind token, call.operation.token = some (kind, token) →
    ∀ index issue, Holds crypto kind watched token index issue →
      ¬ kind.Wrapped issue (call.ambient.clock 0)

/-- The call does not fail. -/
def Accepts (crypto : Crypto) (state : State) (call : Call) : Prop :=
  ∀ failure, (perform crypto state call).2 ≠ .failed failure

/-- **Expiry**: if the call presents a token and accepts it, then the token is that
of a session issued no longer than its lifetime ago. -/
def InTime (crypto : Crypto) (watched : Watched) (call : Call) : Prop :=
  ∀ kind token, call.operation.token = some (kind, token) → Accepts crypto watched.state call →
    ∃ index issue, Holds crypto kind watched token index issue
      ∧ call.ambient.clock 0 - issue.time ≤ kind.lifetime

/-! ## Every session comes from its issue -/

/-- The active sessions are those of their issues, none of which is in the future. -/
def Traced (crypto : Crypto) (now : ℕ) (watched : Watched) : Prop :=
  ∀ index, (watched.state.sessions index).active = true →
    ∃ issue role, watched.origin index = some issue ∧ issue.time ≤ now
      ∧ watched.state.sessions index = issue.session crypto role

theorem traced_start (crypto : Crypto) (now : ℕ) (users : UserStore.Ram) :
    Traced crypto now (Watched.start users) := by
  intro index active
  simp [Watched.start, init, Session.zero] at active

theorem Traced.later {now later : ℕ} {watched : Watched} (traced : Traced crypto now watched)
    (order : now ≤ later) : Traced crypto later watched := by
  intro index active
  obtain ⟨issue, role, origin, past, same⟩ := traced index active
  exact ⟨issue, role, origin, past.trans order, same⟩

/-- Clearing slots keeps the sessions that remain. -/
theorem Traced.clear {now : ℕ} {watched : Watched} (traced : Traced crypto now watched)
    {sessions : Table} {users : UserStore.Ram}
    (kept : ∀ index, (sessions index).active = true →
      sessions index = watched.state.sessions index) :
    Traced crypto now ⟨⟨sessions, users⟩, watched.origin⟩ := by
  intro index (active : (sessions index).active = true)
  have same := kept index active
  rw [same] at active
  obtain ⟨issue, role, origin, past, written⟩ := traced index active
  exact ⟨issue, role, origin, past, same.trans written⟩

theorem dropSession_kept (table : Table) (account : List UInt8) {index : Fin sessionCount}
    (active : (dropSession table account index).active = true) :
    dropSession table account index = table index := by
  rcases dropSession_cases table account with ⟨same, _⟩ | ⟨place, _, result⟩
  · rw [same]
  · rw [result] at active ⊢
    exact (active_clear active).2

theorem Traced.step {now : ℕ} {watched : Watched} (traced : Traced crypto now watched)
    {change : Change} {state : State} (transition : Transition crypto watched.state change state)
    (past : ∀ issue, change = .issued issue → issue.time ≤ now) :
    Traced crypto now ⟨state, note watched.state.sessions watched.origin change⟩ := by
  cases transition with
  | idle same => exact traced.clear fun _ _ => rfl
  | @issued issue role index entitled found =>
      intro place active
      simp only [note, found]
      by_cases here : place = index
      · subst here
        exact ⟨issue, role, Function.update_self .., past issue rfl, Function.update_self ..⟩
      · simp only [Function.update_of_ne here] at active ⊢
        exact traced place active
  | revoked active found => exact traced.clear fun _ active => (active_clear active).2
  | put ordinary terminated proposed stored => exact traced.clear fun _ => dropSession_kept _ _
  | deleted ordinary proposed stored => exact traced.clear fun _ => dropSession_kept _ _

/-- What a call issues is issued during the call. -/
theorem change_time {state : State} {call : Call} {issue : Issue}
    (issued : change crypto state call = .issued issue) :
    issue.time ≤ call.ambient.clock 1 := by
  have order := call.ambient.forward (Nat.zero_le 1)
  unfold change at issued
  split at issued
  · cases issued
    exact order
  · split at issued <;> cases issued
    exact Nat.le_refl _
  · split at issued <;> cases issued
  · cases issued
  · cases issued
  · cases issued

theorem Traced.next {now : ℕ} {watched : Watched} (traced : Traced crypto now watched)
    (call : Call) (order : now ≤ call.ambient.clock 0) :
    Traced crypto (call.ambient.clock 1) (watched.next crypto call) :=
  (traced.later (order.trans (call.ambient.forward (Nat.zero_le 1)))).step
    (perform_transition crypto watched.state call) fun _ issued => change_time issued

/-! ## What is accepted -/

/-- No hash and no draw of random bytes fails. -/
def Ambient.Undisturbed (ambient : Ambient) : Prop :=
  (∀ count, ambient.hashed count = true) ∧ ∀ draw, (ambient.random draw).isSome = true

/-- An issue fails only for want of a slot if nothing else fails. -/
theorem issue_succeeds (crypto : Crypto) {ambient : Ambient} (undisturbed : ambient.Undisturbed)
    (hashes reading : ℕ) {table : Table} {username : List UInt8} (role : UInt8)
    (room : findSession table username ≠ none) :
    ∃ outcome, issue crypto ambient hashes reading table username role = .ok outcome := by
  obtain ⟨access, first⟩ := Option.isSome_iff_exists.mp (undisturbed.2 0)
  obtain ⟨refresh, second⟩ := Option.isSome_iff_exists.mp (undisturbed.2 1)
  obtain ⟨index, found⟩ := Option.ne_none_iff_exists'.mp room
  simp [issue, first, second, undisturbed.1, found]

/-- The slot in which the code finds the presented token. -/
def TokenKind.find (kind : TokenKind) (crypto : Crypto) (ambient : Ambient) (table : Table)
    (token : List UInt8) : Option (Fin sessionCount) :=
  matching table kind.digestOf kind.issuedAt kind.lifetimeSec (ambient.uptimeMs 0)
    (crypto.sha256 (cString token))

/-- An accepted token was found. -/
theorem find_of_accepts {state : State} {call : Call} {kind : TokenKind} {token : List UInt8}
    (presents : call.operation.token = some (kind, token)) (accepts : Accepts crypto state call) :
    ∃ index, kind.find crypto call.ambient state.sessions token = some index := by
  obtain ⟨operation, ambient⟩ := call
  cases operation with
  | refresh _ =>
      cases presents
      rcases refresh_cases crypto ambient state.sessions token with
        ⟨failure, result⟩ | ⟨holder, pair, index, _, held, _⟩
      · exact absurd (by simp [perform, result, reply]) (accepts failure)
      · exact ⟨holder, refreshHolder_some held⟩
  | authorize _ =>
      cases presents
      cases result : authorize crypto ambient state.sessions token with
      | error failure => exact absurd (by simp [perform, result, reply]) (accepts failure)
      | ok principal =>
          obtain ⟨index, found, _⟩ := authorize_ok result
          exact ⟨index, found⟩
  | revoke _ =>
      cases presents
      rcases revoke_cases crypto ambient state.sessions token with
        ⟨failure, result⟩ | ⟨holder, index, accepted, _⟩
      · exact absurd (by simp [perform, result, reply]) (accepts failure)
      · obtain ⟨index, found, _⟩ := authorize_ok accepted
        exact ⟨index, found⟩
  | login _ _ => cases presents
  | putUser _ _ => cases presents
  | deleteUser _ _ => cases presents

/-- A token of the right length that is found is accepted, unless something fails. -/
theorem accepts_of_find {state : State} {call : Call} {kind : TokenKind} {token : List UInt8}
    (presents : call.operation.token = some (kind, token)) {index : Fin sessionCount}
    (found : kind.find crypto call.ambient state.sessions token = some index)
    (length : (cString token).length = tokenTextSize - 1)
    (undisturbed : call.ambient.Undisturbed) : Accepts crypto state call := by
  obtain ⟨operation, ambient⟩ := call
  have calm : ambient.Undisturbed := undisturbed
  have valid : presented crypto ambient token = _ := presented_eq length (calm.1 0)
  have active := (matching_some found).1
  cases operation with
  | refresh _ =>
      cases presents
      have matched : matchRefresh state.sessions (ambient.uptimeMs 0)
        (crypto.sha256 (cString token)) = some index := found
      obtain ⟨⟨table, pair⟩, result⟩ := issue_succeeds crypto calm 1 1
        (state.sessions index).role (SlotTable.locate_used active)
      intro failure
      simp [perform, refresh, valid, matched, result, issued, reply]
  | authorize _ =>
      cases presents
      have matched : matchAccess state.sessions (ambient.uptimeMs 0)
        (crypto.sha256 (cString token)) = some index := found
      intro failure
      simp [perform, authorize, valid, matched, reply]
  | revoke _ =>
      cases presents
      have matched : matchAccess state.sessions (ambient.uptimeMs 0)
        (crypto.sha256 (cString token)) = some index := found
      have accepted : authorize crypto ambient state.sessions token =
          .ok ⟨(state.sessions index).name, (state.sessions index).role⟩ := by
        simp [authorize, valid, matched]
      intro failure
      simp only [perform, revoke, accepted]
      split <;> simp [reply]
  | login _ _ => cases presents
  | putUser _ _ => cases presents
  | deleteUser _ _ => cases presents

/-! ## Expiry in runs -/

/-- What a session keeps of the token of its issue. -/
theorem TokenKind.session_fields {kind : TokenKind}
    (standard : kind = accessKind ∨ kind = refreshKind) (crypto : Crypto) (issue : Issue)
    (role : UInt8) :
    kind.issuedAt (issue.session crypto role) = UInt32.ofNat issue.time
      ∧ kind.digestOf (issue.session crypto role) = crypto.sha256 (kind.tokenOf issue) := by
  rcases standard with rfl | rfl <;> exact ⟨rfl, rfl⟩

theorem Traced.holds {now : ℕ} {watched : Watched} (traced : Traced crypto now watched)
    {kind : TokenKind} (standard : kind = accessKind ∨ kind = refreshKind)
    {index : Fin sessionCount} (active : (watched.state.sessions index).active = true)
    {token : List UInt8}
    (same : crypto.sha256 (cString token) = kind.digestOf (watched.state.sessions index)) :
    ∃ issue, Holds crypto kind watched token index issue ∧ issue.time ≤ now
      ∧ kind.issuedAt (watched.state.sessions index) = UInt32.ofNat issue.time := by
  obtain ⟨issue, role, origin, past, written⟩ := traced index active
  obtain ⟨issuedAt, digest⟩ := TokenKind.session_fields standard crypto issue role
  rw [written] at same ⊢
  exact ⟨issue, ⟨active, origin, digest.symm.trans same.symm⟩, past, issuedAt⟩

/-- The test of the code on the age of a token, in terms of its real age. -/
theorem age_iff {kind : TokenKind} {issue : Issue} {ambient : Ambient}
    (past : issue.time ≤ ambient.clock 0) :
    ambient.uptimeMs 0 - UInt32.ofNat issue.time ≤ kind.lifetimeSec * 1000 ↔
      (ambient.clock 0 - issue.time) % 2 ^ 32 ≤ kind.lifetime := by
  rw [UInt32.le_iff_toNat_le, kind.toNat_lifetime, Ambient.uptimeMs, toNat_counter_sub past]

theorem Operation.token_kind {operation : Operation} {kind : TokenKind} {token : List UInt8}
    (presents : operation.token = some (kind, token)) :
    kind = accessKind ∨ kind = refreshKind := by
  cases operation <;> cases presents <;> simp

/-- One call: if no token is presented whose age has wrapped, what is accepted is in
time. -/
theorem Traced.inTime {now : ℕ} {watched : Watched} (traced : Traced crypto now watched)
    {call : Call} (order : now ≤ call.ambient.clock 0) (unwrapped : Unwrapped crypto watched call) :
    InTime crypto watched call := by
  intro kind token presents accepts
  obtain ⟨index, found⟩ := find_of_accepts presents accepts
  obtain ⟨active, young, same⟩ := matching_some found
  obtain ⟨issue, holds, past, issuedAt⟩ :=
    traced.holds (Operation.token_kind presents) active same
  rw [issuedAt, age_iff (past.trans order)] at young
  refine ⟨index, issue, holds, Nat.not_lt.mp fun expired => ?_⟩
  exact unwrapped kind token presents index issue holds ⟨expired, young⟩

/-- One call: a token whose age has wrapped into its lifetime is accepted. -/
theorem Traced.accepts_wrapped {now : ℕ} {watched : Watched} (traced : Traced crypto now watched)
    {call : Call} (order : now ≤ call.ambient.clock 0) {kind : TokenKind} {token : List UInt8}
    (presents : call.operation.token = some (kind, token)) {index : Fin sessionCount}
    {issue : Issue} (holds : Holds crypto kind watched token index issue)
    (wrapped : kind.Wrapped issue (call.ambient.clock 0))
    (length : (cString token).length = tokenTextSize - 1)
    (undisturbed : call.ambient.Undisturbed) : Accepts crypto watched.state call := by
  obtain ⟨origin, role, isOrigin, past, written⟩ := traced index holds.active
  obtain rfl : origin = issue := Option.some.inj (isOrigin.symm.trans holds.origin)
  have fields := TokenKind.session_fields (Operation.token_kind presents) crypto origin role
  rw [← written] at fields
  have young : call.ambient.uptimeMs 0 - kind.issuedAt (watched.state.sessions index) ≤
      kind.lifetimeSec * 1000 := by
    rw [fields.1, age_iff (past.trans order)]
    exact wrapped.2
  obtain ⟨first, found⟩ := matching_isSome holds.active young (holds.digest.symm.trans fields.2.symm)
  exact accepts_of_find presents found length undisturbed

/-- A call that presents an expired token whose age has wrapped accepts it. -/
def AcceptsWrapped (crypto : Crypto) (watched : Watched) (call : Call) : Prop :=
  ∀ kind token, call.operation.token = some (kind, token) →
    ∀ index issue, Holds crypto kind watched token index issue →
      kind.Wrapped issue (call.ambient.clock 0) →
        (cString token).length = tokenTextSize - 1 → call.ambient.Undisturbed →
          Accepts crypto watched.state call

theorem Traced.throughout {now : ℕ} {watched : Watched} (traced : Traced crypto now watched)
    {calls : List Call} (timed : Timed now calls) :
    (Throughout crypto (Unwrapped crypto) watched calls →
        Throughout crypto (InTime crypto) watched calls)
      ∧ Throughout crypto (AcceptsWrapped crypto) watched calls := by
  induction calls generalizing now watched with
  | nil => exact ⟨fun _ => trivial, trivial⟩
  | cons call rest ih =>
      obtain ⟨order, later⟩ := timed
      obtain ⟨inTime, wrapped⟩ := ih (traced.next call order) later
      refine ⟨fun unwrapped => ⟨traced.inTime order unwrapped.1, inTime unwrapped.2⟩, ?_, wrapped⟩
      intro kind token presents index issue holds wrapped length undisturbed
      exact traced.accepts_wrapped order presents holds wrapped length undisturbed

/-- **Expiry is final unless the counter wraps.** In every run from a start-up whose
calls all meet `Unwrapped`, every accepted token was issued no longer than its
lifetime before. In any run a call that does not meet it accepts the expired token,
unless its length is wrong or a hash or the random generator fails. -/
theorem accepted_in_time_unless_wrapped (crypto : Crypto) (users : UserStore.Ram) (start : ℕ)
    (calls : List Call) (timed : Timed start calls) :
    (Throughout crypto (Unwrapped crypto) (Watched.start users) calls →
        Throughout crypto (InTime crypto) (Watched.start users) calls)
      ∧ Throughout crypto (AcceptsWrapped crypto) (Watched.start users) calls :=
  (traced_start crypto start users).throughout timed

/-! ## A session left idle -/

/-- The access token of `masterLogin time 1`. -/
def sampleToken : List UInt8 := hex (List.replicate tokenBytes 1)

/-- The state after a single login of the master, at time zero. -/
def loggedIn : Watched := (Watched.start noAccounts.users).next sampleCrypto (masterLogin 0 1)

/-- An authorization with the token of that login. -/
def useToken (time : ℕ) : Call := ⟨.authorize sampleToken, sampleAmbient time 9⟩

theorem loggedIn_origin {index : Fin sessionCount} {issue : Issue}
    (origin : loggedIn.origin index = some issue) : issue.time = 0 := by
  have all : ∀ index, (loggedIn.origin index).all (fun issue => issue.time == 0) = true := by
    decide
  simpa [origin] using all index

/-- At the end of its lifetime the token is accepted in time. -/
theorem used_within_lifetime :
    Throughout sampleCrypto (InTime sampleCrypto) (Watched.start noAccounts.users)
      [masterLogin 0 1, useToken 900000] := by
  refine (accepted_in_time_unless_wrapped sampleCrypto noAccounts.users 0 _ ?_).1 ?_
  · exact ⟨Nat.le_refl 0, Nat.zero_le _, trivial⟩
  · refine ⟨?_, ?_, trivial⟩
    · intro kind token presents
      cases presents
    · intro kind token presents index issue holds wrapped
      cases presents
      have started := loggedIn_origin holds.origin
      exact absurd wrapped.1 (by rw [started]; decide)

/-- **A token issued at time zero is accepted when the counter has come round**, more
than a month after it has expired. -/
theorem token_accepted_after_wrap :
    authorize sampleCrypto (useToken (2 ^ 32)).ambient loggedIn.state.sessions sampleToken =
        .ok ⟨masterUsername, Role.administrator.code⟩
      ∧ Timed 0 [masterLogin 0 1, useToken (2 ^ 32)]
      ∧ ¬ Throughout sampleCrypto (InTime sampleCrypto) (Watched.start noAccounts.users)
        [masterLogin 0 1, useToken (2 ^ 32)] := by
  have accepted : authorize sampleCrypto (useToken (2 ^ 32)).ambient loggedIn.state.sessions
      sampleToken = .ok ⟨masterUsername, Role.administrator.code⟩ := by decide
  refine ⟨accepted, ⟨Nat.le_refl 0, Nat.zero_le _, trivial⟩, fun inTime => ?_⟩
  have accepts : Accepts sampleCrypto loggedIn.state (useToken (2 ^ 32)) := by
    intro failure
    have result : (perform sampleCrypto loggedIn.state (useToken (2 ^ 32))).2 =
      .principal ⟨masterUsername, Role.administrator.code⟩ := congrArg (reply .principal) accepted
    rw [result]
    nofun
  obtain ⟨index, issue, holds, young⟩ := inTime.2.1 accessKind sampleToken rfl accepts
  rw [loggedIn_origin holds.origin] at young
  exact absurd young (by decide)

end HealthCheckFirmware.AuthService
