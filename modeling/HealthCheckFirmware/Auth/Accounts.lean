import HealthCheckFirmware.Auth.Transitions

/-!
# Calls on single accounts

Updating and deleting an account touches no account of another name
(`putUser_touches`, `deleteUser_touches`), and a deletion in which nothing fails takes
the account out (`deleteUser_done`).
-/

set_option autoImplicit false

namespace HealthCheckFirmware.AuthService

/-- A call touches nothing, or only the account of that name, which exists and is not
the built-in one. -/
def Touches (username : List UInt8) (before after : State) : Prop :=
  after = before ∨
    (UserStore.find before.users.snapshot.body username ≠ none ∧ username ≠ masterUsername
      ∧ after.users.snapshot.body.others username = before.users.snapshot.body.others username)

/-- The built-in account is not stored. -/
theorem putUser_master (crypto : Crypto) (ambient : Ambient) (state : State) (actor : Principal)
    {input : UserInput} (master : cString input.username = masterUsername) :
    putUser crypto ambient state actor input = (state, .error .forbidden) := by
  rw [putUser, putUserChecks, if_pos (by simp [master])]

theorem putUser_touches (crypto : Crypto) (ambient : Ambient) (state : State) (actor : Principal)
    {input : UserInput}
    (known : UserStore.find state.users.snapshot.body (cString input.username) ≠ none) :
    Touches (cString input.username) state (putUser crypto ambient state actor input).1 := by
  by_cases master : cString input.username = masterUsername
  · exact .inl (congrArg Prod.fst (putUser_master crypto ambient state actor master))
  · refine .inr ⟨known, master, ?_⟩
    rcases putUser_cases crypto ambient state actor input with
      ⟨failure, users, same, result⟩ | ⟨users, record, candidate, named, -, -, proposed, stored, result⟩
    · rw [result, same]
    · rw [result, stored, ← named, UserStore.others_mark]
      exact UserStore.others_put proposed

theorem deleteUser_touches (ambient : Ambient) {state : State}
    (wellFormed : state.users.snapshot.body.WellFormed) (actor : Principal)
    (username : List UInt8) :
    Touches (cString username) state (deleteUser ambient state actor username).1 := by
  by_cases allowed : isAdministrator actor = false ∨ cString username = masterUsername
  · refine .inl ?_
    rw [deleteUser, if_pos allowed]
  by_cases missing : UserStore.find state.users.snapshot.body (cString username) = none
  · refine .inl ?_
    rw [deleteUser, if_neg allowed, if_pos missing]
  · refine .inr ⟨missing, fun master => allowed (.inr master), ?_⟩
    rcases deleteUser_cases ambient state actor username with
      ⟨failure, users, same, result⟩ | ⟨users, candidate, -, proposed, stored, result⟩
    · rw [result, same]
    · rw [result, stored, UserStore.others_mark]
      exact UserStore.others_delete wellFormed proposed

/-- The creation of an account in which nothing fails. -/
theorem putUser_done {crypto : Crypto} {ambient : Ambient} (done : ambient.faults = .done)
    {salt : Salt} (drawn : ambient.salt = some salt) (derived : ambient.derived = true)
    {state : State} (wellFormed : state.users.snapshot.body.WellFormed) {actor : Principal}
    {input : UserInput} (checked : putUserChecks state actor input = .ok ())
    {candidate : UserStore.Body}
    (proposed : UserStore.putCandidate state.users.snapshot.body (newRecord crypto input salt)
      = .ok candidate) :
    (putUser crypto ambient state actor input).2 = .ok () := by
  obtain ⟨⟨snapshot, saved⟩, -⟩ :=
    @UserStore.commit_amended _ wellFormed (.put (newRecord crypto input salt)) _ proposed
  have stored : (UserStore.put state.users (newRecord crypto input salt) .done).2
      = .saved snapshot := saved
  rw [putUser, checked, drawn]
  dsimp only
  rw [if_pos derived, done, stored]

/-- A deletion in which nothing fails. -/
theorem deleteUser_done {ambient : Ambient} (done : ambient.faults = .done) {state : State}
    (wellFormed : state.users.snapshot.body.WellFormed) {actor : Principal}
    (administrator : isAdministrator actor = true) {username : List UInt8}
    (ordinary : cString username ≠ masterUsername) {index : ℕ}
    (found : state.users.snapshot.body.position (cString username) = some index) :
    (deleteUser ambient state actor username).1.users.snapshot.body.listed
      = state.users.snapshot.body.listed.eraseIdx index := by
  have known : UserStore.find state.users.snapshot.body (cString username) ≠ none := by
    rw [Ne, UserStore.find_eq_none_iff, found]
    nofun
  obtain ⟨⟨snapshot, saved⟩, listed⟩ := UserStore.delete_done wellFormed found
  rw [deleteUser, if_neg (by simp [administrator, ordinary]), if_neg known, done]
  dsimp only
  rw [saved]
  exact listed

end HealthCheckFirmware.AuthService
