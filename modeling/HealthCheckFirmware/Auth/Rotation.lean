import HealthCheckFirmware.Auth.Expiry
import Mathlib.Data.List.Nodup
import Mathlib.Data.List.Pairwise
import Mathlib.Data.List.ReduceOption

/-!
# Rotation and revocation of tokens

A pair of tokens is alive from its issue to the next successful operation on its
account: a login, a refresh, a revocation, or a change or deletion of the account
(`History`). The session table holds exactly the pairs that are alive
(`Recorded.Agrees`). Before the counter wraps, and as long as random values do not
repeat and the digests of issued tokens are distinct, an issued token is therefore
accepted exactly if its pair is alive, it is presented as what it is, and it has not
expired (`rotation_and_revocation`).
-/

set_option autoImplicit false

namespace HealthCheckFirmware.AuthService

variable {crypto : Crypto}

/-! ## Token texts -/

theorem hexDigits_injective : Function.Injective hexDigits.get := by
  intro first second
  revert first second
  decide

/-- A byte is determined by its two digits. -/
theorem hexByte_injective : Function.Injective hexByte := by
  intro first second same
  simp only [hexByte, List.cons.injEq, and_true] at same
  have high := congrArg Fin.val (hexDigits_injective same.1)
  have low := congrArg Fin.val (hexDigits_injective same.2)
  simp only at high low
  rw [← UInt8.toNat_inj]
  omega

theorem hex_injective : Function.Injective hex := by
  intro first second same
  induction first generalizing second with
  | nil =>
      cases second with
      | nil => rfl
      | cons byte rest => cases same
  | cons byte rest ih =>
      cases second with
      | nil => cases same
      | cons other tail =>
          obtain ⟨sameByte, sameRest⟩ := List.append_inj
            (show hexByte byte ++ hex rest = hexByte other ++ hex tail from same) rfl
          rw [hexByte_injective sameByte, ih sameRest]

theorem length_hex (input : List UInt8) : (hex input).length = 2 * input.length := by
  induction input with
  | nil => rfl
  | cons byte rest ih =>
      have split : hex (byte :: rest) = hexByte byte ++ hex rest := rfl
      have two : (hexByte byte).length = 2 := rfl
      rw [split, List.length_append, ih, two, List.length_cons]
      omega

theorem hexDigits_ne_zero (digit : Fin 16) : hexDigits.get digit ≠ 0 := by
  revert digit
  decide

theorem zero_notMem_hex (input : List UInt8) : 0 ∉ hex input := by
  intro member
  obtain ⟨byte, _, isDigit⟩ := List.mem_flatMap.mp member
  simp only [hexByte, List.mem_cons, List.not_mem_nil, or_false] at isDigit
  rcases isDigit with high | low
  · exact hexDigits_ne_zero _ high.symm
  · exact hexDigits_ne_zero _ low.symm

/-- The text of 32 random bytes. -/
def tokenText (bytes : Vector UInt8 tokenBytes) : List UInt8 := hex bytes.toList

theorem tokenText_injective : Function.Injective tokenText := fun _ _ same =>
  Vector.toList_inj.mp (hex_injective same)

/-- A token text is a string of the length that the code expects. -/
theorem cString_tokenText (bytes : Vector UInt8 tokenBytes) :
    cString (tokenText bytes) = tokenText bytes :=
  cString_of_nonzero (zero_notMem_hex _)

theorem length_tokenText (bytes : Vector UInt8 tokenBytes) :
    (tokenText bytes).length = tokenTextSize - 1 := by
  rw [tokenText, length_hex, Vector.length_toList]
  rfl

/-! ## The history of a run -/

/-- The pairs issued so far, and the pair of each account that is alive. -/
structure History where
  issued : List Issue
  live : List UInt8 → Option Issue

namespace History

/-- A new pair takes the place of the one that the account had; a dropped account
has none. -/
def note (history : History) : Change → History
  | .none => history
  | .issued issue =>
      ⟨history.issued ++ [issue], Function.update history.live issue.account (some issue)⟩
  | .dropped account => ⟨history.issued, Function.update history.live account none⟩

/-- All tokens issued so far. -/
def tokens (history : History) : List (List UInt8) :=
  history.issued.flatMap fun issue => [issue.access, issue.refresh]

end History

/-- The state with its history. -/
structure Recorded where
  state : State
  history : History

namespace Recorded

def start (users : UserStore.Ram) : Recorded := ⟨init users, [], fun _ => none⟩

def next (crypto : Crypto) (recorded : Recorded) (call : Call) : Recorded :=
  ⟨(perform crypto recorded.state call).1,
    recorded.history.note (change crypto recorded.state call)⟩

def run (crypto : Crypto) (recorded : Recorded) (calls : List Call) : Recorded :=
  calls.foldl (next crypto) recorded

end Recorded

/-- The random bytes that a call may turn into tokens. -/
def Call.draws (call : Call) : List (Vector UInt8 tokenBytes) :=
  match call.operation with
  | .login _ _ => [call.ambient.random 0, call.ambient.random 1].reduceOption
  | .refresh _ => [call.ambient.random 0, call.ambient.random 1].reduceOption
  | _ => []

/-- The time at which a run has ended. -/
def finish (now : ℕ) (calls : List Call) : ℕ :=
  calls.foldl (fun _ call => call.ambient.clock 1) now

/-- The account that a change is about. -/
def Change.account : Change → Option (List UInt8)
  | .none => Option.none
  | .issued issue => some issue.account
  | .dropped account => some account

/-! ## The table holds the pairs that are alive -/

/-- The active session of an account. -/
def sessionOf (table : Table) (account : List UInt8) : Option Session :=
  SlotTable.lookup Session.active Session.name table account

/-- An account has a session exactly if it has a pair that is alive, and then it is
the session of that pair. -/
structure Recorded.Agrees (crypto : Crypto) (now : ℕ) (recorded : Recorded) : Prop where
  consistent : Consistent recorded.state
  dead : ∀ account, recorded.history.live account = none →
    sessionOf recorded.state.sessions account = none
  alive : ∀ account issue, recorded.history.live account = some issue →
    issue ∈ recorded.history.issued ∧ issue.account = account
      ∧ ∃ role, sessionOf recorded.state.sessions account = some (issue.session crypto role)
  past : ∀ issue ∈ recorded.history.issued, issue.time ≤ now

theorem sessionOf_dropSession {table : Table} (distinct : Distinct table) (account : List UInt8) :
    sessionOf (dropSession table account) = Function.update (sessionOf table) account none := by
  rcases dropSession_cases table account with ⟨same, none⟩ | ⟨index, found, result⟩
  · rw [same]
    exact (Function.update_eq_self_iff.mpr (SlotTable.lookup_eq_none.mpr none).symm).symm
  · rw [result]
    exact SlotTable.lookup_update_free distinct found rfl

/-- Dropping the session of an account together with its pair. -/
theorem Recorded.Agrees.drop {now : ℕ} {recorded : Recorded}
    (agrees : recorded.Agrees crypto now) {account : List UInt8} {state : State}
    (consistent : Consistent state)
    (sessions : sessionOf state.sessions =
      Function.update (sessionOf recorded.state.sessions) account none) :
    Recorded.Agrees crypto now ⟨state, recorded.history.note (.dropped account)⟩ where
  consistent := consistent
  dead other gone := by
    by_cases same : other = account
    · simp [sessions, same]
    · simp only [History.note, Function.update_of_ne same] at gone
      simp only [sessions, Function.update_of_ne same]
      exact agrees.dead other gone
  alive other issue live := by
    by_cases same : other = account
    · simp [History.note, same] at live
    · simp only [History.note, Function.update_of_ne same] at live ⊢
      simp only [sessions, Function.update_of_ne same]
      exact agrees.alive other issue live
  past := agrees.past

/-- Writing the session of a new pair. -/
theorem Recorded.Agrees.issue {now : ℕ} {recorded : Recorded}
    (agrees : recorded.Agrees crypto now) {issue : Issue} {role : UInt8} {state : State}
    (consistent : Consistent state) (recent : issue.time ≤ now)
    (sessions : sessionOf state.sessions = Function.update (sessionOf recorded.state.sessions)
      issue.account (some (issue.session crypto role))) :
    Recorded.Agrees crypto now ⟨state, recorded.history.note (.issued issue)⟩ where
  consistent := consistent
  dead other gone := by
    by_cases same : other = issue.account
    · simp [History.note, same] at gone
    · simp only [History.note, Function.update_of_ne same] at gone
      simp only [sessions, Function.update_of_ne same]
      exact agrees.dead other gone
  alive other pair live := by
    by_cases same : other = issue.account
    · subst same
      simp only [History.note, Function.update_self, Option.some.injEq] at live
      subst live
      exact ⟨List.mem_append_right _ (List.mem_singleton_self _), rfl, role, by simp [sessions]⟩
    · simp only [History.note, Function.update_of_ne same] at live ⊢
      obtain ⟨member, named, rest⟩ := agrees.alive other pair live
      simp only [sessions, Function.update_of_ne same]
      exact ⟨List.mem_append_left _ member, named, rest⟩
  past pair member := by
    rcases List.mem_append.mp member with old | new
    · exact agrees.past pair old
    · rw [List.mem_singleton.mp new]
      exact recent

theorem Recorded.Agrees.step {now : ℕ} {recorded : Recorded}
    (agrees : recorded.Agrees crypto now) {change : Change} {state : State}
    (transition : Transition crypto recorded.state change state)
    (past : ∀ issue, change = .issued issue → issue.time ≤ now) :
    Recorded.Agrees crypto now ⟨state, recorded.history.note change⟩ := by
  have distinct := agrees.consistent.distinct
  have consistent := agrees.consistent.step transition
  cases transition with
  | idle same => exact ⟨consistent, agrees.dead, agrees.alive, agrees.past⟩
  | @issued issue role index entitled found =>
      have named : (issue.session crypto role).name = issue.account :=
        Issue.session_name agrees.consistent.terminated
          (agrees.consistent.backed_of_entitled entitled)
      exact agrees.issue consistent (past issue rfl)
        (SlotTable.lookup_update_used distinct found rfl named)
  | revoked active found =>
      exact agrees.drop consistent (SlotTable.lookup_update_free distinct found rfl)
  | put ordinary terminated proposed stored =>
      exact agrees.drop consistent (sessionOf_dropSession distinct _)
  | deleted ordinary proposed stored =>
      exact agrees.drop consistent (sessionOf_dropSession distinct _)

theorem Recorded.Agrees.later {now later : ℕ} {recorded : Recorded}
    (agrees : recorded.Agrees crypto now) (order : now ≤ later) :
    recorded.Agrees crypto later :=
  ⟨agrees.consistent, agrees.dead, agrees.alive,
    fun issue member => (agrees.past issue member).trans order⟩

theorem Recorded.Agrees.next {now : ℕ} {recorded : Recorded}
    (agrees : recorded.Agrees crypto now) (call : Call) (order : now ≤ call.ambient.clock 0) :
    (recorded.next crypto call).Agrees crypto (call.ambient.clock 1) :=
  (agrees.later (order.trans (call.ambient.forward (Nat.zero_le 1)))).step
    (perform_transition crypto recorded.state call) fun _ issued => change_time issued

/-- **The table holds exactly the pairs that are alive, in every run.** -/
theorem Recorded.Agrees.run {now : ℕ} {recorded : Recorded} (agrees : recorded.Agrees crypto now)
    {calls : List Call} (timed : Timed now calls) :
    (recorded.run crypto calls).Agrees crypto (finish now calls) := by
  induction calls generalizing now recorded with
  | nil => exact agrees
  | cons call rest ih => exact ih (agrees.next call timed.1) timed.2

theorem agrees_start {users : UserStore.Ram} (wellFormed : users.snapshot.body.WellFormed)
    (terminated : users.snapshot.body.Terminated) (now : ℕ) :
    (Recorded.start users).Agrees crypto now where
  consistent := consistent_init wellFormed terminated
  dead account _ := SlotTable.lookup_eq_none.mpr (by simp [Recorded.start, init, Session.zero])
  alive account issue live := by cases live
  past issue member := by cases member

/-! ## Issued tokens are distinct -/

/-- The tokens that a call issues are the texts of its draws. -/
theorem change_tokens {state : State} {call : Call} {issue : Issue}
    (issued : change crypto state call = .issued issue) :
    [issue.access, issue.refresh] = call.draws.map tokenText := by
  obtain ⟨operation, ambient⟩ := call
  cases operation with
  | login username password =>
      rcases login_cases crypto ambient state username password with
        ⟨failure, result⟩ | ⟨role, pair, index, drawn, _, _, result⟩
      · simp [change, perform, result, reply] at issued
      · simp only [change, perform, result, reply, Change.issued.injEq] at issued
        obtain ⟨access, refresh, first, second, isAccess, isRefresh⟩ := drawn
        subst issued
        simp [Call.draws, first, second, isAccess, isRefresh, tokenText]
  | refresh token =>
      rcases refresh_cases crypto ambient state.sessions token with
        ⟨failure, result⟩ | ⟨holder, pair, index, drawn, held, _, _, result⟩
      · simp [change, perform, result, reply] at issued
      · simp only [change, perform, result, reply, held, Change.issued.injEq] at issued
        obtain ⟨access, refresh, first, second, isAccess, isRefresh⟩ := drawn
        subst issued
        simp [Call.draws, first, second, isAccess, isRefresh, tokenText]
  | authorize token => simp [change] at issued
  | revoke token =>
      rcases revoke_cases crypto ambient state.sessions token with
        ⟨failure, result⟩ | ⟨holder, index, accepted, _, _, result⟩
      · simp [change, perform, result, reply] at issued
      · simp [change, perform, result, reply, accepted] at issued
  | putUser actor input =>
      rcases putUser_cases crypto ambient state actor input with ⟨failure, users, _, result⟩ |
        ⟨users, record, candidate, _, _, _, _, _, result⟩ <;>
        simp [change, perform, result, reply] at issued
  | deleteUser actor username =>
      rcases deleteUser_cases ambient state actor username with ⟨failure, users, _, result⟩ |
        ⟨users, candidate, _, _, _, result⟩ <;>
        simp [change, perform, result, reply] at issued

/-- The tokens issued in a run are texts of its draws. -/
theorem tokens_sublist (crypto : Crypto) (recorded : Recorded) (calls : List Call) :
    ∃ drawn : List (Vector UInt8 tokenBytes), drawn.Sublist (calls.flatMap Call.draws)
      ∧ (recorded.run crypto calls).history.tokens =
        recorded.history.tokens ++ drawn.map tokenText := by
  induction calls generalizing recorded with
  | nil => exact ⟨[], List.Sublist.refl _, (List.append_nil _).symm⟩
  | cons call rest ih =>
      obtain ⟨drawn, sublist, tokens⟩ := ih (recorded.next crypto call)
      cases noted : change crypto recorded.state call with
      | issued issue =>
          refine ⟨call.draws ++ drawn, (List.Sublist.refl _).append sublist, tokens.trans ?_⟩
          have added : (recorded.next crypto call).history.tokens =
              recorded.history.tokens ++ call.draws.map tokenText := by
            simp [Recorded.next, noted, History.note, History.tokens, ← change_tokens noted]
          rw [added, List.map_append, List.append_assoc]
      | none =>
          refine ⟨drawn, sublist.trans (List.sublist_append_right _ _), tokens.trans ?_⟩
          simp [Recorded.next, noted, History.note]
      | dropped account =>
          refine ⟨drawn, sublist.trans (List.sublist_append_right _ _), tokens.trans ?_⟩
          simp [Recorded.next, noted, History.note, History.tokens]

/-- If random values do not repeat, no two issued tokens are the same, and each is
the text of random bytes. -/
theorem tokens_nodup {calls : List Call} (fresh : (calls.flatMap Call.draws).Nodup)
    (crypto : Crypto) (users : UserStore.Ram) :
    ((Recorded.start users).run crypto calls).history.tokens.Nodup
      ∧ ∀ token ∈ ((Recorded.start users).run crypto calls).history.tokens,
        ∃ bytes, token = tokenText bytes := by
  obtain ⟨drawn, sublist, tokens⟩ := tokens_sublist crypto (Recorded.start users) calls
  have noEarlier : (Recorded.start users).history.tokens = [] := rfl
  rw [noEarlier, List.nil_append] at tokens
  rw [tokens]
  refine ⟨(fresh.sublist sublist).map tokenText_injective, fun token member => ?_⟩
  obtain ⟨bytes, _, rfl⟩ := List.mem_map.mp member
  exact ⟨bytes, rfl⟩

/-- An issue is determined by either of its tokens, and no access token is a refresh
token. -/
theorem issues_apart {issued : List Issue}
    (nodup : (issued.flatMap fun issue => [issue.access, issue.refresh]).Nodup)
    {first second : Issue} (isFirst : first ∈ issued) (isSecond : second ∈ issued) :
    (first.access = second.access → first = second)
      ∧ (first.refresh = second.refresh → first = second) ∧ first.access ≠ second.refresh := by
  obtain ⟨within, between⟩ := List.nodup_flatMap.mp nodup
  have symmetric : Std.Symm
      (Function.onFun List.Disjoint fun issue : Issue => [issue.access, issue.refresh]) :=
    ⟨fun _ _ apart => apart.symm⟩
  have disjoint : first ≠ second →
      List.Disjoint [first.access, first.refresh] [second.access, second.refresh] :=
    between.forall isFirst isSecond
  refine ⟨fun same => ?_, fun same => ?_, fun same => ?_⟩
  · by_contra ne
    exact disjoint ne (a := first.access) (by simp) (by simp [same])
  · by_contra ne
    exact disjoint ne (a := first.refresh) (by simp) (by simp [same])
  · by_cases equal : first = second
    · subst equal
      simpa [same] using within first isFirst
    · exact disjoint equal (a := first.access) (by simp) (by simp [same])

/-! ## Which tokens are accepted -/

/-- The pair is alive and its token of the given kind has not expired. -/
def Recorded.Alive (recorded : Recorded) (kind : TokenKind) (issue : Issue) (now : ℕ) : Prop :=
  recorded.history.live issue.account = some issue ∧ now - issue.time ≤ kind.lifetime

/-- What becomes of the tokens of an issue in a call: they are accepted only while
their pair is alive and they have not expired, then they are accepted unless the
hash or the random generator fails, and neither is accepted as the other. -/
structure TokenLaw (crypto : Crypto) (recorded : Recorded) (ambient : Ambient) (issue : Issue) :
    Prop where
  access_alive : Accepts crypto recorded.state ⟨.authorize issue.access, ambient⟩ →
    recorded.Alive accessKind issue (ambient.clock 0)
  access_accepted : ambient.Undisturbed → recorded.Alive accessKind issue (ambient.clock 0) →
    Accepts crypto recorded.state ⟨.authorize issue.access, ambient⟩
  refresh_alive : Accepts crypto recorded.state ⟨.refresh issue.refresh, ambient⟩ →
    recorded.Alive refreshKind issue (ambient.clock 0)
  refresh_accepted : ambient.Undisturbed → recorded.Alive refreshKind issue (ambient.clock 0) →
    Accepts crypto recorded.state ⟨.refresh issue.refresh, ambient⟩
  access_not_refresh : ¬ Accepts crypto recorded.state ⟨.refresh issue.access, ambient⟩
  refresh_not_access : ¬ Accepts crypto recorded.state ⟨.authorize issue.refresh, ambient⟩

/-- Distinct issued tokens have distinct digests. -/
def History.Collisionless (history : History) (crypto : Crypto) : Prop :=
  ∀ first ∈ history.tokens, ∀ second ∈ history.tokens,
    crypto.sha256 first = crypto.sha256 second → first = second

theorem History.tokenOf_mem {history : History} {kind : TokenKind}
    (standard : kind = accessKind ∨ kind = refreshKind) {issue : Issue}
    (member : issue ∈ history.issued) : kind.tokenOf issue ∈ history.tokens := by
  refine List.mem_flatMap.mpr ⟨issue, member, ?_⟩
  rcases standard with rfl | rfl
  · exact List.mem_cons_self
  · exact List.mem_cons_of_mem _ List.mem_cons_self

/-- Before the counter wraps the code measures the real age. -/
theorem age_iff_of_lt {kind : TokenKind} {issue : Issue} {ambient : Ambient}
    (past : issue.time ≤ ambient.clock 0) (unwrapped : ambient.clock 0 < 2 ^ 32) :
    ambient.uptimeMs 0 - UInt32.ofNat issue.time ≤ kind.lifetimeSec * 1000 ↔
      ambient.clock 0 - issue.time ≤ kind.lifetime := by
  rw [age_iff past, Nat.mod_eq_of_lt (by omega)]

section Acceptance

variable {now : ℕ} {recorded : Recorded} {kind : TokenKind} {ambient : Ambient}

/-- An issued token that is found is that of a pair that is alive. -/
theorem Recorded.Agrees.alive_of_find (agrees : recorded.Agrees crypto now)
    (standard : kind = accessKind ∨ kind = refreshKind) (order : now ≤ ambient.clock 0)
    (unwrapped : ambient.clock 0 < 2 ^ 32) (collisionless : recorded.history.Collisionless crypto)
    {bytes : Vector UInt8 tokenBytes} (issued : tokenText bytes ∈ recorded.history.tokens)
    {index : Fin sessionCount}
    (found : kind.find crypto ambient recorded.state.sessions (tokenText bytes) = some index) :
    ∃ issue ∈ recorded.history.issued, kind.tokenOf issue = tokenText bytes
      ∧ recorded.Alive kind issue (ambient.clock 0) := by
  obtain ⟨active, young, same⟩ := matching_some found
  have held := SlotTable.lookup_self agrees.consistent.distinct active
  cases live : recorded.history.live (recorded.state.sessions index).name with
  | none => exact absurd ((agrees.dead _ live).symm.trans held) nofun
  | some issue =>
      obtain ⟨member, named, role, session⟩ := agrees.alive _ issue live
      have written : recorded.state.sessions index = issue.session crypto role :=
        Option.some.inj (held.symm.trans session)
      rw [written] at young same
      have fields := TokenKind.session_fields standard crypto issue role
      rw [fields.1, age_iff_of_lt ((agrees.past issue member).trans order) unwrapped] at young
      rw [fields.2, cString_tokenText] at same
      exact ⟨issue, member, (collisionless _ issued _ (History.tokenOf_mem standard member)
        same).symm, named ▸ live, young⟩

/-- The token of a pair that is alive is found. -/
theorem Recorded.Agrees.find_of_alive (agrees : recorded.Agrees crypto now)
    (standard : kind = accessKind ∨ kind = refreshKind) (order : now ≤ ambient.clock 0)
    (unwrapped : ambient.clock 0 < 2 ^ 32) {issue : Issue} {bytes : Vector UInt8 tokenBytes}
    (text : kind.tokenOf issue = tokenText bytes)
    (alive : recorded.Alive kind issue (ambient.clock 0)) :
    ∃ index, kind.find crypto ambient recorded.state.sessions (tokenText bytes) = some index := by
  obtain ⟨member, _, role, session⟩ := agrees.alive _ issue alive.1
  obtain ⟨index, written, active, _⟩ :=
    (SlotTable.lookup_eq_some agrees.consistent.distinct).mp session
  have fields := TokenKind.session_fields standard crypto issue role
  rw [← written] at active fields
  have young : ambient.uptimeMs 0 - kind.issuedAt (recorded.state.sessions index) ≤
      kind.lifetimeSec * 1000 := by
    rw [fields.1, age_iff_of_lt ((agrees.past issue member).trans order) unwrapped]
    exact alive.2
  refine matching_isSome active young ?_
  rw [fields.2, text, cString_tokenText]

/-- An issued token that is accepted is that of a pair that is alive. -/
theorem Recorded.Agrees.alive_of_accepts (agrees : recorded.Agrees crypto now)
    (order : now ≤ ambient.clock 0) (unwrapped : ambient.clock 0 < 2 ^ 32)
    (texts : ∀ token ∈ recorded.history.tokens, ∃ bytes, token = tokenText bytes)
    (collisionless : recorded.history.Collisionless crypto) {operation : Operation}
    {token : List UInt8} (issued : token ∈ recorded.history.tokens)
    (presents : operation.token = some (kind, token))
    (accepts : Accepts crypto recorded.state ⟨operation, ambient⟩) :
    ∃ issue ∈ recorded.history.issued, kind.tokenOf issue = token
      ∧ recorded.Alive kind issue (ambient.clock 0) := by
  obtain ⟨bytes, rfl⟩ := texts token issued
  obtain ⟨index, found⟩ := find_of_accepts presents accepts
  exact agrees.alive_of_find (Operation.token_kind presents) order unwrapped collisionless issued
    found

/-- The token of a pair that is alive is accepted, unless something fails. -/
theorem Recorded.Agrees.accepts_of_alive (agrees : recorded.Agrees crypto now)
    (order : now ≤ ambient.clock 0) (unwrapped : ambient.clock 0 < 2 ^ 32)
    (texts : ∀ token ∈ recorded.history.tokens, ∃ bytes, token = tokenText bytes)
    {issue : Issue} (member : issue ∈ recorded.history.issued) {operation : Operation}
    (presents : operation.token = some (kind, kind.tokenOf issue))
    (undisturbed : ambient.Undisturbed) (alive : recorded.Alive kind issue (ambient.clock 0)) :
    Accepts crypto recorded.state ⟨operation, ambient⟩ := by
  have standard := Operation.token_kind presents
  obtain ⟨bytes, text⟩ := texts _ (History.tokenOf_mem standard member)
  obtain ⟨index, found⟩ := agrees.find_of_alive standard order unwrapped text alive
  rw [text] at presents
  refine accepts_of_find presents found ?_ undisturbed
  rw [cString_tokenText, length_tokenText]

/-- **The tokens of an issue in a run in which random values do not repeat.** -/
theorem Recorded.Agrees.tokenLaw (agrees : recorded.Agrees crypto now)
    (order : now ≤ ambient.clock 0) (unwrapped : ambient.clock 0 < 2 ^ 32)
    (nodup : recorded.history.tokens.Nodup)
    (texts : ∀ token ∈ recorded.history.tokens, ∃ bytes, token = tokenText bytes)
    (collisionless : recorded.history.Collisionless crypto) {issue : Issue}
    (member : issue ∈ recorded.history.issued) : TokenLaw crypto recorded ambient issue := by
  have isAccess : issue.access ∈ recorded.history.tokens :=
    History.tokenOf_mem (.inl rfl : accessKind = _ ∨ _) member
  have isRefresh : issue.refresh ∈ recorded.history.tokens :=
    History.tokenOf_mem (.inr rfl : refreshKind = _ ∨ _) member
  refine ⟨fun accepts => ?_, fun undisturbed alive => ?_, fun accepts => ?_,
    fun undisturbed alive => ?_, fun accepts => ?_, fun accepts => ?_⟩
  · obtain ⟨other, isOther, same, alive⟩ :=
      agrees.alive_of_accepts order unwrapped texts collisionless isAccess rfl accepts
    rwa [(issues_apart nodup isOther member).1 same] at alive
  · exact agrees.accepts_of_alive order unwrapped texts member rfl undisturbed alive
  · obtain ⟨other, isOther, same, alive⟩ :=
      agrees.alive_of_accepts order unwrapped texts collisionless isRefresh rfl accepts
    rwa [(issues_apart nodup isOther member).2.1 same] at alive
  · exact agrees.accepts_of_alive order unwrapped texts member rfl undisturbed alive
  · obtain ⟨other, isOther, same, _⟩ :=
      agrees.alive_of_accepts order unwrapped texts collisionless isAccess rfl accepts
    exact (issues_apart nodup member isOther).2.2 same.symm
  · obtain ⟨other, isOther, same, _⟩ :=
      agrees.alive_of_accepts order unwrapped texts collisionless isRefresh rfl accepts
    exact (issues_apart nodup isOther member).2.2 same

end Acceptance

/-! ## What a call leaves alone -/

/-- A call that fails leaves the whole table, and one that succeeds leaves the
sessions of all accounts but its own. -/
structure LeavesOthers (crypto : Crypto) (state : State) (call : Call) : Prop where
  failed : ∀ failure, (perform crypto state call).2 = .failed failure →
    (perform crypto state call).1.sessions = state.sessions
  others : ∀ account, (change crypto state call).account ≠ some account → ∀ index,
    ((state.sessions index).active = true ∧ (state.sessions index).name = account
        ∨ ((perform crypto state call).1.sessions index).active = true
          ∧ ((perform crypto state call).1.sessions index).name = account) →
      (perform crypto state call).1.sessions index = state.sessions index

/-- A call that fails makes no change. -/
theorem change_failed {state : State} {call : Call} {failure : Failure}
    (failed : (perform crypto state call).2 = .failed failure) :
    change crypto state call = .none := by
  unfold change
  rw [failed]
  cases call.operation <;> rfl

theorem Transition.sessions_none {state next : State} {change : Change}
    (transition : Transition crypto state change next) (same : change = .none) :
    next.sessions = state.sessions := by
  cases transition with
  | idle _ => rfl
  | issued _ _ => cases same
  | revoked _ _ => cases same
  | put _ _ _ _ => cases same
  | deleted _ _ _ => cases same

/-- The session of another account is left where it is. -/
theorem update_others {table : Table} {account other : List UInt8} {index place : Fin sessionCount}
    {session : Session} (found : findSession table account = some index)
    (own : session.active = true → session.name = account) (apart : other ≠ account)
    (concerned : (table place).active = true ∧ (table place).name = other
      ∨ (Function.update table index session place).active = true
        ∧ (Function.update table index session place).name = other) :
    Function.update table index session place = table place :=
  SlotTable.update_apart found own apart concerned

theorem dropSession_others {table : Table} {account other : List UInt8} {place : Fin sessionCount}
    (apart : other ≠ account)
    (concerned : (table place).active = true ∧ (table place).name = other
      ∨ (dropSession table account place).active = true
        ∧ (dropSession table account place).name = other) :
    dropSession table account place = table place := by
  rcases dropSession_cases table account with ⟨same, _⟩ | ⟨index, found, result⟩
  · rw [same]
  · rw [result] at concerned ⊢
    exact update_others found (by simp [Session.zero]) apart concerned

theorem Transition.others {state next : State} {change : Change} (consistent : Consistent state)
    (transition : Transition crypto state change next) {account : List UInt8}
    (other : change.account ≠ some account) {index : Fin sessionCount}
    (concerned : (state.sessions index).active = true ∧ (state.sessions index).name = account
      ∨ (next.sessions index).active = true ∧ (next.sessions index).name = account) :
    next.sessions index = state.sessions index := by
  have apart : ∀ own, change.account = some own → account ≠ own := by
    rintro own isOwn rfl
    exact other isOwn
  cases transition with
  | idle _ => rfl
  | @issued issue role _ entitled found =>
      have named : (issue.session crypto role).name = issue.account :=
        Issue.session_name consistent.terminated (consistent.backed_of_entitled entitled)
      exact update_others found (fun _ => named) (apart _ rfl) concerned
  | revoked _ found => exact update_others found (by simp [Session.zero]) (apart _ rfl) concerned
  | put _ _ _ _ => exact dropSession_others (apart _ rfl) concerned
  | deleted _ _ _ => exact dropSession_others (apart _ rfl) concerned

theorem Consistent.leavesOthers {state : State} (consistent : Consistent state) (crypto : Crypto)
    (call : Call) : LeavesOthers crypto state call where
  failed _ failed :=
    (perform_transition crypto state call).sessions_none (change_failed failed)
  others _ other _ concerned :=
    (perform_transition crypto state call).others consistent other concerned

/-! ## The pair of an account after its last operation -/

/-- No call of the run changes anything for the account. -/
def Untouched (crypto : Crypto) (account : List UInt8) : Recorded → List Call → Prop
  | _, [] => True
  | recorded, call :: rest => (change crypto recorded.state call).account ≠ some account
      ∧ Untouched crypto account (recorded.next crypto call) rest

theorem live_next {recorded : Recorded} {call : Call} {account : List UInt8}
    (other : (change crypto recorded.state call).account ≠ some account) :
    (recorded.next crypto call).history.live account = recorded.history.live account := by
  unfold Recorded.next
  cases noted : change crypto recorded.state call with
  | none => rfl
  | issued issue =>
      rw [noted] at other
      exact Function.update_of_ne (fun same => other (congrArg some same.symm)) _ _
  | dropped own =>
      rw [noted] at other
      exact Function.update_of_ne (fun same => other (congrArg some same.symm)) _ _

theorem Untouched.live_run {account : List UInt8} {recorded : Recorded} {calls : List Call}
    (untouched : Untouched crypto account recorded calls) :
    (recorded.run crypto calls).history.live account = recorded.history.live account := by
  induction calls generalizing recorded with
  | nil => rfl
  | cons call rest ih => exact (ih untouched.2).trans (live_next untouched.1)

/-- The pairs issued in a run come behind those issued before it. -/
theorem issued_run (crypto : Crypto) (recorded : Recorded) (calls : List Call) :
    ∃ later, (recorded.run crypto calls).history.issued = recorded.history.issued ++ later := by
  induction calls generalizing recorded with
  | nil => exact ⟨[], (List.append_nil _).symm⟩
  | cons call rest ih =>
      obtain ⟨later, issued⟩ := ih (recorded.next crypto call)
      cases noted : change crypto recorded.state call with
      | none => exact ⟨later, issued.trans (by simp [Recorded.next, noted, History.note])⟩
      | issued issue =>
          exact ⟨issue :: later, issued.trans (by simp [Recorded.next, noted, History.note])⟩
      | dropped account =>
          exact ⟨later, issued.trans (by simp [Recorded.next, noted, History.note])⟩

theorem run_append (crypto : Crypto) (recorded : Recorded) (before : List Call) (call : Call)
    (after : List Call) :
    recorded.run crypto (before ++ call :: after) =
      ((recorded.run crypto before).next crypto call).run crypto after := by
  simp [Recorded.run]

theorem state_run (crypto : Crypto) (recorded : Recorded) (calls : List Call) :
    (recorded.run crypto calls).state = run crypto recorded.state calls := by
  induction calls generalizing recorded with
  | nil => rfl
  | cons call rest ih => exact ih (recorded.next crypto call)

/-! ## The result -/

/-- Neither token of the issue is accepted as an access or as a refresh token. -/
def Stale (crypto : Crypto) (state : State) (ambient : Ambient) (issue : Issue) : Prop :=
  ∀ token ∈ [issue.access, issue.refresh],
    ¬ Accepts crypto state ⟨.authorize token, ambient⟩
      ∧ ¬ Accepts crypto state ⟨.refresh token, ambient⟩

/-- Each token of the issue is accepted as what it is exactly within its lifetime,
unless the hash or the random generator fails, and not as the other. -/
structure Valid (crypto : Crypto) (state : State) (ambient : Ambient) (issue : Issue) : Prop where
  access_in_time : Accepts crypto state ⟨.authorize issue.access, ambient⟩ →
    ambient.clock 0 - issue.time ≤ accessKind.lifetime
  access_accepted : ambient.Undisturbed →
    ambient.clock 0 - issue.time ≤ accessKind.lifetime →
      Accepts crypto state ⟨.authorize issue.access, ambient⟩
  refresh_in_time : Accepts crypto state ⟨.refresh issue.refresh, ambient⟩ →
    ambient.clock 0 - issue.time ≤ refreshKind.lifetime
  refresh_accepted : ambient.Undisturbed →
    ambient.clock 0 - issue.time ≤ refreshKind.lifetime →
      Accepts crypto state ⟨.refresh issue.refresh, ambient⟩
  access_not_refresh : ¬ Accepts crypto state ⟨.refresh issue.access, ambient⟩
  refresh_not_access : ¬ Accepts crypto state ⟨.authorize issue.refresh, ambient⟩

theorem TokenLaw.stale {recorded : Recorded} {ambient : Ambient} {issue : Issue}
    (law : TokenLaw crypto recorded ambient issue)
    (dead : recorded.history.live issue.account ≠ some issue) :
    Stale crypto recorded.state ambient issue := by
  intro token member
  rcases List.mem_pair.mp member with rfl | rfl
  · exact ⟨fun accepts => dead (law.access_alive accepts).1, law.access_not_refresh⟩
  · exact ⟨law.refresh_not_access, fun accepts => dead (law.refresh_alive accepts).1⟩

theorem TokenLaw.valid {recorded : Recorded} {ambient : Ambient} {issue : Issue}
    (law : TokenLaw crypto recorded ambient issue)
    (live : recorded.history.live issue.account = some issue) :
    Valid crypto recorded.state ambient issue where
  access_in_time accepts := (law.access_alive accepts).2
  access_accepted undisturbed young := law.access_accepted undisturbed ⟨live, young⟩
  refresh_in_time accepts := (law.refresh_alive accepts).2
  refresh_accepted undisturbed young := law.refresh_accepted undisturbed ⟨live, young⟩
  access_not_refresh := law.access_not_refresh
  refresh_not_access := law.refresh_not_access

/-- The tokens of the run are fresh: no random value is drawn twice, and the digests
of the issued tokens are distinct. -/
structure FreshTokens (crypto : Crypto) (users : UserStore.Ram) (calls : List Call) : Prop where
  draws_nodup : (calls.flatMap Call.draws).Nodup
  collisionless : ((Recorded.start users).run crypto calls).history.Collisionless crypto

/-- A pair issued before another is not that other pair. -/
theorem live_ne_of_earlier {recorded : Recorded} {earlier later : List Issue} {issue newer : Issue}
    (nodup : recorded.history.tokens.Nodup)
    (issued : recorded.history.issued = earlier ++ newer :: later) (member : issue ∈ earlier) :
    issue ≠ newer := by
  rintro rfl
  have repeated : recorded.history.issued.flatMap (fun issue => [issue.access, issue.refresh]) =
      _ := congrArg _ issued
  rw [History.tokens, repeated, List.flatMap_append, List.flatMap_cons] at nodup
  refine (List.nodup_append.mp nodup).2.2 issue.access ?_ issue.access ?_ rfl
  · exact List.mem_flatMap.mpr ⟨issue, member, List.mem_cons_self⟩
  · exact List.mem_append_left _ List.mem_cons_self

/-- The tokens of an account after the last operation on it. -/
theorem tokens_after_operation {earlier : Recorded} {call : Call} {after : List Call}
    {account : List UInt8} {ambient : Ambient}
    (operated : (change crypto earlier.state call).account = some account)
    (untouched : Untouched crypto account (earlier.next crypto call) after)
    (nodup : ((earlier.next crypto call).run crypto after).history.tokens.Nodup)
    (law : ∀ issue ∈ ((earlier.next crypto call).run crypto after).history.issued,
      TokenLaw crypto ((earlier.next crypto call).run crypto after) ambient issue) :
    (∀ issue ∈ earlier.history.issued, issue.account = account →
        Stale crypto ((earlier.next crypto call).run crypto after).state ambient issue)
      ∧ ∀ issue, change crypto earlier.state call = .issued issue →
        Valid crypto ((earlier.next crypto call).run crypto after).state ambient issue := by
  obtain ⟨later, issued⟩ := issued_run crypto (earlier.next crypto call) after
  have live := untouched.live_run
  cases noted : change crypto earlier.state call with
  | none =>
      rw [noted] at operated
      cases operated
  | issued newer =>
      rw [noted] at operated
      obtain rfl : newer.account = account := Option.some.inj operated
      have added : (earlier.next crypto call).history = earlier.history.note (.issued newer) := by
        simp [Recorded.next, noted]
      simp only [added, History.note, List.append_assoc, List.singleton_append] at issued
      simp only [added, History.note, Function.update_self] at live
      refine ⟨fun issue member own => ?_, fun issue same => ?_⟩
      · refine (law issue (issued ▸ List.mem_append_left _ member)).stale fun alive => ?_
        rw [own, live] at alive
        exact live_ne_of_earlier nodup issued member (Option.some.inj alive).symm
      · cases same
        exact (law newer (issued ▸ List.mem_append_right _ List.mem_cons_self)).valid live
  | dropped own =>
      rw [noted] at operated
      obtain rfl : own = account := Option.some.inj operated
      have kept : (earlier.next crypto call).history = earlier.history.note (.dropped own) := by
        simp [Recorded.next, noted]
      simp only [kept, History.note] at issued
      simp only [kept, History.note, Function.update_self] at live
      refine ⟨fun issue member isOwn => ?_, nofun⟩
      refine (law issue (issued ▸ List.mem_append_left _ member)).stale fun alive => ?_
      rw [isOwn, live] at alive
      cases alive

/-- **Rotation and revocation.** In every run from a start-up from a store whose names
are terminated, a call that fails leaves the session table, and one that succeeds
leaves the sessions of all other accounts. Suppose that a call of the run succeeds in
changing something for an account (a login, a refresh, a revocation, or a change or
deletion of the account) and that no later one does. If the tokens of the run are
fresh and the counter has not wrapped, then no token issued to the account before is
accepted, and the tokens that the call has issued, if any, are accepted within their
lifetimes, each as what it is. -/
theorem rotation_and_revocation (crypto : Crypto) (banks : TwoBank.Banks Sector)
    (boot : BootFaults SectorFaults) (before : List Call)
    (terminated : (UserStore.init banks boot).1.snapshot.body.Terminated) :
    let users := (UserStore.init banks boot).1
    let earlier := (Recorded.start users).run crypto before
    (∀ call, LeavesOthers crypto earlier.state call)
      ∧ ∀ start call after account, Timed start (before ++ call :: after) →
        FreshTokens crypto users (before ++ call :: after) →
        (change crypto earlier.state call).account = some account →
        Untouched crypto account (earlier.next crypto call) after →
        ∀ ambient : Ambient, finish start (before ++ call :: after) ≤ ambient.clock 0 →
          ambient.clock 0 < 2 ^ 32 →
            let state := ((earlier.next crypto call).run crypto after).state
            (∀ issue ∈ earlier.history.issued, issue.account = account →
                Stale crypto state ambient issue)
              ∧ ∀ issue, change crypto earlier.state call = .issued issue →
                Valid crypto state ambient issue := by
  intro users earlier
  have wellFormed := UserStore.init_wellFormed banks boot
  refine ⟨fun call => ?_, ?_⟩
  · have consistent : Consistent earlier.state :=
      state_run crypto (Recorded.start users) before ▸
        (consistent_init wellFormed terminated).run crypto before
    exact consistent.leavesOthers crypto call
  intro start call after account timed fresh operated untouched ambient order unwrapped
  have agrees : Recorded.Agrees crypto _ _ :=
    (agrees_start wellFormed terminated start).run timed
  obtain ⟨nodup, texts⟩ := tokens_nodup fresh.draws_nodup crypto users
  have collisionless := fresh.collisionless
  rw [run_append] at agrees nodup texts collisionless
  exact tokens_after_operation operated untouched nodup fun issue member =>
    agrees.tokenLaw order unwrapped nodup texts collisionless member

/-- The pair issued by `masterLogin time byte`. -/
def masterIssue (time : ℕ) (byte : UInt8) : Issue where
  account := masterUsername
  access := tokenText (.replicate tokenBytes byte)
  refresh := tokenText (.replicate tokenBytes (byte + 1))
  time := time

/-- After a second login of the master the first pair is stale and the second is
valid. -/
theorem second_login_rotates :
    let state := ((Recorded.start noAccounts.users).run sampleCrypto
      [masterLogin 0 1, masterLogin 1000 3]).state
    Stale sampleCrypto state (sampleAmbient 2000 9) (masterIssue 0 1)
      ∧ Valid sampleCrypto state (sampleAmbient 2000 9) (masterIssue 1000 3) := by
  have empty : (UserStore.init ⟨[], []⟩ ⟨fun _ => true, .done⟩).1.snapshot.body.Terminated := by
    unfold UserStore.Body.Terminated
    decide
  have fresh : FreshTokens sampleCrypto noAccounts.users [masterLogin 0 1, masterLogin 1000 3] :=
    ⟨by decide, by unfold History.Collisionless; decide⟩
  have first : ((Recorded.start noAccounts.users).run sampleCrypto
      [masterLogin 0 1]).history.issued = [masterIssue 0 1] := by decide
  have second : change sampleCrypto ((Recorded.start noAccounts.users).run sampleCrypto
      [masterLogin 0 1]).state (masterLogin 1000 3) = .issued (masterIssue 1000 3) := by
    decide
  obtain ⟨stale, valid⟩ := (rotation_and_revocation sampleCrypto _ _ [masterLogin 0 1] empty).2
    0 (masterLogin 1000 3) [] masterUsername ⟨Nat.le_refl 0, Nat.zero_le _, trivial⟩ fresh
    (congrArg Change.account second) trivial (sampleAmbient 2000 9) (by decide) (by decide)
  exact ⟨stale _ (first ▸ List.mem_singleton_self _) rfl, valid _ second⟩

end HealthCheckFirmware.AuthService
