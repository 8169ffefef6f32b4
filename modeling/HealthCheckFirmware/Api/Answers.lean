import HealthCheckFirmware.Api.AccessControl
import HealthCheckFirmware.Api.Listings
import HealthCheckFirmware.Auth.Rotation

/-!
# Every request is answered

`apiService_Respond` sends nothing when a response does not fit its buffer, and a text that
`snprintf` cuts off is no longer JSON. Neither happens: for each handler, whatever the
request and however its calls end, the answer is sent and its body is a JSON document
(`dispatch_isDocument`). What this rests on is that the strings in the stores are plain
(`Device.Readable`).
-/

set_option autoImplicit false

namespace HealthCheckFirmware.ApiService

/-- The constants of the build are short and plain, and the library has a `gmtime_r`. -/
structure Library.WellBuilt (library : Library) : Prop where
  version : IsText library.version
  buildDate : IsText library.buildDate
  short : library.version.length + library.buildDate.length ≤ 100
  gmtime : StandardGmtime library.gmtime

/-- The strings in the stores can be shown. -/
structure Device.Readable (device : Device) : Prop where
  users : ∀ record ∈ device.auth.users.snapshot.body.listed, IsText record.name
  resources : ∀ resource ∈ device.healthCheck.snapshot.body.resources.toList,
    resource.occupied ≠ 0 → Usable resource
  callback : CallbackConfig.configIsValid device.callback.snapshot.body.config = true

section Handlers

variable {library : Library} {environment : Environment} {device : Device}

/-- A request that is refused is answered with its error. -/
theorem refused_isDocument {status : ℕ} {reason code : String}
    (brief : briefError status reason code = true) :
    ((device, error status reason code) : Device × Answer).2.IsDocument :=
  error_isDocument brief

/-! ## Health -/

/-- The text of the overall state. -/
def stateText (healthy : Bool) : List UInt8 := if healthy then ascii "ok" else ascii "failed"

theorem stateText_isText (healthy : Bool) : IsText (stateText healthy) := by
  cases healthy <;> decide

theorem length_stateText_le (healthy : Bool) : (stateText healthy).length ≤ 6 := by
  cases healthy <;> decide

/-- The value of a health report. -/
def healthJson (library : Library) (environment : Environment) (healthy : Bool) : Json :=
  .object [(ascii "status", .string (stateText healthy)),
    (ascii "version", .string library.version), (ascii "build_date", .string library.buildDate),
    (ascii "uptime", .number (environment.uptimeMs / 1000).toNat),
    (ascii "systems", .object [(ascii "api", .bool true),
      (ascii "network", .bool environment.networkReady),
      (ascii "time", .bool environment.timeSynchronized),
      (ascii "flash", .bool environment.flashAvailable)])]

section Report

variable (built : library.WellBuilt) (healthy : Bool)

include built

theorem plain_healthJson : (healthJson library environment healthy).Plain :=
  ⟨by decide, (stateText_isText healthy).printable, by decide, built.version.printable, by decide,
    built.buildDate.printable, by decide, trivial, by decide,
    ⟨by decide, trivial, by decide, trivial, by decide, trivial, by decide, trivial, trivial⟩,
    trivial⟩

theorem healthText_eq :
    ascii "\x7b\"status\":\"" ++ stateText healthy
      ++ ascii "\",\"version\":\"" ++ library.version
      ++ ascii "\",\"build_date\":\"" ++ library.buildDate
      ++ ascii "\",\"uptime\":" ++ decimalText (environment.uptimeMs / 1000).toNat
      ++ ascii ",\"systems\":\x7b\"api\":true,\"network\":" ++ booleanText environment.networkReady
      ++ ascii ",\"time\":" ++ booleanText environment.timeSynchronized
      ++ ascii ",\"flash\":" ++ booleanText environment.flashAvailable ++ ascii "\x7d\x7d"
        = (healthJson library environment healthy).text := by
  simp only [healthJson, Json.text, Json.fieldsText, Json.fieldsTail, Json.quoted,
    signedText_natCast, (stateText_isText healthy).escape_eq, built.version.escape_eq,
    built.buildDate.escape_eq, booleanText, List.append_assoc, List.cons_append]
  rfl

theorem length_healthJson_lt : (healthJson library environment healthy).text.length < 256 := by
  have state := length_stateText_le healthy
  have uptime := length_decimalText_uint32 (environment.uptimeMs / 1000)
  have network := length_booleanText_le environment.networkReady
  have time := length_booleanText_le environment.timeSynchronized
  have flash := length_booleanText_le environment.flashAvailable
  have constants := built.short
  rw [← healthText_eq built]
  simp only [List.length_append]
  change 11 + _ + 13 + _ + 16 + _ + 11 + _ + 33 + _ + 8 + _ + 9 + _ + 2 < 256
  omega

end Report

theorem health_isDocument (built : library.WellBuilt) (headersOnly : Bool) :
    (health library environment headersOnly).IsDocument := by
  unfold health
  dsimp only
  generalize (environment.networkReady && environment.timeSynchronized
    && environment.flashAvailable) = healthy
  have brief : briefStatus (if healthy then 200 else 503)
      (if healthy then "OK" else "Service Unavailable") = true := by
    cases healthy <;> rfl
  have short := @length_healthJson_lt library environment built healthy
  have parsed : (Json.parse (healthJson library environment healthy).text).isSome = true := by
    rw [Json.parse_text (plain_healthJson built healthy), Option.isSome_some]
  rw [← stateText, healthText_eq built, snprintf_of_lt short]
  cases headersOnly with
  | true => exact ⟨_, .inr (respondHeadersOnly_eq brief (by omega)), parsed⟩
  | false => exact ⟨_, .inl (respond_eq brief (by omega)), parsed⟩

/-! ## Sessions -/

theorem hexDigits_isPlain : ∀ digit, IsPlain (AuthService.hexDigits.get digit) := by decide

theorem hex_isText (bytes : List UInt8) : IsText (AuthService.hex bytes) := by
  intro byte isMember
  obtain ⟨source, -, inPair⟩ := List.mem_flatMap.mp isMember
  simp only [AuthService.hexByte, List.mem_cons, List.not_mem_nil, or_false] at inPair
  rcases inPair with rfl | rfl
  · exact hexDigits_isPlain _
  · exact hexDigits_isPlain _

/-- The value of a pair of tokens. -/
def tokensJson (pair : AuthService.TokenPair) : Json :=
  .object [(ascii "token_type", .string (ascii "Bearer")),
    (ascii "access_token", .string pair.accessToken),
    (ascii "expires_in", .number pair.accessExpiresIn.toNat),
    (ascii "refresh_token", .string pair.refreshToken),
    (ascii "refresh_expires_in", .number pair.refreshExpiresIn.toNat)]

theorem tokens_shows {pair : AuthService.TokenPair} {ambient : AuthService.Ambient}
    (drawn : pair.Drawn ambient) : (tokens pair).Shows 200 (tokensJson pair) := by
  obtain ⟨access, refresh, -, -, accessText, refreshText⟩ := drawn
  have accessPlain : IsText pair.accessToken := accessText ▸ hex_isText _
  have refreshPlain : IsText pair.refreshToken := refreshText ▸ hex_isText _
  have accessLength : pair.accessToken.length = 64 := by
    rw [accessText, AuthService.length_hex, Vector.length_toList]
    rfl
  have refreshLength : pair.refreshToken.length = 64 := by
    rw [refreshText, AuthService.length_hex, Vector.length_toList]
    rfl
  have bearer : Json.Printable (ascii "Bearer") := by decide
  have accessExpiry := length_decimalText_uint32 pair.accessExpiresIn
  have refreshExpiry := length_decimalText_uint32 pair.refreshExpiresIn
  refine respond_snprintf_shows (by decide) ⟨by decide, bearer, by decide, accessPlain.printable,
    by decide, trivial, by decide, refreshPlain.printable, by decide, trivial, trivial⟩ ?_ ?_
    (by decide)
  · simp only [tokensJson, Json.text, Json.fieldsText, Json.fieldsTail, Json.quoted,
      signedText_natCast, accessPlain.escape_eq, refreshPlain.escape_eq, List.append_assoc,
      List.cons_append]
    rfl
  · simp only [List.length_append, accessLength, refreshLength]
    change 39 + 64 + 15 + _ + 18 + 64 + 23 + _ + 1 < 384
    omega

theorem token_isDocument (body : List UInt8) :
    (token library environment device body).2.IsDocument := by
  unfold token
  split
  · rename_i username password _ _
    rcases AuthService.login_cases library.crypto environment.acting device.auth username password
      with ⟨failure, failed⟩ | ⟨role, pair, index, drawn, -, -, issued⟩
    · rw [failed]
      exact refused_isDocument (by decide)
    · rw [issued]
      dsimp only
      exact (tokens_shows drawn).isDocument
  · exact refused_isDocument (by decide)

theorem refresh_isDocument (body : List UInt8) :
    (refresh library environment device body).2.IsDocument := by
  unfold refresh
  split
  · exact refused_isDocument (by decide)
  · rename_i text _
    rcases AuthService.refresh_cases library.crypto environment.acting device.auth.sessions text
      with ⟨failure, failed⟩ | ⟨holder, pair, index, drawn, -, -, -, issued⟩
    · rw [failed]
      exact refused_isDocument (by decide)
    · rw [issued]
      dsimp only
      exact (tokens_shows drawn).isDocument

theorem revoke_isDocument (authorization : List UInt8) :
    (revoke library environment device authorization).2.IsDocument := by
  unfold revoke
  dsimp only
  split
  · exact refused_isDocument (by decide)
  · dsimp only
    exact (@respond_shows _ _ _ (.object [(ascii "revoked", .bool true)]) (by decide)
      ⟨by decide, trivial, trivial⟩ rfl (by decide)).isDocument

/-! ## The time -/

theorem rtc_isDocument (built : library.WellBuilt) : (rtc library environment).IsDocument := by
  unfold rtc
  split
  · exact (@respond_shows _ _ _ (.object [(ascii "synchronized", .bool false)]) (by decide)
      ⟨by decide, trivial, trivial⟩ rfl (by decide)).isDocument
  · rename_i unixTime _
    obtain ⟨utc, found, denotes⟩ := built.gmtime unixTime
    have plain : IsText utc.text := fun byte isMember =>
      ⟨fun quote => (utc.text_plain isMember).1 (.inl quote),
        fun backslash => (utc.text_plain isMember).1 (.inr backslash),
        (utc.text_plain isMember).2⟩
    have digits := length_decimalText_uint32 unixTime
    rw [found]
    let value : Json := .object [(ascii "synchronized", .bool true),
      (ascii "unix_time", .number unixTime.toNat), (ascii "utc", .string utc.text)]
    refine (@respond_snprintf_shows _ _ _ value _ (by decide) ⟨by decide, trivial, by decide,
      trivial, by decide, plain.printable, trivial⟩ ?_ ?_ (by decide)).isDocument
    · simp only [value, Json.text, Json.fieldsText, Json.fieldsTail, Json.quoted,
        signedText_natCast, plain.escape_eq, List.append_assoc, List.cons_append]
      rfl
    · simp only [List.length_append, denotes.length_text]
      change 33 + _ + 8 + 20 + 2 < 128
      omega

/-! ## Numbers and flags -/

/-- A short object of numbers and flags, printed into a small buffer. -/
theorem small_isDocument {status size : ℕ} {reason : String} {text : List UInt8} (value : Json)
    (brief : briefStatus status reason = true) (plain : value.Plain) (same : text = value.text)
    (fits : text.length < size) (bound : size ≤ 1860) :
    (respond status reason (snprintf size text)).IsDocument :=
  (respond_snprintf_shows brief plain same fits bound).isDocument

theorem testAlert_isDocument (alert : UInt8 → Alert) (body : List UInt8) :
    (testAlert environment device alert body).2.IsDocument := by
  unfold testAlert
  split
  · exact refused_isDocument (by decide)
  · rename_i index _
    split
    · exact refused_isDocument (by decide)
    split
    · dsimp only
      have number := length_decimalText_uint32 index
      have id := length_decimalText_uint8 (index.toUInt8 + 1)
      refine small_isDocument (.object [(ascii "queued", .bool true),
        (ascii "resource_index", .number index.toNat),
        (ascii "resource_id", .number (index.toUInt8 + 1).toNat)]) (by decide)
        ⟨by decide, trivial, by decide, trivial, by decide, trivial, trivial⟩ ?_ ?_ (by decide)
      · simp only [Json.text, Json.fieldsText, Json.fieldsTail, Json.quoted, signedText_natCast,
          List.append_assoc, List.cons_append]
        rfl
      · simp only [List.length_append]
        change 32 + _ + 15 + _ + 1 < 80
        omega
    · exact refused_isDocument (by decide)

/-! ## Accounts -/

/-- The answer that repeats a name. -/
theorem saved_isDocument {status : ℕ} {reason : String} {username : List UInt8}
    (brief : briefStatus status reason = true) (plain : IsText username)
    (short : username.length ≤ 25) :
    (respond status reason
      (snprintf 96 (ascii "\x7b\"username\":\"" ++ username ++ ascii "\"\x7d"))).IsDocument := by
  refine small_isDocument (.object [(ascii "username", .string username)]) brief
    ⟨by decide, plain.printable, trivial⟩ ?_ ?_ (by decide)
  · simp only [Json.text, Json.fieldsText, Json.fieldsTail, Json.quoted, plain.escape_eq,
      List.append_assoc, List.cons_append]
    rfl
  · simp only [List.length_append]
    change 13 + _ + 2 < 96
    omega

theorem saveUser_isDocument {principal : AuthService.Principal} {body username role : List UInt8}
    {enabled : UInt8} {updating : Bool} (plain : IsText username) (short : username.length ≤ 25) :
    (saveUser library environment device principal body username role enabled
      updating).2.IsDocument := by
  unfold saveUser
  split
  · exact refused_isDocument (by decide)
  · dsimp only
    split
    · exact refused_isDocument (by decide)
    · exact refused_isDocument (by decide)
    · dsimp only
      split
      · exact saved_isDocument (by decide) plain short
      · exact saved_isDocument (by decide) plain short

theorem createUser_isDocument (principal : AuthService.Principal) (body : List UInt8) :
    (createUser library environment device principal body).2.IsDocument := by
  unfold createUser
  split
  · exact refused_isDocument (by decide)
  · rename_i username read
    obtain ⟨fits, plain⟩ := jsonText_some (by decide) read
    exact saveUser_isDocument plain (Nat.le_of_lt fits)

/-- The name of an account that is found is plain. -/
theorem Device.Readable.isText_of_find (readable : device.Readable) {username : List UInt8}
    {record : UserStore.Record}
    (found : UserStore.find device.auth.users.snapshot.body username = some record) :
    IsText username := by
  obtain ⟨listed, name⟩ := UserStore.mem_listed_of_find found
  rw [← name]
  exact readable.users record listed

theorem length_pathUsername_le (suffix : List UInt8) : (pathUsername suffix).length ≤ 25 :=
  Nat.le_trans (List.length_take_le _ _) (by decide)

theorem updateUser_isDocument (readable : device.Readable) (principal : AuthService.Principal)
    (suffix body : List UInt8) :
    (updateUser library environment device principal suffix body).2.IsDocument := by
  unfold updateUser
  split
  · exact refused_isDocument (by decide)
  · rename_i existing found
    exact saveUser_isDocument (readable.isText_of_find found) (length_pathUsername_le suffix)

/-- Only an account that there is gets deleted. -/
theorem deleteUser_ok {ambient : AuthService.Ambient} {state : AuthService.State}
    {actor : AuthService.Principal} {username : List UInt8}
    (deleted : (AuthService.deleteUser ambient state actor username).2 = .ok ()) :
    ∃ record, UserStore.find state.users.snapshot.body (cString username) = some record := by
  unfold AuthService.deleteUser at deleted
  dsimp only at deleted
  split at deleted
  · cases deleted
  split at deleted
  · cases deleted
  · rename_i known
    exact Option.ne_none_iff_exists'.mp known

theorem deleteUser_isDocument (readable : device.Readable) (principal : AuthService.Principal)
    {suffix : List UInt8} (nonzero : 0 ∉ suffix) :
    (deleteUser environment device principal suffix).2.IsDocument := by
  unfold deleteUser
  dsimp only
  split
  · exact refused_isDocument (by decide)
  · exact refused_isDocument (by decide)
  · exact refused_isDocument (by decide)
  · rename_i deleted
    obtain ⟨record, found⟩ := deleteUser_ok deleted
    have whole : cString (pathUsername suffix) = pathUsername suffix :=
      cString_of_nonzero fun isMember => nonzero (List.mem_of_mem_take isMember)
    rw [whole] at found
    have plain := readable.isText_of_find found
    have short : (pathUsername suffix).length ≤ 24 := List.length_take_le _ _
    dsimp only
    refine small_isDocument (.object [(ascii "username", .string (pathUsername suffix)),
      (ascii "deleted", .bool true)]) (by decide)
      ⟨by decide, plain.printable, by decide, trivial, trivial⟩ ?_ ?_ (by decide)
    · simp only [Json.text, Json.fieldsText, Json.fieldsTail, Json.quoted, plain.escape_eq,
        List.append_assoc, List.cons_append]
      rfl
    · simp only [List.length_append]
      change 13 + _ + 17 < 64
      omega

/-! ## Certificates and keys -/

theorem tlsCredentialsRespond_isDocument (status : TlsServerCredentials.Status)
    {awaiting invalidError : String}
    (brief : decide (IsText (ascii awaiting)) && decide ((ascii awaiting).length ≤ 20)
      && briefError 400 "Bad Request" invalidError = true) :
    (tlsCredentialsRespond status awaiting invalidError).IsDocument := by
  simp only [Bool.and_eq_true, decide_eq_true_eq] at brief
  obtain ⟨⟨plain, short⟩, invalid⟩ := brief
  have states : Json.Printable (ascii "activated") ∧ Json.Printable (ascii "pending") := by decide
  unfold tlsCredentialsRespond
  split
  · exact (@respond_shows _ _ _ (.object [(ascii "status", .string (ascii "activated"))])
      (by decide) ⟨by decide, states.1, trivial⟩ rfl (by decide)).isDocument
  · refine small_isDocument (.object [(ascii "status", .string (ascii "pending")),
      (ascii "awaiting", .string (ascii awaiting))]) (by decide)
      ⟨by decide, states.2, by decide, plain.printable, trivial⟩ ?_ ?_ (by decide)
    · simp only [Json.text, Json.fieldsText, Json.fieldsTail, Json.quoted, plain.escape_eq,
        List.append_assoc, List.cons_append]
      rfl
    · simp only [List.length_append]
      change 32 + _ + 2 < 64
      omega
  · exact error_isDocument (by decide)
  · exact error_isDocument invalid
  · exact error_isDocument (by decide)

theorem putCertificate_isDocument (body : List UInt8) :
    (putCertificate library environment device body).2.IsDocument := by
  unfold putCertificate
  split
  · exact refused_isDocument (by decide)
  · exact tlsCredentialsRespond_isDocument _ (by decide)

theorem putPrivateKey_isDocument (body : List UInt8) :
    (putPrivateKey library environment device body).2.IsDocument := by
  unfold putPrivateKey
  split
  · exact refused_isDocument (by decide)
  · exact tlsCredentialsRespond_isDocument _ (by decide)

/-! ## Trust anchors -/

theorem trustStoreError_isDocument (status : TlsTrustStore.Status) :
    (trustStoreError status).IsDocument := by
  cases status <;> exact error_isDocument (by decide)

theorem mutateTrust_isDocument {request : TlsTrustStore.Request} {success : Answer}
    (shown : success.IsDocument) :
    (mutateTrust library environment device request success).2.IsDocument := by
  unfold mutateTrust
  dsimp only
  split
  · exact shown
  · exact trustStoreError_isDocument _

/-- An object with one number and flags behind it. -/
theorem numbered_isDocument {status size number : ℕ} {reason : String}
    {opening closing : List UInt8} (name : String) (flags : List (List UInt8 × Json))
    (brief : briefStatus status reason = true) (opens : opening = 0x7B :: fieldHead name)
    (closes : closing = Json.fieldsTail flags ++ [0x7D]) (printable : Json.Printable (ascii name))
    (plain : Json.PlainFields flags) (digits : (decimalText number).length ≤ 10)
    (fits : opening.length + 10 + closing.length < size) (bound : size ≤ 1860) :
    (respond status reason (snprintf size (opening ++ decimalText number ++ closing))).IsDocument := by
  refine small_isDocument (.object ((ascii name, .number number) :: flags)) brief
    ⟨printable, trivial, plain⟩ ?_ ?_ bound
  · rw [opens, closes]
    simp only [Json.text, Json.fieldsText, fieldHead, signedText_natCast, List.append_assoc,
      List.cons_append, List.nil_append]
  · simp only [List.length_append]
    omega

/-- The number of the first free slot is small. -/
theorem length_assignedId_le (body : TlsTrustStore.CurrentBody) :
    (decimalText (((TlsTrustStore.firstFree body).map (· + 1)).getD 0)).length ≤ 10 := by
  refine length_decimalText_le (Nat.lt_of_lt_of_le (m := 7) ?_ (by decide))
  cases free : TlsTrustStore.firstFree body with
  | none => exact Nat.succ_pos 6
  | some slot =>
      have within := (List.findIdx?_eq_some_iff_getElem.mp free).1
      rw [Vector.length_toList] at within
      exact Nat.succ_lt_succ within

theorem addTrustAnchor_isDocument (body : List UInt8) :
    (addTrustAnchor library environment device body).2.IsDocument :=
  mutateTrust_isDocument (numbered_isDocument "id" [] (by decide) rfl rfl (by decide) trivial
    (length_assignedId_le _) (by decide) (by decide))

theorem resetTrustAnchors_isDocument :
    (resetTrustAnchors library environment device).2.IsDocument := by
  unfold resetTrustAnchors
  split
  · exact refused_isDocument (by decide)
  · refine mutateTrust_isDocument ?_
    exact (@respond_shows _ _ _ (.object [(ascii "reset", .bool true)]) (by decide)
      ⟨by decide, trivial, trivial⟩ rfl (by decide)).isDocument

theorem length_decimalText_byte_le (value : UInt8) : (decimalText value.toNat).length ≤ 10 :=
  Nat.le_trans (length_decimalText_uint8 value) (by decide)

theorem replaceTrustAnchor_isDocument (idText body : List UInt8) :
    (replaceTrustAnchor library environment device idText body).2.IsDocument := by
  unfold replaceTrustAnchor
  split
  · exact refused_isDocument (by decide)
  · exact mutateTrust_isDocument (numbered_isDocument "id" [(ascii "replaced", .bool true)]
      (by decide) rfl rfl (by decide) ⟨by decide, trivial, trivial⟩
      (length_decimalText_byte_le _) (by decide) (by decide))

theorem deleteTrustAnchor_isDocument (idText : List UInt8) :
    (deleteTrustAnchor library environment device idText).2.IsDocument := by
  unfold deleteTrustAnchor
  split
  · exact refused_isDocument (by decide)
  split
  · exact refused_isDocument (by decide)
  · exact mutateTrust_isDocument (numbered_isDocument "id" [(ascii "deleted", .bool true)]
      (by decide) rfl rfl (by decide) ⟨by decide, trivial, trivial⟩
      (length_decimalText_byte_le _) (by decide) (by decide))

/-! ## The callback configuration -/

theorem putCallbackConfig_isDocument (body : List UInt8) :
    (putCallbackConfig environment device body).2.IsDocument := by
  unfold putCallbackConfig
  dsimp only
  split
  · exact refused_isDocument (by decide)
  split
  · exact refused_isDocument (by decide)
  split
  · exact refused_isDocument (by decide)
  split
  · exact refused_isDocument (by decide)
  split
  · exact refused_isDocument (by decide)
  split
  · dsimp only
    exact (@respond_shows _ _ _ (.object [(ascii "updated", .bool true)]) (by decide)
      ⟨by decide, trivial, trivial⟩ rfl (by decide)).isDocument
  · exact refused_isDocument (by decide)

/-! ## The health-check configuration -/

theorem putHealthCheckConfig_isDocument (body : List UInt8) :
    (putHealthCheckConfig environment device body).2.IsDocument := by
  unfold putHealthCheckConfig
  split
  · exact refused_isDocument (by decide)
  · rename_i period _
    unfold mutateHealthCheck
    dsimp only
    split
    · exact error_isDocument (by decide)
    · exact numbered_isDocument "period_seconds" [] (by decide) rfl rfl (by decide) trivial
        (length_decimalText_uint32 period) (by decide) (by decide)
    · exact error_isDocument (by decide)

/-- A resource is shown as it was put together. -/
theorem resource_isDocument {status : ℕ} {reason : String} {update : ResourceUpdate} {index : ℕ}
    (brief : briefStatus status reason = true) (small : index < 10)
    (host : IsText update.host) (hostFits : update.host.length < HealthCheckConfig.hostSize)
    (path : IsText update.path) (pathFits : update.path.length < HealthCheckConfig.pathSize)
    (port : portAcceptable update.port = true)
    (anchor : anchorAcceptable device update.trustAnchor true = true) :
    (respond status reason (update.text index)).IsDocument := by
  simp only [portAcceptable, Bool.and_eq_true, decide_eq_true_eq] at port
  simp only [anchorAcceptable, Bool.and_eq_true, decide_eq_true_eq] at anchor
  have anchors : TlsTrustStore.maxPersisted = 6 := rfl
  have hostSize : HealthCheckConfig.hostSize = 64 := rfl
  have pathSize : HealthCheckConfig.pathSize = 80 := rfl
  have length := @length_resourceFields_le index update.port.toNat update.trustAnchor.toNat
    update.host update.path (update.enabled != 0) small (by omega) (by omega)
  exact small_isDocument _ brief (plain_resourceJson host path) (resourceFields_eq host path)
    (by omega) (by decide)

/-- What passes the checks on a resource is answered, if what follows them is. -/
theorem checkedResource_isDocument {update : ResourceUpdate} {proceed : Device × Answer}
    (proceeds : portAcceptable update.port = true →
      anchorAcceptable device update.trustAnchor true = true → proceed.2.IsDocument) :
    (checkedResource device update proceed).2.IsDocument := by
  unfold checkedResource
  split
  · exact refused_isDocument (by decide)
  rename_i port
  split
  · exact refused_isDocument (by decide)
  · rename_i anchor
    exact proceeds (Bool.not_eq_false _ ▸ port) (Bool.not_eq_false _ ▸ anchor)

theorem newResource_some {body : List UInt8} {update : ResourceUpdate}
    (described : newResource body = some update) :
    (IsText update.host ∧ update.host.length < HealthCheckConfig.hostSize)
      ∧ IsText update.path ∧ update.path.length < HealthCheckConfig.pathSize := by
  unfold newResource at described
  simp only [bind, Option.bind_eq_some_iff, pure, Option.some.injEq] at described
  obtain ⟨host, readHost, path, readPath, port, -, anchor, -, rfl⟩ := described
  obtain ⟨hostFits, hostPlain⟩ := jsonText_some (by decide) readHost
  obtain ⟨pathFits, pathPlain⟩ := jsonText_some (by decide) readPath
  exact ⟨⟨hostPlain, hostFits⟩, pathPlain, pathFits⟩

/-- The index of the first free slot is small. -/
theorem assignedIndex_lt (resources : Vector HealthCheckConfig.Resource HealthCheckConfig.maxResources) :
    (HealthCheckConfig.firstFree resources).getD 0 < 10 := by
  cases free : HealthCheckConfig.firstFree resources with
  | none => exact Nat.succ_pos 9
  | some slot =>
      have within := (List.findIdx?_eq_some_iff_getElem.mp free).1
      rw [Vector.length_toList] at within
      exact Nat.lt_trans within (by decide)

theorem addResource_isDocument (body : List UInt8) :
    (addResource environment device body).2.IsDocument := by
  unfold addResource
  split
  · exact refused_isDocument (by decide)
  · rename_i update described
    obtain ⟨⟨host, hostFits⟩, path, pathFits⟩ := newResource_some described
    refine checkedResource_isDocument fun port anchor => ?_
    unfold mutateHealthCheck
    dsimp only
    split
    · exact error_isDocument (by decide)
    · exact resource_isDocument (by decide) (assignedIndex_lt _) host hostFits path pathFits port
        anchor
    · exact error_isDocument (by decide)

/-- A buffer that held a plain string holds one after the call as well. -/
theorem isText_jsonString (json key : List UInt8) {capacity : ℕ} {old : List UInt8}
    (plain : IsText old) (fits : old.length < capacity) :
    IsText (bufferString (jsonString json key (fillBuffer capacity old)).2)
      ∧ (bufferString (jsonString json key (fillBuffer capacity old)).2).length < capacity := by
  rw [bufferString_jsonString json key fits plain.zero_notMem]
  cases read : jsonText json key capacity with
  | some text =>
      obtain ⟨shorter, isText⟩ := jsonText_some (by omega) read
      exact ⟨isText, shorter⟩
  | none =>
      rw [Option.getD_none]
      cases refused : refusedText json key capacity with
      | none => exact ⟨plain, fits⟩
      | some characters =>
          obtain ⟨value, -, scanned⟩ := Option.bind_eq_some_iff.mp refused
          split at scanned
          · cases scanned
          · cases scanned
            have room := @scanString_room (capacity - 1) value
            have isText := @scanString_plain (capacity - 1) value
            rw [Option.map_some, Option.getD_some]
            constructor
            · intro byte isMember
              rcases List.mem_append.mp isMember with inValue | inRest
              · exact isText byte inValue
              · exact plain byte (List.mem_of_mem_drop inRest)
            · rw [List.length_append, List.length_drop]
              omega

theorem changedResource_texts {resource : HealthCheckConfig.Resource} (usable : Usable resource)
    (body : List UInt8) :
    (IsText (changedResource resource body).host
        ∧ (changedResource resource body).host.length < HealthCheckConfig.hostSize)
      ∧ IsText (changedResource resource body).path
        ∧ (changedResource resource body).path.length < HealthCheckConfig.pathSize :=
  ⟨isText_jsonString body _ usable.host usable.hostFits,
    isText_jsonString body _ usable.path usable.pathFits⟩

/-- A slot that is found is one of the occupied ones. -/
theorem mem_of_occupiedSlot {body : HealthCheckConfig.CurrentBody} {index : UInt8}
    {resource : HealthCheckConfig.Resource}
    (found : HealthCheckConfig.occupiedSlot body index = some resource) :
    resource ∈ body.resources.toList ∧ resource.occupied ≠ 0 ∧ index.toNat < 6 := by
  obtain ⟨atIndex, occupied⟩ := Option.filter_eq_some_iff.mp found
  obtain ⟨within, -⟩ := List.getElem?_eq_some_iff.mp atIndex
  rw [Vector.length_toList] at within
  exact ⟨List.mem_of_getElem? atIndex, by simpa using occupied, within⟩

theorem updateResource_isDocument (readable : device.Readable) (indexText body : List UInt8) :
    (updateResource environment device indexText body).2.IsDocument := by
  unfold updateResource
  split
  · exact refused_isDocument (by decide)
  split
  · exact refused_isDocument (by decide)
  · rename_i index _ resource found
    obtain ⟨inStore, occupied, within⟩ := mem_of_occupiedSlot found
    obtain ⟨⟨host, hostFits⟩, path, pathFits⟩ :=
      changedResource_texts (readable.resources resource inStore occupied) body
    refine checkedResource_isDocument fun port anchor => ?_
    unfold mutateHealthCheck
    dsimp only
    split
    · exact error_isDocument (by decide)
    · exact resource_isDocument (by decide) (by omega) host hostFits path pathFits port anchor
    · exact error_isDocument (by decide)

theorem deleteResource_isDocument (indexText : List UInt8) :
    (deleteResource environment device indexText).2.IsDocument := by
  unfold deleteResource
  split
  · exact refused_isDocument (by decide)
  · unfold mutateHealthCheck
    dsimp only
    split
    · exact error_isDocument (by decide)
    · exact numbered_isDocument "index" [(ascii "deleted", .bool true)] (by decide) rfl rfl
        (by decide) ⟨by decide, trivial, trivial⟩ (length_decimalText_byte_le _) (by decide)
        (by decide)
    · exact error_isDocument (by decide)

/-! ## Telemetry -/

/-- The field of one task. -/
def taskField (telemetry : Telemetry) (task : Fin 9) : List UInt8 × Json :=
  (ascii (taskNames.get task), .object [(ascii "stack_min_free_bytes",
    .number (telemetry.stackMinFreeBytes.get task).toNat)])

def telemetryJson (telemetry : Telemetry) (callback : CallbackTelemetry) : Json :=
  .object [(ascii "uptime_ms", .number telemetry.uptimeMs.toNat),
    (ascii "dynamic_allocation", .bool false),
    (ascii "tasks", .object ((List.finRange 9).map (taskField telemetry))),
    (ascii "callback", .object [(ascii "queue_depth", .number callback.queueDepth.toNat),
      (ascii "dropped_count", .number callback.droppedCount.toNat),
      (ascii "delivery_success_count", .number callback.deliverySuccessCount.toNat),
      (ascii "delivery_failure_count", .number callback.deliveryFailureCount.toNat),
      (ascii "last_transport_status", .number callback.lastTransportStatus.toNat),
      (ascii "last_http_status", .number callback.lastHttpStatus.toNat),
      (ascii "last_elapsed_ms", .number callback.lastElapsedMs.toNat),
      (ascii "last_detail", .number callback.lastDetail.toInt)])]

theorem taskNames_plain : ∀ task, IsText (ascii (taskNames.get task)) := by decide

theorem length_taskNames_le : ∀ task, (ascii (taskNames.get task)).length ≤ 13 := by decide

/-- The text of a field behind its separator. -/
def fieldText (field : List UInt8 × Json) : List UInt8 :=
  Json.quoted field.1 ++ 0x3A :: field.2.text

theorem fieldsTail_eq (fields : List (List UInt8 × Json)) :
    Json.fieldsTail fields = fields.flatMap fun field => 0x2C :: fieldText field := by
  induction fields with
  | nil => rfl
  | cons field rest ih =>
      obtain ⟨name, value⟩ := field
      rw [Json.fieldsTail, ih, List.flatMap_cons, fieldText]
      simp only [List.cons_append, List.append_assoc]

theorem taskText_eq (telemetry : Telemetry) (task : Fin 9) (position : ℕ) :
    taskText (taskNames.get task) (telemetry.stackMinFreeBytes.get task) position =
      separator position ++ fieldText (taskField telemetry task) := by
  simp only [taskText, fieldText, taskField, Json.quoted, (taskNames_plain task).escape_eq,
    Json.text, Json.fieldsText, Json.fieldsTail, signedText_natCast, List.append_assoc,
    List.cons_append]
  rfl

theorem tasksText_eq (telemetry : Telemetry) :
    (List.finRange 9).flatMap (fun task =>
        taskText (taskNames.get task) (telemetry.stackMinFreeBytes.get task) task) =
      Json.fieldsText ((List.finRange 9).map (taskField telemetry)) := by
  have first : Json.fieldsText ((List.finRange 9).map (taskField telemetry)) =
      fieldText (taskField telemetry 0)
        ++ Json.fieldsTail (((List.finRange 8).map Fin.succ).map (taskField telemetry)) := by
    rw [List.finRange_succ, List.map_cons, Json.fieldsText, fieldText]
    simp only [List.append_assoc, List.cons_append]
  rw [first, fieldsTail_eq, List.flatMap_map, List.finRange_succ, List.flatMap_cons,
    taskText_eq, List.flatMap_map, List.flatMap_map]
  congr 1
  refine List.flatMap_congr fun task _ => ?_
  rw [taskText_eq]
  rfl

theorem telemetry_literals :
    ascii "\x7b\"uptime_ms\":" = 0x7B :: fieldHead "uptime_ms" ∧
      ascii ",\"dynamic_allocation\":false,\"tasks\":\x7b" =
        0x2C :: (fieldHead "dynamic_allocation" ++ ascii "false" ++ 0x2C ::
          (fieldHead "tasks" ++ [0x7B])) ∧
      ascii "\x7d,\"callback\":\x7b\"queue_depth\":" =
        0x7D :: 0x2C :: (fieldHead "callback" ++ 0x7B :: fieldHead "queue_depth") ∧
      ascii ",\"dropped_count\":" = 0x2C :: fieldHead "dropped_count" ∧
      ascii ",\"delivery_success_count\":" = 0x2C :: fieldHead "delivery_success_count" ∧
      ascii ",\"delivery_failure_count\":" = 0x2C :: fieldHead "delivery_failure_count" :=
  ⟨rfl, rfl, rfl, rfl, rfl, rfl⟩

theorem telemetry_last_literals :
    ascii ",\"last_transport_status\":" = 0x2C :: fieldHead "last_transport_status" ∧
      ascii ",\"last_http_status\":" = 0x2C :: fieldHead "last_http_status" ∧
      ascii ",\"last_elapsed_ms\":" = 0x2C :: fieldHead "last_elapsed_ms" ∧
      ascii ",\"last_detail\":" = 0x2C :: fieldHead "last_detail" ∧
      ascii "\x7d\x7d" = [0x7D, 0x7D] :=
  ⟨rfl, rfl, rfl, rfl, rfl⟩

theorem telemetryText_eq (telemetry : Telemetry) (callback : CallbackTelemetry) :
    telemetryText telemetry callback = (telemetryJson telemetry callback).text := by
  obtain ⟨uptime, tasks, depth, dropped, success, failure⟩ := telemetry_literals
  obtain ⟨transport, http, elapsed, detail, closing⟩ := telemetry_last_literals
  unfold telemetryText
  rw [tasksText_eq, uptime, tasks, depth, dropped, success, failure, transport, http,
    elapsed, detail, closing]
  simp only [telemetryJson, Json.text, Json.fieldsText, Json.fieldsTail, fieldHead, Json.quoted,
    signedText_natCast, List.append_assoc, List.cons_append, List.nil_append,
    Bool.false_eq_true, if_false]

/-- The lengths of what is printed between the values. -/
theorem telemetry_lengths :
    (ascii "\x7b\"uptime_ms\":").length = 13 ∧
      (ascii ",\"dynamic_allocation\":false,\"tasks\":\x7b").length = 37 ∧
      (ascii "\x7d,\"callback\":\x7b\"queue_depth\":").length = 28 ∧
      (ascii ",\"dropped_count\":").length = 17 ∧
      (ascii ",\"delivery_success_count\":").length = 26 ∧
      (ascii ",\"delivery_failure_count\":").length = 26 ∧
      (ascii ",\"last_transport_status\":").length = 25 ∧
      (ascii ",\"last_http_status\":").length = 20 ∧
      (ascii ",\"last_elapsed_ms\":").length = 19 ∧ (ascii ",\"last_detail\":").length = 15 ∧
      (ascii "\x7d\x7d").length = 2 :=
  ⟨rfl, rfl, rfl, rfl, rfl, rfl, rfl, rfl, rfl, rfl, rfl⟩

theorem length_tasksText_le (telemetry : Telemetry) :
    ((List.finRange 9).flatMap (fun task =>
      taskText (taskNames.get task) (telemetry.stackMinFreeBytes.get task) task)).length
        ≤ 9 * 52 := by
  rw [List.flatMap_def]
  refine Nat.le_trans (length_flatten_map_le fun task _ => ?_) (by rw [List.length_finRange])
  have comma := length_separator_le task
  have name := length_taskNames_le task
  have free := length_decimalText_uint32 (telemetry.stackMinFreeBytes.get task)
  have lengths : (ascii "\"").length = 1 ∧ (ascii "\":\x7b\"stack_min_free_bytes\":").length = 26
      ∧ (ascii "\x7d").length = 1 := ⟨rfl, rfl, rfl⟩
  simp only [taskText, List.length_append, lengths]
  omega

theorem length_telemetryText_lt (telemetry : Telemetry) (callback : CallbackTelemetry) :
    (telemetryText telemetry callback).length < 1024 := by
  have tasks := length_tasksText_le telemetry
  have uptime := length_decimalText_uint32 telemetry.uptimeMs
  have depth := length_decimalText_uint8 callback.queueDepth
  have dropped := length_decimalText_uint32 callback.droppedCount
  have success := length_decimalText_uint32 callback.deliverySuccessCount
  have failure := length_decimalText_uint32 callback.deliveryFailureCount
  have transport := length_decimalText_uint8 callback.lastTransportStatus
  have http := length_decimalText_uint16 callback.lastHttpStatus
  have elapsed := length_decimalText_uint32 callback.lastElapsedMs
  have detail := length_signedText_int32 callback.lastDetail
  unfold telemetryText
  simp only [List.length_append, telemetry_lengths]
  omega

theorem plainFields_map {Item : Type} {field : Item → List UInt8 × Json} {items : List Item}
    (plain : ∀ item ∈ items, Json.Printable (field item).1 ∧ (field item).2.Plain) :
    Json.PlainFields (items.map field) := by
  induction items with
  | nil => exact trivial
  | cons item rest ih =>
      obtain ⟨name, value⟩ := plain item List.mem_cons_self
      exact ⟨name, value, ih fun other isMember => plain other (.tail _ isMember)⟩

theorem telemetryAnswer_shows (telemetry : Telemetry) (callback : CallbackTelemetry) :
    (telemetryAnswer telemetry callback).Shows 200 (telemetryJson telemetry callback) := by
  have short := length_telemetryText_lt telemetry callback
  have tasks : Json.PlainFields ((List.finRange 9).map (taskField telemetry)) :=
    plainFields_map fun task _ =>
      ⟨(taskNames_plain task).printable, ⟨by decide, trivial, trivial⟩⟩
  rw [telemetryAnswer, if_pos short]
  refine respond_shows (by decide) ⟨by decide, trivial, by decide, trivial, by decide, tasks,
    by decide, ⟨by decide, trivial, by decide, trivial, by decide, trivial, by decide, trivial,
      by decide, trivial, by decide, trivial, by decide, trivial, by decide, trivial, trivial⟩,
    trivial⟩ (telemetryText_eq telemetry callback) (by omega)

/-! ## The log -/

theorem getLogs_shows (built : library.WellBuilt) (readable : TwoBank.Side → ℕ → Bool)
    (log : HealthCheckLog.Log) :
    (respondLogs library.gmtime (HealthCheckLog.getRecent readable 50 log)).Shows 200
      (logsJson library.gmtime (HealthCheckLog.getRecent readable 50 log)) := by
  have few : (HealthCheckLog.getRecent readable 50 log).length ≤ 50 := by
    rw [HealthCheckLog.getRecent, List.length_map]
    exact List.length_take_le _ _
  have inMemory : (HealthCheckLog.getRecent readable 50 log).length * entrySize ≤ memorySize :=
    Nat.le_trans (Nat.mul_le_mul_right entrySize few) (by decide)
  have sent := (respondLogs_eq built.gmtime (length_body_lt built.gmtime inMemory)).1
  exact ⟨_, _, sent, Json.parse_text (plain_logsJson _ _)⟩

/-! ## Dispatch -/

theorem restricted_isDocument {principal : AuthService.Principal} {result : Device × Answer}
    (answered : result.2.IsDocument) : (restricted device principal result).2.IsDocument := by
  unfold restricted
  split
  · exact answered
  · exact refused_isDocument (by decide)

theorem listUsers_shows (readable : device.Readable) {principal : AuthService.Principal}
    (administrator : principal.role = AuthService.Role.administrator.code) :
    (usersListing (AuthService.listUsers device.auth principal UserStore.maxUsers)).Shows 200
      (usersJson device.auth.users.snapshot.body.listed) := by
  have few : device.auth.users.snapshot.body.listed.length ≤ UserStore.maxUsers := by
    have listed := List.length_take_le' device.auth.users.snapshot.body.count.toNat
      device.auth.users.snapshot.body.users.toList
    rwa [Vector.length_toList] at listed
  have all : AuthService.listUsers device.auth principal UserStore.maxUsers =
      device.auth.users.snapshot.body.listed := by
    have isAdministrator : AuthService.isAdministrator principal = true := beq_iff_eq.mpr administrator
    rw [AuthService.listUsers, if_pos isAdministrator, UserStore.list,
      List.take_of_length_le few]
  rw [all]
  exact usersListing_shows few readable.users

theorem listUsers_isDocument (readable : device.Readable) (principal : AuthService.Principal) :
    (restricted device principal (device, usersListing
      (AuthService.listUsers device.auth principal UserStore.maxUsers))).2.IsDocument := by
  unfold restricted
  split
  · rename_i administrator
    exact (listUsers_shows readable administrator).isDocument
  · exact refused_isDocument (by decide)

theorem listTrustAnchors_isDocument (ram : TlsTrustStore.Ram) :
    (anchorsListing (TlsTrustStore.list ram TlsTrustStore.maxPersisted)).IsDocument := by
  by_cases printable : ∀ anchor ∈ TlsTrustStore.list ram TlsTrustStore.maxPersisted,
      Json.Printable anchor.subject
  · exact (anchorsListing_shows printable).isDocument
  · simp only [not_forall] at printable
    obtain ⟨anchor, listed, control⟩ := printable
    exact (anchorsListing_fails listed control).isDocument

theorem operate_isDocument (built : library.WellBuilt) (readable : device.Readable)
    (request : Request) (principal : AuthService.Principal) {operation : Operation}
    (nonzero : ∀ username, operation = .deleteUser username → 0 ∉ username) :
    (operate library environment device request principal operation).2.IsDocument := by
  unfold operate
  cases operation with dsimp only
  | revoke => exact revoke_isDocument _
  | rtc => exact rtc_isDocument built
  | telemetry => exact (telemetryAnswer_shows _ _).isDocument
  | testHealthCheckAlert => exact restricted_isDocument (testAlert_isDocument _ _)
  | testCertificateAlert => exact restricted_isDocument (testAlert_isDocument _ _)
  | listUsers => exact listUsers_isDocument readable principal
  | createUser => exact restricted_isDocument (createUser_isDocument _ _)
  | updateUser username => exact restricted_isDocument (updateUser_isDocument readable _ _ _)
  | deleteUser username =>
      exact restricted_isDocument (deleteUser_isDocument readable _ (nonzero username rfl))
  | putCertificate => exact restricted_isDocument (putCertificate_isDocument _)
  | putPrivateKey => exact restricted_isDocument (putPrivateKey_isDocument _)
  | listTrustAnchors => exact listTrustAnchors_isDocument _
  | addTrustAnchor => exact restricted_isDocument (addTrustAnchor_isDocument _)
  | resetTrustAnchors => exact restricted_isDocument resetTrustAnchors_isDocument
  | replaceTrustAnchor idText => exact restricted_isDocument (replaceTrustAnchor_isDocument _ _)
  | deleteTrustAnchor idText => exact restricted_isDocument (deleteTrustAnchor_isDocument _)
  | getCallbackConfig => exact (callback_shows readable.callback).isDocument
  | putCallbackConfig => exact restricted_isDocument (putCallbackConfig_isDocument _)
  | getHealthCheckConfig => exact (configListing_shows readable.resources).isDocument
  | putHealthCheckConfig => exact restricted_isDocument (putHealthCheckConfig_isDocument _)
  | addResource => exact restricted_isDocument (addResource_isDocument _)
  | updateResource indexText => exact restricted_isDocument (updateResource_isDocument readable _ _)
  | deleteResource indexText => exact restricted_isDocument (deleteResource_isDocument _)
  | getLogs => exact (getLogs_shows built _ _).isDocument
  | unknown => exact error_isDocument (by decide)

/-- The name of an account in a path has the characters of the path only. -/
theorem operation_eq_deleteUser {method path username : List UInt8}
    (same : operation method path = .deleteUser username) (nonzero : 0 ∉ path) : 0 ∉ username := by
  intro isMember
  have inPath (start : String) : 0 ∉ behind path start := fun inRest =>
    nonzero (List.mem_of_mem_drop inRest)
  refine absurd same ?_
  unfold operation
  repeat' apply ite_ne_of_ne
  all_goals first
    | (intro other; cases other; done)
    | exact fun deleted => inPath _ (Operation.deleteUser.inj deleted ▸ isMember)

/-- **Every request is answered by a JSON document**, if the strings in the stores can be
shown. -/
theorem dispatch_isDocument (built : library.WellBuilt) (readable : device.Readable)
    (request : Request) :
    (dispatch library environment device request).2.IsDocument := by
  unfold dispatch
  split
  · exact health_isDocument built _
  · exact token_isDocument _
  · exact refresh_isDocument _
  · rename_i operation routed
    split
    · exact refused_isDocument (by decide)
    · refine operate_isDocument built readable request _ fun username deleted => ?_
      unfold route at routed
      split at routed
      · cases routed
      split at routed
      · cases routed
      split at routed
      · cases routed
      · exact operation_eq_deleteUser ((Endpoint.authorized.inj routed).trans deleted)
          (zero_notMem_cString _)

end Handlers

end HealthCheckFirmware.ApiService
