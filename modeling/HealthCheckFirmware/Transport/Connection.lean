import HealthCheckFirmware.Transport.Streams

/-!
# Requests up to a verified connection

What has to work before the request proper is sent (`Established`), and what
`TlsTransport_Request` does from there on: over a verified connection its status variable
still names the failure to connect (`request_of_established`). A request that succeeds
has come that far (`established_of_ok`) and has read a status (`readStatus_of_ok`).
-/

set_option autoImplicit false

namespace HealthCheckFirmware.TlsTransport

/-- The arguments pass the first test. -/
def Arguments.Acceptable (arguments : Arguments) : Prop :=
  ∃ method host resource body,
    arguments.method = some method ∧ arguments.host = some host ∧
      arguments.resource = some resource ∧ arguments.body = some body ∧
        Arguments.acceptable method resource arguments.port = true

/-- The address of the peer is found and connected to. -/
def Calls.Connected (calls : Calls) : Prop :=
  calls.resolver = 0 ∧ Attempt.connected ∈ calls.attempts

/-- The TLS library is ready for a connection. -/
structure Calls.Prepared (calls : Calls) : Prop where
  seed : calls.seed = 0
  anchor : calls.anchor = .ok
  defaults : calls.defaults = 0
  setup : calls.setup = 0
  hostname : calls.hostname = 0

/-- All that comes before the request proper has worked. -/
structure Established (arguments : Arguments) (calls : Calls) : Prop where
  acceptable : arguments.Acceptable
  lock : calls.lock = true
  prepared : calls.Prepared
  connected : calls.Connected
  handshake : calls.handshake = 0
  verified : calls.verifyResult = 0

/-! ## The way to the connection -/

variable {arguments : Arguments} {calls : Calls}

theorem tryAddresses_connected (detail : ℤ) (attempts : List Attempt) :
    (tryAddresses detail attempts).1 = true ↔ Attempt.connected ∈ attempts := by
  induction attempts generalizing detail with
  | nil => simp [tryAddresses]
  | cons attempt rest ih =>
      cases attempt with
      | noSocket errno => simp [tryAddresses, ih]
      | refused errno socketError => simp [tryAddresses, ih]
      | connected => simp [tryAddresses]

theorem connect_of_connected (connected : calls.Connected) :
    ∃ detail, connect calls.resolver calls.attempts = (true, .connectError, detail) := by
  obtain ⟨resolved, found⟩ := connected
  rw [connect, if_neg (not_not.mpr resolved), (tryAddresses_connected 0 calls.attempts).mpr found]
  exact ⟨_, rfl⟩

theorem connect_of_not_connected (unconnected : ¬ calls.Connected) :
    ∃ detail, connect calls.resolver calls.attempts =
      (false, if calls.resolver ≠ 0 then .dnsError else .connectError, detail) := by
  rw [connect]
  split
  · exact ⟨_, rfl⟩
  · rename_i resolved
    have missing : (tryAddresses 0 calls.attempts).1 = false := by
      rw [Bool.eq_false_iff, Ne, tryAddresses_connected]
      intro found
      exact unconnected ⟨not_not.mp resolved, found⟩
    rw [missing]
    exact ⟨_, rfl⟩

/-- A request whose arguments pass goes on to the connection. -/
theorem request_of_acceptable (acceptable : arguments.Acceptable) (lock : calls.lock = true) :
    request arguments calls = establish calls arguments.text := by
  obtain ⟨method, host, resource, body, methodGiven, hostGiven, resourceGiven, bodyGiven, passes⟩ :=
    acceptable
  simp only [request, Arguments.text, methodGiven, hostGiven, resourceGiven, bodyGiven, passes,
    lock, Bool.true_eq_false, or_self, if_false]

/-- Any other request fails at once. -/
theorem request_of_unacceptable (refused : ¬ (arguments.Acceptable ∧ calls.lock = true)) :
    request arguments calls = Result.initial := by
  unfold request
  split
  · rename_i method host resource body methodGiven hostGiven resourceGiven bodyGiven
    refine if_pos ?_
    by_contra passes
    rw [not_or, Bool.not_eq_false, Bool.not_eq_false] at passes
    exact refused ⟨⟨method, host, resource, body, methodGiven, hostGiven, resourceGiven, bodyGiven,
      passes.1⟩, passes.2⟩
  · rfl

/-- Both sides come to the connection. -/
theorem establish_of_prepared (prepared : calls.Prepared) (text : Option (List UInt8)) :
    establish calls text =
      match connect calls.resolver calls.attempts with
      | (false, status, detail) => finish calls Result.initial status detail
      | (true, status, _) => converse calls status text := by
  unfold establish
  exact (if_neg (not_not.mpr prepared.seed)).trans <|
    (if_neg (not_not.mpr prepared.anchor)).trans <|
    (if_neg (not_not.mpr prepared.defaults)).trans <|
    (if_neg (not_not.mpr prepared.setup)).trans <| if_neg (not_not.mpr prepared.hostname)

/-- A library that is not ready makes the request fail. -/
theorem establish_ne_ok_of_unprepared (unprepared : ¬ calls.Prepared)
    (text : Option (List UInt8)) : (establish calls text).status ≠ .ok := by
  intro ok
  unfold establish at ok
  split_ifs at ok with seed anchor defaults setup hostname
  all_goals first
    | cases ok
    | exact unprepared ⟨not_not.mp seed, not_not.mp anchor, not_not.mp defaults,
        not_not.mp setup, not_not.mp hostname⟩

/-- A request that succeeds has got to a verified connection. -/
theorem established_of_ok (ok : (request arguments calls).status = .ok) :
    Established arguments calls := by
  by_cases accepted : arguments.Acceptable ∧ calls.lock = true
  swap
  · rw [request_of_unacceptable accepted] at ok
    cases ok
  obtain ⟨acceptable, lock⟩ := accepted
  rw [request_of_acceptable acceptable lock] at ok
  by_cases prepared : calls.Prepared
  swap
  · exact absurd ok (establish_ne_ok_of_unprepared prepared _)
  rw [establish_of_prepared prepared] at ok
  by_cases connected : calls.Connected
  swap
  · obtain ⟨detail, connects⟩ := connect_of_not_connected connected
    rw [connects] at ok
    by_cases resolved : calls.resolver = 0
    · simp [finish, resolved] at ok
    · simp [finish, resolved] at ok
  obtain ⟨detail, connects⟩ := connect_of_connected connected
  rw [connects] at ok
  change (converse calls .connectError arguments.text).status = .ok at ok
  by_cases handshake : calls.handshake = 0
  swap
  · by_cases verified : calls.verifyResult = 0
    · simp [converse, handshake, verified, finish] at ok
    · simp [converse, handshake, verified, finish] at ok
  by_cases verified : calls.verifyResult = 0
  · exact ⟨acceptable, lock, prepared, connected, handshake, verified⟩
  · simp [converse, handshake, verified, finish] at ok

/-! ## The request proper -/

/-- Over a verified connection, the status variable names the failure to connect. -/
theorem request_of_established (established : Established arguments calls) :
    ∃ result, request arguments calls = exchange calls result .connectError arguments.text := by
  obtain ⟨detail, connects⟩ := connect_of_connected established.connected
  have runs : request arguments calls = converse calls .connectError arguments.text := by
    rw [request_of_acceptable established.acceptable established.lock,
      establish_of_prepared established.prepared, connects]
  rw [runs, converse, if_neg (not_not.mpr established.handshake),
    if_neg (not_not.mpr established.verified)]
  exact ⟨_, rfl⟩

/-- A request that is written fails only over its answer. -/
theorem exchange_status_of_written {result : Result} {status : Status} {text : List UInt8}
    (written : writeAll calls.writes 0 text.length = 0) :
    (exchange calls result status (some text)).status =
        (if (readStatus calls.reads).1 = 0 then .ok else .protocolError) ∧
      (exchange calls result status (some text)).httpStatus = (readStatus calls.reads).2 := by
  by_cases read : (readStatus calls.reads).1 = 0
  · simp [exchange, written, read, finish]
  · simp [exchange, written, read, finish]

theorem exchange_status_of_unwritten {result : Result} {status : Status} {text : List UInt8}
    (unwritten : writeAll calls.writes 0 text.length ≠ 0) :
    (exchange calls result status (some text)).status = .ioError := by
  simp [exchange, unwritten, finish]

/-- A request that succeeds has read the status of its answer. -/
theorem readStatus_of_ok {arguments : Arguments} {calls : Calls}
    (ok : (request arguments calls).status = .ok) :
    readStatus calls.reads = (0, (request arguments calls).httpStatus) := by
  obtain ⟨result, runs⟩ := request_of_established (established_of_ok ok)
  rw [runs] at ok ⊢
  cases built : arguments.text with
  | none =>
      rw [built] at ok
      cases ok
  | some text =>
      rw [built] at ok
      by_cases written : writeAll calls.writes 0 text.length = 0
      · obtain ⟨status, httpStatus⟩ :=
          @exchange_status_of_written calls result .connectError text written
        rw [status] at ok
        rw [httpStatus]
        split at ok
        · rename_i read
          exact Prod.ext read rfl
        · cases ok
      · rw [exchange_status_of_unwritten written] at ok
        cases ok

/-! ## A request over a verified connection -/

/-- The request of a health check, here with any body. -/
def probe (body : List UInt8) : Arguments :=
  ⟨some (ascii "HEAD"), some (ascii "example.com"), 443, some (ascii "/"), some body, none⟩

/-- Everything works up to the verified connection. -/
def verifiedCalls (writes : ℕ → ℤ) (reads : ℕ → ReadByte) : Calls where
  started := 0
  lock := true
  seed := 0
  anchor := .ok
  defaults := 0
  setup := 0
  hostname := 0
  resolver := 0
  attempts := [.connected]
  handshake := 0
  peerCertificate := none
  verifyResult := 0
  writes := writes
  reads := reads
  lastError := 0
  ended := 0

theorem probe_established (body : List UInt8) (writes : ℕ → ℤ) (reads : ℕ → ReadByte) :
    Established (probe body) (verifiedCalls writes reads) :=
  ⟨⟨_, _, _, _, rfl, rfl, rfl, rfl, by simp only [probe]; decide⟩, rfl, ⟨rfl, rfl, rfl, rfl, rfl⟩,
    ⟨rfl, List.mem_singleton_self _⟩, rfl, rfl⟩

theorem probe_length : (probe []).text.map List.length = some 91 := by decide

theorem delivered_of_room {length : ℕ} (fits : length ≤ 512) :
    Delivered (fun _ => 512) 0 length :=
  ⟨1, fun _ _ => by simp only; decide, by simpa using fits⟩

end HealthCheckFirmware.TlsTransport
