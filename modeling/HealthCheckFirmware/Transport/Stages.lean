import HealthCheckFirmware.Transport.StatusLine

/-!
# The stage that a failed request reports

The documented stages of a request, in their order, against the status that
`TlsTransport_Request` returns. They agree up to a verified connection
(`request_status_of_not_established`). From there on the status variable still names
the failure to connect, both loops take a result of zero for success, and the conversion
of the answer takes more than status lines; so the two agree exactly for requests that
can be built, whose writes do not stall, and whose answer is orderly (`classified_iff`).
-/

set_option autoImplicit false

namespace HealthCheckFirmware.TlsTransport

/-! ## The documented stages -/

open Classical in
/-- The stage that fails first, as documented. Local failures are failures of the
configuration. -/
noncomputable def documented (arguments : Arguments) (calls : Calls) : Status :=
  if ¬ arguments.Acceptable ∨ calls.lock = false ∨ calls.seed ≠ 0 then .configError
  else if calls.anchor ≠ .ok then .certificateError
  else if calls.defaults ≠ 0 ∨ calls.setup ≠ 0 ∨ calls.hostname ≠ 0 then .configError
  else if calls.resolver ≠ 0 then .dnsError
  else if Attempt.connected ∉ calls.attempts then .connectError
  else if calls.verifyResult ≠ 0 then .certificateError
  else if calls.handshake ≠ 0 then .handshakeError
  else
    match arguments.text with
    | none => .configError
    | some text =>
        if ¬ Delivered calls.writes 0 text.length then .ioError
        else if ¬ ∃ status, StatusLine calls.reads status then .protocolError
        else .ok

/-- The status names the first stage that failed, and success means that the request
was written and that the status is that of a status line at the start of the answer. -/
def Classified (arguments : Arguments) (calls : Calls) : Prop :=
  (request arguments calls).status = documented arguments calls ∧
    ((request arguments calls).status = .ok →
      ∃ text, arguments.text = some text ∧ Delivered calls.writes 0 text.length ∧
        StatusLine calls.reads (request arguments calls).httpStatus)

/-- Once the connection is verified, the request can be built, no write stalls, and the
answer to a request that was written is orderly: it is not cut off before its first line,
and that line is a status line if the conversion takes it for one. -/
def Regular (arguments : Arguments) (calls : Calls) : Prop :=
  Established arguments calls →
    ∃ text, arguments.text = some text ∧ ¬ Stalls calls.writes 0 text.length ∧
      (Delivered calls.writes 0 text.length → Orderly calls.reads)

/-! ## Up to the verified connection -/

variable {arguments : Arguments} {calls : Calls}

/-- A library that is not ready is reported as documented. -/
theorem establish_status_of_unprepared (acceptable : arguments.Acceptable)
    (lock : calls.lock = true) (unprepared : ¬ calls.Prepared) :
    (establish calls arguments.text).status = documented arguments calls := by
  unfold establish documented
  by_cases seed : calls.seed = 0
  swap
  · simp [seed, finish]
  by_cases anchor : calls.anchor = .ok
  swap
  · simp [acceptable, lock, seed, anchor, finish]
  by_cases defaults : calls.defaults = 0
  swap
  · simp [acceptable, lock, seed, anchor, defaults, finish]
  by_cases setup : calls.setup = 0
  swap
  · simp [acceptable, lock, seed, anchor, defaults, setup, finish]
  by_cases hostname : calls.hostname = 0
  swap
  · simp [acceptable, lock, seed, anchor, defaults, setup, hostname, finish]
  exact absurd ⟨seed, anchor, defaults, setup, hostname⟩ unprepared

open Classical in
theorem documented_of_prepared (acceptable : arguments.Acceptable) (lock : calls.lock = true)
    (prepared : calls.Prepared) :
    documented arguments calls =
      if calls.resolver ≠ 0 then .dnsError
      else if Attempt.connected ∉ calls.attempts then .connectError
      else if calls.verifyResult ≠ 0 then .certificateError
      else if calls.handshake ≠ 0 then .handshakeError
      else
        match arguments.text with
        | none => .configError
        | some text =>
            if ¬ Delivered calls.writes 0 text.length then .ioError
            else if ¬ ∃ status, StatusLine calls.reads status then .protocolError
            else .ok := by
  rw [documented, if_neg (by simp [acceptable, lock, prepared.seed]),
    if_neg (not_not.mpr prepared.anchor),
    if_neg (by simp [prepared.defaults, prepared.setup, prepared.hostname])]

theorem establish_status_of_unconnected (acceptable : arguments.Acceptable)
    (lock : calls.lock = true) (prepared : calls.Prepared) (unconnected : ¬ calls.Connected) :
    (establish calls arguments.text).status = documented arguments calls := by
  obtain ⟨detail, connects⟩ := connect_of_not_connected unconnected
  rw [establish_of_prepared prepared, documented_of_prepared acceptable lock prepared, connects]
  by_cases resolved : calls.resolver = 0
  · have missing : Attempt.connected ∉ calls.attempts := by
      intro found
      exact unconnected ⟨resolved, found⟩
    simp [resolved, missing, finish]
  · simp [resolved, finish]

/-- **Up to a verified connection, the status is the documented one.** -/
theorem request_status_of_not_established (failed : ¬ Established arguments calls) :
    (request arguments calls).status = documented arguments calls := by
  by_cases accepted : arguments.Acceptable ∧ calls.lock = true
  swap
  · rw [request_of_unacceptable accepted, documented, if_pos]
    · rfl
    · rw [not_and_or, Bool.not_eq_true] at accepted
      exact accepted.imp_right Or.inl
  obtain ⟨acceptable, lock⟩ := accepted
  rw [request_of_acceptable acceptable lock]
  by_cases prepared : calls.Prepared
  swap
  · exact establish_status_of_unprepared acceptable lock prepared
  by_cases connected : calls.Connected
  swap
  · exact establish_status_of_unconnected acceptable lock prepared connected
  obtain ⟨detail, connects⟩ := connect_of_connected connected
  rw [establish_of_prepared prepared, documented_of_prepared acceptable lock prepared, connects,
    if_neg (not_not.mpr connected.1), if_neg (not_not.mpr connected.2)]
  change (converse calls .connectError arguments.text).status = _
  by_cases verified : calls.verifyResult = 0
  · have handshake : calls.handshake ≠ 0 := by
      intro handshake
      exact failed ⟨acceptable, lock, prepared, connected, handshake, verified⟩
    simp [converse, verified, handshake, finish]
  · by_cases handshake : calls.handshake = 0
    · simp [converse, verified, handshake, finish]
    · simp [converse, verified, handshake, finish]

/-! ## The request proper -/

open Classical in
theorem documented_of_established (established : Established arguments calls) :
    documented arguments calls =
      match arguments.text with
      | none => .configError
      | some text =>
          if ¬ Delivered calls.writes 0 text.length then .ioError
          else if ¬ ∃ status, StatusLine calls.reads status then .protocolError
          else .ok := by
  rw [documented_of_prepared established.acceptable established.lock established.prepared,
    if_neg (not_not.mpr established.connected.1), if_neg (not_not.mpr established.connected.2),
    if_neg (not_not.mpr established.verified), if_neg (not_not.mpr established.handshake)]

/-- A request that was written is classified as documented exactly if the reads are
orderly. -/
theorem classified_iff_of_delivered (established : Established arguments calls)
    {text : List UInt8} (built : arguments.text = some text)
    (delivered : Delivered calls.writes 0 text.length) :
    Classified arguments calls ↔ Orderly calls.reads := by
  obtain ⟨result, runs⟩ := request_of_established established
  have written : writeAll calls.writes 0 text.length = 0 :=
    writeAll_eq_zero_iff.mpr (Or.inl delivered)
  obtain ⟨status, httpStatus⟩ :=
    @exchange_status_of_written calls result .connectError text written
  rw [Classified, documented_of_established established, runs, built]
  simp only [status, httpStatus, delivered, not_true_eq_false, if_false]
  by_cases answered : ∃ status, StatusLine calls.reads status
  · obtain ⟨named, answer⟩ := answered
    have read : readStatus calls.reads = (0, named) :=
      readStatus_eq_zero_iff.mpr (Or.inl answer.answered)
    have orderly : Orderly calls.reads := orderly_iff.mpr fun _ => ⟨named, answer⟩
    have received : ∃ status, StatusLine calls.reads status := ⟨named, answer⟩
    simp [orderly, received, read, answer, delivered]
  · by_cases read : (readStatus calls.reads).1 = 0
    · have disorderly : ¬ Orderly calls.reads := fun orderly =>
        answered (orderly_iff.mp orderly read)
      simp [disorderly, answered, read]
    · have orderly : Orderly calls.reads := orderly_iff.mpr fun zero => absurd zero read
      simp [orderly, answered, read]

/-- A request that was not written is classified as documented exactly if its writes do not
stall. -/
theorem classified_iff_of_undelivered (established : Established arguments calls)
    {text : List UInt8} (built : arguments.text = some text)
    (undelivered : ¬ Delivered calls.writes 0 text.length) :
    Classified arguments calls ↔ ¬ Stalls calls.writes 0 text.length := by
  obtain ⟨result, runs⟩ := request_of_established established
  rw [Classified, documented_of_established established, runs, built]
  simp only [undelivered, not_false_eq_true, if_true]
  by_cases stalls : Stalls calls.writes 0 text.length
  · have written : writeAll calls.writes 0 text.length = 0 :=
      writeAll_eq_zero_iff.mpr (Or.inr stalls)
    obtain ⟨status, -⟩ :=
      @exchange_status_of_written calls result .connectError text written
    rw [status]
    simp only [stalls, not_true_eq_false, iff_false, not_and_or]
    left
    split_ifs <;> simp
  · have unwritten : writeAll calls.writes 0 text.length ≠ 0 := by
      rw [Ne, writeAll_eq_zero_iff]
      exact not_or.mpr ⟨undelivered, stalls⟩
    rw [exchange_status_of_unwritten unwritten]
    simp [stalls]

/-- A request over a verified connection is classified as documented exactly if it is
a regular one. -/
theorem classified_iff_of_established (established : Established arguments calls) :
    Classified arguments calls ↔
      ∃ text, arguments.text = some text ∧ ¬ Stalls calls.writes 0 text.length ∧
        (Delivered calls.writes 0 text.length → Orderly calls.reads) := by
  cases built : arguments.text with
  | none =>
      obtain ⟨result, runs⟩ := request_of_established established
      rw [Classified, documented_of_established established, runs, built]
      simp [exchange, finish]
  | some text =>
      simp only [Option.some.injEq, exists_eq_left']
      by_cases delivered : Delivered calls.writes 0 text.length
      · rw [classified_iff_of_delivered established built delivered]
        simp [delivered, not_stalls_of_delivered delivered]
      · rw [classified_iff_of_undelivered established built delivered]
        simp [delivered]

/-- **The status names the stage that failed for the regular requests, and only for
them.** -/
theorem classified_iff (arguments : Arguments) (calls : Calls) :
    Classified arguments calls ↔ Regular arguments calls := by
  by_cases established : Established arguments calls
  · rw [classified_iff_of_established established, Regular, imp_iff_right established]
  · refine iff_of_true ⟨request_status_of_not_established established, ?_⟩ fun held =>
      absurd held established
    intro succeeded
    exact absurd (established_of_ok succeeded) established

/-! ## Requests that are not regular -/

/-- A stream without any byte is closed early. -/
theorem endsEarly_of_eof : EndsEarly fun _ => .eof :=
  ⟨[], Bytes.nil, by decide, by decide, rfl⟩

/-- The peer closes the connection instead of answering. -/
def closedCalls : Calls := verifiedCalls (fun _ => 512) fun _ => .eof

/-- The peer answers with a status of four digits. -/
def longCodeCalls : Calls := verifiedCalls (fun _ => 512) (stream longCode)

/-- The write of the request accepts nothing. -/
def stalledCalls : Calls := verifiedCalls (fun _ => 0) fun _ => .eof

/-- **A connection that is closed without an answer is a success**, with the status
zero, and so is an answer whose first line is not a status line. A write that accepts
nothing is taken for the whole request, and a request that cannot be built is reported as
a failure to connect. -/
theorem closed_connection_reported_ok :
    ((request (probe []) closedCalls).status = .ok ∧
        (request (probe []) closedCalls).httpStatus = 0 ∧
        ¬ Classified (probe []) closedCalls) ∧
      ((request (probe []) longCodeCalls).status = .ok ∧
        ¬ Classified (probe []) longCodeCalls) ∧
      ¬ Classified (probe []) stalledCalls ∧
      (request (probe (ascii "x")) closedCalls).status = .connectError ∧
      ¬ Classified (probe (ascii "x")) closedCalls := by
  obtain ⟨text, built, length⟩ := Option.map_eq_some_iff.mp probe_length
  have delivered : Delivered closedCalls.writes 0 text.length := delivered_of_room (by omega)
  refine ⟨?_, ?_, ?_, by decide, ?_⟩
  · have closed : Established (probe []) closedCalls := probe_established _ _ _
    obtain ⟨result, runs⟩ := request_of_established closed
    obtain ⟨status, httpStatus⟩ := @exchange_status_of_written closedCalls result .connectError text
      (writeAll_eq_zero_iff.mpr (Or.inl delivered))
    rw [runs, built, status, httpStatus, classified_iff_of_delivered closed built delivered]
    exact ⟨rfl, rfl, fun orderly => orderly.1 endsEarly_of_eof⟩
  · have answered : Established (probe []) longCodeCalls := probe_established _ _ _
    obtain ⟨result, runs⟩ := request_of_established answered
    obtain ⟨status, -⟩ := @exchange_status_of_written longCodeCalls result .connectError text
      (writeAll_eq_zero_iff.mpr (Or.inl delivered))
    rw [runs, built, status, classified_iff_of_delivered answered built delivered]
    exact ⟨by decide, longCode_not_orderly⟩
  · have stalled : Established (probe []) stalledCalls := probe_established _ _ _
    rw [classified_iff_of_established stalled]
    rintro ⟨other, otherBuilt, flows, -⟩
    cases built.symm.trans otherBuilt
    exact flows ⟨0, by omega, rfl, by simp [length]⟩
  · have rejected : Established (probe (ascii "x")) closedCalls := probe_established _ _ _
    rw [classified_iff_of_established rejected]
    rintro ⟨other, otherBuilt, -⟩
    have unbuilt : (probe (ascii "x")).text = none := by decide
    cases unbuilt.symm.trans otherBuilt

end HealthCheckFirmware.TlsTransport
