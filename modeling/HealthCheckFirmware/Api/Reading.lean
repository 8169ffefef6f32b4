import HealthCheckFirmware.Api.Request

/-!
# When a request is dispatched

The state of the reading loop is a function of the bytes received so far (`stage`),
whatever pieces they came in (`readLoop_step`). A request that the loop ends with is
therefore complete: it is parsed from the bytes of its own connection
(`Complete`).

The loop returns the result of a failed read, and a stream that ends without notice
reads as zero, which is also the value that stands for success. So what is dispatched
was parsed from the connection exactly as long as no peer closes its connection
before its request is complete (`dispatch_complete_iff`).
-/

set_option autoImplicit false

namespace HealthCheckFirmware.ApiService

/-! ## The state of the loop as a function of the bytes -/

/-- What the bytes received so far amount to. -/
inductive Stage where
  | reading (framing : Option Framing)
  | refused
  | complete (framing : Framing)

/-- The stage that some bytes have reached. -/
def stage (capacity : ℕ) (bytes : List UInt8) : Stage :=
  match noteHeader capacity bytes none with
  | none => .refused
  | some noted =>
      match Framing.reached noted bytes with
      | some framing => .complete framing
      | none => .reading noted

/-- A header that was found stays where it is when more bytes come. -/
theorem findHeaderEnd_append {bytes : List UInt8} {position : ℕ}
    (found : findHeaderEnd bytes = some position) (more : List UInt8) :
    findHeaderEnd (bytes ++ more) = some position
      ∧ (bytes ++ more).take position = bytes.take position := by
  obtain ⟨rest, same⟩ := cString_append bytes more
  have within : position ≤ bytes.length := by
    have inside : position + headerTerminator.length ≤ (cString bytes).length :=
      strstr_length_le found
    have shorter : (cString bytes).length ≤ bytes.length :=
      (List.takeWhile_sublist _).length_le
    omega
  refine ⟨?_, List.take_append_of_le_length within⟩
  rw [findHeaderEnd, same]
  exact strstr_append found rest

/-- What the code has noted of the bytes so far does not change what it notes of
more bytes. -/
theorem noteHeader_append {capacity : ℕ} {bytes : List UInt8} {noted : Option Framing}
    (consistent : noteHeader capacity bytes none = some noted) (more : List UInt8) :
    noteHeader capacity (bytes ++ more) noted = noteHeader capacity (bytes ++ more) none := by
  cases noted with
  | none => rfl
  | some framing =>
      simp only [noteHeader] at consistent ⊢
      cases found : findHeaderEnd bytes with
      | none => simp [found] at consistent
      | some position =>
          obtain ⟨foundLater, sameHeader⟩ := findHeaderEnd_append found more
          simp only [found, Option.map_eq_some_iff] at consistent
          obtain ⟨own, framed, isOwn⟩ := consistent
          cases isOwn
          simp only [foundLater, frame, sameHeader]
          rw [frame] at framed
          simp [framed]

/-- **A read takes the loop from the stage of the bytes before it to the stage of
the bytes with it.** -/
theorem readLoop_step {capacity : ℕ} {reads : ℕ → Read} {count : ℕ} {buffer : List UInt8}
    {noted : Option Framing} (consistent : noteHeader capacity buffer none = some noted)
    (room : buffer.length < capacity - 1) {first : UInt8} {rest : List UInt8}
    (delivers : reads count = .data first rest) :
    readLoop capacity reads count buffer noted =
      match stage capacity (append capacity buffer first rest) with
      | .refused => (.returned badInputData, append capacity buffer first rest)
      | .complete framing => (.complete framing, append capacity buffer first rest)
      | .reading noted =>
          readLoop capacity reads (count + 1) (append capacity buffer first rest) noted := by
  rw [readLoop, dif_pos room, delivers]
  have same : noteHeader capacity (append capacity buffer first rest) noted =
      noteHeader capacity (append capacity buffer first rest) none :=
    noteHeader_append consistent _
  simp only [same, stage]
  cases noteHeader capacity (append capacity buffer first rest) none with
  | none => rfl
  | some later =>
      cases reached : Framing.reached later (append capacity buffer first rest) with
      | none => simp [reached]
      | some framing => simp [reached]

/-- The bytes of an open request are consistent with what was noted of them. -/
theorem stage_reading {capacity : ℕ} {bytes : List UInt8} {noted : Option Framing}
    (open_ : stage capacity bytes = .reading noted) :
    noteHeader capacity bytes none = some noted := by
  unfold stage at open_
  split at open_
  · cases open_
  · rename_i same
    split at open_
    · cases open_
    · cases open_
      exact same

/-! ## How the loop ends -/

/-- The peer closes the connection without notice while its request is still open. -/
inductive ClosesEarly (capacity : ℕ) (reads : ℕ → Read) : ℕ → List UInt8 → Prop where
  | eof {count : ℕ} {buffer : List UInt8} (room : buffer.length < capacity - 1)
      (closed : reads count = .eof) : ClosesEarly capacity reads count buffer
  | data {count : ℕ} {buffer : List UInt8} {first : UInt8} {rest : List UInt8}
      {noted : Option Framing} (room : buffer.length < capacity - 1)
      (delivers : reads count = .data first rest)
      (reading : stage capacity (append capacity buffer first rest) = .reading noted)
      (later : ClosesEarly capacity reads (count + 1) (append capacity buffer first rest)) :
      ClosesEarly capacity reads count buffer

theorem closesEarly_data {capacity : ℕ} {reads : ℕ → Read} {count : ℕ} {buffer : List UInt8}
    (room : buffer.length < capacity - 1) {first : UInt8} {rest : List UInt8}
    (delivers : reads count = .data first rest) :
    ClosesEarly capacity reads count buffer ↔
      ∃ noted, stage capacity (append capacity buffer first rest) = .reading noted
        ∧ ClosesEarly capacity reads (count + 1) (append capacity buffer first rest) := by
  constructor
  · intro early
    cases early with
    | eof _ closed => simp [delivers] at closed
    | data _ same reading later =>
        obtain ⟨rfl, rfl⟩ := Read.data.inj (delivers.symm.trans same)
        exact ⟨_, reading, later⟩
  · rintro ⟨noted, reading, later⟩
    exact .data room delivers reading later

/-- The end of the loop: zero is returned exactly if the peer closes early, and then
the request is still open; a request that is complete is so by its bytes. -/
structure EndsWell (capacity : ℕ) (reads : ℕ → Read) (count : ℕ) (buffer : List UInt8)
    (ended : Ended) (received : List UInt8) : Prop where
  zero : ended = .returned 0 ↔ ClosesEarly capacity reads count buffer
  zero_open : ended = .returned 0 → ∃ noted, stage capacity received = .reading noted
  complete : ∀ framing, ended = .complete framing → stage capacity received = .complete framing

theorem readLoop_endsWell {capacity : ℕ} {reads : ℕ → Read} {count : ℕ} {buffer : List UInt8}
    {noted : Option Framing} (reading : stage capacity buffer = .reading noted) :
    EndsWell capacity reads count buffer (readLoop capacity reads count buffer noted).1
      (readLoop capacity reads count buffer noted).2 := by
  induction remaining : capacity - buffer.length using Nat.strong_induction_on
    generalizing count buffer noted with
  | _ remaining ih =>
      by_cases room : buffer.length < capacity - 1
      · cases delivered : reads count with
        | eof =>
            have result : readLoop capacity reads count buffer noted = (.returned 0, buffer) := by
              rw [readLoop, dif_pos room, delivered]
            rw [result]
            exact ⟨⟨fun _ => .eof room delivered, fun _ => rfl⟩, fun _ => ⟨noted, reading⟩, nofun⟩
        | failed code negative =>
            have result : readLoop capacity reads count buffer noted =
                (.returned code, buffer) := by
              rw [readLoop, dif_pos room, delivered]
            rw [result]
            refine ⟨⟨fun zero => ?_, fun early => ?_⟩, fun zero => ?_, nofun⟩
            · cases zero
              exact absurd negative (lt_irrefl 0)
            · cases early with
              | eof _ closed => simp [delivered] at closed
              | data _ delivers _ _ => simp [delivered] at delivers
            · cases zero
              exact absurd negative (lt_irrefl 0)
        | data first rest =>
            rw [readLoop_step (stage_reading reading) room delivered]
            have early := closesEarly_data room delivered
            have longer := length_append_lt room first rest
            cases staged : stage capacity (append capacity buffer first rest) with
            | refused => exact ⟨⟨nofun, by simp [early, staged]⟩, nofun, nofun⟩
            | complete framing =>
                refine ⟨⟨nofun, by simp [early, staged]⟩, nofun, ?_⟩
                rintro _ ⟨⟩
                exact staged
            | reading later =>
                have inner := @ih (capacity - (append capacity buffer first rest).length)
                  (by omega) (count + 1) _ later staged rfl
                refine ⟨inner.zero.trans ?_, inner.zero_open, inner.complete⟩
                simp [early, staged]
      · have result : readLoop capacity reads count buffer noted = (.full, buffer) := by
          rw [readLoop, dif_neg room]
        rw [result]
        refine ⟨⟨nofun, fun early => ?_⟩, nofun, nofun⟩
        cases early with
        | eof inside _ => exact absurd inside room
        | data inside _ _ _ => exact absurd inside room

/-! ## Complete requests -/

/-- **The bytes contain the request as a whole**: a header, which is what comes before
the first empty line, then as many bytes of body as the header declares, and the
fields of the request are those of this header and this body. -/
structure Complete (bytes : List UInt8) (request : Request) (header : List UInt8) : Prop where
  split : ∃ rest, bytes = header ++ headerTerminator ++ request.body ++ rest
  first : strstr headerTerminator bytes = some header.length
  text : 0 ∉ header
  length : declaredLength header = some request.body.length
  fields : parseHeader header = some (request.method, request.path, request.authorization)

/-- The header that the code finds is the first, and it is a string. -/
theorem findHeaderEnd_some {bytes : List UInt8} {position : ℕ}
    (found : findHeaderEnd bytes = some position) :
    strstr headerTerminator bytes = some position ∧ 0 ∉ bytes.take position
      ∧ bytes.take (position + 4) = bytes.take position ++ headerTerminator := by
  obtain ⟨before, rest, same, rfl⟩ := strstr_split found
  obtain ⟨more, whole⟩ : ∃ more, cString bytes ++ more = bytes := List.takeWhile_prefix _
  have inText : ∀ byte ∈ before, byte ∈ cString bytes := by
    intro byte member
    rw [same, List.append_assoc]
    exact List.mem_append_left _ member
  refine ⟨whole ▸ strstr_append found more, ?_, ?_⟩
  · rw [← whole, same, List.append_assoc, List.append_assoc, List.take_left]
    exact fun zero => zero_notMem_cString bytes (inText 0 zero)
  · have four : (before ++ headerTerminator).length = before.length + 4 := by
      simp [headerTerminator, crlf]
    rw [← whole, same, ← four, List.append_assoc, List.take_left, List.append_assoc,
      List.take_left]

/-- A first empty line behind a string is found by the code. -/
theorem findHeaderEnd_of_first {bytes header rest : List UInt8} (text : 0 ∉ header)
    (split : bytes = header ++ headerTerminator ++ rest)
    (first : strstr headerTerminator bytes = some header.length) :
    findHeaderEnd bytes = some header.length := by
  have nonzero : 0 ∉ header ++ headerTerminator := by
    simp [headerTerminator, crlf, text]
  have found : strstr headerTerminator (header ++ headerTerminator) = some header.length := by
    rw [split] at first
    exact (strstr_append_iff (by simp) rest).mp first
  obtain ⟨more, same⟩ := cString_append (header ++ headerTerminator) rest
  rw [findHeaderEnd, split, same, cString_of_nonzero nonzero]
  exact strstr_append found more

theorem stage_complete {capacity : ℕ} {bytes : List UInt8} {framing : Framing}
    (complete : stage capacity bytes = .complete framing) :
    findHeaderEnd bytes = some framing.headerEnd
      ∧ declaredLength (bytes.take framing.headerEnd) = some framing.expected
      ∧ framing.requestLength + framing.expected ≤ bytes.length := by
  unfold stage noteHeader at complete
  cases found : findHeaderEnd bytes with
  | none => simp [found, Framing.reached] at complete
  | some position =>
      simp only [found, frame] at complete
      cases declared : declaredLength (bytes.take position) with
      | none => simp [declared] at complete
      | some expected =>
          simp only [declared] at complete
          split at complete
          · cases complete
          · rename_i noted isNoted
            split at isNoted
            · cases isNoted
            · cases isNoted
              split at complete
              · rename_i own reached
                cases complete
                rw [Framing.reached, Option.filter_eq_some_iff] at reached
                obtain ⟨same, enough⟩ := reached
                cases same
                exact ⟨rfl, declared, by simpa using enough⟩
              · cases complete

/-- What the code parses from a complete request is what its bytes contain. -/
theorem complete_of_stage {capacity : ℕ} {bytes : List UInt8} {framing : Framing}
    (complete : stage capacity bytes = .complete framing) {method path authorization : List UInt8}
    (fields : parseHeader (bytes.take framing.headerEnd) = some (method, path, authorization)) :
    Complete bytes ⟨method, path, authorization,
      (bytes.drop framing.requestLength).take framing.expected⟩ (bytes.take framing.headerEnd) := by
  obtain ⟨found, declared, enough⟩ := stage_complete complete
  obtain ⟨first, text, head⟩ := findHeaderEnd_some found
  have length : ((bytes.drop framing.requestLength).take framing.expected).length =
      framing.expected := by
    rw [List.length_take, List.length_drop]
    omega
  have within : framing.headerEnd ≤ bytes.length := by
    unfold Framing.requestLength at enough
    omega
  refine ⟨⟨(bytes.drop framing.requestLength).drop framing.expected, ?_⟩, ?_, text, ?_, fields⟩
  · rw [← head, List.append_assoc, List.take_append_drop]
    exact (List.take_append_drop _ _).symm
  · rw [first, List.length_take, Nat.min_eq_left within]
  · rw [declared, length]

/-- A request that is contained as a whole is not open any more. -/
theorem not_complete_of_reading {capacity : ℕ} {bytes : List UInt8} {noted : Option Framing}
    (reading : stage capacity bytes = .reading noted) (request : Request) (header : List UInt8) :
    ¬ Complete bytes request header := by
  rintro ⟨⟨rest, split⟩, first, text, declared, _⟩
  rw [List.append_assoc] at split
  have found := findHeaderEnd_of_first text split first
  have sameHeader : bytes.take header.length = header := by
    rw [split, List.append_assoc, List.take_left]
  have enough : header.length + 4 + request.body.length ≤ bytes.length := by
    rw [split]
    simp [headerTerminator, crlf]
    omega
  unfold stage noteHeader at reading
  simp only [found, frame, sameHeader, declared] at reading
  split at reading
  · cases reading
  · rename_i own isNoted
    split at isNoted
    · cases isNoted
    · cases isNoted
      have reached : Framing.reached (some ⟨header.length, request.body.length⟩) bytes =
          some ⟨header.length, request.body.length⟩ :=
        Option.filter_eq_some_iff.mpr ⟨rfl, decide_eq_true enough⟩
      simp [reached] at reading

/-- The three ways in which `apiService_ReadRequest` ends, whatever the request
variable holds: the peer has closed early, and zero is returned for a request that is
still open; another value is returned; or zero is returned and the request was
parsed from the bytes received. -/
theorem readRequest_cases (capacity : ℕ) (reads : ℕ → Read) :
    (ClosesEarly capacity reads 0 [] ∧ ∃ received noted,
        stage capacity received = .reading noted
          ∧ ∀ request, readRequest capacity reads request = ⟨0, request, received⟩)
      ∨ (¬ ClosesEarly capacity reads 0 [] ∧ ∃ code received, code ≠ 0
          ∧ ∀ request, ∃ left, readRequest capacity reads request = ⟨code, left, received⟩)
      ∨ (¬ ClosesEarly capacity reads 0 [] ∧ ∃ parsed header received,
          Complete received parsed header
            ∧ ∀ request, readRequest capacity reads request = ⟨0, parsed, received⟩) := by
  have ends : EndsWell capacity reads 0 [] _ _ :=
    readLoop_endsWell (show stage capacity [] = .reading none from rfl)
  cases result : readLoop capacity reads 0 [] none with
  | mk ended received =>
      rw [result] at ends
      have late : ended ≠ .returned 0 → ¬ ClosesEarly capacity reads 0 [] := fun other early =>
        other (ends.zero.mpr early)
      cases ended with
      | returned code =>
          by_cases zero : code = 0
          · subst zero
            obtain ⟨noted, reading⟩ := ends.zero_open rfl
            exact .inl ⟨ends.zero.mp rfl, received, noted, reading, by simp [readRequest, result]⟩
          · refine .inr (.inl ⟨late (by simpa using zero), code, received, zero, ?_⟩)
            simp [readRequest, result]
      | full =>
          refine .inr (.inl ⟨late nofun, badInputData, received, by decide, ?_⟩)
          simp [readRequest, result]
      | complete framing =>
          cases fields : parseHeader (received.take framing.headerEnd) with
          | none =>
              refine .inr (.inl ⟨late nofun, badInputData, received, by decide, ?_⟩)
              simp [readRequest, result, fields]
          | some parsed =>
              obtain ⟨method, path, authorization⟩ := parsed
              refine .inr (.inr ⟨late nofun, _, _, received,
                complete_of_stage (ends.complete framing rfl) fields, ?_⟩)
              simp [readRequest, result, fields]

/-! ## The task -/

/-- The peer of an established connection closes it while its request is open. -/
def Connection.ClosesEarly (connection : Connection) : Prop :=
  connection.established = true ∧ ApiService.ClosesEarly requestSize connection.reads 0 []

/-- What the task does with a connection is right: a request that it dispatches is
complete in the bytes received on the connection, and what it does does not depend on
what the request variable held before. -/
structure Connection.Served (connection : Connection) : Prop where
  complete : ∀ request, serve connection = .dispatch request →
    ∃ header, Complete connection.received request header
  independent : ∀ uninitialised, serve { connection with uninitialised := uninitialised } =
    serve connection

/-- A request that was read without an early close is complete, and the variable it
is put in does not matter. -/
theorem served_of_not_closesEarly {connection : Connection} (late : ¬ connection.ClosesEarly) :
    connection.Served := by
  obtain ⟨established, reads, uninitialised⟩ := connection
  cases established with
  | false => exact ⟨nofun, fun _ => rfl⟩
  | true =>
      rcases readRequest_cases requestSize reads with ⟨early, _⟩ |
        ⟨_, code, received, nonzero, result⟩ | ⟨_, parsed, header, received, complete, result⟩
      · exact absurd ⟨rfl, early⟩ late
      · have refused (held : Request) :
            serve ⟨true, reads, held⟩ = .badRequest := by
          obtain ⟨left, same⟩ := result held
          simp [serve, same, nonzero]
        constructor
        · intro request dispatched
          cases (refused uninitialised).symm.trans dispatched
        · intro other
          exact (refused other).trans (refused uninitialised).symm
      · constructor
        · intro request dispatched
          simp only [serve, result, if_true, Action.dispatch.injEq] at dispatched
          subst dispatched
          simp only [Connection.received, result, if_true]
          exact ⟨header, complete⟩
        · intro other
          simp [serve, result]

/-- After an early close the task dispatches whatever the request variable holds. -/
theorem dispatch_of_closesEarly {connection : Connection} (early : connection.ClosesEarly) :
    serve connection = .dispatch connection.uninitialised
      ∧ ∃ noted, stage requestSize connection.received = .reading noted := by
  obtain ⟨established, reads, uninitialised⟩ := connection
  obtain ⟨isEstablished, closed⟩ := early
  cases isEstablished
  rcases readRequest_cases requestSize reads with ⟨_, received, noted, reading, result⟩ |
    ⟨late, _⟩ | ⟨late, _⟩
  · simp only [serve, Connection.received, result, if_true]
    exact ⟨trivial, noted, reading⟩
  · exact absurd closed late
  · exact absurd closed late

/-- **Requests are dispatched as they were received exactly if no peer closes its
connection early.** For every sequence of connections: each dispatched request is
complete in the bytes of its own connection, and no connection's effect depends on
what an earlier one has left in the request variable, if and only if no peer closes
an established connection without notice before its request is complete or refused. -/
theorem dispatch_complete_iff (connections : List Connection) :
    (∀ connection ∈ connections, connection.Served) ↔
      ∀ connection ∈ connections, ¬ connection.ClosesEarly := by
  constructor
  · intro served connection member early
    obtain ⟨dispatched, noted, reading⟩ := dispatch_of_closesEarly early
    obtain ⟨header, complete⟩ := (served connection member).complete _ dispatched
    exact not_complete_of_reading reading _ _ complete
  · intro late connection member
    exact served_of_not_closesEarly (late connection member)

/-- What an earlier connection may have left: a request of an administrator. -/
def leftOver : Request :=
  ⟨ascii "DELETE", ascii "/api/v1/trust-anchors", AuthService.hex (List.replicate 32 1), []⟩

/-- A peer that connects and closes at once. -/
def silentPeer : Connection := ⟨true, fun _ => .eof, leftOver⟩

/-- **A peer that sends nothing at all has the request dispatched that is left over
from before it.** -/
theorem silentPeer_dispatches_leftOver :
    silentPeer.received = [] ∧ serve silentPeer = .dispatch leftOver
      ∧ ¬ silentPeer.Served := by
  have early : silentPeer.ClosesEarly := ⟨rfl, .eof (by decide) rfl⟩
  obtain ⟨dispatched, noted, reading⟩ := dispatch_of_closesEarly early
  refine ⟨?_, dispatched, ?_⟩
  · simp [Connection.received, silentPeer, readRequest, readLoop, requestSize]
  · intro served
    obtain ⟨header, complete⟩ := served.complete _ dispatched
    exact not_complete_of_reading reading _ _ complete

end HealthCheckFirmware.ApiService
