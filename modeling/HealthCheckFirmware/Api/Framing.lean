import HealthCheckFirmware.Api.Wire

/-!
# Framing does not depend on fragmentation

Whatever pieces a stream is read in, the loop of `apiService_ReadRequest` stops on some
beginning of it. What has been decided on one beginning stays decided on every longer
one (`stage_append`), and the parsed fields come from the part that decided it. So two
deliveries of one stream give the same result (`framing_independent`), together with
what a successful result says about the stream and with the bounds of the buffer. A
request that is not read has been refused (`readRequest_refuses`).
-/

set_option autoImplicit false

namespace HealthCheckFirmware.ApiService

/-! ## Deliveries -/

/-- The bytes in the buffer after a number of reads. -/
def bufferAfter (capacity : ℕ) (reads : ℕ → Read) : ℕ → List UInt8
  | 0 => []
  | count + 1 =>
      match reads count with
      | .data first rest => append capacity (bufferAfter capacity reads count) first rest
      | .eof => bufferAfter capacity reads count
      | .failed _ _ => bufferAfter capacity reads count

/-- With these bytes in the buffer, the code reads on. -/
def Asks (capacity : ℕ) (bytes : List UInt8) : Prop :=
  bytes.length < capacity - 1 ∧ ∃ noted, stage capacity bytes = .reading noted

/-- The reads deliver the stream, which lasts as long as the code reads on. -/
def Delivers (capacity : ℕ) (stream : List UInt8) (reads : ℕ → Read) : Prop :=
  ∀ count, (∀ earlier ≤ count, Asks capacity (bufferAfter capacity reads earlier)) →
    (∃ first rest, reads count = .data first rest) ∧
      bufferAfter capacity reads (count + 1) <+: stream

variable {capacity : ℕ} {stream bytes : List UInt8} {reads : ℕ → Read}

/-- **The buffer is never overrun**: there is always room for the zero byte behind its
contents. -/
theorem length_bufferAfter (positive : 0 < capacity) (reads : ℕ → Read) (count : ℕ) :
    (bufferAfter capacity reads count).length < capacity := by
  induction count with
  | zero => exact positive
  | succ count ih =>
      rw [bufferAfter]
      split
      · rw [append, List.length_append, List.length_take]
        omega
      · exact ih
      · exact ih

/-! ## Decisions are final -/

/-- How the loop ends on some bytes on which it does not read on. -/
def verdict (capacity : ℕ) (bytes : List UInt8) : Ended :=
  match stage capacity bytes with
  | .refused => .returned badInputData
  | .complete framing => .complete framing
  | .reading _ => .full

/-- What is decided on some bytes is decided on more bytes in the same way. -/
theorem stage_append {decided : Stage} (same : stage capacity bytes = decided)
    (final : ∀ noted, decided ≠ .reading noted) (more : List UInt8) :
    stage capacity (bytes ++ more) = decided := by
  subst same
  cases found : findHeaderEnd bytes with
  | none =>
      have reading : stage capacity bytes = .reading none := by
        simp [stage, noteHeader, found, Framing.reached]
      exact absurd reading (final none)
  | some position =>
      obtain ⟨foundLater, sameHeader⟩ := findHeaderEnd_append found more
      have sameFrame : frame capacity (bytes ++ more) position = frame capacity bytes position := by
        rw [frame, frame, sameHeader]
      simp only [stage, noteHeader, found, foundLater, sameFrame] at final ⊢
      cases framed : frame capacity bytes position with
      | none => rfl
      | some framing =>
          simp only [framed, Option.map_some] at final ⊢
          by_cases enough : framing.requestLength + framing.expected ≤ bytes.length
          · have longer :
                framing.requestLength + framing.expected ≤ bytes.length + more.length := by
              omega
            simp [Framing.reached, Option.filter, enough, longer]
          · refine absurd ?_ (final (some framing))
            simp [Framing.reached, Option.filter, enough]

/-! ## The end of the loop -/

/-- The loop stops on the bytes of some number of reads, which begin the stream, and it
ends as these bytes decide. -/
theorem readLoop_delivered (delivers : Delivers capacity stream reads) :
    ∃ final, bufferAfter capacity reads final <+: stream ∧
      ¬ Asks capacity (bufferAfter capacity reads final) ∧
        readLoop capacity reads 0 [] none =
          (verdict capacity (bufferAfter capacity reads final), bufferAfter capacity reads final) := by
  have from_ (count : ℕ) (noted : Option Framing)
      (begins : bufferAfter capacity reads count <+: stream)
      (asked : ∀ earlier < count, Asks capacity (bufferAfter capacity reads earlier))
      (reading : stage capacity (bufferAfter capacity reads count) = .reading noted) :
      ∃ final, bufferAfter capacity reads final <+: stream ∧
        ¬ Asks capacity (bufferAfter capacity reads final) ∧
          readLoop capacity reads count (bufferAfter capacity reads count) noted =
            (verdict capacity (bufferAfter capacity reads final),
              bufferAfter capacity reads final) := by
    induction remaining : capacity - (bufferAfter capacity reads count).length
      using Nat.strong_induction_on generalizing count noted with
    | _ remaining ih =>
        by_cases room : (bufferAfter capacity reads count).length < capacity - 1
        · have asks : Asks capacity (bufferAfter capacity reads count) := ⟨room, noted, reading⟩
          have always : ∀ earlier ≤ count, Asks capacity (bufferAfter capacity reads earlier) := by
            intro earlier upTo
            rcases Nat.lt_or_eq_of_le upTo with before | rfl
            · exact asked earlier before
            · exact asks
          obtain ⟨⟨first, rest, delivered⟩, next⟩ := delivers count always
          have after : bufferAfter capacity reads (count + 1) =
              append capacity (bufferAfter capacity reads count) first rest := by
            rw [bufferAfter, delivered]
          have longer := length_append_lt room first rest
          rw [readLoop_step (stage_reading reading) room delivered, ← after]
          cases staged : stage capacity (bufferAfter capacity reads (count + 1)) with
          | refused =>
              refine ⟨count + 1, next, ?_, by simp [verdict, staged]⟩
              rintro ⟨-, open_, still⟩
              cases staged.symm.trans still
          | complete framing =>
              refine ⟨count + 1, next, ?_, by simp [verdict, staged]⟩
              rintro ⟨-, open_, still⟩
              cases staged.symm.trans still
          | reading later =>
              exact ih _ (by rw [after]; omega) (count + 1) later next
                (fun earlier before => always earlier (Nat.lt_succ_iff.mp before)) staged rfl
        · refine ⟨count, begins, fun asks => room asks.1, ?_⟩
          rw [readLoop, dif_neg room, verdict, reading]
  exact from_ 0 none (List.nil_prefix) (by omega) rfl

/-- What is returned and left in the request variable, once the loop has ended. -/
def conclude (request : Request) : Ended × List UInt8 → ReadResult
  | (.returned code, buffer) => ⟨code, request, buffer⟩
  | (.full, buffer) => ⟨badInputData, request, buffer⟩
  | (.complete framing, buffer) =>
      match parseHeader (buffer.take framing.headerEnd) with
      | none => ⟨badInputData, partlyParsed (buffer.take framing.headerEnd) request, buffer⟩
      | some (method, path, authorization) =>
          ⟨0, ⟨method, path, authorization,
            (buffer.drop framing.requestLength).take framing.expected⟩, buffer⟩

theorem readRequest_eq_conclude (reads : ℕ → Read) (request : Request) :
    readRequest capacity reads request =
      conclude request (readLoop capacity reads 0 [] none) := by
  rw [readRequest]
  rcases readLoop capacity reads 0 [] none with ⟨code | - | framing, buffer⟩
  · rfl
  · rfl
  · rfl

/-- Bytes behind a complete request do not change what is made of it. -/
theorem conclude_append {framing : Framing}
    (complete : stage capacity bytes = .complete framing) (more : List UInt8) (request : Request) :
    (conclude request (.complete framing, bytes ++ more)).result =
        (conclude request (.complete framing, bytes)).result ∧
      (conclude request (.complete framing, bytes ++ more)).request =
        (conclude request (.complete framing, bytes)).request := by
  obtain ⟨-, -, enough⟩ := stage_complete complete
  have header : (bytes ++ more).take framing.headerEnd = bytes.take framing.headerEnd := by
    refine List.take_append_of_le_length ?_
    rw [Framing.requestLength] at enough
    omega
  have body : ((bytes ++ more).drop framing.requestLength).take framing.expected =
      (bytes.drop framing.requestLength).take framing.expected := by
    rw [List.drop_append_of_le_length (by omega), List.take_append_of_le_length]
    rw [List.length_drop]
    omega
  simp only [conclude, header, body]
  cases parseHeader (bytes.take framing.headerEnd) with
  | none => exact ⟨rfl, rfl⟩
  | some fields => exact ⟨rfl, rfl⟩

/-- Two beginnings of a stream on which the loop stops lead to the same conclusion. -/
theorem conclude_of_stopped {more : List UInt8} (stopped : ¬ Asks capacity bytes)
    (within : (bytes ++ more).length < capacity) (request : Request) :
    (conclude request (verdict capacity (bytes ++ more), bytes ++ more)).result =
        (conclude request (verdict capacity bytes, bytes)).result ∧
      (conclude request (verdict capacity (bytes ++ more), bytes ++ more)).request =
        (conclude request (verdict capacity bytes, bytes)).request := by
  cases staged : stage capacity bytes with
  | reading noted =>
      -- The buffer is full, so there are no more bytes.
      have full : ¬ bytes.length < capacity - 1 := fun room => stopped ⟨room, noted, staged⟩
      have nothing : more = [] := by
        rw [List.length_append] at within
        exact List.eq_nil_of_length_eq_zero (by omega)
      rw [nothing, List.append_nil]
      exact ⟨rfl, rfl⟩
  | refused =>
      have later := stage_append staged nofun more
      simp [verdict, staged, later, conclude]
  | complete framing =>
      have later := stage_append staged nofun more
      simp only [verdict, staged, later]
      exact conclude_append staged more request

/-- **Two deliveries of a stream are read alike.** -/
theorem readRequest_delivered (positive : 0 < capacity) {others : ℕ → Read}
    (delivers : Delivers capacity stream reads) (delivers' : Delivers capacity stream others)
    (request : Request) :
    (readRequest capacity reads request).result =
        (readRequest capacity others request).result ∧
      (readRequest capacity reads request).request =
        (readRequest capacity others request).request := by
  obtain ⟨final, begins, stopped, ended⟩ := readLoop_delivered delivers
  obtain ⟨final', begins', stopped', ended'⟩ := readLoop_delivered delivers'
  have within := length_bufferAfter positive reads final
  have within' := length_bufferAfter positive others final'
  rw [readRequest_eq_conclude, readRequest_eq_conclude, ended, ended']
  rcases List.prefix_or_prefix_of_prefix begins begins' with ⟨more, longer⟩ | ⟨more, longer⟩
  · rw [← longer] at within' ⊢
    obtain ⟨result, left⟩ := conclude_of_stopped stopped within' request
    exact ⟨result.symm, left.symm⟩
  · rw [← longer] at within ⊢
    exact conclude_of_stopped stopped' within request

/-! ## The declared length -/

/-- The text behind the name of the first header line of a name. -/
def FirstLine (name header value : List UInt8) : Prop :=
  ∃ before, header = before ++ (crlf ++ name) ++ value ∧
    strstr (crlf ++ name) header = some before.length

/-- No header line has the name. -/
def NoLine (name header : List UInt8) : Prop := ¬ (crlf ++ name) <:+: header

/-- A number as the value of a header line: digits, perhaps with blanks around them. -/
def DecimalValue (value : List UInt8) (number : ℕ) : Prop :=
  ∃ blanks digits trailing rest, value = blanks ++ digits ++ trailing ++ rest ∧
    (∀ byte ∈ blanks, isBlank byte = true) ∧ digits ≠ [] ∧
      (∀ byte ∈ digits, isDigit byte = true) ∧ (∀ byte ∈ trailing, isBlank byte = true) ∧
        (rest = [] ∨ rest.head? = some 0x0D) ∧ number = decimal digits

/-- The length that a header gives to the body. -/
inductive BodyLength (header : List UInt8) : ℕ → Prop
  | capital {value : List UInt8} {number : ℕ}
      (first : FirstLine (ascii "Content-Length:") header value)
      (written : DecimalValue value number) : BodyLength header number
  | small {value : List UInt8} {number : ℕ} (noCapital : NoLine (ascii "Content-Length:") header)
      (first : FirstLine (ascii "content-length:") header value)
      (written : DecimalValue value number) : BodyLength header number
  | none (noCapital : NoLine (ascii "Content-Length:") header)
      (noSmall : NoLine (ascii "content-length:") header) : BodyLength header 0

/-- The code looks for the line of a name as the first one. -/
theorem firstLine_of_strstr {name header : List UInt8} {position : ℕ}
    (found : strstr (crlf ++ name) header = some position) :
    FirstLine name header (header.drop (position + (crlf ++ name).length)) := by
  obtain ⟨before, rest, split, rfl⟩ := strstr_split found
  refine ⟨before, ?_, found⟩
  rw [split, ← List.length_append, List.drop_left]

/-- What the code takes as the value of a header line is written there. -/
theorem decimalValue_of_strtoul {value rest : List UInt8} {parsed : UInt32}
    (digit : ((value.dropWhile isBlank).head?.map isDigit).getD false = true)
    (converted : strtoul (value.dropWhile isBlank) = some (parsed, false, rest))
    (ends : rest.dropWhile isBlank = [] ∨ (rest.dropWhile isBlank).head? = some 0x0D) :
    DecimalValue value parsed.toNat := by
  obtain ⟨digits, split, nonempty, all, isDecimal⟩ := strtoul_of_digit digit converted
  refine ⟨value.takeWhile isBlank, digits, rest.takeWhile isBlank, rest.dropWhile isBlank, ?_,
    fun _ member => List.mem_takeWhile_imp member, nonempty, all,
    fun _ member => List.mem_takeWhile_imp member, ends, isDecimal⟩
  rw [List.append_assoc, List.takeWhile_append_dropWhile, List.append_assoc, ← split,
    List.takeWhile_append_dropWhile]

/-- **The length that the code expects is the one that the header gives**, and no body is
longer than its limit. -/
theorem bodyLength_of_declaredLength {header : List UInt8} {number : ℕ}
    (declared : declaredLength header = some number) :
    BodyLength header number ∧ number ≤ bodySize := by
  have length : (crlf ++ ascii "Content-Length:").length = 17 ∧
      (crlf ++ ascii "content-length:").length = 17 := by decide
  -- One of the two spellings was found, and what is behind it was read.
  have written (position : ℕ)
      (isValue : contentLengthValue header =
        some ((header.drop (position + 17)).dropWhile isBlank)) :
      DecimalValue (header.drop (position + 17)) number ∧ number ≤ bodySize := by
    simp only [declaredLength, isValue] at declared
    split at declared
    · rename_i digit
      split at declared
      · cases declared
      · rename_i parsed outOfRange rest converted
        split at declared
        · cases declared
        · rename_i accepted
          cases declared
          rw [not_or, not_or, not_not, Nat.not_lt, Bool.not_eq_true] at accepted
          obtain ⟨inRange, ends, small⟩ := accepted
          subst inRange
          exact ⟨decimalValue_of_strtoul digit converted ends, small⟩
    · cases declared
  cases capital : strstr (crlf ++ ascii "Content-Length:") header with
  | some position =>
      have isValue : contentLengthValue header =
          some ((header.drop (position + 17)).dropWhile isBlank) := by
        simp [contentLengthValue, capital]
      obtain ⟨decimalValue, small⟩ := written position isValue
      have first := firstLine_of_strstr capital
      rw [length.1] at first
      exact ⟨.capital first decimalValue, small⟩
  | none =>
      have noCapital := strstr_eq_none_iff.mp capital
      cases lower : strstr (crlf ++ ascii "content-length:") header with
      | some position =>
          have isValue : contentLengthValue header =
              some ((header.drop (position + 17)).dropWhile isBlank) := by
            simp [contentLengthValue, capital, lower]
          obtain ⟨decimalValue, small⟩ := written position isValue
          have first := firstLine_of_strstr lower
          rw [length.2] at first
          exact ⟨.small noCapital first decimalValue, small⟩
      | none =>
          have isValue : contentLengthValue header = none := by
            simp [contentLengthValue, capital, lower]
          have zero : number = 0 := by simpa [declaredLength, isValue] using declared.symm
          subst zero
          exact ⟨.none noCapital (strstr_eq_none_iff.mp lower), Nat.zero_le _⟩

/-! ## The buffer -/

/-- The indices of the buffer that the code touches: those that the bytes of a read are
stored at and that of the zero byte behind them, which all searches and conversions in
the text stop at, and that of the zero byte which ends the body. -/
inductive Touches (capacity : ℕ) (reads : ℕ → Read) : ℕ → Prop
  | text {count index : ℕ} (stored : index ≤ (bufferAfter capacity reads (count + 1)).length) :
      Touches capacity reads index
  | bodyEnd {framing : Framing} {buffer : List UInt8}
      (ended : readLoop capacity reads 0 [] none = (.complete framing, buffer)) :
      Touches capacity reads (framing.requestLength + framing.expected)

/-- The buffer that a successful call leaves: the bytes received and the zero byte behind
them, and the zero byte that ends the body. -/
def finalBuffer (headerLength : ℕ) (read : ReadResult) : List UInt8 :=
  (read.received ++ [0]).set (headerLength + 4 + read.request.body.length) 0

/-- A request that is accepted fits in the buffer, with the zero byte behind it. -/
theorem frame_fits {position : ℕ} {framing : Framing}
    (framed : frame capacity bytes position = some framing) :
    framing.requestLength + framing.expected < capacity := by
  rw [frame] at framed
  split at framed
  · cases framed
  · split at framed
    · cases framed
    · rename_i fits
      cases framed
      dsimp only [Framing.requestLength]
      omega

theorem stage_complete_fits {framing : Framing}
    (complete : stage capacity bytes = .complete framing) :
    framing.requestLength + framing.expected < capacity := by
  unfold stage noteHeader at complete
  cases found : findHeaderEnd bytes with
  | none => simp [found, Framing.reached] at complete
  | some position =>
      cases framed : frame capacity bytes position with
      | none => simp [found, framed] at complete
      | some own =>
          have same : own = framing := by
            simp only [found, framed, Option.map_some, Framing.reached] at complete
            split at complete
            · rename_i other isOther
              cases complete
              exact (Option.some.inj (Option.filter_eq_some_iff.mp isOther).1)
            · cases complete
          exact same ▸ frame_fits framed

/-- **Every index that is touched lies in the buffer.** -/
theorem Touches.lt_capacity (positive : 0 < capacity) {index : ℕ}
    (touches : Touches capacity reads index) : index < capacity := by
  cases touches with
  | text stored => exact Nat.lt_of_le_of_lt stored (length_bufferAfter positive reads _)
  | bodyEnd ended =>
      have ends := @readLoop_endsWell capacity reads 0 [] none rfl
      rw [ended] at ends
      exact stage_complete_fits (ends.complete _ rfl)

/-! ## The result -/

/-- A request that the bytes contain is contained in what they begin. -/
theorem Complete.of_prefix {request : Request} {header : List UInt8}
    (complete : Complete bytes request header) (begins : bytes <+: stream) :
    Complete stream request header := by
  obtain ⟨more, rfl⟩ := begins
  obtain ⟨⟨rest, split⟩, first, text, length, fields⟩ := complete
  refine ⟨⟨rest ++ more, ?_⟩, strstr_append first more, text, length, fields⟩
  rw [split, List.append_assoc]

/-- A zero byte written behind a text, where there are bytes up to another one. -/
theorem set_end (front rest : List UInt8) :
    ∃ left, (front ++ rest ++ [0]).set front.length 0 = front ++ 0 :: left := by
  rw [List.append_assoc, List.set_append_right _ _ le_rfl, Nat.sub_self]
  cases rest with
  | nil => exact ⟨[], rfl⟩
  | cons byte rest => exact ⟨rest ++ [0], rfl⟩

/-- What a successful result says about the stream: the request is contained in it as
a whole, its body has the length that the header gives, and in the buffer it ends with
a zero byte. -/
structure Read.Sound (capacity : ℕ) (stream : List UInt8) (read : ReadResult)
    (header : List UInt8) : Prop where
  complete : Complete stream read.request header
  declared : BodyLength header read.request.body.length
  limited : read.request.body.length ≤ bodySize
  buffered : ∃ rest, finalBuffer header.length read =
    header ++ headerTerminator ++ read.request.body ++ 0 :: rest
  fits : (finalBuffer header.length read).length ≤ capacity

theorem sound_of_result (positive : 0 < capacity) (delivers : Delivers capacity stream reads)
    (request : Request) (succeeds : (readRequest capacity reads request).result = 0) :
    ∃ header, Read.Sound capacity stream (readRequest capacity reads request) header := by
  obtain ⟨final, begins, stopped, ended⟩ := readLoop_delivered delivers
  have within := length_bufferAfter positive reads final
  generalize bufferAfter capacity reads final = bytes at begins stopped ended within
  rw [readRequest_eq_conclude, ended] at succeeds ⊢
  cases staged : stage capacity bytes with
  | reading noted => simp [verdict, staged, conclude, badInputData] at succeeds
  | refused => simp [verdict, staged, conclude, badInputData] at succeeds
  | complete framing =>
      rw [verdict, staged] at succeeds ⊢
      simp only [conclude] at succeeds ⊢
      cases fields : parseHeader (bytes.take framing.headerEnd) with
      | none => simp [fields, badInputData] at succeeds
      | some parsed =>
          obtain ⟨method, path, authorization⟩ := parsed
          have complete := complete_of_stage staged fields
          obtain ⟨declared, limited⟩ := bodyLength_of_declaredLength complete.length
          refine ⟨bytes.take framing.headerEnd, complete.of_prefix begins, declared, limited, ?_, ?_⟩
          · obtain ⟨rest, split⟩ := complete.split
            obtain ⟨left, same⟩ := set_end (bytes.take framing.headerEnd ++ headerTerminator ++
              (bytes.drop framing.requestLength).take framing.expected) rest
            refine ⟨left, ?_⟩
            rw [← same, ← split, finalBuffer, List.length_append, List.length_append]
            rfl
          · simp [finalBuffer]
            omega

/-- The header of a complete request is what comes before the first empty line. -/
theorem Complete.header_eq {request : Request} {header : List UInt8}
    (complete : Complete stream request header) : stream.take header.length = header := by
  obtain ⟨rest, split⟩ := complete.split
  rw [split, List.append_assoc, List.append_assoc, List.take_left]

theorem Complete.body_eq {request : Request} {header : List UInt8}
    (complete : Complete stream request header) :
    (stream.drop (header.length + 4)).take request.body.length = request.body := by
  obtain ⟨rest, split⟩ := complete.split
  have four : (header ++ headerTerminator).length = header.length + 4 := List.length_append
  rw [split, ← four, List.append_assoc (header ++ headerTerminator), List.drop_left,
    List.take_left]

/-- A stream contains one complete request at most. -/
theorem Complete.unique {request other : Request} {header otherHeader : List UInt8}
    (complete : Complete stream request header) (complete' : Complete stream other otherHeader) :
    request = other ∧ header = otherHeader := by
  have sameLength : header.length = otherHeader.length :=
    Option.some.inj (complete.first.symm.trans complete'.first)
  have sameHeader : header = otherHeader := by
    rw [← complete.header_eq, ← complete'.header_eq, sameLength]
  subst sameHeader
  have sameBodyLength : request.body.length = other.body.length :=
    Option.some.inj (complete.length.symm.trans complete'.length)
  have sameBody : request.body = other.body := by
    rw [← complete.body_eq, ← complete'.body_eq, sameBodyLength]
  have fields := Option.some.inj (complete.fields.symm.trans complete'.fields)
  simp only [Prod.mk.injEq] at fields
  obtain ⟨sameMethod, samePath, sameToken⟩ := fields
  cases request
  cases other
  simp only at sameMethod samePath sameToken sameBody
  exact ⟨by rw [sameMethod, samePath, sameToken, sameBody], rfl⟩

/-- A complete request is one in the part of the stream that ends with it. -/
theorem Complete.take {request : Request} {header : List UInt8}
    (complete : Complete stream request header) :
    Complete (stream.take (header.length + 4 + request.body.length)) request header := by
  obtain ⟨⟨rest, split⟩, first, text, length, fields⟩ := complete
  have whole : (header ++ headerTerminator ++ request.body).length =
      header.length + 4 + request.body.length := by
    rw [List.length_append, List.length_append]
    rfl
  have taken : stream.take (header.length + 4 + request.body.length) =
      header ++ headerTerminator ++ request.body := by
    rw [split, ← whole, List.take_left]
  refine ⟨⟨[], by rw [taken, List.append_nil]⟩, ?_, text, length, fields⟩
  rw [taken]
  rw [split] at first
  refine (strstr_append_iff ?_ rest).mp first
  rw [whole]
  simp only [headerTerminator, crlf, List.length_append, List.length_cons, List.length_nil]
  omega

/-- **A request is read exactly if it is complete and fits in the buffer.** -/
theorem readRequest_succeeds_iff (positive : 0 < capacity)
    (delivers : Delivers capacity stream reads) (held request : Request) :
    ((readRequest capacity reads held).result = 0 ∧
        (readRequest capacity reads held).request = request) ↔
      ∃ header, Complete stream request header ∧
        header.length + 4 + request.body.length < capacity := by
  constructor
  · rintro ⟨succeeds, rfl⟩
    obtain ⟨header, sound⟩ := sound_of_result positive delivers held succeeds
    refine ⟨header, sound.complete, ?_⟩
    obtain ⟨rest, split⟩ := sound.buffered
    have length := congrArg List.length split
    have fits := sound.fits
    have four : headerTerminator.length = 4 := rfl
    simp only [List.length_append, List.length_cons] at length
    omega
  · rintro ⟨header, complete, fits⟩
    obtain ⟨final, begins, stopped, ended⟩ := readLoop_delivered delivers
    have within := length_bufferAfter positive reads final
    generalize bufferAfter capacity reads final = bytes at begins stopped ended within
    have taken := complete.take
    -- What the loop has stopped on contains the request or is decided as the request is.
    have contained : Complete bytes request header := by
      have length : (stream.take (header.length + 4 + request.body.length)).length < capacity :=
        (List.length_take_le _ _).trans_lt fits
      have decided := stage_of_complete taken length
      rcases List.prefix_or_prefix_of_prefix begins (List.take_prefix _ stream) with
        ⟨more, longer⟩ | shorter
      · cases staged : stage capacity bytes with
        | reading noted =>
            have full : ¬ bytes.length < capacity - 1 := fun room => stopped ⟨room, noted, staged⟩
            rw [← longer, List.length_append] at length
            have nothing : more = [] := List.eq_nil_of_length_eq_zero (by omega)
            rw [nothing, List.append_nil] at longer
            exact longer ▸ taken
        | refused =>
            have later := stage_append staged nofun more
            rw [longer, decided] at later
            cases later
        | complete framing =>
            have later := stage_append staged nofun more
            rw [longer, decided] at later
            cases later
            obtain ⟨-, -, enough⟩ := stage_complete staged
            have atMost := List.length_take_le (header.length + 4 + request.body.length) stream
            rw [← longer, List.length_append] at atMost
            dsimp only [Framing.requestLength] at enough
            have nothing : more = [] := List.eq_nil_of_length_eq_zero (by omega)
            rw [nothing, List.append_nil] at longer
            exact longer ▸ taken
      · exact taken.of_prefix shorter
    have room : bytes.length < capacity := within
    rw [readRequest_eq_conclude, ended, verdict, stage_of_complete contained room]
    simp only [conclude, contained.header_eq, contained.fields, Framing.requestLength,
      contained.body_eq]
    exact ⟨trivial, trivial⟩

/-- What is not read is refused. -/
theorem readRequest_refuses (delivers : Delivers capacity stream reads) (held : Request)
    (fails : (readRequest capacity reads held).result ≠ 0) :
    (readRequest capacity reads held).result = badInputData := by
  obtain ⟨final, -, -, ended⟩ := readLoop_delivered delivers
  rw [readRequest_eq_conclude, ended] at fails ⊢
  generalize bufferAfter capacity reads final = bytes at fails ⊢
  cases staged : stage capacity bytes with
  | refused => simp only [verdict, staged, conclude]
  | reading noted => simp only [verdict, staged, conclude]
  | complete framing =>
      simp only [verdict, staged, conclude] at fails ⊢
      cases parsed : parseHeader (bytes.take framing.headerEnd) with
      | none => simp only
      | some fields => simp [parsed] at fails

/-- **Framing does not depend on fragmentation.** For every stream and every buffer of at
least two bytes: two deliveries of the stream that last until the code stops reading have
the same result and leave the same fields; after a success the body has the length that
the header gives, it is what follows the first empty line, and it ends with a zero byte;
and whatever is read, every index that is touched lies in the buffer. -/
theorem framing_independent (two : 2 ≤ capacity) (stream : List UInt8) (request : Request) :
    (∀ reads others, Delivers capacity stream reads → Delivers capacity stream others →
      (readRequest capacity reads request).result =
          (readRequest capacity others request).result ∧
        (readRequest capacity reads request).request =
          (readRequest capacity others request).request) ∧
      (∀ reads, Delivers capacity stream reads → (readRequest capacity reads request).result = 0 →
        ∃ header, Read.Sound capacity stream (readRequest capacity reads request) header) ∧
      ∀ reads index, Touches capacity reads index → index < capacity := by
  have positive : 0 < capacity := by omega
  refine ⟨?_, ?_, ?_⟩
  · intro reads others delivers delivers'
    exact readRequest_delivered positive delivers delivers' request
  · intro reads delivers succeeds
    exact sound_of_result positive delivers request succeeds
  · intro reads index touches
    exact touches.lt_capacity positive

/-- A request with a body of two bytes. -/
def greeting : List UInt8 :=
  ascii "PUT /a HTTP/1.1\r\nContent-Length: 2" ++ headerTerminator ++ ascii "hi"

/-- The two pieces that it may arrive in: all but its last byte, and this byte. -/
def inTwoPieces : ℕ → Read
  | 0 => .data 0x50 (ascii "UT /a HTTP/1.1\r\nContent-Length: 2\r\n\r\nh")
  | _ + 1 => .data 0x69 []

theorem complete_greeting :
    Complete greeting ⟨ascii "PUT", ascii "/a", [], ascii "hi"⟩
      (ascii "PUT /a HTTP/1.1\r\nContent-Length: 2") where
  split := ⟨[], by decide⟩
  first := by decide
  text := by decide
  length := by decide
  fields := by decide

/-- A stream that is decided as a whole, or fills the buffer, may arrive at once. -/
theorem delivers_whole {first : UInt8} {rest : List UInt8} (whole : stream = first :: rest)
    (decided : stream.length < capacity → ∀ noted, stage capacity stream ≠ .reading noted) :
    Delivers capacity stream fun _ => .data first rest := by
  have after : bufferAfter capacity (fun _ => .data first rest) 1 = stream.take (capacity - 1) := by
    rw [whole]
    simp only [bufferAfter, append, List.nil_append, List.length_nil, Nat.sub_zero]
  intro count always
  cases count with
  | zero => exact ⟨⟨first, rest, rfl⟩, after ▸ List.take_prefix _ _⟩
  | succ count =>
      obtain ⟨room, noted, reading⟩ := always 1 (by omega)
      rw [after] at room reading
      rw [List.length_take] at room
      have fits : stream.length < capacity := by omega
      rw [List.take_of_length_le (by omega)] at reading
      exact absurd reading (decided fits noted)

theorem delivers_inTwoPieces : Delivers 64 greeting inTwoPieces := by
  have after : bufferAfter 64 inTwoPieces 2 = greeting := by decide
  intro count always
  match count with
  | 0 => exact ⟨⟨_, _, rfl⟩, by decide⟩
  | 1 => exact ⟨⟨_, _, rfl⟩, after ▸ List.prefix_refl _⟩
  | count + 2 =>
      obtain ⟨-, noted, reading⟩ := always 2 (by omega)
      rw [after, stage_of_complete complete_greeting (by decide)] at reading
      cases reading

theorem delivers_greeting : Delivers 64 greeting fun _ => .data 0x50 greeting.tail := by
  have decided (noted : Option Framing) : stage 64 greeting ≠ .reading noted := by
    rw [stage_of_complete complete_greeting (by decide)]
    nofun
  have begins : greeting = 0x50 :: greeting.tail := by decide
  exact delivers_whole begins fun _ => decided

/-- A request variable with nothing in it. -/
def emptyRequest : Request := ⟨[], [], [], []⟩

/-- The greeting is read in two pieces as it is in one. -/
theorem framing_independent_greeting :
    2 ≤ 64 ∧ Delivers 64 greeting inTwoPieces ∧
      (readRequest 64 inTwoPieces emptyRequest).request =
          ⟨ascii "PUT", ascii "/a", [], ascii "hi"⟩ ∧
        ∃ header, Read.Sound 64 greeting (readRequest 64 inTwoPieces emptyRequest) header := by
  obtain ⟨alike, sound, -⟩ := @framing_independent 64 (by decide) greeting emptyRequest
  obtain ⟨succeeds, fields⟩ := (readRequest_succeeds_iff (by decide) delivers_greeting emptyRequest
    ⟨ascii "PUT", ascii "/a", [], ascii "hi"⟩).mpr ⟨_, complete_greeting, by decide⟩
  obtain ⟨result, left⟩ := alike _ _ delivers_inTwoPieces delivers_greeting
  exact ⟨by decide, delivers_inTwoPieces, left.trans fields,
    sound _ delivers_inTwoPieces (result.trans succeeds)⟩

end HealthCheckFirmware.ApiService
