import HealthCheckFirmware.Api.Reading
import HealthCheckFirmware.Lib.CScan

/-!
# Requests as clients write them

A `DELETE` request with a target and a bearer token, byte for byte, and what the code
reads it as: the target up to the first white space and cut to 79 characters, and the
token (`complete_deletion`). A request that was received as a whole and fits the buffer
is dispatched (`serve_of_complete`).
-/

set_option autoImplicit false

namespace HealthCheckFirmware.ApiService

/-! ## The text -/

/-- What can be written as the target of a request line: it begins with a slash, and a
space, an end of line or a zero byte would not be part of it. -/
structure IsTarget (target : List UInt8) : Prop where
  absolute : target.head? = some 0x2F
  inline : ∀ byte ∈ target, byte ≠ 0 ∧ byte ≠ 0x20 ∧ byte ≠ 0x0D ∧ byte ≠ 0x0A

/-- What can be written as a token. -/
def IsToken (token : List UInt8) : Prop :=
  token.length < AuthService.tokenTextSize ∧
    ∀ byte ∈ token, byte ≠ 0 ∧ isBlank byte = false ∧ byte ≠ 0x0D

/-- The header of a request to delete something. -/
def deletion (target token : List UInt8) : List UInt8 :=
  ascii "DELETE " ++ (target ++ (ascii " HTTP/1.1\r\nAuthorization: Bearer " ++ token))

/-- What the code takes for the path of a request. -/
def pathOf (target : List UInt8) : List UInt8 :=
  (target.takeWhile fun byte => !isSpace byte).take 79

/-- The request that the code reads. -/
def deletionRequest (target token : List UInt8) : Request :=
  ⟨ascii "DELETE", pathOf target, token, []⟩

/-! ## Reading the header -/

variable {target token : List UInt8}

theorem authorizationLine_skip {before : List UInt8} (absent : 0x0D ∉ before) (more : List UInt8) :
    authorizationLine (before ++ more) = authorizationLine more := by
  induction before with
  | nil => rfl
  | cons byte before ih =>
      rw [List.mem_cons, not_or] at absent
      rw [List.cons_append, authorizationLine, if_neg, ih absent.2]
      simp [crlf, List.isPrefixOf, absent.1]

theorem bearerToken_written (written : IsToken token) :
    bearerToken (ascii " Bearer " ++ token) = some token := by
  obtain ⟨short, plain⟩ := written
  have unblank : token.dropWhile isBlank = token :=
    dropWhile_of_stops (stops_of_none fun byte member => (plain byte member).2.1)
  have trimmed : token.reverse.dropWhile isBlank = token.reverse :=
    dropWhile_of_stops
      (stops_of_none fun byte member => (plain byte (List.mem_reverse.mp member)).2.1)
  have oneLine : strstr crlf token = none :=
    strstr_none fun member => (plain 0x0D member).2.2 rfl
  have value : (ascii " Bearer " ++ token).dropWhile isBlank = ascii "Bearer " ++ token := rfl
  have named : startsWithNoCase (ascii "Bearer " ++ token) (ascii "Bearer") = true := rfl
  have behind : (ascii "Bearer " ++ token).drop 6 = 0x20 :: token := rfl
  have skipped : (0x20 :: token).dropWhile isBlank = token.dropWhile isBlank := rfl
  have blank : ((0x20 :: token).head?.map isBlank).getD false = true := rfl
  rw [bearerToken]
  simp only [value, named, behind, blank, Bool.and_self, if_true, skipped, unblank, oneLine,
    Option.getD_none, List.take_length, trimmed, List.reverse_reverse,
    if_neg (Nat.not_le.mpr short)]

theorem stops_of_absolute (absolute : target.head? = some 0x2F) (rest : List UInt8) :
    Stops isSpace (target ++ rest) := by
  cases target with
  | nil => cases absolute
  | cons byte target =>
      cases absolute
      exact stops_cons.mpr (by decide)

theorem pathOf_ne_nil (absolute : target.head? = some 0x2F) : pathOf target ≠ [] := by
  cases target with
  | nil => cases absolute
  | cons byte rest =>
      cases absolute
      exact List.cons_ne_nil _ _

/-- The target between two spaces. -/
theorem scanWord_target (absolute : target.head? = some 0x2F) (rest : List UInt8) :
    ∃ left, scanWord 79 (0x20 :: (target ++ 0x20 :: rest)) = some (pathOf target, left) := by
  have start : (0x20 :: (target ++ 0x20 :: rest)).dropWhile isSpace = target ++ 0x20 :: rest :=
    dropWhile_of_stops (stops_of_absolute absolute _)
  have space : Stops (fun byte => !isSpace byte) (0x20 :: rest) := stops_cons.mpr rfl
  have word : ((target ++ 0x20 :: rest).takeWhile fun byte => !isSpace byte).take 79 =
      pathOf target := by
    rw [takeWhile_append_of_stops space, pathOf]
  rw [scanWord, start, word, if_neg (pathOf_ne_nil absolute)]
  exact ⟨_, rfl⟩

theorem cr_notMem_start (isTarget : IsTarget target) :
    0x0D ∉ ascii "DELETE " ++ (target ++ ascii " HTTP/1.1") := by
  simp only [List.mem_append, not_or]
  exact ⟨by decide, fun member => (isTarget.inline 0x0D member).2.2.1 rfl, by decide⟩

/-- A deletion as one line and the next. -/
theorem deletion_eq : deletion target token =
    (ascii "DELETE " ++ (target ++ ascii " HTTP/1.1")) ++
      (crlf ++ (ascii "Authorization: Bearer " ++ token)) := by
  simp only [deletion, List.append_assoc]
  rfl

theorem authorizationLine_deletion (isTarget : IsTarget target) :
    authorizationLine (deletion target token) = some (ascii " Bearer " ++ token) := by
  rw [deletion_eq, authorizationLine_skip (cr_notMem_start isTarget)]
  rfl

theorem parseHeader_deletion (isTarget : IsTarget target) (written : IsToken token) :
    parseHeader (deletion target token) = some (ascii "DELETE", pathOf target, token) := by
  have method : scanWord 7 (deletion target token) =
      some (ascii "DELETE", 0x20 :: (target ++
        0x20 :: (ascii "HTTP/1.1\r\nAuthorization: Bearer " ++ token))) := rfl
  obtain ⟨rest, path⟩ := scanWord_target isTarget.absolute
    (ascii "HTTP/1.1\r\nAuthorization: Bearer " ++ token)
  rw [parseHeader, method]
  dsimp only
  rw [path]
  dsimp only
  rw [authorizationLine_deletion isTarget]
  dsimp only
  rw [bearerToken_written written, Option.map_some]

theorem cr_notMem_end (written : IsToken token) :
    0x0D ∉ 0x0A :: (ascii "Authorization: Bearer " ++ token) := by
  simp only [List.mem_cons, List.mem_append, not_or]
  exact ⟨by decide, by decide, fun member => (written.2 0x0D member).2.2 rfl⟩

/-- The second line of a deletion is not the one that declares a length. -/
theorem declaredLength_deletion (isTarget : IsTarget target) (written : IsToken token) :
    declaredLength (deletion target token) = some 0 := by
  have absent (name : List UInt8) (other : ∀ rest,
      (crlf ++ name).isPrefixOf (crlf ++ (ascii "Authorization: Bearer " ++ rest)) = false) :
      strstr (crlf ++ name) (deletion target token) = none := by
    rw [deletion_eq]
    change strstr (0x0D :: (0x0A :: name)) _ = none
    rw [strstr_skip (cr_notMem_start isTarget)]
    have here : strstr (0x0D :: (0x0A :: name))
        (0x0D :: 0x0A :: (ascii "Authorization: Bearer " ++ token)) = none := by
      rw [strstr, if_neg (by rw [Bool.not_eq_true]; exact other token),
        strstr_none (cr_notMem_end written)]
      rfl
    exact congrArg (Option.map _) here
  rw [declaredLength, contentLengthValue, absent _ fun _ => rfl, absent _ fun _ => rfl]
  rfl

/-- **A written request is complete**, and it is the request that it was meant to be as
far as its path goes. -/
theorem complete_deletion (isTarget : IsTarget target) (written : IsToken token) :
    Complete (deletion target token ++ headerTerminator) (deletionRequest target token)
      (deletion target token) where
  split := ⟨[], by simp [deletionRequest]⟩
  first := by
    have line : strstr headerTerminator
        (crlf ++ (ascii "Authorization: Bearer " ++ token) ++ headerTerminator) =
          some (crlf ++ (ascii "Authorization: Bearer " ++ token)).length := by
      change strstr headerTerminator
        (0x0D :: (0x0A :: (ascii "Authorization: Bearer " ++ token) ++ headerTerminator)) = _
      rw [strstr, if_neg (by rw [Bool.not_eq_true]; rfl)]
      change Option.map _ (strstr (0x0D :: [0x0A, 0x0D, 0x0A]) _) = _
      rw [strstr_skip (cr_notMem_end written)]
      rfl
    rw [deletion_eq, List.append_assoc]
    change strstr (0x0D :: [0x0A, 0x0D, 0x0A]) _ = _
    rw [strstr_skip (cr_notMem_start isTarget)]
    refine (congrArg (Option.map _) line).trans ?_
    rw [Option.map_some, ← List.length_append]
  text := by
    rw [deletion]
    simp only [List.mem_append, not_or]
    exact ⟨by decide, fun member => (isTarget.inline 0 member).1 rfl, by decide,
      fun member => (written.2 0 member).1 rfl⟩
  length := declaredLength_deletion isTarget written
  fields := parseHeader_deletion isTarget written

/-! ## Dispatching it -/

/-- The code recognises a complete request in the buffer. -/
theorem stage_of_complete {capacity : ℕ} {bytes header : List UInt8} {request : Request}
    (complete : Complete bytes request header) (room : bytes.length < capacity) :
    stage capacity bytes = .complete ⟨header.length, request.body.length⟩ := by
  obtain ⟨⟨rest, split⟩, first, text, declared, -⟩ := complete
  rw [List.append_assoc] at split
  have found := findHeaderEnd_of_first text split first
  have sameHeader : bytes.take header.length = header := by
    rw [split, List.append_assoc, List.take_left]
  have enough : header.length + 4 + request.body.length ≤ bytes.length := by
    have length := congrArg List.length split
    have four : headerTerminator.length = 4 := rfl
    simp only [List.length_append] at length
    omega
  have framed : frame capacity bytes header.length =
      some ⟨header.length, request.body.length⟩ := by
    rw [frame, sameHeader, declared]
    exact if_neg (by omega)
  have reached : Framing.reached (some ⟨header.length, request.body.length⟩) bytes =
      some ⟨header.length, request.body.length⟩ :=
    Option.filter_eq_some_iff.mpr ⟨rfl, decide_eq_true enough⟩
  simp only [stage, noteHeader, found, framed, Option.map_some, reached]

/-- A complete request that arrives at once is read as it is. -/
theorem readRequest_of_complete {capacity : ℕ} {bytes header : List UInt8} {request : Request}
    (complete : Complete bytes request header) (room : bytes.length < capacity)
    {first : UInt8} {rest : List UInt8} (same : bytes = first :: rest) (uninitialised : Request) :
    readRequest capacity (fun _ => .data first rest) uninitialised = ⟨0, request, bytes⟩ := by
  have whole : append capacity [] first rest = bytes := by
    rw [append, List.nil_append, ← same, List.length_nil]
    exact List.take_of_length_le (by omega)
  have empty : ([] : List UInt8).length < capacity - 1 := by
    rw [same, List.length_cons] at room
    rw [List.length_nil]
    omega
  have loop : readLoop capacity (fun _ => .data first rest) 0 [] none =
      (.complete ⟨header.length, request.body.length⟩, bytes) := by
    rw [readLoop_step rfl empty rfl, whole, stage_of_complete complete room]
  obtain ⟨⟨more, split⟩, -, -, -, fields⟩ := complete
  have sameHeader : bytes.take header.length = header := by
    rw [split, List.append_assoc, List.append_assoc, List.take_left]
  have sameBody : (bytes.drop (header.length + 4)).take request.body.length = request.body := by
    have four : (header ++ headerTerminator).length = header.length + 4 := List.length_append
    rw [split, ← four, List.append_assoc (header ++ headerTerminator), List.drop_left,
      List.take_left]
  simp only [readRequest, loop, sameHeader, fields, Framing.requestLength, sameBody]

/-- **A complete request that arrives at once is dispatched.** -/
theorem serve_of_complete {bytes header : List UInt8} {request : Request}
    (complete : Complete bytes request header) (room : bytes.length < requestSize)
    {first : UInt8} {rest : List UInt8} (same : bytes = first :: rest) (uninitialised : Request) :
    serve ⟨true, fun _ => .data first rest, uninitialised⟩ = .dispatch request := by
  rw [serve, if_pos rfl, readRequest_of_complete complete room same]
  exact if_pos rfl

end HealthCheckFirmware.ApiService
