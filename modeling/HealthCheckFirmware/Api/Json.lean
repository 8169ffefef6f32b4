import HealthCheckFirmware.Lib.CPrint

/-!
# Members of a JSON body

The functions of `api_service.c` that look for the members of a request body and
that print strings into a response. The body is searched as a string: a key counts
wherever it occurs in quotes.

A string value is copied into the buffer of the caller as it is scanned, so that a
value that is refused half way leaves its beginning in the buffer (`jsonString`).
-/

set_option autoImplicit false

namespace HealthCheckFirmware.ApiService

/-! ## Buffers -/

/-- A buffer whose first bytes have been overwritten. -/
def overwrite {size : ℕ} (buffer : Vector UInt8 size) (bytes : List UInt8) : Vector UInt8 size :=
  Vector.ofFn fun index : Fin size => bytes.getD index (buffer.get index)

/-! ## Looking for members -/

/-- The key in quotes, as the functions print it into a buffer of their own. -/
def quoted (key : List UInt8) : List UInt8 := snprintf 40 (0x22 :: key ++ [0x22])

/-- What follows the first occurrence of a quoted key. -/
def afterKey (json key : List UInt8) : Option (List UInt8) :=
  (strstr (quoted key) json).map fun position => json.drop (position + (quoted key).length)

/-- What follows a separator, blanks around it skipped. -/
def afterSeparator (separator : UInt8) (text : List UInt8) : Option (List UInt8) :=
  match text.dropWhile isBlank with
  | [] => none
  | byte :: rest => if byte = separator then some rest else none

/-- The characters of a string value that are copied, and whether the value ends
with a quote. There is room for the given number of characters. -/
def scanString : (room : ℕ) → List UInt8 → List UInt8 × Bool
  | _, [] => ([], false)
  | room, byte :: rest =>
      if byte = 0x22 then ([], true)
      else if byte = 0x5C ∨ byte < 0x20 ∨ room = 0 then ([], false)
      else (byte :: (scanString (room - 1) rest).1, (scanString (room - 1) rest).2)

/-- `apiService_JsonString`: whether the member is there, and the buffer after the
call. -/
def jsonString {capacity : ℕ} (json key : List UInt8) (output : Vector UInt8 capacity) :
    Bool × Vector UInt8 capacity :=
  match (afterKey json key).bind fun rest =>
      (afterSeparator 0x3A rest).bind (afterSeparator 0x22) with
  | none => (false, output)
  | some value =>
      match scanString (capacity - 1) value with
      | (characters, true) => (true, overwrite output (characters ++ [0]))
      | (characters, false) => (false, overwrite output characters)

/-- The string that a call leaves in a buffer of which nothing is known before, when
the member is there. -/
def jsonText (json key : List UInt8) (capacity : ℕ) : Option (List UInt8) :=
  match jsonString json key (Vector.replicate capacity 0) with
  | (true, output) => some (bufferString output)
  | (false, _) => none

/-- White space between a key and its separator. -/
def isJsonSpace (byte : UInt8) : Bool :=
  byte == 0x20 || byte == 0x09 || byte == 0x0D || byte == 0x0A

/-- The search of `apiService_JsonHasKey`, which goes on behind each occurrence of
the key. The fuel is the number of bytes left to search. -/
def hasKeyFrom (pattern : List UInt8) : (fuel : ℕ) → List UInt8 → Bool
  | 0, _ => false
  | fuel + 1, text =>
      match strstr pattern text with
      | none => false
      | some position =>
          let rest := text.drop (position + pattern.length)
          (rest.dropWhile isJsonSpace).head? == some 0x3A || hasKeyFrom pattern fuel rest

/-- `apiService_JsonHasKey`. -/
def jsonHasKey (json key : List UInt8) : Bool := hasKeyFrom (quoted key) (json.length + 1) json

/-- The value of a member that is not a string: what follows the next colon. -/
def afterColon (json key : List UInt8) : Option (List UInt8) :=
  (afterKey json key).bind fun rest =>
    match rest.dropWhile (· ≠ 0x3A) with
    | [] => none
    | _ :: rest => some (rest.dropWhile isBlank)

/-- `apiService_JsonBoolean`: the value, when there is one. -/
def jsonBoolean (json key : List UInt8) : Option UInt8 :=
  (afterColon json key).bind fun rest =>
    if (ascii "true").isPrefixOf rest then some 1
    else if (ascii "false").isPrefixOf rest then some 0
    else none

/-- `apiService_JsonNumber`: the value, when there is one. -/
def jsonNumber (json key : List UInt8) : Option UInt32 :=
  (afterColon json key).bind fun rest => (strtoul rest).map (·.1)

/-! ## Members that may be left out -/

/-- A string member of an update: the buffer as it was without the key, nothing if
the key has no string. -/
def updatedString {capacity : ℕ} (json key : List UInt8) (output : Vector UInt8 capacity) :
    Option (Vector UInt8 capacity) :=
  if jsonHasKey json key then
    match jsonString json key output with
    | (true, output) => some output
    | (false, _) => none
  else some output

/-- A member of an update that is not a string. -/
def updatedValue {Value : Type} (parse : List UInt8 → List UInt8 → Option Value)
    (json key : List UInt8) (value : Value) : Option Value :=
  if jsonHasKey json key then parse json key else some value

/-! ## Printing strings -/

/-- `apiService_AppendJsonString`: whether the whole value went behind what the
buffer already held, and what the buffer then holds before its terminator. -/
def appendJsonString (capacity : ℕ) (output : List UInt8) : List UInt8 → Bool × List UInt8
  | [] => (decide (output.length < capacity), output)
  | byte :: rest =>
      if capacity ≤ output.length ∨ byte < 0x20 then (false, output)
      else if byte = 0x22 ∨ byte = 0x5C then
        if capacity - output.length ≤ 2 then (false, output)
        else appendJsonString capacity (output ++ [0x5C, byte]) rest
      else if capacity - output.length ≤ 1 then (false, output)
      else appendJsonString capacity (output ++ [byte]) rest

/-! ## What the scans find -/

theorem scanString_room {room : ℕ} {text : List UInt8} :
    (scanString room text).1.length ≤ room := by
  induction text generalizing room with
  | nil => simp [scanString]
  | cons byte rest ih =>
      rw [scanString]
      split
      · simp
      split
      · simp
      rename_i accepted
      have shorter : (scanString (room - 1) rest).1.length ≤ room - 1 := ih
      simp only [List.length_cons]
      omega

/-- A character that a string value may have in a body. -/
def IsPlain (byte : UInt8) : Prop := byte ≠ 0x22 ∧ byte ≠ 0x5C ∧ ¬ byte < 0x20

theorem IsPlain.ne_zero {byte : UInt8} (plain : IsPlain byte) : byte ≠ 0 := by
  rintro rfl
  exact plain.2.2 (by decide)

theorem scanString_plain {room : ℕ} {text : List UInt8} :
    ∀ byte ∈ (scanString room text).1, IsPlain byte := by
  induction text generalizing room with
  | nil => simp [scanString]
  | cons first rest ih =>
      rw [scanString]
      split
      · simp
      rename_i noQuote
      split
      · simp
      rename_i accepted
      simp only [not_or] at accepted
      intro byte member
      rcases List.mem_cons.mp member with rfl | later
      · exact ⟨noQuote, accepted.1, accepted.2.1⟩
      · exact ih byte later

/-! ## What the buffers hold -/

section Buffers

variable {size : ℕ} {bytes : List UInt8}

theorem toList_overwrite (fits : bytes.length ≤ size) (buffer : Vector UInt8 size) :
    (overwrite buffer bytes).toList = bytes ++ buffer.toList.drop bytes.length := by
  apply List.ext_getElem
  · simp only [Vector.length_toList, List.length_append, List.length_drop]
    omega
  · intro index within _
    simp only [Vector.length_toList] at within
    simp only [overwrite, Vector.getElem_toList, Vector.getElem_ofFn]
    by_cases inside : index < bytes.length
    · simp [inside]
    · simp [Nat.not_lt.mp inside]
      rfl

/-- A value that ends is what the buffer then holds. -/
theorem bufferString_overwrite_terminated (fits : bytes.length < size) (nonzero : 0 ∉ bytes)
    (buffer : Vector UInt8 size) : bufferString (overwrite buffer (bytes ++ [0])) = bytes := by
  have whole : (bytes ++ [0]).length ≤ size := by
    rw [List.length_append, List.length_singleton]
    omega
  rw [bufferString, toList_overwrite whole, List.append_assoc]
  exact cString_append_zero nonzero _

/-- A value that is refused half way is followed by the rest of what the buffer held. -/
theorem bufferString_overwrite_fillBuffer (fits : bytes.length < size) (nonzero : 0 ∉ bytes)
    {old : List UInt8} (oldFits : old.length < size) (oldNonzero : 0 ∉ old) :
    bufferString (overwrite (fillBuffer size old) bytes) = bytes ++ old.drop bytes.length := by
  rw [bufferString, toList_overwrite (by omega), toList_fillBuffer oldFits,
    cString_append_of_nonzero nonzero, List.drop_append]
  congr 1
  obtain ⟨count, room⟩ : ∃ count, size - old.length - (bytes.length - old.length) = count + 1 :=
    ⟨size - old.length - (bytes.length - old.length) - 1, by omega⟩
  rw [List.drop_replicate, room, List.replicate_succ]
  exact cString_append_zero (fun member => oldNonzero (List.mem_of_mem_drop member)) _

end Buffers

/-- Where the string value of a member begins. -/
def valueStart (json key : List UInt8) : Option (List UInt8) :=
  (afterKey json key).bind fun rest => (afterSeparator 0x3A rest).bind (afterSeparator 0x22)

/-- The characters of a string value that is refused, up to the place where it is. -/
def refusedText (json key : List UInt8) (capacity : ℕ) : Option (List UInt8) :=
  (valueStart json key).bind fun value =>
    if (scanString (capacity - 1) value).2 then none else some (scanString (capacity - 1) value).1

theorem jsonString_of_none {json key : List UInt8} (absent : valueStart json key = none)
    {capacity : ℕ} (output : Vector UInt8 capacity) :
    jsonString json key output = (false, output) := by
  unfold valueStart at absent
  rw [jsonString, absent]

theorem jsonString_of_some {json key value : List UInt8} (found : valueStart json key = some value)
    {capacity : ℕ} (output : Vector UInt8 capacity) :
    jsonString json key output =
      if (scanString (capacity - 1) value).2 then
        (true, overwrite output ((scanString (capacity - 1) value).1 ++ [0]))
      else (false, overwrite output (scanString (capacity - 1) value).1) := by
  unfold valueStart at found
  rw [jsonString, found]
  dsimp only
  obtain ⟨characters, ends⟩ := scanString (capacity - 1) value
  cases ends <;> rfl

/-- A string is read exactly if there is one whose end is found. -/
theorem jsonText_eq (json key : List UInt8) {capacity : ℕ} (positive : 0 < capacity) :
    jsonText json key capacity = (valueStart json key).bind fun value =>
      if (scanString (capacity - 1) value).2 then some (scanString (capacity - 1) value).1
      else none := by
  cases found : valueStart json key with
  | none => rw [jsonText, jsonString_of_none found, Option.bind_none]
  | some value =>
      have plain := @scanString_plain (capacity - 1) value
      have room := @scanString_room (capacity - 1) value
      rw [jsonText, jsonString_of_some found, Option.bind_some]
      generalize scanString (capacity - 1) value = scanned at plain room ⊢
      obtain ⟨characters, ends⟩ := scanned
      cases ends with
      | false => rfl
      | true =>
          have fits : characters.length < capacity := by
            dsimp only at room
            omega
          exact congrArg some
            (bufferString_overwrite_terminated fits (fun zero => (plain 0 zero).ne_zero rfl) _)

/-- What a call leaves in a buffer that held a string: the value, if it is accepted;
the characters of a refused value with the rest of the string behind them; or the string
itself. -/
theorem bufferString_jsonString (json key : List UInt8) {capacity : ℕ} {old : List UInt8}
    (fits : old.length < capacity) (nonzero : 0 ∉ old) :
    bufferString (jsonString json key (fillBuffer capacity old)).2 =
      (jsonText json key capacity).getD
        (((refusedText json key capacity).map fun characters =>
          characters ++ old.drop characters.length).getD old) := by
  rw [jsonText_eq json key (by omega), refusedText]
  cases found : valueStart json key with
  | none =>
      rw [jsonString_of_none found]
      exact bufferString_fillBuffer fits nonzero
  | some value =>
      have plain := @scanString_plain (capacity - 1) value
      have room := @scanString_room (capacity - 1) value
      rw [jsonString_of_some found, Option.bind_some, Option.bind_some]
      generalize scanString (capacity - 1) value = scanned at plain room ⊢
      obtain ⟨characters, ends⟩ := scanned
      have shorter : characters.length < capacity := by
        dsimp only at room
        omega
      have noZero : 0 ∉ characters := fun zero => (plain 0 zero).ne_zero rfl
      cases ends with
      | true => exact bufferString_overwrite_terminated shorter noZero _
      | false => exact bufferString_overwrite_fillBuffer shorter noZero fits nonzero

/-- A string that is read is plain and fits. -/
theorem jsonText_some {json key text : List UInt8} {capacity : ℕ} (positive : 0 < capacity)
    (read : jsonText json key capacity = some text) :
    text.length < capacity ∧ ∀ byte ∈ text, IsPlain byte := by
  rw [jsonText_eq json key positive] at read
  obtain ⟨value, -, accepted⟩ := Option.bind_eq_some_iff.mp read
  have room := @scanString_room (capacity - 1) value
  split at accepted
  · cases accepted
    exact ⟨by omega, scanString_plain⟩
  · cases accepted

end HealthCheckFirmware.ApiService
