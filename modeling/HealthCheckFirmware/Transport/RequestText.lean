import HealthCheckFirmware.Transport.TlsTransport

/-!
# The text of a request

A peer splits a request at the ends of its lines, and the request line at its spaces.
`lines_requestText` says what it finds in a request of the device: the request line, the
header fields, an empty line and the body, provided that no argument has a carriage return
in it. The request line has its three parts exactly if the target has no space in it
(`requestLine_splits_iff`).
-/

set_option autoImplicit false

namespace HealthCheckFirmware.TlsTransport

/-! ## Lines -/

/-- The lines of a text, each ended by a carriage return and a line feed, and what follows
the last of them. -/
def lines : List UInt8 → List (List UInt8)
  | [] => [[]]
  | 0x0D :: 0x0A :: rest => [] :: lines rest
  | byte :: rest => (lines rest).modifyHead (byte :: ·)

theorem lines_cons {byte : UInt8} (inLine : byte ≠ 0x0D) (rest : List UInt8) :
    lines (byte :: rest) = (lines rest).modifyHead (byte :: ·) := by
  rw [lines]
  rintro _ rfl
  exact absurd rfl inLine

/-- A line ends where the first carriage return is, if a line feed follows. -/
theorem lines_append {line : List UInt8} (plain : 0x0D ∉ line) (rest : List UInt8) :
    lines (line ++ crlf ++ rest) = line :: lines rest := by
  induction line with
  | nil => rfl
  | cons byte others ih =>
      rw [List.cons_append, List.cons_append,
        lines_cons (fun carriage => plain (carriage ▸ List.mem_cons_self)),
        ih fun member => plain (List.mem_cons_of_mem _ member), List.modifyHead_cons]

theorem lines_of_plain {line : List UInt8} (plain : 0x0D ∉ line) : lines line = [line] := by
  induction line with
  | nil => rfl
  | cons byte others ih =>
      rw [lines_cons (fun carriage => plain (carriage ▸ List.mem_cons_self)),
        ih fun member => plain (List.mem_cons_of_mem _ member), List.modifyHead_cons]

/-- Lines that are written one behind the other are read back. -/
theorem lines_flatten {written : List (List UInt8)} (plain : ∀ line ∈ written, 0x0D ∉ line)
    {rest : List UInt8} (last : 0x0D ∉ rest) :
    lines ((written.map (· ++ crlf)).flatten ++ rest) = written ++ [rest] := by
  induction written with
  | nil => exact lines_of_plain last
  | cons line others ih =>
      rw [List.map_cons, List.flatten_cons, List.append_assoc,
        lines_append (plain line List.mem_cons_self),
        ih fun other member => plain other (List.mem_cons_of_mem _ member), List.cons_append]

/-! ## The lines of a request -/

/-- The request line. -/
def requestLine (method resource : List UInt8) : List UInt8 :=
  method ++ 0x20 :: (resource ++ 0x20 :: ascii "HTTP/1.1")

/-- The header fields that announce a body. -/
def bodyFields (mediaType body : List UInt8) : List (List UInt8) :=
  [ascii "Content-Type: " ++ mediaType, ascii "Content-Length: " ++ decimalText body.length]

/-- The header fields of a request. -/
def headerFields (host : List UInt8) (port : UInt16) (body : List UInt8)
    (contentType : Option (List UInt8)) : List (List UInt8) :=
  [ascii "Host: " ++ hostHeader host port, ascii "Connection: close",
    ascii "User-Agent: stm32-health-check/1"]
    ++ if body = [] then [] else bodyFields (contentType.getD []) body

theorem requestHead_eq (method resource hostText : List UInt8) :
    requestHead method resource hostText =
      (([requestLine method resource, ascii "Host: " ++ hostText, ascii "Connection: close",
        ascii "User-Agent: stm32-health-check/1"]).map (· ++ crlf)).flatten := by
  have version : ascii " HTTP/1.1\r\nHost: " = 0x20 :: (ascii "HTTP/1.1" ++ crlf ++ ascii "Host: ") :=
    rfl
  have fields : ascii "\r\nConnection: close\r\nUser-Agent: stm32-health-check/1\r\n" =
      crlf ++ ascii "Connection: close" ++ crlf ++ ascii "User-Agent: stm32-health-check/1" ++ crlf :=
    rfl
  have space : ascii " " = [0x20] := rfl
  rw [requestHead, version, fields, space]
  simp [requestLine]

/-- A request is its lines, an empty one and the body. -/
theorem requestText_eq {method host resource body text : List UInt8} {port : UInt16}
    {contentType : Option (List UInt8)}
    (sent : requestText method host port resource body contentType = some text) :
    text = ((requestLine method resource :: headerFields host port body contentType ++ [[]]).map
      (· ++ crlf)).flatten ++ body := by
  unfold requestText at sent
  dsimp only at sent
  split at sent
  · cases sent
  · have ⟨written, _⟩ := Option.filter_eq_some_iff.mp sent
    split at written
    · rename_i some_
      split at written
      · rename_i mediaType
        split at written
        · have length : ascii "\r\nContent-Length: " = crlf ++ ascii "Content-Length: " := rfl
          have blank : ascii "\r\n\r\n" = crlf ++ crlf := rfl
          rw [← Option.some.inj written, requestHead_eq, length, blank]
          simp [headerFields, bodyFields, some_]
        · cases written
      · cases written
    · rename_i none
      have empty : body = [] := not_not.mp none
      have blank : ascii "\r\n" = crlf := rfl
      rw [← Option.some.inj written, requestHead_eq, blank, empty]
      simp [headerFields]

theorem carriage_notMem_decimalText (value : ℕ) : 0x0D ∉ decimalText value := fun member =>
  absurd (isDigit_of_mem_decimalText member) (by decide)

theorem carriage_notMem_hostHeader {host : List UInt8} (plain : 0x0D ∉ host) (port : UInt16) :
    0x0D ∉ hostHeader host port := by
  rw [hostHeader]
  split
  · exact plain
  · intro member
    rcases List.mem_append.mp member with front | digits
    · rcases List.mem_append.mp front with inHost | colon
      · exact plain inHost
      · exact absurd colon (by decide)
    · exact carriage_notMem_decimalText _ digits

/-- **The lines of a request** are the request line, the header fields, an empty line and the
body, if no argument has a carriage return in it. -/
theorem lines_requestText {method host resource body text : List UInt8} {port : UInt16}
    {contentType : Option (List UInt8)} (methodPlain : 0x0D ∉ method) (hostPlain : 0x0D ∉ host)
    (resourcePlain : 0x0D ∉ resource) (bodyPlain : 0x0D ∉ body)
    (typePlain : ∀ mediaType, contentType = some mediaType → 0x0D ∉ mediaType)
    (sent : requestText method host port resource body contentType = some text) :
    lines text =
      requestLine method resource :: headerFields host port body contentType ++ [[], body] := by
  have behind {name value : List UInt8} (namePlain : 0x0D ∉ name) (valuePlain : 0x0D ∉ value) :
      0x0D ∉ name ++ value := fun member =>
    (List.mem_append.mp member).elim namePlain valuePlain
  have first : 0x0D ∉ requestLine method resource := by
    refine behind methodPlain (List.not_mem_cons_of_ne_of_not_mem (by decide)
      (behind resourcePlain (by decide)))
  have typeValue : 0x0D ∉ contentType.getD [] := by
    cases contentType with
    | none => exact List.not_mem_nil
    | some mediaType => exact typePlain mediaType rfl
  have all : ∀ line ∈ requestLine method resource :: headerFields host port body contentType
      ++ [[]], 0x0D ∉ line := by
    intro line member
    rcases List.mem_append.mp member with inHead | isBlank
    · rcases List.mem_cons.mp inHead with rfl | inFields
      · exact first
      · rcases List.mem_append.mp inFields with fixed | announced
        · simp only [List.mem_cons, List.not_mem_nil, or_false] at fixed
          rcases fixed with rfl | rfl | rfl
          · exact behind (by decide) (carriage_notMem_hostHeader hostPlain port)
          · decide
          · decide
        · split at announced
          · exact absurd announced List.not_mem_nil
          · simp only [bodyFields, List.mem_cons, List.not_mem_nil, or_false] at announced
            rcases announced with rfl | rfl
            · exact behind (by decide) typeValue
            · exact behind (by decide) (carriage_notMem_decimalText _)
    · rw [List.mem_singleton.mp isBlank]
      exact List.not_mem_nil
  rw [requestText_eq sent, lines_flatten all bodyPlain]
  simp

/-- **A request line has three parts** exactly if the target has no space in it. -/
theorem requestLine_splits_iff {method : List UInt8} (plain : 0x20 ∉ method)
    (resource : List UInt8) :
    (requestLine method resource).splitOn 0x20 = [method, resource, ascii "HTTP/1.1"] ↔
      0x20 ∉ resource := by
  have version : (ascii "HTTP/1.1").splitOn 0x20 = [ascii "HTTP/1.1"] :=
    List.splitOn_eq_singleton (by decide)
  rw [requestLine, List.splitOn_append_cons_self_of_not_mem plain]
  constructor
  · intro parts spaced
    obtain ⟨front, back, rfl, -⟩ := List.eq_append_cons_of_mem spaced
    have count := congrArg List.length parts
    rw [List.append_assoc, List.cons_append, List.splitOn_append_cons_self,
      List.splitOn_append_cons_self, version] at count
    have some_ := List.length_pos_of_ne_nil (List.splitOn_ne_nil 0x20 front)
    have more := List.length_pos_of_ne_nil (List.splitOn_ne_nil 0x20 back)
    simp only [List.length_cons, List.length_append, List.length_nil] at count
    omega
  · intro whole
    rw [List.splitOn_append_cons_self_of_not_mem whole, version]

end HealthCheckFirmware.TlsTransport
