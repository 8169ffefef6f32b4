import HealthCheckFirmware.Api.Documents
import Mathlib.Algebra.Order.BigOperators.Group.List

/-!
# The listings

A listing is opened, given its items one by one and closed, all in one buffer; it fails with
`response_too_large` as soon as an item does not fit. With the widest items that the stores
can hold none of them gets that far: the accounts, the resources and the callback
configuration are always shown in full (`usersListing_shows`, `configListing_shows`,
`callback_shows`). The trust anchors are shown in full exactly if their subjects have no
control characters (`anchorsListing_shows`, `anchorsListing_fails`), which the other strings
cannot have because they come from string values of a body.
-/

set_option autoImplicit false

namespace HealthCheckFirmware.ApiService

/-! ## Items one behind the other -/

theorem printBehind_of_lt {size : ℕ} {used text : List UInt8} (printed : text ≠ [])
    (fits : used.length + text.length < size) :
    printBehind size used text = some (used ++ text) := by
  rw [printBehind, if_neg]
  rintro (empty | full)
  · exact printed empty
  · omega

section Items

variable {Item : Type} {append : List UInt8 → Item → Option (List UInt8)}
  {text : Item → List UInt8} {items : List Item}

/-- Items that are each appended where there is room are all appended if there is room for
all of them. -/
theorem foldlM_append
    (appends : ∀ item ∈ items, ∀ used : List UInt8,
      used.length + (text item).length < listingSize → append used item = some (used ++ text item))
    {used : List UInt8} (fits : used.length + (items.map text).flatten.length < listingSize) :
    items.foldlM append used = some (used ++ (items.map text).flatten) := by
  induction items generalizing used with
  | nil => rw [List.map_nil, List.flatten_nil, List.append_nil, List.foldlM_nil]; rfl
  | cons item rest ih =>
      rw [List.map_cons, List.flatten_cons, List.length_append] at fits
      have first := appends item List.mem_cons_self used (by omega)
      have others := @ih (fun other isMember => appends other (.tail _ isMember))
        (used ++ text item) (by rw [List.length_append]; omega)
      rw [List.foldlM_cons, first, List.map_cons, List.flatten_cons, ← List.append_assoc]
      exact others

theorem listing_eq {opening : List UInt8}
    (appends : ∀ item ∈ items, ∀ used : List UInt8,
      used.length + (text item).length < listingSize → append used item = some (used ++ text item))
    (fits : opening.length + (items.map text).flatten.length + 2 < listingSize) :
    listing opening append items =
      respond 200 "OK" (opening ++ (items.map text).flatten ++ ascii "]\x7d") := by
  rw [listing, foldlM_append appends (by omega)]
  dsimp only
  rw [snprintf_of_lt]
  rw [List.length_append]
  change 2 < _
  omega

theorem length_flatten_map_le {bound : ℕ} (short : ∀ item ∈ items, (text item).length ≤ bound) :
    (items.map text).flatten.length ≤ items.length * bound := by
  have all : ∀ length ∈ (items.map text).map List.length, length ≤ bound := by
    intro length isMember
    obtain ⟨_, isText, rfl⟩ := List.mem_map.mp isMember
    obtain ⟨item, isItem, rfl⟩ := List.mem_map.mp isText
    exact short item isItem
  have bounded := List.sum_le_card_nsmul _ bound all
  rw [List.length_map, List.length_map] at bounded
  rw [List.length_flatten]
  exact bounded

end Items

/-- Values behind one another, each behind a comma but the first. -/
theorem flatten_separated {Item : Type} (json : Item → Json) (items : List Item) :
    (items.zipIdx.map fun item => separator item.2 ++ (json item.1).text).flatten =
      Json.itemsText (items.map json) := by
  have tail (rest : List Item) (position : ℕ) :
      ((rest.zipIdx (position + 1)).map fun item => separator item.2 ++ (json item.1).text).flatten =
        Json.itemsTail (rest.map json) := by
    induction rest generalizing position with
    | nil => rfl
    | cons item rest ih =>
        rw [List.zipIdx_cons, List.map_cons, List.flatten_cons, List.map_cons, Json.itemsTail,
          ← ih (position + 1)]
        rfl
  cases items with
  | nil => rfl
  | cons item rest =>
      rw [List.zipIdx_cons, List.map_cons, List.flatten_cons, List.map_cons, Json.itemsText,
        ← tail rest 0]
      rfl

theorem length_separator_le (position : ℕ) : (separator position).length ≤ 1 := by
  rw [separator]
  split <;> decide

theorem length_booleanText_le (value : Bool) : (booleanText value).length ≤ 5 := by
  rw [booleanText]
  split <;> decide

theorem length_bufferString_le {size : ℕ} (buffer : Vector UInt8 size) :
    (bufferString buffer).length ≤ size := by
  have sublist : (bufferString buffer).length ≤ buffer.toList.length :=
    (List.takeWhile_sublist _).length_le
  rwa [Vector.length_toList] at sublist

theorem plainItems_map {Item : Type} {json : Item → Json} {items : List Item}
    (plain : ∀ item ∈ items, (json item).Plain) : Json.PlainItems (items.map json) := by
  induction items with
  | nil => exact trivial
  | cons item rest ih =>
      exact ⟨plain item List.mem_cons_self, ih fun other isMember => plain other (.tail _ isMember)⟩

/-! ## Accounts -/

/-- An account as it is shown. -/
def userJson (record : UserStore.Record) : Json :=
  .object [(ascii "username", .string record.name), (ascii "role", .string (roleText record.role)),
    (ascii "enabled", .bool (record.enabled != 0))]

/-- The built-in account. -/
def masterJson : Json :=
  .object [(ascii "username", .string (ascii "master")),
    (ascii "role", .string (ascii "administrator")), (ascii "enabled", .bool true)]

def usersJson (users : List UserStore.Record) : Json :=
  .object [(ascii "users", .array (masterJson :: users.map userJson))]

theorem roleText_mem (role : UInt8) : roleText role ∈ [ascii "administrator", ascii "user"] := by
  rw [roleText]
  split <;> simp

theorem roleText_isText (role : UInt8) : IsText (roleText role) := by
  have all : ∀ text ∈ [ascii "administrator", ascii "user"], IsText text := by decide
  exact all _ (roleText_mem role)

theorem length_roleText_le (role : UInt8) : (roleText role).length ≤ 13 := by
  have all : ∀ text ∈ [ascii "administrator", ascii "user"], text.length ≤ 13 := by decide
  exact all _ (roleText_mem role)

theorem userText_eq {record : UserStore.Record} (plain : IsText record.name) :
    userText record = 0x2C :: (userJson record).text := by
  simp only [userText, userJson, Json.text, Json.fieldsText, Json.fieldsTail, Json.quoted,
    plain.escape_eq, (roleText_isText record.role).escape_eq, booleanText, List.append_assoc,
    List.cons_append]
  rfl

theorem length_userText_le (record : UserStore.Record) : (userText record).length ≤ 80 := by
  have name := length_bufferString_le record.username
  have role := length_roleText_le record.role
  have flag := length_booleanText_le (record.enabled != 0)
  simp only [userText, UserStore.Record.name, UserStore.usernameSize, List.length_append]
    at name ⊢
  change 14 + _ + 10 + _ + 12 + _ + 1 ≤ 80
  omega

/-- The accounts behind the built-in one. -/
theorem flatten_userTexts {users : List UserStore.Record}
    (plain : ∀ record ∈ users, IsText record.name) :
    (users.map userText).flatten = Json.itemsTail (users.map userJson) := by
  induction users with
  | nil => rfl
  | cons record rest ih =>
      rw [List.map_cons, List.flatten_cons, List.map_cons, Json.itemsTail,
        userText_eq (plain record List.mem_cons_self),
        ih fun other isMember => plain other (.tail _ isMember)]
      rfl

/-- **All accounts are shown.** -/
theorem usersListing_shows {users : List UserStore.Record} (few : users.length ≤ UserStore.maxUsers)
    (plain : ∀ record ∈ users, IsText record.name) :
    (usersListing users).Shows 200 (usersJson users) := by
  have items : (users.map userText).flatten.length ≤ users.length * 80 :=
    length_flatten_map_le fun record _ => length_userText_le record
  have count : users.length ≤ 8 := few
  have sizes : listingSize = 1856 := rfl
  have appends : ∀ record ∈ users, ∀ used : List UInt8,
      used.length + (userText record).length < listingSize →
        printBehind listingSize used (userText record) = some (used ++ userText record) := by
    intro record _ used fits
    exact printBehind_of_lt (fun empty => by simp [userText, ascii] at empty) fits
  have master : Json.Plain masterJson := by
    have texts : Json.Printable (ascii "master") ∧ Json.Printable (ascii "administrator") := by
      decide
    exact ⟨by decide, texts.1, by decide, texts.2, by decide, trivial, trivial⟩
  have others : Json.PlainItems (users.map userJson) := plainItems_map fun record isMember =>
    ⟨by decide, (plain record isMember).printable, by decide,
      (roleText_isText record.role).printable, by decide, trivial, trivial⟩
  rw [usersListing, listing_eq appends (by change 69 + _ + 2 < _; omega)]
  refine respond_shows (by decide) ⟨by decide, ⟨master, others⟩, trivial⟩ ?_ ?_
  · rw [flatten_userTexts plain, usersJson]
    simp only [Json.text, Json.itemsText, Json.fieldsText, Json.fieldsTail, List.append_assoc,
      List.cons_append]
    rfl
  · rw [List.length_append, List.length_append]
    change 69 + _ + 2 ≤ 1860
    omega

/-! ## Trust anchors -/

def anchorJson (anchor : TlsTrustStore.Info) : Json :=
  .object [(ascii "id", .number anchor.id), (ascii "der_length", .number anchor.derLength.toNat),
    (ascii "subject", .string anchor.subject)]

def anchorsJson (anchors : List TlsTrustStore.Info) : Json :=
  .object [(ascii "trust_anchors", .array (anchors.map anchorJson))]

theorem appendJsonString_printable {capacity : ℕ} {output value : List UInt8}
    (printable : Json.Printable value) (fits : output.length + (escape value).length < capacity) :
    appendJsonString capacity output value = (true, output ++ escape value) := by
  induction value generalizing output with
  | nil =>
      rw [escape_nil, List.length_nil, Nat.add_zero] at fits
      rw [appendJsonString, decide_eq_true fits, escape_nil, List.append_nil]
  | cons byte rest ih =>
      have noControl := printable byte List.mem_cons_self
      have others : Json.Printable rest := fun other isMember => printable other (.tail _ isMember)
      rw [escape_cons, List.length_append] at fits
      rw [appendJsonString, if_neg (by rintro (full | control) <;> [omega; exact noControl control])]
      by_cases special : byte = 0x22 ∨ byte = 0x5C
      · have pair : escapeByte byte = [0x5C, byte] := if_pos special
        rw [pair] at fits
        rw [if_pos special, if_neg (by simp only [List.length_cons, List.length_nil] at fits; omega),
          ih others (by simp only [List.length_append, List.length_cons] at fits ⊢; omega),
          escape_cons, pair, List.append_assoc]
      · have single : escapeByte byte = [byte] := if_neg special
        rw [single] at fits
        rw [if_neg special, if_neg (by simp only [List.length_cons, List.length_nil] at fits; omega),
          ih others (by simp only [List.length_append, List.length_cons] at fits ⊢; omega),
          escape_cons, single, List.append_assoc]

theorem appendJsonString_control {capacity : ℕ} {output value : List UInt8}
    (control : ¬ Json.Printable value) : (appendJsonString capacity output value).1 = false := by
  induction value generalizing output with
  | nil => exact absurd (fun byte isMember => absurd isMember List.not_mem_nil) control
  | cons byte rest ih =>
      rw [appendJsonString]
      split
      · rfl
      rename_i allowed
      have others : ¬ Json.Printable rest := by
        intro printable
        refine control fun other isMember => ?_
        rcases List.mem_cons.mp isMember with rfl | inRest
        · exact fun low => allowed (.inr low)
        · exact printable other inRest
      split
      · split
        · rfl
        · exact ih others
      · split
        · rfl
        · exact ih others

theorem length_escape_le (value : List UInt8) : (escape value).length ≤ 2 * value.length := by
  induction value with
  | nil => exact Nat.le_refl 0
  | cons byte rest ih =>
      have pair : (escapeByte byte).length ≤ 2 := by
        rw [escapeByte]
        split <;> simp
      rw [escape_cons, List.length_append, List.length_cons]
      omega

/-- What is printed for an anchor. -/
def anchorText (item : TlsTrustStore.Info × ℕ) : List UInt8 :=
  separator item.2 ++ (anchorJson item.1).text

theorem anchorText_eq (item : TlsTrustStore.Info × ℕ) :
    anchorText item = anchorHead item.2 item.1 ++ escape item.1.subject ++ ascii "\"\x7d" := by
  simp only [anchorText, anchorHead, anchorJson, Json.text, Json.fieldsText, Json.fieldsTail,
    Json.quoted, signedText_natCast, List.append_assoc, List.cons_append]
  rfl

theorem appendAnchor_eq {item : TlsTrustStore.Info × ℕ} (printable : Json.Printable item.1.subject)
    {used : List UInt8} (fits : used.length + (anchorText item).length < listingSize) :
    appendAnchor used item = some (used ++ anchorText item) := by
  rw [anchorText_eq] at fits ⊢
  simp only [List.length_append] at fits
  have printed : anchorHead item.2 item.1 ≠ [] := fun empty => by
    simp [anchorHead, ascii] at empty
  rw [appendAnchor, printBehind_of_lt printed (by omega), Option.bind_some,
    appendJsonString_printable printable (by rw [List.length_append]; omega)]
  dsimp only
  rw [printBehind_of_lt (by decide) (by simp only [List.length_append]; omega)]
  simp only [List.append_assoc]

theorem appendAnchor_control {item : TlsTrustStore.Info × ℕ}
    (control : ¬ Json.Printable item.1.subject) (used : List UInt8) :
    appendAnchor used item = none := by
  rw [appendAnchor]
  cases printBehind listingSize used (anchorHead item.2 item.1) with
  | none => rfl
  | some used =>
      have fails := @appendJsonString_control listingSize used _ control
      rw [Option.bind_some]
      generalize appendJsonString listingSize used item.1.subject = appended at fails ⊢
      obtain ⟨done, output⟩ := appended
      obtain rfl : done = false := fails
      rfl

/-- What the trust store lists is small. -/
theorem list_small {ram : TlsTrustStore.Ram} {anchor : TlsTrustStore.Info}
    (listed : anchor ∈ TlsTrustStore.list ram TlsTrustStore.maxPersisted) :
    anchor.id < 10 ∧ anchor.subject.length ≤ 127 := by
  obtain ⟨⟨stored, index⟩, isItem, rfl⟩ := List.mem_map.mp (List.mem_of_mem_take listed)
  have within := List.snd_lt_of_mem_zipIdx (List.mem_of_mem_filter isItem)
  rw [Vector.length_toList] at within
  simp only [TlsTrustStore.maxPersisted] at within
  refine ⟨by dsimp only; omega, ?_⟩
  exact List.length_take_le _ _

theorem length_list_le (ram : TlsTrustStore.Ram) :
    (TlsTrustStore.list ram TlsTrustStore.maxPersisted).length ≤ 6 :=
  List.length_take_le _ _

theorem length_anchorText_le {item : TlsTrustStore.Info × ℕ}
    (small : item.1.id < 10 ∧ item.1.subject.length ≤ 127) : (anchorText item).length ≤ 295 := by
  have comma := length_separator_le item.2
  have id : (decimalText item.1.id).length ≤ 1 := length_decimalText_le small.1
  have der := length_decimalText_uint16 item.1.derLength
  have subject := length_escape_le item.1.subject
  rw [anchorText_eq, anchorHead]
  simp only [List.length_append]
  change _ + 6 + _ + 14 + _ + 12 + _ + 2 ≤ 295
  omega

/-- **The anchors are shown if their subjects have no control characters.** -/
theorem anchorsListing_shows {ram : TlsTrustStore.Ram}
    (printable : ∀ anchor ∈ TlsTrustStore.list ram TlsTrustStore.maxPersisted,
      Json.Printable anchor.subject) :
    (anchorsListing (TlsTrustStore.list ram TlsTrustStore.maxPersisted)).Shows 200
      (anchorsJson (TlsTrustStore.list ram TlsTrustStore.maxPersisted)) := by
  have few := length_list_le ram
  have small := @list_small ram
  generalize TlsTrustStore.list ram TlsTrustStore.maxPersisted = anchors at printable few small ⊢
  have sizes : listingSize = 1856 := rfl
  have inList {item : TlsTrustStore.Info × ℕ} (isMember : item ∈ anchors.zipIdx) :
      item.1 ∈ anchors := List.fst_mem_of_mem_zipIdx isMember
  have items : (anchors.zipIdx.map anchorText).flatten.length ≤ anchors.zipIdx.length * 295 :=
    length_flatten_map_le fun item isMember => length_anchorText_le (small (inList isMember))
  rw [List.length_zipIdx] at items
  have plain : Json.PlainItems (anchors.map anchorJson) := plainItems_map fun anchor isMember =>
    ⟨by decide, trivial, by decide, trivial, by decide, printable anchor isMember, trivial⟩
  rw [anchorsListing, listing_eq
    (fun item isMember used fits => appendAnchor_eq (printable _ (inList isMember)) fits)
    (by change 18 + _ + 2 < _; omega)]
  refine respond_shows (by decide) ⟨by decide, plain, trivial⟩ ?_ ?_
  · have texts : (anchors.zipIdx.map anchorText).flatten = Json.itemsText (anchors.map anchorJson) :=
      flatten_separated anchorJson anchors
    rw [texts, anchorsJson]
    simp only [Json.text, Json.fieldsText, Json.fieldsTail, List.append_assoc, List.cons_append]
    rfl
  · rw [List.length_append, List.length_append]
    change 18 + _ + 2 ≤ 1860
    omega

/-- An item that cannot be appended anywhere makes the listing fail. -/
theorem foldlM_eq_none {Item : Type} {append : List UInt8 → Item → Option (List UInt8)}
    {items : List Item} {item : Item} (isMember : item ∈ items)
    (fails : ∀ used, append used item = none) (used : List UInt8) :
    items.foldlM append used = none := by
  induction items generalizing used with
  | nil => cases isMember
  | cons first rest ih =>
      rw [List.foldlM_cons]
      rcases List.mem_cons.mp isMember with rfl | inRest
      · rw [fails]
        rfl
      · cases append used first with
        | none => rfl
        | some more => exact ih inRest more

/-- **A control character in the subject of one anchor hides all of them.** -/
theorem anchorsListing_fails {anchors : List TlsTrustStore.Info} {anchor : TlsTrustStore.Info}
    (isMember : anchor ∈ anchors) (control : ¬ Json.Printable anchor.subject) :
    (anchorsListing anchors).Shows 500 (errorJson "response_too_large") := by
  obtain ⟨position, found⟩ := List.mem_iff_getElem?.mp isMember
  have isItem : (anchor, position) ∈ anchors.zipIdx := List.mem_zipIdx_iff_getElem?.mpr found
  rw [anchorsListing, listing, foldlM_eq_none isItem (appendAnchor_control control)]
  exact error_shows (by decide)

/-! ## Resources -/

/-- A resource as it is shown. -/
def resourceJson (index : ℕ) (host : List UInt8) (port : ℕ) (path : List UInt8) (enabled : Bool)
    (trustAnchorId : ℕ) : Json :=
  .object [(ascii "index", .number index), (ascii "host", .string host),
    (ascii "port", .number port), (ascii "path", .string path), (ascii "enabled", .bool enabled),
    (ascii "trust_anchor_id", .number trustAnchorId)]

section Resource

variable {index port trustAnchorId : ℕ} {host path : List UInt8} {enabled : Bool}

theorem resourceFields_eq (hostPlain : IsText host) (pathPlain : IsText path) :
    resourceFields index host port path enabled trustAnchorId =
      (resourceJson index host port path enabled trustAnchorId).text := by
  simp only [resourceFields, resourceJson, Json.text, Json.fieldsText, Json.fieldsTail,
    Json.quoted, signedText_natCast, hostPlain.escape_eq, pathPlain.escape_eq, booleanText,
    List.append_assoc, List.cons_append]
  rfl

theorem plain_resourceJson (hostPlain : IsText host) (pathPlain : IsText path) :
    (resourceJson index host port path enabled trustAnchorId).Plain :=
  ⟨by decide, trivial, by decide, hostPlain.printable, by decide, trivial, by decide,
    pathPlain.printable, by decide, trivial, by decide, trivial, trivial⟩

theorem length_resourceFields_le (indexSmall : index < 10) (portSmall : port < 100000)
    (anchorSmall : trustAnchorId < 1000) :
    (resourceFields index host port path enabled trustAnchorId).length
      ≤ host.length + path.length + 82 := by
  have indexLength : (decimalText index).length ≤ 1 := length_decimalText_le indexSmall
  have portLength : (decimalText port).length ≤ 5 := length_decimalText_le portSmall
  have anchorLength : (decimalText trustAnchorId).length ≤ 3 := length_decimalText_le anchorSmall
  have flag := length_booleanText_le enabled
  simp only [resourceFields, List.length_append]
  change 9 + _ + 9 + _ + 9 + _ + 9 + _ + 12 + _ + 19 + _ + 1 ≤ _
  omega

end Resource

/-- A stored resource as it is shown. -/
def storedJson (item : HealthCheckConfig.Resource × ℕ) : Json :=
  resourceJson item.2 (bufferString item.1.host) item.1.port.toNat (bufferString item.1.path)
    (item.1.enabled != 0) item.1.trustAnchorId.toNat

def configJson (periodSeconds : UInt32)
    (resources : Vector HealthCheckConfig.Resource HealthCheckConfig.maxResources) : Json :=
  .object [(ascii "period_seconds", .number periodSeconds.toNat),
    (ascii "resources", .array ((occupiedResources resources).map storedJson))]

/-- What an occupied resource is like: its strings are plain, fit their buffers and begin as
they must, and it has a port. -/
structure Usable (resource : HealthCheckConfig.Resource) : Prop where
  host : IsText (bufferString resource.host)
  hostSome : bufferString resource.host ≠ []
  hostFits : (bufferString resource.host).length < HealthCheckConfig.hostSize
  path : IsText (bufferString resource.path)
  pathStart : (bufferString resource.path).head? = some 0x2F
  pathFits : (bufferString resource.path).length < HealthCheckConfig.pathSize
  port : resource.port ≠ 0

theorem resourceText_eq {resource : HealthCheckConfig.Resource} (usable : Usable resource)
    (index : ℕ) : resourceText resource index = (storedJson (resource, index)).text :=
  resourceFields_eq usable.host usable.path

theorem length_resourceText_le (resource : HealthCheckConfig.Resource) {index : ℕ}
    (small : index < 10) : (resourceText resource index).length ≤ 226 := by
  have host : (bufferString resource.host).length ≤ 64 := length_bufferString_le _
  have path : (bufferString resource.path).length ≤ 80 := length_bufferString_le _
  have fields := @length_resourceFields_le index resource.port.toNat resource.trustAnchorId.toNat
    (bufferString resource.host) (bufferString resource.path) (resource.enabled != 0) small
    (Nat.lt_trans resource.port.toNat_lt (by decide))
    (Nat.lt_trans resource.trustAnchorId.toNat_lt (by decide))
  rw [resourceText]
  omega

/-- What is shown is occupied and has an index of the store. -/
theorem mem_occupiedResources
    {resources : Vector HealthCheckConfig.Resource HealthCheckConfig.maxResources}
    {item : HealthCheckConfig.Resource × ℕ} (isMember : item ∈ occupiedResources resources) :
    item.1 ∈ resources.toList ∧ item.1.occupied ≠ 0 ∧ item.2 < HealthCheckConfig.maxResources := by
  obtain ⟨isItem, occupied⟩ := List.mem_filter.mp isMember
  have within := List.snd_lt_of_mem_zipIdx isItem
  rw [Vector.length_toList] at within
  exact ⟨List.fst_mem_of_mem_zipIdx isItem, by simpa using occupied, by omega⟩

theorem length_occupiedResources_le
    (resources : Vector HealthCheckConfig.Resource HealthCheckConfig.maxResources) :
    (occupiedResources resources).length ≤ 6 := by
  have filtered := List.length_filter_le (fun item => item.1.occupied != 0) resources.toList.zipIdx
  rwa [List.length_zipIdx, Vector.length_toList] at filtered

/-- What is printed for a resource. -/
def resourceItem (item : (HealthCheckConfig.Resource × ℕ) × ℕ) : List UInt8 :=
  separator item.2 ++ resourceText item.1.1 item.1.2

theorem length_resourceItem_le {item : (HealthCheckConfig.Resource × ℕ) × ℕ}
    (small : item.1.2 < 10) : (resourceItem item).length ≤ 227 := by
  have comma := length_separator_le item.2
  have text := length_resourceText_le item.1.1 small
  rw [resourceItem, List.length_append]
  omega

theorem flatten_resourceItems {items : List (HealthCheckConfig.Resource × ℕ)}
    (usable : ∀ item ∈ items, Usable item.1) :
    (items.zipIdx.map resourceItem).flatten = Json.itemsText (items.map storedJson) := by
  rw [← flatten_separated]
  congr 1
  refine List.map_congr_left fun item isMember => ?_
  rw [resourceItem, resourceText_eq (usable item.1 (List.fst_mem_of_mem_zipIdx isMember))]

/-- **All resources are shown.** -/
theorem configListing_shows {periodSeconds : UInt32}
    {resources : Vector HealthCheckConfig.Resource HealthCheckConfig.maxResources}
    (usable : ∀ resource ∈ resources.toList, resource.occupied ≠ 0 → Usable resource) :
    (configListing periodSeconds resources).Shows 200 (configJson periodSeconds resources) := by
  have few := length_occupiedResources_le resources
  have stored : ∀ item ∈ occupiedResources resources, Usable item.1 ∧ item.2 < 6 := by
    intro item isMember
    obtain ⟨inStore, occupied, within⟩ := mem_occupiedResources isMember
    exact ⟨usable item.1 inStore occupied, within⟩
  rw [configListing, configJson]
  generalize occupiedResources resources = occupied at few stored ⊢
  have sizes : listingSize = 1856 := rfl
  have items : (occupied.zipIdx.map resourceItem).flatten.length ≤ occupied.zipIdx.length * 227 := by
    apply length_flatten_map_le
    intro item isMember
    have within := (stored item.1 (List.fst_mem_of_mem_zipIdx isMember)).2
    exact length_resourceItem_le (by omega)
  rw [List.length_zipIdx] at items
  have appends : ∀ item ∈ occupied.zipIdx, ∀ used : List UInt8,
      used.length + (resourceItem item).length < listingSize →
        printBehind listingSize used (separator item.2 ++ resourceText item.1.1 item.1.2) =
          some (used ++ resourceItem item) := by
    intro item _ used fits
    exact printBehind_of_lt (fun empty => by simp [resourceText, resourceFields, ascii] at empty)
      fits
  have period := length_decimalText_uint32 periodSeconds
  have opening : (ascii "\x7b\"period_seconds\":" ++ decimalText periodSeconds.toNat
      ++ ascii ",\"resources\":[").length ≤ 42 := by
    simp only [List.length_append]
    change 18 + _ + 14 ≤ 42
    omega
  have values : Json.PlainItems (occupied.map storedJson) := plainItems_map fun item isMember =>
    plain_resourceJson (stored item isMember).1.host (stored item isMember).1.path
  rw [listing_eq appends (by omega)]
  refine respond_shows (by decide) ⟨by decide, trivial, by decide, values, trivial⟩ ?_ ?_
  · rw [flatten_resourceItems fun item isMember => (stored item isMember).1]
    simp only [Json.text, Json.fieldsText, Json.fieldsTail, Json.quoted, signedText_natCast,
      List.append_assoc, List.cons_append]
    rfl
  · rw [List.length_append, List.length_append]
    change _ + _ + 2 ≤ 1860
    omega

/-! ## The callback configuration -/

def callbackJson (config : CallbackConfig.Config) : Json :=
  .object [(ascii "enabled", .bool (config.enabled != 0)),
    (ascii "method", .string (methodText config.method)),
    (ascii "host", .string (bufferString config.host)), (ascii "port", .number config.port.toNat),
    (ascii "path", .string (bufferString config.path)),
    (ascii "trust_anchor_id", .number config.trustAnchorId.toNat)]

/-- The characters before the terminator are allowed. -/
theorem allowed_of_terminatedBy {allowed : UInt8 → Bool} {bytes : List UInt8}
    (terminated : CallbackConfig.terminatedBy allowed bytes = true) :
    ∀ byte ∈ cString bytes, allowed byte = true := by
  induction bytes with
  | nil => cases terminated
  | cons first rest ih =>
      rw [CallbackConfig.terminatedBy] at terminated
      by_cases zero : first = 0
      · intro byte isMember
        simp [cString, zero] at isMember
      · rw [if_neg zero, Bool.and_eq_true] at terminated
        have first_ : cString (first :: rest) = first :: cString rest := by
          simp [cString, zero]
        rw [first_]
        intro byte isMember
        rcases List.mem_cons.mp isMember with rfl | inRest
        · exact terminated.1
        · exact ih terminated.2 byte inRest

theorem isPlain_of_pathCharacter {byte : UInt8}
    (allowed : CallbackConfig.pathCharacter byte = true) : IsPlain byte := by
  simp only [CallbackConfig.pathCharacter, Bool.not_eq_true', Bool.or_eq_false_iff,
    decide_eq_false_iff_not, beq_eq_false_iff_ne] at allowed
  obtain ⟨⟨⟨⟨visible, -⟩, quote⟩, backslash⟩, -⟩ := allowed
  exact ⟨quote, backslash, fun low => visible (UInt8.lt_trans low (by decide))⟩

theorem isPlain_of_hostCharacter {byte : UInt8}
    (allowed : CallbackConfig.hostCharacter byte = true) : IsPlain byte := by
  refine ⟨?_, ?_, ?_⟩
  · rintro rfl
    cases allowed
  · rintro rfl
    cases allowed
  · intro low
    simp only [CallbackConfig.hostCharacter, Bool.or_eq_true, Bool.and_eq_true, decide_eq_true_eq,
      beq_iff_eq] at allowed
    rcases allowed with (((⟨small, -⟩ | ⟨capital, -⟩) | ⟨digit, -⟩) | rfl) | rfl
    · exact absurd (UInt8.lt_of_le_of_lt small low) (by decide)
    · exact absurd (UInt8.lt_of_le_of_lt capital low) (by decide)
    · exact absurd (UInt8.lt_of_le_of_lt digit low) (by decide)
    · exact absurd low (by decide)
    · exact absurd low (by decide)

/-- The texts of a valid configuration are plain. -/
theorem texts_plain_of_valid {config : CallbackConfig.Config}
    (valid : CallbackConfig.configIsValid config = true) :
    IsText (bufferString config.host) ∧ IsText (bufferString config.path) := by
  simp only [CallbackConfig.configIsValid, CallbackConfig.hostValid, CallbackConfig.pathValid,
    Bool.and_eq_true] at valid
  obtain ⟨⟨⟨-, -, host⟩, -, path⟩, -⟩ := valid
  exact ⟨fun byte isMember => isPlain_of_hostCharacter (allowed_of_terminatedBy host byte isMember),
    fun byte isMember => isPlain_of_pathCharacter (allowed_of_terminatedBy path byte isMember)⟩

theorem methodText_mem (method : UInt8) : methodText method ∈ [ascii "POST", ascii "GET"] := by
  rw [methodText]
  split <;> simp

theorem methodText_isText (method : UInt8) : IsText (methodText method) := by
  have all : ∀ text ∈ [ascii "POST", ascii "GET"], IsText text := by decide
  exact all _ (methodText_mem method)

/-- **A valid callback configuration is shown.** -/
theorem callback_shows {config : CallbackConfig.Config}
    (valid : CallbackConfig.configIsValid config = true) :
    (respond 200 "OK" (snprintf 320 (callbackText config))).Shows 200 (callbackJson config) := by
  obtain ⟨hostPlain, pathPlain⟩ := texts_plain_of_valid valid
  have methodPlain := methodText_isText config.method
  have host : (bufferString config.host).length ≤ 64 := length_bufferString_le _
  have path : (bufferString config.path).length ≤ 80 := length_bufferString_le _
  have port := length_decimalText_uint16 config.port
  have anchor := length_decimalText_uint8 config.trustAnchorId
  have flag := length_booleanText_le (config.enabled != 0)
  have method : (methodText config.method).length ≤ 4 := by
    have all : ∀ text ∈ [ascii "POST", ascii "GET"], text.length ≤ 4 := by decide
    exact all _ (methodText_mem config.method)
  refine respond_snprintf_shows (by decide) ⟨by decide, trivial, by decide, methodPlain.printable,
    by decide, hostPlain.printable, by decide, trivial, by decide, pathPlain.printable, by decide,
    trivial, trivial⟩ ?_ ?_ (by decide)
  · simp only [callbackText, callbackJson, Json.text, Json.fieldsText, Json.fieldsTail,
      Json.quoted, signedText_natCast, methodPlain.escape_eq, hostPlain.escape_eq,
      pathPlain.escape_eq, booleanText, List.append_assoc, List.cons_append]
    rfl
  · simp only [callbackText, List.length_append]
    change 11 + _ + 11 + _ + 10 + _ + 9 + _ + 9 + _ + 20 + _ + 1 < 320
    omega

end HealthCheckFirmware.ApiService
