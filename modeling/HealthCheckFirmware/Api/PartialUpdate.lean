import HealthCheckFirmware.Api.Addressing

/-!
# Partial updates of a resource

An update of a health-check resource fills its buffers with the stored strings, lets the
parser write over them, and stores what is in them then, whether the parser has
succeeded or not. A value that is refused half way is therefore stored with the rest of
the old string behind it. The fields are kept or replaced as a whole exactly if the
characters read of every refused value are those that the stored string begins with, or
the update is refused for another reason (`keepsFields_iff`).
-/

set_option autoImplicit false

namespace HealthCheckFirmware.ApiService

open HealthCheckConfig (Resource occupiedSlot hostSize pathSize)

/-! ## Fields -/

/-- A field is as it was, or it is the whole string that the body gives for it. -/
def Kept (body key : List UInt8) (capacity : ℕ) (before after : List UInt8) : Prop :=
  after = before ∨ jsonText body key capacity = some after

/-- Both strings of a resource are kept or replaced as a whole. -/
def KeptResource (body : List UInt8) (before after : Resource) : Prop :=
  Kept body (ascii "host") hostSize (bufferString before.host) (bufferString after.host) ∧
    Kept body (ascii "path") pathSize (bufferString before.path) (bufferString after.path)

/-- If a value is refused, then what has been read of it is what the field begins
with. -/
def Intact (body key : List UInt8) (capacity : ℕ) (before : List UInt8) : Prop :=
  ∀ characters, refusedText body key capacity = some characters → characters <+: before

/-- The strings of a slot are terminated, as every bounded copy leaves them. -/
def Terminated (resource : Resource) : Prop :=
  0 ∈ resource.host.toList ∧ 0 ∈ resource.path.toList

/-- The update is refused on account of its numbers, or the store refuses it. -/
def RefusedUpdate (trust : TlsTrustStore.Ram) (update : ResourceUpdate) : Prop :=
  portAcceptable update.port = false
    ∨ ¬ (TlsTrustStore.minId.toNat ≤ update.trustAnchor.toNat
      ∧ update.trustAnchor.toNat ≤ TlsTrustStore.maxPersisted
      ∧ TlsTrustStore.anchorExists trust update.trustAnchor.toUInt8 = true)
    ∨ update.input.isValid = false

variable {body key old : List UInt8} {capacity : ℕ}

theorem append_drop_eq_self_iff {characters : List UInt8} :
    characters ++ old.drop characters.length = old ↔ characters <+: old := by
  constructor
  · intro same
    exact ⟨_, same⟩
  · rintro ⟨rest, rfl⟩
    rw [List.drop_left]

/-- A refused value is not accepted. -/
theorem jsonText_of_refused {characters : List UInt8} (positive : 0 < capacity)
    (refused : refusedText body key capacity = some characters) :
    jsonText body key capacity = none := by
  obtain ⟨value, found, ends⟩ := Option.bind_eq_some_iff.mp refused
  rw [jsonText_eq body key positive, found, Option.bind_some]
  split at ends
  · cases ends
  · rename_i open_
    exact if_neg open_

/-- **A field that goes through the parser is kept or replaced as a whole exactly if it
is intact.** -/
theorem kept_iff_intact (fits : old.length < capacity) (nonzero : 0 ∉ old) :
    Kept body key capacity old (bufferString (jsonString body key (fillBuffer capacity old)).2) ↔
      Intact body key capacity old := by
  rw [bufferString_jsonString body key fits nonzero, Kept, Intact]
  cases refused : refusedText body key capacity with
  | some characters =>
      rw [jsonText_of_refused (by omega) refused]
      simp [append_drop_eq_self_iff]
  | none =>
      cases jsonText body key capacity with
      | none => simp
      | some text => simp

/-! ## The stored resource -/

variable {resource : Resource}

theorem length_bufferString_lt {size : ℕ} {buffer : Vector UInt8 size}
    (terminated : 0 ∈ buffer.toList) : (bufferString buffer).length < size := by
  have shorter : (bufferString buffer).length < buffer.toList.length := by
    refine lt_of_le_of_ne (List.takeWhile_sublist _).length_le ?_
    intro whole
    have all : bufferString buffer = buffer.toList := (List.takeWhile_prefix _).eq_of_length whole
    exact zero_notMem_cString buffer.toList (by rw [← bufferString, all]; exact terminated)
  rwa [Vector.length_toList] at shorter

/-- Both strings of the update are kept or replaced as a whole exactly if both are
intact. -/
theorem kept_changedResource_iff (terminated : Terminated resource) :
    (Kept body (ascii "host") hostSize (bufferString resource.host)
        (changedResource resource body).host
      ∧ Kept body (ascii "path") pathSize (bufferString resource.path)
        (changedResource resource body).path) ↔
      Intact body (ascii "host") hostSize (bufferString resource.host)
        ∧ Intact body (ascii "path") pathSize (bufferString resource.path) :=
  and_congr
    (kept_iff_intact (length_bufferString_lt terminated.1) (zero_notMem_cString _))
    (kept_iff_intact (length_bufferString_lt terminated.2) (zero_notMem_cString _))

theorem occupiedSlot_withSlot {config : HealthCheckConfig.CurrentBody} {index : UInt8}
    {slot : Resource} (occupied : occupiedSlot config index = some resource)
    (same : slot.occupied = resource.occupied) :
    occupiedSlot (config.withSlot index.toNat slot) index = some slot := by
  obtain ⟨found, used⟩ := Option.filter_eq_some_iff.mp occupied
  obtain ⟨within, -⟩ := List.getElem?_eq_some_iff.mp found
  rw [occupiedSlot, HealthCheckConfig.Body.withSlot, Vector.toList_setIfInBounds,
    List.getElem?_set_self within]
  exact Option.filter_eq_some_iff.mpr ⟨rfl, by simpa [same] using used⟩

/-- What a valid input leaves in a slot. -/
theorem strings_assign {input : HealthCheckConfig.ResourceInput} (valid : input.isValid = true)
    (host : 0 ∉ input.host) (path : 0 ∉ input.path) (slot : Resource) :
    bufferString (input.assign slot).host = input.host
      ∧ bufferString (input.assign slot).path = input.path := by
  simp only [HealthCheckConfig.ResourceInput.isValid, Bool.not_eq_true', Bool.or_eq_false_iff,
    decide_eq_false_iff_not, Nat.not_le] at valid
  exact ⟨bufferString_fillBuffer valid.1.2 host, bufferString_fillBuffer valid.2 path⟩

/-! ## The request -/

/-- The beginning of the targets of single resources. -/
def resourcesPath : List UInt8 := ascii "/api/v1/health-check/resources/"

/-- Whatever else the device holds and whatever the request meets, an administrator's
update with this body keeps both strings of the resource or replaces them as a whole. -/
def KeepsFields (healthCheck : HealthCheckConfig.Ram) (trust : TlsTrustStore.Ram) (index : UInt8)
    (body : List UInt8) : Prop :=
  ∀ library environment device request indexText,
    device.healthCheck = healthCheck → device.trust = trust →
      cString request.method = ascii "PUT" → cString request.path = resourcesPath ++ indexText →
        resourceIndex indexText = some index → cString request.body = body →
          ByAdministrator library environment device request →
            ∀ resource, occupiedSlot healthCheck.snapshot.body index = some resource →
              ∃ after, occupiedSlot
                  (dispatch library environment device request).1.healthCheck.snapshot.body index
                    = some after
                ∧ KeptResource body resource after

theorem operation_putResource (indexText : List UInt8) :
    operation (ascii "PUT") (resourcesPath ++ indexText) = .updateResource indexText := rfl

variable {library : Library} {environment : Environment} {device : Device} {request : Request}
  {indexText : List UInt8} {index : UInt8}

/-- The update of a resource by an administrator. -/
theorem dispatch_putResource (by_ : ByAdministrator library environment device request)
    (method : cString request.method = ascii "PUT")
    (path : cString request.path = resourcesPath ++ indexText) :
    dispatch library environment device request =
      updateResource environment device indexText (cString request.body) := by
  have endpoint : route (cString request.method) (cString request.path) =
      .authorized (.updateResource indexText) := by
    rw [method, path, ← operation_putResource]
    exact route_authorized _ (.inl rfl)
  obtain ⟨principal, role, result⟩ := dispatch_byAdministrator by_ endpoint
  rw [result, operate, restricted, if_pos role]

theorem anchorAcceptable_iff {trustAnchor : UInt32} :
    anchorAcceptable device trustAnchor true = true ↔
      TlsTrustStore.minId.toNat ≤ trustAnchor.toNat
        ∧ trustAnchor.toNat ≤ TlsTrustStore.maxPersisted
        ∧ TlsTrustStore.anchorExists device.trust trustAnchor.toUInt8 = true := by
  simp [anchorAcceptable, and_assoc]

/-- An update that is refused changes nothing in memory; any other one is handed to the
store. -/
theorem updateResource_healthCheck (named : resourceIndex indexText = some index)
    (occupied : occupiedSlot device.healthCheck.snapshot.body index = some resource) :
    (RefusedUpdate device.trust (changedResource resource body)
        ∧ (updateResource environment device indexText body).1.healthCheck.snapshot
          = device.healthCheck.snapshot)
      ∨ (¬ RefusedUpdate device.trust (changedResource resource body)
        ∧ (updateResource environment device indexText body).1.healthCheck
          = (HealthCheckConfig.mutate device.healthCheck
              (.updateResource index (changedResource resource body).input)
              environment.healthCheckFaults).1) := by
  rw [updateResource, named]
  dsimp only
  rw [occupied]
  dsimp only
  rw [checkedResource]
  by_cases port : portAcceptable (changedResource resource body).port = false
  · rw [if_pos port]
    exact .inl ⟨.inl port, rfl⟩
  rw [if_neg port]
  by_cases anchor : anchorAcceptable device (changedResource resource body).trustAnchor true = false
  · rw [if_pos anchor]
    refine .inl ⟨.inr (.inl ?_), rfl⟩
    rw [← anchorAcceptable_iff, anchor]
    exact Bool.false_ne_true
  rw [if_neg anchor]
  by_cases valid : (changedResource resource body).input.isValid = false
  · refine .inl ⟨.inr (.inr valid), ?_⟩
    have refused : HealthCheckConfig.amend device.healthCheck.snapshot.body
        (.updateResource index (changedResource resource body).input) = .error .invalidArgument := by
      rw [HealthCheckConfig.amend, HealthCheckConfig.updateCandidate, if_pos (.inr valid)]
    exact congrArg _ (HealthCheckConfig.mutate_refused refused environment.healthCheckFaults)
  · refine .inr ⟨?_, rfl⟩
    rintro (other | other | other)
    · exact port other
    · exact other (anchorAcceptable_iff.mp (by rwa [Bool.not_eq_false] at anchor))
    · exact valid other

/-- An index that a path can name is in range. -/
theorem resourceIndex_lt (named : resourceIndex indexText = some index) :
    index.toNat < HealthCheckConfig.maxResources := by
  unfold resourceIndex pathNumber at named
  split at named
  · cases named
  · split at named
    · rename_i value rest _ range
      cases named
      obtain ⟨-, low, high⟩ := range
      have small : value.toNat < 6 := by
        change value ≤ 6 - 1 at high
        omega
      rw [UInt8.toNat_ofNat']
      exact Nat.lt_of_le_of_lt (Nat.mod_le _ _) small
    · cases named

/-- The candidate of an update that the store does not refuse. -/
theorem amend_updateResource {config : HealthCheckConfig.CurrentBody}
    {input : HealthCheckConfig.ResourceInput} (inRange : index.toNat < HealthCheckConfig.maxResources)
    (occupied : occupiedSlot config index = some resource) (valid : input.isValid = true) :
    HealthCheckConfig.amend config (.updateResource index input) =
      .ok (config.withSlot index.toNat (input.assign resource)) := by
  rw [HealthCheckConfig.amend, HealthCheckConfig.updateCandidate, if_neg, occupied]
  rw [not_or, Nat.not_le, valid]
  exact ⟨inRange, Bool.noConfusion⟩

/-- What an update that is carried out leaves in the slot. -/
theorem keptResource_assign (valid : (changedResource resource body).input.isValid = true) :
    KeptResource body resource ((changedResource resource body).input.assign resource) ↔
      (Kept body (ascii "host") hostSize (bufferString resource.host)
          (changedResource resource body).host
        ∧ Kept body (ascii "path") pathSize (bufferString resource.path)
          (changedResource resource body).path) := by
  obtain ⟨host, path⟩ := strings_assign valid (zero_notMem_cString _) (zero_notMem_cString _) resource
  rw [KeptResource, host, path]
  exact Iff.rfl

theorem KeptResource.refl (body : List UInt8) (resource : Resource) :
    KeptResource body resource resource :=
  ⟨.inl rfl, .inl rfl⟩

theorem valid_of_not_refused {trust : TlsTrustStore.Ram} {update : ResourceUpdate}
    (carried : ¬ RefusedUpdate trust update) : update.input.isValid = true := by
  rw [← Bool.not_eq_false]
  exact fun invalid => carried (.inr (.inr invalid))

theorem occupiedSlot_congr {first second : HealthCheckConfig.CurrentBody}
    (same : first.resources = second.resources) :
    occupiedSlot first index = occupiedSlot second index := by
  rw [occupiedSlot, same, occupiedSlot]

/-- **Strings that are intact are kept or replaced as a whole**, and so are those of an
update that is refused. -/
theorem keepsFields_of_intact {healthCheck : HealthCheckConfig.Ram} {trust : TlsTrustStore.Ram}
    (occupied : occupiedSlot healthCheck.snapshot.body index = some resource)
    (terminated : Terminated resource)
    (harmless : (Intact body (ascii "host") hostSize (bufferString resource.host)
        ∧ Intact body (ascii "path") pathSize (bufferString resource.path))
      ∨ RefusedUpdate trust (changedResource resource body)) :
    KeepsFields healthCheck trust index body := by
  rintro library environment device request indexText rfl rfl method path named rfl by_ other found
  cases occupied.symm.trans found
  rw [dispatch_putResource by_ method path]
  rcases @updateResource_healthCheck (cString request.body) resource environment device indexText
    index named occupied with ⟨-, same⟩ | ⟨carried, handed⟩
  · exact ⟨resource, by rw [same]; exact occupied, .refl _ _⟩
  · have intact := harmless.resolve_right carried
    rw [handed]
    rcases HealthCheckConfig.mutate_resources device.healthCheck
        (.updateResource index (changedResource resource (cString request.body)).input)
        environment.healthCheckFaults with same | ⟨candidate, amended, stored⟩
    · exact ⟨resource, by rw [same]; exact occupied, .refl _ _⟩
    · have valid := valid_of_not_refused carried
      cases amended.symm.trans (amend_updateResource (resourceIndex_lt named) occupied valid)
      refine ⟨_, (occupiedSlot_congr stored).trans (occupiedSlot_withSlot occupied rfl), ?_⟩
      rw [keptResource_assign valid, kept_changedResource_iff terminated]
      exact intact

/-- The text of an index that is in range. -/
theorem resourceIndex_decimalText (inRange : index.toNat < HealthCheckConfig.maxResources) :
    resourceIndex (decimalText index.toNat) = some index := by
  have all : ∀ number : Fin 6,
      resourceIndex (decimalText number.val) = some (UInt8.ofNat number.val) := by
    decide
  have own := all ⟨index.toNat, inRange⟩
  rwa [UInt8.ofNat_toNat] at own

/-- The device without faults, with this configuration and these anchors. -/
def configured (healthCheck : HealthCheckConfig.Ram) (trust : TlsTrustStore.Ram) : Device :=
  { Startup.calmDevice Startup.noUsers with healthCheck := healthCheck, trust := trust }

/-- An administrator's update of a resource. -/
def updating (index : UInt8) (body : List UInt8) : Request :=
  ⟨ascii "PUT", resourcesPath ++ decimalText index.toNat, Startup.bearer, body⟩

theorem byAdministrator_configured (healthCheck : HealthCheckConfig.Ram)
    (trust : TlsTrustStore.Ram) (body : List UInt8) :
    ByAdministrator Startup.lenient Startup.calm (configured healthCheck trust)
      (updating index body) := by
  refine ⟨⟨0, by decide⟩, rfl, rfl, rfl, ?_⟩
  exact Startup.authorize_bearer

/-- What is left of a string that is not intact is stored. -/
theorem not_keepsFields {healthCheck : HealthCheckConfig.Ram} {trust : TlsTrustStore.Ram}
    (wellFormed : healthCheck.snapshot.body.WellFormed)
    (inRange : index.toNat < HealthCheckConfig.maxResources)
    (occupied : occupiedSlot healthCheck.snapshot.body index = some resource)
    (terminated : Terminated resource) (text : 0 ∉ body)
    (carried : ¬ RefusedUpdate trust (changedResource resource body))
    (broken : ¬ (Intact body (ascii "host") hostSize (bufferString resource.host)
      ∧ Intact body (ascii "path") pathSize (bufferString resource.path))) :
    ¬ KeepsFields healthCheck trust index body := by
  intro keeps
  have by_ := @byAdministrator_configured index healthCheck trust body
  have string : cString body = body := cString_of_nonzero text
  have path : cString (updating index body).path = resourcesPath ++ decimalText index.toNat := by
    refine cString_of_nonzero ?_
    rw [updating, List.mem_append]
    refine not_or.mpr ⟨by decide, fun zero => ?_⟩
    exact absurd (isDigit_of_mem_decimalText zero) (by decide)
  obtain ⟨after, stored, kept⟩ := keeps _ _ _ _ _ rfl rfl rfl path
    (resourceIndex_decimalText inRange) string by_ resource occupied
  have valid := valid_of_not_refused carried
  have result := dispatch_putResource by_ rfl path
  rcases @updateResource_healthCheck body resource Startup.calm (configured healthCheck trust)
    (decimalText index.toNat) index (resourceIndex_decimalText inRange) occupied with
    ⟨refused, -⟩ | ⟨-, handed⟩
  · exact carried refused
  · have saved := HealthCheckConfig.mutate_done wellFormed
      (amend_updateResource inRange occupied valid)
    rw [result, show cString (updating index body).body = body from string, handed] at stored
    have slot := (occupiedSlot_congr saved).trans (occupiedSlot_withSlot occupied rfl)
    cases stored.symm.trans slot
    rw [keptResource_assign valid, kept_changedResource_iff terminated] at kept
    exact broken kept

/-- **An update keeps the strings of a resource or replaces them as a whole, exactly if
they are intact or it is refused.** -/
theorem keepsFields_iff {healthCheck : HealthCheckConfig.Ram} {trust : TlsTrustStore.Ram}
    (wellFormed : healthCheck.snapshot.body.WellFormed)
    (inRange : index.toNat < HealthCheckConfig.maxResources)
    (occupied : occupiedSlot healthCheck.snapshot.body index = some resource)
    (terminated : Terminated resource) (text : 0 ∉ body) :
    KeepsFields healthCheck trust index body ↔
      (Intact body (ascii "host") hostSize (bufferString resource.host)
          ∧ Intact body (ascii "path") pathSize (bufferString resource.path))
        ∨ RefusedUpdate trust (changedResource resource body) := by
  constructor
  · intro keeps
    by_contra harmful
    rw [not_or] at harmful
    exact not_keepsFields wellFormed inRange occupied terminated text harmful.2 harmful.1 keeps
  · exact keepsFields_of_intact occupied terminated

/-! ## A mixture -/

/-- A resource as it was stored. -/
def storedResource : Resource where
  occupied := 1
  enabled := 1
  trustAnchorId := 1
  reserved := 0
  port := 443
  host := fillBuffer hostSize (ascii "old.example")
  path := fillBuffer pathSize (ascii "/")

/-- A configuration with this one resource. -/
def storedConfig : HealthCheckConfig.Ram where
  banks := ⟨[], []⟩
  snapshot := ⟨HealthCheckConfig.setDefault.withSlot 0 storedResource, 0⟩
  active := .b

/-- A trust store with the anchor of the resource. -/
def storedTrust : TlsTrustStore.Ram where
  banks := ⟨TlsTrustStore.format.blank, TlsTrustStore.format.blank⟩
  snapshot := ⟨{ TlsTrustStore.emptyBody with
    anchors := TlsTrustStore.emptyBody.anchors.setIfInBounds 0
      { TlsTrustStore.Anchor.zero with occupied := 1 } }, 0⟩
  active := .b

theorem storedConfig_occupied :
    occupiedSlot storedConfig.snapshot.body 0 = some storedResource := by decide

theorem storedResource_terminated : Terminated storedResource := by
  constructor <;> decide

/-- A value with an escape in it. -/
def escapedHost : List UInt8 := ascii "\x7b\"host\":\"ab\\u0063.example\"\x7d"

/-- A body with a host that is accepted. -/
def newHost : List UInt8 := ascii "\x7b\"host\":\"new.example\",\"port\":8443\x7d"

theorem refused_escapedHost :
    refusedText escapedHost (ascii "host") hostSize = some (ascii "ab") := by decide

/-- **A refused value is stored in part**: the host becomes a mixture of the value and
of the host that was stored. -/
theorem refused_host_stored_in_part :
    (changedResource storedResource escapedHost).host = ascii "abd.example"
      ∧ ¬ KeepsFields storedConfig storedTrust 0 escapedHost := by
  refine ⟨by decide, ?_⟩
  refine not_keepsFields HealthCheckConfig.setDefault_wellFormed (by decide) storedConfig_occupied
    storedResource_terminated (by decide) ?_ ?_
  · rintro (port | anchor | invalid)
    · exact absurd port (by decide)
    · exact anchor (by decide)
    · exact absurd invalid (by decide)
  · rintro ⟨host, -⟩
    exact absurd (host _ refused_escapedHost) (by decide)

/-- An update that replaces the host and leaves the path. -/
theorem keepsFields_newHost :
    (changedResource storedResource newHost).host = ascii "new.example"
      ∧ (changedResource storedResource newHost).path = ascii "/"
      ∧ KeepsFields storedConfig storedTrust 0 newHost := by
  have whole (key : List UInt8) (capacity : ℕ) (before : List UInt8)
      (accepted : refusedText newHost key capacity = none) : Intact newHost key capacity before := by
    intro characters refused
    rw [accepted] at refused
    cases refused
  refine ⟨by decide, by decide, ?_⟩
  exact (keepsFields_iff HealthCheckConfig.setDefault_wellFormed (by decide) storedConfig_occupied
    storedResource_terminated (by decide)).mpr
      (.inl ⟨whole _ _ _ (by decide), whole _ _ _ (by decide)⟩)

end HealthCheckFirmware.ApiService
