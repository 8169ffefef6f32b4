import HealthCheckFirmware.Lib.KeyedList
import HealthCheckFirmware.Storage.Sector

/-!
# The user store

The management-user database of `user_store.c`: at most eight verifier records,
kept as one checksummed snapshot in two sectors.

`machine` presents the store as an instance of the two-bank scheme
(`machine_recovering`). `WellFormed` is the invariant on the number of records that
every snapshot in memory satisfies.
-/

set_option autoImplicit false

namespace HealthCheckFirmware.UserStore

open TwoBank

/-! ## Records and snapshots -/

def maxUsers : ℕ := 8
def usernameSize : ℕ := 25
def saltSize : ℕ := 16
def verifierSize : ℕ := 32

/-- One persistent verifier record. The role is kept as the byte it is stored as. -/
structure Record where
  enabled : UInt8
  role : UInt8
  username : Vector UInt8 usernameSize
  salt : Vector UInt8 saltSize
  verifier : Vector UInt8 verifierSize
  iterations : UInt32
  deriving DecidableEq

/-- The layout of a record, with the byte of padding before the last field. -/
def Record.codec : Codec Record :=
  Codec.record
    (.seq .u8 (.seq .u8 (.seq (.bytes usernameSize) (.seq (.bytes saltSize)
      (.seq (.pad 1 (.bytes verifierSize)) .u32)))))
    (fun ⟨enabled, role, username, salt, verifier, iterations⟩ =>
      ⟨enabled, role, username, salt, verifier, iterations⟩)
    (fun record => (record.enabled, record.role, record.username, record.salt, record.verifier,
      record.iterations))
    (fun _ => rfl)

/-- A record of zero bytes. -/
def Record.zero : Record :=
  ⟨0, 0, .replicate usernameSize 0, .replicate saltSize 0, .replicate verifierSize 0, 0⟩

/-- The name of a record's account. -/
def Record.name (record : Record) : List UInt8 := bufferString record.username

/-- The fields of a snapshot that its checksum covers. -/
structure Body where
  magic : UInt32
  version : UInt16
  count : UInt16
  generation : UInt32
  users : Vector Record maxUsers
  deriving DecidableEq

def Body.codec : Codec Body :=
  Codec.record (.seq .u32 (.seq .u16 (.seq .u16 (.seq .u32 (.array maxUsers Record.codec)))))
    (fun ⟨magic, version, count, generation, users⟩ =>
      ⟨magic, version, count, generation, users⟩)
    (fun body => (body.magic, body.version, body.count, body.generation, body.users))
    (fun _ => rfl)

abbrev Snapshot := Sealed Body

def magic : UInt32 := 0x55534552
def version : UInt16 := 1

/-- `userStore_Crc`. -/
def crc : List UInt8 → UInt32 := crc32

/-- `userStore_IsValid`, but for the checksum. -/
def accepts (candidate : Body) : Bool :=
  candidate.magic == magic && candidate.version == version && candidate.count.toNat ≤ maxUsers

/-- The fields that `userStore_Save` sets before it computes the checksum. -/
def mark (candidate : Body) : Body :=
  { candidate with magic := magic, version := version, generation := candidate.generation + 1 }

def scheme : SealScheme Body where
  codec := Body.codec
  checksum := crc
  accepts := accepts
  mark := mark
  generation := Body.generation
  generation_mark _ := rfl

theorem fits : scheme.layout.size ≤ sectorSize := by decide

def format : Format Sector Snapshot := scheme.format sectorSize fits

/-! ## Operations -/

abbrev Ram := Store Sector Snapshot

/-- The snapshot of zero bytes that a start-up without a valid sector leaves. -/
def empty : Snapshot := ⟨⟨0, 0, 0, 0, .replicate maxUsers Record.zero⟩, 0⟩

/-- `userStore_Save`. -/
def save (faults : SectorFaults) (ram : Ram) (candidate : Snapshot) : Ram × Outcome Snapshot :=
  format.save faults ram candidate

/-- `UserStore_Init`. -/
def init (banks : Banks Sector) (boot : BootFaults SectorFaults) : Ram × Start Snapshot :=
  match format.readNewest boot.reads banks with
  | some (side, snapshot) => (⟨banks, snapshot, side⟩, .ready)
  | none => (⟨banks, empty, .b⟩, .ready)

/-- The records in use. -/
def Body.listed (body : Body) : List Record := body.users.toList.take body.count.toNat

/-- The position of the first record in use with the given name. -/
def Body.position (body : Body) (username : List UInt8) : Option ℕ :=
  body.listed.findIdx? (·.name == username)

/-- `UserStore_Find`. -/
def find (body : Body) (username : List UInt8) : Option Record :=
  body.listed.find? (·.name == username)

/-- The candidate of `UserStore_Put`. -/
def putCandidate (body : Body) (record : Record) : Except Status Body :=
  if record.name = [] then .error .error
  else
    match body.position record.name with
    | some position => .ok { body with users := body.users.setIfInBounds position record }
    | none =>
        if body.count.toNat ≥ maxUsers then .error .error
        else .ok { body with
          users := body.users.setIfInBounds body.count.toNat record
          count := body.count + 1 }

/-- The records after the one at `position` has been taken out: those behind it
move up and the last one in use is zeroed. -/
def removed (users : Vector Record maxUsers) (count position : ℕ) : Vector Record maxUsers :=
  Vector.ofFn fun index : Fin maxUsers =>
    if index.val + 1 = count then Record.zero
    else if position ≤ index.val ∧ index.val + 1 < count then
      (users.toList)[index.val + 1]?.getD Record.zero
    else users.get index

/-- The candidate of `UserStore_Delete`. -/
def deleteCandidate (body : Body) (username : List UInt8) : Except Status Body :=
  match body.position username with
  | none => .error .error
  | some position => .ok { body with
      users := removed body.users body.count.toNat position
      count := body.count - 1 }

/-- `UserStore_Put`. -/
def put (ram : Ram) (record : Record) (faults : SectorFaults) : Ram × Ending Status Snapshot :=
  format.commit faults ram
    (Sealed.propose ram.snapshot.crc (putCandidate ram.snapshot.body record))

/-- `UserStore_Delete`. -/
def delete (ram : Ram) (username : List UInt8) (faults : SectorFaults) :
    Ram × Ending Status Snapshot :=
  format.commit faults ram
    (Sealed.propose ram.snapshot.crc (deleteCandidate ram.snapshot.body username))

/-- `UserStore_List`. -/
def list (body : Body) (capacity : ℕ) : List Record := body.listed.take capacity

/-! ## The store as an instance of the two-bank scheme -/

/-- A mutating call. -/
inductive Request where
  | put (record : Record)
  | delete (username : List UInt8)

/-- The body that a call proposes. -/
def amend (body : Body) : Request → Except Status Body
  | .put record => putCandidate body record
  | .delete username => deleteCandidate body username

/-- The candidate of a call, or the status with which it returns before saving. -/
def propose (ram : Ram) (request : Request) : Except Status Snapshot :=
  Sealed.propose ram.snapshot.crc (amend ram.snapshot.body request)

/-- What callers see of a snapshot: the number of records and the records. -/
def contents (snapshot : Snapshot) : UInt16 × Vector Record maxUsers :=
  (snapshot.body.count, snapshot.body.users)

def plain : PlainStore Sector Snapshot Request Status (UInt16 × Vector Record maxUsers) where
  format := format
  propose := propose
  start := init
  older _ := false
  empty := empty
  persists := none
  contents := contents

def machine : SnapshotStore Sector := plain.machine

example (ram : Ram) (record : Record) (faults : SectorFaults) :
    machine.mutate ram (.put record) faults = put ram record faults := rfl

example (ram : Ram) (username : List UInt8) (faults : SectorFaults) :
    machine.mutate ram (.delete username) faults = delete ram username faults := rfl

/-- The invariant of the snapshot in memory: the records in use fit. -/
def Body.WellFormed (body : Body) : Prop := body.count.toNat ≤ maxUsers

theorem accepts_wellFormed {body : Body} (accepted : accepts body = true) : body.WellFormed := by
  simp only [accepts, Bool.and_eq_true, decide_eq_true_eq] at accepted
  exact accepted.2

theorem accepts_mark {body : Body} (wellFormed : body.WellFormed) :
    accepts (mark body) = true := by
  have bound : body.count.toNat ≤ maxUsers := wellFormed
  simp only [accepts, mark, beq_self_eq_true, Bool.true_and]
  exact decide_eq_true bound

theorem Body.position_lt {body : Body} {username : List UInt8} {index : ℕ}
    (found : body.position username = some index) :
    index < body.count.toNat ∧ index < maxUsers := by
  obtain ⟨within, _⟩ := List.findIdx?_eq_some_iff_getElem.mp found
  simp only [Body.listed, List.length_take, Vector.length_toList] at within
  omega

/-- The three ways in which a record is put. -/
theorem putCandidate_cases {body candidate : Body} {record : Record}
    (proposed : putCandidate body record = .ok candidate) :
    record.name ≠ [] ∧
      ((∃ index, body.position record.name = some index
        ∧ candidate = { body with users := body.users.setIfInBounds index record })
      ∨ (body.position record.name = none ∧ body.count.toNat < maxUsers
        ∧ candidate = { body with
            users := body.users.setIfInBounds body.count.toNat record
            count := body.count + 1 })) := by
  unfold putCandidate at proposed
  split at proposed
  · cases proposed
  rename_i named
  refine ⟨named, ?_⟩
  cases position : body.position record.name with
  | some index =>
      rw [position] at proposed
      cases proposed
      exact .inl ⟨index, rfl, rfl⟩
  | none =>
      simp only [position] at proposed
      split at proposed
      · cases proposed
      · rename_i room
        cases proposed
        exact .inr ⟨rfl, Nat.lt_of_not_ge room, rfl⟩

theorem deleteCandidate_cases {body candidate : Body} {username : List UInt8}
    (proposed : deleteCandidate body username = .ok candidate) :
    ∃ index, body.position username = some index
      ∧ candidate = { body with
          users := removed body.users body.count.toNat index
          count := body.count - 1 } := by
  unfold deleteCandidate at proposed
  cases position : body.position username with
  | none => simp [position] at proposed
  | some index =>
      rw [position] at proposed
      cases proposed
      exact ⟨index, rfl, rfl⟩

theorem toNat_count_succ {body : Body} (room : body.count.toNat < maxUsers) :
    (body.count + 1).toNat = body.count.toNat + 1 := by
  simp only [maxUsers, UInt16.toNat_add, UInt16.toNat_one] at room ⊢
  omega

theorem toNat_count_pred {body : Body} {username : List UInt8} {index : ℕ}
    (found : body.position username = some index) :
    (body.count - 1).toNat = body.count.toNat - 1 := by
  have positive := (Body.position_lt found).1
  rw [UInt16.toNat_sub_of_le, UInt16.toNat_one]
  rw [UInt16.le_iff_toNat_le, UInt16.toNat_one]
  omega

theorem generation_amend {body candidate : Body} {request : Request}
    (amended : amend body request = .ok candidate) : candidate.generation = body.generation := by
  cases request with
  | put record =>
      rcases putCandidate_cases amended with ⟨_, ⟨index, _, same⟩ | ⟨_, _, same⟩⟩ <;> rw [same]
  | delete username =>
      obtain ⟨index, _, same⟩ := deleteCandidate_cases amended
      rw [same]

theorem wellFormed_amend {body candidate : Body} {request : Request}
    (amended : amend body request = .ok candidate) (wellFormed : body.WellFormed) :
    candidate.WellFormed := by
  cases request with
  | put record =>
      rcases putCandidate_cases amended with ⟨_, ⟨index, _, same⟩ | ⟨_, room, same⟩⟩
      · rw [same]
        exact wellFormed
      · rw [same, Body.WellFormed, toNat_count_succ room]
        exact room
  | delete username =>
      obtain ⟨index, found, same⟩ := deleteCandidate_cases amended
      rw [same, Body.WellFormed, toNat_count_pred found]
      exact Nat.le_trans (Nat.sub_le _ _) wellFormed

/-! ## Accounts -/

theorem listed_mark (body : Body) : (mark body).listed = body.listed := rfl

theorem length_listed {body : Body} (wellFormed : body.WellFormed) :
    body.listed.length = body.count.toNat := by
  have bound : body.count.toNat ≤ maxUsers := wellFormed
  simpa [Body.listed] using Nat.min_eq_left bound

/-- Replacing a record in use. -/
theorem listed_replace {body : Body} (index : ℕ) (record : Record) :
    Body.listed { body with users := body.users.setIfInBounds index record } =
      body.listed.set index record := by
  simp [Body.listed, List.take_set]

/-- Adding a record behind those in use. -/
theorem listed_append {body : Body} (room : body.count.toNat < maxUsers) (record : Record) :
    Body.listed { body with
        users := body.users.setIfInBounds body.count.toNat record
        count := body.count + 1 } = body.listed ++ [record] := by
  have within : body.count.toNat < body.users.toList.length := by simpa using room
  simp only [Body.listed, toNat_count_succ room, Vector.toList_setIfInBounds]
  rw [List.take_add_one, List.take_set_of_le (Nat.le_refl _), List.getElem?_set_self within]
  rfl

/-- Taking a record out of those in use. -/
theorem listed_remove {body : Body} (wellFormed : body.WellFormed) {username : List UInt8}
    {index : ℕ} (found : body.position username = some index) :
    Body.listed { body with
        users := removed body.users body.count.toNat index
        count := body.count - 1 } = body.listed.eraseIdx index := by
  have bound : body.count.toNat ≤ maxUsers := wellFormed
  obtain ⟨within, _⟩ := Body.position_lt found
  simp only [Body.listed, toNat_count_pred found]
  apply List.ext_getElem
  · simp only [List.length_take, Vector.length_toList, List.length_eraseIdx]
    rw [if_pos (by omega)]
    omega
  · intro place left right
    simp only [List.length_take, Vector.length_toList] at left
    have inRange : place < maxUsers := by omega
    have notLast : place + 1 ≠ body.count.toNat := by omega
    simp only [List.getElem_take, Vector.getElem_toList, removed, Vector.getElem_ofFn,
      if_neg notLast, List.getElem_eraseIdx]
    by_cases before : place < index
    · simp only [before, Nat.not_le.mpr before, false_and, if_false, dite_true]
      rfl
    · have behind : index ≤ place ∧ place + 1 < body.count.toNat := ⟨by omega, by omega⟩
      have next : place + 1 < maxUsers := by omega
      simp [before, behind, next]

/-- **A record that is put is found under its name, and no other lookup changes.** -/
theorem find_put {body candidate : Body} {record : Record}
    (proposed : putCandidate body record = .ok candidate) (username : List UInt8) :
    find candidate username = if username = record.name then some record else find body username := by
  rcases putCandidate_cases proposed with ⟨_, ⟨index, position, same⟩ | ⟨absent, room, same⟩⟩
  · rw [same, find, listed_replace]
    exact KeyedList.find_replace position rfl username
  · rw [same, find, listed_append room]
    exact KeyedList.find_append absent rfl username

/-- **Deleting an account changes no lookup of another.** -/
theorem find_delete {body candidate : Body} (wellFormed : body.WellFormed)
    {username other : List UInt8} (proposed : deleteCandidate body username = .ok candidate)
    (otherName : other ≠ username) : find candidate other = find body other := by
  obtain ⟨index, position, same⟩ := deleteCandidate_cases proposed
  rw [same, find, listed_remove wellFormed position]
  exact KeyedList.find_erase position otherName

theorem find_eq_none_iff {body : Body} {username : List UInt8} :
    find body username = none ↔ body.position username = none := by
  rw [find, Body.position, List.find?_eq_none, List.findIdx?_eq_none_iff]
  simp

/-- The accounts under other names. -/
def Body.others (body : Body) (username : List UInt8) : List Record :=
  KeyedList.others Record.name body.listed username

theorem others_mark (body : Body) (username : List UInt8) :
    (mark body).others username = body.others username := rfl

theorem others_put {body candidate : Body} {record : Record}
    (proposed : putCandidate body record = .ok candidate) :
    candidate.others record.name = body.others record.name := by
  rcases putCandidate_cases proposed with ⟨_, ⟨index, position, same⟩ | ⟨_, room, same⟩⟩
  · rw [same, Body.others, listed_replace]
    exact KeyedList.others_replace position rfl
  · rw [same, Body.others, listed_append room]
    exact KeyedList.others_append rfl

theorem others_delete {body candidate : Body} (wellFormed : body.WellFormed)
    {username : List UInt8} (proposed : deleteCandidate body username = .ok candidate) :
    candidate.others username = body.others username := by
  obtain ⟨index, position, same⟩ := deleteCandidate_cases proposed
  rw [same, Body.others, listed_remove wellFormed position]
  exact KeyedList.others_erase position

/-- All names in use are terminated. -/
def Body.Terminated (body : Body) : Prop := ∀ record ∈ body.listed, 0 ∈ record.username.toList

theorem terminated_put {body candidate : Body} {record : Record}
    (proposed : putCandidate body record = .ok candidate) (terminated : body.Terminated)
    (own : 0 ∈ record.username.toList) : candidate.Terminated := by
  intro member isMember
  rcases putCandidate_cases proposed with ⟨_, ⟨index, _, same⟩ | ⟨_, room, same⟩⟩
  · rw [same, listed_replace] at isMember
    rcases List.mem_or_eq_of_mem_set isMember with old | rfl
    · exact terminated member old
    · exact own
  · rw [same, listed_append room, List.mem_append, List.mem_singleton] at isMember
    rcases isMember with old | rfl
    · exact terminated member old
    · exact own

theorem terminated_delete {body candidate : Body} (wellFormed : body.WellFormed)
    {username : List UInt8} (proposed : deleteCandidate body username = .ok candidate)
    (terminated : body.Terminated) : candidate.Terminated := by
  obtain ⟨index, position, same⟩ := deleteCandidate_cases proposed
  intro member isMember
  rw [same, listed_remove wellFormed position] at isMember
  exact terminated member (List.mem_of_mem_eraseIdx isMember)

/-- An account that is found is one of those in use. -/
theorem mem_listed_of_find {body : Body} {username : List UInt8} {record : Record}
    (found : find body username = some record) : record ∈ body.listed ∧ record.name = username :=
  KeyedList.mem_of_find found

/-- A put that succeeds leaves its candidate in memory. -/
theorem put_saved {ram : Ram} {record : Record} {faults : SectorFaults} {snapshot : Snapshot}
    (saved : (put ram record faults).2 = .saved snapshot) :
    ∃ candidate, putCandidate ram.snapshot.body record = .ok candidate
      ∧ (put ram record faults).1.snapshot.body = mark candidate := by
  obtain ⟨candidate, proposed, stamped⟩ := commit_stamped saved
  exact ⟨candidate.body, Sealed.of_propose proposed, congrArg Sealed.body stamped⟩

theorem put_unsaved {ram : Ram} {record : Record} {faults : SectorFaults}
    (unsaved : ∀ snapshot, (put ram record faults).2 ≠ .saved snapshot) :
    (put ram record faults).1.snapshot = ram.snapshot := commit_unsaved unsaved

/-- A deletion that succeeds leaves its candidate in memory. -/
theorem delete_saved {ram : Ram} {username : List UInt8} {faults : SectorFaults}
    {snapshot : Snapshot} (saved : (delete ram username faults).2 = .saved snapshot) :
    ∃ candidate, deleteCandidate ram.snapshot.body username = .ok candidate
      ∧ (delete ram username faults).1.snapshot.body = mark candidate := by
  obtain ⟨candidate, proposed, stamped⟩ := commit_stamped saved
  exact ⟨candidate.body, Sealed.of_propose proposed, congrArg Sealed.body stamped⟩

theorem delete_unsaved {ram : Ram} {username : List UInt8} {faults : SectorFaults}
    (unsaved : ∀ snapshot, (delete ram username faults).2 ≠ .saved snapshot) :
    (delete ram username faults).1.snapshot = ram.snapshot := commit_unsaved unsaved

/-- A mutation in which nothing fails stores what it proposes. -/
theorem commit_amended {ram : Ram} (wellFormed : ram.snapshot.body.WellFormed) {request : Request}
    {candidate : Body} (amended : amend ram.snapshot.body request = .ok candidate) :
    (∃ snapshot, (format.commit .done ram (propose ram request)).2 = .saved snapshot)
      ∧ (format.commit .done ram (propose ram request)).1.snapshot.body = mark candidate := by
  have valid := (scheme.format_isValid_stamp fits ⟨candidate, ram.snapshot.crc⟩).trans
    (accepts_mark (wellFormed_amend amended wellFormed))
  rw [propose, amended]
  obtain ⟨saved, stored⟩ := @commit_done _ _ Status format ram _ valid
  exact ⟨⟨_, saved⟩, congrArg Sealed.body stored⟩

/-- **A deletion in which nothing fails takes out the first record of that name.** -/
theorem delete_done {ram : Ram} (wellFormed : ram.snapshot.body.WellFormed)
    {username : List UInt8} {index : ℕ} (found : ram.snapshot.body.position username = some index) :
    (∃ snapshot, (delete ram username .done).2 = .saved snapshot)
      ∧ (delete ram username .done).1.snapshot.body.listed
        = ram.snapshot.body.listed.eraseIdx index := by
  have amended : amend ram.snapshot.body (.delete username) = .ok { ram.snapshot.body with
      users := removed ram.snapshot.body.users ram.snapshot.body.count.toNat index
      count := ram.snapshot.body.count - 1 } := by
    rw [amend, deleteCandidate, found]
  obtain ⟨saved, stored⟩ := commit_amended wellFormed amended
  refine ⟨saved, ?_⟩
  rw [← listed_remove wellFormed found]
  exact (congrArg Body.listed stored).trans (listed_mark _)

/-! ## The laws of the store -/

/-- A snapshot that was loaded is well formed, and so is the empty one. -/
theorem wellFormed_of_load {snapshot : Snapshot}
    (loads : (∃ image, format.load image = some snapshot) ∨ snapshot = empty) :
    snapshot.body.WellFormed := by
  rcases loads with ⟨image, loads⟩ | rfl
  · exact accepts_wellFormed (scheme.format_load_accepts fits loads)
  · exact Nat.zero_le _

/-- The snapshot in memory is well formed after every start-up. -/
theorem init_wellFormed (banks : Banks Sector) (boot : BootFaults SectorFaults) :
    (init banks boot).1.snapshot.body.WellFormed := by
  unfold init
  cases newest : format.readNewest boot.reads banks with
  | none => exact wellFormed_of_load (.inr rfl)
  | some found => exact wellFormed_of_load (.inl ⟨_, format.readNewest_loads newest⟩)

theorem init_found {banks : Banks Sector} {boot : BootFaults SectorFaults}
    (readable : boot.Readable) {side : Side} {snapshot : Snapshot}
    (newest : format.newest banks = some (side, snapshot)) :
    init banks boot = (⟨banks, snapshot, side⟩, .ready) := by
  simp [init, format.readNewest_readable readable, newest]

theorem init_blank {banks : Banks Sector} {boot : BootFaults SectorFaults}
    (readable : boot.Readable) (blank : Blank format banks) :
    init banks boot = (⟨banks, empty, .b⟩, .ready) := by
  simp [init, format.readNewest_readable readable, blank.newest_eq]

/-- How a start-up ends, whichever reads fail. -/
theorem init_cases (banks : Banks Sector) (boot : BootFaults SectorFaults) :
    (∃ side snapshot, format.load (banks.get side) = some snapshot
        ∧ init banks boot = (⟨banks, snapshot, side⟩, .ready))
      ∨ init banks boot = (⟨banks, empty, .b⟩, .ready) := by
  unfold init
  cases newest : format.readNewest boot.reads banks with
  | none => exact .inr rfl
  | some found => exact .inl ⟨found.1, found.2, format.readNewest_loads newest, rfl⟩

theorem plain_lawful : plain.Lawful where
  generation_propose proposed := generation_amend (Sealed.of_propose proposed)
  start_found readable newest := init_found readable newest
  start_blank readable blank _ := init_blank readable blank
  start_cases banks boot := (init_cases banks boot).imp_right fun started => .inl ⟨rfl, started⟩
  older_unpersisted _ _ := rfl
  empty_persists := nofun
  older_valid _ := rfl
  older_stamped _ := rfl
  stamped_valid {_ _ candidate} loads proposed :=
    (scheme.format_isValid_stamp fits candidate).trans
      (accepts_mark (wellFormed_amend (Sealed.of_propose proposed) (wellFormed_of_load loads)))
  contents_stamp _ := rfl

theorem machine_recovering : machine.Recovering := PlainStore.machine_recovering plain_lawful

/-- Nothing is found in an erased sector. -/
theorem load_erased : format.load (erased sectorSize) = none := by
  have rejected : scheme.accepts (scheme.layout.decode (erased sectorSize)).body = false := by
    decide
  exact load_eq_none (scheme.isValid_of_rejected rejected)

end HealthCheckFirmware.UserStore
