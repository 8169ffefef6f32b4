import HealthCheckFirmware.Lib.BoundedMap
import HealthCheckFirmware.Lib.Run
import HealthCheckFirmware.Lib.StoredProperty
import HealthCheckFirmware.Storage.UserStore

/-!
# The user store as a finite map

The records in use stand at the front of an array of eight, each under its own name, and
the rest of the array is zero (`Body.Ordered`). Every call keeps this, whether its save
succeeds or fails, and so does every start-up on what the calls have left in flash
(`Reachable.tidy`). Seen as a finite map from names to records, the store answers each
call of a session as such a map does (`session_refines`).
-/

set_option autoImplicit false

namespace HealthCheckFirmware.UserStore

open TwoBank

/-! ## The map that an array of records stands for -/

/-- The invariant of the array: the names in use are distinct, and what is not in use is
zero. -/
structure Body.Ordered (body : Body) : Prop where
  wellFormed : body.WellFormed
  distinct : (body.listed.map Record.name).Nodup
  unused : ∀ index : Fin maxUsers, body.count.toNat ≤ index.val →
    body.users.get index = Record.zero

abbrev UserMap := BoundedMap Record.name maxUsers

/-- The map of the records in use. -/
def Body.Ordered.map {body : Body} (ordered : body.Ordered) : UserMap where
  entries := body.listed
  distinct := ordered.distinct
  bounded := by
    rw [length_listed ordered.wellFormed]
    exact ordered.wellFormed

theorem ordered_empty : empty.body.Ordered where
  wellFormed := Nat.zero_le _
  distinct := List.nodup_nil
  unused index _ := by simp [empty, Vector.get]

theorem ordered_mark {body : Body} (ordered : body.Ordered) : (mark body).Ordered :=
  ⟨ordered.wellFormed, ordered.distinct, ordered.unused⟩

/-- Writing to a slot that is then in use leaves the slots behind alone. -/
theorem unused_set {body : Body} (ordered : body.Ordered) {position : ℕ} {count : UInt16}
    (inUse : position < count.toNat) (grown : body.count.toNat ≤ count.toNat) (record : Record)
    (index : Fin maxUsers) (behind : count.toNat ≤ index.val) :
    (body.users.setIfInBounds position record).get index = Record.zero := by
  have elsewhere : position ≠ index.val := by omega
  have before := ordered.unused index (Nat.le_trans grown behind)
  rw [← before]
  exact Vector.getElem_setIfInBounds_ne index.isLt elsewhere

theorem ordered_put {body candidate : Body} (ordered : body.Ordered) {record : Record}
    (proposed : putCandidate body record = .ok candidate) : candidate.Ordered := by
  have wellFormed := @wellFormed_amend body candidate (.put record) proposed ordered.wellFormed
  rcases putCandidate_cases proposed with ⟨_, ⟨index, position, rfl⟩ | ⟨absent, room, rfl⟩⟩
  · refine ⟨wellFormed, ?_, ?_⟩
    · rw [listed_replace]
      exact KeyedList.nodup_replace ordered.distinct position rfl
    · exact unused_set ordered (Body.position_lt position).1 (Nat.le_refl _) record
  · refine ⟨wellFormed, ?_, ?_⟩
    · rw [listed_append room]
      exact KeyedList.nodup_append ordered.distinct absent rfl
    · have next := toNat_count_succ room
      have inUse : body.count.toNat < (body.count + 1).toNat := by omega
      exact unused_set ordered inUse (Nat.le_of_lt inUse) record

theorem ordered_delete {body candidate : Body} (ordered : body.Ordered) {username : List UInt8}
    (proposed : deleteCandidate body username = .ok candidate) : candidate.Ordered := by
  have wellFormed := @wellFormed_amend body candidate (.delete username) proposed
    ordered.wellFormed
  obtain ⟨position, found, rfl⟩ := deleteCandidate_cases proposed
  refine ⟨wellFormed, ?_, fun index behind => ?_⟩
  · rw [listed_remove ordered.wellFormed found]
    have kept : (body.listed.eraseIdx position).Sublist body.listed := List.eraseIdx_sublist _ _
    exact (kept.map Record.name).nodup ordered.distinct
  · have previous := toNat_count_pred found
    have positive := (Body.position_lt found).1
    change (body.count - 1).toNat ≤ index.val at behind
    refine (Vector.getElem_ofFn index.isLt).trans ?_
    -- The last slot that was in use is cleared; those behind it were zero before.
    by_cases last : index.val + 1 = body.count.toNat
    · rw [if_pos last]
    · have outside : ¬ (position ≤ index.val ∧ index.val + 1 < body.count.toNat) := by omega
      rw [if_neg last, if_neg outside]
      exact ordered.unused index (by omega)

/-! ## Single candidates -/

section Candidates

variable {body candidate : Body} (ordered : body.Ordered)

/-- A put that is not refused stores the record in the map. -/
theorem puts_of_proposed {record : Record} (proposed : putCandidate body record = .ok candidate) :
    ordered.map.Puts record (ordered_put ordered proposed).map where
  room := by
    rcases putCandidate_cases proposed with ⟨_, ⟨index, position, _⟩ | ⟨_, room, _⟩⟩
    · refine .inl fun absent => ?_
      rw [find_eq_none_iff.mp absent] at position
      cases position
    · exact .inr ((length_listed ordered.wellFormed).trans_lt room)
  lookups := find_put proposed
  order := others_put proposed

/-- A put under a proper name is refused only if there is no room. -/
theorem room_of_put {record : Record} (named : record.name ≠ [])
    (refused : ∀ candidate, putCandidate body record ≠ .ok candidate) :
    ¬ ordered.map.Room record.name := by
  have absent : body.position record.name = none := by
    cases position : body.position record.name with
    | none => rfl
    | some index =>
        refine (refused { body with users := body.users.setIfInBounds index record } ?_).elim
        rw [putCandidate, if_neg named, position]
  have full : maxUsers ≤ body.count.toNat := by
    refine Nat.le_of_not_lt fun room => ?_
    refine refused { body with
      users := body.users.setIfInBounds body.count.toNat record
      count := body.count + 1 } ?_
    rw [putCandidate, if_neg named, absent]
    exact if_neg (Nat.not_le.mpr room)
  rintro (present | room)
  · exact present (find_eq_none_iff.mpr absent)
  · have length := length_listed ordered.wellFormed
    change body.listed.length < maxUsers at room
    omega

/-- A deletion that is not refused takes the record out of the map. -/
theorem deletes_of_proposed {username : List UInt8}
    (proposed : deleteCandidate body username = .ok candidate) :
    ordered.map.Deletes username (ordered_delete ordered proposed).map := by
  obtain ⟨index, position, same⟩ := deleteCandidate_cases proposed
  have rest : candidate.listed = body.others username := by
    rw [same]
    exact (listed_remove ordered.wellFormed position).trans
      (KeyedList.erase_eq_others ordered.distinct position)
  refine ⟨fun absent => ?_, fun other => ?_, rest⟩
  · rw [find_eq_none_iff.mp absent] at position
    cases position
  · split
    next itself =>
      rw [itself]
      exact (congrArg (List.find? (·.name == username)) rest).trans KeyedList.find_others_self
    next otherName => exact find_delete ordered.wellFormed proposed otherName

/-- A deletion is refused only if the name is not in use. -/
theorem absent_of_delete {username : List UInt8}
    (refused : ∀ candidate, deleteCandidate body username ≠ .ok candidate) :
    ordered.map.lookup username = none := by
  refine find_eq_none_iff.mpr ?_
  cases position : body.position username with
  | none => rfl
  | some index =>
      refine (refused { body with
        users := removed body.users body.count.toNat index
        count := body.count - 1 } ?_).elim
      rw [deleteCandidate, position]

end Candidates

/-! ## Calls -/

/-- A call to the store, with how the flash operations of its save end. -/
inductive Call where
  | put (record : Record) (faults : SectorFaults)
  | delete (username : List UInt8) (faults : SectorFaults)
  | find (username : List UInt8)
  | list (capacity : ℕ)

/-- Names are not empty, and the buffer of a name is terminated. -/
def Call.Proper : Call → Prop
  | .put record _ => record.name ≠ [] ∧ 0 ∈ record.username.toList
  | .delete username _ => username ≠ [] ∧ 0 ∉ username
  | .find username => username ≠ [] ∧ 0 ∉ username
  | .list _ => True

/-- What a call answers: a status, the record found and its index, or a listing. -/
inductive Reply where
  | status (status : Status)
  | found (record : Option Record) (index : Option ℕ)
  | records (records : List Record)

/-- The status that a mutating call returns. A call that the power fails during does not
return at all; for the contents of the store it is one that failed. -/
def status : Ending Status Snapshot → Status
  | .refused status => status
  | .saved _ => .ok
  | .failed => .error
  | .lost _ => .error

/-- The store after a call. -/
def perform (ram : Ram) : Call → Ram
  | .put record faults => (put ram record faults).1
  | .delete username faults => (delete ram username faults).1
  | .find _ => ram
  | .list _ => ram

/-- The answer to a call. -/
def reply (ram : Ram) : Call → Reply
  | .put record faults => .status (status (put ram record faults).2)
  | .delete username faults => .status (status (delete ram username faults).2)
  | .find username =>
      .found (find ram.snapshot.body username) (ram.snapshot.body.position username)
  | .list capacity => .records (list ram.snapshot.body capacity)

/-- How a finite map answers the calls. A mutation that succeeds stores or takes out
exactly the record that it names. One that fails changes nothing, and it fails only if it
cannot be carried out or an operation of the flash fails. -/
inductive Answers (map : UserMap) : Call → Reply → UserMap → Prop
  | put {record : Record} {faults : SectorFaults} {after : UserMap}
      (puts : map.Puts record after) : Answers map (.put record faults) (.status .ok) after
  | putFails {record : Record} {faults : SectorFaults}
      (reason : ¬ map.Room record.name ∨ faults ≠ .done) :
      Answers map (.put record faults) (.status .error) map
  | delete {username : List UInt8} {faults : SectorFaults} {after : UserMap}
      (deletes : map.Deletes username after) :
      Answers map (.delete username faults) (.status .ok) after
  | deleteFails {username : List UInt8} {faults : SectorFaults}
      (reason : map.lookup username = none ∨ faults ≠ .done) :
      Answers map (.delete username faults) (.status .error) map
  | find (username : List UInt8) :
      Answers map (.find username) (.found (map.lookup username) (map.position username)) map
  | list (capacity : ℕ) :
      Answers map (.list capacity) (.records (map.entries.take capacity)) map

/-- The store is the map before and after a call, and answers it as the map does. -/
def Refines (ram : Ram) (call : Call) : Prop :=
  ∃ (before : ram.snapshot.body.Ordered) (after : (perform ram call).snapshot.body.Ordered),
    Answers before.map call (reply ram call) after.map

/-! ## One call -/

theorem amend_error {body : Body} {request : Request} {refusal : Status}
    (refused : amend body request = .error refusal) : refusal = .error := by
  cases request with
  | put record =>
      simp only [amend, putCandidate] at refused
      split at refused
      · cases refused
        rfl
      · split at refused
        · cases refused
        · split at refused
          · cases refused
            rfl
          · cases refused
  | delete username =>
      simp only [amend, deleteCandidate] at refused
      split at refused
      · cases refused
        rfl
      · cases refused

section Mutations

variable {ram : Ram} {request : Request} {faults : SectorFaults}

/-- A mutation that does not save answers with an error. -/
theorem status_of_unsaved
    (unsaved : ∀ snapshot, (format.commit faults ram (propose ram request)).2 ≠ .saved snapshot) :
    status (format.commit faults ram (propose ram request)).2 = .error := by
  cases ending : (format.commit faults ram (propose ram request)).2 with
  | refused refusal => exact amend_error (Sealed.of_propose_error (commit_refused ending))
  | saved snapshot => exact (unsaved snapshot ending).elim
  | failed => rfl
  | lost snapshot => rfl

/-- It does not save because it was refused or because an operation of the flash failed. -/
theorem reason_of_unsaved (wellFormed : ram.snapshot.body.WellFormed)
    (unsaved : ∀ snapshot, (format.commit faults ram (propose ram request)).2 ≠ .saved snapshot) :
    (∀ candidate, amend ram.snapshot.body request ≠ .ok candidate) ∨ faults ≠ .done := by
  by_cases done : faults = .done
  · refine .inl fun candidate amended => ?_
    subst done
    obtain ⟨⟨snapshot, saved⟩, _⟩ := commit_amended wellFormed amended
    exact unsaved snapshot saved
  · exact .inr done

end Mutations

theorem Refines.intro {ram : Ram} {call : Call} (before : ram.snapshot.body.Ordered) {body : Body}
    (left : (perform ram call).snapshot.body = body) (after : body.Ordered)
    (answers : Answers before.map call (reply ram call) after.map) : Refines ram call := by
  subst left
  exact ⟨before, after, answers⟩

theorem put_refines {ram : Ram} (ordered : ram.snapshot.body.Ordered) {record : Record}
    (named : record.name ≠ []) (faults : SectorFaults) : Refines ram (.put record faults) := by
  by_cases saves : ∃ snapshot, (put ram record faults).2 = .saved snapshot
  · obtain ⟨snapshot, saved⟩ := saves
    obtain ⟨candidate, proposed, stored⟩ := put_saved saved
    have answer : reply ram (.put record faults) = .status .ok := by
      rw [reply, saved]
      rfl
    refine Refines.intro ordered stored (ordered_mark (ordered_put ordered proposed)) ?_
    rw [answer]
    exact .put (puts_of_proposed ordered proposed)
  · have unsaved := not_exists.mp saves
    have kept := congrArg Sealed.body (put_unsaved unsaved)
    have answer : reply ram (.put record faults) = .status .error :=
      congrArg Reply.status (@status_of_unsaved ram (.put record) faults unsaved)
    refine Refines.intro ordered kept ordered ?_
    rw [answer]
    exact .putFails ((@reason_of_unsaved ram (.put record) faults ordered.wellFormed
      unsaved).imp_left (room_of_put ordered named))

theorem delete_refines {ram : Ram} (ordered : ram.snapshot.body.Ordered) (username : List UInt8)
    (faults : SectorFaults) : Refines ram (.delete username faults) := by
  by_cases saves : ∃ snapshot, (delete ram username faults).2 = .saved snapshot
  · obtain ⟨snapshot, saved⟩ := saves
    obtain ⟨candidate, proposed, stored⟩ := delete_saved saved
    have answer : reply ram (.delete username faults) = .status .ok := by
      rw [reply, saved]
      rfl
    refine Refines.intro ordered stored (ordered_mark (ordered_delete ordered proposed)) ?_
    rw [answer]
    exact .delete (deletes_of_proposed ordered proposed)
  · have unsaved := not_exists.mp saves
    have kept := congrArg Sealed.body (delete_unsaved unsaved)
    have answer : reply ram (.delete username faults) = .status .error :=
      congrArg Reply.status (@status_of_unsaved ram (.delete username) faults unsaved)
    refine Refines.intro ordered kept ordered ?_
    rw [answer]
    exact .deleteFails ((@reason_of_unsaved ram (.delete username) faults ordered.wellFormed
      unsaved).imp_left (absent_of_delete ordered))

/-- **One call refines the map.** -/
theorem perform_refines {ram : Ram} (ordered : ram.snapshot.body.Ordered) {call : Call}
    (proper : call.Proper) : Refines ram call := by
  cases call with
  | put record faults => exact put_refines ordered proper.1 faults
  | delete username faults => exact delete_refines ordered username faults
  | find username => exact ⟨ordered, ordered, .find username⟩
  | list capacity => exact ⟨ordered, ordered, .list capacity⟩

/-! ## Whole sessions -/

/-- A torn write of the snapshot that the call saves is detected. -/
def Call.Detected (ram : Ram) : Call → Prop
  | .put record faults => ∀ candidate, propose ram (.put record) = .ok candidate →
      TwoBank.Detected format faults ram (format.stamp candidate)
  | .delete username faults => ∀ candidate, propose ram (.delete username) = .ok candidate →
      TwoBank.Detected format faults ram (format.stamp candidate)
  | .find _ => True
  | .list _ => True

/-- The states of the store from a start-up on an unwritten flash, through calls and
further start-ups. Operations of the flash and reads may fail at any point. -/
inductive Reachable : Ram → Prop
  | start {banks : Banks Sector} (unwritten : Blank format banks) (boot : BootFaults SectorFaults) :
      Reachable (init banks boot).1
  | call {ram : Ram} (reached : Reachable ram) {call : Call} (proper : call.Proper)
      (detected : call.Detected ram) : Reachable (perform ram call)
  | restart {ram : Ram} (reached : Reachable ram) (boot : BootFaults SectorFaults) :
      Reachable (init ram.banks boot).1

/-- The array in memory and all that the banks hold are in order. -/
structure Tidy (ram : Ram) : Prop where
  memory : ram.snapshot.body.Ordered
  stored : Stored format (fun snapshot => snapshot.body.Ordered) ram.banks

theorem init_tidy {banks : Banks Sector}
    (stored : Stored format (fun snapshot => snapshot.body.Ordered) banks)
    (boot : BootFaults SectorFaults) : Tidy (init banks boot).1 := by
  rw [init]
  cases newest : format.readNewest boot.reads banks with
  | none => exact ⟨ordered_empty, stored⟩
  | some found => exact ⟨stored _ _ (format.readNewest_loads newest), stored⟩

theorem ordered_of_propose {ram : Ram} (ordered : ram.snapshot.body.Ordered) {request : Request}
    {candidate : Snapshot} (proposed : propose ram request = .ok candidate) :
    (format.stamp candidate).body.Ordered := by
  have amended := Sealed.of_propose proposed
  cases request with
  | put record => exact ordered_mark (ordered_put ordered amended)
  | delete username => exact ordered_mark (ordered_delete ordered amended)

theorem perform_tidy {ram : Ram} (tidy : Tidy ram) {call : Call} (proper : call.Proper)
    (detected : call.Detected ram) : Tidy (perform ram call) := by
  obtain ⟨_, after, _⟩ := perform_refines tidy.memory proper
  refine ⟨after, ?_⟩
  cases call with
  | put record faults =>
      exact tidy.stored.commit detected fun _ => @ordered_of_propose ram tidy.memory (.put record) _
  | delete username faults =>
      exact tidy.stored.commit detected fun _ =>
        @ordered_of_propose ram tidy.memory (.delete username) _
  | find username => exact tidy.stored
  | list capacity => exact tidy.stored

/-- **The array is in order**, in every state that the store can reach. -/
theorem Reachable.tidy {ram : Ram} (reached : Reachable ram) : Tidy ram := by
  induction reached with
  | start unwritten boot => exact init_tidy unwritten.stored boot
  | call _ proper detected ih => exact perform_tidy ih proper detected
  | restart _ boot ih => exact init_tidy ih.stored boot

/-- **The store is a finite map.** From every reachable state, each call of a session,
whatever becomes of its save, is answered as a finite map from names to records answers
it, and leaves the array in order. -/
theorem session_refines {ram : Ram} (reached : Reachable ram) {calls : List Call}
    (proper : ∀ call ∈ calls, call.Proper) : Run.Throughout perform Refines ram calls := by
  have ordered := reached.tidy.memory
  clear reached
  -- The invariant of the induction is the order of the array in memory.
  induction calls generalizing ram with
  | nil => trivial
  | cons call rest ih =>
      obtain ⟨before, after, answers⟩ := perform_refines ordered (proper call List.mem_cons_self)
      exact ⟨⟨before, after, answers⟩,
        ih (fun other isMember => proper other (.tail _ isMember)) after⟩

/-- A record under the given name. -/
def recordOf (username : List UInt8) : Record :=
  { Record.zero with username := fillBuffer usernameSize username }

/-- A session on a store that has never been written. -/
theorem session_refines_first_user :
    Run.Throughout perform Refines
      (init ⟨erased sectorSize, erased sectorSize⟩ ⟨fun _ => true, .done⟩).1
      [.put (recordOf [97]) .done, .find [97], .delete [98] .done, .list 8] := by
  have unwritten : Blank format ⟨erased sectorSize, erased sectorSize⟩ := by
    intro side
    cases side <;> exact load_erased
  exact session_refines (.start unwritten _) (by
    simp only [List.forall_mem_cons, List.not_mem_nil, false_imp_iff, implies_true, and_true,
      Call.Proper]
    decide)

end HealthCheckFirmware.UserStore
