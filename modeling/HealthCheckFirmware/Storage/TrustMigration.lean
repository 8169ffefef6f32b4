import HealthCheckFirmware.Lib.Run
import HealthCheckFirmware.Storage.TlsTrustStore

/-!
# The migration of the trust store

A start-up that finds no snapshot of the current layout commits what it finds in the
banks of the two earlier layouts, or an empty store (`origin`). These banks are never
written, so that the source stays the same however often the start-up is repeated: a
migration that is interrupted any number of times ends with the anchors it began with
(`interrupted_migration_resumes`).
-/

set_option autoImplicit false

namespace HealthCheckFirmware.TlsTrustStore

open TwoBank MultiSector

/-- The newer valid snapshot of an earlier layout. -/
def olderSnapshot {count : ℕ} (scheme : SealScheme (Body count)) (first second : List UInt8) :
    Option (Body count) :=
  pickLater (readOlder scheme true first) (readOlder scheme true second)

/-- What a start-up without a current snapshot commits, and the bank that it then
takes for the active one. -/
def origin (older : OlderBanks) : Side × CurrentBody :=
  match olderSnapshot previousScheme older.previousA older.previousB with
  | some previous => (.a, migrate previous)
  | none =>
      match olderSnapshot legacyScheme older.legacyA older.legacyB with
      | some legacy => (.b, migrate legacy)
      | none => (.b, emptyBody)

variable {older : OlderBanks}

/-- Without a current snapshot the origin is committed. -/
theorem init_blank {banks : Banks TrustBank} {boot : BootFaults BankFaults}
    (readable : boot.Readable) (blank : Blank format banks) :
    ∃ snapshot, init older banks boot =
      commitAtStart boot.save ⟨banks, snapshot, (origin older).1⟩ (origin older).2 := by
  have newest : format.pick (format.loadIf (boot.reads 0) banks.a)
      (format.loadIf (boot.reads 1) banks.b) = none := by
    rw [readable 0, readable 1]
    exact blank.newest_eq
  have previousRead : pickLater (readOlder previousScheme (boot.reads 2) older.previousA)
      (readOlder previousScheme (boot.reads 3) older.previousB) =
        olderSnapshot previousScheme older.previousA older.previousB := by
    rw [readable 2, readable 3, olderSnapshot]
  have legacyRead : pickLater (readOlder legacyScheme (boot.reads 4) older.legacyA)
      (readOlder legacyScheme (boot.reads 5) older.legacyB) =
        olderSnapshot legacyScheme older.legacyA older.legacyB := by
    rw [readable 4, readable 5, olderSnapshot]
  cases previous : olderSnapshot previousScheme older.previousA older.previousB with
  | some body =>
      refine ⟨⟨migrate body, 0⟩, ?_⟩
      simp only [init, newest, previousRead, origin, previous]
  | none =>
      cases legacy : olderSnapshot legacyScheme older.legacyA older.legacyB with
      | some body =>
          refine ⟨⟨migrate body, 0⟩, ?_⟩
          simp only [init, newest, previousRead, legacyRead, origin, previous, legacy]
      | none =>
          refine ⟨format.read banks.a, ?_⟩
          simp only [init, newest, previousRead, legacyRead, origin, previous, legacy]

/-- What a completed migration leaves in flash. -/
def migrated (older : OlderBanks) : Snapshot := format.stamp ⟨(origin older).2, 0⟩

theorem migrated_anchors (older : OlderBanks) :
    (migrated older).body.anchors = (origin older).2.anchors := rfl

/-! ## The migrated store passes the test -/

theorem wellFormed_of_readOlder {count : ℕ} {version : UInt16} {readable : Bool}
    {bytes : List UInt8} {body : Body count}
    (read : readOlder (schemeOf version count) readable bytes = some body) :
    body.WellFormed := by
  simp only [readOlder] at read
  split at read
  · rename_i valid
    cases read
    have accepted := (schemeOf version count).isValid_accepts (Bool.and_eq_true_iff.mp valid).2
    simp only [schemeOf, accepts, Bool.and_eq_true, List.all_eq_true] at accepted
    exact accepted.2
  · cases read

theorem pickLater_mem {count : ℕ} {first second : Option (Body count)} {body : Body count}
    (picked : pickLater first second = some body) : first = some body ∨ second = some body := by
  unfold pickLater at picked
  split at picked
  · split at picked
    · exact .inr picked
    · exact .inl picked
  · exact .inl picked
  · exact .inr picked

theorem wellFormed_olderSnapshot {count : ℕ} {version : UInt16} {first second : List UInt8}
    {body : Body count}
    (found : olderSnapshot (schemeOf version count) first second = some body) :
    body.WellFormed := by
  rcases pickLater_mem found with read | read
  · exact wellFormed_of_readOlder read
  · exact wellFormed_of_readOlder read

theorem wellFormed_migrate {count : ℕ} {source : Body count} (wellFormed : source.WellFormed) :
    (migrate source).WellFormed := by
  intro anchor member
  simp only [migrate, Vector.toList_ofFn, List.mem_ofFn] at member
  obtain ⟨index, rfl⟩ := member
  -- a slot beyond those of the source is empty
  cases slot : source.anchors.toList[index.val]? with
  | none => exact zero_isValid
  | some anchor => exact wellFormed anchor (List.mem_of_getElem? slot)

theorem wellFormed_origin (older : OlderBanks) : (origin older).2.WellFormed := by
  unfold origin
  split
  · rename_i previous found
    exact wellFormed_migrate (wellFormed_olderSnapshot found)
  · split
    · rename_i legacy found
      exact wellFormed_migrate (wellFormed_olderSnapshot found)
    · exact wellFormed_reset emptyBody

theorem migrated_valid (older : OlderBanks) :
    format.isValid (format.write (migrated older) format.blank) = true := by
  refine (format_isValid_stamp scheme fits _).trans ?_
  simp only [scheme, schemeOf, accepts, mark, beq_self_eq_true, Bool.true_and, List.all_eq_true]
  exact wellFormed_origin older

/-! ## Interrupted start-ups -/

theorem commitAtStart_eq {faults : BankFaults} (ram : Ram)
    (honest : (saveFates (ram.banks.get ram.active.other) faults).Honest) (body : CurrentBody) :
    commitAtStart faults ram body = Prod.map id Outcome.start
      (format.save (saveFates (ram.banks.get ram.active.other) faults) ram ⟨body, 0⟩) := by
  rw [commitAtStart, save_eq honest]

/-- The bank that a migration writes to. -/
def target (older : OlderBanks) (banks : Banks TrustBank) : TrustBank :=
  banks.get (origin older).1.other

/-- A start-up whose reads work and whose migration may be refused or cut off at any
point. What an unfinished write leaves holds no snapshot or the complete one. -/
structure Interruptible (older : OlderBanks) (banks : Banks TrustBank)
    (boot : BootFaults BankFaults) : Prop where
  readable : boot.Readable
  honest : (saveFates (target older banks) boot.save).Honest
  unfinished : ∀ left,
    (∃ fate ∈ [(saveFates (target older banks) boot.save).erase, boot.save.program],
      fate = .refused left ∨ fate = .cut left) →
    format.load left = none ∨ format.load left = some (migrated older)

/-- The flash after a start-up. -/
def restart (older : OlderBanks) (banks : Banks TrustBank) (boot : BootFaults BankFaults) :
    Banks TrustBank :=
  (init older banks boot).1.banks

/-- The migration has left no trace yet, or its result is the current snapshot. -/
def Migrating (older : OlderBanks) (banks : Banks TrustBank) : Prop :=
  Blank format banks ∨ ∃ side, Current format banks side (migrated older)

/-- A start-up without a current snapshot is a save of the two-bank scheme. -/
theorem init_saves {banks : Banks TrustBank} {boot : BootFaults BankFaults}
    (blank : Blank format banks) (interruptible : Interruptible older banks boot) :
    ∃ snapshot, init older banks boot = Prod.map id Outcome.start
      (format.save (saveFates (target older banks) boot.save)
        ⟨banks, snapshot, (origin older).1⟩ ⟨(origin older).2, 0⟩) := by
  obtain ⟨snapshot, started⟩ := init_blank interruptible.readable blank
  exact ⟨snapshot, started.trans
    (commitAtStart_eq ⟨banks, snapshot, (origin older).1⟩ interruptible.honest (origin older).2)⟩

/-- What an unfinished write leaves keeps the migration where it was or completes it. -/
theorem Migrating.of_unfinished {banks : Banks TrustBank} (blank : Blank format banks)
    (side : Side) {left : TrustBank}
    (loads : format.load left = none ∨ format.load left = some (migrated older)) :
    Migrating older (banks.set side.other left) := by
  rcases loads with none | complete
  · exact .inl (blank.set side.other none)
  · exact .inr ⟨side.other, blank.advance side complete⟩

/-- One start-up: the invariant is kept, and if the start-up completes, the anchors in
memory are those of the origin. -/
theorem Migrating.start {banks : Banks TrustBank} {boot : BootFaults BankFaults}
    (migrating : Migrating older banks) (interruptible : Interruptible older banks boot) :
    Migrating older (init older banks boot).1.banks
      ∧ ((init older banks boot).2 = .ready →
        (init older banks boot).1.snapshot = migrated older) := by
  rcases migrating with blank | ⟨side, current⟩
  · obtain ⟨snapshot, started⟩ := init_saves blank interruptible
    have complete := load_write (migrated_valid older)
    rw [started]
    rcases format.save_cases interruptible.honest ⟨banks, snapshot, (origin older).1⟩
        ⟨(origin older).2, 0⟩ with
      ⟨_, _, result⟩ | ⟨_, _, _, result⟩ | ⟨left, refused, result⟩ | ⟨left, cut, result⟩
    · rw [result]
      exact ⟨.inr ⟨_, blank.advance (origin older).1 complete⟩, fun _ => rfl⟩
    · -- the image is complete, only the read that verifies it has failed
      rw [result]
      exact ⟨.inr ⟨_, blank.advance (origin older).1 complete⟩, nofun⟩
    · rw [result]
      refine ⟨.of_unfinished blank _ (interruptible.unfinished left ?_), nofun⟩
      rcases refused with erase | ⟨_, program⟩
      · exact ⟨_, List.mem_cons_self, .inl erase⟩
      · exact ⟨_, List.mem_cons_of_mem _ List.mem_cons_self, .inl program⟩
    · rw [result]
      refine ⟨.of_unfinished blank _ (interruptible.unfinished left ?_), nofun⟩
      rcases cut with erase | ⟨_, program⟩
      · exact ⟨_, List.mem_cons_self, .inr erase⟩
      · exact ⟨_, List.mem_cons_of_mem _ List.mem_cons_self, .inr program⟩
  · rw [init_found interruptible.readable current.newest_eq]
    exact ⟨.inr ⟨side, current⟩, fun _ => rfl⟩

theorem Migrating.restart {banks : Banks TrustBank} {boot : BootFaults BankFaults}
    (migrating : Migrating older banks) (interruptible : Interruptible older banks boot) :
    Migrating older (TlsTrustStore.restart older banks boot) :=
  (migrating.start interruptible).1

/-- A start-up in which nothing fails completes. -/
theorem Migrating.start_done {banks : Banks TrustBank} {boot : BootFaults BankFaults}
    (migrating : Migrating older banks) (interruptible : Interruptible older banks boot)
    (works : saveFates (target older banks) boot.save = .done) :
    (init older banks boot).2 = .ready := by
  rcases migrating with blank | ⟨side, current⟩
  · obtain ⟨snapshot, started⟩ := init_saves blank interruptible
    have saved := save_done (⟨banks, snapshot, (origin older).1⟩ : Ram) (migrated_valid older)
    rw [started, works, saved]
    rfl
  · rw [init_found interruptible.readable current.newest_eq]

/-! ## A store of the previous layout -/

theorem load_erased : format.load format.blank = none := by
  have rejected : scheme.accepts (scheme.layout.decode (bytes format.blank)).body = false := by
    decide
  exact load_eq_none (SealScheme.isValid_of_rejected _ rejected)

/-- The second of five slots holds an anchor. -/
def fiveSlots : Body previousMaxPersisted :=
  ⟨0, 0, 0, 6, .ofFn fun index =>
    if index.val = 1 then { Anchor.zero with occupied := 1, derLength := 1 } else Anchor.zero⟩

/-- A device whose only snapshot is in the first bank of the previous layout. -/
def beforeUpdate : OlderBanks :=
  ⟨previousScheme.layout.encode (previousScheme.stamp ⟨fiveSlots, 0⟩), [], [], []⟩

theorem readOlder_stamp {count : ℕ} (scheme : SealScheme (Body count))
    {candidate : Sealed (Body count)}
    (accepted : scheme.accepts (scheme.mark candidate.body) = true) :
    readOlder scheme true (scheme.layout.encode (scheme.stamp candidate)) =
      some (scheme.mark candidate.body) := by
  have valid := scheme.isValid_stamp candidate []
  rw [List.append_nil, accepted] at valid
  rw [readOlder, valid, Codec.decode_encode_nil]
  rfl

theorem readOlder_previous_nil : readOlder previousScheme true [] = none := by
  rw [readOlder, previousScheme.isValid_of_rejected (by decide)]
  rfl

/-- A snapshot in the first previous bank only. -/
theorem origin_of_previousA {bytes : List UInt8} {body : Body previousMaxPersisted}
    (read : readOlder previousScheme true bytes = some body) :
    origin ⟨bytes, [], [], []⟩ = (.a, migrate body) := by
  simp only [origin, olderSnapshot, read, readOlder_previous_nil, pickLater]

theorem origin_beforeUpdate :
    origin beforeUpdate = (.a, migrate (previousScheme.mark fiveSlots)) :=
  origin_of_previousA (readOlder_stamp previousScheme (by decide))

theorem saveFates_erased (bank : TrustBank) (program : Fate TrustBank) :
    saveFates bank ⟨fun _ => .done, program, true⟩ = ⟨.done, program, true⟩ := by
  rw [saveFates, eraseFate_done]

/-- The power is lost when the bank is erased and nothing is programmed yet. -/
def cutShort : BootFaults BankFaults :=
  ⟨fun _ => true, ⟨fun _ => .done, .cut format.blank, true⟩⟩

def undisturbed : BootFaults BankFaults := ⟨fun _ => true, ⟨fun _ => .done, .done, true⟩⟩

/-- Only the program may stay unfinished. -/
theorem Interruptible.of_erased (program : Fate TrustBank) (honest : program.Honest)
    (unfinished : ∀ left, program = .refused left ∨ program = .cut left →
      format.load left = none ∨ format.load left = some (migrated older))
    (banks : Banks TrustBank) :
    Interruptible older banks ⟨fun _ => true, ⟨fun _ => .done, program, true⟩⟩ where
  readable _ := rfl
  honest := by
    rw [saveFates_erased]
    exact ⟨trivial, honest⟩
  unfinished := by
    rw [saveFates_erased]
    rintro left ⟨fate, member, ended⟩
    simp only [List.mem_cons, List.not_mem_nil, or_false] at member
    rcases member with rfl | rfl
    · rcases ended with ended | ended <;> cases ended
    · exact unfinished left ended

theorem interruptible_cutShort (banks : Banks TrustBank) : Interruptible older banks cutShort := by
  refine Interruptible.of_erased (.cut format.blank) trivial ?_ banks
  intro left ended
  rcases ended with ended | ended <;> cases ended
  exact .inl load_erased

theorem interruptible_undisturbed (banks : Banks TrustBank) :
    Interruptible older banks undisturbed := by
  refine Interruptible.of_erased .done trivial ?_ banks
  intro left ended
  rcases ended with ended | ended <;> cases ended

/-! ## Resumption -/

/-- However often the migration is interrupted, every start-up that completes has the
anchors of the earlier layout it started from, and one in which nothing fails
completes. -/
theorem interrupted_migration_resumes (older : OlderBanks) (banks : Banks TrustBank)
    (blank : Blank format banks) (boots : List (BootFaults BankFaults))
    (interrupted : Run.Throughout (restart older) (Interruptible older) banks boots)
    (boot : BootFaults BankFaults)
    (last : Interruptible older (Run.run (restart older) banks boots) boot) :
    let flash := Run.run (restart older) banks boots
    let started := init older flash boot
    (started.2 = .ready → started.1.snapshot.body.anchors = (origin older).2.anchors)
      ∧ (saveFates (target older flash) boot.save = .done → started.2 = .ready) := by
  intro flash started
  have preserved : ∀ banks boot, Migrating older banks → Interruptible older banks boot →
      Migrating older (restart older banks boot) :=
    fun _ _ migrating interruptible => migrating.restart interruptible
  have migrating : Migrating older flash := interrupted.invariant preserved (.inl blank)
  refine ⟨?_, fun works => migrating.start_done last works⟩
  intro ready
  rw [(migrating.start last).2 ready, migrated_anchors]

/-- The anchors of the five slots are there after a migration whose power was lost once. -/
theorem interrupted_migration_resumes_after_cut :
    let flash := Run.run (restart beforeUpdate) ⟨format.blank, format.blank⟩ [cutShort]
    let started := init beforeUpdate flash undisturbed
    started.2 = .ready
      ∧ started.1.snapshot.body.anchors = (migrate (previousScheme.mark fiveSlots)).anchors := by
  have blank : Blank format ⟨format.blank, format.blank⟩ := by
    intro side
    cases side <;> exact load_erased
  -- for any banks, so that the start-ups are not evaluated on the bytes of these
  have law : ∀ (older : OlderBanks) (banks : Banks TrustBank) (body : CurrentBody),
      Blank format banks → origin older = (.a, body) →
      let started := init older (Run.run (restart older) banks [cutShort]) undisturbed
      started.2 = .ready ∧ started.1.snapshot.body.anchors = body.anchors := by
    intro older banks body blank found started
    have resumes := interrupted_migration_resumes older banks blank [cutShort]
      ⟨interruptible_cutShort banks, trivial⟩ undisturbed (interruptible_undisturbed _)
    have ready : started.2 = .ready := resumes.2 (saveFates_erased _ .done)
    refine ⟨ready, ?_⟩
    rw [resumes.1 ready, found]
  exact law beforeUpdate ⟨format.blank, format.blank⟩ _ blank origin_beforeUpdate

end HealthCheckFirmware.TlsTrustStore
