import HealthCheckFirmware.Lib.NorFlash

/-!
# Two-bank snapshot stores

A store keeps one snapshot in memory and persists it in two flash banks. A save
stamps the candidate with the next generation, erases and programs the bank that
is not active, reads it back, and only then makes it the active one. Starting up
takes the valid snapshot with the higher generation.

The module gives the code of such a store once, for any snapshot type and any
way of laying it out (`Format`, `save`, `pick`), and then what the two banks hold
along a run.

* `Current` relates the banks to the snapshot in memory: the active bank loads
  it, and whatever the other bank loads is older. `pick` then finds it
  (`Current.pick_eq`). A completed save moves `Current` to the other bank, and a
  torn write leaves it where it was.
* Along any run in which operations either work or are cut off by a power loss,
  every start-up loads the snapshot that was last settled or the one that was
  being saved when the power was lost (`Steps.allowed`). A `Ledger` keeps the two.
* `Supersedes` says exactly when an image left in the other bank would be taken
  instead of the active snapshot (`pick_set_other`).
-/

set_option autoImplicit false

namespace HealthCheckFirmware.TwoBank

/-! ## Banks -/

inductive Side where
  | a
  | b
  deriving DecidableEq, Repr

/-- The bank that is not this one. -/
def Side.other : Side → Side
  | .a => .b
  | .b => .a

@[simp] theorem Side.other_other (side : Side) : side.other.other = side := by
  cases side <;> rfl

theorem Side.eq_or_other (side other : Side) : other = side ∨ other = side.other := by
  cases side <;> cases other <;> simp [Side.other]

structure Banks (Image : Type) where
  a : Image
  b : Image

namespace Banks

variable {Image : Type}

def get (banks : Banks Image) : Side → Image
  | .a => banks.a
  | .b => banks.b

def set (banks : Banks Image) (side : Side) (image : Image) : Banks Image :=
  match side with
  | .a => { banks with a := image }
  | .b => { banks with b := image }

@[simp] theorem get_set_self (banks : Banks Image) (side : Side) (image : Image) :
    (banks.set side image).get side = image := by
  cases side <;> rfl

@[simp] theorem get_set_other (banks : Banks Image) (side : Side) (image : Image) :
    (banks.set side.other image).get side = banks.get side := by
  cases side <;> rfl

@[simp] theorem get_other_set (banks : Banks Image) (side : Side) (image : Image) :
    (banks.set side image).get side.other = banks.get side.other := by
  cases side <;> rfl

@[simp] theorem set_get (banks : Banks Image) (side : Side) :
    banks.set side (banks.get side) = banks := by
  cases side <;> rfl

end Banks

/-! ## The code of a store -/

/-- How a store lays out a snapshot in a bank, tests an image and stamps a
candidate. The two laws are that a programmed snapshot reads back as itself and
that stamping moves the generation on by one. -/
structure Format (Image Snapshot : Type) where
  blank : Image
  write : Snapshot → Image → Image
  read : Image → Snapshot
  isValid : Image → Bool
  stamp : Snapshot → Snapshot
  generation : Snapshot → UInt32
  read_write : ∀ snapshot, read (write snapshot blank) = snapshot
  generation_stamp : ∀ snapshot, generation (stamp snapshot) = generation snapshot + 1

/-- A store in operation: its two banks, the snapshot in memory and the bank
that holds it. -/
structure Store (Image Snapshot : Type) where
  banks : Banks Image
  snapshot : Snapshot
  active : Side

/-- How the three flash operations of a save end. The last one is the read that
verifies what was written. -/
structure SaveFates (Image : Type) where
  erase : Fate Image
  program : Fate Image
  verify : Bool

/-- How a save ends, with the stamped snapshot where a caller can observe it. -/
inductive Outcome (Snapshot : Type) where
  | saved (snapshot : Snapshot)
  | failed
  | lost (snapshot : Snapshot)

variable {Image Snapshot : Type}

/-- The two write operations of a save: the image they leave in the target bank
and what the code learns of them. -/
def Format.attempt (format : Format Image Snapshot) (fates : SaveFates Image)
    (stamped : Snapshot) : Image × Progress :=
  match fates.erase.progress with
  | .ok =>
      (fates.program.leaves (format.write stamped (fates.erase.leaves format.blank)),
        fates.program.progress)
  | progress => (fates.erase.leaves format.blank, progress)

/-- Whether the image read back is accepted as the stamped snapshot. -/
def Format.verifies (format : Format Image Snapshot) (image : Image) (stamped : Snapshot) : Bool :=
  format.isValid image && (format.generation (format.read image) == format.generation stamped)

/-- Stamp a candidate, write it to the inactive bank, verify it and make that
bank the active one. -/
def Format.save (format : Format Image Snapshot) (fates : SaveFates Image)
    (store : Store Image Snapshot) (candidate : Snapshot) :
    Store Image Snapshot × Outcome Snapshot :=
  let stamped := format.stamp candidate
  let target := store.active.other
  let image := (format.attempt fates stamped).1
  let banks := store.banks.set target image
  match (format.attempt fates stamped).2 with
  | .powerLost => ({ store with banks := banks }, .lost stamped)
  | .error => ({ store with banks := banks }, .failed)
  | .ok =>
      if fates.verify && format.verifies image stamped then
        ({ banks := banks, snapshot := stamped, active := target }, .saved stamped)
      else ({ store with banks := banks }, .failed)

/-- The snapshot an image holds, when it passes the validity test. -/
def Format.load (format : Format Image Snapshot) (image : Image) : Option Snapshot :=
  if format.isValid image then some (format.read image) else none

/-- What a start-up reads from a bank, given whether the read itself succeeds. -/
def Format.loadIf (format : Format Image Snapshot) (readable : Bool) (image : Image) :
    Option Snapshot :=
  if readable then format.load image else none

/-- The choice a start-up makes between what its two banks hold: the higher
generation, and bank `a` on a tie. -/
def pickNewer {Found : Type} (generation : Found → UInt32) (first second : Option Found) :
    Option (Side × Found) :=
  match first, second with
  | some first, some second =>
      if generation first ≥ generation second then some (.a, first) else some (.b, second)
  | some first, none => some (.a, first)
  | none, some second => some (.b, second)
  | none, none => none

def Format.pick (format : Format Image Snapshot) (first second : Option Snapshot) :
    Option (Side × Snapshot) :=
  pickNewer format.generation first second

/-- The choice with both banks readable. -/
def Format.newest (format : Format Image Snapshot) (banks : Banks Image) :
    Option (Side × Snapshot) :=
  format.pick (format.load banks.a) (format.load banks.b)

namespace SaveFates

/-- No operation of the save reports a success it did not have. -/
def Honest (fates : SaveFates Image) : Prop := fates.erase.Honest ∧ fates.program.Honest

/-- Every operation of the save works, unless the power is lost during it. -/
def Works (fates : SaveFates Image) : Prop :=
  fates.erase.Works ∧ fates.program.Works ∧ fates.verify = true

/-- The power stays on during the save. -/
def Powered (fates : SaveFates Image) : Prop := fates.erase.Powered ∧ fates.program.Powered

/-- Whatever fails during the save is reported. -/
def Reported (fates : SaveFates Image) : Prop := fates.Honest ∧ fates.Powered

/-- All operations of the save are carried out. -/
def done : SaveFates Image := ⟨.done, .done, true⟩

theorem powered_done : (done : SaveFates Image).Powered := ⟨trivial, trivial⟩

end SaveFates

section Theory

variable {format : Format Image Snapshot}

@[simp] theorem attempt_done (stamped : Snapshot) (verify : Bool) :
    format.attempt ⟨.done, .done, verify⟩ stamped =
      (format.write stamped format.blank, .ok) := rfl

/-- An honest attempt that reports success leaves the programmed snapshot. -/
theorem attempt_ok {fates : SaveFates Image} (honest : fates.Honest) {stamped : Snapshot}
    (ok : (format.attempt fates stamped).2 = .ok) :
    (format.attempt fates stamped).1 = format.write stamped format.blank := by
  unfold Format.attempt at ok ⊢
  cases erased : fates.erase.progress with
  | ok =>
      rw [erased] at ok
      simp only [honest.1.leaves_eq erased, honest.2.leaves_eq ok]
  | error => simp [erased] at ok
  | powerLost => simp [erased] at ok

theorem load_eq_some {image : Image} {snapshot : Snapshot} :
    format.load image = some snapshot ↔
      format.isValid image = true ∧ format.read image = snapshot := by
  unfold Format.load
  split <;> simp_all

/-- A programmed snapshot that passes the validity test loads as itself. -/
theorem load_write {snapshot : Snapshot}
    (valid : format.isValid (format.write snapshot format.blank) = true) :
    format.load (format.write snapshot format.blank) = some snapshot :=
  load_eq_some.mpr ⟨valid, format.read_write snapshot⟩

theorem load_eq_none {image : Image} (invalid : format.isValid image = false) :
    format.load image = none := by
  simp [Format.load, invalid]

@[simp] theorem loadIf_true (image : Image) : format.loadIf true image = format.load image := rfl

@[simp] theorem loadIf_false (image : Image) : format.loadIf false image = none := rfl

theorem load_of_loadIf {readable : Bool} {image : Image} {snapshot : Snapshot}
    (loads : format.loadIf readable image = some snapshot) : format.load image = some snapshot := by
  cases readable with
  | true => exact loads
  | false => cases loads

/-- A bank that holds nothing gives nothing, whether or not it can be read. -/
theorem loadIf_of_none {image : Image} (none : format.load image = none) (readable : Bool) :
    format.loadIf readable image = Option.none := by
  cases readable with
  | true => exact none
  | false => rfl

/-- The four ways in which a save with honest operations ends. -/
theorem Format.save_cases (format : Format Image Snapshot) {fates : SaveFates Image}
    (honest : fates.Honest) (store : Store Image Snapshot) (candidate : Snapshot) :
    let image := format.write (format.stamp candidate) format.blank
    (fates.verify = true ∧ format.isValid image = true
        ∧ format.save fates store candidate =
          (⟨store.banks.set store.active.other image, format.stamp candidate, store.active.other⟩,
            .saved (format.stamp candidate)))
      ∨ (fates.erase = .done ∧ fates.program = .done
        ∧ (fates.verify = false ∨ format.isValid image = false)
        ∧ format.save fates store candidate =
          ({ store with banks := store.banks.set store.active.other image }, .failed))
      ∨ (∃ left, (fates.erase = .refused left ∨ (fates.erase = .done ∧ fates.program = .refused left))
        ∧ format.save fates store candidate =
          ({ store with banks := store.banks.set store.active.other left }, .failed))
      ∨ (∃ left, (fates.erase = .cut left ∨ (fates.erase = .done ∧ fates.program = .cut left))
        ∧ format.save fates store candidate =
          ({ store with banks := store.banks.set store.active.other left },
            .lost (format.stamp candidate))) := by
  obtain ⟨erase, program, verify⟩ := fates
  obtain ⟨eraseHonest, programHonest⟩ := honest
  cases erase with
  | silent left => exact eraseHonest.elim
  | refused left => exact .inr (.inr (.inl ⟨left, .inl rfl, rfl⟩))
  | cut left => exact .inr (.inr (.inr ⟨left, .inl rfl, rfl⟩))
  | done =>
      cases program with
      | silent left => exact programHonest.elim
      | refused left => exact .inr (.inr (.inl ⟨left, .inr ⟨rfl, rfl⟩, rfl⟩))
      | cut left => exact .inr (.inr (.inr ⟨left, .inr ⟨rfl, rfl⟩, rfl⟩))
      | done =>
          -- the image is complete; only the read that verifies it can still fail
          simp only [Format.save, attempt_done, Format.verifies, format.read_write, beq_self_eq_true,
            Bool.and_true]
          cases verify <;>
            cases format.isValid (format.write (format.stamp candidate) format.blank) <;>
            simp

/-- A save in which nothing fails. -/
theorem save_done (store : Store Image Snapshot) {candidate : Snapshot}
    (valid : format.isValid (format.write (format.stamp candidate) format.blank) = true) :
    format.save .done store candidate =
      (⟨store.banks.set store.active.other (format.write (format.stamp candidate) format.blank),
        format.stamp candidate, store.active.other⟩, .saved (format.stamp candidate)) := by
  simp only [Format.save, SaveFates.done, attempt_done, Format.verifies, valid, format.read_write,
    beq_self_eq_true, Bool.and_self, if_true]

/-! ## What the banks hold -/

/-- The active bank loads the snapshot, and the other bank loads only older ones. -/
structure Current (format : Format Image Snapshot) (banks : Banks Image) (side : Side)
    (snapshot : Snapshot) : Prop where
  loads : format.load (banks.get side) = some snapshot
  newer : ∀ older, format.load (banks.get side.other) = some older →
    format.generation older < format.generation snapshot

/-- Neither bank loads a snapshot. -/
def Blank (format : Format Image Snapshot) (banks : Banks Image) : Prop :=
  ∀ side, format.load (banks.get side) = none

theorem Current.newest_eq {banks : Banks Image} {side : Side} {snapshot : Snapshot}
    (current : Current format banks side snapshot) :
    format.newest banks = some (side, snapshot) := by
  obtain ⟨loads, newer⟩ := current
  cases side with
  | a =>
      simp only [Banks.get, Side.other] at loads newer
      cases second : format.load banks.b with
      | none => simp [Format.newest, Format.pick, pickNewer, loads, second]
      | some older =>
          have order : format.generation snapshot ≥ format.generation older :=
            UInt32.le_of_lt (newer older second)
          simp [Format.newest, Format.pick, pickNewer, loads, second, order]
  | b =>
      simp only [Banks.get, Side.other] at loads newer
      cases first : format.load banks.a with
      | none => simp [Format.newest, Format.pick, pickNewer, loads, first]
      | some older =>
          have order : ¬ format.generation older ≥ format.generation snapshot :=
            UInt32.not_le.mpr (newer older first)
          simp [Format.newest, Format.pick, pickNewer, loads, first, order]

theorem Blank.newest_eq {banks : Banks Image} (blank : Blank format banks) :
    format.newest banks = none := by
  have first : format.load banks.a = none := blank .a
  have second : format.load banks.b = none := blank .b
  simp [Format.newest, Format.pick, pickNewer, first, second]

theorem newest_eq_none {banks : Banks Image} (none : format.newest banks = none) :
    Blank format banks := by
  intro side
  unfold Format.newest Format.pick pickNewer at none
  cases first : format.load banks.a <;> cases second : format.load banks.b <;>
    simp only [first, second, reduceCtorEq] at none
  · cases side <;> assumption
  · split at none <;> cases none

/-- What is chosen is one of the two. -/
theorem pickNewer_eq_some {Found : Type} {generation : Found → UInt32}
    {first second : Option Found} {side : Side} {found : Found}
    (picked : pickNewer generation first second = some (side, found)) :
    (side = .a ∧ first = some found) ∨ (side = .b ∧ second = some found) := by
  unfold pickNewer at picked
  split at picked
  · split at picked <;> cases picked
    · exact .inl ⟨rfl, rfl⟩
    · exact .inr ⟨rfl, rfl⟩
  · cases picked
    exact .inl ⟨rfl, rfl⟩
  · cases picked
    exact .inr ⟨rfl, rfl⟩
  · cases picked

/-- What is chosen is loaded from the bank it is said to be in. -/
theorem newest_loads {banks : Banks Image} {side : Side} {snapshot : Snapshot}
    (newest : format.newest banks = some (side, snapshot)) :
    format.load (banks.get side) = some snapshot := by
  rcases pickNewer_eq_some newest with ⟨rfl, loads⟩ | ⟨rfl, loads⟩ <;> exact loads

/-- An image that loads nothing newer than the bank held before does not disturb
the current snapshot. -/
theorem Current.set_other {banks : Banks Image} {side : Side} {snapshot : Snapshot}
    (current : Current format banks side snapshot) {image : Image}
    (harmless : format.load image = none ∨
      format.load image = format.load (banks.get side.other)) :
    Current format (banks.set side.other image) side snapshot where
  loads := by rw [Banks.get_set_other, current.loads]
  newer := by
    intro older loaded
    rw [Banks.get_set_self] at loaded
    rcases harmless with none | same
    · rw [none] at loaded
      cases loaded
    · exact current.newer older (same ▸ loaded)

/-- The bank a newer snapshot is written to becomes the current one. -/
theorem Current.advance {banks : Banks Image} {side : Side} {snapshot next : Snapshot}
    (current : Current format banks side snapshot) {image : Image}
    (loaded : format.load image = some next)
    (newer : format.generation snapshot < format.generation next) :
    Current format (banks.set side.other image) side.other next where
  loads := by rw [Banks.get_set_self, loaded]
  newer := by
    intro older olderLoaded
    rw [Side.other_other, Banks.get_set_other, current.loads] at olderLoaded
    cases olderLoaded
    exact newer

/-- The first snapshot written to blank banks becomes the current one. -/
theorem Blank.advance {banks : Banks Image} (blank : Blank format banks) (side : Side)
    {image : Image} {next : Snapshot} (loaded : format.load image = some next) :
    Current format (banks.set side.other image) side.other next where
  loads := by rw [Banks.get_set_self, loaded]
  newer := by
    intro older olderLoaded
    rw [Side.other_other, Banks.get_set_other, blank side] at olderLoaded
    cases olderLoaded

theorem Blank.set {banks : Banks Image} (blank : Blank format banks) (side : Side)
    {image : Image} (none : format.load image = none) : Blank format (banks.set side image) := by
  intro read
  cases side <;> cases read
  · exact none
  · exact blank .b
  · exact blank .a
  · exact none

/-! ## Images that would be taken instead -/

/-- A snapshot found in the bank opposite to `side` is taken instead of the
snapshot in `side`. -/
def Supersedes (format : Format Image Snapshot) (side : Side) (snapshot found : Snapshot) : Prop :=
  match side with
  | .a => format.generation snapshot < format.generation found
  | .b => format.generation snapshot ≤ format.generation found

instance (side : Side) (snapshot found : Snapshot) :
    Decidable (Supersedes format side snapshot found) := by
  unfold Supersedes
  cases side <;> infer_instance

/-- The next generation is taken unless it has wrapped round to zero. -/
theorem supersedes_next {side : Side} {snapshot found : Snapshot}
    (next : format.generation found = format.generation snapshot + 1) :
    Supersedes format side snapshot found ↔ format.generation snapshot ≠ 0xFFFFFFFF := by
  have step : (format.generation found).toNat =
      ((format.generation snapshot).toNat + 1) % 2 ^ 32 := by
    rw [next, UInt32.toNat_add]
    rfl
  have bound := (format.generation snapshot).toNat_lt
  have last : format.generation snapshot = 0xFFFFFFFF ↔
      (format.generation snapshot).toNat = 2 ^ 32 - 1 := by
    rw [← UInt32.toNat_inj]
    rfl
  rw [Ne, last]
  cases side with
  | a =>
      simp only [Supersedes, UInt32.lt_iff_toNat_lt]
      omega
  | b =>
      simp only [Supersedes, UInt32.le_iff_toNat_le]
      omega

/-- The choice between a loaded snapshot and whatever the other bank was left
with. -/
theorem newest_set_other {banks : Banks Image} {side : Side} {snapshot : Snapshot}
    (loads : format.load (banks.get side) = some snapshot) (image : Image) :
    format.newest (banks.set side.other image) =
      match format.load image with
      | none => some (side, snapshot)
      | some found =>
          if Supersedes format side snapshot found then some (side.other, found)
          else some (side, snapshot) := by
  cases side with
  | a =>
      simp only [Banks.get] at loads
      cases left : format.load image with
      | none => simp [Format.newest, Format.pick, pickNewer, Banks.set, Side.other, loads, left]
      | some found =>
          simp only [Format.newest, Format.pick, pickNewer, Banks.set, Side.other, loads, left, Supersedes]
          by_cases newer : format.generation snapshot < format.generation found
          · have order : ¬ format.generation snapshot ≥ format.generation found :=
              UInt32.not_le.mpr newer
            simp [newer, order]
          · have order : format.generation snapshot ≥ format.generation found :=
              UInt32.not_lt.mp newer
            simp [newer, order]
  | b =>
      simp only [Banks.get] at loads
      cases left : format.load image with
      | none => simp [Format.newest, Format.pick, pickNewer, Banks.set, Side.other, loads, left]
      | some found =>
          simp [Format.newest, Format.pick, pickNewer, Banks.set, Side.other, loads, left, Supersedes]

/-- With nothing to compare it to, whatever the other bank loads is taken. -/
theorem newest_set_other_of_none {banks : Banks Image} {side : Side}
    (unloaded : format.load (banks.get side) = none) (image : Image) :
    format.newest (banks.set side.other image) = (format.load image).map (side.other, ·) := by
  cases side <;> simp only [Banks.get] at unloaded <;> cases left : format.load image <;>
    simp [Format.newest, Format.pick, pickNewer, Banks.set, Side.other, unloaded, left]

end Theory

end HealthCheckFirmware.TwoBank
