import HealthCheckFirmware.Lib.PlainStore

/-!
# Properties of all that a store holds

A property that every candidate of a two-bank store has once it is stamped, and that
the snapshots in the banks have already, holds of what the banks load after a save,
however the save ends, provided that a torn write is detected (`Stored.save`). What a
start-up takes then has the property as well. `Held` is the property of a store in
operation, in memory and in the banks.
-/

set_option autoImplicit false

namespace HealthCheckFirmware.TwoBank

variable {Image Snapshot Status : Type} {format : Format Image Snapshot}
  {good : Snapshot → Prop}

/-- Every snapshot that a bank loads has the property. -/
def Stored (format : Format Image Snapshot) (good : Snapshot → Prop) (banks : Banks Image) :
    Prop :=
  ∀ side snapshot, format.load (banks.get side) = some snapshot → good snapshot

/-- What the write of a snapshot leaves in its bank loads as that snapshot, loads as what
the bank held before, or does not load at all. -/
def Detected (format : Format Image Snapshot) (fates : SaveFates Image)
    (store : Store Image Snapshot) (stamped : Snapshot) : Prop :=
  ∀ snapshot, format.load (format.attempt fates stamped).1 = some snapshot →
    snapshot = stamped ∨ format.load (store.banks.get store.active.other) = some snapshot

theorem Blank.stored {banks : Banks Image} (blank : Blank format banks) :
    Stored format good banks := by
  intro side snapshot loads
  rw [blank side] at loads
  cases loads

/-- A save writes to the inactive bank only. -/
theorem save_banks (fates : SaveFates Image) (store : Store Image Snapshot)
    (candidate : Snapshot) :
    (format.save fates store candidate).1.banks =
      store.banks.set store.active.other (format.attempt fates (format.stamp candidate)).1 := by
  rw [Format.save]
  split
  · rfl
  · rfl
  · split <;> rfl

/-- A save leaves the old snapshot in memory or the stamped candidate. -/
theorem save_snapshot (fates : SaveFates Image) (store : Store Image Snapshot)
    (candidate : Snapshot) :
    (format.save fates store candidate).1.snapshot = store.snapshot ∨
      (format.save fates store candidate).1.snapshot = format.stamp candidate := by
  rw [Format.save]
  split
  · exact .inl rfl
  · exact .inl rfl
  · split
    · exact .inr rfl
    · exact .inl rfl

/-- **A save keeps the property of the banks.** -/
theorem Stored.save {fates : SaveFates Image} {store : Store Image Snapshot}
    (stored : Stored format good store.banks) {candidate : Snapshot}
    (detected : Detected format fates store (format.stamp candidate))
    (stampedGood : good (format.stamp candidate)) :
    Stored format good (format.save fates store candidate).1.banks := by
  intro side snapshot loads
  rw [save_banks] at loads
  rcases Side.eq_or_other store.active.other side with rfl | rfl
  · rw [Banks.get_set_self] at loads
    rcases detected _ loads with rfl | before
    · exact stampedGood
    · exact stored _ snapshot before
  · rw [Banks.get_other_set] at loads
    exact stored _ snapshot loads

/-- A mutation keeps it too, when all that it may propose has the property. -/
theorem Stored.commit {fates : SaveFates Image} {store : Store Image Snapshot}
    (stored : Stored format good store.banks) {proposal : Except Status Snapshot}
    (detected : ∀ candidate, proposal = .ok candidate →
      Detected format fates store (format.stamp candidate))
    (stampedGood : ∀ candidate, proposal = .ok candidate → good (format.stamp candidate)) :
    Stored format good (format.commit fates store proposal).1.banks := by
  cases proposal with
  | error status => exact stored
  | ok candidate => exact stored.save (detected candidate rfl) (stampedGood candidate rfl)

/-- The snapshot in memory has the property, and so has every one that a bank loads. -/
structure Held (format : Format Image Snapshot) (good : Snapshot → Prop)
    (store : Store Image Snapshot) : Prop where
  memory : good store.snapshot
  stored : Stored format good store.banks

/-- **A save keeps the property of a store**, however it ends. -/
theorem Held.save {fates : SaveFates Image} {store : Store Image Snapshot}
    (held : Held format good store) {candidate : Snapshot}
    (detected : Detected format fates store (format.stamp candidate))
    (stampedGood : good (format.stamp candidate)) :
    Held format good (format.save fates store candidate).1 where
  memory := by
    rcases save_snapshot fates store candidate with same | same
    · rw [same]
      exact held.memory
    · rw [same]
      exact stampedGood
  stored := held.stored.save detected stampedGood

theorem Held.commit {fates : SaveFates Image} {store : Store Image Snapshot}
    (held : Held format good store) {proposal : Except Status Snapshot}
    (detected : ∀ candidate, proposal = .ok candidate →
      Detected format fates store (format.stamp candidate))
    (stampedGood : ∀ candidate, proposal = .ok candidate → good (format.stamp candidate)) :
    Held format good (format.commit fates store proposal).1 := by
  cases proposal with
  | error status => exact held
  | ok candidate => exact held.save (detected candidate rfl) (stampedGood candidate rfl)

/-- What holds of both banks and of the image that a write leaves holds of both banks
afterwards. -/
theorem save_everywhere (holds : Image → Prop) {fates : SaveFates Image}
    {store : Store Image Snapshot} (before : ∀ side, holds (store.banks.get side))
    {candidate : Snapshot} (left : holds (format.attempt fates (format.stamp candidate)).1)
    (side : Side) : holds ((format.save fates store candidate).1.banks.get side) := by
  rw [save_banks]
  rcases Side.eq_or_other store.active.other side with rfl | rfl
  · rw [Banks.get_set_self]
    exact left
  · rw [Banks.get_other_set]
    exact before _

theorem commit_everywhere (holds : Image → Prop) {fates : SaveFates Image}
    {store : Store Image Snapshot} (before : ∀ side, holds (store.banks.get side))
    (left : ∀ candidate, holds (format.attempt fates (format.stamp candidate)).1)
    (proposal : Except Status Snapshot) (side : Side) : holds ((format.commit fates store proposal).1.banks.get side) := by
  cases proposal with
  | error status => exact before side
  | ok candidate => exact save_everywhere holds before (left _) side

end HealthCheckFirmware.TwoBank
