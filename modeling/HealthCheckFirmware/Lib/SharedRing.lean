import Mathlib.Data.Int.ModEq
import Mathlib.Data.Fin.Basic
import Mathlib.Data.List.Basic

/-!
# Rings shared by a producer and a consumer

A ring of slots, each with a flag that says whether it is full, is a queue: the producer
fills the slot behind the last item, the consumer empties the slot of the first. Neither
knows where the other one is; each looks at the flag of its own next slot. `Holds` says
which items the full slots are, and the two operations keep it (`Holds.put`,
`Holds.take`). The next slot of the consumer is full exactly when there is an item
(`Holds.full_first`).
-/

set_option autoImplicit false

namespace HealthCheckFirmware.SharedRing

variable {size : ℕ} [NeZero size] {Item : Type}

/-- The slot of the item with the given number. -/
def slotOf (size : ℕ) [NeZero size] (number : ℕ) : Fin size :=
  ⟨number % size, Nat.mod_lt number (Nat.pos_of_neZero size)⟩

/-- The slot behind a slot. -/
def next (slot : Fin size) : Fin size :=
  ⟨(slot.val + 1) % size, Nat.mod_lt _ (Nat.pos_of_neZero size)⟩

theorem slotOf_succ (number : ℕ) : slotOf size (number + 1) = next (slotOf size number) :=
  Fin.ext (Nat.mod_add_mod number size 1).symm

/-- Numbers less than a turn apart have different slots. -/
theorem slotOf_inj {first second : ℕ} (ordered : first ≤ second) (near : second < first + size)
    (same : slotOf size first = slotOf size second) : first = second := by
  have remainders : first % size = second % size := congrArg Fin.val same
  have divides : size ∣ second - first := (Nat.modEq_iff_dvd' ordered).mp remainders
  have none : second - first = 0 := Nat.eq_zero_of_dvd_of_lt divides (by omega)
  omega

/-- The full slots are those of the items from number `taken` on. -/
structure Holds (full : Fin size → Prop) (content : Fin size → Item) (items : List Item)
    (taken : ℕ) : Prop where
  begun : taken ≤ items.length
  fits : items.length ≤ taken + size
  full_iff : ∀ slot, full slot ↔
    ∃ number, taken ≤ number ∧ number < items.length ∧ slotOf size number = slot
  content_eq : ∀ number (inside : number < items.length), taken ≤ number →
    content (slotOf size number) = items[number]

variable {full full' : Fin size → Prop} {content content' : Fin size → Item} {items : List Item}
  {taken : ℕ}

theorem Holds.empty (none : ∀ slot, ¬ full slot) : Holds full content [] 0 where
  begun := Nat.le_refl _
  fits := Nat.zero_le _
  full_iff slot := by simp [none slot]
  content_eq number inside := absurd inside (Nat.not_lt_zero number)

/-- The consumer's slot is full exactly when there is an item. -/
theorem Holds.full_first (holds : Holds full content items taken) :
    full (slotOf size taken) ↔ taken < items.length := by
  rw [holds.full_iff]
  constructor
  · rintro ⟨number, after, inside, -⟩
    omega
  · intro waiting
    exact ⟨taken, Nat.le_refl _, waiting, rfl⟩

/-- The producer's slot is empty exactly when there is room. -/
theorem Holds.full_last (holds : Holds full content items taken) :
    ¬ full (slotOf size items.length) ↔ items.length < taken + size := by
  have fits := holds.fits
  rw [holds.full_iff, ← not_iff_not, not_not]
  constructor
  · rintro ⟨number, after, inside, same⟩ room
    have equal := slotOf_inj (Nat.le_of_lt inside) (by omega) same
    omega
  · intro noRoom
    have turn : items.length = taken + size := by omega
    refine ⟨taken, Nat.le_refl _, ?_, ?_⟩
    · have positive := Nat.pos_of_neZero size
      omega
    · rw [turn]
      exact Fin.ext (Nat.add_mod_right taken size).symm

/-- What is in an empty slot does not matter. -/
theorem Holds.of_agree (holds : Holds full content items taken)
    (sameFull : ∀ slot, full' slot ↔ full slot)
    (agree : ∀ slot, full slot → content' slot = content slot) :
    Holds full' content' items taken where
  begun := holds.begun
  fits := holds.fits
  full_iff slot := (sameFull slot).trans (holds.full_iff slot)
  content_eq number inside after := by
    have isFull := (holds.full_iff _).mpr ⟨number, after, inside, rfl⟩
    exact (agree _ isFull).trans (holds.content_eq number inside after)

/-- **The producer fills its slot.** -/
theorem Holds.put (holds : Holds full content items taken)
    (free : ¬ full (slotOf size items.length)) {item : Item}
    (filled : ∀ slot, full' slot ↔ full slot ∨ slot = slotOf size items.length)
    (own : content' (slotOf size items.length) = item)
    (others : ∀ slot, slot ≠ slotOf size items.length → content' slot = content slot) :
    Holds full' content' (items ++ [item]) taken where
  begun := by
    have begun := holds.begun
    rw [List.length_append]
    omega
  fits := by
    have room := holds.full_last.mp free
    rw [List.length_append, List.length_singleton]
    omega
  full_iff slot := by
    rw [filled, holds.full_iff, List.length_append, List.length_singleton]
    constructor
    · rintro (⟨number, after, inside, same⟩ | rfl)
      · exact ⟨number, after, Nat.lt_succ_of_lt inside, same⟩
      · exact ⟨items.length, holds.begun, Nat.lt_succ_self _, rfl⟩
    · rintro ⟨number, after, inside, same⟩
      rcases Nat.lt_succ_iff_lt_or_eq.mp inside with before | rfl
      · exact .inl ⟨number, after, before, same⟩
      · exact .inr same.symm
  content_eq number inside after := by
    rw [List.length_append, List.length_singleton] at inside
    rcases Nat.lt_succ_iff_lt_or_eq.mp inside with before | rfl
    · have isFull := (holds.full_iff _).mpr ⟨number, after, before, rfl⟩
      have elsewhere : slotOf size number ≠ slotOf size items.length :=
        fun same => free (same ▸ isFull)
      rw [others _ elsewhere, holds.content_eq number before after, List.getElem_append_left]
    · rw [own, List.getElem_concat_length rfl]

/-- **The consumer empties its slot.** -/
theorem Holds.take (holds : Holds full content items taken) (waiting : taken < items.length)
    (emptied : ∀ slot, full' slot ↔ full slot ∧ slot ≠ slotOf size taken)
    (others : ∀ slot, slot ≠ slotOf size taken → content' slot = content slot) :
    Holds full' content' items (taken + 1) where
  begun := waiting
  fits := by
    have fits := holds.fits
    omega
  full_iff slot := by
    have fits := holds.fits
    rw [emptied, holds.full_iff]
    constructor
    · rintro ⟨⟨number, after, inside, rfl⟩, elsewhere⟩
      have notFirst : number ≠ taken := fun same => elsewhere (same ▸ rfl)
      exact ⟨number, by omega, inside, rfl⟩
    · rintro ⟨number, after, inside, rfl⟩
      refine ⟨⟨number, by omega, inside, rfl⟩, fun same => ?_⟩
      have equal := slotOf_inj (by omega) (by omega) same.symm
      omega
  content_eq number inside after := by
    have fits := holds.fits
    have elsewhere : slotOf size number ≠ slotOf size taken := by
      intro same
      have equal := slotOf_inj (by omega) (by omega) same.symm
      omega
    rw [others _ elsewhere]
    exact holds.content_eq number inside (by omega)

end HealthCheckFirmware.SharedRing
