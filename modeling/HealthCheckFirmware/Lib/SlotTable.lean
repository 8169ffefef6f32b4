import Mathlib.Data.Finset.Card
import Mathlib.Data.Fintype.Card
import Mathlib.Data.List.FinRange
import Mathlib.Data.Finset.Dedup

/-!
# Tables of slots with keys

A table is a fixed number of slots, each of which is either in use, under a key,
or free. Where an entry for a key goes is decided by `locate`: to the slot that is
in use under that key, or else to the first free one.

A table in which no key is used twice stands for a partial map from keys to slots
(`lookup`). Writing an entry at the slot that was located changes this map at its
key and nowhere else (`lookup_update_used`, `lookup_update_free`) and keeps the keys
distinct (`distinct_update`). If all keys in use come from a list that is no longer
than the table, a slot is found for every key of the list (`locate_ne_none`).
-/

set_option autoImplicit false

namespace HealthCheckFirmware.SlotTable

section Definitions

variable {Slot Key : Type} [DecidableEq Key] {size : ℕ}

/-- The first slot in use under the key. -/
def usedBy (used : Slot → Bool) (key : Slot → Key) (table : Fin size → Slot) (wanted : Key) :
    Option (Fin size) :=
  (List.finRange size).find? fun index => used (table index) && key (table index) == wanted

/-- The first slot that is not in use. -/
def free (used : Slot → Bool) (table : Fin size → Slot) : Option (Fin size) :=
  (List.finRange size).find? fun index => !used (table index)

/-- Where an entry for the key goes. -/
def locate (used : Slot → Bool) (key : Slot → Key) (table : Fin size → Slot) (wanted : Key) :
    Option (Fin size) :=
  (usedBy used key table wanted).or (free used table)

/-- The entry of a key. -/
def lookup (used : Slot → Bool) (key : Slot → Key) (table : Fin size → Slot) (wanted : Key) :
    Option Slot :=
  (usedBy used key table wanted).map table

/-- No key is in use twice. -/
def Distinct (used : Slot → Bool) (key : Slot → Key) (table : Fin size → Slot) : Prop :=
  ∀ first second, used (table first) = true → used (table second) = true →
    key (table first) = key (table second) → first = second

end Definitions

variable {Slot Key : Type} [DecidableEq Key] {size : ℕ} {used : Slot → Bool} {key : Slot → Key}
  {table : Fin size → Slot} {wanted : Key} {index : Fin size}

/-! ## Where an entry goes -/

theorem usedBy_some (found : usedBy used key table wanted = some index) :
    used (table index) = true ∧ key (table index) = wanted := by
  simpa using List.find?_some found

theorem usedBy_none :
    usedBy used key table wanted = none ↔
      ∀ index, used (table index) = true → key (table index) ≠ wanted := by
  simp [usedBy, List.find?_eq_none]

theorem free_some (found : free used table = some index) : used (table index) = false := by
  simpa using List.find?_some found

theorem free_none : free used table = none ↔ ∀ index, used (table index) = true := by
  simp [free, List.find?_eq_none]

/-- An entry goes to the slot of its key, or to a free slot if there is none. -/
theorem locate_cases (located : locate used key table wanted = some index) :
    (used (table index) = true ∧ key (table index) = wanted)
      ∨ (used (table index) = false
        ∧ ∀ other, used (table other) = true → key (table other) ≠ wanted) := by
  unfold locate at located
  cases found : usedBy used key table wanted with
  | some first =>
      rw [found] at located
      cases located
      exact .inl (usedBy_some found)
  | none =>
      rw [found] at located
      exact .inr ⟨free_some located, usedBy_none.mp found⟩

/-- No slot is used by the key but the one located for it. -/
theorem eq_of_locate (distinct : Distinct used key table)
    (located : locate used key table wanted = some index) {other : Fin size}
    (inUse : used (table other) = true) (sameKey : key (table other) = wanted) : other = index := by
  rcases locate_cases located with ⟨indexUsed, indexKey⟩ | ⟨_, unused⟩
  · exact distinct other index inUse indexUsed (sameKey.trans indexKey.symm)
  · exact absurd sameKey (unused other inUse)

/-- A slot that is in use under another key is not the one located. -/
theorem ne_of_locate (located : locate used key table wanted = some index) {other : Fin size}
    (inUse : used (table other) = true) (otherKey : key (table other) ≠ wanted) :
    other ≠ index := by
  rintro rfl
  rcases locate_cases located with ⟨_, indexKey⟩ | ⟨unused, _⟩
  · exact otherKey indexKey
  · rw [inUse] at unused
    cases unused

/-- A key in use has a slot. -/
theorem locate_used (inUse : used (table index) = true) :
    locate used key table (key (table index)) ≠ none := by
  intro missing
  rw [locate, Option.or_eq_none_iff] at missing
  exact usedBy_none.mp missing.1 index inUse rfl

/-- As long as the keys in use come from a list no longer than the table, every
key of the list has a slot. -/
theorem locate_ne_none (distinct : Distinct used key table) {keys : List Key}
    (drawn : ∀ index, used (table index) = true → key (table index) ∈ keys)
    (member : wanted ∈ keys) (room : keys.length ≤ size) :
    locate used key table wanted ≠ none := by
  intro missing
  rw [locate, Option.or_eq_none_iff] at missing
  have absent := usedBy_none.mp missing.1
  have full := free_none.mp missing.2
  have injective : Function.Injective fun index => key (table index) := fun first second same =>
    distinct first second (full first) (full second) same
  -- The keys of a full table are as many as its slots, and `wanted` is not one of them.
  have among : Finset.univ.image (fun index => key (table index)) ⊆ keys.toFinset.erase wanted := by
    intro name isKey
    obtain ⟨index, _, rfl⟩ := Finset.mem_image.mp isKey
    exact Finset.mem_erase.mpr
      ⟨absent index (full index), List.mem_toFinset.mpr (drawn index (full index))⟩
  have bound := Finset.card_le_card among
  rw [Finset.card_image_of_injective _ injective, Finset.card_univ, Fintype.card_fin] at bound
  have smaller := Finset.card_erase_lt_of_mem (List.mem_toFinset.mpr member)
  have length := keys.toFinset_card_le
  omega

/-! ## The map a table stands for -/

/-- The entry of a key is the slot in use under it. -/
theorem lookup_eq_some (distinct : Distinct used key table) {slot : Slot} :
    lookup used key table wanted = some slot ↔
      ∃ index, table index = slot ∧ used slot = true ∧ key slot = wanted := by
  unfold lookup
  constructor
  · intro found
    obtain ⟨index, first, rfl⟩ := Option.map_eq_some_iff.mp found
    exact ⟨index, rfl, usedBy_some first⟩
  · rintro ⟨index, rfl, inUse, sameKey⟩
    cases found : usedBy used key table wanted with
    | none => exact absurd sameKey (usedBy_none.mp found index inUse)
    | some first =>
        obtain ⟨firstUsed, firstKey⟩ := usedBy_some found
        have same := distinct first index firstUsed inUse (firstKey.trans sameKey.symm)
        rw [same]
        rfl

theorem lookup_eq_none :
    lookup used key table wanted = none ↔
      ∀ index, used (table index) = true → key (table index) ≠ wanted := by
  rw [lookup, Option.map_eq_none_iff, usedBy_none]

theorem lookup_self (distinct : Distinct used key table) (inUse : used (table index) = true) :
    lookup used key table (key (table index)) = some (table index) :=
  (lookup_eq_some distinct).mpr ⟨index, rfl, inUse, rfl⟩

/-! ## Writing an entry -/

/-- Writing an entry for the key at its slot, or freeing the slot, keeps the keys
distinct. -/
theorem distinct_update (distinct : Distinct used key table)
    (located : locate used key table wanted = some index) {entry : Slot}
    (own : used entry = true → key entry = wanted) :
    Distinct used key (Function.update table index entry) := by
  have apart : ∀ other, other ≠ index → used (table other) = true →
      key (table other) ≠ wanted := fun other ne inUse sameKey =>
    ne (eq_of_locate distinct located inUse sameKey)
  intro first second firstUsed secondUsed sameKey
  by_cases firstHere : first = index <;> by_cases secondHere : second = index
  · rw [firstHere, secondHere]
  · rw [firstHere, Function.update_self] at firstUsed sameKey
    rw [Function.update_of_ne secondHere] at secondUsed sameKey
    exact absurd (sameKey.symm.trans (own firstUsed)) (apart second secondHere secondUsed)
  · rw [secondHere, Function.update_self] at secondUsed sameKey
    rw [Function.update_of_ne firstHere] at firstUsed sameKey
    exact absurd (sameKey.trans (own secondUsed)) (apart first firstHere firstUsed)
  · rw [Function.update_of_ne firstHere] at firstUsed sameKey
    rw [Function.update_of_ne secondHere] at secondUsed sameKey
    exact distinct first second firstUsed secondUsed sameKey

/-- Writing at the slot of a key leaves every slot that another key has, before or
after. -/
theorem update_apart (located : locate used key table wanted = some index) {entry : Slot}
    (own : used entry = true → key entry = wanted) {other : Key} (otherKey : other ≠ wanted)
    {place : Fin size}
    (concerned : used (table place) = true ∧ key (table place) = other
      ∨ used (Function.update table index entry place) = true
        ∧ key (Function.update table index entry place) = other) :
    Function.update table index entry place = table place := by
  refine Function.update_of_ne ?_ _ _
  rintro rfl
  rcases concerned with ⟨inUse, sameKey⟩ | ⟨inUse, sameKey⟩
  · exact ne_of_locate located inUse (sameKey.trans_ne otherKey) rfl
  · rw [Function.update_self] at inUse sameKey
    exact otherKey (sameKey.symm.trans (own inUse))

/-- Writing at the slot of a key leaves the entries of all other keys. -/
theorem lookup_update_other (distinct : Distinct used key table)
    (located : locate used key table wanted = some index) {entry : Slot}
    (own : used entry = true → key entry = wanted) {other : Key} (otherKey : other ≠ wanted) :
    lookup used key (Function.update table index entry) other = lookup used key table other := by
  apply Option.ext
  intro slot
  rw [lookup_eq_some (distinct_update distinct located own), lookup_eq_some distinct]
  constructor
  · rintro ⟨place, rfl, inUse, sameKey⟩
    exact ⟨place, (update_apart located own otherKey (.inr ⟨inUse, sameKey⟩)).symm, inUse, sameKey⟩
  · rintro ⟨place, rfl, inUse, sameKey⟩
    exact ⟨place, update_apart located own otherKey (.inl ⟨inUse, sameKey⟩), inUse, sameKey⟩

/-- **Writing an entry at the slot of its key sets the map at that key.** -/
theorem lookup_update_used (distinct : Distinct used key table)
    (located : locate used key table wanted = some index) {entry : Slot}
    (inUse : used entry = true) (own : key entry = wanted) :
    lookup used key (Function.update table index entry) =
      Function.update (lookup used key table) wanted (some entry) := by
  funext other
  by_cases same : other = wanted
  · subst same
    rw [Function.update_self, lookup_eq_some (distinct_update distinct located fun _ => own)]
    exact ⟨index, Function.update_self .., inUse, own⟩
  · rw [Function.update_of_ne same, lookup_update_other distinct located (fun _ => own) same]

/-- **Freeing the slot of a key removes the key from the map.** -/
theorem lookup_update_free (distinct : Distinct used key table)
    (located : locate used key table wanted = some index) {entry : Slot}
    (unused : used entry = false) :
    lookup used key (Function.update table index entry) =
      Function.update (lookup used key table) wanted none := by
  have own : used entry = true → key entry = wanted := by
    intro inUse
    rw [unused] at inUse
    cases inUse
  funext other
  by_cases same : other = wanted
  · subst same
    rw [Function.update_self, lookup_eq_none]
    intro place inUse sameKey
    by_cases here : place = index
    · rw [here, Function.update_self, unused] at inUse
      cases inUse
    · rw [Function.update_of_ne here] at inUse sameKey
      exact here (eq_of_locate distinct located inUse sameKey)
  · rw [Function.update_of_ne same, lookup_update_other distinct located own same]

end HealthCheckFirmware.SlotTable
