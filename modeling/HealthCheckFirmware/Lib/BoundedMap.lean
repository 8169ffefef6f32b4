import HealthCheckFirmware.Lib.KeyedList
import Mathlib.Data.List.Nodup

/-!
# Finite maps of bounded size

A finite map is a list of entries with distinct keys, in the order in which the keys were
added, and of a bounded length. `Puts` and `Deletes` say what it is to store an entry
and to take one out; a list that is changed in place, at the end or by moving up the
entries behind a gap does just that (`nodup_replace`, `nodup_append`, `erase_eq_others`).
-/

set_option autoImplicit false

namespace HealthCheckFirmware

/-- A map from keys to entries that carry their key. -/
structure BoundedMap {Entry Key : Type} (key : Entry → Key) (capacity : ℕ) where
  entries : List Entry
  distinct : (entries.map key).Nodup
  bounded : entries.length ≤ capacity

namespace BoundedMap

variable {Entry Key : Type} [BEq Key] {key : Entry → Key} {capacity : ℕ}

/-- The entry under a key. -/
def lookup (map : BoundedMap key capacity) (wanted : Key) : Option Entry :=
  map.entries.find? (key · == wanted)

/-- The place of the entry under a key. -/
def position (map : BoundedMap key capacity) (wanted : Key) : Option ℕ :=
  map.entries.findIdx? (key · == wanted)

/-- There is room for an entry under the key: the key is in use, or the map is not full. -/
def Room (map : BoundedMap key capacity) (wanted : Key) : Prop :=
  map.lookup wanted ≠ none ∨ map.entries.length < capacity

/-- One entry is stored. It is found under its key, no other lookup changes, and the
entries under other keys keep their order. -/
structure Puts [DecidableEq Key] (map : BoundedMap key capacity) (entry : Entry)
    (after : BoundedMap key capacity) : Prop where
  room : map.Room (key entry)
  lookups : ∀ wanted,
    after.lookup wanted = if wanted = key entry then some entry else map.lookup wanted
  order : KeyedList.others key after.entries (key entry) =
    KeyedList.others key map.entries (key entry)

/-- The entry under a key is taken out, and the others are left in their order. -/
structure Deletes [DecidableEq Key] (map : BoundedMap key capacity) (wanted : Key)
    (after : BoundedMap key capacity) : Prop where
  present : map.lookup wanted ≠ none
  lookups : ∀ other, after.lookup other = if other = wanted then none else map.lookup other
  rest : after.entries = KeyedList.others key map.entries wanted

end BoundedMap

/-! ## Changing a list of distinct keys -/

namespace KeyedList

variable {Entry Key : Type} [BEq Key] [LawfulBEq Key] {key : Entry → Key} {entries : List Entry}
  {wanted : Key} {index : ℕ}

theorem nodup_replace (distinct : (entries.map key).Nodup)
    (position : entries.findIdx? (fun entry => key entry == wanted) = some index) {entry : Entry}
    (own : key entry = wanted) : ((entries.set index entry).map key).Nodup := by
  obtain ⟨before, old, after, rfl, rfl, same⟩ := split_of_position position
  have kept : ((before ++ old :: after).set before.length entry).map key =
      (before ++ old :: after).map key := by
    simp [own, same]
  rw [kept]
  exact distinct

theorem nodup_append (distinct : (entries.map key).Nodup)
    (absent : entries.findIdx? (fun entry => key entry == wanted) = none) {entry : Entry}
    (own : key entry = wanted) : ((entries ++ [entry]).map key).Nodup := by
  rw [List.findIdx?_eq_none_iff] at absent
  rw [List.map_append, List.map_singleton, own]
  refine distinct.append (List.nodup_singleton wanted) ?_
  rw [List.disjoint_singleton]
  intro isMember
  obtain ⟨member, inList, same⟩ := List.mem_map.mp isMember
  simpa [same] using absent member inList

/-- With distinct keys, taking out the first entry under a key takes out all of them. -/
theorem erase_eq_others (distinct : (entries.map key).Nodup)
    (position : entries.findIdx? (fun entry => key entry == wanted) = some index) :
    entries.eraseIdx index = others key entries wanted := by
  rw [← others_erase position, others, eq_comm, List.filter_eq_self]
  obtain ⟨before, entry, after, rfl, rfl, own⟩ := split_of_position position
  rw [List.map_append, List.map_cons, List.nodup_middle, List.nodup_cons, own] at distinct
  intro member isMember
  rw [List.eraseIdx_append_of_length_le (Nat.le_refl _)] at isMember
  have inRest : key member ∈ before.map key ++ after.map key := by
    simpa using List.mem_map_of_mem (f := key) isMember
  have otherKey : key member ≠ wanted := fun same => distinct.1 (same ▸ inRest)
  simpa using otherKey

/-- Nothing is found under a key whose entries are taken out. -/
theorem find_others_self :
    (others key entries wanted).find? (fun entry => key entry == wanted) = none := by
  rw [List.find?_eq_none]
  intro entry isMember
  simpa using (List.mem_filter.mp isMember).2

end KeyedList

end HealthCheckFirmware
