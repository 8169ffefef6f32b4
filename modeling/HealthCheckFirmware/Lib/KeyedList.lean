import Mathlib.Data.List.Basic

/-!
# Lists of entries with keys

How the first entry under a key, and the entries under all other keys, change when the
first entry under some key is replaced, when an entry under a new key is added at the
end, and when the first entry under a key is taken out.
-/

set_option autoImplicit false

namespace HealthCheckFirmware.KeyedList

section

variable {Entry Key : Type} [BEq Key] [LawfulBEq Key] {key : Entry → Key} {entries : List Entry}
  {wanted : Key}

/-- The entry found under a key is in the list and has the key. -/
theorem mem_of_find {entry : Entry}
    (found : entries.find? (fun entry => key entry == wanted) = some entry) :
    entry ∈ entries ∧ key entry = wanted :=
  ⟨List.mem_of_find?_eq_some found, by simpa using List.find?_some found⟩

end

variable {Entry Key : Type} [DecidableEq Key] [BEq Key] [LawfulBEq Key] {key : Entry → Key}
  {entries : List Entry} {wanted : Key} {index : ℕ}

theorem find_replace
    (position : entries.findIdx? (fun entry => key entry == wanted) = some index) {entry : Entry}
    (own : key entry = wanted) (other : Key) :
    (entries.set index entry).find? (fun entry => key entry == other) =
      if other = wanted then some entry
      else entries.find? (fun entry => key entry == other) := by
  induction entries generalizing index with
  | nil => simp at position
  | cons first rest ih =>
      rw [List.findIdx?_cons] at position
      by_cases here : key first = wanted
      · simp only [here, beq_self_eq_true, if_true, Option.some.injEq] at position
        subst position
        by_cases same : other = wanted
        · simp [own, same]
        · simp [own, here, Ne.symm same, same]
      · simp only [beq_iff_eq, here, if_false] at position
        obtain ⟨inner, found, rfl⟩ := Option.map_eq_some_iff.mp position
        rw [List.set_cons_succ, List.find?_cons, List.find?_cons, ih found]
        by_cases same : other = wanted
        · have skipped : (key first == wanted) = false := by simpa using here
          simp [same, skipped]
        · simp [same]

theorem find_append (absent : entries.findIdx? (fun entry => key entry == wanted) = none)
    {entry : Entry} (own : key entry = wanted) (other : Key) :
    (entries ++ [entry]).find? (fun entry => key entry == other) =
      if other = wanted then some entry
      else entries.find? (fun entry => key entry == other) := by
  rw [List.findIdx?_eq_none_iff] at absent
  rw [List.find?_append]
  by_cases same : other = wanted
  · subst same
    have missing : entries.find? (fun entry => key entry == other) = none := by
      rw [List.find?_eq_none]
      simpa using absent
    simp [missing, own]
  · simp [same, own, Ne.symm same]

theorem find_erase
    (position : entries.findIdx? (fun entry => key entry == wanted) = some index) {other : Key}
    (otherKey : other ≠ wanted) :
    (entries.eraseIdx index).find? (fun entry => key entry == other) =
      entries.find? (fun entry => key entry == other) := by
  induction entries generalizing index with
  | nil => simp at position
  | cons first rest ih =>
      rw [List.findIdx?_cons] at position
      by_cases here : key first = wanted
      · simp only [here, beq_self_eq_true, if_true, Option.some.injEq] at position
        subst position
        simp [here, Ne.symm otherKey]
      · simp only [beq_iff_eq, here, if_false] at position
        obtain ⟨inner, found, rfl⟩ := Option.map_eq_some_iff.mp position
        rw [List.eraseIdx_cons_succ, List.find?_cons, List.find?_cons, ih found]

/-! ## The entries under other keys -/

/-- The entries that are not under a key. -/
def others (key : Entry → Key) (entries : List Entry) (wanted : Key) : List Entry :=
  entries.filter fun entry => !(key entry == wanted)

omit [DecidableEq Key] in
theorem split_of_position
    (position : entries.findIdx? (fun entry => key entry == wanted) = some index) :
    ∃ before entry after, entries = before ++ entry :: after ∧ before.length = index
      ∧ key entry = wanted := by
  obtain ⟨within, own, -⟩ := List.findIdx?_eq_some_iff_getElem.mp position
  refine ⟨entries.take index, entries[index], entries.drop (index + 1), ?_,
    by rw [List.length_take]; omega, by simpa using own⟩
  rw [← List.drop_eq_getElem_cons within, List.take_append_drop]

omit [DecidableEq Key] in
theorem others_replace
    (position : entries.findIdx? (fun entry => key entry == wanted) = some index) {entry : Entry}
    (own : key entry = wanted) :
    others key (entries.set index entry) wanted = others key entries wanted := by
  obtain ⟨before, old, after, rfl, rfl, same⟩ := split_of_position position
  simp [others, own, same]

omit [DecidableEq Key] in
theorem others_append {entry : Entry} (own : key entry = wanted) :
    others key (entries ++ [entry]) wanted = others key entries wanted := by
  simp [others, own]

omit [DecidableEq Key] in
theorem others_erase
    (position : entries.findIdx? (fun entry => key entry == wanted) = some index) :
    others key (entries.eraseIdx index) wanted = others key entries wanted := by
  obtain ⟨before, entry, after, rfl, rfl, own⟩ := split_of_position position
  simp [others, own, List.eraseIdx_append_of_length_le]

omit [DecidableEq Key] in
/-- An entry that is taken out is missing under every other key. -/
theorem others_erase_ne
    (position : entries.findIdx? (fun entry => key entry == wanted) = some index) {other : Key}
    (otherKey : other ≠ wanted) :
    others key (entries.eraseIdx index) other ≠ others key entries other := by
  obtain ⟨before, entry, after, rfl, rfl, own⟩ := split_of_position position
  intro same
  have length := congrArg List.length same
  simp [others, own, Ne.symm otherKey, List.eraseIdx_append_of_length_le] at length

end HealthCheckFirmware.KeyedList
