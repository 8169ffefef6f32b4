import Mathlib.Data.List.Basic
import Mathlib.Order.Basic

/-!
# Scanning a run of write-once slots

A sector of an append-only log is a run of slots. Each slot reads as erased, as
torn or as a valid record, so that a sector is seen as a function from slot
numbers to readings.

A scan goes up from slot 0 and stops at the first slot that reads as erased
(`frontier`). It sees the records below that slot only. What it sees is all the
sector holds exactly when no valid record lies above an erased slot (`Gapless`,
`records_frontier`).
-/

set_option autoImplicit false

namespace HealthCheckFirmware

/-- What one slot reads as. -/
inductive Reading (Record : Type) where
  | erased
  | torn
  | valid (record : Record)
  deriving DecidableEq

namespace Reading

variable {Record : Type}

def isErased : Reading Record → Bool
  | .erased => true
  | _ => false

def record? : Reading Record → Option Record
  | .valid record => some record
  | _ => none

@[simp] theorem record?_erased : (Reading.erased : Reading Record).record? = none := rfl

@[simp] theorem record?_torn : (Reading.torn : Reading Record).record? = none := rfl

@[simp] theorem record?_valid (record : Record) : (Reading.valid record).record? = some record :=
  rfl

theorem isErased_iff {reading : Reading Record} : reading.isErased = true ↔ reading = .erased := by
  cases reading <;> simp [isErased]

theorem record?_eq_some {reading : Reading Record} {record : Record} :
    reading.record? = some record ↔ reading = .valid record := by
  cases reading <;> simp [record?]

end Reading

namespace SlotScan

variable {Record : Type}

/-! ## The records of a run of slots -/

/-- The valid records in `count` slots from `slot` on, in slot order. -/
def recordsFrom (view : ℕ → Reading Record) : (slot count : ℕ) → List Record
  | _, 0 => []
  | slot, count + 1 => (view slot).record?.toList ++ recordsFrom view (slot + 1) count

/-- The valid records in the first `count` slots. -/
def records (view : ℕ → Reading Record) (count : ℕ) : List Record := recordsFrom view 0 count

theorem recordsFrom_add (view : ℕ → Reading Record) (slot first second : ℕ) :
    recordsFrom view slot (first + second) =
      recordsFrom view slot first ++ recordsFrom view (slot + first) second := by
  induction first generalizing slot with
  | zero => simp [recordsFrom]
  | succ first ih =>
      have shift : slot + 1 + first = slot + (first + 1) := by omega
      rw [Nat.succ_add, recordsFrom, ih, recordsFrom, List.append_assoc, shift]

theorem records_succ (view : ℕ → Reading Record) (count : ℕ) :
    records view (count + 1) = records view count ++ (view count).record?.toList := by
  rw [records, recordsFrom_add, Nat.zero_add]
  simp [recordsFrom, records]

theorem mem_records {view : ℕ → Reading Record} {count : ℕ} {record : Record} :
    record ∈ records view count ↔ ∃ slot < count, view slot = .valid record := by
  induction count with
  | zero => simp [records, recordsFrom]
  | succ count ih =>
      rw [records_succ, List.mem_append, ih, Option.mem_toList, Reading.record?_eq_some]
      constructor
      · rintro (⟨slot, below, reads⟩ | reads)
        · exact ⟨slot, Nat.lt_succ_of_lt below, reads⟩
        · exact ⟨count, Nat.lt_succ_self count, reads⟩
      · rintro ⟨slot, below, reads⟩
        rcases Nat.lt_succ_iff_lt_or_eq.mp below with earlier | rfl
        · exact .inl ⟨slot, earlier, reads⟩
        · exact .inr reads

theorem records_eq_nil {view : ℕ → Reading Record} {count : ℕ} :
    records view count = [] ↔ ∀ slot < count, (view slot).record? = none := by
  rw [List.eq_nil_iff_forall_not_mem]
  constructor
  · intro none slot below
    cases reads : view slot with
    | valid record => exact absurd (mem_records.mpr ⟨slot, below, reads⟩) (none record)
    | _ => rfl
  · intro silent record member
    obtain ⟨slot, below, reads⟩ := mem_records.mp member
    have silentThere := silent slot below
    rw [reads] at silentThere
    cases silentThere

theorem records_congr {view view' : ℕ → Reading Record} {count : ℕ}
    (agree : ∀ slot < count, view slot = view' slot) :
    records view count = records view' count := by
  induction count with
  | zero => rfl
  | succ count ih =>
      rw [records_succ, records_succ, ih fun slot below => agree slot (Nat.lt_succ_of_lt below),
        agree count (Nat.lt_succ_self count)]

theorem length_records_le (view : ℕ → Reading Record) (count : ℕ) :
    (records view count).length ≤ count := by
  induction count with
  | zero => exact Nat.le_refl 0
  | succ count ih =>
      have one : (view count).record?.toList.length ≤ 1 := by
        cases (view count).record? <;> simp
      rw [records_succ, List.length_append]
      exact Nat.add_le_add ih one

/-- Slots without a valid record add nothing. -/
theorem records_of_silent {view : ℕ → Reading Record} {first size : ℕ} (within : first ≤ size)
    (silent : ∀ slot, first ≤ slot → slot < size → (view slot).record? = none) :
    records view size = records view first := by
  obtain ⟨extra, rfl⟩ := Nat.exists_eq_add_of_le within
  induction extra with
  | zero => rfl
  | succ extra ih =>
      have rest := ih (Nat.le_add_right first extra) fun slot above below =>
        silent slot above (Nat.lt_succ_of_lt below)
      rw [Nat.add_succ, records_succ, silent _ (Nat.le_add_right first extra) (by omega), rest]
      simp

/-- A sector that lost some of its records, and gained none, holds fewer of them
in the same order. -/
theorem records_sublist {view view' : ℕ → Reading Record} {count : ℕ}
    (fewer : ∀ slot < count, ∀ record, view' slot = .valid record → view slot = .valid record) :
    (records view' count).Sublist (records view count) := by
  induction count with
  | zero => exact List.Sublist.refl _
  | succ count ih =>
      rw [records_succ, records_succ]
      refine (ih fun slot below => fewer slot (Nat.lt_succ_of_lt below)).append ?_
      cases reads : view' count with
      | valid record => rw [fewer count (Nat.lt_succ_self count) record reads]
      | _ => exact List.nil_sublist _

/-- Writing one slot, above which and at which there was no record, appends what
the slot then reads as. -/
theorem records_write {view view' : ℕ → Reading Record} {slot size : ℕ} (within : slot < size)
    (same : ∀ other, other ≠ slot → view' other = view other)
    (silent : ∀ other, slot ≤ other → other < size → (view other).record? = none) :
    records view' size = records view size ++ (view' slot).record?.toList := by
  have below : records view' slot = records view slot :=
    records_congr fun other lower => same other (Nat.ne_of_lt lower)
  have above : records view' size = records view' (slot + 1) :=
    records_of_silent within fun other higher bound => by
      rw [same other (Nat.ne_of_gt higher)]
      exact silent other (Nat.le_of_succ_le higher) bound
  rw [above, records_succ, below, records_of_silent (Nat.le_of_lt within) silent]

/-! ## Where a scan stops -/

/-- The number of slots from `slot` on before the first that reads as erased. -/
def leading (view : ℕ → Reading Record) : (slot remaining : ℕ) → ℕ
  | _, 0 => 0
  | slot, remaining + 1 =>
      if (view slot).isErased then 0 else leading view (slot + 1) remaining + 1

/-- The first slot that reads as erased, or the number of slots. -/
def frontier (view : ℕ → Reading Record) (size : ℕ) : ℕ := leading view 0 size

theorem leading_le (view : ℕ → Reading Record) (slot remaining : ℕ) :
    leading view slot remaining ≤ remaining := by
  induction remaining generalizing slot with
  | zero => exact Nat.le_refl 0
  | succ remaining ih =>
      rw [leading]
      split
      · exact Nat.zero_le _
      · exact Nat.succ_le_succ (ih (slot + 1))

theorem not_erased_of_leading (view : ℕ → Reading Record) (slot remaining offset : ℕ)
    (below : offset < leading view slot remaining) : view (slot + offset) ≠ .erased := by
  induction remaining generalizing slot offset with
  | zero => exact absurd below (Nat.not_lt_zero offset)
  | succ remaining ih =>
      rw [leading] at below
      split at below
      · exact absurd below (Nat.not_lt_zero offset)
      · rename_i used
        cases offset with
        | zero => exact fun reads => used (Reading.isErased_iff.mpr reads)
        | succ offset =>
            have shift : slot + 1 + offset = slot + (offset + 1) := by omega
            rw [← shift]
            exact ih (slot + 1) offset (Nat.lt_of_succ_lt_succ below)

theorem erased_of_leading (view : ℕ → Reading Record) (slot remaining : ℕ)
    (stops : leading view slot remaining < remaining) :
    view (slot + leading view slot remaining) = .erased := by
  induction remaining generalizing slot with
  | zero => exact absurd stops (Nat.not_lt_zero _)
  | succ remaining ih =>
      rw [leading] at stops ⊢
      split at stops
      · rename_i blank
        rw [if_pos blank]
        exact Reading.isErased_iff.mp blank
      · rename_i used
        rw [if_neg used]
        have shift : slot + (leading view (slot + 1) remaining + 1) =
            slot + 1 + leading view (slot + 1) remaining := by omega
        rw [shift]
        exact ih (slot + 1) (Nat.lt_of_succ_lt_succ stops)

theorem frontier_le (view : ℕ → Reading Record) (size : ℕ) : frontier view size ≤ size :=
  leading_le view 0 size

theorem not_erased_below_frontier {view : ℕ → Reading Record} {size slot : ℕ}
    (below : slot < frontier view size) : view slot ≠ .erased := by
  have used := not_erased_of_leading view 0 size slot below
  rwa [Nat.zero_add] at used

theorem erased_at_frontier {view : ℕ → Reading Record} {size : ℕ}
    (stops : frontier view size < size) : view (frontier view size) = .erased := by
  have blank := erased_of_leading view 0 size stops
  rwa [Nat.zero_add] at blank

theorem frontier_le_of_erased {view : ℕ → Reading Record} {size slot : ℕ}
    (blank : view slot = .erased) : frontier view size ≤ slot := by
  rcases Nat.lt_or_ge slot (frontier view size) with below | above
  · exact absurd blank (not_erased_below_frontier below)
  · exact above

/-- The frontier is known from the slots on both sides of it. -/
theorem frontier_eq {view : ℕ → Reading Record} {size slot : ℕ} (within : slot ≤ size)
    (used : ∀ other < slot, view other ≠ .erased)
    (blank : slot < size → view slot = .erased) : frontier view size = slot := by
  rcases Nat.lt_trichotomy (frontier view size) slot with below | same | above
  · exact absurd (erased_at_frontier (Nat.lt_of_lt_of_le below within)) (used _ below)
  · exact same
  · have room : slot < size := Nat.lt_of_lt_of_le above (frontier_le view size)
    exact absurd (blank room) (not_erased_below_frontier above)

/-! ## Gaps -/

/-- No valid record lies above a slot that reads as erased. -/
def Gapless (view : ℕ → Reading Record) (size : ℕ) : Prop :=
  ∀ lower upper, lower < upper → upper < size → view lower = .erased →
    (view upper).record? = none

theorem Gapless.silent {view : ℕ → Reading Record} {size : ℕ} (gapless : Gapless view size) :
    ∀ slot, frontier view size ≤ slot → slot < size → (view slot).record? = none := by
  intro slot above within
  have stops : frontier view size < size := Nat.lt_of_le_of_lt above within
  have blank := erased_at_frontier stops
  rcases Nat.lt_or_eq_of_le above with higher | same
  · exact gapless _ slot higher within blank
  · rw [← same, blank]
    rfl

/-- **A scan of a gapless sector sees every record in it.** -/
theorem records_frontier {view : ℕ → Reading Record} {size : ℕ} (gapless : Gapless view size) :
    records view (frontier view size) = records view size :=
  (records_of_silent (frontier_le view size) gapless.silent).symm

/-- In any sector, a scan sees records of the sector. -/
theorem records_frontier_subset (view : ℕ → Reading Record) (size : ℕ) :
    records view (frontier view size) ⊆ records view size := by
  intro record seen
  obtain ⟨slot, below, reads⟩ := mem_records.mp seen
  exact mem_records.mpr ⟨slot, Nat.lt_of_lt_of_le below (frontier_le view size), reads⟩

theorem gapless_of_records_eq_nil {view : ℕ → Reading Record} {size : ℕ}
    (empty : records view size = []) : Gapless view size :=
  fun _ upper _ within _ => records_eq_nil.mp empty upper within

/-- A sector whose used slots all read as used, with no record above them. -/
theorem gapless_of_used {view : ℕ → Reading Record} {size slot : ℕ}
    (used : ∀ other < slot, view other ≠ .erased)
    (silent : ∀ other, slot < other → other < size → (view other).record? = none) :
    Gapless view size := by
  intro lower upper higher within blank
  rcases Nat.lt_or_ge lower slot with below | above
  · exact absurd blank (used lower below)
  · exact silent upper (Nat.lt_of_le_of_lt above higher) within

end SlotScan

end HealthCheckFirmware
