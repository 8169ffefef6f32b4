import Mathlib.Tactic.IntervalCases
import Mathlib.Tactic.Ring

/-!
# The Gregorian calendar, day by day

Each date has a next one, by the lengths of the months and the rule of leap years.
Counting from the first day of 1970, forwards and backwards, gives every date its day
number (`DayNumber`, `dayNumber_number`). The closed form `number` agrees with the count,
because it grows by one from each date to the next (`number_next`).
-/

set_option autoImplicit false

namespace HealthCheckFirmware

/-! ## Dates -/

structure Date where
  year : ℤ
  month : ℤ
  day : ℤ
  deriving DecidableEq

/-- A year is a leap year if four divides it, except for the centuries that 400 does not
divide. -/
def IsLeap (year : ℤ) : Prop := year % 4 = 0 ∧ (year % 100 ≠ 0 ∨ year % 400 = 0)

instance (year : ℤ) : Decidable (IsLeap year) := inferInstanceAs (Decidable (_ ∧ _))

/-- The number of days of a month. -/
def daysInMonth (year month : ℤ) : ℤ :=
  if month = 2 then if IsLeap year then 29 else 28
  else if month = 4 ∨ month = 6 ∨ month = 9 ∨ month = 11 then 30
  else 31

structure Date.Valid (date : Date) : Prop where
  month : 1 ≤ date.month ∧ date.month ≤ 12
  day : 1 ≤ date.day ∧ date.day ≤ daysInMonth date.year date.month

/-- The day after. -/
def Date.next (date : Date) : Date :=
  if date.day < daysInMonth date.year date.month then ⟨date.year, date.month, date.day + 1⟩
  else if date.month < 12 then ⟨date.year, date.month + 1, 1⟩
  else ⟨date.year + 1, 1, 1⟩

/-- The first of January 1970. -/
def epoch : Date := ⟨1970, 1, 1⟩

/-- The number of a day, counted from the epoch. -/
inductive DayNumber : Date → ℤ → Prop
  | epoch : DayNumber epoch 0
  | next {date : Date} {number : ℤ} (counted : DayNumber date number) :
      DayNumber date.next (number + 1)
  | previous {date : Date} {number : ℤ} (valid : date.Valid)
      (counted : DayNumber date.next (number + 1)) : DayNumber date number

/-! ## The closed form -/

/-- The days of the years before a year, from the year 1 on. -/
def daysBeforeYear (year : ℤ) : ℤ :=
  365 * (year - 1) + (year - 1) / 4 - (year - 1) / 100 + (year - 1) / 400

/-- The days of a year before a month. -/
def daysBeforeMonth (year month : ℤ) : ℤ :=
  if month = 1 then 0
  else if month = 2 then 31
  else (153 * (month - 3) + 2) / 5 + 59 + if IsLeap year then 1 else 0

/-- The number of a day in closed form. -/
def Date.number (date : Date) : ℤ :=
  daysBeforeYear date.year + daysBeforeMonth date.year date.month + date.day - 1 - 719162

theorem daysInMonth_pos (year month : ℤ) : 28 ≤ daysInMonth year month := by
  rw [daysInMonth]
  split
  · split
    · decide
    · decide
  split
  · decide
  · decide

theorem daysBeforeYear_succ (year : ℤ) :
    daysBeforeYear (year + 1) = daysBeforeYear year + if IsLeap year then 366 else 365 := by
  by_cases leap : IsLeap year
  · rw [if_pos leap]
    unfold IsLeap at leap
    unfold daysBeforeYear
    omega
  · rw [if_neg leap]
    unfold IsLeap at leap
    unfold daysBeforeYear
    omega

/-- A month ends where the next one begins. -/
theorem daysBeforeMonth_succ {year month : ℤ} (low : 1 ≤ month) (high : month < 12) :
    daysBeforeMonth year (month + 1) = daysBeforeMonth year month + daysInMonth year month := by
  by_cases leap : IsLeap year
  · simp only [daysBeforeMonth, daysInMonth, leap, if_true]
    interval_cases month <;> decide
  · simp only [daysBeforeMonth, daysInMonth, leap, if_false]
    interval_cases month <;> decide

theorem daysBeforeMonth_december (year : ℤ) :
    daysBeforeMonth year 12 + daysInMonth year 12 = if IsLeap year then 366 else 365 := by
  by_cases leap : IsLeap year
  · simp [daysBeforeMonth, daysInMonth, leap]
  · simp [daysBeforeMonth, daysInMonth, leap]

theorem Date.Valid.next {date : Date} (valid : date.Valid) : date.next.Valid := by
  obtain ⟨⟨lowMonth, highMonth⟩, lowDay, highDay⟩ := valid
  rw [Date.next]
  split
  · exact ⟨⟨lowMonth, highMonth⟩, by dsimp only; omega, by dsimp only; omega⟩
  split
  · have long := daysInMonth_pos date.year (date.month + 1)
    exact ⟨⟨by dsimp only; omega, by dsimp only; omega⟩, le_rfl, by dsimp only; omega⟩
  · have long := daysInMonth_pos (date.year + 1) 1
    exact ⟨⟨le_rfl, by dsimp only; omega⟩, le_rfl, by dsimp only; omega⟩

/-- **The closed form counts the days.** -/
theorem Date.number_next {date : Date} (valid : date.Valid) : date.next.number = date.number + 1 := by
  obtain ⟨⟨lowMonth, highMonth⟩, lowDay, highDay⟩ := valid
  rw [Date.next]
  split
  · simp only [Date.number]
    omega
  split
  · rename_i last notDecember
    have month := @daysBeforeMonth_succ date.year date.month lowMonth notDecember
    simp only [Date.number]
    omega
  · rename_i last december
    have isDecember : date.month = 12 := by omega
    have year := daysBeforeYear_succ date.year
    have whole := daysBeforeMonth_december date.year
    have january : daysBeforeMonth (date.year + 1) 1 = 0 := rfl
    rw [isDecember] at last highDay
    simp only [Date.number, isDecember, january]
    omega

/-! ## Counting -/

theorem epoch_valid : epoch.Valid := ⟨by decide, by decide⟩

/-- What is counted is in the calendar, and the count is the closed form. -/
theorem DayNumber.number_eq {date : Date} {number : ℤ} (counted : DayNumber date number) :
    date.Valid ∧ date.number = number := by
  induction counted with
  | epoch => exact ⟨epoch_valid, by decide⟩
  | next _ ih => exact ⟨ih.1.next, by rw [Date.number_next ih.1, ih.2]⟩
  | previous valid _ ih =>
      have next := Date.number_next valid
      exact ⟨valid, by omega⟩

/-- The day before. -/
def Date.before (date : Date) : Date :=
  if 1 < date.day then ⟨date.year, date.month, date.day - 1⟩
  else if 1 < date.month then ⟨date.year, date.month - 1, daysInMonth date.year (date.month - 1)⟩
  else ⟨date.year - 1, 12, 31⟩

theorem Date.Valid.before {date : Date} (valid : date.Valid) :
    date.before.Valid ∧ date.before.next = date := by
  obtain ⟨year, month, day⟩ := date
  obtain ⟨⟨lowMonth, highMonth⟩, lowDay, highDay⟩ := valid
  dsimp only at lowMonth highMonth lowDay highDay
  rw [Date.before]
  dsimp only
  split
  · refine ⟨⟨⟨lowMonth, highMonth⟩, by dsimp only; omega, by dsimp only; omega⟩, ?_⟩
    rw [Date.next, if_pos (by dsimp only; omega), Int.sub_add_cancel]
  split
  · have first : day = 1 := by omega
    have long := daysInMonth_pos year (month - 1)
    refine ⟨⟨⟨by dsimp only; omega, by dsimp only; omega⟩, by dsimp only; omega, le_rfl⟩, ?_⟩
    rw [Date.next, if_neg (by dsimp only; omega), if_pos (by dsimp only; omega), first,
      Int.sub_add_cancel]
  · have first : day = 1 := by omega
    have january : month = 1 := by omega
    have december : daysInMonth (year - 1) 12 = 31 := rfl
    refine ⟨⟨⟨by dsimp only; omega, le_rfl⟩, by dsimp only; omega, ?_⟩, ?_⟩
    · dsimp only
      rw [december]
    · rw [Date.next, if_neg (by dsimp only; omega), if_neg (by dsimp only; omega), first, january,
        Int.sub_add_cancel]

/-- A day of a year has less than a year before it in the year. -/
theorem Date.Valid.number_bounds {date : Date} (valid : date.Valid) :
    daysBeforeYear date.year - 719162 ≤ date.number ∧
      date.number < daysBeforeYear (date.year + 1) - 719162 := by
  obtain ⟨year, month, day⟩ := date
  obtain ⟨⟨lowMonth, highMonth⟩, lowDay, highDay⟩ := valid
  dsimp only at lowMonth highMonth lowDay highDay
  have next := daysBeforeYear_succ year
  simp only [Date.number]
  by_cases leap : IsLeap year
  · simp only [daysBeforeMonth, daysInMonth, leap, if_true] at highDay next ⊢
    interval_cases month <;> simp at highDay ⊢ <;> omega
  · simp only [daysBeforeMonth, daysInMonth, leap, if_false] at highDay next ⊢
    interval_cases month <;> simp at highDay ⊢ <;> omega

theorem daysBeforeYear_mono {first second : ℤ} (order : first ≤ second) :
    daysBeforeYear first ≤ daysBeforeYear second := by
  unfold daysBeforeYear
  omega

/-- Only the epoch has the number zero. -/
theorem Date.Valid.eq_epoch {date : Date} (valid : date.Valid) (zero : date.number = 0) :
    date = epoch := by
  have bounds := valid.number_bounds
  have year : date.year = 1970 := by
    have start : daysBeforeYear 1970 = 719162 := by decide
    have stop : daysBeforeYear 1971 = 719527 := by decide
    rcases Int.lt_trichotomy date.year 1970 with early | same | late
    · have order := @daysBeforeYear_mono (date.year + 1) 1970 (by omega)
      omega
    · exact same
    · have order := @daysBeforeYear_mono 1971 date.year (by omega)
      omega
  obtain ⟨_, month, day⟩ := date
  subst year
  obtain ⟨⟨lowMonth, highMonth⟩, lowDay, highDay⟩ := valid
  dsimp only at lowMonth highMonth lowDay highDay
  have start : daysBeforeYear 1970 = 719162 := by decide
  have common : ¬ IsLeap 1970 := by decide
  simp only [Date.number, start, daysBeforeMonth, common, if_false] at zero
  have january : month = 1 := by
    by_contra other
    rw [if_neg other] at zero
    split at zero
    · omega
    · omega
  subst january
  have first : day = 1 := by
    simp at zero
    omega
  rw [first]
  rfl

/-- **Every date of the calendar is counted**, with its closed form. -/
theorem dayNumber_number {date : Date} (valid : date.Valid) : DayNumber date date.number := by
  induction distance : date.number.natAbs generalizing date with
  | zero =>
      have zero : date.number = 0 := by omega
      rw [zero, valid.eq_epoch zero]
      exact .epoch
  | succ distance ih =>
      rcases lt_or_ge date.number 0 with negative | positive
      · have next := Date.number_next valid
        have counted := ih valid.next (by omega)
        rw [next] at counted
        exact .previous valid counted
      · obtain ⟨validBefore, back⟩ := valid.before
        have next := Date.number_next validBefore
        rw [back] at next
        have counted := (ih validBefore (by omega)).next
        rwa [back, ← next] at counted

/-! ## Counting from the epoch -/

/-- The date so many days after the epoch. -/
def dateAfter : ℕ → Date
  | 0 => epoch
  | days + 1 => (dateAfter days).next

theorem dateAfter_spec (days : ℕ) :
    (dateAfter days).Valid ∧ DayNumber (dateAfter days) days ∧ 1970 ≤ (dateAfter days).year := by
  induction days with
  | zero => exact ⟨epoch_valid, .epoch, by decide⟩
  | succ days ih =>
      obtain ⟨valid, number, year⟩ := ih
      refine ⟨valid.next, number.next, ?_⟩
      rw [dateAfter, Date.next]
      split
      · exact year
      · split
        · exact year
        · exact Int.le_add_one year

end HealthCheckFirmware
