import HealthCheckFirmware.Lib.Calendar
import HealthCheckFirmware.Monitor.CertificateWarning
import HealthCheckFirmware.Transport.TlsTransport

/-!
# Expiry dates of certificates

From the date in a certificate to what the log and the warnings make of it. The date is
converted by a closed formula, which is the count of the days in the calendar
(`x509TimeToUnix_eq`). The days that are left are rounded down on both sides of the
expiry (`daysLeft_eq`), and the log marks a certificate as expiring exactly if the
service would look at its last warning (`expiring_iff`).
-/

set_option autoImplicit false

namespace HealthCheckFirmware.TlsTransport

/-! ## The date -/

/-- The date of a time stamp. -/
def X509Time.date (value : X509Time) : Date := ⟨value.year, value.mon, value.day⟩

/-- A date and a time of day that exist. -/
structure X509Time.Valid (value : X509Time) : Prop where
  date : value.date.Valid
  hour : 0 ≤ value.hour ∧ value.hour ≤ 23
  min : 0 ≤ value.min ∧ value.min ≤ 59
  sec : 0 ≤ value.sec ∧ value.sec ≤ 59

/-- The seconds from the epoch to a time on the day of a number. -/
def X509Time.seconds (value : X509Time) (number : ℤ) : ℤ :=
  number * 86400 + value.hour * 3600 + value.min * 60 + value.sec

/-- The formula of the code for the number of a day. -/
def civilDays (date : Date) : ℤ :=
  let year := if date.month ≤ 2 then date.year - 1 else date.year
  let era := year / 400
  let yearOfEra := year - era * 400
  let shiftedMonth := if 2 < date.month then date.month - 3 else date.month + 9
  let dayOfYear := (153 * shiftedMonth + 2) / 5 + date.day - 1
  era * 146097 + (yearOfEra * 365 + yearOfEra / 4 - yearOfEra / 100 + dayOfYear) - 719468

/-- **The formula is the count of the days.** -/
theorem civilDays_eq {date : Date} (valid : date.Valid) : civilDays date = date.number := by
  obtain ⟨year, month, day⟩ := date
  obtain ⟨⟨lowMonth, highMonth⟩, -, -⟩ := valid
  dsimp only at lowMonth highMonth
  simp only [civilDays, Date.number, daysBeforeYear, daysBeforeMonth]
  rcases le_or_gt month 2 with early | late
  · rw [if_pos early, if_neg (by omega)]
    split
    · omega
    · rw [if_pos (by omega)]
      omega
  · rw [if_neg (by omega), if_pos late, if_neg (by omega), if_neg (by omega)]
    by_cases leap : IsLeap year
    · rw [if_pos leap]
      unfold IsLeap at leap
      omega
    · rw [if_neg leap]
      unfold IsLeap at leap
      omega

theorem daysInMonth_le (year month : ℤ) : daysInMonth year month ≤ 31 := by
  rw [daysInMonth]
  split
  · split
    · decide
    · decide
  split
  · decide
  · decide

/-- The years before 1970 lie before the epoch. -/
theorem number_neg {date : Date} (valid : date.Valid) (early : date.year < 1970) :
    date.number < 0 := by
  have bounds := valid.number_bounds
  have order := @daysBeforeYear_mono (date.year + 1) 1970 (by omega)
  have start : daysBeforeYear 1970 = 719162 := by decide
  omega

/-- **A date is converted to the seconds since the epoch**, or to zero if they do not fit. -/
theorem x509TimeToUnix_eq {value : X509Time} (valid : value.Valid) {number : ℤ}
    (counted : DayNumber value.date number) :
    ((x509TimeToUnix value).toNat : ℤ) =
      if 1 ≤ value.seconds number ∧ value.seconds number ≤ 2 ^ 32 - 1 then value.seconds number
      else 0 := by
  obtain ⟨validDate, hour, min, sec⟩ := valid
  obtain ⟨-, isNumber⟩ := counted.number_eq
  have formula := (civilDays_eq validDate).trans isNumber
  by_cases early : value.year < 1970
  · have negative := number_neg validDate early
    rw [x509TimeToUnix, if_pos (Or.inl early), if_neg]
    · rfl
    · unfold X509Time.seconds
      omega
  · obtain ⟨⟨lowMonth, highMonth⟩, lowDay, highDay⟩ := validDate
    have short := daysInMonth_le value.year value.mon
    dsimp only [X509Time.date] at lowMonth highMonth lowDay highDay
    have converts : x509TimeToUnix value =
        if 0 < value.seconds (civilDays value.date) ∧
            value.seconds (civilDays value.date) ≤ 4294967295 then
          UInt32.ofNat (value.seconds (civilDays value.date)).toNat
        else 0 := by
      rw [x509TimeToUnix, if_neg (by omega)]
      rfl
    rw [converts, formula]
    generalize value.seconds number = seconds
    split
    · rename_i inRange
      rw [if_pos (by omega), UInt32.toNat_ofNat_of_lt' (by show seconds.toNat < 2 ^ 32; omega)]
      omega
    · rename_i outOfRange
      rw [if_neg (by omega)]
      rfl

end HealthCheckFirmware.TlsTransport

namespace HealthCheckFirmware.HealthCheckLog

/-! ## The log -/

variable {expiresAt timestamp : UInt32}

/-- **The days that are left are rounded down**, before and after the expiry. -/
theorem daysLeft_eq (known : 0 < expiresAt) :
    (daysLeft expiresAt timestamp).toInt =
      ((expiresAt.toNat : ℤ) - timestamp.toNat) / 86400 := by
  have positive : expiresAt ≠ 0 := fun zero => absurd known (by rw [zero]; decide)
  have small := expiresAt.toNat_lt
  have smallTime := timestamp.toNat_lt
  rw [daysLeft, if_neg positive]
  split
  · rename_i overdue
    have past := UInt32.toNat_sub_of_le _ _ overdue
    rw [UInt32.le_iff_toNat_le] at overdue
    have few : ((timestamp - expiresAt).toNat + 86399) / 86400 < 2 ^ 31 := by omega
    rw [Int32.toInt_neg, Int32.toInt_ofNat_of_lt few, Int.bmod_eq_of_le (by omega) (by omega), past]
    omega
  · rename_i remaining
    have future := UInt32.toNat_sub_of_le _ _ (UInt32.le_of_lt (UInt32.not_le.mp remaining))
    rw [UInt32.not_le, UInt32.lt_iff_toNat_lt] at remaining
    have few : (expiresAt - timestamp).toNat / 86400 < 2 ^ 31 := by omega
    rw [Int32.toInt_ofNat_of_lt few, future]
    omega

/-- The log marks a certificate in the last ten days before its expiry. -/
theorem expiring_eq_one_iff (known : 0 < expiresAt) :
    expiring expiresAt timestamp = 1 ↔
      0 < (expiresAt.toNat : ℤ) - timestamp.toNat ∧
        (expiresAt.toNat : ℤ) - timestamp.toNat < 864000 := by
  have positive : expiresAt ≠ 0 := fun zero => absurd known (by rw [zero]; decide)
  have window : expiringSeconds.toNat = 864000 := rfl
  rw [expiring]
  by_cases later : timestamp < expiresAt
  · have future := UInt32.toNat_sub_of_le _ _ (UInt32.le_of_lt later)
    have order := UInt32.lt_iff_toNat_lt.mp later
    by_cases soon : expiresAt - timestamp < expiringSeconds
    · have within := UInt32.lt_iff_toNat_lt.mp soon
      rw [if_pos ⟨positive, later, soon⟩]
      exact ⟨fun _ => by omega, fun _ => rfl⟩
    · have beyond := mt UInt32.lt_iff_toNat_lt.mpr soon
      rw [if_neg fun all => soon all.2.2]
      exact ⟨fun marked => absurd marked (by decide), fun inside => by omega⟩
  · have order := mt UInt32.lt_iff_toNat_lt.mpr later
    rw [if_neg fun all => later all.2.1]
    exact ⟨fun marked => absurd marked (by decide), fun inside => by omega⟩

end HealthCheckFirmware.HealthCheckLog

namespace HealthCheckFirmware.HealthCheckService

/-! ## The warnings -/

/-- **The log marks what the service warns about.** -/
theorem expiring_iff (expiresAt timestamp : UInt32) :
    HealthCheckLog.expiring expiresAt timestamp = 1 ↔ Expiring expiresAt timestamp := by
  have sameWindow : HealthCheckLog.expiringSeconds = warningWindow := rfl
  have marked : HealthCheckLog.expiring expiresAt timestamp = 1 ↔
      expiresAt ≠ 0 ∧ timestamp < expiresAt ∧ expiresAt - timestamp < warningWindow := by
    rw [HealthCheckLog.expiring, sameWindow]
    split
    · rename_i all
      exact ⟨fun _ => all, fun _ => rfl⟩
    · rename_i notAll
      exact ⟨fun one => absurd one (by decide), fun all => absurd all notAll⟩
  rw [marked, Expiring, not_or, not_or, UInt32.not_le, UInt32.not_le]

/-- **Certificate expiry from end to end.** Every date and time of the calendar is converted
to the seconds that a count of its days gives, if these are positive and fit 32 bits, and
to zero otherwise. For every known expiry and every time of a check, the record has the
days that are left, rounded down, and is marked exactly in the last ten days before the
expiry, which is exactly when the check looks at its last warning. -/
theorem expiry_exact :
    (∀ value : TlsTransport.X509Time, value.Valid →
      (∃ number, DayNumber value.date number) ∧
        ∀ number, DayNumber value.date number →
          ((TlsTransport.x509TimeToUnix value).toNat : ℤ) =
            if 1 ≤ value.seconds number ∧ value.seconds number ≤ 2 ^ 32 - 1 then
              value.seconds number
            else 0) ∧
      ∀ (check : HealthCheckLog.Check) (sequence : UInt32),
        0 < check.result.certificateExpiresAt →
          (HealthCheckLog.newBody check sequence).certificateDaysLeft.toInt =
              ((check.result.certificateExpiresAt.toNat : ℤ) - check.timestampUnix.toNat) / 86400 ∧
            ((HealthCheckLog.newBody check sequence).certificateExpiring = 1 ↔
              0 < (check.result.certificateExpiresAt.toNat : ℤ) - check.timestampUnix.toNat ∧
                (check.result.certificateExpiresAt.toNat : ℤ) - check.timestampUnix.toNat <
                  864000) ∧
            ((HealthCheckLog.newBody check sequence).certificateExpiring = 1 ↔
              Expiring check.result.certificateExpiresAt check.timestampUnix) := by
  constructor
  · intro value valid
    exact ⟨⟨_, dayNumber_number valid.date⟩, fun number counted =>
      TlsTransport.x509TimeToUnix_eq valid counted⟩
  · intro check sequence known
    exact ⟨HealthCheckLog.daysLeft_eq known, HealthCheckLog.expiring_eq_one_iff known,
      expiring_iff _ _⟩

/-- The last day of February 2000, a leap year of the calendar. -/
def leapDay : TlsTransport.X509Time := ⟨2000, 2, 29, 12, 0, 0⟩

theorem expiry_exact_leapDay :
    leapDay.Valid ∧ DayNumber leapDay.date 11016 ∧
      ((TlsTransport.x509TimeToUnix leapDay).toNat : ℤ) = 11016 * 86400 + 12 * 3600 := by
  have valid : leapDay.Valid := ⟨⟨by decide, by decide⟩, by decide, by decide, by decide⟩
  obtain ⟨converts, -⟩ := expiry_exact
  have counted : DayNumber leapDay.date 11016 := dayNumber_number valid.date
  exact ⟨valid, counted, ((converts leapDay valid).2 11016 counted).trans (by decide)⟩

end HealthCheckFirmware.HealthCheckService
