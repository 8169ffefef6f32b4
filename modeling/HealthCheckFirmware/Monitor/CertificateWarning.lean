import HealthCheckFirmware.Storage.HealthCheckConfig

/-!
# Warnings about certificates

`healthCheckService_WarnCertificate` remembers for each resource slot one expiry and the
time of the last warning. A warning is put off while the remembered one is less than an
hour old; but a check that sees another expiry forgets it, and a warning at time zero is
not remembered at all, because zero stands for no warning.

So warnings for one slot and one expiry are an hour apart, whatever the buzzer does,
exactly if the checks of a slot do not come back to an expiry within the hour after
having seen another one (`rateLimited_iff`).
-/

set_option autoImplicit false

namespace HealthCheckFirmware.HealthCheckService

/-! ## The service -/

/-- `CERTIFICATE_WARNING_WINDOW_SECONDS`. -/
def warningWindow : UInt32 := 10 * 24 * 60 * 60

/-- `CERTIFICATE_WARNING_PERIOD_SECONDS`. -/
def warningPeriod : UInt32 := 60 * 60

/-- What is remembered of a slot: `certificateWarningExpiry` and `certificateWarningAt`. -/
structure Remembered where
  expiry : UInt32
  warnedAt : UInt32
  deriving DecidableEq

/-- The expiry lies within the window of warnings. -/
def Expiring (expiresAt now : UInt32) : Prop :=
  ¬ (expiresAt = 0 ∨ expiresAt ≤ now ∨ warningWindow ≤ expiresAt - now)

instance (expiresAt now : UInt32) : Decidable (Expiring expiresAt now) :=
  inferInstanceAs (Decidable (¬ _))

/-- What is remembered once the expiry of a check is known. -/
def Remembered.noting (remembered : Remembered) (expiresAt : UInt32) : Remembered :=
  if remembered.expiry ≠ expiresAt then ⟨expiresAt, 0⟩ else remembered

/-- The last warning is too recent for another one. -/
def Remembered.Recent (remembered : Remembered) (now : UInt32) : Prop :=
  remembered.warnedAt ≠ 0 ∧ now - remembered.warnedAt < warningPeriod

instance (remembered : Remembered) (now : UInt32) : Decidable (remembered.Recent now) :=
  inferInstanceAs (Decidable (_ ∧ _))

/-- `healthCheckService_WarnCertificate` on what is remembered of its slot: what is then
remembered, and whether a warning was queued. `passes` is the result of
`BuzzerService_CertificateWarning`. -/
def warnCertificate (remembered : Remembered) (expiresAt now : UInt32) (passes : Bool) :
    Remembered × Bool :=
  if Expiring expiresAt now then
    let noted := remembered.noting expiresAt
    if noted.Recent now then (noted, false)
    else if passes then (⟨noted.expiry, now⟩, true)
    else (noted, false)
  else (remembered, false)

/-- What `healthCheckService_CheckResource` has found for a slot. -/
structure Check where
  index : Fin HealthCheckConfig.maxResources
  healthy : Bool
  expiresAt : UInt32
  checkedAt : UInt32

/-- The memory of the service. -/
abbrev Memory := Fin HealthCheckConfig.maxResources → Remembered

/-- The part of `healthCheckService_CheckResource` that warns. -/
def checkResource (memory : Memory) (check : Check) (passes : Bool) : Memory × Bool :=
  if check.healthy then
    let warned := warnCertificate (memory check.index) check.expiresAt check.checkedAt passes
    (Function.update memory check.index warned.1, warned.2)
  else (memory, false)

/-- The memory after a number of checks. All of it is zero at first. -/
def memoryAfter (checks : ℕ → Check) (passes : ℕ → Bool) : ℕ → Memory
  | 0 => fun _ => ⟨0, 0⟩
  | count + 1 =>
      (checkResource (memoryAfter checks passes count) (checks count) (passes count)).1

/-- A check queues a warning. -/
def Warns (checks : ℕ → Check) (passes : ℕ → Bool) (count : ℕ) : Prop :=
  (checkResource (memoryAfter checks passes count) (checks count) (passes count)).2 = true

/-! ## The rule -/

/-- The times of the checks of each slot do not decrease. -/
def Ordered (checks : ℕ → Check) : Prop :=
  ∀ first second, first ≤ second → (checks first).index = (checks second).index →
    (checks first).checkedAt ≤ (checks second).checkedAt

/-- Two warnings for the same slot and the same expiry are an hour apart at least. -/
def RateLimited (checks : ℕ → Check) (passes : ℕ → Bool) : Prop :=
  ∀ first second, first < second → Warns checks passes first → Warns checks passes second →
    (checks first).index = (checks second).index →
    (checks first).expiresAt = (checks second).expiresAt →
    (checks first).checkedAt.toNat + 3600 ≤ (checks second).checkedAt.toNat

/-- A check comes to the point of looking at what is remembered. -/
def Check.Looks (check : Check) : Prop :=
  check.healthy = true ∧ Expiring check.expiresAt check.checkedAt

/-- Two checks of one slot and one expiry within an hour, where the first one was at time
zero or another expiry was seen between them. -/
def Forgets (checks : ℕ → Check) : Prop :=
  ∃ first second, first < second ∧ (checks first).Looks ∧ (checks second).Looks ∧
    (checks first).index = (checks second).index ∧
    (checks first).expiresAt = (checks second).expiresAt ∧
    (checks second).checkedAt.toNat < (checks first).checkedAt.toNat + 3600 ∧
    ((checks first).checkedAt = 0 ∨
      ∃ middle, first < middle ∧ middle < second ∧ (checks middle).Looks ∧
        (checks middle).index = (checks first).index ∧
        (checks middle).expiresAt ≠ (checks first).expiresAt)

/-! ## One check -/

variable {checks : ℕ → Check} {passes : ℕ → Bool} {count : ℕ}

@[simp] theorem Remembered.noting_expiry (remembered : Remembered) (expiresAt : UInt32) :
    (remembered.noting expiresAt).expiry = expiresAt := by
  rw [noting]
  split
  · rfl
  · rename_i same
    exact not_not.mp same

theorem Remembered.noting_of_expiry {remembered : Remembered} {expiresAt : UInt32}
    (same : remembered.expiry = expiresAt) : remembered.noting expiresAt = remembered := by
  rw [noting, if_neg (not_not.mpr same)]

/-- What was not remembered as a warning is not remembered as one later. -/
theorem Remembered.noting_warnedAt {remembered : Remembered} {expiresAt : UInt32}
    (forgotten : remembered.expiry ≠ expiresAt ∨ remembered.warnedAt = 0) :
    (remembered.noting expiresAt).warnedAt = 0 := by
  rw [noting]
  split
  · rfl
  · rename_i same
    exact forgotten.resolve_left same

theorem Remembered.not_recent_of_zero {remembered : Remembered} (forgotten : remembered.warnedAt = 0)
    (now : UInt32) : ¬ remembered.Recent now := fun recent => recent.1 forgotten

/-- A check that does not look, or is of another slot, leaves a slot alone. -/
theorem memoryAfter_of_other {slot : Fin HealthCheckConfig.maxResources}
    (other : ¬ ((checks count).Looks ∧ (checks count).index = slot)) :
    memoryAfter checks passes (count + 1) slot = memoryAfter checks passes count slot := by
  rw [memoryAfter, checkResource]
  split
  · rename_i healthy
    by_cases here : (checks count).index = slot
    · have quiet : ¬ Expiring (checks count).expiresAt (checks count).checkedAt := fun expiring =>
        other ⟨⟨healthy, expiring⟩, here⟩
      rw [warnCertificate, if_neg quiet, ← here]
      exact Function.update_self _ _ _
    · exact Function.update_of_ne (Ne.symm here) _ _
  · rfl

/-- What a check that looks leaves of its slot. -/
theorem memoryAfter_of_looks (looks : (checks count).Looks) :
    memoryAfter checks passes (count + 1) (checks count).index =
      (let noted := (memoryAfter checks passes count (checks count).index).noting
          (checks count).expiresAt
        if noted.Recent (checks count).checkedAt then noted
        else if passes count then ⟨(checks count).expiresAt, (checks count).checkedAt⟩
        else noted) := by
  rw [memoryAfter, checkResource, if_pos looks.1, warnCertificate, if_pos looks.2]
  dsimp only
  rw [Function.update_self]
  split
  · rfl
  split
  · rw [Remembered.noting_expiry]
  · rfl

/-- **A check queues a warning exactly if it looks, the last warning is not recent, and the
buzzer takes it.** -/
theorem warns_iff :
    Warns checks passes count ↔
      (checks count).Looks ∧
        ¬ ((memoryAfter checks passes count (checks count).index).noting
          (checks count).expiresAt).Recent (checks count).checkedAt ∧
        passes count = true := by
  rw [Warns, checkResource, Check.Looks]
  by_cases healthy : (checks count).healthy = true
  · rw [if_pos healthy, warnCertificate]
    by_cases expiring : Expiring (checks count).expiresAt (checks count).checkedAt
    · rw [if_pos expiring]
      dsimp only
      split
      · simp [*]
      · split
        · simp [*]
        · simp [*]
    · simp [expiring]
  · simp [healthy]

/-- A check at which nothing is queued keeps what is forgotten forgotten. -/
theorem memoryAfter_silent {slot : Fin HealthCheckConfig.maxResources} {expiry : UInt32}
    (silent : passes count = false)
    (forgotten : (memoryAfter checks passes count slot).expiry = expiry ∨
      (memoryAfter checks passes count slot).warnedAt = 0) :
    (memoryAfter checks passes (count + 1) slot).expiry = expiry ∨
      (memoryAfter checks passes (count + 1) slot).warnedAt = 0 := by
  by_cases here : (checks count).Looks ∧ (checks count).index = slot
  · obtain ⟨looks, rfl⟩ := here
    rw [memoryAfter_of_looks looks, silent]
    dsimp only
    rw [if_neg Bool.false_ne_true, ite_self]
    by_cases same : (memoryAfter checks passes count (checks count).index).expiry =
        (checks count).expiresAt
    · rw [Remembered.noting_of_expiry same]
      exact forgotten
    · exact .inr (Remembered.noting_warnedAt (.inl same))
  · rw [memoryAfter_of_other here]
    exact forgotten

/-! ## Between two warnings -/

section Limited

variable (ordered : Ordered checks) (remembers : ¬ Forgets checks)

include ordered remembers in
/-- From a warning on, until the expiry is seen again within the hour, its time is
remembered, or that of a later warning. -/
theorem remembered_since {first second : ℕ} (warned : Warns checks passes first)
    (looks : (checks second).Looks) (sameSlot : (checks first).index = (checks second).index)
    (sameExpiry : (checks first).expiresAt = (checks second).expiresAt)
    (soon : (checks second).checkedAt.toNat < (checks first).checkedAt.toNat + 3600)
    (later : ℕ) (after : first < later) (upTo : later ≤ second) :
    (memoryAfter checks passes later (checks first).index).expiry = (checks first).expiresAt ∧
      (checks first).checkedAt ≤
        (memoryAfter checks passes later (checks first).index).warnedAt ∧
      (memoryAfter checks passes later (checks first).index).warnedAt ≤
        (checks second).checkedAt := by
  obtain ⟨firstLooks, notRecent, passed⟩ := warns_iff.mp warned
  induction later, after using Nat.le_induction with
  | base =>
      rw [memoryAfter_of_looks firstLooks]
      dsimp only
      rw [if_neg notRecent, if_pos passed]
      exact ⟨rfl, UInt32.le_refl _, ordered first second (by omega) sameSlot⟩
  | succ later after ih =>
      obtain ⟨expiry, low, high⟩ := ih (by omega)
      by_cases here : (checks later).Looks ∧ (checks later).index = (checks first).index
      · obtain ⟨middleLooks, middleSlot⟩ := here
        have middleExpiry : (checks later).expiresAt = (checks first).expiresAt := by
          by_contra other
          exact remembers ⟨first, second, by omega, firstLooks, looks, sameSlot, sameExpiry, soon,
            .inr ⟨later, by omega, by omega, middleLooks, middleSlot, other⟩⟩
        have noted : (memoryAfter checks passes later (checks first).index).noting
            (checks later).expiresAt = memoryAfter checks passes later (checks first).index :=
          Remembered.noting_of_expiry (expiry.trans middleExpiry.symm)
        have step := @memoryAfter_of_looks checks passes later middleLooks
        rw [middleSlot, noted] at step
        rw [step]
        dsimp only
        split
        · exact ⟨expiry, low, high⟩
        split
        · exact ⟨middleExpiry, ordered first later (by omega) middleSlot.symm,
            ordered later second (by omega) (middleSlot.trans sameSlot)⟩
        · exact ⟨expiry, low, high⟩
      · rw [memoryAfter_of_other here]
        exact ⟨expiry, low, high⟩

include ordered remembers in
theorem rateLimited_of_remembers : RateLimited checks passes := by
  intro first second before warned warnedAgain sameSlot sameExpiry
  obtain ⟨firstLooks, -, -⟩ := warns_iff.mp warned
  obtain ⟨looks, notRecent, -⟩ := warns_iff.mp warnedAgain
  by_contra early
  have soon : (checks second).checkedAt.toNat < (checks first).checkedAt.toNat + 3600 := by omega
  obtain ⟨expiry, low, high⟩ := remembered_since ordered remembers warned looks sameSlot sameExpiry
    soon second before le_rfl
  have positive : (checks first).checkedAt ≠ 0 := fun zero =>
    remembers ⟨first, second, before, firstLooks, looks, sameSlot, sameExpiry, soon, .inl zero⟩
  rw [← sameSlot, Remembered.noting_of_expiry (expiry.trans sameExpiry)] at notRecent
  refine notRecent ⟨?_, ?_⟩
  · intro zero
    rw [zero] at low
    exact positive (UInt32.le_zero_iff.mp low)
  · rw [UInt32.lt_iff_toNat_lt, UInt32.toNat_sub_of_le _ _ high]
    have earlier := UInt32.le_iff_toNat_le.mp low
    have period : warningPeriod.toNat = 3600 := rfl
    omega

end Limited

/-! ## What is forgotten -/

/-- What is forgotten stays forgotten while nothing is queued. -/
theorem warnedAt_stays_zero {slot : Fin HealthCheckConfig.maxResources} {first last : ℕ}
    (order : first ≤ last) (silent : ∀ count, first ≤ count → count < last → passes count = false)
    (forgotten : (memoryAfter checks passes first slot).warnedAt = 0) :
    (memoryAfter checks passes last slot).warnedAt = 0 := by
  induction last, order using Nat.le_induction with
  | base => exact forgotten
  | succ last order ih =>
      have before := ih fun count low high => silent count low (by omega)
      by_cases here : (checks last).Looks ∧ (checks last).index = slot
      · obtain ⟨looks, rfl⟩ := here
        rw [memoryAfter_of_looks looks, silent last order (by omega)]
        dsimp only
        rw [if_neg Bool.false_ne_true, ite_self]
        exact Remembered.noting_warnedAt (.inr before)
      · rw [memoryAfter_of_other here]
        exact before

/-- While nothing is queued, a slot keeps its expiry or has nothing remembered. -/
theorem forgotten_stays {slot : Fin HealthCheckConfig.maxResources} {expiry : UInt32}
    {first last : ℕ} (order : first ≤ last)
    (silent : ∀ count, first ≤ count → count < last → passes count = false)
    (forgotten : (memoryAfter checks passes first slot).expiry = expiry ∨
      (memoryAfter checks passes first slot).warnedAt = 0) :
    (memoryAfter checks passes last slot).expiry = expiry ∨
      (memoryAfter checks passes last slot).warnedAt = 0 := by
  induction last, order using Nat.le_induction with
  | base => exact forgotten
  | succ last order ih =>
      exact memoryAfter_silent (silent last order (by omega))
        (ih fun count low high => silent count low (by omega))

/-- The buzzer that takes the warnings of two checks only. -/
def takesOnly (first second count : ℕ) : Bool := count == first || count == second

theorem takesOnly_between {first second count : ℕ} (after : first < count) (before : count < second) :
    takesOnly first second count = false := by
  simp only [takesOnly, Bool.or_eq_false_iff, beq_eq_false_iff_ne]
  omega

/-- **Where something is forgotten, a buzzer can take two warnings within the hour.** -/
theorem not_rateLimited_of_forgets (forgets : Forgets checks) :
    ∃ passes, ¬ RateLimited checks passes := by
  obtain ⟨first, second, before, looks, looksAgain, sameSlot, sameExpiry, soon, forgotten⟩ := forgets
  refine ⟨takesOnly first second, fun limited => ?_⟩
  have nothing : (memoryAfter checks (takesOnly first second) first (checks first).index).warnedAt =
      0 := by
    refine warnedAt_stays_zero (Nat.zero_le first) (fun count _ less => ?_) rfl
    simp only [takesOnly, Bool.or_eq_false_iff, beq_eq_false_iff_ne]
    omega
  have takesFirst : takesOnly first second first = true := by simp [takesOnly]
  have notRecent : ¬ ((memoryAfter checks (takesOnly first second) first
      (checks first).index).noting (checks first).expiresAt).Recent (checks first).checkedAt :=
    Remembered.not_recent_of_zero (Remembered.noting_warnedAt (.inr nothing)) _
  have warned : Warns checks (takesOnly first second) first :=
    warns_iff.mpr ⟨looks, notRecent, takesFirst⟩
  have afterFirst : memoryAfter checks (takesOnly first second) (first + 1) (checks first).index =
      ⟨(checks first).expiresAt, (checks first).checkedAt⟩ := by
    rw [memoryAfter_of_looks looks]
    dsimp only
    rw [if_neg notRecent, if_pos takesFirst]
  -- In both cases there is nothing left of the first warning when the second comes.
  have lost : (memoryAfter checks (takesOnly first second) second (checks first).index).warnedAt =
      0 := by
    rcases forgotten with zero | ⟨middle, after, early, looksBetween, middleSlot, otherExpiry⟩
    · refine warnedAt_stays_zero (by omega : first + 1 ≤ second)
        (fun count low high => takesOnly_between (by omega) high) ?_
      rw [afterFirst]
      exact zero
    · have atMiddle : (memoryAfter checks (takesOnly first second) middle
          (checks first).index).expiry = (checks first).expiresAt ∨
          (memoryAfter checks (takesOnly first second) middle (checks first).index).warnedAt = 0 := by
        refine forgotten_stays after
          (fun count low high => takesOnly_between (by omega) (by omega)) (.inl ?_)
        rw [afterFirst]
      refine warnedAt_stays_zero (by omega : middle + 1 ≤ second)
        (fun count low high => takesOnly_between (by omega) high) ?_
      rw [← middleSlot, memoryAfter_of_looks looksBetween, takesOnly_between after early]
      dsimp only
      rw [if_neg Bool.false_ne_true, ite_self, middleSlot]
      refine Remembered.noting_warnedAt (atMiddle.imp_left fun expiry other => ?_)
      exact otherExpiry (other.symm.trans expiry)
  have notRecentAgain : ¬ ((memoryAfter checks (takesOnly first second) second
      (checks second).index).noting (checks second).expiresAt).Recent (checks second).checkedAt := by
    rw [← sameSlot]
    exact Remembered.not_recent_of_zero (Remembered.noting_warnedAt (.inr lost)) _
  have warnedAgain : Warns checks (takesOnly first second) second :=
    warns_iff.mpr ⟨looksAgain, notRecentAgain, by simp [takesOnly]⟩
  have apart := limited first second before warned warnedAgain sameSlot sameExpiry
  omega

/-- **Warnings are rate limited exactly if nothing is forgotten within the hour.** For every
sequence of checks in the order of time: two warnings for one slot and one expiry are at
least 3600 seconds apart, whatever the buzzer does, if and only if no check of a slot
comes back to an expiry within the hour after a check at time zero or after having seen
another expiry. -/
theorem rateLimited_iff (ordered : Ordered checks) :
    (∀ passes, RateLimited checks passes) ↔ ¬ Forgets checks := by
  constructor
  · intro limited forgets
    obtain ⟨passes, exceeded⟩ := not_rateLimited_of_forgets forgets
    exact exceeded (limited passes)
  · intro remembers passes
    exact rateLimited_of_remembers ordered remembers

/-- A resource with one certificate. -/
def steady (_ : ℕ) : Check := ⟨⟨0, by decide⟩, true, 1790000000, 1789500000⟩

theorem rateLimited_iff_steady : Ordered steady ∧ ∀ passes, RateLimited steady passes := by
  have ordered : Ordered steady := fun _ _ _ _ => UInt32.le_refl _
  refine ⟨ordered, (rateLimited_iff ordered).mpr ?_⟩
  rintro ⟨_, _, _, _, _, _, _, _, zero | ⟨_, _, _, _, _, other⟩⟩
  · have never : (1789500000 : UInt32) ≠ 0 := by decide
    exact never zero
  · exact other rfl

/-! ## Two servers behind one host -/

/-- A resource behind which two servers answer in turns, each with its own certificate, in
three checks a minute apart. After these it is not healthy any more. -/
def alternating (count : ℕ) : Check where
  index := ⟨0, by decide⟩
  healthy := count < 3
  expiresAt := if count % 2 = 0 then 1790000000 else 1790000001
  checkedAt := 1789500000 + 60 * UInt32.ofNat (min count 3)

theorem alternating_ordered : Ordered alternating := by
  have rising : ∀ upper < 4, ∀ lower ≤ upper,
      (1789500000 : UInt32) + 60 * UInt32.ofNat lower ≤ 1789500000 + 60 * UInt32.ofNat upper := by
    decide
  intro first second before _
  exact rising (min second 3) (by omega) (min first 3) (by omega)

/-- **The third check warns again, two minutes after the first, of the same expiry.** -/
theorem alternating_warns_again :
    Ordered alternating ∧ Warns alternating (fun _ => true) 0 ∧
      Warns alternating (fun _ => true) 2 ∧
      (alternating 0).index = (alternating 2).index ∧
      (alternating 0).expiresAt = (alternating 2).expiresAt ∧
      (alternating 2).checkedAt.toNat = (alternating 0).checkedAt.toNat + 120 ∧
      ¬ RateLimited alternating (fun _ => true) := by
  have first : Warns alternating (fun _ => true) 0 := by
    unfold Warns
    decide
  have third : Warns alternating (fun _ => true) 2 := by
    unfold Warns
    decide
  refine ⟨alternating_ordered, first, third, by decide, by decide, by decide, fun limited => ?_⟩
  exact absurd (limited 0 2 (by decide) first third (by decide) (by decide)) (by decide)

end HealthCheckFirmware.HealthCheckService
