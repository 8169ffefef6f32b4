import Mathlib.Data.List.Basic

/-!
# The debounced button

`factoryResetService_UpdateButton`: the state of the button changes when three samples in a
row agree. `Button.Tracks` relates the counters of the code to the samples read so far, and
`updateButton_spec` says what one sample does: the state is that of the last three equal
samples in a row, and an event is a change of the state.
-/

set_option autoImplicit false

namespace HealthCheckFirmware.FactoryReset

/-- `FACTORY_RESET_POLL_MS`, in ticks of one millisecond like all times here. -/
def pollTicks : UInt32 := 20

/-- `FACTORY_RESET_DEBOUNCE_SAMPLES`. -/
def debounceSamples : ℕ := 60 / 20

inductive ButtonEvent where
  | none
  | pressed
  | released
  deriving DecidableEq, Repr

/-- `FactoryReset_ButtonStateTypeDef`. -/
structure Button where
  stablePressed : Bool
  candidatePressed : Bool
  candidateSamples : ℕ
  deriving DecidableEq, Repr

def Button.initial : Button := ⟨false, false, 0⟩

/-- `factoryResetService_UpdateButton`, given the sample that it reads. -/
def updateButton (button : Button) (pressed : Bool) : Button × ButtonEvent :=
  if pressed ≠ button.candidatePressed then
    ({ button with candidatePressed := pressed, candidateSamples := 1 }, .none)
  else
    let samples :=
      if button.candidateSamples < debounceSamples then button.candidateSamples + 1
      else button.candidateSamples
    let counted := { button with candidateSamples := samples }
    if samples < debounceSamples ∨ button.stablePressed = button.candidatePressed then
      (counted, .none)
    else
      ({ counted with stablePressed := button.candidatePressed },
        if button.candidatePressed then .pressed else .released)

/-! ## The state after each sample -/

/-- The value of the most recent three equal samples in a row, and released if there are
none. The newest sample comes first. -/
def debounced : List Bool → Bool
  | first :: second :: third :: rest =>
      if first = second ∧ second = third then first else debounced (second :: third :: rest)
  | _ => false

/-- The event of a change of the state. -/
def eventOf (before after : Bool) : ButtonEvent :=
  if before = after then .none else if after then .pressed else .released

/-- A sample that differs from the one before it changes nothing. -/
theorem debounced_cons_of_ne {sample : Bool} {earlier : List Bool}
    (differs : earlier.head? ≠ some sample) : debounced (sample :: earlier) = debounced earlier := by
  match earlier, differs with
  | [], _ => rfl
  | [_], _ => rfl
  | second :: third :: rest, differs =>
      have other : ¬ (sample = second ∧ second = third) := fun ⟨same, _⟩ => differs (same ▸ rfl)
      rw [debounced, if_neg other]

/-- Nor do two equal ones after a different one. -/
theorem debounced_pair_of_ne {sample : Bool} {earlier : List Bool}
    (differs : earlier.head? ≠ some sample) :
    debounced (sample :: sample :: earlier) = debounced (sample :: earlier) := by
  match earlier, differs with
  | [], _ => rfl
  | third :: rest, differs =>
      have other : ¬ (sample = sample ∧ sample = third) := fun ⟨_, same⟩ => differs (same ▸ rfl)
      rw [debounced, if_neg other]

/-- The counters are those of the samples read so far: the newest samples that agree, up to
three of them, and the state that they settle. -/
structure Button.Tracks (button : Button) (samples : List Bool) : Prop where
  counts : ∃ count rest, samples = List.replicate count button.candidatePressed ++ rest ∧
    rest.head? ≠ some button.candidatePressed ∧
    button.candidateSamples = min count debounceSamples ∧ (count = 0 → rest = [])
  stable : button.stablePressed = debounced samples

theorem Button.initial_tracks : Button.initial.Tracks [] where
  counts := ⟨0, [], rfl, nofun, rfl, fun _ => rfl⟩
  stable := rfl

/-- **One sample.** -/
theorem updateButton_spec {button : Button} {samples : List Bool} (tracks : button.Tracks samples)
    (sample : Bool) :
    (updateButton button sample).1.Tracks (sample :: samples) ∧
      (updateButton button sample).2 = eventOf (debounced samples) (debounced (sample :: samples)) := by
  obtain ⟨⟨count, rest, same, differs, counted, fresh⟩, stable⟩ := tracks
  by_cases changed : sample = button.candidatePressed
  · -- The sample agrees with the candidate: one more of them.
    subst changed
    have longer : button.candidatePressed :: samples =
        List.replicate (count + 1) button.candidatePressed ++ rest := by
      rw [same, List.replicate_succ, List.cons_append]
    have next : (if button.candidateSamples < debounceSamples then button.candidateSamples + 1
        else button.candidateSamples) = min (count + 1) debounceSamples := by
      rw [counted]
      split <;> omega
    simp only [updateButton, ne_eq, not_true, if_false, next]
    by_cases few : count + 1 < debounceSamples
    · -- Fewer than three agree, so the state is what it was.
      have unsettled : min (count + 1) debounceSamples < debounceSamples := by omega
      have kept : debounced (button.candidatePressed :: samples) = debounced samples := by
        rw [same]
        match count, few, fresh with
        | 0, _, fresh =>
            rw [fresh rfl]
            rfl
        | 1, _, _ => exact debounced_pair_of_ne differs
        | count + 2, few, _ => exact absurd few (by simp [debounceSamples])
      rw [if_pos (.inl unsettled), kept]
      exact ⟨⟨⟨count + 1, rest, longer, differs, rfl, nofun⟩, stable.trans kept.symm⟩,
        (if_pos rfl).symm⟩
    · have settled : ¬ min (count + 1) debounceSamples < debounceSamples := by omega
      have decided : debounced (button.candidatePressed :: samples) = button.candidatePressed := by
        obtain ⟨more, rfl⟩ : ∃ more, count = more + 2 :=
          ⟨count - 2, by simp only [debounceSamples] at few; omega⟩
        rw [same, List.replicate_succ, List.replicate_succ]
        exact if_pos ⟨rfl, rfl⟩
      by_cases already : button.stablePressed = button.candidatePressed
      · rw [if_pos (.inr already), decided, ← stable, already]
        exact ⟨⟨⟨count + 1, rest, longer, differs, rfl, nofun⟩, decided.symm⟩,
          (if_pos rfl).symm⟩
      · rw [if_neg (not_or.mpr ⟨settled, already⟩), decided, ← stable, eventOf, if_neg already]
        exact ⟨⟨⟨count + 1, rest, longer, differs, rfl, nofun⟩, decided.symm⟩, rfl⟩
  · -- The sample is another one: it becomes the candidate.
    have other : samples.head? ≠ some sample := by
      intro first
      rw [same] at first
      match count, fresh with
      | 0, fresh =>
          rw [fresh rfl] at first
          cases first
      | count + 1, _ =>
          rw [List.replicate_succ] at first
          cases first
          exact changed rfl
    have kept := debounced_cons_of_ne other
    simp only [updateButton, ne_eq, changed, not_false_eq_true, if_true]
    rw [kept]
    exact ⟨⟨⟨1, samples, rfl, other, rfl, nofun⟩, stable.trans kept.symm⟩, (if_pos rfl).symm⟩

end HealthCheckFirmware.FactoryReset
