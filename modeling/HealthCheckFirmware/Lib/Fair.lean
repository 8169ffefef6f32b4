import Mathlib.Data.Nat.Init

/-!
# Endless runs

The states of a machine along an endless sequence of events, and the rule for what is
reached in the end: a measure that no event raises, and that the events of one kind lower
for as long as the goal is not reached, gets to the goal if events of that kind never cease
(`eventually`).
-/

set_option autoImplicit false

namespace HealthCheckFirmware.Fair

variable {State Event : Type} {step : State → Event → State}

/-- The state before the event with the given number. -/
def trace (step : State → Event → State) (start : State) (events : ℕ → Event) : ℕ → State
  | 0 => start
  | time + 1 => step (trace step start events time) (events time)

/-- Events of a kind never cease. -/
def Recurs (helpful : Event → Prop) (events : ℕ → Event) : Prop :=
  ∀ time, ∃ later, time ≤ later ∧ helpful (events later)

variable {start : State} {events : ℕ → Event}

/-- What every event preserves goes on holding. -/
theorem lasts {holds : State → Prop}
    (preserved : ∀ state event, holds state → holds (step state event)) {time later : ℕ}
    (ordered : time ≤ later) (base : holds (trace step start events time)) :
    holds (trace step start events later) := by
  induction later, ordered using Nat.le_induction with
  | base => exact base
  | succ later _ ih => exact preserved _ _ ih

/-- What each event relates to what was there before, a run does. -/
theorem grows {Value : Type} {value : State → Value} {related : Value → Value → Prop}
    (reflexive : ∀ here, related here here)
    (transitive : ∀ {here there beyond}, related here there → related there beyond →
      related here beyond)
    (each : ∀ state event, related (value state) (value (step state event))) {time later : ℕ}
    (ordered : time ≤ later) :
    related (value (trace step start events time)) (value (trace step start events later)) := by
  induction later, ordered using Nat.le_induction with
  | base => exact reflexive _
  | succ later _ ih => exact transitive ih (each _ _)

section Goal

variable {holds goal : State → Prop} {helpful : Event → Prop} {measure : State → ℕ} {time : ℕ}
  (base : holds (trace step start events time))
  (preserved : ∀ state event, holds state → holds (step state event))
  (kept : ∀ state event, holds state → ¬ goal state →
    goal (step state event) ∨ measure (step state event) ≤ measure state)

include base preserved kept in
/-- Until the goal is reached the measure is not raised. -/
theorem reached_or_not_raised {later : ℕ} (ordered : time ≤ later) :
    (∃ reaches, time ≤ reaches ∧ goal (trace step start events reaches)) ∨
      measure (trace step start events later) ≤ measure (trace step start events time) := by
  induction later, ordered using Nat.le_induction with
  | base => exact .inr (Nat.le_refl _)
  | succ later after ih =>
      rcases ih with reached | notRaised
      · exact .inl reached
      · by_cases here : goal (trace step start events later)
        · exact .inl ⟨later, after, here⟩
        · rcases kept _ (events later) (lasts preserved after base) here with there | low
          · exact .inl ⟨later + 1, Nat.le_succ_of_le after, there⟩
          · exact .inr (Nat.le_trans low notRaised)

include base preserved kept in
/-- **The rule for what is reached in the end.** -/
theorem eventually
    (lowered : ∀ state event, holds state → ¬ goal state → helpful event →
      goal (step state event) ∨ measure (step state event) < measure state)
    (recurs : Recurs helpful events) :
    ∃ later, time ≤ later ∧ goal (trace step start events later) := by
  induction level : measure (trace step start events time) using Nat.strongRecOn
    generalizing time with
  | _ bound ih =>
      obtain ⟨helps, ordered, isHelpful⟩ := recurs time
      rcases reached_or_not_raised base preserved kept ordered with reached | notRaised
      · exact reached
      · by_cases here : goal (trace step start events helps)
        · exact ⟨helps, ordered, here⟩
        · have holdsThere := lasts preserved ordered base
          rcases lowered _ _ holdsThere here isHelpful with there | low
          · exact ⟨helps + 1, Nat.le_succ_of_le ordered, there⟩
          · have smaller : measure (trace step start events (helps + 1)) < bound :=
              level ▸ Nat.lt_of_lt_of_le low notRaised
            have holdsNext : holds (trace step start events (helps + 1)) :=
              preserved _ _ holdsThere
            obtain ⟨later, after, reached⟩ := ih _ smaller holdsNext rfl
            exact ⟨later, by omega, reached⟩

end Goal

end HealthCheckFirmware.Fair
