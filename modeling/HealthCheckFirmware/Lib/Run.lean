import Mathlib.Logic.Basic

/-!
# Runs of a state machine

A machine is a step function on states, driven by events. A condition on events
is a condition on the event and on the state it meets; `Throughout` says that it
holds at every event of a run. An invariant that every admitted event preserves
holds in every state that is reached (`Throughout.invariant`), and what it gives
of one event holds of all of them (`Throughout.imp`).
-/

set_option autoImplicit false

namespace HealthCheckFirmware.Run

variable {State Event : Type} (step : State → Event → State)

/-- The state after a list of events. -/
def run (state : State) (events : List Event) : State := events.foldl step state

/-- The property holds at every event of the run, of the state before it. -/
def Throughout (property : State → Event → Prop) : State → List Event → Prop
  | _, [] => True
  | state, event :: rest => property state event ∧ Throughout property (step state event) rest

variable {step} {holds : State → Prop} {admits : State → Event → Prop}

theorem run_append (state : State) (first second : List Event) :
    run step state (first ++ second) = run step (run step state first) second :=
  List.foldl_append

theorem throughout_append {state : State} {first second : List Event} :
    Throughout step admits state (first ++ second) ↔
      Throughout step admits state first
        ∧ Throughout step admits (run step state first) second := by
  induction first generalizing state with
  | nil => simp [Throughout, run]
  | cons event rest ih => simp [Throughout, run, ih, and_assoc]

/-- A condition that the events meet in any state. -/
theorem Throughout.of_forall {events : List Event}
    (always : ∀ state, ∀ event ∈ events, admits state event) {state : State} :
    Throughout step admits state events := by
  induction events generalizing state with
  | nil => trivial
  | cons event rest ih =>
      exact ⟨always state event List.mem_cons_self,
        ih fun state later member => always state later (List.mem_cons_of_mem _ member)⟩

theorem Throughout.and {property : State → Event → Prop} {state : State} {events : List Event}
    (first : Throughout step admits state events)
    (second : Throughout step property state events) :
    Throughout step (fun state event => admits state event ∧ property state event) state
      events := by
  induction events generalizing state with
  | nil => trivial
  | cons event rest ih => exact ⟨⟨first.1, second.1⟩, ih first.2 second.2⟩

/-- **The invariant rule.** -/
theorem Throughout.invariant
    (preserved : ∀ state event, holds state → admits state event → holds (step state event))
    {state : State} (start : holds state) {events : List Event}
    (admitted : Throughout step admits state events) : holds (run step state events) := by
  induction events generalizing state with
  | nil => exact start
  | cons event rest ih => exact ih (preserved state event start admitted.1) admitted.2

/-- What the invariant gives of one event holds of every event of the run. -/
theorem Throughout.imp {property : State → Event → Prop}
    (preserved : ∀ state event, holds state → admits state event → holds (step state event))
    (gives : ∀ state event, holds state → admits state event → property state event)
    {state : State} (start : holds state) {events : List Event}
    (admitted : Throughout step admits state events) :
    Throughout step property state events := by
  induction events generalizing state with
  | nil => trivial
  | cons event rest ih =>
      exact ⟨gives state event start admitted.1,
        ih (preserved state event start admitted.1) admitted.2⟩

end HealthCheckFirmware.Run
