import HealthCheckFirmware.Lib.Fair
import HealthCheckFirmware.Reset.Button
import Mathlib.Data.List.Chain

/-!
# The factory-reset gesture

The task of `factory_reset_service.c`: wait for a long press, sound the warning, leave a
window for a double click that cancels, and then write the marker. The three loops share
one debounced button, which each of their turns polls once.

The task is a machine whose steps are the turns of its loops, on any sequence of samples of
the button and of readings of the tick counter; differences of readings wrap. Its history
is the list of its polls. `Task.Sound` says for each point of the task what the polls so
far have been. It gives that the marker is only ever written after a long press that no
double click has cancelled, and that every double click in the window does cancel
(`gesture_exact`).
-/

set_option autoImplicit false

namespace HealthCheckFirmware.FactoryReset

open Fair

/-! ## The task -/

/-- `FACTORY_RESET_HOLD_SAMPLES`. -/
def holdSamples : ℕ := 10000 / 20

/-- `FACTORY_RESET_CANCEL_WINDOW_MS`. -/
def cancelWindow : UInt32 := 10000

/-- `FACTORY_RESET_DOUBLE_CLICK_MS`. -/
def doubleClick : UInt32 := 600

/-- `BuzzerService_FactoryResetWarningDuration`. -/
def warningDuration : UInt32 := 5 * 350 + (5 - 1) * 150

/-- The local variables of `factoryResetService_WaitForCancellation`. -/
structure Window where
  windowStarted : UInt32
  firstClickAt : UInt32
  clickCount : ℕ
  armed : Bool

/-- Where the task is: at the head of one of its loops, before the reading of the clock that
precedes a loop, or before one of the two operations on the flash. -/
inductive Point where
  | longPress (pressedSamples : ℕ)
  | warningStart
  | warning (warningStarted : UInt32)
  | windowStart
  | window (window : Window)
  | cancelled
  | writeMarker
  | erase
  | waitForRelease
  | restart

/-- One poll of the button: the sample, the debounced state after it, the event that it
caused, and the reading of the clock that follows it in the cancellation window. -/
structure Poll where
  sample : Bool
  pressed : Bool
  event : ButtonEvent
  now : UInt32

/-- The task, and its history: all polls, the polls of the cancellation window and whether
the button was held when it opened, and the number of operations on the flash. The newest
poll comes first. -/
structure Task where
  button : Button
  point : Point
  polls : List Poll
  windowPolls : List Poll
  held : Bool
  flashWrites : ℕ

def Task.initial : Task := ⟨.initial, .longPress 0, [], [], false, 0⟩

/-- What the task learns in one step: a sample of the button, the reading of the clock at
the head of a loop or before it, the reading after a poll, and whether the write of the
marker reports success. -/
structure Input where
  sample : Bool
  tick : UInt32
  now : UInt32
  written : Bool

/-- One turn of a loop polls the button. -/
def Task.poll (task : Task) (input : Input) : Task :=
  let (button, event) := updateButton task.button input.sample
  { task with
    button := button
    polls := ⟨input.sample, button.stablePressed, event, input.now⟩ :: task.polls }

/-- What a turn of `factoryResetService_WaitForCancellation` does with the event of its
poll. Nothing is left of the window when it returns 1. -/
def Window.click (window : Window) (event : ButtonEvent) (now : UInt32) : Option Window :=
  if window.armed = false then
    if event = .released then some { window with armed := true } else some window
  else if event = .pressed then
    if window.clickCount = 0 ∨ now - window.firstClickAt > doubleClick then
      some { window with clickCount := 1, firstClickAt := now }
    else none
  else some window

/-- `factoryResetService_Task`, step by step. -/
def Task.step (task : Task) (input : Input) : Task :=
  match task.point with
  | .longPress pressedSamples =>
      if pressedSamples < holdSamples then
        let polled := task.poll input
        { polled with
          point := .longPress (if polled.button.stablePressed then pressedSamples + 1 else 0) }
      else { task with point := .warningStart }
  | .warningStart => { task with point := .warning input.tick }
  | .warning warningStarted =>
      if input.tick - warningStarted < warningDuration + pollTicks then task.poll input
      else { task with point := .windowStart }
  | .windowStart =>
      { task with
        point := .window ⟨input.tick, 0, 0, !task.button.stablePressed⟩
        windowPolls := []
        held := task.button.stablePressed }
  | .window window =>
      if input.tick - window.windowStarted < cancelWindow then
        let polled := task.poll input
        let event := (updateButton task.button input.sample).2
        { polled with
          point := match window.click event input.now with
            | some window => .window window
            | none => .cancelled
          windowPolls := polled.polls.take 1 ++ task.windowPolls }
      else { task with point := .writeMarker }
  | .cancelled => { task with point := .waitForRelease }
  | .writeMarker =>
      { task with
        point := if input.written then .erase else .waitForRelease
        flashWrites := task.flashWrites + 1 }
  | .erase => { task with point := .restart, flashWrites := task.flashWrites + 1 }
  | .waitForRelease =>
      if task.button.stablePressed then task.poll input else { task with point := .longPress 0 }
  | .restart => task

/-! ## What is to hold -/

/-- Each poll records the debounced state after its sample, and an event is a change of
that state. -/
def Recorded : List Poll → Prop
  | [] => True
  | poll :: earlier =>
      poll.pressed = debounced (poll.sample :: earlier.map Poll.sample) ∧
        poll.event = eventOf (debounced (earlier.map Poll.sample)) poll.pressed ∧ Recorded earlier

/-- The changes of the state. -/
def changes (polls : List Poll) : List ButtonEvent :=
  (polls.map Poll.event).filter (· ≠ .none)

/-- Presses and releases alternate, and the first is a press. -/
def Alternate (polls : List Poll) : Prop :=
  (changes polls).IsChain (· ≠ ·) ∧ (changes polls).getLast? ≠ some .released

/-- The times of the presses in a window that count. If the button was held when the window
opened, these are the ones after a release. -/
def presses (held : Bool) : List Poll → List UInt32
  | [] => []
  | poll :: earlier =>
      if poll.event = .pressed ∧ (held = false ∨ ∃ other ∈ earlier, other.event = .released) then
        poll.now :: presses held earlier
      else presses held earlier

/-- No two successive presses are close to each other. -/
def NoDoubleClick (held : Bool) (polls : List Poll) : Prop :=
  (presses held polls).IsChain fun later earlier => doubleClick < later - earlier

/-- A long press: 500 polls in a row with the button pressed. -/
structure LongPress (polls : List Poll) : Prop where
  length_eq : polls.length = holdSamples
  pressed : ∀ poll ∈ polls, poll.pressed = true

/-- The polls so far end with a long press, the warning, and a window without a double
click; `held` says whether the button was held when the window opened. -/
def Confirmed (task : Task) : Prop :=
  ∃ warning hold earlier, task.polls = task.windowPolls ++ (warning ++ (hold ++ earlier)) ∧
    LongPress hold ∧ task.held = debounced ((warning ++ (hold ++ earlier)).map Poll.sample) ∧
    NoDoubleClick task.held task.windowPolls

/-! ## The invariant -/

/-- The variables of the window are those of its polls. -/
structure Window.Tracks (window : Window) (held : Bool) (polls : List Poll) : Prop where
  armed : window.armed = true ↔ held = false ∨ ∃ poll ∈ polls, poll.event = .released
  idle : window.clickCount = 0 ↔ presses held polls = []
  first : ∀ time, (presses held polls).head? = some time → window.firstClickAt = time

/-- What the polls have been when the task is at a point. -/
def Point.Holds (task : Task) : Point → Prop
  | .longPress pressedSamples => pressedSamples ≤ holdSamples ∧
      ∃ hold earlier, task.polls = hold ++ earlier ∧ hold.length = pressedSamples ∧
        ∀ poll ∈ hold, poll.pressed = true
  | .warningStart => ∃ hold earlier, task.polls = hold ++ earlier ∧ LongPress hold
  | .warning _ =>
      ∃ warning hold earlier, task.polls = warning ++ (hold ++ earlier) ∧ LongPress hold
  | .windowStart =>
      ∃ warning hold earlier, task.polls = warning ++ (hold ++ earlier) ∧ LongPress hold
  | .window opened => Confirmed task ∧ opened.Tracks task.held task.windowPolls
  | .cancelled => True
  | .writeMarker => Confirmed task
  | .erase => True
  | .waitForRelease => True
  | .restart => True

structure Task.Sound (task : Task) : Prop where
  tracks : task.button.Tracks (task.polls.map Poll.sample)
  recorded : Recorded task.polls
  holds : task.point.Holds task

/-! ## Events -/

theorem changes_cons_none {poll : Poll} {earlier : List Poll} (none : poll.event = .none) :
    changes (poll :: earlier) = changes earlier := by
  simp [changes, none]

theorem changes_cons {poll : Poll} {earlier : List Poll} (some : poll.event ≠ .none) :
    changes (poll :: earlier) = poll.event :: changes earlier := by
  simp [changes, some]

/-- **Presses and releases alternate.** The last change tells the state. -/
theorem alternate_of_recorded {polls : List Poll} (recorded : Recorded polls) :
    Alternate polls ∧
      (debounced (polls.map Poll.sample) = true ↔ (changes polls).head? = some .pressed) := by
  induction polls with
  | nil => exact ⟨⟨.nil, by simp [changes]⟩, by simp [changes, debounced]⟩
  | cons poll earlier ih =>
      obtain ⟨state, event, before⟩ := recorded
      obtain ⟨⟨chain, first⟩, last⟩ := ih before
      rw [List.map_cons, ← state]
      by_cases same : debounced (earlier.map Poll.sample) = poll.pressed
      · rw [eventOf, if_pos same] at event
        rw [Alternate, changes_cons_none event, ← same]
        exact ⟨⟨chain, first⟩, last⟩
      · rw [eventOf, if_neg same] at event
        have some : poll.event ≠ .none := by
          rw [event]
          split <;> simp
        rw [Alternate, changes_cons some, List.isChain_cons]
        -- The last change before this one was in the other direction, or there was none.
        cases pressed : poll.pressed with
        | true =>
            rw [pressed] at same event
            have notLast := mt last.mpr same
            have press : poll.event = .pressed := event
            rw [press]
            refine ⟨⟨⟨fun other isLast same => ?_, chain⟩, ?_⟩, by simp⟩
            · exact notLast (same ▸ isLast)
            · rw [List.getLast?_cons]
              cases oldest : (changes earlier).getLast? with
              | none => simp
              | some event => exact oldest ▸ first
        | false =>
            rw [pressed] at same event
            have isLast := last.mp (by simpa using same)
            have release : poll.event = .released := event
            rw [release]
            refine ⟨⟨⟨fun other wasLast same => ?_, chain⟩, ?_⟩, by simp⟩
            · rw [isLast] at wasLast
              cases wasLast
              cases same
            · obtain ⟨rest, others⟩ := List.head?_eq_some_iff.mp isLast
              rw [others, List.getLast?_cons_cons, ← others]
              exact first

/-! ## One poll -/

section OnePoll

variable {task : Task}

/-- A poll adds its record. -/
theorem poll_polls (task : Task) (input : Input) :
    ∃ poll : Poll, (task.poll input).polls = poll :: task.polls ∧ poll.sample = input.sample ∧
      poll.pressed = (task.poll input).button.stablePressed ∧
      poll.event = (updateButton task.button input.sample).2 ∧ poll.now = input.now :=
  ⟨_, rfl, rfl, rfl, rfl, rfl⟩

/-- A poll keeps the record and the counters in step with the samples. -/
theorem poll_recorded (sound : task.Sound) (input : Input) :
    (task.poll input).button.Tracks ((task.poll input).polls.map Poll.sample) ∧
      Recorded (task.poll input).polls := by
  obtain ⟨tracks, event⟩ := updateButton_spec sound.tracks input.sample
  refine ⟨tracks, tracks.stable, ?_, sound.recorded⟩
  change (updateButton task.button input.sample).2 = eventOf _ _
  rw [event]
  exact congrArg _ tracks.stable.symm

end OnePoll

/-! ## The window -/

section OneClick

variable {window : Window} {held : Bool} {polls : List Poll} {poll : Poll}

theorem presses_cons_of_not (uncounted : ¬ (poll.event = .pressed ∧
      (held = false ∨ ∃ other ∈ polls, other.event = .released))) :
    presses held (poll :: polls) = presses held polls := by
  rw [presses, if_neg uncounted]

theorem presses_cons_of (counted : poll.event = .pressed ∧
      (held = false ∨ ∃ other ∈ polls, other.event = .released)) :
    presses held (poll :: polls) = poll.now :: presses held polls := by
  rw [presses, if_pos counted]

/-- A poll that is not a press that counts leaves the clicks as they are. -/
theorem Window.Tracks.uncounted (tracks : window.Tracks held polls)
    (quiet : NoDoubleClick held polls)
    (same : presses held (poll :: polls) = presses held polls) {armed : Bool}
    (armed_iff : armed = true ↔ held = false ∨ ∃ other ∈ poll :: polls, other.event = .released) :
    Window.Tracks { window with armed := armed } held (poll :: polls) ∧
      NoDoubleClick held (poll :: polls) := by
  refine ⟨⟨armed_iff, ?_, ?_⟩, ?_⟩
  · rw [same]
    exact tracks.idle
  · rw [same]
    exact tracks.first
  · rw [NoDoubleClick, same]
    exact quiet

/-- The turn of the loop after which the window stays open. -/
theorem click_some (tracks : window.Tracks held polls) (quiet : NoDoubleClick held polls)
    {after : Window} (stays : window.click poll.event poll.now = some after) :
    after.Tracks held (poll :: polls) ∧ NoDoubleClick held (poll :: polls) := by
  rw [Window.click] at stays
  by_cases armed : window.armed = true
  · have counts := tracks.armed.mp armed
    rw [if_neg (by simp [armed])] at stays
    by_cases press : poll.event = .pressed
    · have clicks := presses_cons_of ⟨press, counts⟩
      rw [if_pos press] at stays
      split at stays
      next apart =>
        cases stays
        refine ⟨⟨?_, ?_, ?_⟩, ?_⟩
        · simp only [armed, true_iff]
          exact counts.imp_right fun ⟨other, isMember, event⟩ => ⟨other, .tail _ isMember, event⟩
        · simp [clicks]
        · intro time first
          rw [clicks] at first
          exact Option.some.inj first
        · rw [NoDoubleClick, clicks, List.isChain_cons]
          refine ⟨fun time first => ?_, quiet⟩
          rcases apart with none | far
          · rw [tracks.idle.mp none] at first
            cases first
          · rw [← tracks.first time first]
            exact far
      next => cases stays
    · rw [if_neg press] at stays
      cases stays
      refine tracks.uncounted quiet (presses_cons_of_not fun ⟨isPress, _⟩ => press isPress) ?_
      simp only [armed, true_iff]
      exact counts.imp_right fun ⟨other, isMember, event⟩ => ⟨other, .tail _ isMember, event⟩
  · have notCounts := mt tracks.armed.mpr armed
    have same := @presses_cons_of_not held polls poll fun ⟨_, counts⟩ => notCounts counts
    rw [if_pos (by simpa using armed)] at stays
    split at stays
    next release =>
      cases stays
      exact tracks.uncounted quiet same (by simp [release])
    next noRelease =>
      cases stays
      refine tracks.uncounted quiet same ?_
      rw [tracks.armed]
      simp [noRelease]

/-- The turn of the loop that cancels. -/
theorem click_none (tracks : window.Tracks held polls)
    (cancels : window.click poll.event poll.now = none) :
    ¬ NoDoubleClick held (poll :: polls) := by
  rw [Window.click] at cancels
  split at cancels
  next => split at cancels <;> cases cancels
  next armed =>
    split at cancels
    next press =>
      split at cancels
      next => cases cancels
      next close =>
        have counts := tracks.armed.mp (by simpa using armed)
        obtain ⟨clicked, near⟩ := not_or.mp close
        have some := mt tracks.idle.mpr clicked
        obtain ⟨time, rest, clicks⟩ := List.exists_cons_of_ne_nil some
        have first := tracks.first time (by rw [clicks]; rfl)
        rw [NoDoubleClick, presses_cons_of ⟨press, counts⟩, clicks, List.isChain_cons_cons, ← first]
        exact fun ⟨far, _⟩ => near far
    next => cases cancels

end OneClick

/-! ## The invariant is kept -/

theorem initial_sound : Task.initial.Sound where
  tracks := Button.initial_tracks
  recorded := trivial
  holds := ⟨Nat.zero_le _, [], [], rfl, rfl, nofun⟩

section Steps

variable {task : Task} (sound : task.Sound) (input : Input)

include sound in
theorem longPress_sound {pressedSamples : ℕ} (point : task.point = .longPress pressedSamples) :
    (task.step input).Sound := by
  have holds := sound.holds
  rw [point] at holds
  obtain ⟨bound, hold, earlier, polls, length, pressed⟩ := holds
  obtain ⟨tracks, recorded⟩ := poll_recorded sound input
  rw [Task.step, point]
  dsimp only
  split
  next more =>
    refine ⟨tracks, recorded, ?_⟩
    obtain ⟨poll, grown, -, state, -⟩ := poll_polls task input
    cases stable : (task.poll input).button.stablePressed with
    | true =>
        refine ⟨more, poll :: hold, earlier, ?_, congrArg (· + 1) length, ?_⟩
        · rw [List.cons_append, ← polls]
          exact grown
        · rw [List.forall_mem_cons]
          exact ⟨state.trans stable, pressed⟩
    | false => exact ⟨Nat.zero_le _, [], _, rfl, rfl, nofun⟩
  next enough =>
    exact ⟨sound.tracks, sound.recorded, hold, earlier, polls, by omega, pressed⟩

include sound in
theorem warning_sound {started : UInt32} (point : task.point = .warning started) :
    (task.step input).Sound := by
  have holds := sound.holds
  rw [point] at holds
  obtain ⟨warning, hold, earlier, polls, long⟩ := holds
  obtain ⟨tracks, recorded⟩ := poll_recorded sound input
  rw [Task.step, point]
  dsimp only
  split
  next =>
    refine ⟨tracks, recorded, ?_⟩
    obtain ⟨poll, grown, -⟩ := poll_polls task input
    have same : (task.poll input).point = .warning started := point
    rw [same]
    exact ⟨poll :: warning, hold, earlier, by rw [grown, polls, List.cons_append], long⟩
  next => exact ⟨sound.tracks, sound.recorded, warning, hold, earlier, polls, long⟩

include sound in
theorem windowStart_sound (point : task.point = .windowStart) : (task.step input).Sound := by
  have holds := sound.holds
  rw [point] at holds
  obtain ⟨warning, hold, earlier, polls, long⟩ := holds
  rw [Task.step, point]
  refine ⟨sound.tracks, sound.recorded, ⟨warning, hold, earlier, polls, long, ?_, .nil⟩, ?_⟩
  · rw [← polls]
    exact sound.tracks.stable
  · exact ⟨by simp, by simp [presses], nofun⟩

include sound in
theorem window_sound {window : Window} (point : task.point = .window window) :
    (task.step input).Sound := by
  have holds := sound.holds
  rw [point] at holds
  obtain ⟨⟨warning, hold, earlier, polls, long, held, quiet⟩, windowTracks⟩ := holds
  obtain ⟨tracks, recorded⟩ := poll_recorded sound input
  rw [Task.step, point]
  dsimp only
  split
  next =>
    refine ⟨tracks, recorded, ?_⟩
    obtain ⟨poll, grown, -, -, event, now⟩ := poll_polls task input
    dsimp only
    cases click : window.click (updateButton task.button input.sample).2 input.now with
    | none => trivial
    | some after =>
        rw [← event, ← now] at click
        obtain ⟨afterTracks, stillQuiet⟩ := click_some windowTracks quiet click
        refine ⟨⟨warning, hold, earlier, ?_, long, held, ?_⟩, ?_⟩
        · simp only [grown, List.take_succ_cons, List.take_zero, List.cons_append, List.nil_append,
            polls]
        · dsimp only
          rw [grown]
          exact stillQuiet
        · dsimp only
          rw [grown]
          exact afterTracks
  next =>
    exact ⟨sound.tracks, sound.recorded, warning, hold, earlier, polls, long, held, quiet⟩

include sound in
/-- **Every step keeps the invariant.** -/
theorem step_sound : (task.step input).Sound := by
  cases point : task.point with
  | longPress pressedSamples => exact longPress_sound sound input point
  | warningStart =>
      have holds := sound.holds
      rw [point] at holds
      obtain ⟨hold, earlier, polls, long⟩ := holds
      rw [Task.step, point]
      exact ⟨sound.tracks, sound.recorded, [], hold, earlier, polls, long⟩
  | warning started => exact warning_sound sound input point
  | windowStart => exact windowStart_sound sound input point
  | window window => exact window_sound sound input point
  | cancelled =>
      rw [Task.step, point]
      exact ⟨sound.tracks, sound.recorded, trivial⟩
  | writeMarker =>
      rw [Task.step, point]
      refine ⟨sound.tracks, sound.recorded, ?_⟩
      dsimp only
      split <;> trivial
  | erase =>
      rw [Task.step, point]
      exact ⟨sound.tracks, sound.recorded, trivial⟩
  | waitForRelease =>
      rw [Task.step, point]
      dsimp only
      split
      next =>
        obtain ⟨tracks, recorded⟩ := poll_recorded sound input
        have same : (task.poll input).point = .waitForRelease := point
        exact ⟨tracks, recorded, same ▸ trivial⟩
      next =>
        exact ⟨sound.tracks, sound.recorded, Nat.zero_le _, [], task.polls, rfl, rfl, nofun⟩
  | restart =>
      rw [Task.step, point]
      exact sound

include sound in
/-- A turn of the window's loop cancels exactly when it completes a double click, and the
flash is left alone. -/
theorem window_step {window : Window} (point : task.point = .window window) :
    ((task.step input).point = .cancelled ↔
        ¬ NoDoubleClick (task.step input).held (task.step input).windowPolls) ∧
      (task.step input).flashWrites = task.flashWrites := by
  have holds := sound.holds
  rw [point] at holds
  obtain ⟨⟨-, -, -, -, -, -, quiet⟩, windowTracks⟩ := holds
  rw [Task.step, point]
  dsimp only
  split
  next =>
    refine ⟨?_, rfl⟩
    obtain ⟨poll, grown, -, -, event, now⟩ := poll_polls task input
    dsimp only
    rw [grown, ← event, ← now]
    cases click : window.click poll.event poll.now with
    | none => exact ⟨fun _ => click_none windowTracks click, fun _ => rfl⟩
    | some after =>
        have stillQuiet := (click_some windowTracks quiet click).2
        exact ⟨nofun, fun loud => absurd stillQuiet loud⟩
  next => exact ⟨⟨nofun, fun loud => absurd quiet loud⟩, rfl⟩

end Steps

/-- **The gesture.** On every sequence of samples and readings of the clock, at every moment:
the debounced state is that of the last three equal samples in a row, and so it was after
each sample; presses and releases alternate; the marker is written only after a long press
and a window without a double click; and a double click in the window cancels, without an
operation on the flash. -/
theorem gesture_exact (inputs : ℕ → Input) (time : ℕ) :
    let task := trace Task.step Task.initial inputs
    (task time).button.stablePressed = debounced ((task time).polls.map Poll.sample) ∧
      Recorded (task time).polls ∧ Alternate (task time).polls ∧
      ((task time).point = .writeMarker → Confirmed (task time)) ∧
      ∀ window, (task time).point = .window window →
        ((task (time + 1)).point = .cancelled ↔
            ¬ NoDoubleClick (task (time + 1)).held (task (time + 1)).windowPolls) ∧
          (task (time + 1)).flashWrites = (task time).flashWrites := by
  intro task
  have sound : (task time).Sound :=
    @lasts _ _ Task.step _ _ Task.Sound (fun _ event sound => step_sound sound event) _ _
      (Nat.zero_le time) initial_sound
  refine ⟨sound.tracks.stable, sound.recorded, (alternate_of_recorded sound.recorded).1,
    fun point => ?_, fun window point => window_step sound (inputs time) point⟩
  have holds := sound.holds
  rw [point] at holds
  exact holds

/-- The button is held down, and the clock is read once in twenty seconds. -/
def heldDown (time : ℕ) : Input := ⟨true, UInt32.ofNat (20000 * time), 0, true⟩

/-- Held down, the button is pressed from the third sample on. -/
theorem heldDown_longPress {count : ℕ} (positive : 1 ≤ count) (bound : count ≤ holdSamples) :
    (trace Task.step Task.initial heldDown (count + 2)).button = ⟨true, true, 3⟩ ∧
      (trace Task.step Task.initial heldDown (count + 2)).point = .longPress count := by
  induction count, positive using Nat.le_induction with
  | base => exact ⟨by decide, by rfl⟩
  | succ count _ ih =>
      obtain ⟨button, point⟩ := ih (Nat.le_of_succ_le bound)
      have more : count < holdSamples := bound
      have update : updateButton ⟨true, true, 3⟩ true = (⟨true, true, 3⟩, .none) := by decide
      rw [Nat.add_right_comm, trace, Task.step, point]
      simp [more, Task.poll, button, heldDown, update]

/-- A button that is never let go of: the window expires. -/
theorem gesture_exact_heldDown : Confirmed (trace Task.step Task.initial heldDown (506 + 1)) := by
  have hold : (trace Task.step Task.initial heldDown 502).point = .longPress holdSamples :=
    (heldDown_longPress (by decide) (Nat.le_refl _)).2
  have warned : (trace Task.step Task.initial heldDown (502 + 1)).point = .warningStart := by
    rw [trace, Task.step, hold]
    exact congrArg Task.point (if_neg (Nat.lt_irrefl _))
  have warning : (trace Task.step Task.initial heldDown (503 + 1)).point =
      .warning (heldDown 503).tick := by
    rw [trace, Task.step, warned]
  have opening : (trace Task.step Task.initial heldDown (504 + 1)).point = .windowStart := by
    rw [trace, Task.step, warning]
    exact congrArg Task.point (if_neg (by decide))
  obtain ⟨window, started, opened⟩ : ∃ window : Window,
      window.windowStarted = (heldDown 505).tick ∧
      (trace Task.step Task.initial heldDown (505 + 1)).point = .window window := by
    rw [trace, Task.step, opening]
    exact ⟨_, rfl, rfl⟩
  refine (gesture_exact heldDown (506 + 1)).2.2.2.1 ?_
  rw [trace, Task.step, opened]
  exact congrArg Task.point (if_neg (by rw [started]; decide))

end HealthCheckFirmware.FactoryReset
