import HealthCheckFirmware.Lib.Fair
import HealthCheckFirmware.Lib.SharedRing
import Mathlib.Data.List.Forall2
import Mathlib.Logic.Function.Basic

/-!
# The receive ring

The receive descriptors of `ethernet_ll.c` and the loop of
`NetworkInterface_ProcessInput`, which takes frames out of them. The DMA fills a
descriptor that has its ownership bit set and clears the bit; the driver looks at the
descriptor under its own index, copies the frame byte by byte, and gives the descriptor
back by setting the bit. Every step of either may fall between two steps of the other.

`Receiver.Sound` is the invariant: the descriptors that the DMA has completed and the
driver has not given back are those from the driver's index up to the DMA's position.
Everything else follows from it.
-/

set_option autoImplicit false

namespace HealthCheckFirmware.EthernetMac

open SharedRing

/-! ## Descriptors -/

/-- `ETHERNET_RX_DESCRIPTOR_COUNT`. -/
def receiveDescriptorCount : ℕ := 8

/-- `ETHERNET_BUFFER_SIZE`. -/
def bufferSize : ℕ := 1536

instance : NeZero receiveDescriptorCount := ⟨by decide⟩

/-- `ETHERNET_RX_OWN`, the same bit as `ETHERNET_TX_OWN`. -/
def ownBit : UInt32 := (1 : UInt32) <<< (31 : UInt32)

def receiveErrorBit : UInt32 := (1 : UInt32) <<< (15 : UInt32)
def firstSegmentBit : UInt32 := (1 : UInt32) <<< (9 : UInt32)
def lastSegmentBit : UInt32 := (1 : UInt32) <<< (8 : UInt32)

/-- `ETHERNET_RX_FRAME_LENGTH`. -/
def frameLength (status : UInt32) : ℕ := ((status >>> 16) &&& 0x3FFF).toNat

abbrev Buffer := Vector UInt8 bufferSize

/-- The DMA owns the descriptor. -/
def Owned (status : UInt32) : Prop := status &&& ownBit ≠ 0

instance (status : UInt32) : Decidable (Owned status) := inferInstanceAs (Decidable (_ ≠ _))

theorem owned_ownBit : Owned ownBit := by decide

theorem not_owned_cleared (status : UInt32) : ¬ Owned (status &&& ~~~ownBit) := by
  rw [Owned, UInt32.and_assoc, UInt32.not_and_self, UInt32.and_zero]
  exact fun differs => differs rfl

/-- A receive descriptor and its buffer. -/
structure ReceiveSlot where
  status : UInt32
  buffer : Buffer

/-- What `EthernetMac_GetReceivedFrame` returns, and the length on success. -/
inductive Received where
  | noFrame
  | frameError
  | frameTooLarge
  | ok (length : ℕ)
  deriving DecidableEq

/-- `EthernetMac_GetReceivedFrame`, given the status word that it reads. -/
def getReceivedFrame (status : UInt32) : Received :=
  if status &&& ownBit ≠ 0 then .noFrame
  else if status &&& receiveErrorBit ≠ 0 ∨ status &&& firstSegmentBit = 0 ∨
      status &&& lastSegmentBit = 0 ∨ frameLength status < 4 then .frameError
  else if frameLength status - 4 > bufferSize then .frameTooLarge
  else .ok (frameLength status - 4)

/-- A frame without errors in a single descriptor, whose data after the check sequence is
cut off fits a buffer. -/
structure Admissible (status : UInt32) (length : ℕ) : Prop where
  noError : status &&& receiveErrorBit = 0
  first : status &&& firstSegmentBit ≠ 0
  last : status &&& lastSegmentBit ≠ 0
  length_eq : frameLength status = length + 4
  fits : length ≤ bufferSize

theorem getReceivedFrame_ok_iff {status : UInt32} {length : ℕ} :
    getReceivedFrame status = .ok length ↔ ¬ Owned status ∧ Admissible status length := by
  rw [getReceivedFrame, Owned]
  split
  next owned => simp [owned]
  next free =>
    split
    next bad =>
      refine ⟨nofun, fun ⟨_, admissible⟩ => ?_⟩
      have size := admissible.length_eq
      rcases bad with error | first | last | short
      · exact absurd admissible.noError error
      · exact absurd first admissible.first
      · exact absurd last admissible.last
      · omega
    next good =>
      obtain ⟨noError, first, last, long⟩ : status &&& receiveErrorBit = 0 ∧
          status &&& firstSegmentBit ≠ 0 ∧ status &&& lastSegmentBit ≠ 0 ∧
          4 ≤ frameLength status := by
        refine ⟨?_, ?_, ?_, ?_⟩ <;> by_contra differs <;> simp_all
      split
      next large =>
        refine ⟨nofun, fun ⟨_, admissible⟩ => ?_⟩
        have size := admissible.length_eq
        have fits := admissible.fits
        omega
      next fits =>
        constructor
        · intro same
          cases same
          exact ⟨free, noError, first, last, by omega, by omega⟩
        · rintro ⟨_, admissible⟩
          have size := admissible.length_eq
          rw [size, Nat.add_sub_cancel]

theorem getReceivedFrame_noFrame_iff {status : UInt32} :
    getReceivedFrame status = .noFrame ↔ Owned status := by
  rw [getReceivedFrame, Owned]
  split
  next owned => simp [owned]
  next free =>
    split
    · simp [free]
    · split <;> simp [free]

/-! ## The ring in operation -/

/-- What became of a completed descriptor: its frame was passed to the network stack, was
dropped because no packet buffer could be had, or it held no such frame. -/
inductive Fate where
  | presented (frame : List UInt8)
  | dropped
  | returned
  deriving DecidableEq

/-- Where the driver is in `NetworkInterface_ProcessInput`: before it reads the status, before
`pbuf_alloc`, in the copy of `pbuf_take`, before `EthernetMac_ReleaseReceivedFrame` sets the
ownership bit, and before it moves its index on. -/
inductive InputStage where
  | poll
  | allocate (length : ℕ)
  | take (length : ℕ) (packet : List UInt8)
  | release (fate : Fate)
  | advance

/-- The receive side. `position` is the descriptor that the DMA comes to next. The lists
are the history: the descriptors completed, the packets passed to the network stack, the
fates of the descriptors given back, and how often there was no packet buffer. -/
structure Receiver where
  slots : Fin receiveDescriptorCount → ReceiveSlot
  index : Fin receiveDescriptorCount
  position : Fin receiveDescriptorCount
  stage : InputStage
  arrivals : List ReceiveSlot
  inputs : List (List UInt8)
  released : List Fate
  shortages : ℕ

/-- The ring as `EthernetMac_Init` sets it up. -/
def Receiver.initial (buffers : Fin receiveDescriptorCount → Buffer) : Receiver where
  slots index := ⟨ownBit, buffers index⟩
  index := ⟨0, by decide⟩
  position := ⟨0, by decide⟩
  stage := .poll
  arrivals := []
  inputs := []
  released := []
  shortages := 0

/-- A step of the receive side: the DMA completes a descriptor with a status word and a
content of the buffer, or the driver takes its next step. The flag says whether
`pbuf_alloc` finds a packet buffer. -/
inductive ReceiveEvent where
  | dma (status : UInt32) (buffer : Buffer)
  | driver (allocates : Bool)

namespace Receiver

/-- The DMA completes its next descriptor, if it owns it. -/
def complete (receiver : Receiver) (status : UInt32) (buffer : Buffer) : Receiver :=
  if Owned (receiver.slots receiver.position).status then
    let slot : ReceiveSlot := ⟨status &&& ~~~ownBit, buffer⟩
    { receiver with
      slots := Function.update receiver.slots receiver.position slot
      position := next receiver.position
      arrivals := receiver.arrivals ++ [slot] }
  else receiver

/-- The driver's next step. -/
def proceed (receiver : Receiver) (allocates : Bool) : Receiver :=
  match receiver.stage with
  | .poll =>
      match getReceivedFrame (receiver.slots receiver.index).status with
      | .noFrame => receiver
      | .frameError => { receiver with stage := .release .returned }
      | .frameTooLarge => { receiver with stage := .release .returned }
      | .ok length => { receiver with stage := .allocate length }
  | .allocate length =>
      if allocates then { receiver with stage := .take length [] }
      else { receiver with stage := .release .dropped, shortages := receiver.shortages + 1 }
  | .take length packet =>
      if packet.length < length then
        let byte := (receiver.slots receiver.index).buffer.toList.getD packet.length 0
        { receiver with stage := .take length (packet ++ [byte]) }
      else
        { receiver with
          stage := .release (.presented packet)
          inputs := receiver.inputs ++ [packet] }
  | .release fate =>
      { receiver with
        slots := Function.update receiver.slots receiver.index
          { receiver.slots receiver.index with status := ownBit }
        released := receiver.released ++ [fate]
        stage := .advance }
  | .advance => { receiver with index := next receiver.index, stage := .poll }

/-- The DMA and the driver take their steps in any order. -/
def step (receiver : Receiver) : ReceiveEvent → Receiver
  | .dma status buffer => receiver.complete status buffer
  | .driver allocates => receiver.proceed allocates

/-- The buffer that the driver's next step reads. -/
def reads (receiver : Receiver) : Option (Fin receiveDescriptorCount) :=
  match receiver.stage with
  | .take length packet => if packet.length < length then some receiver.index else none
  | _ => none

/-- The descriptor that the driver's next step gives back. -/
def givesBack (receiver : Receiver) : Option (Fin receiveDescriptorCount) :=
  match receiver.stage with
  | .release _ => some receiver.index
  | _ => none

end Receiver

/-! ## What is to hold -/

/-- The fate that a completed descriptor may have. -/
inductive Settles : Fate → ReceiveSlot → Prop
  | presented {slot : ReceiveSlot} {length : ℕ} (admissible : Admissible slot.status length) :
      Settles (.presented (slot.buffer.toList.take length)) slot
  | dropped {slot : ReceiveSlot} {length : ℕ} (admissible : Admissible slot.status length) :
      Settles .dropped slot
  | returned {slot : ReceiveSlot} (other : ∀ length, ¬ Admissible slot.status length) :
      Settles .returned slot

/-- The packet that was passed on. -/
def Fate.frame : Fate → Option (List UInt8)
  | .presented frame => some frame
  | .dropped => none
  | .returned => none

/-- The fate that has been decided, but whose descriptor is not given back yet. -/
def InputStage.decided : InputStage → List Fate
  | .poll => []
  | .allocate _ => []
  | .take _ _ => []
  | .release fate => [fate]
  | .advance => []

/-- What has been done with the frames received. The descriptors given back are the first
of those completed, each once and in their order, and each with a fate that its status
allows; the packets passed to the network stack are those of the fates decided; as many
were dropped as there were shortages of packet buffers; and when the driver finds no
frame, all descriptors completed have been given back. -/
structure Receiver.Correct (receiver : Receiver) : Prop where
  settled : List.Forall₂ Settles receiver.released
    (receiver.arrivals.take receiver.released.length)
  inputs : receiver.inputs = (receiver.released ++ receiver.stage.decided).filterMap Fate.frame
  dropped : (receiver.released ++ receiver.stage.decided).count .dropped = receiver.shortages
  caughtUp : receiver.stage = .poll → Owned (receiver.slots receiver.index).status →
    receiver.released.length = receiver.arrivals.length

/-! ## The invariant -/

/-- The descriptor that the driver comes to next: under its index, but for the step after it
has given a descriptor back. -/
def Receiver.upcoming (receiver : Receiver) : Fin receiveDescriptorCount :=
  match receiver.stage with
  | .advance => next receiver.index
  | _ => receiver.index

/-- What the driver knows of the descriptor under its index. -/
def InputStage.Knows : InputStage → ReceiveSlot → Prop
  | .poll, _ => True
  | .allocate length, slot => ¬ Owned slot.status ∧ Admissible slot.status length
  | .take length packet, slot => ¬ Owned slot.status ∧ Admissible slot.status length ∧
      packet.length ≤ length ∧ packet = slot.buffer.toList.take packet.length
  | .release fate, slot => ¬ Owned slot.status ∧ Settles fate slot
  | .advance, _ => True

structure Receiver.Sound (receiver : Receiver) : Prop where
  ring : Holds (fun slot => ¬ Owned (receiver.slots slot).status) receiver.slots
    receiver.arrivals receiver.released.length
  upcoming_eq : receiver.upcoming = slotOf receiveDescriptorCount receiver.released.length
  position_eq : receiver.position = slotOf receiveDescriptorCount receiver.arrivals.length
  settled : List.Forall₂ Settles receiver.released
    (receiver.arrivals.take receiver.released.length)
  knows : receiver.stage.Knows (receiver.slots receiver.index)
  inputs : receiver.inputs = (receiver.released ++ receiver.stage.decided).filterMap Fate.frame
  dropped : (receiver.released ++ receiver.stage.decided).count .dropped = receiver.shortages

namespace Receiver

variable {receiver : Receiver}

theorem initial_sound (buffers : Fin receiveDescriptorCount → Buffer) :
    (initial buffers).Sound where
  ring := Holds.empty fun _ free => free owned_ownBit
  upcoming_eq := rfl
  position_eq := rfl
  settled := .nil
  knows := trivial
  inputs := rfl
  dropped := rfl

/-- The DMA does not change a descriptor that it does not own. -/
theorem complete_slot {status : UInt32} {buffer : Buffer} {slot : Fin receiveDescriptorCount}
    (free : ¬ Owned (receiver.slots slot).status) :
    (receiver.complete status buffer).slots slot = receiver.slots slot := by
  rw [complete]
  split
  next owned =>
    have elsewhere : slot ≠ receiver.position := fun same => free (same ▸ owned)
    exact Function.update_of_ne elsewhere _ _
  next => rfl

theorem complete_sound (sound : receiver.Sound) (status : UInt32) (buffer : Buffer) :
    (receiver.complete status buffer).Sound := by
  by_cases owned : Owned (receiver.slots receiver.position).status
  · have knows : receiver.stage.Knows ((receiver.complete status buffer).slots receiver.index) := by
      have known := sound.knows
      cases stage : receiver.stage with
      | poll => trivial
      | allocate length =>
          rw [stage] at known
          rw [complete_slot known.1]
          exact known
      | take length packet =>
          rw [stage] at known
          rw [complete_slot known.1]
          exact known
      | release fate =>
          rw [stage] at known
          rw [complete_slot known.1]
          exact known
      | advance => trivial
    have atEnd := sound.position_eq
    rw [complete, if_pos owned] at knows ⊢
    refine ⟨?_, sound.upcoming_eq, ?_, ?_, knows, sound.inputs, sound.dropped⟩
    · rw [atEnd]
      rw [atEnd] at owned
      refine sound.ring.put (not_not.mpr owned) (fun slot => ?_) ?_ (fun slot elsewhere => ?_)
      · by_cases same : slot = slotOf receiveDescriptorCount receiver.arrivals.length
        · simp [same, not_owned_cleared]
        · simp [same]
      · exact Function.update_self _ _ _
      · exact Function.update_of_ne elsewhere _ _
    · simp only [List.length_append, List.length_singleton]
      rw [slotOf_succ, atEnd]
    · have short := sound.ring.begun
      simp only [List.take_append_of_le_length short]
      exact sound.settled
  · rw [complete, if_neg owned]
    exact sound

/-- A step that only moves the driver on from one of its stages before the last. -/
theorem Sound.move (sound : receiver.Sound) (here : receiver.upcoming = receiver.index)
    (stage : InputStage) (there : stage ≠ .advance)
    (knows : stage.Knows (receiver.slots receiver.index)) {inputs : List (List UInt8)}
    (inputs_eq : inputs = (receiver.released ++ stage.decided).filterMap Fate.frame)
    {shortages : ℕ}
    (dropped_eq : (receiver.released ++ stage.decided).count .dropped = shortages) :
    Sound { receiver with stage := stage, inputs := inputs, shortages := shortages } := by
  refine ⟨sound.ring, ?_, sound.position_eq, sound.settled, knows, inputs_eq, dropped_eq⟩
  rw [← sound.upcoming_eq, here]
  cases stage with
  | poll => rfl
  | allocate length => rfl
  | take length packet => rfl
  | release fate => rfl
  | advance => exact absurd rfl there

theorem poll_sound (sound : receiver.Sound) (stage : receiver.stage = .poll) (allocates : Bool) :
    (receiver.proceed allocates).Sound := by
  have here : receiver.upcoming = receiver.index := by rw [upcoming, stage]
  have inputs := sound.inputs
  have dropped := sound.dropped
  rw [stage, InputStage.decided, List.append_nil] at inputs dropped
  -- A descriptor without an admissible frame is on its way back at once.
  have bad (other : ∀ length, getReceivedFrame (receiver.slots receiver.index).status ≠ .ok length)
      (found : getReceivedFrame (receiver.slots receiver.index).status ≠ .noFrame) :
      Sound { receiver with stage := .release .returned } := by
    have free := mt getReceivedFrame_noFrame_iff.mpr found
    refine sound.move here (.release .returned) nofun ⟨free, .returned fun length admissible => ?_⟩ ?_ ?_
    · exact other length (getReceivedFrame_ok_iff.mpr ⟨free, admissible⟩)
    · simpa [InputStage.decided, List.filterMap_cons, Fate.frame] using inputs
    · simpa [InputStage.decided] using dropped
  rw [proceed, stage]
  cases received : getReceivedFrame (receiver.slots receiver.index).status with
  | noFrame => exact sound
  | frameError => exact bad (by simp [received]) (by simp [received])
  | frameTooLarge => exact bad (by simp [received]) (by simp [received])
  | ok length =>
      refine sound.move here (.allocate length) nofun (getReceivedFrame_ok_iff.mp received) ?_ ?_
      · simpa [InputStage.decided] using inputs
      · simpa [InputStage.decided] using dropped

theorem allocate_sound (sound : receiver.Sound) {length : ℕ}
    (stage : receiver.stage = .allocate length) (allocates : Bool) :
    (receiver.proceed allocates).Sound := by
  have here : receiver.upcoming = receiver.index := by rw [upcoming, stage]
  have inputs := sound.inputs
  have dropped := sound.dropped
  have knows := sound.knows
  rw [stage] at knows inputs dropped
  obtain ⟨free, admissible⟩ := knows
  rw [InputStage.decided, List.append_nil] at inputs dropped
  rw [proceed, stage]
  cases allocates with
  | true =>
      refine sound.move here (.take length []) nofun ⟨free, admissible, Nat.zero_le _, rfl⟩ ?_ ?_
      · simpa [InputStage.decided] using inputs
      · simpa [InputStage.decided] using dropped
  | false =>
      refine sound.move here (.release .dropped) nofun ⟨free, .dropped admissible⟩ ?_ ?_
      · simpa [InputStage.decided, List.filterMap_cons, Fate.frame] using inputs
      · simpa [InputStage.decided] using dropped

theorem take_sound (sound : receiver.Sound) {length : ℕ} {packet : List UInt8}
    (stage : receiver.stage = .take length packet) (allocates : Bool) :
    (receiver.proceed allocates).Sound := by
  have here : receiver.upcoming = receiver.index := by rw [upcoming, stage]
  have inputs := sound.inputs
  have dropped := sound.dropped
  have knows := sound.knows
  rw [stage] at knows inputs dropped
  obtain ⟨free, admissible, short, copied⟩ := knows
  rw [InputStage.decided, List.append_nil] at inputs dropped
  rw [proceed, stage]
  dsimp only
  split
  next more =>
    have inside : packet.length < (receiver.slots receiver.index).buffer.toList.length := by
      rw [Vector.length_toList]
      exact Nat.lt_of_lt_of_le more admissible.fits
    refine sound.move here (.take length (packet ++ [_])) nofun ⟨free, admissible, ?_, ?_⟩ ?_ ?_
    · rw [List.length_append, List.length_singleton]
      exact more
    · rw [List.length_append, List.length_singleton, List.take_add_one, ← copied,
        List.getD_eq_getElem?_getD, List.getElem?_eq_getElem inside]
      rfl
    · simpa [InputStage.decided] using inputs
    · simpa [InputStage.decided] using dropped
  next all =>
    have whole : packet.length = length := by omega
    have settles : Settles (.presented packet) (receiver.slots receiver.index) := by
      rw [copied, whole]
      exact .presented admissible
    refine sound.move here (.release (.presented packet)) nofun ⟨free, settles⟩ ?_ ?_
    · simp [InputStage.decided, Fate.frame, inputs]
    · simpa [InputStage.decided] using dropped

theorem release_sound (sound : receiver.Sound) {fate : Fate}
    (stage : receiver.stage = .release fate) (allocates : Bool) :
    (receiver.proceed allocates).Sound := by
  have inputs := sound.inputs
  have dropped := sound.dropped
  have knows := sound.knows
  have here := sound.upcoming_eq
  rw [stage] at knows inputs dropped
  rw [upcoming, stage] at here
  dsimp only at here
  obtain ⟨free, settles⟩ := knows
  have waiting : receiver.released.length < receiver.arrivals.length :=
    sound.ring.full_first.mp (here ▸ free)
  have content := sound.ring.content_eq _ waiting (Nat.le_refl _)
  rw [← here] at content
  rw [proceed, stage]
  refine ⟨?_, ?_, sound.position_eq, ?_, trivial, ?_, ?_⟩
  · rw [List.length_append, List.length_singleton]
    refine sound.ring.take waiting (fun slot => ?_) (fun slot elsewhere => ?_)
    · rw [← here]
      by_cases same : slot = receiver.index
      · simp [same, owned_ownBit]
      · simp [same]
    · rw [← here] at elsewhere
      exact Function.update_of_ne elsewhere _ _
  · rw [List.length_append, List.length_singleton, slotOf_succ, ← here]
    rfl
  · rw [List.length_append, List.length_singleton, List.take_add_one,
      List.getElem?_eq_getElem waiting]
    exact List.rel_append sound.settled (.cons (content ▸ settles) .nil)
  · simpa [InputStage.decided] using inputs
  · simpa [InputStage.decided] using dropped

theorem advance_sound (sound : receiver.Sound) (stage : receiver.stage = .advance)
    (allocates : Bool) : (receiver.proceed allocates).Sound := by
  have inputs := sound.inputs
  have dropped := sound.dropped
  have there := sound.upcoming_eq
  rw [stage] at inputs dropped
  rw [upcoming, stage] at there
  rw [proceed, stage]
  exact ⟨sound.ring, there, sound.position_eq, sound.settled, trivial, inputs, dropped⟩

/-- **Every step keeps the invariant**, whoever takes it. -/
theorem step_sound (sound : receiver.Sound) (event : ReceiveEvent) :
    (receiver.step event).Sound := by
  cases event with
  | dma status buffer => exact complete_sound sound status buffer
  | driver allocates =>
      rw [step]
      cases stage : receiver.stage with
      | poll => exact poll_sound sound stage allocates
      | allocate length => exact allocate_sound sound stage allocates
      | take length packet => exact take_sound sound stage allocates
      | release fate => exact release_sound sound stage allocates
      | advance => exact advance_sound sound stage allocates

/-! ## What follows from the invariant -/

theorem Sound.correct (sound : receiver.Sound) : receiver.Correct where
  settled := sound.settled
  inputs := sound.inputs
  dropped := sound.dropped
  caughtUp stage owned := by
    have here := sound.upcoming_eq
    rw [upcoming, stage] at here
    dsimp only at here
    rw [here] at owned
    have none := mt sound.ring.full_first.mpr (not_not.mpr owned)
    have begun := sound.ring.begun
    omega

/-- The driver reads no buffer that the DMA owns. -/
theorem Sound.reads_free (sound : receiver.Sound) {slot : Fin receiveDescriptorCount}
    (read : receiver.reads = some slot) : ¬ Owned (receiver.slots slot).status := by
  have knows := sound.knows
  cases stage : receiver.stage with
  | take length packet =>
      rw [stage] at knows
      rw [reads, stage] at read
      dsimp only at read
      split at read
      · cases read
        exact knows.1
      · cases read
  | poll => simp [reads, stage] at read
  | allocate length => simp [reads, stage] at read
  | release fate => simp [reads, stage] at read
  | advance => simp [reads, stage] at read

/-- The driver gives back no descriptor that the DMA owns. -/
theorem Sound.givesBack_free (sound : receiver.Sound) {slot : Fin receiveDescriptorCount}
    (given : receiver.givesBack = some slot) : ¬ Owned (receiver.slots slot).status := by
  have knows := sound.knows
  cases stage : receiver.stage with
  | release fate =>
      rw [stage] at knows
      rw [givesBack, stage] at given
      cases given
      exact knows.1
  | poll => simp [givesBack, stage] at given
  | allocate length => simp [givesBack, stage] at given
  | take length packet => simp [givesBack, stage] at given
  | advance => simp [givesBack, stage] at given

/-! ## Progress -/

/-- How many steps the driver is from giving back a descriptor, at most. -/
def distance (receiver : Receiver) : ℕ :=
  match receiver.stage with
  | .advance => bufferSize + 5
  | .poll => bufferSize + 4
  | .allocate _ => bufferSize + 3
  | .take length packet => length - packet.length + 2
  | .release _ => 1

/-- How many steps the driver is from having given back a number of descriptors. -/
def remaining (count : ℕ) (receiver : Receiver) : ℕ :=
  (count - receiver.released.length) * (bufferSize + 6) + receiver.distance

theorem arrivals_grow (receiver : Receiver) (event : ReceiveEvent) :
    receiver.arrivals <+: (receiver.step event).arrivals := by
  cases event with
  | dma status buffer =>
      rw [step, complete]
      split
      · exact List.prefix_append _ _
      · exact List.prefix_refl _
  | driver allocates =>
      have same : (receiver.proceed allocates).arrivals = receiver.arrivals := by
        rw [proceed]
        split
        · split <;> rfl
        · split <;> rfl
        · split <;> rfl
        · rfl
        · rfl
      simp only [step, same, List.prefix_rfl]

theorem remaining_complete (count : ℕ) (status : UInt32) (buffer : Buffer) :
    (receiver.complete status buffer).remaining count = receiver.remaining count := by
  rw [complete]
  split <;> rfl

/-- **Each step of the driver brings it closer** to giving back a descriptor that has been
completed. -/
theorem remaining_proceed (sound : receiver.Sound) {count : ℕ}
    (waiting : receiver.released.length < count) (arrived : count ≤ receiver.arrivals.length)
    (allocates : Bool) : (receiver.proceed allocates).remaining count < receiver.remaining count := by
  have knows := sound.knows
  have here := sound.upcoming_eq
  cases stage : receiver.stage with
  | poll =>
      rw [upcoming, stage] at here
      dsimp only at here
      have free : ¬ Owned (receiver.slots receiver.index).status := by
        rw [here]
        exact sound.ring.full_first.mpr (Nat.lt_of_lt_of_le waiting arrived)
      rw [proceed, stage]
      cases received : getReceivedFrame (receiver.slots receiver.index).status with
      | noFrame => exact absurd (getReceivedFrame_noFrame_iff.mp received) free
      | frameError => simp [remaining, distance, stage]
      | frameTooLarge => simp [remaining, distance, stage]
      | ok length => simp [remaining, distance, stage]
  | allocate length =>
      rw [stage] at knows
      have fits := knows.2.fits
      rw [proceed, stage]
      cases allocates with
      | true =>
          simp only [remaining, distance, stage, if_true, List.length_nil]
          omega
      | false => simp [remaining, distance, stage]
  | take length packet =>
      rw [proceed, stage]
      dsimp only
      split
      next more =>
        simp only [remaining, distance, stage, List.length_append, List.length_singleton]
        omega
      next => simp [remaining, distance, stage]
  | release fate =>
      have one : count - receiver.released.length =
          count - (receiver.released.length + 1) + 1 := by omega
      rw [proceed, stage]
      simp only [remaining, distance, stage, List.length_append, List.length_singleton, one,
        Nat.add_one_mul]
      omega
  | advance =>
      rw [proceed, stage]
      simp [remaining, distance, stage]

end Receiver

end HealthCheckFirmware.EthernetMac
