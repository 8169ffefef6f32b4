import HealthCheckFirmware.Ethernet.Receive

/-!
# The transmit ring

The transmit descriptors of `ethernet_ll.c`. `EthernetMac_Transmit` copies a frame into the
buffer under its index, byte by byte, sets the length and then the ownership bit, and
moves its index on; the DMA sends the frames of the descriptors that it owns in the order
of the ring and clears the bit. Every step of either may fall between two steps of the
other.

`Transmitter.Sound` is the invariant: the descriptors that the DMA owns are those from its
position up to the driver's index, and they hold the frames accepted but not yet sent.
-/

set_option autoImplicit false

namespace HealthCheckFirmware.EthernetMac

open SharedRing

/-! ## Descriptors -/

/-- `ETHERNET_TX_DESCRIPTOR_COUNT`. -/
def transmitDescriptorCount : ℕ := 8

instance : NeZero transmitDescriptorCount := ⟨by decide⟩

/-- `ETHERNET_TX_CHAINED`. -/
def transmitChainedBit : UInt32 := (1 : UInt32) <<< (20 : UInt32)

/-- The status word with which a descriptor is handed to the DMA. -/
def transmitStatus : UInt32 :=
  ownBit ||| (1 : UInt32) <<< (28 : UInt32) ||| (1 : UInt32) <<< (29 : UInt32) |||
    (3 : UInt32) <<< (22 : UInt32) ||| transmitChainedBit

theorem owned_transmitStatus : Owned transmitStatus := by decide

theorem not_owned_chained : ¬ Owned transmitChainedBit := by decide

/-- A transmit descriptor and its buffer. -/
structure TransmitSlot where
  status : UInt32
  control : UInt32
  buffer : Buffer

/-- The frame that the DMA sends from a descriptor. The length of the buffer is the low
thirteen bits of the control word. -/
def TransmitSlot.frame (slot : TransmitSlot) : List UInt8 :=
  slot.buffer.toList.take (slot.control.toNat % 2 ^ 13)

/-! ## The ring in operation -/

/-- Where the driver is in `EthernetMac_Transmit`: outside of it, in the copy, before the
length is set, before the ownership bit is set, and before it moves its index on. -/
inductive TransmitStage where
  | idle
  | copy (frame : List UInt8) (done : ℕ)
  | control (frame : List UInt8)
  | own (frame : List UInt8)
  | advance (frame : List UInt8)

/-- The transmit side. `position` is the descriptor that the DMA comes to next; `accepted`
and `sent` are the history. -/
structure Transmitter where
  slots : Fin transmitDescriptorCount → TransmitSlot
  index : Fin transmitDescriptorCount
  position : Fin transmitDescriptorCount
  stage : TransmitStage
  accepted : List (List UInt8)
  sent : List (List UInt8)

/-- The ring as `EthernetMac_Init` sets it up. -/
def Transmitter.initial (buffers : Fin transmitDescriptorCount → Buffer) : Transmitter where
  slots index := ⟨transmitChainedBit, 0, buffers index⟩
  index := ⟨0, by decide⟩
  position := ⟨0, by decide⟩
  stage := .idle
  accepted := []
  sent := []

/-- A step of the transmit side: the network stack passes a packet to
`networkInterface_Output`, the driver takes its next step in `EthernetMac_Transmit`, or the
DMA sends a frame and reports a status word. -/
inductive TransmitEvent where
  | output (packet : List UInt8)
  | driver
  | dma (status : UInt32)

/-- What `EthernetMac_Transmit` does not accept. -/
inductive Refusal where
  | invalidArgument
  | frameTooLarge
  | transmitBusy
  deriving DecidableEq

/-- `NETWORK_INTERFACE_FRAME_SIZE`. -/
def networkFrameSize : ℕ := 1536

namespace Transmitter

/-- The tests at the start of `EthernetMac_Transmit`. -/
def refuses (transmitter : Transmitter) (frame : List UInt8) : Option Refusal :=
  if frame.length = 0 then some .invalidArgument
  else if frame.length > bufferSize then some .frameTooLarge
  else if Owned (transmitter.slots transmitter.index).status then some .transmitBusy
  else none

/-- `networkInterface_Output` up to the copy of the frame into the ring. A packet that is
refused leaves everything as it is. -/
def output (transmitter : Transmitter) (packet : List UInt8) : Transmitter :=
  match transmitter.stage with
  | .idle =>
      if packet.length > networkFrameSize then transmitter
      else
        match transmitter.refuses packet with
        | some _ => transmitter
        | none => { transmitter with stage := .copy packet 0 }
  | _ => transmitter

/-- The driver's next step in `EthernetMac_Transmit`. -/
def proceed (transmitter : Transmitter) : Transmitter :=
  let slot := transmitter.slots transmitter.index
  match transmitter.stage with
  | .idle => transmitter
  | .copy frame done =>
      if done < frame.length then
        { transmitter with
          slots := Function.update transmitter.slots transmitter.index
            { slot with buffer := slot.buffer.setIfInBounds done (frame.getD done 0) }
          stage := .copy frame (done + 1) }
      else { transmitter with stage := .control frame }
  | .control frame =>
      { transmitter with
        slots := Function.update transmitter.slots transmitter.index
          { slot with control := UInt32.ofNat frame.length }
        stage := .own frame }
  | .own frame =>
      { transmitter with
        slots := Function.update transmitter.slots transmitter.index
          { slot with status := transmitStatus }
        stage := .advance frame }
  | .advance frame =>
      { transmitter with
        index := next transmitter.index
        accepted := transmitter.accepted ++ [frame]
        stage := .idle }

/-- The DMA sends the frame of its next descriptor, if it owns it. -/
def send (transmitter : Transmitter) (status : UInt32) : Transmitter :=
  let slot := transmitter.slots transmitter.position
  if Owned slot.status then
    { transmitter with
      slots := Function.update transmitter.slots transmitter.position
        { slot with status := status &&& ~~~ownBit }
      position := next transmitter.position
      sent := transmitter.sent ++ [slot.frame] }
  else transmitter

/-- The stack hands over a packet, or the driver or the DMA takes its next step. -/
def step (transmitter : Transmitter) : TransmitEvent → Transmitter
  | .output packet => transmitter.output packet
  | .driver => transmitter.proceed
  | .dma status => transmitter.send status

/-- The buffer that the driver's next step writes to. -/
def writes (transmitter : Transmitter) : Option (Fin transmitDescriptorCount) :=
  match transmitter.stage with
  | .copy frame done => if done < frame.length then some transmitter.index else none
  | _ => none

end Transmitter

/-! ## What is to hold -/

/-- The frame that has been handed to the DMA by a call that is about to return. -/
def TransmitStage.handed : TransmitStage → List (List UInt8)
  | .idle => []
  | .copy _ _ => []
  | .control _ => []
  | .own _ => []
  | .advance frame => [frame]

/-- The frames handed to the DMA: those accepted, and that of a call about to return. -/
def Transmitter.handed (transmitter : Transmitter) : List (List UInt8) :=
  transmitter.accepted ++ transmitter.stage.handed

/-- What has been done with the frames accepted. Those sent are the first of those handed
to the DMA, each once and in their order, and as long as one is missing the DMA owns the
descriptor that it comes to next. -/
structure Transmitter.Correct (transmitter : Transmitter) : Prop where
  sent : transmitter.sent <+: transmitter.handed
  waiting : transmitter.sent.length < transmitter.handed.length ↔
    Owned (transmitter.slots transmitter.position).status

/-! ## The invariant -/

/-- The descriptor that the driver comes to next. -/
def Transmitter.upcoming (transmitter : Transmitter) : Fin transmitDescriptorCount :=
  match transmitter.stage with
  | .advance _ => next transmitter.index
  | _ => transmitter.index

/-- What the driver has done to the descriptor under its index. -/
def TransmitStage.Prepares : TransmitStage → TransmitSlot → Prop
  | .idle, _ => True
  | .copy frame done, slot => ¬ Owned slot.status ∧ frame.length ≤ bufferSize ∧
      done ≤ frame.length ∧ slot.buffer.toList.take done = frame.take done
  | .control frame, slot => ¬ Owned slot.status ∧ frame.length ≤ bufferSize ∧
      slot.buffer.toList.take frame.length = frame
  | .own frame, slot => ¬ Owned slot.status ∧ slot.frame = frame
  | .advance _, _ => True

structure Transmitter.Sound (transmitter : Transmitter) : Prop where
  ring : Holds (fun slot => Owned (transmitter.slots slot).status)
    (fun slot => (transmitter.slots slot).frame) transmitter.handed transmitter.sent.length
  upcoming_eq : transmitter.upcoming = slotOf transmitDescriptorCount transmitter.handed.length
  position_eq : transmitter.position = slotOf transmitDescriptorCount transmitter.sent.length
  sent : transmitter.sent <+: transmitter.handed
  prepares : transmitter.stage.Prepares (transmitter.slots transmitter.index)

namespace Transmitter

variable {transmitter : Transmitter}

theorem initial_sound (buffers : Fin transmitDescriptorCount → Buffer) :
    (initial buffers).Sound where
  ring := Holds.empty fun _ => not_owned_chained
  upcoming_eq := rfl
  position_eq := rfl
  sent := List.prefix_rfl
  prepares := trivial

/-- Changing a descriptor that the DMA does not own does not change the queue. -/
theorem Sound.ring_update (sound : transmitter.Sound) {slot : TransmitSlot}
    (before : ¬ Owned (transmitter.slots transmitter.index).status)
    (after : ¬ Owned slot.status) :
    Holds (fun place => Owned (Function.update transmitter.slots transmitter.index slot place).status)
      (fun place => (Function.update transmitter.slots transmitter.index slot place).frame)
      transmitter.handed transmitter.sent.length := by
  refine sound.ring.of_agree (fun place => ?_) (fun place owned => ?_)
  · by_cases same : place = transmitter.index
    · simp [same, before, after]
    · simp [same]
  · have elsewhere : place ≠ transmitter.index := fun same => before (same ▸ owned)
    simp [elsewhere]

theorem output_sound (sound : transmitter.Sound) (packet : List UInt8) :
    (transmitter.output packet).Sound := by
  rw [output]
  split
  next idle =>
    split
    next => exact sound
    next =>
      cases refused : transmitter.refuses packet with
      | some refusal => exact sound
      | none =>
          have upcoming := sound.upcoming_eq
          have sent := sound.sent
          have ring := sound.ring
          simp only [handed, Transmitter.upcoming, idle] at upcoming sent ring
          rw [refuses] at refused
          split at refused
          · cases refused
          split at refused
          · cases refused
          next fits =>
            split at refused
            · cases refused
            next free =>
              exact ⟨ring, upcoming, sound.position_eq, sent, free, Nat.not_lt.mp fits,
                Nat.zero_le _, rfl⟩
  next => exact sound

/-- A step within a call, which leaves the descriptor to the driver. -/
theorem Sound.move (sound : transmitter.Sound) (here : transmitter.upcoming = transmitter.index)
    (nothing : transmitter.stage.handed = [])
    (before : ¬ Owned (transmitter.slots transmitter.index).status) (slot : TransmitSlot)
    (after : ¬ Owned slot.status) (stage : TransmitStage) (there : ∀ frame, stage ≠ .advance frame)
    (prepares : stage.Prepares slot) :
    Sound { transmitter with
      slots := Function.update transmitter.slots transmitter.index slot
      stage := stage } := by
  have ring := sound.ring_update before after
  have upcoming := sound.upcoming_eq
  have sent := sound.sent
  simp only [handed, nothing] at ring upcoming sent
  have stays : Transmitter.handed { transmitter with
      slots := Function.update transmitter.slots transmitter.index slot
      stage := stage } = transmitter.accepted ++ [] := by
    cases stage with
    | idle => rfl
    | copy frame done => rfl
    | control frame => rfl
    | own frame => rfl
    | advance frame => exact absurd rfl (there frame)
  refine ⟨stays ▸ ring, ?_, sound.position_eq, stays ▸ sent, ?_⟩
  · rw [stays, ← upcoming, here]
    cases stage with
    | idle => rfl
    | copy frame done => rfl
    | control frame => rfl
    | own frame => rfl
    | advance frame => exact absurd rfl (there frame)
  · simpa using prepares

theorem copy_sound (sound : transmitter.Sound) {frame : List UInt8} {done : ℕ}
    (stage : transmitter.stage = .copy frame done) : transmitter.proceed.Sound := by
  have here : transmitter.upcoming = transmitter.index := by rw [upcoming, stage]
  have nothing : transmitter.stage.handed = [] := by rw [stage, TransmitStage.handed]
  have prepares := sound.prepares
  rw [stage] at prepares
  obtain ⟨free, fits, within, copied⟩ := prepares
  simp only [proceed, stage]
  split
  next more =>
    refine sound.move here nothing free _ ?_ (.copy frame (done + 1)) nofun
      ⟨free, fits, more, ?_⟩
    · exact free
    have inside : done < (transmitter.slots transmitter.index).buffer.toList.length := by
      rw [Vector.length_toList]
      omega
    rw [Vector.toList_setIfInBounds, List.take_add_one, List.take_set_of_le (Nat.le_refl _),
      List.getElem?_set_self inside, copied, List.take_add_one, List.getD_eq_getElem?_getD,
      List.getElem?_eq_getElem more]
    rfl
  next all =>
    have whole : done = frame.length := by omega
    subst whole
    rw [List.take_length] at copied
    have moved := sound.move here nothing free _ free (.control frame) nofun ⟨free, fits, copied⟩
    rwa [Function.update_eq_self] at moved

theorem control_sound (sound : transmitter.Sound) {frame : List UInt8}
    (stage : transmitter.stage = .control frame) : transmitter.proceed.Sound := by
  have here : transmitter.upcoming = transmitter.index := by rw [upcoming, stage]
  have nothing : transmitter.stage.handed = [] := by rw [stage, TransmitStage.handed]
  have prepares := sound.prepares
  rw [stage] at prepares
  obtain ⟨free, fits, copied⟩ := prepares
  simp only [proceed, stage]
  refine sound.move here nothing free _ ?_ (.own frame) nofun ⟨free, ?_⟩
  · exact free
  have small : frame.length < 2 ^ 13 := Nat.lt_of_le_of_lt fits (by decide)
  have length : (UInt32.ofNat frame.length).toNat % 2 ^ 13 = frame.length := by
    rw [UInt32.toNat_ofNat_of_lt' (Nat.lt_trans small (by decide)), Nat.mod_eq_of_lt small]
  rw [TransmitSlot.frame, length]
  exact copied

theorem own_sound (sound : transmitter.Sound) {frame : List UInt8}
    (stage : transmitter.stage = .own frame) : transmitter.proceed.Sound := by
  have prepares := sound.prepares
  have here := sound.upcoming_eq
  have ring := sound.ring
  have sent := sound.sent
  rw [stage] at prepares
  simp only [handed, upcoming, stage, TransmitStage.handed, List.append_nil] at here ring sent
  obtain ⟨free, content⟩ := prepares
  simp only [proceed, stage]
  refine ⟨?_, ?_, sound.position_eq, ?_, trivial⟩
  · refine ring.put (here ▸ free) (fun slot => ?_) ?_ (fun slot elsewhere => ?_)
    · rw [← here]
      by_cases same : slot = transmitter.index
      · simp [same, owned_transmitStatus]
      · simp [same]
    · rw [← here]
      dsimp only
      rw [Function.update_self]
      exact content
    · rw [← here] at elsewhere
      simp [elsewhere]
  · simp only [upcoming, handed, TransmitStage.handed, List.length_append, List.length_singleton]
    rw [slotOf_succ, ← here]
  · exact sent.trans (List.prefix_append _ _)

theorem advance_sound (sound : transmitter.Sound) {frame : List UInt8}
    (stage : transmitter.stage = .advance frame) : transmitter.proceed.Sound := by
  have here := sound.upcoming_eq
  have ring := sound.ring
  have sent := sound.sent
  simp only [handed, upcoming, stage, TransmitStage.handed] at here ring sent
  simp only [proceed, stage]
  refine ⟨?_, ?_, sound.position_eq, ?_, trivial⟩
  · simpa [handed, TransmitStage.handed] using ring
  · simpa [upcoming, handed, TransmitStage.handed] using here
  · simpa [handed, TransmitStage.handed] using sent

/-- The DMA does not change a descriptor that it does not own. -/
theorem send_slot {status : UInt32} {slot : Fin transmitDescriptorCount}
    (free : ¬ Owned (transmitter.slots slot).status) :
    (transmitter.send status).slots slot = transmitter.slots slot := by
  simp only [send]
  split
  next owned =>
    have elsewhere : slot ≠ transmitter.position := fun same => free (same ▸ owned)
    exact Function.update_of_ne elsewhere _ _
  next => rfl

theorem prefix_extend {Item : Type} {first whole : List Item} (isPrefix : first <+: whole)
    (more : first.length < whole.length) : first ++ [whole[first.length]] <+: whole := by
  obtain ⟨rest, rfl⟩ := isPrefix
  cases rest with
  | nil => simp at more
  | cons item rest => exact ⟨rest, by simp⟩

theorem send_sound (sound : transmitter.Sound) (status : UInt32) :
    (transmitter.send status).Sound := by
  by_cases owned : Owned (transmitter.slots transmitter.position).status
  · have prepares : transmitter.stage.Prepares
        ((transmitter.send status).slots transmitter.index) := by
      have prepared := sound.prepares
      cases stage : transmitter.stage with
      | idle => trivial
      | copy frame done =>
          rw [stage] at prepared
          rw [send_slot prepared.1]
          exact prepared
      | control frame =>
          rw [stage] at prepared
          rw [send_slot prepared.1]
          exact prepared
      | own frame =>
          rw [stage] at prepared
          rw [send_slot prepared.1]
          exact prepared
      | advance frame => trivial
    have place := sound.position_eq
    have waiting : transmitter.sent.length < transmitter.handed.length :=
      sound.ring.full_first.mp (place ▸ owned)
    have content := sound.ring.content_eq _ waiting (Nat.le_refl _)
    rw [← place] at content
    simp only [send, if_pos owned] at prepares ⊢
    refine ⟨?_, sound.upcoming_eq, ?_, ?_, prepares⟩
    · rw [List.length_append, List.length_singleton]
      refine sound.ring.take waiting (fun slot => ?_) (fun slot elsewhere => ?_)
      · rw [← place]
        by_cases same : slot = transmitter.position
        · simp [same, not_owned_cleared]
        · simp [same]
      · rw [← place] at elsewhere
        simp [elsewhere]
    · rw [List.length_append, List.length_singleton, slotOf_succ, place]
    · rw [content]
      exact prefix_extend sound.sent waiting
  · simp only [send, if_neg owned]
    exact sound

/-- **Every step keeps the invariant**, whoever takes it. -/
theorem step_sound (sound : transmitter.Sound) (event : TransmitEvent) :
    (transmitter.step event).Sound := by
  cases event with
  | output packet => exact output_sound sound packet
  | driver =>
      rw [step]
      cases stage : transmitter.stage with
      | idle =>
          simp only [proceed, stage]
          exact sound
      | copy frame done => exact copy_sound sound stage
      | control frame => exact control_sound sound stage
      | own frame => exact own_sound sound stage
      | advance frame => exact advance_sound sound stage
  | dma status => exact send_sound sound status

/-! ## What follows from the invariant -/

theorem Sound.correct (sound : transmitter.Sound) : transmitter.Correct where
  sent := sound.sent
  waiting := by
    rw [sound.position_eq]
    exact sound.ring.full_first.symm

/-- The driver writes to no buffer that the DMA owns. -/
theorem Sound.writes_free (sound : transmitter.Sound) {slot : Fin transmitDescriptorCount}
    (written : transmitter.writes = some slot) : ¬ Owned (transmitter.slots slot).status := by
  have prepares := sound.prepares
  cases stage : transmitter.stage with
  | copy frame done =>
      rw [stage] at prepares
      rw [writes, stage] at written
      dsimp only at written
      split at written
      · cases written
        exact prepares.1
      · cases written
  | idle => simp [writes, stage] at written
  | control frame => simp [writes, stage] at written
  | own frame => simp [writes, stage] at written
  | advance frame => simp [writes, stage] at written

/-! ## Progress -/

/-- What the driver does is not what has been sent, and it takes back nothing. -/
theorem proceed_handed (transmitter : Transmitter) :
    transmitter.proceed.sent = transmitter.sent ∧
      transmitter.handed <+: transmitter.proceed.handed := by
  cases stage : transmitter.stage with
  | idle => simp [proceed, handed, stage]
  | copy frame done =>
      simp only [proceed, stage]
      split <;> simp [handed, stage, TransmitStage.handed]
  | control frame => simp [proceed, handed, stage, TransmitStage.handed]
  | own frame => simp [proceed, handed, stage, TransmitStage.handed]
  | advance frame => simp [proceed, handed, stage, TransmitStage.handed]

theorem handed_grow (transmitter : Transmitter) (event : TransmitEvent) :
    transmitter.handed <+: (transmitter.step event).handed := by
  cases event with
  | output packet =>
      rw [step, output]
      split
      next idle =>
        split
        · exact List.prefix_rfl
        · split
          · exact List.prefix_rfl
          · simp [handed, idle, TransmitStage.handed]
      next => exact List.prefix_rfl
  | driver => exact (proceed_handed transmitter).2
  | dma status =>
      simp only [step, send]
      split <;> exact List.prefix_rfl

/-- What has been sent grows when the DMA sends, and not otherwise. -/
theorem sent_step (sound : transmitter.Sound) (event : TransmitEvent)
    (waiting : transmitter.sent.length < transmitter.handed.length) :
    (∃ status, event = .dma status) ∧
        (transmitter.step event).sent.length = transmitter.sent.length + 1 ∨
      (∀ status, event ≠ .dma status) ∧ (transmitter.step event).sent = transmitter.sent := by
  cases event with
  | output packet =>
      refine .inr ⟨nofun, ?_⟩
      rw [step, output]
      split
      · split
        · rfl
        · split <;> rfl
      · rfl
  | driver => exact .inr ⟨nofun, (proceed_handed transmitter).1⟩
  | dma status =>
      refine .inl ⟨⟨status, rfl⟩, ?_⟩
      have owned := sound.correct.waiting.mp waiting
      simp only [step, send, if_pos owned, List.length_append, List.length_singleton]

end Transmitter

end HealthCheckFirmware.EthernetMac
