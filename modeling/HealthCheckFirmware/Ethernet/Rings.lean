import HealthCheckFirmware.Ethernet.Transmit

/-!
# The two rings together

The driver's two activities, receiving and transmitting, and the two halves of the DMA, in
any order and at any relative speed. Nothing is shared between the two rings, so the
invariants of each hold along every run; and if the driver and the DMA go on, every
descriptor completed is dealt with and every frame accepted is sent (`rings_deliver`).
-/

set_option autoImplicit false

namespace HealthCheckFirmware.EthernetMac

open Fair

/-- The state of the driver and of the descriptors. -/
structure Rings where
  receiver : Receiver
  transmitter : Transmitter

inductive RingEvent where
  | receive (event : ReceiveEvent)
  | transmit (event : TransmitEvent)

namespace Rings

/-- `EthernetMac_Init`, on buffers with any content. -/
def initial (receiveBuffers : Fin receiveDescriptorCount → Buffer)
    (transmitBuffers : Fin transmitDescriptorCount → Buffer) : Rings where
  receiver := .initial receiveBuffers
  transmitter := .initial transmitBuffers

/-- A step of one ring leaves the other alone. -/
def step (rings : Rings) : RingEvent → Rings
  | .receive event => { rings with receiver := rings.receiver.step event }
  | .transmit event => { rings with transmitter := rings.transmitter.step event }

/-- The next step of the driver touches no buffer, and gives back no descriptor, that the
DMA owns. -/
structure Separate (rings : Rings) : Prop where
  reads : ∀ slot, rings.receiver.reads = some slot → ¬ Owned (rings.receiver.slots slot).status
  writes : ∀ slot, rings.transmitter.writes = some slot →
    ¬ Owned (rings.transmitter.slots slot).status
  givesBack : ∀ slot, rings.receiver.givesBack = some slot →
    ¬ Owned (rings.receiver.slots slot).status

structure Sound (rings : Rings) : Prop where
  receiver : rings.receiver.Sound
  transmitter : rings.transmitter.Sound

theorem step_sound {rings : Rings} (sound : rings.Sound) (event : RingEvent) :
    (rings.step event).Sound := by
  cases event with
  | receive event => exact ⟨Receiver.step_sound sound.receiver event, sound.transmitter⟩
  | transmit event => exact ⟨sound.receiver, Transmitter.step_sound sound.transmitter event⟩

theorem Sound.separate {rings : Rings} (sound : rings.Sound) : rings.Separate where
  reads _ := sound.receiver.reads_free
  writes _ := sound.transmitter.writes_free
  givesBack _ := sound.receiver.givesBack_free

theorem arrivals_grow (rings : Rings) (event : RingEvent) :
    rings.receiver.arrivals <+: (rings.step event).receiver.arrivals := by
  cases event with
  | receive event => exact Receiver.arrivals_grow rings.receiver event
  | transmit event => exact List.prefix_rfl

theorem handed_grow (rings : Rings) (event : RingEvent) :
    rings.transmitter.handed <+: (rings.step event).transmitter.handed := by
  cases event with
  | receive event => exact List.prefix_rfl
  | transmit event => exact Transmitter.handed_grow rings.transmitter event

/-! ## Endless runs -/

/-- A step of the driver in `NetworkInterface_ProcessInput`. -/
def DriverReceives : RingEvent → Prop
  | .receive (.driver _) => True
  | _ => False

/-- A step of the DMA that sends a frame. -/
def DmaSends : RingEvent → Prop
  | .transmit (.dma _) => True
  | _ => False

section Runs

variable {receiveBuffers : Fin receiveDescriptorCount → Buffer}
  {transmitBuffers : Fin transmitDescriptorCount → Buffer} (events : ℕ → RingEvent)

/-- The rings before the event with the given number. -/
def run (receiveBuffers : Fin receiveDescriptorCount → Buffer)
    (transmitBuffers : Fin transmitDescriptorCount → Buffer) (events : ℕ → RingEvent) : ℕ → Rings :=
  trace step (initial receiveBuffers transmitBuffers) events

theorem run_sound (time : ℕ) : (run receiveBuffers transmitBuffers events time).Sound :=
  @lasts _ _ step _ _ Sound (fun _ event sound => step_sound sound event) _ _ (Nat.zero_le time)
    ⟨Receiver.initial_sound receiveBuffers, Transmitter.initial_sound transmitBuffers⟩

/-- Every descriptor completed is given back in the end, if the driver goes on. -/
theorem given_back (recurs : Recurs DriverReceives events) (time : ℕ) :
    ∃ later, time ≤ later ∧
      (run receiveBuffers transmitBuffers events time).receiver.arrivals.length ≤
        (run receiveBuffers transmitBuffers events later).receiver.released.length := by
  let count := (run receiveBuffers transmitBuffers events time).receiver.arrivals.length
  refine @eventually _ _ step _ _
    (fun rings => rings.Sound ∧ count ≤ rings.receiver.arrivals.length)
    (fun rings => count ≤ rings.receiver.released.length) DriverReceives
    (fun rings => rings.receiver.remaining count) time
    ⟨run_sound events time, Nat.le_refl _⟩ ?_ ?_ ?_ recurs
  · rintro rings event ⟨sound, arrived⟩
    exact ⟨step_sound sound event, Nat.le_trans arrived (arrivals_grow rings event).length_le⟩
  · rintro rings event ⟨sound, arrived⟩ waiting
    refine .inr ?_
    rcases event with (⟨status, buffer⟩ | allocates) | event
    · exact Nat.le_of_eq (Receiver.remaining_complete count status buffer)
    · exact Nat.le_of_lt
        (Receiver.remaining_proceed sound.receiver (Nat.not_le.mp waiting) arrived allocates)
    · exact Nat.le_refl _
  · rintro rings event ⟨sound, arrived⟩ waiting helps
    refine .inr ?_
    rcases event with (⟨status, buffer⟩ | allocates) | event
    · cases helps
    · exact Receiver.remaining_proceed sound.receiver (Nat.not_le.mp waiting) arrived allocates
    · cases helps

/-- Every frame handed to the DMA is sent in the end, if the DMA goes on. -/
theorem sent_in_the_end (recurs : Recurs DmaSends events) (time : ℕ) :
    ∃ later, time ≤ later ∧
      (run receiveBuffers transmitBuffers events time).transmitter.handed.length ≤
        (run receiveBuffers transmitBuffers events later).transmitter.sent.length := by
  let count := (run receiveBuffers transmitBuffers events time).transmitter.handed.length
  refine @eventually _ _ step _ _
    (fun rings => rings.Sound ∧ count ≤ rings.transmitter.handed.length)
    (fun rings => count ≤ rings.transmitter.sent.length) DmaSends
    (fun rings => count - rings.transmitter.sent.length) time
    ⟨run_sound events time, Nat.le_refl _⟩ ?_ ?_ ?_ recurs
  · rintro rings event ⟨sound, handed⟩
    exact ⟨step_sound sound event, Nat.le_trans handed (handed_grow rings event).length_le⟩
  · rintro rings event ⟨sound, handed⟩ waiting
    refine .inr ?_
    cases event with
    | receive event => exact Nat.le_refl _
    | transmit event =>
        have more := Nat.lt_of_lt_of_le (Nat.not_le.mp waiting) handed
        rcases Transmitter.sent_step sound.transmitter event more with ⟨-, grown⟩ | ⟨-, same⟩
        · simp only [step, grown]
          omega
        · simp only [step, same]
          exact Nat.le_refl _
  · rintro rings event ⟨sound, handed⟩ waiting helps
    refine .inr ?_
    rcases event with event | (packet | _ | status)
    · cases helps
    · cases helps
    · cases helps
    · have more := Nat.lt_of_lt_of_le (Nat.not_le.mp waiting) handed
      rcases Transmitter.sent_step sound.transmitter (.dma status) more with ⟨-, grown⟩ | ⟨other, -⟩
      · simp only [step, grown]
        omega
      · exact absurd rfl (other status)

/-- **The descriptor rings deliver.** Along every interleaving of the driver and the DMA, at
every moment the frames received and the frames accepted have been dealt with as
`Receiver.Correct` and `Transmitter.Correct` say, and the driver keeps away from what the
DMA owns. If the driver goes on receiving, then all descriptors completed at a moment have
been given back at a later one; if the DMA goes on sending, all frames accepted at a moment
have been sent at a later one. -/
theorem rings_deliver (receiveBuffers : Fin receiveDescriptorCount → Buffer)
    (transmitBuffers : Fin transmitDescriptorCount → Buffer) (events : ℕ → RingEvent) :
    let rings := run receiveBuffers transmitBuffers events
    (∀ time, (rings time).receiver.Correct ∧ (rings time).transmitter.Correct ∧
        (rings time).Separate) ∧
      (Recurs DriverReceives events → ∀ time, ∃ later, time ≤ later ∧
        (rings time).receiver.arrivals <+:
          (rings later).receiver.arrivals.take (rings later).receiver.released.length) ∧
      (Recurs DmaSends events → ∀ time, ∃ later, time ≤ later ∧
        (rings time).transmitter.accepted <+: (rings later).transmitter.sent) := by
  intro rings
  refine ⟨fun time => ?_, fun recurs time => ?_, fun recurs time => ?_⟩
  · have sound := @run_sound receiveBuffers transmitBuffers events time
    exact ⟨sound.receiver.correct, sound.transmitter.correct, sound.separate⟩
  · obtain ⟨later, ordered, done⟩ :=
      @given_back receiveBuffers transmitBuffers events recurs time
    have grown : (rings time).receiver.arrivals <+: (rings later).receiver.arrivals :=
      @grows Rings _ step _ events _ (fun rings => rings.receiver.arrivals) (· <+: ·)
        (fun _ => List.prefix_rfl) List.IsPrefix.trans arrivals_grow _ _ ordered
    exact ⟨later, ordered, List.prefix_take_iff.mpr ⟨grown, done⟩⟩
  · obtain ⟨later, ordered, done⟩ :=
      @sent_in_the_end receiveBuffers transmitBuffers events recurs time
    have grown : (rings time).transmitter.handed <+: (rings later).transmitter.handed :=
      @grows Rings _ step _ events _ (fun rings => rings.transmitter.handed) (· <+: ·)
        (fun _ => List.prefix_rfl) List.IsPrefix.trans handed_grow _ _ ordered
    have sent := (@run_sound receiveBuffers transmitBuffers events later).transmitter.sent
    have handed := List.prefix_of_prefix_length_le grown sent done
    exact ⟨later, ordered, (List.prefix_append _ _).trans handed⟩

/-- The status of a frame of two bytes and its check sequence, in one descriptor. -/
def shortFrame : UInt32 := firstSegmentBit ||| lastSegmentBit ||| (6 : UInt32) <<< (16 : UInt32)

/-- A frame arrives and a packet is handed over, again and again, with the driver and the DMA
in turn. -/
def inTurn (time : ℕ) : RingEvent :=
  match time % 5 with
  | 0 => .receive (.dma shortFrame (.replicate _ 0xAB))
  | 1 => .receive (.driver true)
  | 2 => .transmit (.output [0xCD])
  | 3 => .transmit .driver
  | _ => .transmit (.dma 0)

/-- In turn, neither of them ceases: the first frame is passed to the network stack, and the
first packet is sent. -/
theorem rings_deliver_shortFrame :
    let rings := run (fun _ => .replicate _ 0) (fun _ => .replicate _ 0) inTurn
    ((rings 1).receiver.arrivals.length = 1
        ∧ (rings 27).receiver.released = [.presented [0xAB, 0xAB]]
        ∧ ∃ later, 1 ≤ later ∧ (rings 1).receiver.arrivals <+:
          (rings later).receiver.arrivals.take (rings later).receiver.released.length) ∧
      (rings 24).transmitter.accepted = [[0xCD]]
        ∧ ∃ later, 24 ≤ later ∧ (rings 24).transmitter.accepted <+:
          (rings later).transmitter.sent := by
  intro rings
  have receives : Recurs DriverReceives inTurn := by
    intro time
    refine ⟨5 * time + 1, by omega, ?_⟩
    have turn : (5 * time + 1) % 5 = 1 := by omega
    simp [inTurn, turn, DriverReceives]
  have sends : Recurs DmaSends inTurn := by
    intro time
    refine ⟨5 * time + 4, by omega, ?_⟩
    have turn : (5 * time + 4) % 5 = 4 := by omega
    simp [inTurn, turn, DmaSends]
  obtain ⟨-, received, sent⟩ := rings_deliver (fun _ => .replicate _ 0) (fun _ => .replicate _ 0)
    inTurn
  exact ⟨⟨by decide +kernel, by decide +kernel, received receives 1⟩, by decide +kernel,
    sent sends 24⟩

end Runs

end Rings

end HealthCheckFirmware.EthernetMac
