import Mathlib.Data.List.Basic

/-!
# Bounded queues

A queue of limited length as an operating system offers it: an item is sent to the back and
refused when there is no room, and received from the front. `offer` makes room for an item
by discarding the oldest one.

A `Ledger` goes along with a queue that is offered items: it keeps all items offered, which
of them were taken, by their numbers, and how many were dropped. In a sound ledger nothing
is lost that is not among the oldest: an item that is neither waiting nor taken has at least
as many successors as the queue has places (`Ledger.Sound`).
-/

set_option autoImplicit false

namespace HealthCheckFirmware

/-- The items that wait in a queue, the oldest first. -/
structure BoundedQueue (α : Type) (capacity : ℕ) where
  waiting : List α
  bounded : waiting.length ≤ capacity

namespace BoundedQueue

variable {α : Type} {capacity : ℕ}

def empty : BoundedQueue α capacity := ⟨[], Nat.zero_le _⟩

/-- Send an item, if there is room for it. -/
def sendToBack (queue : BoundedQueue α capacity) (item : α) : Option (BoundedQueue α capacity) :=
  if room : queue.waiting.length < capacity then
    some ⟨queue.waiting ++ [item], by rw [List.length_append]; exact room⟩
  else none

/-- Receive the oldest item, if there is one. -/
def receive : BoundedQueue α capacity → Option (α × BoundedQueue α capacity)
  | ⟨[], _⟩ => none
  | ⟨first :: rest, bounded⟩ => some (first, ⟨rest, Nat.le_of_succ_le bounded⟩)

/-- Send an item. If there is no room, the oldest one is received first and discarded, which
is the second result. -/
def offer (queue : BoundedQueue α capacity) (item : α) : BoundedQueue α capacity × Bool :=
  match queue.sendToBack item with
  | some sent => (sent, false)
  | none =>
      let rest := (queue.receive.map Prod.snd).getD queue
      ((rest.sendToBack item).getD rest, true)

theorem sendToBack_of_room {queue : BoundedQueue α capacity}
    (room : queue.waiting.length < capacity) (item : α) :
    ∃ sent, queue.sendToBack item = some sent ∧ sent.waiting = queue.waiting ++ [item] :=
  ⟨_, dif_pos room, rfl⟩

theorem sendToBack_of_full {queue : BoundedQueue α capacity}
    (full : capacity ≤ queue.waiting.length) (item : α) : queue.sendToBack item = none :=
  dif_neg (Nat.not_lt.mpr full)

theorem offer_of_room {queue : BoundedQueue α capacity} (room : queue.waiting.length < capacity)
    (item : α) :
    (queue.offer item).1.waiting = queue.waiting ++ [item] ∧ (queue.offer item).2 = false := by
  obtain ⟨sent, result, waits⟩ := sendToBack_of_room room item
  rw [offer, result]
  exact ⟨waits, rfl⟩

theorem offer_of_full {queue : BoundedQueue α capacity} (places : 0 < capacity)
    (full : capacity ≤ queue.waiting.length) (item : α) :
    (queue.offer item).1.waiting = queue.waiting.tail ++ [item] ∧ (queue.offer item).2 = true := by
  rw [offer, sendToBack_of_full full]
  obtain ⟨waiting, bounded⟩ := queue
  cases waiting with
  | nil => exact absurd full (Nat.not_le.mpr places)
  | cons first rest =>
      obtain ⟨sent, result, waits⟩ := @sendToBack_of_room α capacity
        ⟨rest, Nat.le_of_succ_le bounded⟩ bounded item
      simp only [receive, Option.map_some, Option.getD_some, result]
      exact ⟨waits, trivial⟩

/-! ## What became of the items -/

/-- A queue and its history. An item that was taken stands with its number among the items
offered. -/
structure Ledger (α : Type) (capacity : ℕ) where
  queue : BoundedQueue α capacity
  offered : List α
  taken : List (ℕ × α)
  dropped : ℕ

namespace Ledger

def empty : Ledger α capacity := ⟨.empty, [], [], 0⟩

/-- The number of items that are not waiting any more. -/
def gone (ledger : Ledger α capacity) : ℕ :=
  ledger.offered.length - ledger.queue.waiting.length

def offer (ledger : Ledger α capacity) (item : α) : Ledger α capacity :=
  { ledger with
    queue := (ledger.queue.offer item).1
    offered := ledger.offered ++ [item]
    dropped := ledger.dropped + (ledger.queue.offer item).2.toNat }

def take (ledger : Ledger α capacity) : Ledger α capacity :=
  match ledger.queue.receive with
  | none => ledger
  | some (item, rest) =>
      { ledger with queue := rest, taken := ledger.taken ++ [(ledger.gone, item)] }

/-- Every item offered is waiting, taken or dropped. The items that wait are the newest; the
ones taken were so in their order, each once; and one that was dropped is older than as many
others as the queue has places. -/
structure Sound (ledger : Ledger α capacity) : Prop where
  counted : ledger.offered.length =
    ledger.taken.length + ledger.dropped + ledger.queue.waiting.length
  waiting : ledger.queue.waiting = ledger.offered.drop ledger.gone
  rising : ledger.taken.Pairwise fun earlier later => earlier.1 < later.1
  taken_gone : ∀ entry ∈ ledger.taken, entry.1 < ledger.gone
  taken_item : ∀ entry ∈ ledger.taken, ledger.offered[entry.1]? = some entry.2
  dropped_old : ∀ number < ledger.gone, (∀ entry ∈ ledger.taken, entry.1 ≠ number) →
    number + capacity < ledger.offered.length

theorem Sound.empty : (Ledger.empty : Ledger α capacity).Sound where
  counted := rfl
  waiting := rfl
  rising := .nil
  taken_gone _ member := absurd member List.not_mem_nil
  taken_item _ member := absurd member List.not_mem_nil
  dropped_old number early := absurd early (Nat.not_lt_zero number)

variable {ledger : Ledger α capacity}

theorem Sound.waiting_le (sound : ledger.Sound) :
    ledger.queue.waiting.length ≤ ledger.offered.length := by
  have counted := sound.counted
  omega

/-- The history when an item is added to what waits, of which the oldest may be dropped. -/
theorem Sound.extend (sound : ledger.Sound) {item : α} {queue : BoundedQueue α capacity}
    {dropped : ℕ} (waits : queue.waiting = ledger.queue.waiting.drop dropped ++ [item])
    (some_ : dropped ≤ ledger.queue.waiting.length)
    (full : 0 < dropped → dropped = 1 ∧ ledger.queue.waiting.length = capacity) :
    Sound ⟨queue, ledger.offered ++ [item], ledger.taken, ledger.dropped + dropped⟩ := by
  have within := sound.waiting_le
  have counted := sound.counted
  have length : queue.waiting.length = ledger.queue.waiting.length - dropped + 1 := by
    rw [waits, List.length_append, List.length_drop, List.length_singleton]
  have goneEq : gone ⟨queue, ledger.offered ++ [item], ledger.taken, ledger.dropped + dropped⟩ =
      ledger.gone + dropped := by
    simp only [gone, List.length_append, List.length_singleton, length]
    omega
  refine ⟨?_, ?_, sound.rising, fun entry member => ?_, fun entry member => ?_,
    fun number early untaken => ?_⟩
  · simp only [List.length_append, List.length_singleton, length]
    omega
  · rw [goneEq, waits, sound.waiting, List.drop_drop, List.drop_append_of_le_length]
    rw [gone]
    omega
  · rw [goneEq]
    exact Nat.lt_of_lt_of_le (sound.taken_gone entry member) (Nat.le_add_right _ _)
  · have inside := sound.taken_gone entry member
    rw [List.getElem?_append_left (by rw [gone] at inside; omega)]
    exact sound.taken_item entry member
  · rw [goneEq] at early
    simp only [List.length_append, List.length_singleton]
    rcases Nat.lt_or_ge number ledger.gone with old | new
    · exact Nat.lt_succ_of_lt (sound.dropped_old number old untaken)
    · obtain ⟨one, whole⟩ := full (by omega)
      rw [gone] at new early
      omega

theorem Sound.offer (sound : ledger.Sound) (places : 0 < capacity) (item : α) :
    (ledger.offer item).Sound := by
  rcases Nat.lt_or_ge ledger.queue.waiting.length capacity with room | full
  · obtain ⟨waits, kept⟩ := offer_of_room room item
    rw [Ledger.offer, kept]
    exact sound.extend waits (Nat.zero_le _) fun some_ => absurd some_ (Nat.lt_irrefl 0)
  · obtain ⟨waits, discarded⟩ := offer_of_full places full item
    have whole := Nat.le_antisymm ledger.queue.bounded full
    rw [Ledger.offer, discarded]
    exact sound.extend (by rw [waits, ← List.drop_one]; rfl) (Nat.le_trans places full)
      fun _ => ⟨rfl, whole⟩

theorem Sound.take (sound : ledger.Sound) : ledger.take.Sound := by
  unfold Ledger.take
  obtain ⟨⟨waiting, bounded⟩, offered, taken, dropped⟩ := ledger
  cases waiting with
  | nil => exact sound
  | cons first rest =>
      have counted := sound.counted
      have within := sound.waiting_le
      have waits := sound.waiting
      have front : gone ⟨⟨first :: rest, bounded⟩, offered, taken, dropped⟩ =
          offered.length - (rest.length + 1) := rfl
      have behind : gone ⟨⟨rest, Nat.le_of_succ_le bounded⟩, offered,
          taken ++ [(offered.length - (rest.length + 1), first)], dropped⟩ =
          offered.length - (rest.length + 1) + 1 := by
        simp only [gone, List.length_cons] at within ⊢
        omega
      simp only [receive, front] at counted within waits ⊢
      have place : offered[offered.length - (rest.length + 1)]? = some first := by
        rw [← List.head?_drop, ← waits, List.head?_cons]
      refine ⟨?_, ?_, ?_, fun entry member => ?_, fun entry member => ?_,
        fun number early untaken => ?_⟩
      · simp only [List.length_append, List.length_cons, List.length_nil] at counted ⊢
        omega
      · rw [behind, ← List.drop_drop, ← waits, List.drop_one, List.tail_cons]
      · refine List.pairwise_append.mpr ⟨sound.rising, List.pairwise_singleton _ _, ?_⟩
        intro entry member last isLast
        rw [List.mem_singleton.mp isLast]
        exact front ▸ sound.taken_gone entry member
      · rw [behind]
        rcases List.mem_append.mp member with earlier | last
        · exact Nat.lt_succ_of_lt (front ▸ sound.taken_gone entry earlier)
        · rw [List.mem_singleton.mp last]
          exact Nat.lt_succ_self _
      · rcases List.mem_append.mp member with earlier | last
        · exact sound.taken_item entry earlier
        · rw [List.mem_singleton.mp last]
          exact place
      · rw [behind] at early
        -- The item that has just been taken is not one of those dropped.
        have other := untaken _ (List.mem_append_right _ List.mem_cons_self)
        refine sound.dropped_old number ?_ fun entry earlier =>
          untaken entry (List.mem_append_left _ earlier)
        rw [front]
        dsimp only at other
        omega

/-- What orders the items offered orders the items taken. -/
theorem Sound.taken_pairwise (sound : ledger.Sound) {relation : α → α → Prop}
    (ordered : ledger.offered.Pairwise relation) :
    (ledger.taken.map Prod.snd).Pairwise relation := by
  refine List.pairwise_map.mpr (sound.rising.imp_of_mem fun first second before => ?_)
  obtain ⟨firstInside, firstItem⟩ := List.getElem?_eq_some_iff.mp (sound.taken_item _ first)
  obtain ⟨secondInside, secondItem⟩ := List.getElem?_eq_some_iff.mp (sound.taken_item _ second)
  rw [← firstItem, ← secondItem]
  exact List.pairwise_iff_getElem.mp ordered _ _ firstInside secondInside before

end Ledger

end BoundedQueue

end HealthCheckFirmware
