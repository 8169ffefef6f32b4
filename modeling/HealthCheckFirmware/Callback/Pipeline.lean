import HealthCheckFirmware.Callback.CallbackService
import HealthCheckFirmware.Lib.Run
import HealthCheckFirmware.Log.Runs
import HealthCheckFirmware.Monitor.CertificateWarning

/-!
# From a failed check to its report

`healthCheckService_CheckResource` records the result of a check in the log and queues the
entry of a failed one; the callback task takes the entries out of the queue. The two run
side by side: `Monitor.step` is a check or a turn of the task, in any order.

What is queued is what the log has verified (`report_stored`), and what becomes of it is
kept by the ledger of a bounded queue (`callback_pipeline`). The telemetry shows the sums of
this ledger (`getTelemetry_accounts`).
-/

set_option autoImplicit false

namespace HealthCheckFirmware.HealthCheckService

/-! ## The check of a resource -/

/-- What a check meets: the calls of the transport, the time, if there is one, whether a
warning can be queued, and the flash operations of the log. -/
structure CheckCalls where
  index : Fin HealthCheckConfig.maxResources
  resource : HealthCheckConfig.Resource
  transport : TlsTransport.Calls
  now : Option UInt32
  warns : Bool
  append : HealthCheckLog.AppendFaults

/-- The arguments of `TlsTransport_Head`. -/
def headArguments (resource : HealthCheckConfig.Resource) : TlsTransport.Arguments where
  method := some (ascii "HEAD")
  host := some (bufferString resource.host)
  port := resource.port
  resource := some (bufferString resource.path)
  body := some []
  contentType := none

def CheckCalls.result (calls : CheckCalls) : TlsTransport.Result :=
  TlsTransport.request (headArguments calls.resource) calls.transport

/-- `HEALTH_CHECK_OK_STATUS` is 200. -/
def CheckCalls.healthy (calls : CheckCalls) : Bool :=
  calls.result.status = .ok && calls.result.httpStatus = 200

def CheckCalls.checkedAt (calls : CheckCalls) : UInt32 := calls.now.getD 0

/-- What is handed to the log. -/
def CheckCalls.entry (calls : CheckCalls) : HealthCheckLog.Check where
  resourceIndex := UInt8.ofNat calls.index
  trustAnchorId := calls.resource.trustAnchorId
  timestampUnix := calls.checkedAt
  result := calls.result

/-- What a check works on. -/
structure Monitor where
  memory : Memory
  log : HealthCheckLog.Log
  callback : CallbackService.Service

/-- What a check has to report: the entry of the log, if the resource is not healthy and the
entry was written. -/
def Monitor.report (monitor : Monitor) (calls : CheckCalls) : Option CallbackService.Event :=
  match (HealthCheckLog.append calls.append calls.entry monitor.log).1 with
  | .ok entry => if calls.healthy then none else some entry
  | .error => none
  | .powerLost => none

/-- `healthCheckService_CheckResource`. -/
def Monitor.check (monitor : Monitor) (calls : CheckCalls) : Monitor where
  memory :=
    (checkResource monitor.memory
      ⟨calls.index, calls.healthy, calls.result.certificateExpiresAt, calls.checkedAt⟩ calls.warns).1
  log := (HealthCheckLog.append calls.append calls.entry monitor.log).2
  callback :=
    match monitor.report calls with
    | some entry => CallbackService.enqueue monitor.callback entry
    | none => monitor.callback

/-! ## Runs -/

/-- A check of a resource, or a turn of the callback task. -/
inductive Event where
  | check (calls : CheckCalls)
  | deliver (delivery : CallbackService.Delivery)

/-- One event. The task works on the service alone. -/
def Monitor.step (monitor : Monitor) : Event → Monitor
  | .check calls => monitor.check calls
  | .deliver delivery =>
      { monitor with callback := (CallbackService.taskTurn delivery monitor.callback).2 }

/-- The entries that the checks of a run report, in their order. -/
def reports : Monitor → List Event → List CallbackService.Event
  | _, [] => []
  | monitor, .check calls :: rest =>
      (monitor.report calls).toList ++ reports (monitor.step (.check calls)) rest
  | monitor, .deliver delivery :: rest => reports (monitor.step (.deliver delivery)) rest

/-- The entries that the task receives in a run, in their order. -/
def received : Monitor → List Event → List CallbackService.Event
  | _, [] => []
  | monitor, .check calls :: rest => received (monitor.step (.check calls)) rest
  | monitor, .deliver delivery :: rest =>
      (CallbackService.taskTurn delivery monitor.callback).1.toList
        ++ received (monitor.step (.deliver delivery)) rest

/-! ## What is reported is in the log -/

/-- A slot of the active sector holds the record of an entry. -/
def Stored (log : HealthCheckLog.Log) (entry : HealthCheckLog.Entry) : Prop :=
  ∃ record slot, slot < HealthCheckLog.slotsPerSector
    ∧ HealthCheckLog.slotAt (log.sectors.get log.ram.activeSector) slot = HealthCheckLog.bytes record
    ∧ HealthCheckLog.entry record = entry

section Append

open HealthCheckLog

variable {faults : AppendFaults} {check : HealthCheckLog.Check} {log ready : Log}

/-- Room is made without giving out a number. -/
theorem makeRoom_nextSequence (erase : Fate Slots) (log : Log) :
    (makeRoom erase log).2.ram.nextSequence = log.ram.nextSequence := by
  unfold makeRoom
  split
  · unfold rollToSector
    split <;> rfl
  · rfl

theorem makeRoom_room {erase : Fate Slots} (made : makeRoom erase log = (.ok, ready)) :
    ready.ram.nextSlot < slotsPerSector := by
  unfold makeRoom at made
  split at made
  · unfold rollToSector at made
    split at made
    · cases made
      exact (by decide : 0 < slotsPerSector)
    · rename_i stuck
      exact absurd (congrArg Prod.fst made) stuck
  · rename_i room
    cases made
    exact Nat.not_le.mp room

/-- An entry that is returned has the number that was next, and its record is in the log. -/
theorem append_ok {entry : Entry} (ok : (append faults check log).1 = .ok entry) :
    entry.sequence = log.ram.nextSequence
      ∧ (append faults check log).2.ram.nextSequence = log.ram.nextSequence + 1
      ∧ Stored (append faults check log).2 entry := by
  cases made : makeRoom faults.erase log with
  | mk progress ready =>
      have number := makeRoom_nextSequence faults.erase log
      rw [made] at number
      cases progress with
      | ok =>
          have room := makeRoom_room made
          dsimp only at number
          rw [append_of_ready check made, write_eq] at ok ⊢
          dsimp only at ok
          unfold outcomeOf at ok
          split at ok
          · split at ok
            · rename_i verified
              have same := eq_of_beq (Bool.and_eq_true_iff.mp verified).2
              have written := Appended.ok.inj ok
              refine ⟨by rw [← written, ← number]; rfl, by rw [← number]; rfl, _,
                ready.ram.nextSlot, room, ?_, written⟩
              rw [← same]
              simp [Ram.advance, slotAt, setSlot, room]
            · cases ok
          · cases ok
          · cases ok
      | error => simp only [append, made, reduceCtorEq] at ok
      | powerLost => simp only [append, made, reduceCtorEq] at ok

theorem append_nextSequence (faults : AppendFaults) (check : HealthCheckLog.Check) (log : Log) :
    (append faults check log).2.ram.nextSequence = log.ram.nextSequence
      ∨ (append faults check log).2.ram.nextSequence = log.ram.nextSequence + 1 := by
  have number := makeRoom_nextSequence faults.erase log
  cases made : makeRoom faults.erase log with
  | mk progress ready =>
      rw [made] at number
      cases progress with
      | ok =>
          rw [append_of_ready check made, write_eq]
          exact .inr (by rw [← number]; rfl)
      | error => exact .inl (by simpa only [append, made] using number)
      | powerLost => exact .inl (by simpa only [append, made] using number)

end Append

/-- **What is reported**: the resource is not healthy, and the log has verified the record. -/
theorem report_stored {monitor : Monitor} {calls : CheckCalls} {entry : CallbackService.Event}
    (reported : monitor.report calls = some entry) :
    calls.healthy = false ∧ entry.sequence = monitor.log.ram.nextSequence
      ∧ (monitor.check calls).log.ram.nextSequence = monitor.log.ram.nextSequence + 1
      ∧ Stored (monitor.check calls).log entry := by
  unfold Monitor.report at reported
  split at reported
  · rename_i ok
    split at reported
    · cases reported
    · rename_i unhealthy
      cases reported
      exact ⟨Bool.eq_false_iff.mpr unhealthy, append_ok ok⟩
  · cases reported
  · cases reported

/-! ## The numbers of the reports -/

/-- The numbers of the reports of a run rise, from the next number on, as long as the counter
does not wrap round. -/
theorem reports_rising {monitor : Monitor} {events : List Event}
    (room : monitor.log.ram.nextSequence.toNat + events.length < 2 ^ 32) :
    (reports monitor events).Pairwise (fun earlier later => earlier.sequence < later.sequence)
      ∧ ∀ entry ∈ reports monitor events,
        monitor.log.ram.nextSequence.toNat ≤ entry.sequence.toNat := by
  induction events generalizing monitor with
  | nil => exact ⟨.nil, fun _ member => absurd member List.not_mem_nil⟩
  | cons event rest ih =>
      rw [List.length_cons] at room
      cases event with
      | deliver delivery =>
          have same : (monitor.step (.deliver delivery)).log = monitor.log := rfl
          exact @ih (monitor.step (.deliver delivery)) (by rw [same]; omega)
      | check calls =>
          have successor : (monitor.log.ram.nextSequence + 1).toNat =
              monitor.log.ram.nextSequence.toNat + 1 := by
            rw [UInt32.toNat_add, UInt32.toNat_one]
            exact Nat.mod_eq_of_lt (by omega)
          have next := append_nextSequence calls.append calls.entry monitor.log
          have bound : (monitor.check calls).log.ram.nextSequence.toNat ≤
              monitor.log.ram.nextSequence.toNat + 1
              ∧ monitor.log.ram.nextSequence.toNat ≤
                (monitor.check calls).log.ram.nextSequence.toNat := by
            rcases next with same | more
            · rw [Monitor.check, same]
              omega
            · rw [Monitor.check, more, successor]
              omega
          obtain ⟨rising, above⟩ := @ih (monitor.check calls) (by omega)
          rw [reports]
          cases reported : monitor.report calls with
          | none => exact ⟨rising, fun entry member => bound.2.trans (above entry member)⟩
          | some first =>
              obtain ⟨-, number, advanced, -⟩ := report_stored reported
              refine ⟨List.pairwise_cons.mpr ⟨fun entry member => ?_, rising⟩,
                List.forall_mem_cons.mpr ⟨by rw [number], fun entry member =>
                  bound.2.trans (above entry member)⟩⟩
              have later := above entry member
              rw [advanced, successor] at later
              rw [UInt32.lt_iff_toNat_lt, number]
              omega

/-! ## The ledger -/

/-- The ledger of a run. -/
def ledgerAfter (ledger : BoundedQueue.Ledger CallbackService.Event CallbackService.queueLength) :
    Monitor → List Event →
      BoundedQueue.Ledger CallbackService.Event CallbackService.queueLength
  | _, [] => ledger
  | monitor, .check calls :: rest =>
      ledgerAfter ((monitor.report calls).elim ledger ledger.offer) (monitor.step (.check calls)) rest
  | monitor, .deliver delivery :: rest =>
      ledgerAfter ledger.take (monitor.step (.deliver delivery)) rest

/-- The ledger goes with the queue of the service. -/
structure Coherent (monitor : Monitor)
    (ledger : BoundedQueue.Ledger CallbackService.Event CallbackService.queueLength) : Prop where
  queue : ledger.queue = monitor.callback.queue
  dropped : monitor.callback.telemetry.droppedCount = UInt32.ofNat ledger.dropped
  sound : ledger.Sound

theorem deliver_droppedCount (delivery : CallbackService.Delivery) (event : CallbackService.Event)
    (telemetry : CallbackService.Telemetry) :
    (CallbackService.deliver delivery event telemetry).droppedCount = telemetry.droppedCount := by
  unfold CallbackService.deliver
  split
  · rfl
  · split
    · rfl
    · unfold CallbackService.Telemetry.record
      dsimp only
      split <;> rfl

section Coherence

variable {monitor : Monitor}
  {ledger : BoundedQueue.Ledger CallbackService.Event CallbackService.queueLength}
  (coherent : Coherent monitor ledger)

include coherent in
theorem Coherent.enqueue (entry : CallbackService.Event) (memory : Memory)
    (log : HealthCheckLog.Log) :
    Coherent ⟨memory, log, CallbackService.enqueue monitor.callback entry⟩ (ledger.offer entry) := by
  have queue := coherent.queue
  refine ⟨?_, ?_, coherent.sound.offer (by decide) entry⟩
  · rw [BoundedQueue.Ledger.offer, queue, CallbackService.enqueue]
    dsimp only
    split <;> rfl
  · rw [BoundedQueue.Ledger.offer, queue, CallbackService.enqueue]
    dsimp only
    cases discarded : (monitor.callback.queue.offer entry).2 with
    | false => exact coherent.dropped
    | true =>
        change _ + 1 = UInt32.ofNat (ledger.dropped + 1)
        rw [coherent.dropped, UInt32.ofNat_add]
        rfl

include coherent in
theorem Coherent.check (calls : CheckCalls) :
    Coherent (monitor.check calls) ((monitor.report calls).elim ledger ledger.offer) := by
  unfold Monitor.check
  cases monitor.report calls with
  | none => exact ⟨coherent.queue, coherent.dropped, coherent.sound⟩
  | some entry => exact coherent.enqueue entry _ _

include coherent in
theorem Coherent.deliver (delivery : CallbackService.Delivery) :
    Coherent (monitor.step (.deliver delivery)) ledger.take := by
  have queue := coherent.queue
  refine ⟨?_, ?_, coherent.sound.take⟩
  · rw [BoundedQueue.Ledger.take, queue, Monitor.step, CallbackService.taskTurn]
    split <;> simp_all
  · rw [BoundedQueue.Ledger.take, queue, Monitor.step, CallbackService.taskTurn]
    cases monitor.callback.queue.receive with
    | none => exact coherent.dropped
    | some front => exact (deliver_droppedCount _ _ _).trans coherent.dropped

/-- What the task receives is what the ledger has as taken. -/
theorem take_taken (delivery : CallbackService.Delivery) (queue : ledger.queue = monitor.callback.queue) :
    ledger.take.taken.map Prod.snd = ledger.taken.map Prod.snd
      ++ (CallbackService.taskTurn delivery monitor.callback).1.toList := by
  rw [BoundedQueue.Ledger.take, queue, CallbackService.taskTurn]
  cases monitor.callback.queue.receive with
  | none => exact (List.append_nil _).symm
  | some front => exact List.map_append

theorem take_offered : ledger.take.offered = ledger.offered := by
  unfold BoundedQueue.Ledger.take
  split <;> rfl

include coherent in
/-- Along a run the ledger stays with the queue, and gathers what is reported and what is
received. -/
theorem Coherent.run (events : List Event) :
    Coherent (Run.run Monitor.step monitor events) (ledgerAfter ledger monitor events)
      ∧ (ledgerAfter ledger monitor events).offered = ledger.offered ++ reports monitor events
      ∧ (ledgerAfter ledger monitor events).taken.map Prod.snd =
        ledger.taken.map Prod.snd ++ received monitor events := by
  induction events generalizing monitor ledger with
  | nil => exact ⟨coherent, (List.append_nil _).symm, (List.append_nil _).symm⟩
  | cons event rest ih =>
      cases event with
      | deliver delivery =>
          obtain ⟨after, offered, taken⟩ := ih (coherent.deliver delivery)
          refine ⟨after, ?_, ?_⟩
          · rw [ledgerAfter, offered, take_offered, reports]
          · rw [ledgerAfter, taken, take_taken delivery coherent.queue, received,
              List.append_assoc]
      | check calls =>
          obtain ⟨after, offered, taken⟩ := ih (coherent.check calls)
          refine ⟨after, ?_, ?_⟩
          · rw [ledgerAfter, reports]
            refine offered.trans ?_
            cases monitor.report calls with
            | none => rfl
            | some entry => exact List.append_assoc _ _ _
          · rw [ledgerAfter, received]
            refine taken.trans ?_
            cases monitor.report calls <;> rfl

end Coherence

/-- **From failed checks to the callback task.** For every run of checks and turns of the
task, in any order, from a queue that is empty: what a check queues is the entry of a failed
check that the log has just verified; and there is a ledger of the queue in which the
entries offered are those queued and the entries taken are those received. So the queue
holds the newest entries and at most three of them; the task receives entries in their
order, each at most once; an entry is dropped only when three newer ones have been queued;
and the counter of dropped entries is right. The numbers of the entries received rise, as
long as the counter of the log does not wrap round. -/
theorem callback_pipeline (memory : Memory) (log : HealthCheckLog.Log) (events : List Event) :
    let start : Monitor := ⟨memory, log, CallbackService.init⟩
    let after := Run.run Monitor.step start events
    (∀ before calls rest, events = before ++ Event.check calls :: rest →
      ∀ entry, (Run.run Monitor.step start before).report calls = some entry →
        calls.healthy = false
          ∧ Stored (Run.run Monitor.step start (before ++ [.check calls])).log entry)
      ∧ (∃ ledger : BoundedQueue.Ledger CallbackService.Event CallbackService.queueLength,
        ledger.Sound ∧ ledger.queue = after.callback.queue
          ∧ ledger.offered = reports start events
          ∧ ledger.taken.map Prod.snd = received start events
          ∧ after.callback.telemetry.droppedCount = UInt32.ofNat ledger.dropped)
      ∧ (log.ram.nextSequence.toNat + events.length < 2 ^ 32 →
        (received start events).Pairwise fun earlier later => earlier.sequence < later.sequence) := by
  have initial : Coherent ⟨memory, log, CallbackService.init⟩ .empty :=
    ⟨rfl, rfl, BoundedQueue.Ledger.Sound.empty⟩
  obtain ⟨coherent, offered, taken⟩ := initial.run events
  refine ⟨fun before calls rest _ entry reported => ?_,
    ⟨_, coherent.sound, coherent.queue, offered, taken, coherent.dropped⟩,
    fun room => ?_⟩
  · obtain ⟨unhealthy, -, -, stored⟩ := report_stored reported
    refine ⟨unhealthy, ?_⟩
    rw [Run.run, List.foldl_append]
    exact stored
  · have ordered := (@reports_rising ⟨memory, log, CallbackService.init⟩ events room).1
    rw [← List.nil_append (reports _ _)] at ordered
    rw [← List.nil_append (received _ _)]
    exact taken ▸ coherent.sound.taken_pairwise (offered ▸ ordered)

/-- The depth of a queue of three fits a byte. -/
theorem queueDepth_toNat (service : CallbackService.Service) :
    (CallbackService.getTelemetry service).queueDepth.toNat = service.queue.waiting.length := by
  have bounded : service.queue.waiting.length ≤ 3 := service.queue.bounded
  exact UInt8.toNat_ofNat_of_lt' (bounded.trans_lt (by decide))

/-- **What the telemetry shows accounts for every report** of a run: it was received, it was
dropped, or it still waits. The depth fits its byte; the counter of dropped entries may wrap
round. -/
theorem getTelemetry_accounts (memory : Memory) (log : HealthCheckLog.Log) (events : List Event) :
    let start : Monitor := ⟨memory, log, CallbackService.init⟩
    let shown := CallbackService.getTelemetry (Run.run Monitor.step start events).callback
    ∃ dropped : ℕ, shown.droppedCount = UInt32.ofNat dropped
      ∧ (reports start events).length =
        (received start events).length + dropped + shown.queueDepth.toNat := by
  have initial : Coherent ⟨memory, log, CallbackService.init⟩ .empty :=
    ⟨rfl, rfl, BoundedQueue.Ledger.Sound.empty⟩
  obtain ⟨coherent, offered, taken⟩ := initial.run events
  have depth := queueDepth_toNat
    (Run.run Monitor.step ⟨memory, log, CallbackService.init⟩ events).callback
  have counted := coherent.sound.counted
  have count := congrArg List.length taken
  rw [List.length_map, List.length_append] at count
  rw [offered, count, coherent.queue, ← depth] at counted
  exact ⟨_, coherent.dropped, by simpa [BoundedQueue.Ledger.empty] using counted⟩

end HealthCheckFirmware.HealthCheckService
