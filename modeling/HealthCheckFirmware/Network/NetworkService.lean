import HealthCheckFirmware.Lib.Run
import Mathlib.Order.Nat

/-!
# The network service

`network_service.c` and `NetworkInterface_UpdateLink`: every 100 ms the link is polled. When
it comes up, a DHCP client is started, and after ten seconds without a lease the interface
takes static parameters. The rest of the firmware waits for `NetworkService_IsReady`.

The DHCP client of the network stack runs in the same thread as the polls. It is modelled by
what the service can see of it: whether it is off, is looking for a lease or has one, the name
server that it sets, and the address that it gives to the interface or takes from it. Its own
events come between the polls, in any order. An acknowledgement and the lease it brings are
two events, because the client checks the address for a conflict in between.

`Settled` is the invariant of the service. A ready service has its link
(`Settled.link_of_ready`), and the static parameters never replace those of a lease. As long
as the link stays, the configuration only moves from none to the static one and from there to
DHCP (`step_of_keepsLink`). So the service that once had a lease stays ready without an
address when the lease is lost (`Stranded.step`).
-/

set_option autoImplicit false

namespace HealthCheckFirmware.NetworkService

/-- `NETWORK_DHCP_TIMEOUT_MS`. -/
def dhcpTimeoutMs : UInt32 := 10000

/-- `ip4_addr_t`, by its octets. -/
structure Ip4Addr where
  a : UInt8
  b : UInt8
  c : UInt8
  d : UInt8
  deriving DecidableEq, Repr

/-- `IP4_ADDR_ANY4`. -/
def Ip4Addr.any : Ip4Addr := ⟨0, 0, 0, 0⟩

/-- The arguments of `netif_set_addr`. -/
structure Parameters where
  address : Ip4Addr
  netmask : Ip4Addr
  gateway : Ip4Addr
  deriving DecidableEq, Repr

def Parameters.any : Parameters := ⟨.any, .any, .any⟩

/-- The static parameters and the name server of `networkService_ApplyFallback`. -/
def fallback : Parameters := ⟨⟨192, 168, 0, 50⟩, ⟨255, 255, 255, 0⟩, ⟨192, 168, 0, 1⟩⟩

def fallbackDns : Ip4Addr := ⟨8, 8, 8, 8⟩

/-- `NetworkConfiguration_TypeDef`. -/
inductive Configuration where
  | none
  | dhcp
  | fallback
  deriving DecidableEq, Repr

/-- The DHCP client: off, without a lease, or with one (`dhcp_supplied_address`). -/
inductive Dhcp where
  | off
  | acquiring
  | supplied (lease : Parameters)
  deriving DecidableEq, Repr

/-- The values that `networkService_Report` prints. -/
structure Report where
  source : Configuration
  parameters : Parameters
  dns : Ip4Addr
  deriving DecidableEq, Repr

/-- The interface, its DHCP client and the variables of the service. The reports are those
printed so far, the latest one first. -/
structure Service where
  link : Bool
  up : Bool
  parameters : Parameters
  dns : Ip4Addr
  dhcp : Dhcp
  dhcpStartedAt : UInt32
  configuration : Configuration
  ready : Bool
  reports : List Report
  deriving DecidableEq, Repr

/-- What a poll meets: the answer of the transceiver (`EthernetMac_UpdateLink`, nothing when it
cannot be read), the time at which a change of the link is handled, the time of the poll after
that, and whether a DHCP client can be started. -/
structure Poll where
  phy : Option Bool
  changedAt : UInt32
  now : UInt32
  starts : Bool
  deriving DecidableEq, Repr

/-! ## The DHCP client -/

/-- `dhcp_stop`: a lease is given back with its address, other parameters are left. -/
def dhcpStop (service : Service) : Service :=
  match service.dhcp with
  | .off => service
  | .acquiring => { service with dhcp := .off }
  | .supplied _ => { service with dhcp := .off, parameters := .any }

/-- `dhcp_start`, with whether it returns `ERR_OK`. -/
def dhcpStart (starts : Bool) (service : Service) : Service × Bool :=
  if !service.up then (service, false)
  else if starts then ({ service with dhcp := .acquiring }, true)
  else ({ service with dhcp := .off }, false)

/-- `dhcp_network_changed_link_up`: a lease is asked for again. -/
def dhcpLinkUp : Dhcp → Dhcp
  | .supplied _ => .acquiring
  | client => client

/-- `dhcp_handle_ack`: the name server of an acknowledgement is set at once, whether or not
its address turns out to be in use. A client that is off receives nothing. -/
def dhcpHandleAck (dns : Option Ip4Addr) (service : Service) : Service :=
  match service.dhcp with
  | .off => service
  | _ => { service with dns := dns.getD service.dns }

/-- `dhcp_bind`. -/
def dhcpBind (lease : Parameters) (service : Service) : Service :=
  match service.dhcp with
  | .off => service
  | _ => { service with dhcp := .supplied lease, parameters := lease }

/-- `dhcp_handle_nak`, and an address that is found in use (`dhcp_conflict_callback`): the
client starts again without an address. The name server stays. -/
def dhcpRefused (service : Service) : Service :=
  match service.dhcp with
  | .off => service
  | _ => { service with dhcp := .acquiring, parameters := .any }

/-- The end of a lease in `dhcp_coarse_tmr`: `dhcp_release_and_stop` and `dhcp_start`. -/
def dhcpExpired (starts : Bool) (service : Service) : Service :=
  match service.dhcp with
  | .off => service
  | _ => (dhcpStart starts (dhcpStop service)).1

/-! ## The service -/

/-- `networkService_Report`. -/
def report (source : Configuration) (service : Service) : Service :=
  { service with
    ready := service.link
    reports := ⟨source, service.parameters, service.dns⟩ :: service.reports }

/-- `networkService_ApplyFallback`. -/
def applyFallback (service : Service) : Service :=
  let stopped := if !service.link then dhcpStop service else service
  report .fallback
    { stopped with parameters := fallback, dns := fallbackDns, configuration := .fallback }

/-- `networkService_StartDhcp`. -/
def startDhcp (poll : Poll) (service : Service) : Service :=
  let cleared :=
    { service with
      parameters := .any, dns := .any, dhcpStartedAt := poll.changedAt
      configuration := .none, ready := false }
  match dhcpStart poll.starts cleared with
  | (started, true) => started
  | (failed, false) => applyFallback failed

/-- `networkService_LinkChanged`. -/
def linkChanged (poll : Poll) (service : Service) : Service :=
  if service.link then startDhcp poll { service with up := true }
  else
    { dhcpStop service with
      up := false, dhcpStartedAt := poll.changedAt, configuration := .none, ready := false }

/-- `NetworkInterface_UpdateLink` with `netif_set_link_up` and `netif_set_link_down`, which
call `networkService_LinkChanged`. -/
def updateLink (poll : Poll) (service : Service) : Service × Bool :=
  match poll.phy with
  | none => (service, false)
  | some true =>
      if !service.link then
        (linkChanged poll { service with link := true, dhcp := dhcpLinkUp service.dhcp }, true)
      else (service, true)
  | some false =>
      if service.link then (linkChanged poll { service with link := false }, true)
      else (service, true)

/-- The part of `networkService_CoreProcess` after the link: a lease is announced, and when
there is none in time, the static parameters are taken. -/
def settle (now : UInt32) (service : Service) : Service :=
  if !service.link then service
  else
    match service.dhcp with
    | .supplied _ =>
        if service.configuration ≠ .dhcp then
          report .dhcp { service with configuration := .dhcp }
        else service
    | _ =>
        if service.configuration = .none ∧ now - service.dhcpStartedAt ≥ dhcpTimeoutMs then
          applyFallback service
        else service

/-- `networkService_CoreProcess`. -/
def coreProcess (poll : Poll) (service : Service) : Service :=
  match updateLink poll service with
  | (failed, false) => failed
  | (updated, true) => settle poll.now updated

/-- `networkService_CoreInit` at the given time, on an interface that `netif_add` has just
registered. When the transceiver cannot be read, the service does not start. -/
def coreInit (now : UInt32) (poll : Poll) : Option Service :=
  let added : Service := ⟨false, false, .any, .any, .off, now, .none, false, []⟩
  match updateLink poll added with
  | (_, false) => none
  | (service, true) => some (if !service.link then { service with up := false } else service)

/-- What happens to the service: a poll, or an event of the DHCP client. -/
inductive Event where
  | poll (poll : Poll)
  | acknowledged (dns : Option Ip4Addr)
  | bound (lease : Parameters)
  | refused
  | expired (starts : Bool)
  deriving DecidableEq, Repr

/-- One event. -/
def step (service : Service) : Event → Service
  | .poll poll => coreProcess poll service
  | .acknowledged dns => dhcpHandleAck dns service
  | .bound lease => dhcpBind lease service
  | .refused => dhcpRefused service
  | .expired starts => dhcpExpired starts service

/-! ## What a poll does -/

variable {service : Service} {poll : Poll}

/-- The client has no lease. -/
def Service.Unsupplied (service : Service) : Prop := ∀ lease, service.dhcp ≠ .supplied lease

/-- What `NetworkInterface_UpdateLink` does: nothing, or one of the two changes of the link.
When it comes up, the client is running afterwards or the static parameters are in use. -/
theorem updateLink_cases (poll : Poll) (service : Service) :
    (updateLink poll service).1 = service
      ∨ service.link = false ∧ poll.phy = some true
        ∧ ((updateLink poll service).1 =
            { service with
              link := true, up := true, parameters := .any, dns := .any
              dhcpStartedAt := poll.changedAt, configuration := .none, ready := false
              dhcp := .acquiring }
          ∨ (updateLink poll service).1 =
            { service with
              link := true, up := true, parameters := fallback, dns := fallbackDns
              dhcpStartedAt := poll.changedAt, configuration := .fallback, ready := true
              dhcp := .off
              reports := ⟨.fallback, fallback, fallbackDns⟩ :: service.reports })
      ∨ service.link = true ∧ poll.phy = some false
        ∧ (updateLink poll service).1 =
          { dhcpStop { service with link := false } with
            up := false, dhcpStartedAt := poll.changedAt, configuration := .none
            ready := false } := by
  rcases phy : poll.phy with _ | _ | _
  · exact .inl (by simp [updateLink, phy])
  · cases link : service.link with
    | false => exact .inl (by simp [updateLink, phy, link])
    | true => exact .inr (.inr ⟨rfl, rfl, by simp [updateLink, phy, link, linkChanged]⟩)
  · cases link : service.link with
    | true => exact .inl (by simp [updateLink, phy, link])
    | false =>
        refine .inr (.inl ⟨rfl, rfl, ?_⟩)
        cases starts : poll.starts with
        | true =>
            exact .inl (by
              simp [updateLink, phy, link, linkChanged, startDhcp, dhcpStart, starts])
        | false =>
            exact .inr (by
              simp [updateLink, phy, link, linkChanged, startDhcp, dhcpStart, starts,
                applyFallback, report])

theorem settle_of_supplied (now : UInt32) {lease : Parameters} (link : service.link = true)
    (dhcp : service.dhcp = .supplied lease) :
    settle now service =
      if service.configuration ≠ .dhcp then report .dhcp { service with configuration := .dhcp }
      else service := by
  simp [settle, link, dhcp]

theorem settle_of_unsupplied (now : UInt32) (link : service.link = true)
    (unsupplied : service.Unsupplied) :
    settle now service =
      if service.configuration = .none ∧ dhcpTimeoutMs ≤ now - service.dhcpStartedAt then
        report .fallback
          { service with
            parameters := fallback, dns := fallbackDns, configuration := .fallback }
      else service := by
  cases dhcp : service.dhcp with
  | supplied lease => exact absurd dhcp (unsupplied lease)
  | off => simp [settle, link, dhcp, applyFallback]
  | acquiring => simp [settle, link, dhcp, applyFallback]

/-- What the rest of a poll does: nothing, it announces a lease, or it takes the static
parameters because the time is over. -/
theorem settle_cases (now : UInt32) (service : Service) :
    settle now service = service
      ∨ service.link = true ∧ (∃ lease, service.dhcp = .supplied lease)
        ∧ settle now service = report .dhcp { service with configuration := .dhcp }
      ∨ service.link = true ∧ service.Unsupplied ∧ service.configuration = .none
        ∧ settle now service =
          report .fallback
            { service with
              parameters := fallback, dns := fallbackDns, configuration := .fallback } := by
  by_cases link : service.link = true
  · by_cases supplied : ∃ lease, service.dhcp = .supplied lease
    · obtain ⟨lease, dhcp⟩ := supplied
      rw [settle_of_supplied now link dhcp]
      split
      · exact .inr (.inl ⟨link, ⟨lease, dhcp⟩, rfl⟩)
      · exact .inl rfl
    · have unsupplied : service.Unsupplied := not_exists.mp supplied
      rw [settle_of_unsupplied now link unsupplied]
      split
      · next due => exact .inr (.inr ⟨link, unsupplied, due.1, rfl⟩)
      · exact .inl rfl
  · exact .inl (by simp [settle, link])

/-! ## The invariant -/

/-- The interface is up with the link. The service is ready when a configuration is active,
which is the one announced last. A lease is in use as soon as the client has it. Without a
lease the interface has no address, but for the static one. -/
structure Settled (service : Service) : Prop where
  up_eq : service.up = service.link
  ready_iff : service.ready = true ↔ service.configuration ≠ .none
  down : service.link = false → service.dhcp = .off ∧ service.configuration = .none
  supplied : ∀ lease, service.dhcp = .supplied lease → service.parameters = lease
  unsupplied : service.link = true → service.Unsupplied →
    service.parameters = .any
      ∨ service.configuration = .fallback ∧ service.parameters = fallback
  announced : service.configuration ≠ .none →
    service.reports.head?.map Report.source = some service.configuration

theorem Settled.link_of_ready (settled : Settled service) (ready : service.ready = true) :
    service.link = true := by
  by_contra down
  have none := (settled.down (by simpa using down)).2
  exact settled.ready_iff.mp ready none

theorem Settled.updateLink (settled : Settled service) (poll : Poll) :
    Settled (updateLink poll service).1 := by
  rcases updateLink_cases poll service with
    same | ⟨_, _, started | failed⟩ | ⟨_, _, lowered⟩
  · rw [same]
    exact settled
  · rw [started]
    constructor <;> simp [Service.Unsupplied]
  · rw [failed]
    constructor <;> simp [Service.Unsupplied]
  · rw [lowered]
    constructor <;> cases service.dhcp <;> simp [dhcpStop, Service.Unsupplied]

theorem Settled.settle (settled : Settled service) (now : UInt32) :
    Settled (settle now service) := by
  rcases settle_cases now service with
    same | ⟨link, ⟨lease, dhcp⟩, announced⟩ | ⟨link, unsupplied, _, applied⟩
  · rw [same]
    exact settled
  · rw [announced]
    exact ⟨settled.up_eq, by simp [report, link], by simp [report, link],
      settled.supplied, fun _ unsupplied => absurd dhcp (unsupplied lease), by simp [report]⟩
  · rw [applied]
    exact ⟨settled.up_eq, by simp [report, link], by simp [report, link],
      fun lease dhcp => absurd dhcp (unsupplied lease), by simp [report], by simp [report]⟩

theorem coreProcess_eq (poll : Poll) (service : Service) :
    coreProcess poll service = (updateLink poll service).1
      ∨ coreProcess poll service = settle poll.now (updateLink poll service).1 := by
  unfold coreProcess
  rcases updateLink poll service with ⟨updated, _ | _⟩
  · exact .inl rfl
  · exact .inr rfl

/-- A client that is not off has its link. -/
theorem Settled.link_of_dhcp (settled : Settled service) (running : service.dhcp ≠ .off) :
    service.link = true := by
  by_contra down
  exact running (settled.down (by simpa using down)).1

/-- The events of the client do nothing while it is off. -/
theorem step_of_off {event : Event} (other : ∀ poll, event ≠ .poll poll)
    (off : service.dhcp = .off) : step service event = service := by
  cases event with
  | poll poll => exact absurd rfl (other poll)
  | acknowledged dns => simp [step, dhcpHandleAck, off]
  | bound lease => simp [step, dhcpBind, off]
  | refused => simp [step, dhcpRefused, off]
  | expired starts => simp [step, dhcpExpired, off]

theorem dhcp_dhcpStop (service : Service) : (dhcpStop service).dhcp = .off := by
  cases dhcp : service.dhcp <;> simp [dhcpStop, dhcp]

/-- A client that has been stopped has no lease after it is started again: whether it could
be started decides between `off` and `acquiring`. -/
theorem dhcpStart_of_off (starts : Bool) (off : service.dhcp = .off) :
    ∃ client, (∀ lease, client ≠ .supplied lease)
      ∧ (dhcpStart starts service).1 = { service with dhcp := client } := by
  by_cases up : service.up = true
  · cases starts with
    | true => exact ⟨.acquiring, by simp, by simp [dhcpStart, up]⟩
    | false => exact ⟨.off, by simp, by simp [dhcpStart, up]⟩
  · have same : (dhcpStart starts service).1 = service := by simp [dhcpStart, up]
    exact ⟨.off, by simp, by rw [same, ← off]⟩

/-- The events of the client leave the variables of the service alone. A client that is off
stays off. Otherwise there is a new name server, or the client has a new lease, or it has none
and its lease has gone with its address. -/
theorem dhcp_cases (event : Event) (other : ∀ poll, event ≠ .poll poll) (service : Service) :
    step service event = service
      ∨ service.dhcp ≠ .off
        ∧ ((∃ dns, step service event = { service with dns := dns })
          ∨ (∃ lease, event = .bound lease
            ∧ step service event =
              { service with dhcp := .supplied lease, parameters := lease })
          ∨ ∃ client parameters, (∀ lease, client ≠ .supplied lease)
            ∧ (parameters = .any ∨ service.Unsupplied ∧ parameters = service.parameters)
            ∧ step service event =
              { service with dhcp := client, parameters := parameters }) := by
  by_cases off : service.dhcp = .off
  · exact .inl (step_of_off other off)
  refine .inr ⟨off, ?_⟩
  cases event with
  | poll poll => exact absurd rfl (other poll)
  | acknowledged dns => exact .inl ⟨dns.getD service.dns, by simp [step, dhcpHandleAck]⟩
  | bound lease => exact .inr (.inl ⟨lease, rfl, by simp [step, dhcpBind]⟩)
  | refused =>
      exact .inr (.inr ⟨.acquiring, .any, by simp, .inl rfl, by simp [step, dhcpRefused]⟩)
  | expired starts =>
      obtain ⟨client, without, eq⟩ :=
        @dhcpStart_of_off (dhcpStop service) starts (dhcp_dhcpStop service)
      cases dhcp : service.dhcp with
      | off => exact absurd dhcp off
      | acquiring =>
          refine .inr (.inr ⟨client, service.parameters, without,
            .inr ⟨by simp [Service.Unsupplied, dhcp], rfl⟩, ?_⟩)
          simpa [step, dhcpExpired, dhcp, dhcpStop] using eq
      | supplied lease =>
          refine .inr (.inr ⟨client, .any, without, .inl rfl, ?_⟩)
          simpa [step, dhcpExpired, dhcp, dhcpStop] using eq

theorem Settled.coreProcess (settled : Settled service) (poll : Poll) :
    Settled (coreProcess poll service) := by
  rcases coreProcess_eq poll service with updated | processed
  · rw [updated]
    exact settled.updateLink poll
  · rw [processed]
    exact (settled.updateLink poll).settle poll.now

/-- **Every event keeps the invariant.** -/
theorem Settled.step (settled : Settled service) (event : Event) :
    Settled (step service event) := by
  by_cases polls : ∃ poll, event = .poll poll
  · obtain ⟨poll, rfl⟩ := polls
    exact settled.coreProcess poll
  rcases dhcp_cases event (not_exists.mp polls) service with
    same | ⟨running, ⟨dns, acknowledged⟩ | ⟨lease, _, bound⟩ |
      ⟨client, parameters, without, kept, lost⟩⟩
  · rw [same]
    exact settled
  · rw [acknowledged]
    exact { settled with }
  · have link := settled.link_of_dhcp running
    rw [bound]
    exact ⟨settled.up_eq, settled.ready_iff, by simp [link], by simp,
      fun _ unsupplied => absurd rfl (unsupplied lease), settled.announced⟩
  · have link := settled.link_of_dhcp running
    rw [lost]
    refine ⟨settled.up_eq, settled.ready_iff, by simp [link],
      fun lease dhcp => absurd dhcp (without lease), fun _ _ => ?_, settled.announced⟩
    rcases kept with rfl | ⟨unsupplied, rfl⟩
    · exact .inl rfl
    · exact settled.unsupplied link unsupplied

theorem Settled.init {now : UInt32} {poll : Poll} {start : Service}
    (started : coreInit now poll = some start) : Settled start := by
  have added : Settled ⟨false, false, .any, .any, .off, now, .none, false, []⟩ := by
    constructor <;> simp
  have updated := added.updateLink poll
  unfold coreInit at started
  dsimp only at started
  revert started updated
  rcases NetworkService.updateLink poll _ with ⟨service, _ | _⟩
  · intro started
    exact absurd started (by simp)
  · intro started updated
    cases link : service.link with
    | false =>
        have same : { service with up := false } = start := by simpa [link] using started
        rw [← same]
        exact { updated with up_eq := link.symm }
    | true =>
        have same : service = start := by simpa [link] using started
        exact same ▸ updated

/-- The invariant holds in every state that the service reaches. -/
theorem Settled.run {start : Service} (settled : Settled start) (events : List Event) :
    Settled (Run.run NetworkService.step start events) := by
  induction events generalizing start with
  | nil => exact settled
  | cons event rest ih => exact ih (settled.step event)

/-- **Readiness.** Whatever the link, the transceiver and the DHCP client do: the service is
ready exactly when it has announced a configuration that is still active. Then the link and
the interface are up. As long as the client has a lease, the interface has its parameters;
without one it has the static parameters, if those were announced, or none at all. -/
theorem ready_runs {now : UInt32} {poll : Poll} {start : Service}
    (started : coreInit now poll = some start) (events : List Event) :
    let service := Run.run step start events
    (service.ready = true ↔ service.configuration ≠ .none)
      ∧ (service.ready = true → service.link = true ∧ service.up = true
        ∧ service.reports.head?.map Report.source = some service.configuration)
      ∧ (∀ lease, service.dhcp = .supplied lease → service.parameters = lease)
      ∧ (service.ready = true → service.Unsupplied →
        service.parameters = .any
          ∨ service.configuration = .fallback ∧ service.parameters = fallback) := by
  intro service
  have settled : Settled service := (Settled.init started).run events
  refine ⟨settled.ready_iff, fun ready => ?_, settled.supplied, fun ready => ?_⟩
  · have link := settled.link_of_ready ready
    exact ⟨link, settled.up_eq.trans link, settled.announced (settled.ready_iff.mp ready)⟩
  · exact settled.unsupplied (settled.link_of_ready ready)

/-- A start with the link up, and a lease that the next poll announces. -/
theorem ready_runs_with_lease :
    let up : Poll := ⟨some true, 5, 6, true⟩
    let start : Service := ⟨true, true, .any, .any, .acquiring, 5, .none, false, []⟩
    let lease : Parameters := ⟨⟨10, 0, 0, 7⟩, ⟨255, 0, 0, 0⟩, ⟨10, 0, 0, 1⟩⟩
    let service := Run.run step start [.acknowledged none, .bound lease, .poll up]
    coreInit 4 up = some start ∧ service.ready = true ∧ service.parameters = lease := by
  intro up start lease service
  have started : coreInit 4 up = some start := by decide
  exact ⟨started, by decide, (ready_runs started [.acknowledged none, .bound lease, .poll up]).2.2.1 lease
    (by decide)⟩

/-! ## As long as the link stays -/

/-- The order in which the configurations follow each other. -/
def Configuration.rank : Configuration → ℕ
  | .none => 0
  | .fallback => 1
  | .dhcp => 2

/-- The event is not a poll that finds the link down. -/
def Event.KeepsLink : Event → Prop
  | .poll poll => poll.phy ≠ some false
  | _ => True

theorem coreProcess_of_phy_up (link : service.link = true) (phy : poll.phy = some true) :
    coreProcess poll service = settle poll.now service := by
  simp [coreProcess, updateLink, phy, link]

theorem coreProcess_of_unread (phy : poll.phy = none) : coreProcess poll service = service := by
  simp [coreProcess, updateLink, phy]

/-- An event with the link up: the link stays, the time is still that of the start of the
client, and the configuration does not fall back. -/
theorem step_of_keepsLink {event : Event} (link : service.link = true)
    (keeps : event.KeepsLink) :
    (step service event).link = true
      ∧ (step service event).dhcpStartedAt = service.dhcpStartedAt
      ∧ service.configuration.rank ≤ (step service event).configuration.rank := by
  have settles (now : UInt32) : (settle now service).link = true
      ∧ (settle now service).dhcpStartedAt = service.dhcpStartedAt
      ∧ service.configuration.rank ≤ (settle now service).configuration.rank := by
    rcases settle_cases now service with same | ⟨_, _, announced⟩ | ⟨_, _, none, applied⟩
    · rw [same]
      exact ⟨link, rfl, le_refl _⟩
    · rw [announced]
      refine ⟨link, rfl, ?_⟩
      cases service.configuration <;> simp [report, Configuration.rank]
    · rw [applied, none]
      exact ⟨link, rfl, Nat.zero_le _⟩
  by_cases polls : ∃ poll, event = .poll poll
  · obtain ⟨poll, rfl⟩ := polls
    rcases phy : poll.phy with _ | _ | _
    · rw [step, coreProcess_of_unread phy]
      exact ⟨link, rfl, le_refl _⟩
    · exact absurd phy keeps
    · rw [step, coreProcess_of_phy_up link phy]
      exact settles poll.now
  rcases dhcp_cases event (not_exists.mp polls) service with
    same | ⟨_, ⟨_, acknowledged⟩ | ⟨_, _, bound⟩ | ⟨_, _, _, _, lost⟩⟩
  · rw [same]
    exact ⟨link, rfl, le_refl _⟩
  · rw [acknowledged]
    exact ⟨link, rfl, le_refl _⟩
  · rw [bound]
    exact ⟨link, rfl, le_refl _⟩
  · rw [lost]
    exact ⟨link, rfl, le_refl _⟩

theorem run_of_keepsLink {events : List Event} (link : service.link = true)
    (keeps : ∀ event ∈ events, event.KeepsLink) :
    (Run.run step service events).link = true
      ∧ (Run.run step service events).dhcpStartedAt = service.dhcpStartedAt
      ∧ service.configuration.rank ≤ (Run.run step service events).configuration.rank := by
  induction events generalizing service with
  | nil => exact ⟨link, rfl, le_refl _⟩
  | cons event rest ih =>
      obtain ⟨first, others⟩ := List.forall_mem_cons.mp keeps
      have one := step_of_keepsLink link first
      have later := ih one.1 others
      exact ⟨later.1, later.2.1.trans one.2.1, one.2.2.trans later.2.2⟩

/-- A service that announced a lease and has lost it. -/
structure Stranded (service : Service) : Prop where
  link : service.link = true
  configuration : service.configuration = .dhcp
  unsupplied : service.Unsupplied

/-- Only a new lease or a change of the link ends that. -/
theorem Stranded.step {event : Event} (stranded : Stranded service) (keeps : event.KeepsLink)
    (unbound : ∀ lease, event ≠ .bound lease) :
    Stranded (step service event) := by
  by_cases polls : ∃ poll, event = .poll poll
  · obtain ⟨poll, rfl⟩ := polls
    rcases phy : poll.phy with _ | _ | _
    · rw [NetworkService.step, coreProcess_of_unread phy]
      exact stranded
    · exact absurd phy keeps
    · rw [NetworkService.step, coreProcess_of_phy_up stranded.link phy,
        settle_of_unsupplied _ stranded.link stranded.unsupplied,
        if_neg (by simp [stranded.configuration])]
      exact stranded
  rcases dhcp_cases event (not_exists.mp polls) service with
    same | ⟨_, ⟨_, acknowledged⟩ | ⟨lease, bound, _⟩ | ⟨_, _, without, _, lost⟩⟩
  · rw [same]
    exact stranded
  · rw [acknowledged]
    exact ⟨stranded.link, stranded.configuration, stranded.unsupplied⟩
  · exact absurd bound (unbound lease)
  · rw [lost]
    exact ⟨stranded.link, stranded.configuration, without⟩

theorem Stranded.run {events : List Event} (stranded : Stranded service)
    (keeps : ∀ event ∈ events, event.KeepsLink)
    (unbound : ∀ lease, .bound lease ∉ events) :
    Stranded (Run.run NetworkService.step service events) := by
  induction events generalizing service with
  | nil => exact stranded
  | cons event rest ih =>
      obtain ⟨first, others⟩ := List.forall_mem_cons.mp keeps
      have after := stranded.step first fun lease same =>
        unbound lease (same ▸ List.mem_cons_self)
      exact ih after others fun lease mem => unbound lease (List.mem_cons_of_mem _ mem)

/-- A poll once the time is over leaves the service ready. Without a configuration and without
a lease that is when it becomes ready, with the static parameters. -/
theorem settle_ready (settled : Settled service) (link : service.link = true) (now : UInt32)
    (elapsed : dhcpTimeoutMs ≤ now - service.dhcpStartedAt) :
    (settle now service).ready = true := by
  by_cases active : service.configuration = .none
  · by_cases supplied : ∃ lease, service.dhcp = .supplied lease
    · obtain ⟨lease, dhcp⟩ := supplied
      rw [settle_of_supplied now link dhcp, if_pos (by simp [active])]
      exact link
    · rw [settle_of_unsupplied now link (not_exists.mp supplied), if_pos ⟨active, elapsed⟩]
      exact link
  · have ready := settled.ready_iff.mpr active
    rcases settle_cases now service with same | ⟨_, _, announced⟩ | ⟨_, _, none, _⟩
    · rw [same]
      exact ready
    · rw [announced]
      exact link
    · exact absurd none active

/-- **As long as the link stays,** the service remains ready once it is, and the static
parameters never follow a lease. A poll ten seconds after the start of the client finds the
service ready or makes it so; without a lease and a configuration no earlier poll does, and
this one takes the static parameters. But a service that announced a lease and has lost it
stays ready without an address: it takes the static parameters no more, however long the
client looks for a new lease. -/
theorem while_link_stays {now : UInt32} {poll : Poll} {start : Service}
    (started : coreInit now poll = some start) (history events : List Event)
    (link : (Run.run step start history).link = true)
    (keeps : ∀ event ∈ events, event.KeepsLink) :
    let service := Run.run step start history
    let later := Run.run step service events
    later.link = true
      ∧ service.configuration.rank ≤ later.configuration.rank
      ∧ (service.ready = true → later.ready = true)
      ∧ (∀ next : Poll, next.phy = some true →
        (dhcpTimeoutMs ≤ next.now - service.dhcpStartedAt →
          (step later (.poll next)).ready = true)
        ∧ (later.configuration = .none → later.Unsupplied →
          ((step later (.poll next)).ready = true
            ↔ dhcpTimeoutMs ≤ next.now - service.dhcpStartedAt)
          ∧ ((step later (.poll next)).ready = true →
            (step later (.poll next)).parameters = fallback
              ∧ (step later (.poll next)).dns = fallbackDns)))
      ∧ (service.configuration = .dhcp → service.Unsupplied →
        (∀ lease, .bound lease ∉ events) →
        later.ready = true ∧ later.configuration = .dhcp ∧ later.parameters = .any) := by
  intro service later
  have settled : Settled service := (Settled.init started).run history
  have settledLater : Settled later := settled.run events
  obtain ⟨linkLater, sameTime, rank⟩ := run_of_keepsLink link keeps
  refine ⟨linkLater, rank, fun ready => ?_, fun next phy => ⟨fun elapsed => ?_, ?_⟩, ?_⟩
  · -- a configuration of higher rank is not the empty one
    rw [settledLater.ready_iff]
    intro none
    have lowest : service.configuration.rank ≤ 0 := by
      have := rank
      rwa [show (Run.run step service events).configuration = .none from none] at this
    exact settled.ready_iff.mp ready (by
      cases active : service.configuration <;> simp [active, Configuration.rank] at lowest ⊢)
  · have processed : step later (.poll next) = settle next.now later :=
      coreProcess_of_phy_up linkLater phy
    rw [processed]
    exact settle_ready settledLater linkLater next.now (sameTime ▸ elapsed)
  · intro none unsupplied
    have processed : step later (.poll next) = settle next.now later :=
      coreProcess_of_phy_up linkLater phy
    have idle : later.ready = false := by
      simpa [none] using settledLater.ready_iff
    rw [processed, settle_of_unsupplied next.now linkLater unsupplied,
      show later.dhcpStartedAt = service.dhcpStartedAt from sameTime]
    by_cases elapsed : dhcpTimeoutMs ≤ next.now - service.dhcpStartedAt
    · rw [if_pos ⟨none, elapsed⟩]
      exact ⟨⟨fun _ => elapsed, fun _ => linkLater⟩, fun _ => ⟨rfl, rfl⟩⟩
    · rw [if_neg fun due => elapsed due.2]
      have never : later.ready ≠ true := by simp [idle]
      exact ⟨⟨fun ready => absurd ready never, fun due => absurd due elapsed⟩,
        fun ready => absurd ready never⟩
  · intro active unsupplied unbound
    have stranded : Stranded later := Stranded.run ⟨link, active, unsupplied⟩ keeps unbound
    refine ⟨settledLater.ready_iff.mpr (by simp [stranded.configuration]),
      stranded.configuration, ?_⟩
    rcases settledLater.unsupplied stranded.link stranded.unsupplied with none | ⟨static, _⟩
    · exact none
    · exact absurd (stranded.configuration.symm.trans static) (by decide)

/-- A lease is announced and then refused. A poll an hour later finds the service ready without
an address. -/
theorem while_link_stays_lease_refused :
    let up : Poll := ⟨some true, 5, 6, true⟩
    let start : Service := ⟨true, true, .any, .any, .acquiring, 5, .none, false, []⟩
    let lease : Parameters := ⟨⟨10, 0, 0, 7⟩, ⟨255, 0, 0, 0⟩, ⟨10, 0, 0, 1⟩⟩
    let lost := Run.run step start [.acknowledged none, .bound lease, .poll up, .refused]
    let later := Run.run step lost [.poll { up with now := 3600000 }]
    coreInit 4 up = some start ∧ lost.link = true ∧ later.ready = true
      ∧ later.parameters = .any := by
  intro up start lease lost later
  have started : coreInit 4 up = some start := by decide
  have searching : lost.Unsupplied := by
    rw [Service.Unsupplied, show lost.dhcp = .acquiring by decide]
    simp
  have stays := while_link_stays started [.acknowledged none, .bound lease, .poll up, .refused]
    [.poll { up with now := 3600000 }] (by decide) (by simp [Event.KeepsLink, up])
  have stranded := stays.2.2.2.2 (by decide) searching (by simp)
  exact ⟨started, by decide, stranded.1, stranded.2.2⟩

end HealthCheckFirmware.NetworkService
