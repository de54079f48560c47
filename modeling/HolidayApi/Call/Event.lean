import HolidayApi.Call.Id
import HolidayApi.Fault
import HolidayApi.Stop.Signal
import HolidayApi.Text.Numeral
import HolidayApi.Text.Quoted

/-! # Log events

    What the program tells about its running. An event is kept as what
    happened; severity, message and fields are functions of it. Two things
    are known only where an event is written: the texts of issued ids and the
    time that a span took.

    The lines of a call chain draw a tree: a span that closes has the same
    bars before it as when it opened.
-/

namespace HolidayApi.Call

/-! ### Severity and fields -/

/-- How much an event matters. -/
inductive Severity where
  | trace | debug | info | warn | error
  deriving DecidableEq, Repr

namespace Severity

/-- The name of the severity in logs. -/
def name : Severity → String
  | trace => "TRACE"
  | debug => "DEBUG"
  | info => "INFO"
  | warn => "WARN"
  | error => "ERROR"

/-- The place of the severity, from the errors to the smallest detail. -/
def detail : Severity → Nat
  | error => 1
  | warn => 2
  | info => 3
  | debug => 4
  | trace => 5

end Severity

/-- The value of a field of an event. -/
inductive FieldValue where
  /-- A text that is shown as it is. -/
  | shown (text : String)
  /-- A text that is shown in quotes. -/
  | quoted (text : String)
  /-- A number. -/
  | number (n : Nat)
  /-- A truth value. -/
  | flag (b : Bool)
  deriving DecidableEq, Repr

namespace FieldValue

/-- The value without quotes. -/
def plain : FieldValue → String
  | shown text | quoted text => text
  | number n => String.ofList (Text.decimal n)
  | flag b => if b then "true" else "false"

/-- The value as a line of the log shows it. -/
def inLine : FieldValue → String
  | quoted text => Text.quote text
  | value => value.plain

end FieldValue

/-! ### Events -/

/-- Something that the program tells. -/
inductive Event where
  /-- An operation was registered with so many advices. -/
  | operationRegistered (operation : String) (advices : Nat)
  /-- An entry of an allow list in this field of the configuration admits nothing. -/
  | entryMalformed (field entry : String)
  /-- A guard looks at a caller. -/
  | callerChecked (address : String)
  /-- A guard turned a caller away. -/
  | callerRejected (address : String)
  /-- A span opened. -/
  | spanOpened (trace : Id) (level : Nat) (label : String)
  /-- A span closed, perhaps with a fault. -/
  | spanClosed (trace : Id) (level : Nat) (label : String) (fault : Option Fault)
  /-- A fault that nobody expects was answered. -/
  | faultAnswered (fault : Fault)
  /-- The configuration is in force. -/
  | configurationLoaded (bindAddress : String) (requestSecs : Nat) (traced : Bool)
      (guarded : Nat)
  /-- The metrics can be read at this address. -/
  | metricsListening (address : String)
  /-- The server accepts connections at this address. -/
  | serverStarting (address : String)
  /-- The server has answered its last request. -/
  | serverStopped
  /-- Somebody asked the server to stop. -/
  | shutdownTriggered
  /-- A signal asked the server to stop. -/
  | signalReceived (signal : Stop.Signal)
  /-- The program ends. -/
  | shutdownComplete
  deriving DecidableEq, Repr

namespace Event

/-- The version of the program. -/
def version : String := "0.1.0"

/-! ### The call tree -/

/-- The bars before a line at this level. -/
def bars (level : Nat) : String :=
  String.join (List.replicate (level - 1) "|   ") ++ "|"

/-- The arrow of a line that closes a span. -/
def closingArrow : Option Fault → String
  | none => "<-- "
  | some _ => "<X- "

/-- What a line says about a fault; an expected outcome is not worth a word. -/
def faultNote : Option Fault → String
  | some fault =>
    if fault.isKnown then "" else " , ex=" ++ fault.kind.name ++ " " ++ fault.text
  | none => ""

/-! ### What is written about an event -/

/-- How much the event matters. -/
def severity : Event → Severity
  | operationRegistered .. | callerChecked _ | spanOpened .. => .debug
  | entryMalformed .. | callerRejected _ => .warn
  | spanClosed _ _ _ (some fault) => if fault.isKnown then .debug else .warn
  | spanClosed _ _ _ none => .debug
  | faultAnswered _ => .error
  | configurationLoaded .. | metricsListening _ | serverStarting _ | serverStopped
  | shutdownTriggered | signalReceived _ | shutdownComplete => .info

/-- The event in words; `elapsed` is the time in milliseconds that a closed
    span took. -/
def message (elapsed : Nat) : Event → String
  | operationRegistered .. => "Operation registered"
  | entryMalformed .. => "Allow-list entry can never match"
  | callerChecked _ => "# ==> Check allowed ips..."
  | callerRejected _ => "Unauthorized IP rejected"
  | spanOpened _ level label => "# " ++ bars level ++ "--> " ++ label
  | spanClosed _ level label fault =>
    "# " ++ bars level ++ closingArrow fault ++ label ++ " , elapsed="
      ++ String.ofList (Text.decimal elapsed) ++ "ms" ++ faultNote fault
  | faultAnswered fault =>
    "# ==> ERROR INFO :: Code: [" ++ fault.code.name ++ "] , Message: "
      ++ fault.code.message ++ " , Exception: " ++ fault.kind.name
      ++ " , Cause: " ++ fault.text
  | configurationLoaded .. => "Configuration loaded"
  | metricsListening _ => "Metrics exporter listening"
  | serverStarting _ => "HTTP server starting"
  | serverStopped => "HTTP server stopped"
  | shutdownTriggered => "Shutdown triggered"
  | signalReceived _ => "Shutdown signal received"
  | shutdownComplete => "Shutdown complete"

/-- The fields of the event in order, where `name` gives the texts of issued
    ids. -/
def fields (name : Nat → String) : Event → List (String × FieldValue)
  | operationRegistered operation advices =>
    [("operation", .shown operation), ("advices", .number advices)]
  | entryMalformed field entry => [("field", .shown field), ("entry", .shown entry)]
  | callerChecked address | callerRejected address => [("client_ip", .shown address)]
  | spanOpened trace .. | spanClosed trace .. => [("trace_id", .shown (trace.text name))]
  | faultAnswered fault =>
    [("code", .shown fault.code.name), ("kind", .quoted fault.kind.name)]
  | configurationLoaded bindAddress requestSecs traced guarded =>
    [("version", .quoted version), ("bind_address", .shown bindAddress),
     ("request_timeout_secs", .number requestSecs), ("trace_enabled", .flag traced),
     ("guarded_operations", .number guarded)]
  | metricsListening address | serverStarting address => [("address", .shown address)]
  | signalReceived signal => [("signal", .quoted signal.name)]
  | serverStopped | shutdownTriggered | shutdownComplete => []

/-- Whether the event has a field of this name; the message is one. -/
def hasField (e : Event) (name : String) : Bool :=
  name = "message" || (e.fields toString).any fun (key, _) => key == name

/-- The part of the program that tells the event, by which logs are filtered. -/
def target : Event → String
  | operationRegistered .. => "skeleton_api::trace::registry"
  | entryMalformed .. => "skeleton_api::config::validation"
  | callerChecked _ | callerRejected _ => "skeleton_api::security::access_guard"
  | spanOpened .. | spanClosed .. => "skeleton_api::trace::recorder"
  | faultAnswered _ => "skeleton_api::http::response"
  | configurationLoaded .. => "skeleton_api::lifecycle::startup"
  | metricsListening _ => "skeleton_api::observability::metrics"
  | serverStarting _ | serverStopped => "skeleton_api::http::server"
  | shutdownTriggered | signalReceived _ => "skeleton_api::lifecycle::signals"
  | shutdownComplete => "skeleton_api"

end Event
end HolidayApi.Call
