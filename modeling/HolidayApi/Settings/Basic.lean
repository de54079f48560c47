import HolidayApi.Access.AllowList
import HolidayApi.Data.Decode

/-! # Settings

    What the program can be told before it starts. Every setting but the
    guards of single operations has a default, so an empty document is a
    complete configuration. Settings are written as a JSON value and read
    from documents.
-/

namespace HolidayApi

open HolidayApi.Access (AllowList)
open HolidayApi.Data (Json Decoder Defect)

namespace Settings

/-! ### The sections -/

/-- Where the server listens. -/
structure Listener where
  bindAddress : String := "0.0.0.0:8080"
  deriving DecidableEq, Repr

/-- How long things may take. -/
structure Timeouts where
  /-- The seconds for a request. -/
  requestSecs : Nat := 30
  deriving DecidableEq, Repr

/-- How the log is written. -/
inductive LogFormat where
  | pretty
  | json
  deriving DecidableEq, Repr

/-- What can be seen of the running program. -/
structure Observability where
  logLevel : String := "info"
  logFormat : LogFormat := .pretty
  metricsEnabled : Bool := false
  metricsAddress : String := "0.0.0.0:9090"
  deriving DecidableEq, Repr

/-- Who may do what. -/
structure Security where
  /-- The largest body of a request in bytes. -/
  maxBodySize : Nat := 2 * 1024 * 1024
  /-- The callers of the write routes. -/
  allowed : AllowList := .empty
  /-- The callers that every guard lets through. -/
  allowedAlways : AllowList := .loopback
  /-- The peers that may name a caller. -/
  trustedProxies : AllowList := .loopback
  deriving DecidableEq, Repr

/-- Which operations are traced. -/
structure Tracing where
  enabled : Bool := true
  /-- Patterns of names. -/
  included : List String := ["*Controller.*", "*Service.*"]
  /-- Names. -/
  excluded : List String := []
  deriving DecidableEq, Repr

/-- The guard of a single operation. -/
structure OperationGuard where
  /-- The name of the operation. -/
  name : String
  /-- Its callers. -/
  allowed : AllowList
  deriving DecidableEq, Repr

end Settings

open Settings in
/-- All settings. -/
structure Settings where
  listener : Listener := {}
  timeouts : Timeouts := {}
  observability : Observability := {}
  security : Security := {}
  trace : Tracing := {}
  operations : List OperationGuard := []
  deriving DecidableEq, Repr

namespace Settings

/-! ### Writing -/

/-- The JSON value of an allow list. -/
def listJson (list : AllowList) : Json := .texts list.patterns

/-- The name of a log format. -/
def LogFormat.name : LogFormat → String
  | pretty => "pretty"
  | json => "json"

/-- The JSON value of the guard of an operation. -/
def OperationGuard.toJson (g : OperationGuard) : Json :=
  .object [("name", .text g.name), ("allowed_ips", listJson g.allowed)]

/-- The JSON value of the settings. -/
def toJson (s : Settings) : Json :=
  .object
    [("listener", .object [("bind_address", .text s.listener.bindAddress)]),
     ("timeouts", .object [("request_secs", .nat s.timeouts.requestSecs)]),
     ("observability", .object
       [("log_level", .text s.observability.logLevel),
        ("log_format", .text s.observability.logFormat.name),
        ("metrics_enabled", .bool s.observability.metricsEnabled),
        ("metrics_address", .text s.observability.metricsAddress)]),
     ("security", .object
       [("max_body_size", .nat s.security.maxBodySize),
        ("allowed_ips", listJson s.security.allowed),
        ("default_allowed_ips", listJson s.security.allowedAlways),
        ("trusted_proxies", listJson s.security.trustedProxies)]),
     ("trace", .object
       [("enabled", .bool s.trace.enabled),
        ("include", .texts s.trace.included),
        ("exclude", .texts s.trace.excluded)]),
     ("operations", .list (s.operations.map OperationGuard.toJson))]

/-! ### Reading -/

/-- A section of which some settings were read: the section with defaults for
    the others, and the names of those that were read. -/
abbrev Reading (σ : Type) := σ × List String

/-- A setting that has a default. -/
def setting {σ α : Type} (name : String) (put : σ → α → σ) (value : Decoder α) :
    Decoder.Field (Reading σ) where
  name := name
  isSet s := s.2.contains name
  set dialect datum s := (value dialect datum).map fun a => (put s.1 a, name :: s.2)

/-- A section all of whose settings have defaults. -/
def sectionDecoder {σ : Type} (name : String) (defaults : σ)
    (settings : List (Decoder.Field (Reading σ))) : Decoder σ :=
  Decoder.Shape.decoder ⟨name, settings, true, (defaults, []), fun s => .ok s.1⟩

/-- An allow list is read from the texts of its entries. -/
def listDecoder : Decoder AllowList := fun dialect datum =>
  (Decoder.list Decoder.text dialect datum).map AllowList.ofPatterns

/-- A list of texts. -/
def textsDecoder : Decoder (List String) := Decoder.list Decoder.text

def Listener.decoder : Decoder Listener := sectionDecoder "ListenerConfig" {}
  [setting "bind_address" (fun s v => { s with bindAddress := v }) Decoder.text]

def Timeouts.decoder : Decoder Timeouts := sectionDecoder "TimeoutConfig" {}
  [setting "request_secs" (fun s v => { s with requestSecs := v }) (Decoder.natural "u64")]

def LogFormat.decoder : Decoder LogFormat :=
  Decoder.choice [("pretty", .pretty), ("json", .json)]

def Observability.decoder : Decoder Observability := sectionDecoder "ObservabilityConfig" {}
  [setting "log_level" (fun s v => { s with logLevel := v }) Decoder.text,
   setting "log_format" (fun s v => { s with logFormat := v }) LogFormat.decoder,
   setting "metrics_enabled" (fun s v => { s with metricsEnabled := v }) Decoder.boolean,
   setting "metrics_address" (fun s v => { s with metricsAddress := v }) Decoder.text]

def Security.decoder : Decoder Security := sectionDecoder "SecurityConfig" {}
  [setting "max_body_size" (fun s v => { s with maxBodySize := v }) (Decoder.natural "usize"),
   setting "allowed_ips" (fun s v => { s with allowed := v }) listDecoder,
   setting "default_allowed_ips" (fun s v => { s with allowedAlways := v }) listDecoder,
   setting "trusted_proxies" (fun s v => { s with trustedProxies := v }) listDecoder]

def Tracing.decoder : Decoder Tracing := sectionDecoder "TraceConfig" {}
  [setting "enabled" (fun s v => { s with enabled := v }) Decoder.boolean,
   setting "include" (fun s v => { s with included := v }) textsDecoder,
   setting "exclude" (fun s v => { s with excluded := v }) textsDecoder]

/-- The guard of an operation of which some parts were read. -/
structure PartialGuard where
  name : Option String := none
  allowed : Option AllowList := none

/-- The guard of an operation of which all parts were read. -/
def PartialGuard.finish (p : PartialGuard) : Except Defect OperationGuard :=
  match p.name, p.allowed with
  | none, _ => .error (.missingField "name")
  | _, none => .error (.missingField "allowed_ips")
  | some name, some allowed => .ok ⟨name, allowed⟩

def OperationGuard.decoder : Decoder OperationGuard := Decoder.Shape.decoder
  ⟨"OperationConfig",
    [.of "name" PartialGuard.name (fun p v => { p with name := some v }) Decoder.text,
     .of "allowed_ips" PartialGuard.allowed (fun p v => { p with allowed := some v })
       listDecoder],
    false, {}, PartialGuard.finish⟩

/-- All settings in a document. -/
def decoder : Decoder Settings := sectionDecoder "AppConfig" {}
  [setting "listener" (fun s v => { s with listener := v }) Listener.decoder,
   setting "timeouts" (fun s v => { s with timeouts := v }) Timeouts.decoder,
   setting "observability" (fun s v => { s with observability := v }) Observability.decoder,
   setting "security" (fun s v => { s with security := v }) Security.decoder,
   setting "trace" (fun s v => { s with trace := v }) Tracing.decoder,
   setting "operations" (fun s v => { s with operations := v })
     (Decoder.list OperationGuard.decoder)]

end Settings
end HolidayApi
