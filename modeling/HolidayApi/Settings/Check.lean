import HolidayApi.Call.Session
import HolidayApi.Net.Endpoint
import HolidayApi.Settings.Basic
import HolidayApi.Text.Utf8
import HolidayApi.Toml.Document

/-! # Checking and loading settings

    Settings that are well-formed may still make no sense. A check finds all
    of their violations; `violations` is the list of them in order. Entries
    of allow lists that admit nothing are no violation, since they can only
    keep callers out: the check warns about them and goes on.
-/

namespace HolidayApi.Settings

open HolidayApi.Access (AllowList Entry)
open HolidayApi.Call (Work)

/-! ### Violations -/

/-- A setting that makes no sense. -/
structure Violation where
  /-- The setting. -/
  field : String
  /-- What is wrong with it. -/
  message : String
  deriving DecidableEq, Repr

/-- The violation in words. -/
def Violation.text (v : Violation) : String := v.field ++ ": " ++ v.message

/-- The names of the log levels. -/
def logLevels : List String := ["trace", "debug", "info", "warn", "error"]

/-- A violation, unless the condition holds. -/
def require (holds : Bool) (field message : String) : List Violation :=
  if holds then [] else [⟨field, message⟩]

/-- Whether a text is the address of a listener. -/
def isEndpoint (text : String) : Bool := (Net.Endpoint.parse? text).isSome

/-- What is wrong with the names of guarded operations, where `seen` are the
    names before them. -/
def nameViolations (seen : List String) : List OperationGuard → List Violation
  | [] => []
  | g :: rest =>
    if g.name.isEmpty then
      ⟨"operations.name", "must not be empty"⟩ :: nameViolations seen rest
    else if g.name ∈ seen then
      ⟨"operations.name", "duplicate operation '" ++ g.name ++ "'"⟩ :: nameViolations seen rest
    else nameViolations (g.name :: seen) rest

/-- All violations in order. -/
def violations (s : Settings) : List Violation :=
  require (isEndpoint s.listener.bindAddress) "listener.bind_address"
      ("invalid socket address '" ++ s.listener.bindAddress ++ "'")
    ++ require (s.timeouts.requestSecs ≠ 0) "timeouts.request_secs" "must be greater than 0"
    ++ require (logLevels.contains s.observability.logLevel) "observability.log_level"
      ("unknown level '" ++ s.observability.logLevel ++ "'")
    ++ require (!s.observability.metricsEnabled || isEndpoint s.observability.metricsAddress)
      "observability.metrics_address"
      ("invalid socket address '" ++ s.observability.metricsAddress ++ "'")
    ++ nameViolations [] s.operations

/-! ### Entries that admit nothing -/

/-- An entry that admits nothing, with the setting that holds it. -/
structure DeadEntry where
  /-- The setting. -/
  field : String
  /-- The text of the entry. -/
  entry : String
  deriving DecidableEq, Repr

/-- The dead entries of an allow list. -/
def deadIn (field : String) (list : AllowList) : List DeadEntry :=
  list.malformed.map fun entry => ⟨field, entry.text⟩

/-- The dead entries of the guards of operations. -/
def deadInOperations (s : Settings) : List DeadEntry :=
  s.operations.flatMap fun g => deadIn ("operations[" ++ g.name ++ "].allowed_ips") g.allowed

/-- The dead entries of the lists that concern all operations. -/
def deadInSecurity (s : Settings) : List DeadEntry :=
  deadIn "security.allowed_ips" s.security.allowed
    ++ deadIn "security.default_allowed_ips" s.security.allowedAlways
    ++ deadIn "security.trusted_proxies" s.security.trustedProxies

/-! ### The check -/

/-- Warns about dead entries and finds the violations. -/
def check {σ : Type} (s : Settings) : Work σ (Except (List Violation) Unit) := do
  (s.deadInOperations ++ s.deadInSecurity).forM fun dead =>
    Work.tell (.entryMalformed dead.field dead.entry)
  if s.violations.isEmpty then return .ok () else return .error s.violations

/-! ### Loading -/

/-- Why there are no settings. -/
inductive Problem where
  /-- There is no such document. -/
  | missing
  /-- The document is no text. -/
  | notText
  /-- The document is not well-formed. -/
  | malformed
  /-- The data of the document have the wrong shape. -/
  | misshapen (defect : Data.Defect)
  /-- Some settings make no sense. -/
  | violated (violations : List Violation)
  deriving DecidableEq, Repr

/-- The violations in one line. -/
def violationsText (violations : List Violation) : String :=
  "Validation failed: " ++ ", ".intercalate (violations.map Violation.text)

/-- The settings that a document denotes, before they are checked. -/
def ofToml (text : List Char) : Except Problem Settings :=
  match Toml.parse text with
  | none => .error .malformed
  | some datum =>
    match decoder .toml datum with
    | .ok s => .ok s
    | .error .malformed => .error .malformed
    | .error (.misshapen _ defect) => .error (.misshapen defect)

/-- The settings, if the check finds no violation. -/
def checked {σ : Type} (s : Settings) : Work σ (Except Problem Settings) := do
  match ← s.check with
  | .ok () => return .ok s
  | .error violations => return .error (.violated violations)

/-- The settings that a document denotes. -/
def parse {σ : Type} (text : List Char) : Work σ (Except Problem Settings) :=
  match ofToml text with
  | .ok s => s.checked
  | .error problem => return .error problem

/-- The settings that a file holds, if there is one. -/
def load {σ : Type} (content : Option (List UInt8)) : Work σ (Except Problem Settings) :=
  match content with
  | none => return .error .missing
  | some bytes =>
    match Text.Utf8.decode? bytes with
    | none => return .error .notText
    | some text => parse text

end HolidayApi.Settings
