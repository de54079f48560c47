import HolidayApi.Stop.Channel
import HolidayApi.Web.Application

/-! # Starting and serving

    The subsystems are brought up in order: the log, the metrics, the
    application, and last the listener, so that requests come only when all
    is ready. The first failure ends the start. A server then answers
    requests until it is asked to stop.

    What the machine can do is asked of a `Host`.
-/

namespace HolidayApi.Daemon

open HolidayApi.Calendar (Store)
open HolidayApi.Call (Work)
open HolidayApi.Net (Endpoint)
open HolidayApi.Web (Application Request Response)

/-- What the machine allows the program to do. -/
structure Host where
  /-- Whether the log can be set up; that is possible only once. -/
  canLog : Bool
  /-- The endpoint of a listener at the address, if there can be one. -/
  listen : String → Option Endpoint

/-- Why the program does not start. -/
inductive StartupError where
  /-- The log is set up already. -/
  | logging
  /-- The metrics cannot be shown at their endpoint. -/
  | metrics
  /-- The address of the metrics is no endpoint. -/
  | metricsAddress (text : String)
  /-- There is no listener at the address. -/
  | bind (address : String)
  deriving DecidableEq, Repr

/-- The name of the error. -/
def StartupError.name : StartupError → String
  | logging => "Logging"
  | metrics => "Metrics"
  | metricsAddress _ => "MetricsAddress"
  | bind _ => "Bind"

/-! ### Starting -/

/-- Shows the metrics if the settings ask for it, and gives their endpoint. -/
def startMetrics (host : Host) (s : Settings) :
    Work Store (Except StartupError (Option Endpoint)) := do
  if !s.observability.metricsEnabled then return .ok none
  let address := s.observability.metricsAddress
  match Endpoint.parse? address with
  | none => return .error (.metricsAddress address)
  | some endpoint =>
    match host.listen address with
    | none => return .error .metrics
    | some _ =>
      Work.tell (.metricsListening endpoint.text)
      return .ok (some endpoint)

/-- Brings up all subsystems. -/
def bootstrap (host : Host) (s : Settings) :
    Work Store (Except StartupError (Application × Endpoint)) := do
  if !host.canLog then return .error .logging
  Work.tell (.configurationLoaded s.listener.bindAddress s.timeouts.requestSecs
    s.trace.enabled s.operations.length)
  match ← startMetrics host s with
  | .error e => return .error e
  | .ok taken =>
    let app ← Application.build s
    match (host.listen s.listener.bindAddress).filter fun e => !taken.any e.excludes with
    | none => return .error (.bind s.listener.bindAddress)
    | some endpoint => return .ok (app, endpoint)

/-! ### Serving -/

/-- Why a server stops. -/
inductive Cause where
  /-- A coordinator asked for it. -/
  | triggered
  /-- A signal asked for it. -/
  | signal (s : Stop.Signal)
  deriving DecidableEq, Repr

/-- What is told when a server is asked to stop. -/
def Cause.event : Cause → Call.Event
  | triggered => .shutdownTriggered
  | signal s => .signalReceived s

/-- Answers the requests that come before the cause to stop. -/
def serve (app : Application) (address : String) (requests : List Request) (cause : Cause) :
    Work Store (List Response) := do
  Work.tell (.serverStarting address)
  let responses ← requests.mapM app.answer
  Work.tell cause.event
  Work.tell .serverStopped
  return responses

/-- The whole run of the program once its settings are known; `shown` writes
    the endpoint of the listener. -/
def run (host : Host) (shown : Endpoint → String) (s : Settings) (requests : List Request)
    (cause : Cause) : Work Store (Except StartupError (List Response)) := do
  match ← bootstrap host s with
  | .error e => return .error e
  | .ok (app, endpoint) =>
    let responses ← serve app (shown endpoint) requests cause
    Work.tell .shutdownComplete
    return .ok responses

end HolidayApi.Daemon
