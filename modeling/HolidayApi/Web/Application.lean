import HolidayApi.Calendar.Service
import HolidayApi.Data.JsonText
import HolidayApi.Web.MediaType
import HolidayApi.Web.Message
import HolidayApi.Web.Operations
import HolidayApi.Web.Route

/-! # The application

    A request goes through these stages:

    1. it gets an id, its own or an issued one, which the response carries;
    2. a body that is announced as too long is refused;
    3. a trace scope opens, seeded with the id;
    4. the resource is found and the method is judged;
    5. on a write route the caller has to pass the write guard;
    6. path and body are read;
    7. the controller operation runs, and in it the service operation.

    Every fault on the way becomes the envelope of the response.
-/

namespace HolidayApi.Web

open HolidayApi.Access (Caller.resolve Guard)
open HolidayApi.Calendar (Draft Holiday Store)
open HolidayApi.Call (Registry Work)
open HolidayApi.Data (Json)

/-- The application with everything that the settings decide. -/
structure Application where
  /-- The settings. -/
  settings : Settings
  /-- The operations. -/
  registry : Registry Store

namespace Application

/-- Builds the application and tells its operations. -/
def build (s : Settings) : Work Store Application := do
  return ⟨s, ← (declarations s).build Call.Recorder.standard⟩

/-! ### Reading requests -/

/-- The caller of a request. -/
def caller (app : Application) (r : Request) : String :=
  Caller.resolve r.headers r.peer app.settings.security.trustedProxies

/-- The length of the body that the headers announce. -/
def announcedLength (r : Request) : Option Nat :=
  (r.headers.text? "content-length").bind (Text.natural? Text.max64)

/-- Whether the announced body is too long. -/
def isTooLong (app : Application) (r : Request) : Bool :=
  (announcedLength r).any fun n => app.settings.security.maxBodySize < n

/-- The most bytes that are read of any body. -/
def readLimit : Nat := 2097152

/-- The most bytes that are read of the body of a request. -/
def bodyLimit (app : Application) (r : Request) : Nat :=
  let limit := min app.settings.security.maxBodySize readLimit
  match announcedLength r with
  | some n => min limit n
  | none => limit

/-- Why a body cannot be used. -/
inductive Unreadable where
  | wrongType
  | tooLong
  | malformed
  | misshapen (path : List Data.Segment) (defect : Data.Defect)
  deriving DecidableEq, Repr

/-- The reason in words. -/
def Unreadable.message : Unreadable → String
  | wrongType => "Expected request with \x60Content-Type: application/json\x60"
  | tooLong => "Failed to buffer the request body: length limit exceeded"
  | malformed => "Failed to parse the request body as JSON"
  | misshapen path defect =>
    "Failed to deserialize the JSON body into the target type: "
      ++ (if path.isEmpty then "" else Data.pathText path ++ ": ") ++ defect.message

/-- What the body of a request says. -/
def payload {α : Type} (app : Application) (decoder : Data.Decoder α) (r : Request) :
    Except Unreadable α :=
  if !MediaType.saysJson r.headers then .error .wrongType
  else if bodyLimit app r < r.body.length then .error .tooLong
  else
    match Data.JsonText.decode decoder (Text.Utf8.units r.body) with
    | .ok value => .ok value
    | .error .malformed => .error .malformed
    | .error (.misshapen path defect) => .error (.misshapen path defect)

/-- The fault of a path that cannot be read. -/
def pathFault (e : Parameter.Error) : Fault := .invalidArgument e.message

/-- The fault of a body that cannot be used. -/
def bodyFault (u : Unreadable) : Fault := .business .notReadable u.message

/-! ### Controller operations -/

/-- Runs a controller operation for the caller. What the service answers is
    put into an envelope before the operation ends. -/
def control {α : Type} (app : Application) (operation caller : String)
    (service : Registry Store → Work Store (Outcome α))
    (wrap : α → Work Store Envelope) : Work Store (Outcome Envelope) :=
  app.registry.invokeNow operation (some caller) do
    match ← service app.registry with
    | .ok value => return .ok (← wrap value)
    | .error fault => return .error fault

/-- The envelope of a listing. -/
def listing (holidays : List Holiday) : Work Store Envelope := do
  let e ← Envelope.success (.object [("holidays", .list (holidays.map Holiday.json))])
  return e.withSize holidays.length

/-- The envelope of holidays that were created together. -/
def created (holidays : List Holiday) : Work Store Envelope := do
  let e ← Envelope.success (.list (holidays.map Holiday.json))
  return e.withSize holidays.length

/-- The envelope of one holiday. -/
def single (holiday : Holiday) : Work Store Envelope := Envelope.success holiday.json

/-- The envelope of the program's health. -/
def health : Work Store Envelope :=
  Envelope.success (.object [("status", .text "UP"), ("version", .text Call.Event.version)])

/-- The parameters of a resource. -/
def parameters : Route → List Parameter
  | .health | .holidays | .bulk => []
  | .year y => [.year y]
  | .month y m => [.year y, .small "month" m]
  | .day y m d => [.year y, .small "month" m, .small "day" d]
  | .item id => [.id id]

/-- Runs what is asked of a resource, once the write guard is passed. -/
def perform (app : Application) (r : Request) (route : Route) (verb : Route.Verb) :
    Work Store (Outcome Envelope) :=
  let caller := app.caller r
  match Parameter.readAll (parameters route) with
  | .error e => return .error (pathFault e)
  | .ok numbers =>
    match route, verb, numbers with
    | .year _, _, [y] =>
      app.control "HolidayController.get_by_year" caller
        (fun reg => Calendar.Service.findByYear reg y) listing
    | .month .., _, [y, m] =>
      app.control "HolidayController.get_by_year_and_month" caller
        (fun reg => Calendar.Service.findByYearAndMonth reg y m.toNat) listing
    | .day .., _, [y, m, d] =>
      app.control "HolidayController.get_by_date" caller
        (fun reg => Calendar.Service.findByDate reg y m.toNat d.toNat) listing
    | .holidays, _, _ =>
      match app.payload Draft.createDecoder r with
      | .error u => return .error (bodyFault u)
      | .ok draft =>
        app.control "HolidayController.create" caller
          (fun reg => Calendar.Service.create reg draft) single
    | .bulk, _, _ =>
      match app.payload Calendar.draftsDecoder r with
      | .error u => return .error (bodyFault u)
      | .ok drafts =>
        app.control "HolidayController.create_bulk" caller
          (fun reg => Calendar.Service.createAll reg drafts) created
    | .item _, .put, [id] =>
      match app.payload Draft.updateDecoder r with
      | .error u => return .error (bodyFault u)
      | .ok draft =>
        app.control "HolidayController.update" caller
          (fun reg => Calendar.Service.update reg id.toNat draft) single
    | .item _, .delete, [id] =>
      app.control "HolidayController.delete" caller
        (fun reg => Calendar.Service.delete reg id.toNat) fun () => Envelope.success .null
    | .item _, _, [id] =>
      app.control "HolidayController.get_by_id" caller
        (fun reg => Calendar.Service.findById reg id.toNat) single
    | _, _, _ => return .ok (← health)

/-! ### Answering -/

/-- Whether a request may change what is stored. -/
def isWrite (route : Route) (verb : Route.Verb) : Bool :=
  match route with
  | .holidays | .bulk => true
  | .item _ => verb ≠ .get
  | _ => false

/-- Runs what is asked of a resource; on a write route the caller has to pass
    the write guard first. -/
def guarded (app : Application) (r : Request) (route : Route) (verb : Route.Verb) :
    Work Store (Outcome Envelope) :=
  if isWrite route verb then
    (writeGuard app.settings).protect (app.caller r) (app.perform r route verb)
  else app.perform r route verb

/-- The response that carries an envelope. -/
def respond (id : RequestId) (outcome : Outcome Envelope) : Work Store Response := do
  let envelope ← match outcome with
    | .ok e => pure e
    | .error fault => Envelope.ofFault fault
  let body := Body.envelope envelope
  return { status := envelope.status, type := body.type, requestId := id, body }

/-- The response to a body that is announced as too long. -/
def tooLong (id : RequestId) (allow : Option String) : Response :=
  let body := Body.text "length limit exceeded"
  { status := 413, type := body.type, allow, requestId := id, body }

/-- The response to a request with this id. -/
def route (app : Application) (r : Request) (id : RequestId) : Work Store Response :=
  match Route.ofTarget? r.target with
  | none =>
    if app.isTooLong r then return tooLong id none else return { status := 404, requestId := id }
  | some route =>
    match (Route.Verb.ofMethod? r.method).filter route.accepts with
    | none =>
      if app.isTooLong r then return tooLong id (some route.allowed)
      else return { status := 405, allow := some route.allowed, requestId := id }
    | some verb =>
      if app.isTooLong r then return tooLong id none
      else Work.inScope id.seed do respond id (← app.guarded r route verb)

/-- The id of a request: the first one that was sent, or an issued one. -/
def requestId (r : Request) : Work Store RequestId :=
  match r.headers.first? "x-request-id" with
  | some value => return .sent value
  | none => return .issued (← Work.issue)

/-- The response to a request. No resource sends a body in answer to `HEAD`. -/
def answer (app : Application) (r : Request) : Work Store Response := do
  let response ← app.route r (← requestId r)
  if r.method = "HEAD" && (Route.ofTarget? r.target).isSome then
    return { response with body := .empty }
  else return response

end Application
end HolidayApi.Web
