import HolidayApi.Call.Session
import HolidayApi.Data.Json
import HolidayApi.Net.Endpoint
import HolidayApi.Net.Headers

/-! # Requests and responses

    A response to a request that was understood carries an envelope: what
    came of the request, the id under which it can be found in the log, the
    time of the answer, and the data. The time is known only where the
    envelope is written.
-/

namespace HolidayApi.Web

open HolidayApi.Call (Id Work)
open HolidayApi.Data (Json)

/-! ### Requests -/

/-- A request to the server. -/
structure Request where
  /-- The method in capitals. -/
  method : String := "GET"
  /-- The target: a path with perhaps a query. -/
  target : String
  /-- The headers. -/
  headers : Net.Headers := {}
  /-- The body. -/
  body : List UInt8 := []
  /-- The other end of the connection, if it is known. -/
  peer : Option Net.IpAddress := none

/-- The id of a request. -/
inductive RequestId where
  /-- The value that was sent. -/
  | sent (value : List UInt8)
  /-- An id that was issued. -/
  | issued (id : Id)
  deriving DecidableEq, Repr

/-- The id for the trace of a request; a value that is not readable gives
    none. -/
def RequestId.seed : RequestId → Option Id
  | sent value => (Net.Headers.readable? value).map fun cs => .given (String.ofList cs)
  | issued id => some id

/-! ### Envelopes -/

/-- What came of a request, and its data. -/
structure Envelope where
  /-- The HTTP status. -/
  status : Nat
  /-- The name of the code. -/
  code : String
  /-- The sentence that goes with the code. -/
  message : String
  /-- The id to be found in the log. -/
  traceId : Option Id
  /-- The number of the data, where they are many. -/
  size : Option Nat := none
  /-- The data. -/
  data : Json

namespace Envelope

variable {σ : Type}

/-- The envelope of a success, with the id that is seen now. -/
def success (data : Json) : Work σ Envelope := do
  return ⟨200, "SUCCESS", "Success", ← Work.currentId, none, data⟩

/-- The envelope under another code, with the id that is seen now. -/
def under (code : Code) (data : Json) : Work σ Envelope := do
  return ⟨code.status, code.name, code.message, ← Work.currentId, none, data⟩

/-- The envelope with the number of its data. -/
def withSize (e : Envelope) (size : Nat) : Envelope := { e with size := some size }

/-- The data that the envelope of a fault carries; what happened inside is
    not told. -/
def faultData : Fault → String
  | .unauthorizedIp address => address
  | .internal _ => Code.serverError.message
  | fault => fault.text

/-- The envelope of a fault. A fault that nobody expects is told. -/
def ofFault (fault : Fault) : Work σ Envelope := do
  if !fault.isKnown then Work.tell (.faultAnswered fault)
  under fault.code (.text (faultData fault))

/-- The JSON value of the envelope, answered at the time `stamp` in
    milliseconds, where `name` gives the texts of issued ids. -/
def toJson (name : Nat → String) (stamp : Int) (e : Envelope) : Json :=
  let traceId := (e.traceId.map fun id => ("appTraceId", Json.text (id.text name))).toList
  let size := (e.size.map fun n => ("size", Json.nat n)).toList
  .object
    [("meta", .object (("code", .text e.code) :: ("message", .text e.message)
      :: traceId ++ ("responseTs", .int stamp) :: size)),
     ("data", e.data)]

end Envelope

/-! ### Responses -/

/-- The body of a response. -/
inductive Body where
  | empty
  | text (t : String)
  | envelope (e : Envelope)

/-- The media type of a body. -/
def Body.type : Body → Option String
  | empty => none
  | text _ => some "text/plain; charset=utf-8"
  | envelope _ => some "application/json"

/-- A response of the server. -/
structure Response where
  /-- The HTTP status. -/
  status : Nat
  /-- The media type. -/
  type : Option String := none
  /-- The methods that the resource has, for those who used another. -/
  allow : Option String := none
  /-- The id of the request. -/
  requestId : RequestId
  /-- The body. -/
  body : Body := .empty

end HolidayApi.Web
