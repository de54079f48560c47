import HolidayApi.Call.Event
import HolidayApi.Data.Json

/-! # Log lines

    An event is written on one line, either for people or as JSON. The time
    stands before it and is not part of what is written here.
-/

namespace HolidayApi.Daemon.Line

open HolidayApi.Call (Event FieldValue)
open HolidayApi.Data (Json)

/-- An event for people. -/
def pretty (name : Nat → String) (elapsed : Nat) (e : Event) : String :=
  let fields := (e.fields name).map fun (key, value) => " " ++ key ++ "=" ++ value.inLine
  e.severity.name ++ " " ++ e.target ++ ": " ++ e.message elapsed ++ String.join fields

/-- The JSON value of a field. -/
def fieldJson : FieldValue → Json
  | .shown text | .quoted text => .text text
  | .number n => .nat n
  | .flag b => .bool b

/-- An event as a JSON value. -/
def json (name : Nat → String) (elapsed : Nat) (e : Event) : Json :=
  .object
    [("level", .text e.severity.name),
     ("fields", .object (("message", .text (e.message elapsed))
       :: (e.fields name).map fun (key, value) => (key, fieldJson value))),
     ("target", .text e.target)]

end HolidayApi.Daemon.Line
