import HolidayApi.Text.Numeral
import HolidayApi.Text.Percent
import HolidayApi.Text.Split

/-! # Routes

    A path is matched part by part as it was sent: a fixed part is preferred
    to a parameter, and the last part may not be empty. A parameter is then
    decoded and read as a number.
-/

namespace HolidayApi.Web

/-- The resources, with their parameters as they were sent. -/
inductive Route where
  | health
  | year (year : String)
  | month (year month : String)
  | day (year month day : String)
  | holidays
  | bulk
  | item (id : String)
  deriving DecidableEq, Repr

namespace Route

/-! ### Matching -/

/-- The path of a request target, without scheme, authority, query and
    fragment. -/
def path (target : String) : List Char :=
  let cs := target.toList.takeWhile fun c => c ≠ '?' && c ≠ '#'
  match Text.afterFirst "://".toList cs with
  | some rest => if cs.head? = some '/' then cs else rest.dropWhile (· ≠ '/')
  | none => cs

/-- The parts of a path that begins with a slash. -/
def parts (path : List Char) : List String :=
  match path with
  | '/' :: rest => (Text.splitOn '/' rest).map String.ofList
  | _ => []

/-- The resource of a list of parts, the last of which is not empty. -/
def ofParts? : List String → Option Route
  | ["health"] => some health
  | ["api", "holidays"] => some holidays
  | ["api", "holidays", "bulk"] => some bulk
  | ["api", "holidays", y] => some (year y)
  | ["api", "holidays", "id", id] => some (item id)
  | ["api", "holidays", y, m] => some (month y m)
  | ["api", "holidays", y, m, d] => some (day y m d)
  | _ => none

/-- The resource that a request asks for. -/
def ofTarget? (target : String) : Option Route :=
  let parts := parts (path target)
  if parts.getLast? = some "" then none else ofParts? parts

/-! ### Methods -/

/-- What can be asked of a resource. -/
inductive Verb where
  | get
  | post
  | put
  | delete
  deriving DecidableEq, Repr

/-- What a method asks for; `HEAD` asks for what `GET` does. -/
def Verb.ofMethod? (method : String) : Option Verb :=
  if method = "GET" ∨ method = "HEAD" then some .get
  else if method = "POST" then some .post
  else if method = "PUT" then some .put
  else if method = "DELETE" then some .delete
  else none

/-- The methods of a resource as they are told to those who use another. -/
def allowed : Route → String
  | health | year _ | month .. | day .. => "GET,HEAD"
  | holidays | bulk => "POST"
  | item _ => "GET,HEAD,PUT,DELETE"

/-- Whether a resource can do what is asked. -/
def accepts : Route → Verb → Bool
  | health, .get | year _, .get | month .., .get | day .., .get => true
  | holidays, .post | bulk, .post => true
  | item _, verb => verb ≠ .post
  | _, _ => false

end Route

/-! ### Parameters -/

/-- A parameter of a path: its name, its text as it was sent, and the type
    and range of its number. -/
structure Parameter where
  name : String
  raw : String
  /-- The name of the type. -/
  type : String
  /-- Reads the number. -/
  read : List Char → Option Int

namespace Parameter

/-- A year. -/
def year (raw : String) : Parameter :=
  ⟨"year", raw, "i32", Text.integer? (-(Text.max31 : Int) - 1) Text.max31⟩

/-- A number of 32 bits. -/
def small (name raw : String) : Parameter :=
  ⟨name, raw, "u32", fun cs => (Text.natural? Text.max32 cs).map Int.ofNat⟩

/-- An id. -/
def id (raw : String) : Parameter :=
  ⟨"id", raw, "u64", fun cs => (Text.natural? Text.max64 cs).map Int.ofNat⟩

/-- What is wrong with a path. -/
inductive Error where
  /-- A parameter is no text. -/
  | notText (name : String)
  /-- The only parameter is no number. -/
  | notNumber (value type : String)
  /-- A parameter among others is no number. -/
  | notNumberAt (index : Nat) (value type : String)
  deriving DecidableEq, Repr

/-- The error in words. -/
def Error.message : Error → String
  | notText name => "Invalid URL: Invalid UTF-8 in \x60" ++ name ++ "\x60"
  | notNumber value type =>
    "Invalid URL: Cannot parse \x60" ++ value ++ "\x60 to a \x60" ++ type ++ "\x60"
  | notNumberAt index value type =>
    "Invalid URL: Cannot parse value at index " ++ String.ofList (Text.decimal index)
      ++ " with value \x60" ++ value ++ "\x60 to a \x60" ++ type ++ "\x60"

/-- The texts of the parameters. -/
def texts : List Parameter → Except Error (List (Parameter × String))
  | [] => .ok []
  | p :: rest =>
    match Text.Percent.decode? p.raw with
    | none => .error (.notText p.name)
    | some text => (texts rest).map ((p, text) :: ·)

/-- The numbers of the parameters from place `index` on. -/
def numbers (single : Bool) (index : Nat) : List (Parameter × String) → Except Error (List Int)
  | [] => .ok []
  | (p, text) :: rest =>
    match p.read text.toList with
    | none =>
      .error (if single then .notNumber text p.type else .notNumberAt index text p.type)
    | some n => (numbers single (index + 1) rest).map (n :: ·)

/-- The numbers of the parameters of a path. All of them have to be texts
    before any is read as a number. -/
def readAll (parameters : List Parameter) : Except Error (List Int) :=
  match texts parameters with
  | .ok texts => numbers (parameters.length = 1) 0 texts
  | .error e => .error e

end Parameter
end HolidayApi.Web
