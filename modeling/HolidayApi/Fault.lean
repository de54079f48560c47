/-! # Faults

    The ways in which a call can fail, and the codes under which they are
    answered. A *known* fault is an expected outcome of the business, such as
    a row that is not there; all others are worth a warning.
-/

namespace HolidayApi

/-- The codes of answers other than success. -/
inductive Code where
  | invalidArgument | notReadable | unauthorizedIp | forbidden | notFound
  | dataNotFound | holidayNotFound | holidayAlreadyExists | illegalState | serverError
  deriving DecidableEq, Repr

namespace Code

/-- All codes. -/
def all : List Code :=
  [invalidArgument, notReadable, unauthorizedIp, forbidden, notFound, dataNotFound,
   holidayNotFound, holidayAlreadyExists, illegalState, serverError]

theorem mem_all (c : Code) : c ∈ all := by cases c <;> decide

/-- The name of the code in answers and logs. -/
def name : Code → String
  | invalidArgument => "INVALID_ARGUMENT"
  | notReadable => "NOT_READABLE"
  | unauthorizedIp => "UNAUTHORIZED_IP"
  | forbidden => "FORBIDDEN"
  | notFound => "NOT_FOUND"
  | dataNotFound => "DATA_NOT_FOUND"
  | holidayNotFound => "HOLIDAY_NOT_FOUND"
  | holidayAlreadyExists => "HOLIDAY_ALREADY_EXISTS"
  | illegalState => "ILLEGAL_STATE"
  | serverError => "SERVER_ERROR"

/-- The sentence that goes with the code. -/
def message : Code → String
  | invalidArgument => "Invalid argument"
  | notReadable => "Request body is not readable"
  | unauthorizedIp => "Unauthorized IP address"
  | forbidden => "Access denied"
  | notFound => "Resource not found"
  | dataNotFound => "Data not found"
  | holidayNotFound => "Holiday not found"
  | holidayAlreadyExists => "Holiday already exists"
  | illegalState => "Illegal state"
  | serverError => "Internal server error"

/-- The HTTP status that goes with the code. -/
def status : Code → Nat
  | invalidArgument | notReadable => 400
  | unauthorizedIp | forbidden => 403
  | notFound | dataNotFound | holidayNotFound => 404
  | holidayAlreadyExists | illegalState => 409
  | serverError => 500

/-- The code with this name. -/
def ofName? (name : String) : Option Code := all.find? fun c => c.name == name

end Code

/-- The failure of a call. -/
inductive Fault where
  /-- An expected outcome. -/
  | known (code : Code) (message : String)
  /-- A failure of the business that is worth a warning. -/
  | business (code : Code) (message : String)
  /-- A caller that a guard turned away. -/
  | unauthorizedIp (address : String)
  /-- A request whose values make no sense. -/
  | invalidArgument (detail : String)
  /-- Everything else. -/
  | internal (detail : String)
  deriving DecidableEq, Repr

namespace Fault

/-- The five kinds of fault, under which failed spans are counted. -/
inductive Kind where
  | known | business | unauthorizedIp | invalidArgument | internal
  deriving DecidableEq, Repr

namespace Kind

/-- All kinds. -/
def all : List Kind := [known, business, unauthorizedIp, invalidArgument, internal]

/-- The name of the kind in logs and metrics. -/
def name : Kind → String
  | known => "KnownError"
  | business => "BusinessError"
  | unauthorizedIp => "UnauthorizedIpError"
  | invalidArgument => "InvalidArgumentError"
  | internal => "InternalError"

end Kind

/-- The kind of the fault. -/
def kind : Fault → Kind
  | known .. => .known
  | business .. => .business
  | unauthorizedIp _ => .unauthorizedIp
  | invalidArgument _ => .invalidArgument
  | internal _ => .internal

/-- Whether the fault is an expected outcome. -/
def isKnown (f : Fault) : Bool := f.kind = .known

/-- The code under which the fault is answered. -/
def code : Fault → Code
  | known code _ | business code _ => code
  | unauthorizedIp _ => .unauthorizedIp
  | invalidArgument _ => .invalidArgument
  | internal _ => .serverError

/-- The fault in words. -/
def text : Fault → String
  | known _ message | business _ message => message
  | unauthorizedIp address => "unauthorized ip: " ++ address
  | invalidArgument detail => "invalid argument: " ++ detail
  | internal detail => "internal error: " ++ detail

/-- The fault in one line of a log. -/
def summary (f : Fault) : String := "[" ++ f.code.name ++ "] " ++ f.text

end Fault

/-- The outcome of a call. -/
abbrev Outcome (α : Type) := Except Fault α

end HolidayApi
