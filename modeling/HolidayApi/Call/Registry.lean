import HolidayApi.Access.Caller
import HolidayApi.Access.Guard
import HolidayApi.Call.Policy
import HolidayApi.Call.Span
import HolidayApi.Call.Task

/-! # The registry of operations

    Operations are declared by name at startup, some of them with guards. The
    registry then knows for each name the advices that surround its calls:
    first the guards in the order in which they were declared, then the span
    if the policy traces the name. So a caller who is turned away never opens
    a span. Names that were not declared have no advices.

    A call is invoked either as `Work` (`invokeNow`) or as a `Task`
    (`invoke`).
-/

namespace HolidayApi.Call

open HolidayApi.Access (Guard)

/-! ### Advices -/

/-- One of the things that surround a call. -/
inductive Advice where
  /-- The caller has to pass a guard. -/
  | checkCaller (guard : Guard)
  /-- The call is a span. -/
  | traceCall
  deriving DecidableEq, Repr

namespace Advice

/-- The name of the advice in reports. -/
def name : Advice → String
  | checkCaller _ => "CheckIp"
  | traceCall => "LogTrace"

/-- The guard of an advice that has one. -/
def guard? : Advice → Option Guard
  | checkCaller guard => some guard
  | traceCall => none

end Advice

/-- The operations with their advices. -/
structure Registry (σ : Type) where
  /-- The advices of each declared name, in the order of declaration. -/
  operations : List (String × List Advice)
  /-- What is done when spans open and close. -/
  recorder : Recorder σ

namespace Registry

variable {σ α : Type}

/-- The advices of an operation. -/
def advices (r : Registry σ) (operation : String) : List Advice :=
  (r.operations.lookup operation).getD []

/-- The declared names. -/
def names (r : Registry σ) : List String := r.operations.map Prod.fst

/-- The guards of an operation. -/
def guards (r : Registry σ) (operation : String) : List Guard :=
  (r.advices operation).filterMap Advice.guard?

/-- Whether calls of the operation are spans. -/
def isTraced (r : Registry σ) (operation : String) : Bool :=
  (r.advices operation).contains .traceCall

/-! ### Invoking without suspension -/

/-- The call surrounded by the advices, the first of them outermost. -/
def surround (recorder : Recorder σ) (operation caller : String)
    (call : Work σ (Outcome α)) : List Advice → Work σ (Outcome α)
  | [] => call
  | .checkCaller guard :: rest =>
    guard.protect caller (surround recorder operation caller call rest)
  | .traceCall :: rest =>
    recorder.around operation (surround recorder operation caller call rest)

/-- Invokes a call under the name of an operation. -/
def invokeNow (r : Registry σ) (operation : String) (caller : Option String)
    (call : Work σ (Outcome α)) : Work σ (Outcome α) :=
  surround r.recorder operation (caller.getD Access.Caller.unknown) call (r.advices operation)

/-! ### Invoking a task -/

/-- Runs the task inside a span, in the scope in which it is first run or
    else in one of its own. -/
def aroundTask (recorder : Recorder σ) (label : String) (call : Task σ (Outcome α)) :
    Task σ (Outcome α) :=
  Task.inSomeScope do
    let span ← Task.ofWork (recorder.opened label)
    let outcome ← call
    Task.ofWork (recorder.closed span (Recorder.faultOf outcome))
    return outcome

/-- The task surrounded by the advices, the first of them outermost. -/
def surroundTask (recorder : Recorder σ) (operation caller : String)
    (call : Task σ (Outcome α)) : List Advice → Task σ (Outcome α)
  | [] => call
  | .checkCaller guard :: rest => do
    match ← Task.ofWork (guard.check caller) with
    | .ok () => surroundTask recorder operation caller call rest
    | .error fault => return .error fault
  | .traceCall :: rest =>
    aroundTask recorder operation (surroundTask recorder operation caller call rest)

/-- Invokes a task under the name of an operation. -/
def invoke (r : Registry σ) (operation : String) (caller : Option String)
    (call : Task σ (Outcome α)) : Task σ (Outcome α) :=
  surroundTask r.recorder operation (caller.getD Access.Caller.unknown) call (r.advices operation)

end Registry

/-! ### Declaring -/

/-- The operations declared so far. -/
structure Declarations where
  /-- The choice of the operations that are traced. -/
  policy : Policy
  /-- The guards of each name, in the order of first declaration. -/
  declared : List (String × List Guard) := []

namespace Declarations

variable {σ : Type}

/-- Puts guards behind those of a name; a new name goes to the end. -/
def add (name : String) (guards : List Guard) :
    List (String × List Guard) → List (String × List Guard)
  | [] => [(name, guards)]
  | (other, known) :: rest =>
    if other = name then (other, known ++ guards) :: rest
    else (other, known) :: add name guards rest

/-- Declares an operation. -/
def operation (d : Declarations) (name : String) : Declarations :=
  { d with declared := add name [] d.declared }

/-- Declares an operation and gives it one more guard. -/
def guarded (d : Declarations) (name : String) (guard : Guard) : Declarations :=
  { d with declared := add name [guard] d.declared }

/-- The advices of an operation with these guards. -/
def advices (d : Declarations) (name : String) (guards : List Guard) : List Advice :=
  guards.map Advice.checkCaller ++ if d.policy.selects name then [.traceCall] else []

/-- The registry of the declared operations. -/
def registry (d : Declarations) (recorder : Recorder σ) : Registry σ :=
  ⟨d.declared.map fun (name, guards) => (name, d.advices name guards), recorder⟩

/-- Builds the registry and tells each operation. -/
def build (d : Declarations) (recorder : Recorder σ) : Work σ (Registry σ) := do
  let registry := d.registry recorder
  registry.operations.forM fun (name, advices) =>
    Work.tell (.operationRegistered name advices.length)
  return registry

end Declarations
end HolidayApi.Call
