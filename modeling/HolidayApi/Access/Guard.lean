import HolidayApi.Access.AllowList
import HolidayApi.Call.Session

/-! # Guards

    A guard decides about a caller before the protected call runs. A caller
    that is not on the list is turned away with a fault that names it.
-/

namespace HolidayApi.Access

open HolidayApi.Call (Work)

/-- The protection of a call. -/
structure Guard where
  /-- The callers that are let through. -/
  allowed : AllowList
  deriving DecidableEq, Repr

namespace Guard

variable {σ α : Type}

/-- The guard over a configured list and the entries that every list has. -/
def withDefaults (configured defaults : AllowList) : Guard :=
  ⟨configured.merged defaults⟩

/-- Decides about a caller. -/
def check (guard : Guard) (caller : String) : Work σ (Outcome Unit) := do
  Work.tell (.callerChecked caller)
  if guard.allowed.admits caller then return .ok ()
  else
    Work.tell (.callerRejected caller)
    Work.count Call.Meters.countDenial
    return .error (.unauthorizedIp caller)

/-- Runs the call if the caller is let through. -/
def protect (guard : Guard) (caller : String) (call : Work σ (Outcome α)) :
    Work σ (Outcome α) := do
  match ← guard.check caller with
  | .ok () => call
  | .error fault => return .error fault

end Guard
end HolidayApi.Access
