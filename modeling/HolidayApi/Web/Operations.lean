import HolidayApi.Calendar.Service
import HolidayApi.Settings.Basic

/-! # The operations of the program

    The controller operations, which requests run under, and the service
    operations below them are declared at startup. The settings decide which
    of them are traced and give some of them guards; a guard for another name
    declares that name.
-/

namespace HolidayApi.Web

open HolidayApi.Access (Guard)
open HolidayApi.Call (Declarations Policy)

/-- The names of the controller operations. -/
def controllerOperations : List String :=
  ["HolidayController.get_by_year", "HolidayController.get_by_year_and_month",
   "HolidayController.get_by_date", "HolidayController.get_by_id",
   "HolidayController.create", "HolidayController.create_bulk",
   "HolidayController.update", "HolidayController.delete"]

/-- The names of all operations. -/
def allOperations : List String := controllerOperations ++ Calendar.Service.operations

/-- The trace policy of the settings. -/
def policy (s : Settings) : Policy :=
  if s.trace.enabled then ⟨s.trace.included, s.trace.excluded⟩ else Policy.disabled

/-- The guard that the settings give to an operation. -/
def guardOf (s : Settings) (g : Settings.OperationGuard) : Guard :=
  .withDefaults g.allowed s.security.allowedAlways

/-- The guard of the write routes. -/
def writeGuard (s : Settings) : Guard :=
  .withDefaults s.security.allowed s.security.allowedAlways

/-- The operations with the guards of the settings. -/
def declarations (s : Settings) : Declarations :=
  let plain := allOperations.foldl Declarations.operation ⟨policy s, []⟩
  s.operations.foldl (fun d g => d.guarded g.name (guardOf s g)) plain

end HolidayApi.Web
