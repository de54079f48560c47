import HolidayApi.Settings.Check
import HolidayApi.Web.Operations

/-! # Reports on settings

    What can be said about settings without running the program: which
    entries of allow lists are dead, what a guard would decide about an
    address, and which advices every operation has.
-/

namespace HolidayApi.Settings

open HolidayApi.Access (Guard)

/-! ### Dead entries -/

/-- All dead entries. -/
def deadEntries (s : Settings) : List DeadEntry := s.deadInSecurity ++ s.deadInOperations

/-- The dead entry in words. -/
def DeadEntry.text (d : DeadEntry) : String :=
  d.field ++ ": malformed entry '" ++ d.entry ++ "' never matches"

/-! ### Verdicts -/

/-- What becomes of a caller. -/
inductive Verdict where
  | allowed
  | denied
  /-- The operation has no guard. -/
  | unguarded
  deriving DecidableEq, Repr

namespace Verdict

/-- The name of the verdict. -/
def name : Verdict → String
  | allowed => "Allowed"
  | denied => "Denied"
  | unguarded => "Unguarded"

/-- The verdict in words. -/
def text : Verdict → String
  | allowed => "allowed"
  | denied => "denied"
  | unguarded => "allowed (no guard configured)"

/-- What a guard decides. -/
def ofGuard (guard : Guard) (address : String) : Verdict :=
  if guard.allowed.admits address then allowed else denied

end Verdict

/-- What becomes of a caller of the write routes, or of an operation. -/
def verdict (s : Settings) (address : String) (operation : Option String) : Verdict :=
  match operation with
  | none => .ofGuard (Web.writeGuard s) address
  | some name =>
    match s.operations.find? fun g => g.name == name with
    | some g => .ofGuard (Web.guardOf s g) address
    | none => .unguarded

/-! ### Advices -/

/-- Every operation of a registry with the names of its advices, sorted. -/
def chains {σ : Type} (registry : Call.Registry σ) : List (String × List String) :=
  let sorted := registry.names.mergeSort fun a b => a ≤ b
  sorted.map fun name => (name, (registry.advices name).map Call.Advice.name)

end HolidayApi.Settings
