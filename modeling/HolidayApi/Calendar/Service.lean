import HolidayApi.Calendar.Store
import HolidayApi.Call.Registry

/-! # The holiday service

    The business operations on the store. Every call is invoked through the
    registry under its own name, without a caller; a refusal of the store
    becomes an expected fault.
-/

namespace HolidayApi.Calendar.Service

open HolidayApi.Call (Registry Work)

/-- The names of the operations. -/
def operations : List String :=
  ["HolidayService.find_by_year", "HolidayService.find_by_year_and_month",
   "HolidayService.find_by_date", "HolidayService.find_by_id", "HolidayService.create",
   "HolidayService.create_all", "HolidayService.update", "HolidayService.delete"]

variable {α : Type}

/-! ### Faults -/

/-- The fault of a missing holiday. -/
def notFound (id : Nat) : Fault :=
  .known .holidayNotFound ("Holiday not found: " ++ String.ofList (Text.decimal id))

/-- The fault that a refusal becomes. -/
def faultOf : Refusal → Fault
  | .duplicate key =>
    .known .holidayAlreadyExists ("Holiday already exists: " ++ key.date.text ++ " " ++ key.name)
  | .notFound id => notFound id

/-- A step of the store whose refusals become faults. -/
def step (change : Store → Except Refusal α × Store) : Work Store (Outcome α) := do
  match ← Work.onData change with
  | .ok value => return .ok value
  | .error refusal => return .error (faultOf refusal)

/-- A question to the store. -/
def ask (question : Store → α) : Work Store α := do return question (← get).data

/-! ### Operations -/

/-- The holidays of a year. -/
def findByYear (registry : Registry Store) (year : Int) : Work Store (Outcome (List Holiday)) :=
  registry.invokeNow "HolidayService.find_by_year" none do
    return .ok (← ask fun s => s.inYear year)

/-- The holidays of a month. -/
def findByYearAndMonth (registry : Registry Store) (year : Int) (month : Nat) :
    Work Store (Outcome (List Holiday)) :=
  registry.invokeNow "HolidayService.find_by_year_and_month" none do
    if 1 ≤ month ∧ month ≤ 12 then return .ok (← ask fun s => s.inMonth year month)
    else return .error (.invalidArgument
      ("month out of range: " ++ String.ofList (Text.decimal month)))

/-- The holidays of a day. -/
def findByDate (registry : Registry Store) (year : Int) (month day : Nat) :
    Work Store (Outcome (List Holiday)) :=
  registry.invokeNow "HolidayService.find_by_date" none do
    match Date.of? year month day with
    | some date => return .ok (← ask fun s => s.onDate date)
    | none => return .error (.invalidArgument
      ("invalid date: " ++ String.ofList (Data.Json.integer year ++ '-' :: Text.decimal month
        ++ '-' :: Text.decimal day)))

/-- The holiday with this id. -/
def findById (registry : Registry Store) (id : Nat) : Work Store (Outcome Holiday) :=
  registry.invokeNow "HolidayService.find_by_id" none do
    match ← ask fun s => s.find? id with
    | some holiday => return .ok holiday
    | none => return .error (notFound id)

/-- Stores a draft. -/
def create (registry : Registry Store) (draft : Draft) : Work Store (Outcome Holiday) :=
  registry.invokeNow "HolidayService.create" none (step fun s => s.insert draft)

/-- Stores all drafts or none of them. -/
def createAll (registry : Registry Store) (drafts : List Draft) :
    Work Store (Outcome (List Holiday)) :=
  registry.invokeNow "HolidayService.create_all" none (step fun s => s.insertAll drafts)

/-- Gives a holiday the day and name of a draft. -/
def update (registry : Registry Store) (id : Nat) (draft : Draft) :
    Work Store (Outcome Holiday) :=
  registry.invokeNow "HolidayService.update" none (step fun s => s.update id draft)

/-- Removes a holiday. -/
def delete (registry : Registry Store) (id : Nat) : Work Store (Outcome Unit) :=
  registry.invokeNow "HolidayService.delete" none do
    if ← Work.onData fun s => s.delete id then return .ok ()
    else return .error (notFound id)

end HolidayApi.Calendar.Service
