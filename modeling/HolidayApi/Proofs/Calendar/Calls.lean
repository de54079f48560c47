import HolidayApi.Proofs.Calendar.Writes

/-! # Calls of the service

    A call of the service changes the store by calls of the store, one after
    another (`ServiceCall.changes`). For most of them this is one change or
    none. Drafts that are stored together are inserted one by one; if one of
    them is refused, all that were stored before it are deleted again.

    A call that its guards let through answers what the store answers, and one
    that they turn away changes nothing. So a call does what its changes do
    (`ServiceCall.perform_data`), and a run of calls of the service is a run of
    calls of the store (`ServiceCall.run_data`).
-/

namespace HolidayApi.Calendar

open HolidayApi.Access (Caller.unknown)
open HolidayApi.Call (Advice Registry Session Work)

variable {α : Type}

/-! ### Calls -/

/-- A call of the service. -/
inductive ServiceCall where
  | findByYear (year : Int)
  | findByYearAndMonth (year : Int) (month : Nat)
  | findByDate (year : Int) (month day : Nat)
  | findById (id : Nat)
  | create (draft : Draft)
  | createAll (drafts : List Draft)
  | update (id : Nat) (draft : Draft)
  | delete (id : Nat)

namespace ServiceCall

/-- The operation that is called. -/
def operation : ServiceCall → String
  | findByYear _ => "HolidayService.find_by_year"
  | findByYearAndMonth .. => "HolidayService.find_by_year_and_month"
  | findByDate .. => "HolidayService.find_by_date"
  | findById _ => "HolidayService.find_by_id"
  | create _ => "HolidayService.create"
  | createAll _ => "HolidayService.create_all"
  | update .. => "HolidayService.update"
  | delete _ => "HolidayService.delete"

/-- Makes the call, whatever its outcome. -/
def perform (registry : Registry Store) : ServiceCall → Work Store Unit
  | findByYear year => do let _ ← Service.findByYear registry year
  | findByYearAndMonth year month => do let _ ← Service.findByYearAndMonth registry year month
  | findByDate year month day => do let _ ← Service.findByDate registry year month day
  | findById id => do let _ ← Service.findById registry id
  | create draft => do let _ ← Service.create registry draft
  | createAll drafts => do let _ ← Service.createAll registry drafts
  | update id draft => do let _ ← Service.update registry id draft
  | delete id => do let _ ← Service.delete registry id

/-- The state after these calls, one after another. -/
def run (registry : Registry Store) (s : Session Store) : List ServiceCall → Session Store
  | [] => s
  | call :: rest => run registry (call.perform registry s).2 rest

theorem run_append (registry : Registry Store) (s : Session Store)
    (calls later : List ServiceCall) :
    run registry s (calls ++ later) = run registry (run registry s calls) later := by
  induction calls generalizing s with
  | nil => rfl
  | cons call rest ih => exact ih _

end ServiceCall

/-! ### Calls of the store in a row -/

namespace Action

/-- Calls in a row are made in a row. -/
theorem run_append {σ : Type} (perform : σ → Action → Answer × σ) (s : σ)
    (actions later : List Action) :
    (run perform s (actions ++ later)).2 = (run perform (run perform s actions).2 later).2 := by
  induction actions generalizing s with
  | nil => rfl
  | cons action rest ih => exact ih _

end Action

namespace Store

/-- The calls of the store in which drafts are stored behind those that are
    stored already, which are reversed: an insert for each of them up to the
    first that is refused, and then a delete for each holiday that was stored. -/
def attempts (s : Store) (stored : List Holiday) : List Draft → List Action
  | [] => []
  | draft :: rest =>
    .insert draft ::
      match s.insert draft with
      | (.ok holiday, s) => attempts s (holiday :: stored) rest
      | (.error _, _) => stored.reverse.map fun holiday => .delete holiday.id

theorem run_deletes (s : Store) (holidays : List Holiday) :
    (Action.run perform s (holidays.map fun holiday => .delete holiday.id)).2 =
      s.deleteAll holidays.reverse := by
  induction holidays generalizing s with
  | nil => rfl
  | cons holiday rest ih =>
    show (Action.run perform (s.delete holiday.id).2
      (rest.map fun holiday => .delete holiday.id)).2 = _
    rw [ih, List.reverse_cons]
    unfold deleteAll
    rw [List.foldr_append]
    rfl

/-- The attempts do what storing the drafts together does. -/
theorem run_attempts (s : Store) (stored : List Holiday) (drafts : List Draft) :
    (Action.run perform s (s.attempts stored drafts)).2 = (s.insertFrom stored drafts).2 := by
  induction drafts generalizing s stored with
  | nil => rfl
  | cons draft rest ih =>
    unfold attempts insertFrom
    -- both look at the same insert
    have hfirst : (s.perform (.insert draft)).2 = (s.insert draft).2 := rfl
    simp only [Action.run, hfirst]
    rcases s.insert draft with ⟨refusal | holiday, after⟩
    · exact (run_deletes after stored.reverse).trans (by rw [List.reverse_reverse])
    · exact ih after (holiday :: stored)

end Store

/-- The calls of the store that the call makes if it is let through. -/
def ServiceCall.actions (s : Store) : ServiceCall → List Action
  | findByYear _ | findByYearAndMonth .. | findByDate .. | findById _ => []
  | create draft => [.insert draft]
  | createAll drafts => s.attempts [] drafts
  | update id draft => [.update id draft]
  | delete id => [.delete id]

/-! ### Calls that are let through -/

namespace Service

/-- The guards of the operation let calls of the service through, which have no
    caller. -/
def LetsThrough (registry : Registry Store) (operation : String) : Prop :=
  Registry.Admits (registry.advices operation) Caller.unknown

instance (registry : Registry Store) (operation : String) :
    Decidable (LetsThrough registry operation) :=
  inferInstanceAs (Decidable (∀ guard ∈ (registry.advices operation).filterMap Advice.guard?,
    guard.allowed.admits Caller.unknown = true))

variable {registry : Registry Store} (hr : registry.recorder.KeepsData) (s : Session Store)

include hr

theorem letsThrough_of_ok {operation : String} {body : Work Store (Outcome α)} {value : α}
    {s : Session Store} (hok : (registry.invokeNow operation none body s).1 = .ok value) :
    LetsThrough registry operation := by
  by_contra hrejected
  have herror : (registry.invokeNow operation none body s).1 =
      .error (.unauthorizedIp Caller.unknown) :=
    (Registry.surround_rejected hr operation hrejected body s).1
  rw [herror] at hok
  cases hok

/-- A step of the store that is let through. -/
theorem invokeStep_admitted {operation : String} (hadmitted : LetsThrough registry operation)
    (change : Store → Except Refusal α × Store) :
    (registry.invokeNow operation none (step change) s).1 = (change s.data).1.mapError faultOf ∧
    (registry.invokeNow operation none (step change) s).2.data = (change s.data).2 :=
  Registry.surround_changes hr operation hadmitted
    (fun s => ((change s).1.mapError faultOf, (change s).2)) (step_eq change) s

theorem create_admitted (hadmitted : LetsThrough registry "HolidayService.create")
    (draft : Draft) :
    (create registry draft s).1 = (s.data.insert draft).1.mapError faultOf ∧
    (create registry draft s).2.data = (s.data.insert draft).2 :=
  invokeStep_admitted hr s hadmitted fun s => s.insert draft

theorem update_admitted (hadmitted : LetsThrough registry "HolidayService.update") (id : Nat)
    (draft : Draft) :
    (update registry id draft s).1 = (s.data.update id draft).1.mapError faultOf ∧
    (update registry id draft s).2.data = (s.data.update id draft).2 :=
  invokeStep_admitted hr s hadmitted fun s => s.update id draft

theorem delete_admitted (hadmitted : LetsThrough registry "HolidayService.delete") (id : Nat) :
    (delete registry id s).1 = (if (s.data.delete id).1 then .ok () else .error (notFound id)) ∧
    (delete registry id s).2.data = (s.data.delete id).2 :=
  Registry.surround_changes hr _ hadmitted (fun s =>
    (if (s.delete id).1 then .ok () else .error (notFound id), (s.delete id).2))
    (fun s => delete_eq s id) s

theorem findById_admitted (hadmitted : LetsThrough registry "HolidayService.find_by_id")
    (id : Nat) :
    (findById registry id s).1 = (s.data.find? id).elim (.error (notFound id)) .ok ∧
    (findById registry id s).2.data = s.data := by
  refine Registry.surround_changes hr _ hadmitted
    (fun s => ((s.find? id).elim (.error (notFound id)) .ok, s)) (fun s => ?_) s
  have hask : ask (fun s => s.find? id) s = (s.data.find? id, s) := rfl
  rw [Work.bind_run, hask]
  cases s.data.find? id <;> rfl

theorem findByYear_admitted (hadmitted : LetsThrough registry "HolidayService.find_by_year")
    (year : Int) :
    (findByYear registry year s).1 = .ok (s.data.inYear year) ∧
    (findByYear registry year s).2.data = s.data :=
  Registry.surround_changes hr _ hadmitted (fun s => (.ok (s.inYear year), s)) (fun _ => rfl) s

theorem findByYearAndMonth_admitted
    (hadmitted : LetsThrough registry "HolidayService.find_by_year_and_month") (year : Int)
    (month : Nat) :
    (findByYearAndMonth registry year month s).1 =
      (if 1 ≤ month ∧ month ≤ 12 then .ok (s.data.inMonth year month)
        else .error (.invalidArgument
          ("month out of range: " ++ String.ofList (Text.decimal month)))) ∧
    (findByYearAndMonth registry year month s).2.data = s.data := by
  refine Registry.surround_changes hr _ hadmitted (fun s =>
    (if 1 ≤ month ∧ month ≤ 12 then .ok (s.inMonth year month)
      else .error (.invalidArgument
        ("month out of range: " ++ String.ofList (Text.decimal month))), s)) (fun s => ?_) s
  split <;> rfl

theorem findByDate_admitted (hadmitted : LetsThrough registry "HolidayService.find_by_date")
    (year : Int) (month day : Nat) :
    (findByDate registry year month day s).1 = (match Date.of? year month day with
      | some date => .ok (s.data.onDate date)
      | none => .error (.invalidArgument ("invalid date: " ++ String.ofList
        (Data.Json.integer year ++ '-' :: Text.decimal month ++ '-' :: Text.decimal day)))) ∧
    (findByDate registry year month day s).2.data = s.data := by
  refine Registry.surround_changes hr _ hadmitted (fun s =>
    (match Date.of? year month day with
      | some date => .ok (s.onDate date)
      | none => .error (.invalidArgument ("invalid date: " ++ String.ofList
        (Data.Json.integer year ++ '-' :: Text.decimal month ++ '-' :: Text.decimal day))), s))
    (fun s => ?_) s
  cases Date.of? year month day <;> rfl

end Service

/-! ### The changes that calls come to -/

namespace ServiceCall

open Service (LetsThrough)

/-- The calls of the store that the call comes to: none if it is turned away. -/
def changes (registry : Registry Store) (s : Store) (call : ServiceCall) : List Action :=
  if LetsThrough registry call.operation then call.actions s else []

/-- The calls of the store that a run of calls comes to. -/
def changesIn (registry : Registry Store) (s : Session Store) : List ServiceCall → List Action
  | [] => []
  | call :: rest =>
    call.changes registry s.data ++ changesIn registry (call.perform registry s).2 rest

theorem changesIn_append (registry : Registry Store) (s : Session Store)
    (calls later : List ServiceCall) :
    changesIn registry s (calls ++ later) =
      changesIn registry s calls ++ changesIn registry (run registry s calls) later := by
  induction calls generalizing s with
  | nil => rfl
  | cons call rest ih =>
    show call.changes registry s.data ++ changesIn registry _ (rest ++ later) = _
    rw [ih, ← List.append_assoc]
    rfl

variable {registry : Registry Store} (hr : registry.recorder.KeepsData) (s : Session Store)

include hr

/-- A call that is let through does what its calls of the store do. -/
theorem perform_admitted (call : ServiceCall) (hadmitted : LetsThrough registry call.operation) :
    (call.perform registry s).2.data = (Action.run Store.perform s.data (call.actions s.data)).2 := by
  cases call with
  | findByYear year => exact (Service.findByYear_admitted hr s hadmitted year).2
  | findByYearAndMonth year month =>
    exact (Service.findByYearAndMonth_admitted hr s hadmitted year month).2
  | findByDate year month day => exact (Service.findByDate_admitted hr s hadmitted year month day).2
  | findById id => exact (Service.findById_admitted hr s hadmitted id).2
  | create draft => exact (Service.create_admitted hr s hadmitted draft).2
  | createAll drafts =>
    exact (Service.createAll_admitted hr hadmitted drafts s).2.trans
      (Store.run_attempts s.data [] drafts).symm
  | update id draft => exact (Service.update_admitted hr s hadmitted id draft).2
  | delete id => exact (Service.delete_admitted hr s hadmitted id).2

/-- A call that is turned away leaves the store as it is. -/
theorem perform_rejected (call : ServiceCall)
    (hrejected : ¬ LetsThrough registry call.operation) :
    (call.perform registry s).2.data = s.data := by
  cases call <;> exact (Registry.surround_rejected hr _ hrejected _ s).2

/-- **A call does what its changes do.** -/
theorem perform_data (call : ServiceCall) :
    (call.perform registry s).2.data =
      (Action.run Store.perform s.data (call.changes registry s.data)).2 := by
  unfold changes
  split
  · next hadmitted => exact perform_admitted hr s call hadmitted
  · next hrejected => exact perform_rejected hr s call hrejected

/-- A run of calls does what their changes do in a row. -/
theorem run_data (calls : List ServiceCall) :
    (run registry s calls).data =
      (Action.run Store.perform s.data (changesIn registry s calls)).2 := by
  induction calls generalizing s with
  | nil => rfl
  | cons call rest ih =>
    show (run registry (call.perform registry s).2 rest).data =
      (Action.run Store.perform s.data
        (call.changes registry s.data ++ changesIn registry (call.perform registry s).2 rest)).2
    rw [ih, Action.run_append, perform_data hr]

end ServiceCall
end HolidayApi.Calendar
