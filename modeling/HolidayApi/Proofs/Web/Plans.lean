import HolidayApi.Proofs.Web.Effects

/-! # What a resource does

    Once the write guard is passed, a request does one of three things: it is
    refused for what it says, it asks for the health of the program, or it
    runs a controller operation that calls one service operation. A `Plan` is
    one of the three, as a function of the registry under which it runs.

    Which of them a request has in mind depends on its route, its body and the
    limits of the settings. Neither the guards of operations nor the choice of
    the traced ones take part in that (`plan_perform`).
-/

namespace HolidayApi

/-- The outcome of a caller who is not turned away: a success, of which `good`
    holds, or a fault with another status. -/
def Heard {α : Type} (good : α → Prop) : Outcome α → Prop
  | .ok value => good value
  | .error fault => fault.code.status ≠ 403

end HolidayApi

namespace HolidayApi.Calendar.Service

open HolidayApi.Call (Registry Session Work)

variable {α : Type}

/-! ### Service operations -/

/-- The service runs under this name, without a caller, and in one step of the
    store, which turns no caller away. -/
def RunsUnder (name : String) (service : Registry Store → Work Store (Outcome α)) : Prop :=
  ∃ step : Store → Outcome α × Store,
    (∀ registry, service registry = registry.invokeNow name none (Work.onData step)) ∧
    ∀ s, Heard (fun _ => True) (step s).1

theorem RunsUnder.of_run {name : String} {body : Work Store (Outcome α)}
    (step : Store → Outcome α × Store)
    (hbody : ∀ s, body s = ((step s.data).1, { s with data := (step s.data).2 }))
    (hheard : ∀ s, Heard (fun _ => True) (step s).1) :
    RunsUnder name fun registry => registry.invokeNow name none body := by
  refine ⟨step, ?_, hheard⟩
  intro registry
  have hstep : body = Work.onData step := by
    funext s
    exact hbody s
  rw [hstep]

theorem heard_notFound (good : α → Prop) (id : Nat) : Heard good (.error (notFound id)) := by
  show Code.holidayNotFound.status ≠ 403
  decide

theorem heard_invalidArgument (good : α → Prop) (detail : String) :
    Heard good (.error (.invalidArgument detail)) := by
  show Code.invalidArgument.status ≠ 403
  decide

/-- A change of the store refuses as the store does. -/
theorem runsUnder_step (name : String) (change : Store → Except Refusal α × Store) :
    RunsUnder name fun registry => registry.invokeNow name none (step change) := by
  refine .of_run (fun s => ((change s).1.mapError faultOf, (change s).2)) (step_eq change) ?_
  intro s
  show Heard _ ((change s).1.mapError faultOf)
  cases (change s).1 with
  | ok value => exact trivial
  | error refusal =>
    cases refusal with
    | duplicate key =>
      show Code.holidayAlreadyExists.status ≠ 403
      decide
    | notFound id => exact heard_notFound _ id

theorem runsUnder_findByYear (year : Int) :
    RunsUnder "HolidayService.find_by_year" fun registry => findByYear registry year :=
  .of_run (fun s => (.ok (s.inYear year), s)) (fun _ => rfl) fun _ => trivial

theorem runsUnder_findByYearAndMonth (year : Int) (month : Nat) :
    RunsUnder "HolidayService.find_by_year_and_month" fun registry =>
      findByYearAndMonth registry year month := by
  unfold findByYearAndMonth
  by_cases hmonth : 1 ≤ month ∧ month ≤ 12
  · simp only [if_pos hmonth]
    exact .of_run (fun s => (.ok (s.inMonth year month), s)) (fun _ => rfl) fun _ => trivial
  · simp only [if_neg hmonth]
    exact .of_run (fun s => (.error _, s)) (fun _ => rfl) fun _ => heard_invalidArgument _ _

theorem runsUnder_findByDate (year : Int) (month day : Nat) :
    RunsUnder "HolidayService.find_by_date" fun registry =>
      findByDate registry year month day := by
  unfold findByDate
  cases Date.of? year month day with
  | some date => exact .of_run (fun s => (.ok (s.onDate date), s)) (fun _ => rfl) fun _ => trivial
  | none =>
    exact .of_run (fun s => (.error _, s)) (fun _ => rfl) fun _ => heard_invalidArgument _ _

theorem runsUnder_findById (id : Nat) :
    RunsUnder "HolidayService.find_by_id" fun registry => findById registry id := by
  refine .of_run (fun s => ((s.find? id).elim (.error (notFound id)) .ok, s)) ?_ ?_
  · intro s
    have hask : ask (fun s => s.find? id) s = (s.data.find? id, s) := rfl
    rw [Work.bind_run, hask]
    cases s.data.find? id with
    | some holiday => rfl
    | none => rfl
  · intro s
    show Heard _ ((s.find? id).elim _ _)
    cases s.find? id with
    | some holiday => exact trivial
    | none => exact heard_notFound _ id

theorem runsUnder_delete (id : Nat) :
    RunsUnder "HolidayService.delete" fun registry => delete registry id := by
  refine .of_run (fun s => (if (s.delete id).1 then .ok () else .error (notFound id),
    (s.delete id).2)) (fun s => delete_eq s id) ?_
  intro s
  show Heard _ (if (s.delete id).1 then _ else _)
  split
  · exact trivial
  · exact heard_notFound _ id

end HolidayApi.Calendar.Service

namespace HolidayApi.Web

open HolidayApi.Calendar (Draft Store)
open HolidayApi.Calendar.Service (RunsUnder)
open HolidayApi.Call (Registry Session Work)
open HolidayApi.Data (Json)

/-! ### Plans -/

/-- The controller operation that a request runs, and the service operation
    that it calls. -/
def operationsOf : Route → Route.Verb → Option (String × String)
  | .health, _ => none
  | .year _, _ => some ("HolidayController.get_by_year", "HolidayService.find_by_year")
  | .month .., _ =>
    some ("HolidayController.get_by_year_and_month", "HolidayService.find_by_year_and_month")
  | .day .., _ => some ("HolidayController.get_by_date", "HolidayService.find_by_date")
  | .holidays, _ => some ("HolidayController.create", "HolidayService.create")
  | .bulk, _ => some ("HolidayController.create_bulk", "HolidayService.create_all")
  | .item _, .put => some ("HolidayController.update", "HolidayService.update")
  | .item _, .delete => some ("HolidayController.delete", "HolidayService.delete")
  | .item _, _ => some ("HolidayController.get_by_id", "HolidayService.find_by_id")

namespace Application

variable {α : Type} {app : Application} {r : Request} {route : Route} {verb : Route.Verb}

/-- The path of the request can be read, and so can its body where one is
    wanted. -/
def Understood (app : Application) (r : Request) (route : Route) (verb : Route.Verb) : Prop :=
  (∃ numbers, Parameter.readAll (parameters route) = .ok numbers) ∧
    match route, verb with
    | .holidays, _ => ∃ draft, app.payload Draft.createDecoder r = .ok draft
    | .bulk, _ => ∃ drafts, app.payload Calendar.draftsDecoder r = .ok drafts
    | .item _, .put => ∃ draft, app.payload Draft.updateDecoder r = .ok draft
    | _, _ => True

/-- The work makes the envelope of a success, with the id that is seen. -/
def Wraps (wrap : α → Work Store Envelope) : Prop :=
  ∃ (size : α → Option Nat) (data : α → Json), ∀ value s,
    wrap value s = (⟨200, "SUCCESS", "Success", s.slot.id?, size value, data value⟩, s)

theorem wraps_listing : Wraps listing := ⟨fun hs => some hs.length, _, fun _ _ => rfl⟩

theorem wraps_created : Wraps created := ⟨fun hs => some hs.length, _, fun _ _ => rfl⟩

theorem wraps_single : Wraps single := ⟨fun _ => none, _, fun _ _ => rfl⟩

theorem wraps_deleted : Wraps fun () => Envelope.success .null :=
  ⟨fun _ => none, fun _ => .null, fun _ _ => rfl⟩

/-- A controller operation under a registry. -/
def controlled (controller caller : String) (service : Registry Store → Work Store (Outcome α))
    (wrap : α → Work Store Envelope) (registry : Registry Store) : Work Store (Outcome Envelope) :=
  registry.invokeNow controller (some caller) do
    match ← service registry with
    | .ok value => return .ok (← wrap value)
    | .error fault => return .error fault

/-- What a request can have in mind, where `names` are the operations of its
    resource and `understood` says whether it can be read. -/
inductive Plan (caller : String) (names : Option (String × String)) (understood : Prop) :
    (Registry Store → Work Store (Outcome Envelope)) → Prop where
  /-- Nothing, since it is refused for what it says. -/
  | refused (fault : Fault) : fault.code.status ≠ 403 → ¬ understood →
      Plan caller names understood fun _ => return .error fault
  /-- The health of the program. -/
  | health : names = none → Plan caller names understood fun _ => return .ok (← health)
  /-- A controller operation and the service operation below it. -/
  | operation {α : Type} {controller name : String}
      {service : Registry Store → Work Store (Outcome α)} {wrap : α → Work Store Envelope} :
      names = some (controller, name) → RunsUnder name service → Wraps wrap →
      Plan caller names understood (controlled controller caller service wrap)

theorem status_pathFault (e : Parameter.Error) : (pathFault e).code.status ≠ 403 := by
  show Code.invalidArgument.status ≠ 403
  decide

theorem status_bodyFault (u : Unreadable) : (bodyFault u).code.status ≠ 403 := by
  show Code.notReadable.status ≠ 403
  decide

theorem ne_error_of_read {body : Except Unreadable α} (h : ∃ value, body = .ok value)
    (u : Unreadable) : body ≠ .error u := by
  obtain ⟨value, rfl⟩ := h
  intro hbody
  cases hbody

/-- **What a request does once the write guard is passed is a plan**, which does
    not depend on the registry. -/
theorem plan_perform (app : Application) (r : Request) {route : Route} {verb : Route.Verb}
    (haccepts : route.accepts verb = true) :
    Plan (app.caller r) (operationsOf route verb) (app.Understood r route verb) fun registry =>
      perform ⟨app.settings, registry⟩ r route verb := by
  -- the registry takes no part in reading the body
  have hpayload : ∀ {β : Type} (registry : Registry Store) (decoder : Data.Decoder β),
      payload ⟨app.settings, registry⟩ decoder r = app.payload decoder r := fun _ _ => rfl
  unfold perform
  cases hnumbers : Parameter.readAll (parameters route) with
  | error e =>
    refine .refused (pathFault e) (status_pathFault e) ?_
    rintro ⟨⟨numbers, hread⟩, _⟩
    rw [hnumbers] at hread
    cases hread
  | ok numbers =>
    have hlength := Parameter.length_readAll hnumbers
    cases route with
    | health => exact .health rfl
    | year raw =>
      obtain ⟨y, rfl⟩ := List.length_eq_one_iff.mp hlength
      exact .operation rfl (Calendar.Service.runsUnder_findByYear y) wraps_listing
    | month rawYear rawMonth =>
      obtain ⟨y, m, rfl⟩ := List.length_eq_two.mp hlength
      exact .operation rfl (Calendar.Service.runsUnder_findByYearAndMonth y m.toNat) wraps_listing
    | day rawYear rawMonth rawDay =>
      obtain ⟨y, m, d, rfl⟩ := List.length_eq_three.mp hlength
      exact .operation rfl (Calendar.Service.runsUnder_findByDate y m.toNat d.toNat) wraps_listing
    | holidays =>
      simp only [hpayload]
      cases hbody : app.payload Draft.createDecoder r with
      | error u =>
        exact .refused (bodyFault u) (status_bodyFault u) fun h => ne_error_of_read h.2 u hbody
      | ok draft =>
        exact .operation rfl (Calendar.Service.runsUnder_step _ fun s => s.insert draft)
          wraps_single
    | bulk =>
      simp only [hpayload]
      cases hbody : app.payload Calendar.draftsDecoder r with
      | error u =>
        exact .refused (bodyFault u) (status_bodyFault u) fun h => ne_error_of_read h.2 u hbody
      | ok drafts =>
        exact .operation rfl (Calendar.Service.runsUnder_step _ fun s => s.insertAll drafts)
          wraps_created
    | item raw =>
      obtain ⟨id, rfl⟩ := List.length_eq_one_iff.mp hlength
      cases verb with
      | post => cases haccepts
      | get => exact .operation rfl (Calendar.Service.runsUnder_findById id.toNat) wraps_single
      | put =>
        simp only [hpayload]
        cases hbody : app.payload Draft.updateDecoder r with
        | error u =>
          exact .refused (bodyFault u) (status_bodyFault u) fun h => ne_error_of_read h.2 u hbody
        | ok draft =>
          exact .operation rfl (Calendar.Service.runsUnder_step _ fun s => s.update id.toNat draft)
            wraps_single
      | delete => exact .operation rfl (Calendar.Service.runsUnder_delete id.toNat) wraps_deleted

end Application
end HolidayApi.Web
