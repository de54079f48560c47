import HolidayApi.Proofs.Calendar.Calls
import HolidayApi.Proofs.Call.Tally
import HolidayApi.Proofs.Web.Severity

/-! # Counters and log of a running program

    A program makes calls of registries, calls of the service, and answers
    requests. Each of these deeds accounts for what it tells and counts
    (`Deed.balances`), so after any run of them the counters are those of the
    log (`counters_match_log`).

    How many callers the guards turn away is found without log and counters:
    for scripts it is in their course, for the service and for requests the
    guards alone decide it.
-/

namespace HolidayApi

open HolidayApi.Access (Caller.unknown)
open HolidayApi.Calendar (Draft Store)
open HolidayApi.Calendar.Service (RunsUnder)
open HolidayApi.Call (Recorder Registry Script Work)

variable {α : Type}

/-! ### Calls of the service -/

namespace Calendar

namespace ServiceCall

/-- The number of callers that the guards of the service turn away: they look at
    nobody but `unknown`. -/
def denials (registry : Registry Store) (call : ServiceCall) : Nat :=
  if Registry.Admits (registry.advices call.operation) Caller.unknown then 0 else 1

end ServiceCall

namespace Service

/-- A call of the service is a script, so scripts can make it, too. -/
theorem exists_script {name : String} {service : Registry Store → Work Store (Outcome α)}
    (h : RunsUnder name service) :
    ∃ body, ∀ registry, service registry = (Script.single name body).work registry := by
  obtain ⟨step, hstep, -⟩ := h
  refine ⟨step, fun registry => ?_⟩
  rw [hstep, Script.work_single]

theorem balances {registry : Registry Store} (hr : registry.recorder = Recorder.standard)
    {name : String} {service : Registry Store → Work Store (Outcome α)}
    (hservice : RunsUnder name service) :
    (service registry).Balances fun _ =>
      if Registry.Admits (registry.advices name) Caller.unknown then 0 else 1 := by
  obtain ⟨body, hscript⟩ := exists_script hservice
  have hbalances := (Script.takes_work hr (Script.single name body)).balances
  simp only [Script.denials_single] at hbalances
  rw [hscript]
  exact hbalances

end Service

theorem ServiceCall.balances {registry : Registry Store}
    (hr : registry.recorder = Recorder.standard) (call : ServiceCall) :
    (call.perform registry).Balances fun _ => call.denials registry := by
  cases call with
  | findByYear year => exact (Service.balances hr (Service.runsUnder_findByYear year)).ignored
  | findByYearAndMonth year month =>
    exact (Service.balances hr (Service.runsUnder_findByYearAndMonth year month)).ignored
  | findByDate year month day =>
    exact (Service.balances hr (Service.runsUnder_findByDate year month day)).ignored
  | findById id => exact (Service.balances hr (Service.runsUnder_findById id)).ignored
  | create draft =>
    exact (Service.balances hr (Service.runsUnder_step _ fun s => s.insert draft)).ignored
  | createAll drafts =>
    exact (Service.balances hr (Service.runsUnder_step _ fun s => s.insertAll drafts)).ignored
  | update id draft =>
    exact (Service.balances hr (Service.runsUnder_step _ fun s => s.update id draft)).ignored
  | delete id => exact (Service.balances hr (Service.runsUnder_delete id)).ignored

end Calendar
end HolidayApi

namespace HolidayApi.Web.Application

open HolidayApi.Access (Caller.unknown)
open HolidayApi.Calendar (Draft Store)
open HolidayApi.Call (Recorder Registry Work)

variable {α : Type} {app : Application} {r : Request} {route : Route} {verb : Route.Verb}

/-! ### Requests -/

/-- Whether the path of the request can be read, and its body where one is
    wanted. -/
def reads (app : Application) (r : Request) (route : Route) (verb : Route.Verb) : Bool :=
  (Parameter.readAll (parameters route)).isOk &&
    match route, verb with
    | .holidays, _ => (app.payload Draft.createDecoder r).isOk
    | .bulk, _ => (app.payload Calendar.draftsDecoder r).isOk
    | .item _, .put => (app.payload Draft.updateDecoder r).isOk
    | _, _ => true

theorem isOk_iff {ε : Type} {result : Except ε α} :
    result.isOk = true ↔ ∃ value, result = .ok value := by
  cases result with
  | ok value => exact iff_of_true rfl ⟨value, rfl⟩
  | error e => exact iff_of_false Bool.false_ne_true fun ⟨_, h⟩ => by cases h

theorem reads_iff : app.reads r route verb = true ↔ app.Understood r route verb := by
  unfold reads Understood
  rw [Bool.and_eq_true, isOk_iff]
  refine and_congr_right fun _ => ?_
  cases route with
  | holidays | bulk => exact isOk_iff
  | health | year _ | month _ _ | day _ _ _ => exact iff_of_true rfl trivial
  | item raw =>
    cases verb with
    | put => exact isOk_iff
    | get | post | delete => exact iff_of_true rfl trivial

/-- The number of callers that the guards of operations turn away: those of the
    controller operation come first. -/
def operationDenials (app : Application) (r : Request) (route : Route) (verb : Route.Verb) : Nat :=
  match operationsOf route verb with
  | none => 0
  | some (controller, service) =>
    if Registry.Admits (app.registry.advices controller) (app.caller r) then
      if Registry.Admits (app.registry.advices service) Caller.unknown then 0 else 1
    else 1

/-- The number of callers that the guards on the way to a resource turn away. -/
def resourceDenials (app : Application) (r : Request) (route : Route) (verb : Route.Verb) : Nat :=
  if isWrite route verb = true → (writeGuard app.settings).allowed.admits (app.caller r) = true then
    if app.reads r route verb then app.operationDenials r route verb else 0
  else 1

/-- The number of callers that a request has turned away. Without a resource, a
    method of it and a body of fair length it does not come to a guard. -/
def denials (app : Application) (r : Request) : Nat :=
  match Route.ofTarget? r.target with
  | none => 0
  | some route =>
    match (Route.Verb.ofMethod? r.method).filter route.accepts with
    | none => 0
    | some verb => if app.isTooLong r then 0 else app.resourceDenials r route verb

theorem balances_wrapped {wrap : α → Work Store Envelope} (h : Wraps wrap)
    (outcome : Outcome α) :
    Work.Balances (fun _ => 0) (match outcome with
      | .ok value => do return .ok (← wrap value)
      | .error fault => return .error fault : Work Store (Outcome Envelope)) := by
  obtain ⟨size, data, hwrap⟩ := h
  cases outcome with
  | error fault => exact .of_pure _
  | ok value =>
    have hmade : (wrap value).Balances fun _ => 0 := by
      refine .of_same fun s => ?_
      rw [hwrap]
      exact ⟨rfl, rfl⟩
    exact hmade.bind fun e => .of_pure _

/-- A fault that nobody expects is told once more, which counts for nothing. -/
theorem balances_respond (id : RequestId) (outcome : Outcome Envelope) :
    (respond id outcome).Balances fun _ => 0 := by
  have hlooks : (Work.currentId : Work Store (Option Call.Id)).Balances fun _ => 0 :=
    .of_same fun _ => ⟨rfl, rfl⟩
  cases outcome with
  | ok e => exact .of_pure _
  | error fault =>
    have hmade : (Envelope.ofFault fault : Work Store Envelope).Balances fun _ => 0 := by
      cases fault with
      | known code message => exact hlooks.bind fun id => .of_pure _
      | business | unauthorizedIp | invalidArgument | internal =>
        exact (Work.Balances.tell rfl).bind fun _ => hlooks.bind fun id => .of_pure _
    exact hmade.bind fun e => .of_pure _

section StandardRecorder

variable (hr : app.registry.recorder = Recorder.standard)
include hr

theorem balances_perform (haccepts : route.accepts verb = true) :
    (app.perform r route verb).Balances fun _ =>
      if app.reads r route verb then app.operationDenials r route verb else 0 := by
  by_cases hunderstood : app.Understood r route verb
  case neg =>
    -- it is refused before it comes to the guards of an operation
    obtain ⟨fault, -, hrun⟩ := refused_of_not_understood hunderstood
    rw [if_neg (reads_iff.not.mpr hunderstood), hrun]
    exact .of_pure _
  case pos =>
    rw [if_pos (reads_iff.mpr hunderstood)]
    unfold operationDenials
    have hplan := plan_perform app r haccepts
    show ((fun registry => perform ⟨app.settings, registry⟩ r route verb) app.registry).Balances _
    generalize operationsOf route verb = names at hplan ⊢
    generalize (fun registry => perform ⟨app.settings, registry⟩ r route verb) = plan at hplan ⊢
    cases hplan with
    | refused fault _ hrefused => exact absurd hunderstood hrefused
    | health hnone =>
      subst hnone
      exact .of_same fun s => ⟨rfl, rfl⟩
    | @operation _ controller name service wrap hsome hservice hwrap =>
      -- the guards of the service stand within those of the controller
      subst hsome
      have hcall := (Calendar.Service.balances hr hservice).bind (balances_wrapped hwrap)
      exact hcall.invokeNow hr controller (some (app.caller r))

theorem balances_guarded (haccepts : route.accepts verb = true) :
    (app.guarded r route verb).Balances fun _ => app.resourceDenials r route verb := by
  have hperform := balances_perform hr (r := r) haccepts
  unfold guarded resourceDenials
  cases hwrite : isWrite route verb with
  | false =>
    simpa using hperform
  | true =>
    have hguard := hperform.protect (writeGuard app.settings) (app.caller r)
    simpa using hguard

theorem balances_route (r : Request) (id : RequestId) :
    (app.route r id).Balances fun _ => app.denials r := by
  unfold Application.route denials
  cases Route.ofTarget? r.target with
  | none =>
    cases app.isTooLong r with
    | true => exact .of_pure _
    | false => exact .of_pure _
  | some route =>
    dsimp only
    cases hverb : (Route.Verb.ofMethod? r.method).filter route.accepts with
    | none =>
      cases app.isTooLong r with
      | true => exact .of_pure _
      | false => exact .of_pure _
    | some verb =>
      dsimp only
      obtain ⟨_, haccepts⟩ := Option.filter_eq_some_iff.mp hverb
      cases app.isTooLong r with
      | true => exact .of_pure _
      | false =>
        have hresponse := (balances_guarded hr (r := r) haccepts).bind (balances_respond id)
        exact hresponse.inScope id.seed

/-- **A request accounts for what is told and counted on its way.** -/
theorem balances_answer (r : Request) : (app.answer r).Balances fun _ => app.denials r := by
  have hid : (requestId r).Balances fun _ => 0 := by
    refine .of_same fun s => ?_
    obtain ⟨id, issued, hid⟩ := requestId_run r s
    rw [hid]
    exact ⟨rfl, rfl⟩
  have hsent : ∀ response, (sent r response).Balances fun _ => 0 := by
    intro response
    unfold sent
    split
    · exact .of_pure _
    · exact .of_pure _
  have hall := hid.bind fun id => (balances_route hr r id).bind hsent
  simp only [Nat.zero_add] at hall
  exact hall

end StandardRecorder

end HolidayApi.Web.Application

namespace HolidayApi.Web

open HolidayApi.Calendar (ServiceCall Store)
open HolidayApi.Call (Advice Id Script Session Work)

/-! ### Runs -/

/-- What a program does at the outermost level. Each deed may have operations
    of its own, with whatever guards and traces. -/
inductive Deed : Type 1 where
  /-- Calls of a registry, one within another and one after another. -/
  | script {α : Type} (operations : List (String × List Advice)) (p : Script Store α)
  /-- A call of the service. -/
  | service (operations : List (String × List Advice)) (call : ServiceCall)
  /-- A request that is answered. -/
  | request (settings : Settings) (operations : List (String × List Advice)) (r : Request)
  /-- Any of these in a trace scope of its own. -/
  | inScope (seed : Option Id) (deed : Deed)

namespace Deed

/-- Does the deed, whatever its outcome. -/
def work : Deed → Work Store Unit
  | script operations p => do let _ ← (p.task ⟨operations, .standard⟩).toWork
  | service operations call => call.perform ⟨operations, .standard⟩
  | request settings operations r => do
    let _ ← Application.answer ⟨settings, ⟨operations, .standard⟩⟩ r
  | inScope seed deed => Work.inScope seed deed.work

/-- The number of times that a guard turns a caller away, if the deed is done on
    these data. -/
def denials : Deed → Store → Nat
  | script operations p, data => (p.course ⟨operations, .standard⟩ data).denials
  | service operations call, _ => call.denials ⟨operations, .standard⟩
  | request settings operations r, _ => Application.denials ⟨settings, ⟨operations, .standard⟩⟩ r
  | inScope _ deed, data => deed.denials data

/-- **A deed accounts for what is told and counted in it.** -/
theorem balances (deed : Deed) : deed.work.Balances deed.denials := by
  induction deed with
  | script operations p => exact (p.takes_task rfl).balances.ignored
  | service operations call => exact call.balances rfl
  | request settings operations r => exact (Application.balances_answer rfl r).ignored
  | inScope seed deed ih => exact ih.inScope seed

/-- The state after these deeds, one after another. -/
def run (deeds : List Deed) (s : Session Store) : Session Store :=
  deeds.foldl (fun s deed => (deed.work s).2) s

/-- The number of times that a guard turns a caller away in a run. -/
def raised : List Deed → Session Store → Nat
  | [], _ => 0
  | deed :: rest, s => deed.denials s.data + raised rest (deed.work s).2

/-- A run keeps the balance, for each of its deeds does. -/
theorem reconciled_run (deeds : List Deed) {s : Session Store} {n : Nat} (h : s.Reconciled n) :
    (run deeds s).Reconciled (n + raised deeds s) := by
  induction deeds generalizing s n with
  | nil => exact h
  | cons deed rest ih =>
    obtain ⟨lines, hlines⟩ := deed.balances s
    have hrest := ih (h.accounts hlines)
    rw [Nat.add_assoc] at hrest
    exact hrest

/-- **Counters and log never drift apart.** After any deeds of a new program,
    and so after each of them, as many times were recorded as spans opened and
    closed; each span that closed in a fault is counted under the kind of the
    fault; and every denial of a guard was told once and counted once. -/
theorem counters_match_log (start : Session Store) (deeds : List Deed) :
    let fresh : Session Store := { start with told := [], meters := {} }
    (run deeds fresh).Reconciled (raised deeds fresh) := by
  intro fresh
  have hrun := reconciled_run deeds (Session.Reconciled.of_blank start)
  rw [Nat.zero_add] at hrun
  exact hrun

/-- A caller who is turned away within two spans is one denial and two spans
    that failed. -/
example :
    let operations : List (String × List Advice) :=
      [("outer", [.traceCall]), ("inner", [.traceCall, .checkCaller ⟨⟨[]⟩⟩])]
    let p : Script Store Unit := .call .awaited "outer" none (.call .direct "inner" none
      (.done (.ok ())) .done) .done
    let after := run [.script operations p] { data := {} }
    after.meters.denials = 1 ∧ after.meters.faults .unauthorizedIp = 2 ∧
      after.events.countP Call.Event.opensSpan = 2 := by decide

end Deed
end HolidayApi.Web
