import HolidayApi.Proofs.Call.Warnings
import HolidayApi.Proofs.Web.Correlation
import HolidayApi.Proofs.Web.Refusals

/-! # How loud a request is

    A fault can arise in five places on the way of a request, and the trace
    policy decides how many spans are open in each of them (`Arises`). From
    there on it makes warnings, and in the end it is answered, which is an
    error in the log unless the fault is expected.

    * `Expected` are the outcomes that requests have at all: the codes of
      their envelopes tell expected faults from all others.
    * `warns_guarded` counts what is told up to the outcome, place by place.
    * `severity_of_answer` puts this together for whole answers.
-/

namespace HolidayApi

/-- The faults that requests can meet. Those of the business are expected,
    except where a body cannot be read. -/
def Fault.OfRequest : Fault → Prop
  | known code _ => code = .holidayNotFound ∨ code = .holidayAlreadyExists
  | business code _ => code = .notReadable
  | unauthorizedIp _ | invalidArgument _ => True
  | internal _ => False

/-- The outcome of a request: a good value or a fault that requests can meet. -/
def Expected {α : Type} (good : α → Prop) : Outcome α → Prop
  | .ok value => good value
  | .error fault => fault.OfRequest

end HolidayApi

namespace HolidayApi.Calendar.Service

open HolidayApi.Call (Advice Recorder Registry Session Work)

variable {σ α : Type}

/-! ### The faults of the service -/

theorem expected_surround {good : α → Prop} {recorder : Recorder σ} {operation caller : String}
    {call : Work σ (Outcome α)} (h : ∀ s, Expected good (call s).1) (advices : List Advice)
    (s : Session σ) :
    Expected good (Registry.surround recorder operation caller call advices s).1 := by
  induction advices generalizing s with
  | nil => exact h s
  | cons advice rest ih =>
    cases advice with
    | checkCaller guard =>
      show Expected good (guard.protect caller _ s).1
      cases hadmits : guard.allowed.admits caller with
      | true =>
        rw [Access.Guard.protect_of_admits hadmits]
        exact ih _
      | false =>
        rw [Access.Guard.protect_of_rejects hadmits]
        exact trivial
    | traceCall => exact ih _

/-- What every value is. -/
abbrev Any (_ : α) : Prop := True

/-- The service ends as requests can end, under every registry. -/
def Ends (service : Registry Store → Work Store (Outcome α)) : Prop :=
  ∀ registry s, Expected Any (service registry s).1

theorem ends_invoked (name : String) {body : Work Store (Outcome α)}
    (h : ∀ s, Expected Any (body s).1) :
    Ends fun registry => registry.invokeNow name none body :=
  fun _ s => expected_surround h _ s

theorem ends_step (name : String) (change : Store → Except Refusal α × Store) :
    Ends fun registry => registry.invokeNow name none (step change) := by
  refine ends_invoked name ?_
  intro s
  rw [step_eq]
  show Expected Any ((change s.data).1.mapError faultOf)
  cases (change s.data).1 with
  | ok value => exact trivial
  | error refusal =>
    cases refusal with
    | duplicate key => exact Or.inr rfl
    | notFound id => exact Or.inl rfl

theorem ends_findByYear (year : Int) : Ends fun registry => findByYear registry year :=
  ends_invoked _ fun _ => trivial

theorem ends_findByYearAndMonth (year : Int) (month : Nat) :
    Ends fun registry => findByYearAndMonth registry year month := by
  refine ends_invoked _ ?_
  intro s
  split
  · exact trivial
  · exact trivial

theorem ends_findByDate (year : Int) (month day : Nat) :
    Ends fun registry => findByDate registry year month day := by
  refine ends_invoked _ ?_
  intro s
  cases Date.of? year month day with
  | some date => exact trivial
  | none => exact trivial

theorem ends_findById (id : Nat) : Ends fun registry => findById registry id := by
  refine ends_invoked _ ?_
  intro s
  have hask : ask (fun s => s.find? id) s = (s.data.find? id, s) := rfl
  rw [Work.bind_run, hask]
  cases s.data.find? id with
  | some holiday => exact trivial
  | none => exact Or.inl rfl

theorem ends_delete (id : Nat) : Ends fun registry => delete registry id := by
  refine ends_invoked _ ?_
  intro s
  rw [delete_eq]
  show Expected Any (if (s.data.delete id).1 then _ else _)
  split
  · exact trivial
  · exact Or.inl rfl

end HolidayApi.Calendar.Service

namespace HolidayApi.Web.Application

open HolidayApi.Access (Caller.unknown)
open HolidayApi.Calendar (Draft Store)
open HolidayApi.Calendar.Service (Ends RunsUnder)
open HolidayApi.Call (Alarms Behind Event Recorder Registry Session Work warningsOf)

variable {α : Type} {app : Application} {r : Request} {route : Route} {verb : Route.Verb}

/-! ### The outcomes of requests -/

/-- The envelope has the code of a success. -/
def SaysSuccess (e : Envelope) : Prop := e.code = "SUCCESS"

/-- The work ends in a success or in a fault that requests can meet. -/
def Concludes (work : Work Store (Outcome Envelope)) : Prop :=
  ∀ s, Expected SaysSuccess (work s).1

theorem concludes_rejected {fault : Fault} (h : fault.OfRequest) :
    Concludes (pure (.error fault)) := fun _ => h

theorem concludes_control {operation caller : String}
    {service : Registry Store → Work Store (Outcome α)} {wrap : α → Work Store Envelope}
    (hservice : Ends service) (hwrap : Wraps wrap) :
    Concludes (app.control operation caller service wrap) := by
  obtain ⟨size, data, hwrap⟩ := hwrap
  refine Calendar.Service.expected_surround ?_ _
  intro s
  have hends := hservice app.registry s
  rw [Work.bind_run]
  cases houtcome : (service app.registry s).1 with
  | ok value =>
    show SaysSuccess (wrap value (service app.registry s).2).1
    rw [hwrap]
    rfl
  | error fault =>
    rw [houtcome] at hends
    exact hends

theorem concludes_perform (app : Application) (r : Request) (route : Route) (verb : Route.Verb) :
    Concludes (app.perform r route verb) := by
  unfold perform
  split
  · exact concludes_rejected trivial
  split
  · exact concludes_control (Calendar.Service.ends_findByYear _) wraps_listing
  · exact concludes_control (Calendar.Service.ends_findByYearAndMonth _ _) wraps_listing
  · exact concludes_control (Calendar.Service.ends_findByDate _ _ _) wraps_listing
  · split
    · exact concludes_rejected rfl
    · exact concludes_control (Calendar.Service.ends_step _ _) wraps_single
  · split
    · exact concludes_rejected rfl
    · exact concludes_control (Calendar.Service.ends_step _ _) wraps_created
  · split
    · exact concludes_rejected rfl
    · exact concludes_control (Calendar.Service.ends_step _ _) wraps_single
  · exact concludes_control (Calendar.Service.ends_delete _) wraps_deleted
  · exact concludes_control (Calendar.Service.ends_findById _) wraps_single
  · exact fun _ => rfl

/-- **A request ends in a success or in a fault that requests can meet.** -/
theorem concludes_guarded (app : Application) (r : Request) (route : Route) (verb : Route.Verb) :
    Concludes (app.guarded r route verb) := by
  unfold guarded
  split
  · intro s
    cases hadmits : (writeGuard app.settings).allowed.admits (app.caller r) with
    | true =>
      rw [Access.Guard.protect_of_admits hadmits]
      exact concludes_perform app r route verb _
    | false =>
      rw [Access.Guard.protect_of_rejects hadmits]
      exact trivial
  · exact concludes_perform app r route verb

/-! ### Where faults arise -/

/-- The request passes the guard of the write routes, where it has to. -/
def MayEnter (app : Application) (r : Request) (route : Route) (verb : Route.Verb) : Prop :=
  isWrite route verb = true → (writeGuard app.settings).allowed.admits (app.caller r) = true

/-- All guards of the operation let the caller through. -/
def Passes (app : Application) (operation caller : String) : Prop :=
  ∀ guard ∈ app.registry.guards operation, guard.allowed.admits caller = true

/-- The number of open spans where these operations are running. -/
def openSpans (app : Application) (operations : List String) : Nat :=
  operations.countP app.registry.isTraced

/-- The fault of a path or of a body that cannot be read. -/
def IsRejection (fault : Fault) : Prop :=
  (∃ e, fault = pathFault e) ∨ ∃ u, fault = bodyFault u

/-- The request comes to its operations: that of the controller and that of the
    service. -/
structure Begins (app : Application) (r : Request) (route : Route) (verb : Route.Verb)
    (controller service : String) : Prop where
  enters : app.MayEnter r route verb
  understood : app.Understood r route verb
  operations : operationsOf route verb = some (controller, service)

/-- The fault of a request arises where so many spans are open. There are five
    such places, each behind those before it. -/
inductive Arises (app : Application) (r : Request) (route : Route) (verb : Route.Verb) :
    Fault → Nat → Prop where
  /-- The guard of the write routes turns the caller away. -/
  | writeGuard : ¬ app.MayEnter r route verb →
      Arises app r route verb (.unauthorizedIp (app.caller r)) 0
  /-- The path or the body cannot be read. -/
  | reading {fault : Fault} : app.MayEnter r route verb → ¬ app.Understood r route verb →
      IsRejection fault → Arises app r route verb fault 0
  /-- A guard of the controller operation turns the caller away. -/
  | controllerGuard {controller service : String} :
      Begins app r route verb controller service → ¬ app.Passes controller (app.caller r) →
      Arises app r route verb (.unauthorizedIp (app.caller r)) 0
  /-- A guard of the service operation does so, to which nobody is known. -/
  | serviceGuard {controller service : String} :
      Begins app r route verb controller service → app.Passes controller (app.caller r) →
      ¬ app.Passes service Caller.unknown →
      Arises app r route verb (.unauthorizedIp Caller.unknown) (app.openSpans [controller])
  /-- The service operation fails. -/
  | service {controller service : String} {fault : Fault} :
      Begins app r route verb controller service → app.Passes controller (app.caller r) →
      app.Passes service Caller.unknown → fault.kind ≠ .unauthorizedIp →
      Arises app r route verb fault (app.openSpans [controller, service])

theorem openSpans_cons (app : Application) (operation : String) (operations : List String) :
    app.openSpans (operation :: operations) =
      app.openSpans operations + (app.registry.isTraced operation).toNat := by
  unfold openSpans
  rw [List.countP_cons]
  cases app.registry.isTraced operation with
  | true => rfl
  | false => rfl

/-- Behind the guards of the controller operation are those of the service
    operation, and each operation may be a span. -/
theorem arises_of_behind {controller service : String}
    (hbegins : Begins app r route verb controller service) {fault : Fault} {spans : Nat}
    (h : Behind (app.Passes controller (app.caller r)) (app.caller r)
      (app.registry.isTraced controller)
      (Behind (app.Passes service Caller.unknown) Caller.unknown (app.registry.isTraced service)
        fun fault spans => fault.kind ≠ .unauthorizedIp ∧ spans = 0) fault spans) :
    Arises app r route verb fault spans := by
  cases h with
  | turnedAway hdenied => exact .controllerGuard hbegins hdenied
  | within hpasses hinner =>
    cases hinner with
    | turnedAway hdenied =>
      have hspans : app.openSpans [controller] =
          0 + (app.registry.isTraced controller).toNat := openSpans_cons app controller []
      rw [← hspans]
      exact .serviceGuard hbegins hpasses hdenied
    | within hadmits hplace =>
      obtain ⟨hkind, rfl⟩ := hplace
      have hspans : app.openSpans [controller, service] =
          0 + (app.registry.isTraced service).toNat +
            (app.registry.isTraced controller).toNat := by
        rw [openSpans_cons, openSpans_cons]
        rfl
      rw [← hspans]
      exact .service hbegins hpasses hadmits hkind

/-- A request that cannot be read is refused for it, without a word. -/
theorem refused_of_not_understood (h : ¬ app.Understood r route verb) :
    ∃ fault, IsRejection fault ∧ app.perform r route verb = pure (.error fault) := by
  unfold perform
  cases hnumbers : Parameter.readAll (parameters route) with
  | error e => exact ⟨pathFault e, .inl ⟨e, rfl⟩, rfl⟩
  | ok numbers =>
    have hread : ∃ numbers, Parameter.readAll (parameters route) = .ok numbers :=
      ⟨numbers, hnumbers⟩
    -- only resources that want a body are left
    cases route with
    | health | year _ | month _ _ | day _ _ _ => exact absurd ⟨hread, trivial⟩ h
    | holidays =>
      cases hbody : app.payload Draft.createDecoder r with
      | error u => exact ⟨bodyFault u, .inr ⟨u, rfl⟩, rfl⟩
      | ok draft => exact absurd ⟨hread, draft, hbody⟩ h
    | bulk =>
      cases hbody : app.payload Calendar.draftsDecoder r with
      | error u => exact ⟨bodyFault u, .inr ⟨u, rfl⟩, rfl⟩
      | ok drafts => exact absurd ⟨hread, drafts, hbody⟩ h
    | item raw =>
      have hlength := Parameter.length_readAll hnumbers
      obtain ⟨id, rfl⟩ := List.length_eq_one_iff.mp hlength
      cases verb with
      | get | post | delete => exact absurd ⟨hread, trivial⟩ h
      | put =>
        cases hbody : app.payload Draft.updateDecoder r with
        | error u => exact ⟨bodyFault u, .inr ⟨u, rfl⟩, rfl⟩
        | ok draft => exact absurd ⟨hread, draft, hbody⟩ h

/-! ### What is told on the way -/

theorem kind_ne_of_status {fault : Fault} (h : fault.code.status ≠ 403) :
    fault.kind ≠ .unauthorizedIp := by
  intro hkind
  cases fault with
  | unauthorizedIp address => exact h rfl
  | known | business | invalidArgument | internal => cases hkind

theorem kind_of_isRejection {fault : Fault} (h : IsRejection fault) :
    fault.kind ≠ .unauthorizedIp := by
  rcases h with ⟨e, rfl⟩ | ⟨u, rfl⟩
  · exact kind_ne_of_status (status_pathFault e)
  · exact kind_ne_of_status (status_bodyFault u)

/-- A step of the store tells nothing. -/
theorem warns_service {registry : Registry Store} (hr : registry.recorder = Recorder.standard)
    (hfirst : registry.GuardsFirst) {name : String}
    {service : Registry Store → Work Store (Outcome α)} (hservice : RunsUnder name service) :
    (service registry).Warns
      (Behind (∀ guard ∈ registry.guards name, guard.allowed.admits Caller.unknown = true)
        Caller.unknown (registry.isTraced name)
        fun fault spans => fault.kind ≠ .unauthorizedIp ∧ spans = 0) := by
  obtain ⟨step, hstep, hheard⟩ := hservice
  rw [hstep]
  refine registry.warns_invokeNow hr hfirst name none ?_
  intro s
  refine ⟨[], ⟨(List.append_nil _).symm, ⟨rfl, rfl⟩⟩, Alarms.of_nil ?_⟩
  intro fault hfault
  have hstatus : Heard (fun _ => True) (step s.data).1 := hheard s.data
  have houtcome : (step s.data).1 = .error fault := hfault
  rw [houtcome] at hstatus
  exact ⟨kind_ne_of_status hstatus, kind_ne_of_status hstatus, rfl⟩

/-- The envelope of a success is made without a word. -/
theorem warns_called {place : Fault → Nat → Prop} {service : Work Store (Outcome α)}
    {wrap : α → Work Store Envelope} (h : service.Warns place) (hwrap : Wraps wrap) :
    Work.Warns place (do
      match ← service with
      | .ok value => return .ok (← wrap value)
      | .error fault => return .error fault : Work Store (Outcome Envelope)) := by
  obtain ⟨size, data, hwrap⟩ := hwrap
  refine h.bind ?_ fun _ _ => rfl
  intro value s
  refine ⟨(wrap value s).1, ?_⟩
  show (wrap value >>= fun e => pure (.ok e) : Work Store (Outcome Envelope)) s = _
  rw [Work.bind_run, hwrap]
  rfl

section StandardRecorder

variable (hr : app.registry.recorder = Recorder.standard) (hfirst : app.registry.GuardsFirst)
include hr hfirst

theorem warns_perform (haccepts : route.accepts verb = true)
    (henters : app.MayEnter r route verb) :
    (app.perform r route verb).Warns (Arises app r route verb) := by
  by_cases hunderstood : app.Understood r route verb
  case neg =>
    obtain ⟨fault, hrejection, hrun⟩ := refused_of_not_understood hunderstood
    rw [hrun]
    intro s
    refine ⟨[], .refl s, Alarms.of_nil ?_⟩
    intro fault' hfault
    have hsame : fault = fault' := Except.error.inj hfault
    subst hsame
    exact ⟨kind_of_isRejection hrejection, .reading henters hunderstood hrejection⟩
  case pos =>
    have hplan := plan_perform app r haccepts
    show ((fun registry => perform ⟨app.settings, registry⟩ r route verb) app.registry).Warns _
    generalize hnames : operationsOf route verb = names at hplan
    generalize (fun registry => perform ⟨app.settings, registry⟩ r route verb) = plan at hplan ⊢
    cases hplan with
    | refused fault _ hrefused => exact absurd hunderstood hrefused
    | health hnone =>
      intro s
      refine ⟨[], .refl s, Alarms.of_nil ?_⟩
      intro fault hfault
      cases hfault
    | @operation _ controller name service wrap hsome hservice hwrap =>
      subst hsome
      have hbegins : Begins app r route verb controller name := ⟨henters, hunderstood, hnames⟩
      have hcall := warns_called (warns_service hr hfirst hservice) hwrap
      refine (app.registry.warns_invokeNow hr hfirst controller (some (app.caller r)) hcall).mono ?_
      intro fault spans hspans
      exact arises_of_behind hbegins hspans

/-- **Up to its outcome a request warns of its fault**, as the place tells where
    it arises. -/
theorem warns_guarded (haccepts : route.accepts verb = true) :
    (app.guarded r route verb).Warns (Arises app r route verb) := by
  unfold guarded
  cases hwrite : isWrite route verb with
  | false =>
    have henters : app.MayEnter r route verb := by
      intro h
      rw [hwrite] at h
      cases h
    exact warns_perform hr hfirst haccepts henters
  | true =>
    intro s
    cases hadmits : (writeGuard app.settings).allowed.admits (app.caller r) with
    | true =>
      have henters : app.MayEnter r route verb := fun _ => hadmits
      obtain ⟨lines, hlines, halarms⟩ :=
        warns_perform hr hfirst haccepts henters (s.checked (app.caller r))
      rw [if_pos rfl, Access.Guard.protect_of_admits hadmits]
      exact ⟨_, (Session.Continues.checked s _).trans hlines, halarms.checked _⟩
    | false =>
      have hdenied : ¬ app.MayEnter r route verb := by
        intro h
        rw [h hwrite] at hadmits
        cases hadmits
      rw [if_pos rfl, Access.Guard.protect_of_rejects hadmits]
      exact ⟨_, .rejected s _, .rejected _ (.writeGuard hdenied)⟩

end StandardRecorder

/-! ### Answers -/

/-- The codes of envelopes that say nothing unexpected. -/
def calmCodes : List String := ["SUCCESS", "HOLIDAY_NOT_FOUND", "HOLIDAY_ALREADY_EXISTS"]

/-- The code of a fault tells whether it is expected. -/
theorem mem_calmCodes_iff {fault : Fault} (h : fault.OfRequest) :
    fault.code.name ∈ calmCodes ↔ fault.isKnown = true := by
  have hnames : ∀ code : Code, code.name ∈ calmCodes ↔
      code = .holidayNotFound ∨ code = .holidayAlreadyExists := by
    intro code
    cases code <;> decide
  rw [hnames]
  cases fault with
  | known code message => exact iff_of_true h rfl
  | business code message =>
    cases h
    simp [Fault.code, Fault.isKnown, Fault.kind]
  | unauthorizedIp address => simp [Fault.code, Fault.isKnown, Fault.kind]
  | invalidArgument detail => simp [Fault.code, Fault.isKnown, Fault.kind]
  | internal detail => exact h.elim

/-- Only callers who are turned away are answered under the code of that. -/
theorem code_unauthorizedIp_iff {fault : Fault} (h : fault.OfRequest) :
    fault.code.name = "UNAUTHORIZED_IP" ↔ fault.kind = .unauthorizedIp := by
  have hnames : ∀ code : Code, code.name = "UNAUTHORIZED_IP" ↔ code = .unauthorizedIp := by
    intro code
    cases code <;> decide
  rw [hnames]
  cases fault with
  | known code message => rcases h with rfl | rfl <;> simp [Fault.code, Fault.kind]
  | business code message =>
    cases h
    simp [Fault.code, Fault.kind]
  | unauthorizedIp address => exact iff_of_true rfl rfl
  | invalidArgument detail => simp [Fault.code, Fault.kind]
  | internal detail => exact h.elim

/-- What is told of a fault that nobody expects, which arose within so many
    spans and is answered with this envelope. -/
structure Alarm (fault : Fault) (spans : Nat) (response : Response) (e : Envelope)
    (lines : List Event) : Prop where
  /-- There is one error among the lines. -/
  error : lines.filter Event.isError = [.faultAnswered fault]
  /-- Its field `code` is the code of the envelope. -/
  field : ∀ name, ((Event.faultAnswered fault).fields name).lookup "code" = some (.shown e.code)
  /-- The response has the status that goes with the code. -/
  status : ∃ code : Code, e.code = code.name ∧ response.status = code.status
  /-- There is a warning for each open span, and one more for a caller who is
      turned away. -/
  warnings : lines.countP Event.isWarning = spans + if e.code = "UNAUTHORIZED_IP" then 1 else 0
  /-- No span was opened but those in which the fault arose. -/
  opened : lines.countP Event.opensSpan = spans
  /-- The code says that of a caller who is turned away, and only then. -/
  unauthorized : e.code = "UNAUTHORIZED_IP" ↔ ∃ address, fault = .unauthorizedIp address

/-- How loud a response is that was told with these lines. -/
structure Severities (app : Application) (r : Request) (response : Response)
    (lines : List Event) : Prop where
  /-- A success and an expected fault are neither warned of nor an error. -/
  calm : ∀ e, response.body = .envelope e → e.code ∈ calmCodes →
    lines.countP Event.isWarning = 0 ∧ lines.countP Event.isError = 0
  /-- Any other fault is an alarm, as the place says where it arose. -/
  alarm : ∀ e, response.body = .envelope e → e.code ∉ calmCodes →
    ∃ route verb fault spans, Route.ofTarget? r.target = some route ∧
      (Route.Verb.ofMethod? r.method).filter route.accepts = some verb ∧
      Arises app r route verb fault spans ∧ Alarm fault spans response e lines
  /-- Without an envelope nothing is told. -/
  bare : (∀ e, response.body ≠ .envelope e) → lines = []

/-- What the work tells is as loud as its response. -/
def TellsOf (app : Application) (r : Request) (work : Work Store Response) : Prop :=
  ∀ s, ∃ lines, (work s).2.events = s.events ++ lines ∧ Severities app r (work s).1 lines

theorem tellsOf_bare {response : Response} (hnone : ∀ e, response.body ≠ .envelope e) :
    TellsOf app r (pure response) := by
  intro s
  refine ⟨[], (List.append_nil _).symm, ?_, ?_, fun _ => rfl⟩
  · intro e he
    exact absurd he (hnone e)
  · intro e he
    exact absurd he (hnone e)

theorem respond_fault (id : RequestId) (fault : Fault) (s : Session Store) :
    ∃ e, (respond id (.error fault) s).1.body = .envelope e ∧ e.code = fault.code.name ∧
      (respond id (.error fault) s).1.status = fault.code.status ∧
      (respond id (.error fault) s).2.events =
        s.events ++ if fault.isKnown then [] else [.faultAnswered fault] := by
  refine ⟨(Envelope.ofFault fault s).1, rfl, ?_, (respond_error id fault s).1, ?_⟩
  · cases fault <;> rfl
  · cases fault with
    | known code message => exact (List.append_nil _).symm
    | business | unauthorizedIp | invalidArgument | internal => exact List.reverse_cons

/-- A success is silent if nothing was said on the way to it. -/
theorem severities_success {made : Envelope} {response : Response} {lines : List Event}
    (hbody : response.body = .envelope made) (hcode : SaysSuccess made)
    (hwarnings : lines.countP Event.isWarning = 0) (herrors : lines.countP Event.isError = 0) :
    Severities app r response lines := by
  have hcalm : made.code ∈ calmCodes := by
    rw [hcode]
    decide
  constructor
  case calm =>
    intro e _ _
    exact ⟨hwarnings, herrors⟩
  case alarm =>
    intro e he hloud
    have hsame : Body.envelope made = .envelope e := hbody.symm.trans he
    cases hsame
    exact absurd hcalm hloud
  case bare =>
    intro hbare
    exact absurd hbody (hbare made)

/-- A fault that nobody expects makes the one error, and the warnings of its way. -/
theorem alarm_of_unexpected {fault : Fault} {spans : Nat} {made : Envelope} {response : Response}
    {lines : List Event} (hfault : fault.OfRequest) (hloud : ¬ fault.isKnown = true)
    (hcode : made.code = fault.code.name) (hstatus : response.status = fault.code.status)
    (herrors : lines.countP Event.isError = 0) (hopened : lines.countP Event.opensSpan = spans)
    (hwarnings : lines.countP Event.isWarning = warningsOf fault spans) :
    Alarm fault spans response made (lines ++ [.faultAnswered fault]) := by
  have hkinds := code_unauthorizedIp_iff hfault
  constructor
  case error =>
    have hnone : lines.filter Event.isError = [] := by
      rw [List.filter_eq_nil_iff]
      exact List.countP_eq_zero.mp herrors
    rw [List.filter_append, hnone]
    rfl
  case field =>
    intro name
    rw [hcode]
    rfl
  case status => exact ⟨fault.code, hcode, hstatus⟩
  case warnings =>
    rw [List.countP_append, hwarnings, hcode, warningsOf, if_neg hloud]
    simp only [hkinds]
    rfl
  case opened =>
    rw [List.countP_append, hopened]
    rfl
  case unauthorized =>
    rw [hcode, hkinds]
    cases fault <;> simp [Fault.kind]

/-- The answer to a fault is as loud as the fault is unexpected. -/
theorem severities_fault (htarget : Route.ofTarget? r.target = some route)
    (hverb : (Route.Verb.ofMethod? r.method).filter route.accepts = some verb)
    {fault : Fault} {made : Envelope} {response : Response} {lines : List Event}
    (hfault : fault.OfRequest)
    (halarms : Alarms (Arises app r route verb) (.error fault : Outcome Envelope) lines)
    (hbody : response.body = .envelope made) (hcode : made.code = fault.code.name)
    (hstatus : response.status = fault.code.status) :
    Severities app r response
      (lines ++ if fault.isKnown then [] else [.faultAnswered fault]) := by
  obtain ⟨herrors, spans, hplace, hopened, hwarnings⟩ := halarms
  -- the code of the envelope tells which of the two it is
  have hcalm : made.code ∈ calmCodes ↔ fault.isKnown = true := by
    rw [hcode, mem_calmCodes_iff hfault]
  constructor
  case calm =>
    intro e he hcode'
    have hsame : Body.envelope made = .envelope e := hbody.symm.trans he
    cases hsame
    have hknown := hcalm.mp hcode'
    rw [if_pos hknown, List.append_nil, hwarnings, warningsOf, if_pos hknown]
    exact ⟨rfl, herrors⟩
  case alarm =>
    intro e he hcode'
    have hsame : Body.envelope made = .envelope e := hbody.symm.trans he
    cases hsame
    have hloud := hcalm.not.mp hcode'
    rw [if_neg hloud]
    exact ⟨route, verb, fault, spans, htarget, hverb, hplace,
      alarm_of_unexpected hfault hloud hcode hstatus herrors hopened hwarnings⟩
  case bare =>
    intro hbare
    exact absurd hbody (hbare made)

section StandardRecorder

variable (hr : app.registry.recorder = Recorder.standard) (hfirst : app.registry.GuardsFirst)
include hr hfirst

/-- **The response of a resource** is as loud as its outcome. -/
theorem tellsOf_guarded (htarget : Route.ofTarget? r.target = some route)
    (hverb : (Route.Verb.ofMethod? r.method).filter route.accepts = some verb) (id : RequestId) :
    TellsOf app r (app.guarded r route verb >>= respond id) := by
  intro s
  obtain ⟨_, haccepts⟩ := Option.filter_eq_some_iff.mp hverb
  obtain ⟨lines, hlines, halarms⟩ := warns_guarded hr hfirst (r := r) haccepts s
  have hends := concludes_guarded app r route verb s
  rw [Work.bind_run]
  cases houtcome : (app.guarded r route verb s).1 with
  | ok made =>
    rw [houtcome] at hends halarms
    obtain ⟨herrors, hwarnings⟩ := halarms
    exact ⟨lines, hlines.events, severities_success rfl hends hwarnings herrors⟩
  | error fault =>
    rw [houtcome] at hends halarms
    obtain ⟨made, hmade, hcode, hstatus, hevents⟩ :=
      respond_fault id fault (app.guarded r route verb s).2
    refine ⟨lines ++ if fault.isKnown then [] else [.faultAnswered fault], ?_, ?_⟩
    · rw [hevents, hlines.events, List.append_assoc]
    · exact severities_fault htarget hverb hends halarms hmade hcode hstatus

theorem tellsOf_route (r : Request) (id : RequestId) : TellsOf app r (app.route r id) := by
  unfold Application.route
  split
  · -- no resource
    split
    · exact tellsOf_bare fun e he => by cases he
    · exact tellsOf_bare fun e he => by cases he
  · next route htarget =>
    split
    · -- no method of the resource
      split
      · exact tellsOf_bare fun e he => by cases he
      · exact tellsOf_bare fun e he => by cases he
    · next verb hverb =>
      split
      · exact tellsOf_bare fun e he => by cases he
      · intro s
        exact tellsOf_guarded hr hfirst htarget hverb id (s.enter { seed := id.seed })

end StandardRecorder

/-- **How loud a request is**, unless it asks for nothing but the head of its
    answer. A success and an expected fault are silent. Any other fault is
    answered with exactly one error, under the code and the status of the
    envelope, after a warning for each span that was open where it arose and
    one more for a caller who is turned away. An answer without an envelope is
    told nothing of. -/
theorem severity_of_answer (settings : Settings) (start : Session Store) :
    let app := (build settings start).1
    ∀ (r : Request) (s : Session Store), r.method ≠ "HEAD" →
    ∃ lines, (app.answer r s).2.events = s.events ++ lines ∧
      Severities app r (app.answer r s).1 lines := by
  intro app r s hmethod
  have hfirst : app.registry.GuardsFirst := by
    show ((declarations settings).registry Recorder.standard).GuardsFirst
    rw [Settings.declarations_eq]
    exact Registry.guardsFirst_built _ _ _
  obtain ⟨id, issued, hid⟩ := requestId_run r s
  obtain ⟨lines, hlines, hseverities⟩ := tellsOf_route rfl hfirst r id { s with issued }
  have hsent : sent r (app.route r id { s with issued }).1 = pure _ :=
    if_neg (by simp [hmethod])
  rw [answer_run, hid, Work.bind_run, hsent]
  exact ⟨lines, hlines, hseverities⟩

/-- The guard of a service operation turns a caller away within the span of the
    controller operation: one warning for the span, and one for the caller. -/
theorem severity_of_answer_guardedService :
    let app := (build guardedService { data := {} }).1
    let answered := app.answer lookUp { data := {} }
    lookUp.method ≠ "HEAD" ∧ ∃ lines, answered.2.events = [] ++ lines ∧
      Severities app lookUp answered.1 lines ∧
      lines.filter Event.isError = [.faultAnswered (.unauthorizedIp "unknown")] ∧
      lines.countP Event.isWarning = 2 := by
  intro app answered
  have hmethod : lookUp.method ≠ "HEAD" := by decide
  obtain ⟨lines, hlines, hseverities⟩ :=
    severity_of_answer guardedService { data := {} } lookUp { data := {} } hmethod
  have hall : answered.2.events = lines := hlines
  refine ⟨hmethod, lines, hlines, hseverities, ?_, ?_⟩
  · rw [← hall]
    decide +kernel
  · rw [← hall]
    decide +kernel

end HolidayApi.Web.Application
