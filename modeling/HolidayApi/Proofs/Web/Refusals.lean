import HolidayApi.Proofs.Settings.Verdicts
import HolidayApi.Proofs.Web.Plans

/-! # Who is turned away

    A request meets up to three guards: that of the write routes, those of the
    controller operation and those of the service operation below it. The
    answer has the status 403 iff one of them turns the caller away, for no
    other outcome has that status (`settled_guarded`).

    The first two look at the caller of the request. The service is called
    without a caller, so its guards look at `unknown`, whoever asks
    (`forbidden_iff_denied`).
-/

namespace HolidayApi.Web.Application

open HolidayApi.Access (Caller.resolve Caller.unknown)
open HolidayApi.Calendar (Store)
open HolidayApi.Calendar.Service (RunsUnder)
open HolidayApi.Call (Advice Recorder Registry Session Work)
open HolidayApi.Settings (verdict)

variable {σ α β : Type} {denied : Prop} {good : α → Prop}

/-! ### Settled outcomes -/

/-- If `denied` holds, a guard turned the caller away, and else none did. -/
def Settled (denied : Prop) (good : α → Prop) (outcome : Outcome α) : Prop :=
  (denied ∧ ∃ address, outcome = .error (.unauthorizedIp address)) ∨
    (¬ denied ∧ Heard good outcome)

theorem Settled.of_heard {outcome : Outcome α} (h : Heard good outcome) :
    Settled False good outcome := .inr ⟨not_false, h⟩

theorem Settled.congr {denied' : Prop} {outcome : Outcome α} (h : denied ↔ denied')
    (hsettled : Settled denied good outcome) : Settled denied' good outcome := by
  unfold Settled at *
  rw [← h]
  exact hsettled

/-- A chain of advices turns the caller away if one of its guards does, or what
    stands behind it. -/
theorem settled_surround {recorder : Recorder σ} (hr : recorder.KeepsData)
    (operation caller : String) {call : Work σ (Outcome α)} {advices : List Advice}
    (h : ∀ s, Settled denied good (call s).1) (s : Session σ) :
    Settled (¬ Registry.Admits advices caller ∨ denied) good
      (Registry.surround recorder operation caller call advices s).1 := by
  by_cases hadmits : Registry.Admits advices caller
  · -- what stands behind the guards decides
    obtain ⟨s₁, _, hresult, _⟩ := Registry.surround_admitted hr operation hadmits call s
    rw [hresult]
    rcases h s₁ with ⟨hdenied, hrefused⟩ | ⟨hdenied, hheard⟩
    · exact .inl ⟨.inr hdenied, hrefused⟩
    · refine .inr ⟨?_, hheard⟩
      rintro (hrejects | hlater)
      · exact hrejects hadmits
      · exact hdenied hlater
  · obtain ⟨hresult, _⟩ := Registry.surround_rejected hr operation hadmits call s
    exact .inl ⟨.inl hadmits, caller, hresult⟩

/-- What follows a success does not turn the caller away. -/
theorem settled_bind {good' : β → Prop} {work : Work σ (Outcome α)}
    {next : Outcome α → Work σ (Outcome β)} (h : ∀ s, Settled denied good (work s).1)
    (hok : ∀ value s, Heard good' (next (.ok value) s).1)
    (herror : ∀ fault s, (next (.error fault) s).1 = .error fault) (s : Session σ) :
    Settled denied good' ((work >>= next) s).1 := by
  rw [Work.bind_run]
  rcases h s with ⟨hdenied, address, hrefused⟩ | ⟨hdenied, hheard⟩
  · rw [hrefused]
    exact .inl ⟨hdenied, address, herror _ _⟩
  · refine .inr ⟨hdenied, ?_⟩
    cases houtcome : (work s).1 with
    | ok value => exact hok value _
    | error fault =>
      rw [houtcome] at hheard
      rw [herror]
      exact hheard

/-! ### Controller operations -/

/-- The envelope of a success. -/
def IsSuccess (e : Envelope) : Prop := e.status = 200

/-- **A controller operation** turns the caller away for its own guards, or for
    those of the service operation, to which nobody is known. -/
theorem settled_controlled {registry : Registry Store} (hr : registry.recorder.KeepsData)
    {controller caller name : String} {service : Registry Store → Work Store (Outcome α)}
    {wrap : α → Work Store Envelope} (hservice : RunsUnder name service) (hwrap : Wraps wrap)
    (s : Session Store) :
    Settled (¬ Registry.Admits (registry.advices controller) caller ∨
        ¬ Registry.Admits (registry.advices name) Caller.unknown ∨ False) IsSuccess
      (controlled controller caller service wrap registry s).1 := by
  obtain ⟨step, hstep, hheard⟩ := hservice
  obtain ⟨size, data, hwrap⟩ := hwrap
  have hcall : ∀ s, Settled (¬ Registry.Admits (registry.advices name) Caller.unknown ∨ False)
      (fun _ => True) (service registry s).1 := by
    intro s
    rw [hstep]
    exact settled_surround hr name Caller.unknown (fun s => .of_heard (hheard s.data)) s
  refine settled_surround hr controller caller (settled_bind hcall ?_ ?_) s
  · intro value s
    show IsSuccess (wrap value s).1
    rw [hwrap]
    rfl
  · intro fault s
    rfl

variable {app : Application} {r : Request} {route : Route} {verb : Route.Verb}
  {controller name : String}

theorem settled_perform (hr : app.registry.recorder.KeepsData)
    (haccepts : route.accepts verb = true) (hunderstood : app.Understood r route verb)
    (hnames : operationsOf route verb = some (controller, name)) (s : Session Store) :
    Settled (¬ Registry.Admits (app.registry.advices controller) (app.caller r) ∨
        ¬ Registry.Admits (app.registry.advices name) Caller.unknown) IsSuccess
      (app.perform r route verb s).1 := by
  have hplan := plan_perform app r haccepts
  show Settled _ _ ((fun registry => perform ⟨app.settings, registry⟩ r route verb)
    app.registry s).1
  rw [hnames] at hplan
  generalize (fun registry => perform ⟨app.settings, registry⟩ r route verb) = plan at hplan ⊢
  cases hplan with
  | refused fault _ hrefused => exact absurd hunderstood hrefused
  | health hnone => cases hnone
  | operation hsome hservice hwrap =>
    cases hsome
    exact (settled_controlled hr hservice hwrap s).congr (by rw [or_false])

/-- The guard of the write routes comes before those of the operations. -/
theorem settled_guarded (hr : app.registry.recorder.KeepsData)
    (haccepts : route.accepts verb = true) (hunderstood : app.Understood r route verb)
    (hnames : operationsOf route verb = some (controller, name)) (s : Session Store) :
    Settled
      ((isWrite route verb = true ∧
          ¬ (writeGuard app.settings).allowed.admits (app.caller r) = true) ∨
        ¬ Registry.Admits (app.registry.advices controller) (app.caller r) ∨
        ¬ Registry.Admits (app.registry.advices name) Caller.unknown) IsSuccess
      (app.guarded r route verb s).1 := by
  have hperform := settled_perform hr haccepts hunderstood hnames
  unfold guarded
  cases hwrite : isWrite route verb with
  | false =>
    refine (hperform s).congr ?_
    simp
  | true =>
    -- the write guard by itself is a chain of one advice
    let chain := [Advice.checkCaller (writeGuard app.settings)]
    have hguards : chain.filterMap Advice.guard? = [writeGuard app.settings] := rfl
    have hchain : Settled _ IsSuccess (Registry.surround Recorder.standard "" (app.caller r)
        (app.perform r route verb) chain s).1 :=
      settled_surround Recorder.keepsData_standard "" (app.caller r) hperform s
    refine Settled.congr ?_ hchain
    rw [Settings.Verdict.admits_iff_of_guards hguards]
    simp

/-! ### Answers -/

/-- The response has the status 403 iff the caller was turned away, and then it
    says so. -/
theorem respond_settled {outcome : Outcome Envelope} (h : Settled denied IsSuccess outcome)
    (id : RequestId) (s : Session Store) :
    ((respond id outcome s).1.status = 403 ↔ denied) ∧
    (denied → ∃ e, (respond id outcome s).1.body = .envelope e ∧ e.code = "UNAUTHORIZED_IP") := by
  rcases h with ⟨hdenied, address, rfl⟩ | ⟨hdenied, hheard⟩
  · exact ⟨iff_of_true rfl hdenied, fun _ => ⟨_, rfl, rfl⟩⟩
  · refine ⟨iff_of_false ?_ hdenied, fun h => absurd h hdenied⟩
    cases outcome with
    | error fault =>
      rw [(respond_error id fault s).1]
      exact hheard
    | ok e =>
      have hstatus : (respond id (.ok e) s).1.status = e.status := rfl
      rw [hstatus, hheard]
      decide

/-- An answer is the response of its route. To `HEAD` only its status is sent. -/
theorem answer_settled (htarget : Route.ofTarget? r.target = some route)
    (haccepted : (Route.Verb.ofMethod? r.method).filter route.accepts = some verb)
    (hshort : app.isTooLong r = false)
    (hsettled : ∀ s, Settled denied IsSuccess (app.guarded r route verb s).1)
    (s : Session Store) :
    ((app.answer r s).1.status = 403 ↔ denied) ∧
    (denied → r.method ≠ "HEAD" →
      ∃ e, (app.answer r s).1.body = .envelope e ∧ e.code = "UNAUTHORIZED_IP") := by
  obtain ⟨id, s₁, _, hstatus, _, hbody⟩ := answer_of_route app r s
  have hroute : (app.route r id s₁).1 =
      (respond id (app.guarded r route verb (s₁.enter { seed := id.seed })).1
        (app.guarded r route verb (s₁.enter { seed := id.seed })).2).1 := by
    rw [route_accepted htarget haccepted hshort]
    rfl
  obtain ⟨hiff, henvelope⟩ := respond_settled (hsettled (s₁.enter { seed := id.seed })) id
    (app.guarded r route verb (s₁.enter { seed := id.seed })).2
  rw [hstatus, hroute]
  refine ⟨hiff, ?_⟩
  intro hdenied hmethod
  rw [hbody hmethod, hroute]
  exact henvelope hdenied

/-- **Who is denied is answered with 403.** Of settings that pass the check, the
    answer to a request that is understood and not too long has the status 403
    iff the verdict is a denial: about the caller on the write routes, if the
    request writes; about the caller of the controller operation; or about
    `unknown` as the caller of the service operation. -/
theorem forbidden_iff_denied (settings : Settings) (start : Session Store)
    (hcheck : (settings.check start).1 = .ok ()) :
    let app := (build settings start).1
    ∀ (r : Request) (route : Route) (verb : Route.Verb) (controller service : String),
    Route.ofTarget? r.target = some route →
    (Route.Verb.ofMethod? r.method).filter route.accepts = some verb →
    operationsOf route verb = some (controller, service) →
    app.Understood r route verb →
    (∀ n, announcedLength r = some n → n ≤ settings.security.maxBodySize) →
    let caller := Caller.resolve r.headers r.peer settings.security.trustedProxies
    let denied := (isWrite route verb = true ∧ verdict settings caller none = .denied) ∨
      verdict settings caller (some controller) = .denied ∨
      verdict settings "unknown" (some service) = .denied
    ∀ s : Session Store, ((app.answer r s).1.status = 403 ↔ denied) ∧
      (denied → r.method ≠ "HEAD" →
        ∃ e, (app.answer r s).1.body = .envelope e ∧ e.code = "UNAUTHORIZED_IP") := by
  intro app r route verb controller service htarget haccepted hnames hunderstood hlength
    caller denied s
  have haccepts : route.accepts verb = true := (Option.filter_eq_some_iff.mp haccepted).2
  have hr : app.registry.recorder.KeepsData := Recorder.keepsData_standard
  refine answer_settled htarget haccepted (isTooLong_eq_false hlength) ?_ s
  intro s
  refine (settled_guarded hr haccepts hunderstood hnames s).congr ?_
  -- each verdict speaks of the guards that it names
  have hroutes : verdict settings caller none = .denied ↔
      ¬ (writeGuard settings).allowed.admits caller = true :=
    Settings.Verdict.ofGuard_eq_denied_iff (writeGuard settings) caller
  have hoperation : ∀ address operation, verdict settings address (some operation) = .denied ↔
      ¬ Registry.Admits (app.registry.advices operation) address :=
    Settings.denied_iff_not_admits hcheck Recorder.standard
  show _ ↔ (_ ∧ _) ∨ _ ∨ _
  rw [hroutes, hoperation, hoperation]
  rfl

/-- A question about one holiday, asked from 10.0.0.9. -/
def lookUp : Request where
  target := "/api/holidays/id/1"
  peer := some (.v4 (.ofOctets 10 0 0 9))

theorem understood_lookUp (app : Application) : app.Understood lookUp (.item "1") .get :=
  ⟨⟨[1], by decide +kernel⟩, trivial⟩

/-- Under the standard settings nobody is turned away who asks. -/
theorem forbidden_iff_denied_lookUp :
    ((build {} { data := {} }).1.answer lookUp { data := {} }).1.status ≠ 403 := by
  have hcheck : (({} : Settings).check (σ := Store) { data := {} }).1 = .ok () := by rfl
  have h := forbidden_iff_denied {} { data := {} } hcheck lookUp (.item "1") .get
    "HolidayController.get_by_id" "HolidayService.find_by_id" rfl rfl rfl (understood_lookUp _)
    (fun n hn => by cases hn) { data := {} }
  rw [ne_eq, h.1]
  decide

/-- Settings with a guard for the service operation that finds a holiday. -/
def guardedService : Settings where
  operations := [⟨"HolidayService.find_by_id", .ofPatterns ["10.0.0.0/8"]⟩]

/-- The guard of a service operation turns away a caller that is on its list,
    for it looks at `unknown`. -/
theorem serviceGuard_turns_away_listed :
    (guardedService.check (σ := Store) { data := {} }).1 = .ok () ∧
    (build guardedService { data := {} }).1.caller lookUp = "10.0.0.9" ∧
    (build guardedService { data := {} }).1.Understood lookUp (.item "1") .get ∧
    isWrite (.item "1") .get = false ∧
    verdict guardedService "10.0.0.9" (some "HolidayController.get_by_id") = .unguarded ∧
    verdict guardedService "10.0.0.9" (some "HolidayService.find_by_id") = .allowed ∧
    ((build guardedService { data := {} }).1.answer lookUp { data := {} }).1.status = 403 := by
  have hcheck : (guardedService.check (σ := Store) { data := {} }).1 = .ok () := by rfl
  refine ⟨hcheck, by decide, understood_lookUp _, rfl, by decide, by decide, ?_⟩
  have hunknown : ¬ Registry.Admits ((build guardedService { data := {} }).1.registry.advices
      "HolidayService.find_by_id") Caller.unknown :=
    (Settings.denied_iff_not_admits hcheck Recorder.standard Caller.unknown _).mp (by decide)
  have hsettled : ∀ s, Settled _ IsSuccess
      ((build guardedService { data := {} }).1.guarded lookUp (.item "1") .get s).1 :=
    settled_guarded Recorder.keepsData_standard rfl (understood_lookUp _) rfl
  exact (answer_settled rfl rfl rfl hsettled { data := {} }).1.mpr (.inr (.inr hunknown))

end HolidayApi.Web.Application
