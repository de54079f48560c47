import HolidayApi.Proofs.Data.Blanks
import HolidayApi.Proofs.Text.Encoding
import HolidayApi.Proofs.Web.WriteGuard
import HolidayApi.Settings.Check

/-! # How long a body may be

    Two bounds stand on the way of a body. The length that the headers announce
    is held against the size of the settings before anything else is looked at.
    The body itself is read behind the write guard, and there it is cut at that
    size or at `readLimit`, whichever is less.

    * `Submits` is a request whose body is valid for its resource, with the
      service operation that the body is meant for.
    * `answer_announced`, `answer_cut` and `answer_reaches` are the three things
      that can come of it; their statuses tell them apart.
    * `refusedForSize_iff` puts them together. A size of the settings that is
      more than `readLimit` bounds announcements only, and a body between the
      two is refused although the settings allow it (`blankLed_refused`).
-/

namespace HolidayApi.Web

open HolidayApi.Calendar (Draft Holiday Store)
open HolidayApi.Call (Recorder Registry Session Work)
open HolidayApi.Data (Json)

variable {α : Type}

/-! ### Submissions -/

/-- The body of the request says this to the decoder. -/
def Says (r : Request) (decoder : Data.Decoder α) (value : α) : Prop :=
  Data.JsonText.decode decoder (Text.Utf8.units r.body) = .ok value

/-- The request submits a body that is valid for its resource. With it goes
    the controller operation, the service operation that is called for this
    body, and the data with which a success of the service is answered. -/
inductive Submits (r : Request) : {α : Type} → Route → Route.Verb → String →
    (Registry Store → Work Store (Outcome α)) → (α → Json) → Prop where
  | create {draft : Draft} : r.method = "POST" → Route.ofTarget? r.target = some .holidays →
      Says r Draft.createDecoder draft →
      Submits r .holidays .post "HolidayController.create"
        (fun registry => Calendar.Service.create registry draft) Holiday.json
  | createAll {drafts : List Draft} : r.method = "POST" →
      Route.ofTarget? r.target = some .bulk → Says r Calendar.draftsDecoder drafts →
      Submits r .bulk .post "HolidayController.create_bulk"
        (fun registry => Calendar.Service.createAll registry drafts)
        fun holidays => .list (holidays.map Holiday.json)
  | update {raw : String} {id : Int} {draft : Draft} : r.method = "PUT" →
      Route.ofTarget? r.target = some (.item raw) → Parameter.readAll [.id raw] = .ok [id] →
      Says r Draft.updateDecoder draft →
      Submits r (.item raw) .put "HolidayController.update"
        (fun registry => Calendar.Service.update registry id.toNat draft) Holiday.json

/-! ### What can come of a submission -/

/-- The response carries the envelope of a fault. -/
def Faulted (fault : Fault) (response : Response) : Prop :=
  ∃ e, response.body = .envelope e ∧ response.status = fault.code.status ∧
    e.status = fault.code.status ∧ e.code = fault.code.name ∧
    e.data = .text (Envelope.faultData fault)

/-- The response refuses the body for the length that was announced. -/
def RefusesAnnounced (response : Response) : Prop :=
  response.status = 413 ∧ response.body = .text "length limit exceeded"

/-- The response refuses the body for the length that showed while it was
    read. -/
def RefusesCut (response : Response) : Prop :=
  Faulted (.business .notReadable "Failed to buffer the request body: length limit exceeded")
    response

/-- The response tells what came of the service. -/
def Relays (json : α → Json) (response : Response) : Outcome α → Prop
  | .ok value => ∃ e, response.body = .envelope e ∧ response.status = 200 ∧ e.status = 200 ∧
      e.data = json value
  | .error fault => Faulted fault response

/-- The service ran on the data of the state before; the data after are those
    that it left, and the response tells what came of it. -/
def Reaches (service : Work Store (Outcome α)) (json : α → Json) (before : Session Store)
    (response : Response) (after : Session Store) : Prop :=
  ∃ s₁ : Session Store, s₁.data = before.data ∧ Relays json response (service s₁).1 ∧
    after.data = (service s₁).2.data

namespace Submits

variable {r : Request} {route : Route} {verb : Route.Verb} {controller : String}
  {service : Registry Store → Work Store (Outcome α)} {json : α → Json}

theorem target (h : Submits r route verb controller service json) :
    Route.ofTarget? r.target = some route := by
  cases h <;> assumption

theorem writeRoute (h : Submits r route verb controller service json) :
    WriteRoute r.method route verb := by
  cases h with
  | create hmethod =>
    rw [hmethod]
    exact .create
  | createAll hmethod =>
    rw [hmethod]
    exact .createAll
  | update hmethod =>
    rw [hmethod]
    exact .update _

end Submits

namespace Application

variable {app : Application} {r : Request} {route : Route} {verb : Route.Verb}
  {controller : String} {service : Registry Store → Work Store (Outcome α)} {json : α → Json}

/-- A valid body is refused for its length or not at all. -/
theorem payload_valid {decoder : Data.Decoder α} {value : α}
    (htype : MediaType.saysJson r.headers = true) (hvalid : Says r decoder value) :
    app.payload decoder r =
      if bodyLimit app r < r.body.length then .error .tooLong else .ok value := by
  unfold Says at hvalid
  unfold payload
  rw [htype, hvalid]
  rfl

/-- Behind the write guard a submission is refused for its length, or it runs
    its controller operation around its service operation. -/
theorem perform_submits (htype : MediaType.saysJson r.headers = true)
    (h : Submits r route verb controller service json) :
    ∃ wrap : α → Work Store Envelope, (∀ value, MakesSuccess (wrap value) (json value)) ∧
      app.perform r route verb =
        if bodyLimit app r < r.body.length then return .error (bodyFault .tooLong)
        else app.control controller (app.caller r) service wrap := by
  have hnone : Parameter.readAll [] = .ok [] := rfl
  cases h with
  | create _ _ hvalid =>
    refine ⟨single, makesSuccess_single, ?_⟩
    simp only [perform, parameters, hnone, payload_valid htype hvalid]
    by_cases hlong : bodyLimit app r < r.body.length
    · simp only [if_pos hlong]
    · simp only [if_neg hlong]
  | createAll _ _ hvalid =>
    refine ⟨created, makesSuccess_created, ?_⟩
    simp only [perform, parameters, hnone, payload_valid htype hvalid]
    by_cases hlong : bodyLimit app r < r.body.length
    · simp only [if_pos hlong]
    · simp only [if_neg hlong]
  | update _ _ hid hvalid =>
    refine ⟨single, makesSuccess_single, ?_⟩
    simp only [perform, parameters, hid, payload_valid htype hvalid]
    by_cases hlong : bodyLimit app r < r.body.length
    · simp only [if_pos hlong]
    · simp only [if_neg hlong]

/-! ### Responses -/

theorem faulted_respond (id : RequestId) (fault : Fault) (s : Session Store) :
    Faulted fault (respond id (.error fault) s).1 := by
  cases fault <;> exact ⟨_, rfl, rfl, rfl, rfl, rfl⟩

/-- What a controller operation makes of the outcome of its service. -/
def wrapped (wrap : α → Work Store Envelope) : Outcome α → Work Store (Outcome Envelope)
  | .ok value => return .ok (← wrap value)
  | .error fault => return .error fault

theorem control_eq (operation caller : String) (wrap : α → Work Store Envelope) :
    app.control operation caller service wrap =
      Registry.surround app.registry.recorder operation caller
        (service app.registry >>= wrapped wrap) (app.registry.advices operation) := by
  have hwrapped : wrapped wrap = fun outcome => match outcome with
      | .ok value => return .ok (← wrap value)
      | .error fault => return .error fault := by
    funext outcome
    cases outcome <;> rfl
  rw [hwrapped]
  rfl

/-- The envelope of a success goes into the response, and so does a fault. -/
theorem relays_wrapped {wrap : α → Work Store Envelope}
    (hwrap : ∀ value, MakesSuccess (wrap value) (json value)) (id : RequestId)
    (outcome : Outcome α) (s s' : Session Store) :
    Relays json (respond id (wrapped wrap outcome s).1 s').1 outcome := by
  cases outcome with
  | ok value =>
    have hstatus := (hwrap value).status s
    exact ⟨(wrap value s).1, rfl, hstatus, hstatus, (hwrap value).data s⟩
  | error fault => exact faulted_respond id fault s'

theorem data_respond (id : RequestId) (outcome : Outcome Envelope) (s : Session Store) :
    (respond id outcome s).2.data = s.data := by
  cases outcome with
  | ok e => rfl
  | error fault => exact (respond_error id fault s).2

theorem data_wrapped {wrap : α → Work Store Envelope}
    (hwrap : ∀ value, MakesSuccess (wrap value) (json value)) (outcome : Outcome α)
    (s : Session Store) : (wrapped wrap outcome s).2.data = s.data := by
  cases outcome with
  | ok value => exact (hwrap value).keepsData s
  | error fault => rfl

/-- A controller operation whose guards admit the caller brings the service to
    work. -/
theorem reaches_control (hr : app.registry.recorder.KeepsData) {caller : String}
    (hadmits : Registry.Admits (app.registry.advices controller) caller)
    {wrap : α → Work Store Envelope} (hwrap : ∀ value, MakesSuccess (wrap value) (json value))
    (id : RequestId) (s : Session Store) :
    Reaches (service app.registry) json s
      ((app.control controller caller service wrap >>= respond id) s).1
      ((app.control controller caller service wrap >>= respond id) s).2 := by
  rw [control_eq]
  obtain ⟨s₁, hdata, hresult, hfinal⟩ := Registry.surround_admitted hr controller hadmits
    (service app.registry >>= wrapped wrap) s
  refine ⟨s₁, hdata, ?_, ?_⟩
  · rw [Work.bind_run, hresult, Work.bind_run]
    exact relays_wrapped hwrap id _ _ _
  · rw [Work.bind_run, data_respond, hfinal, Work.bind_run]
    exact data_wrapped hwrap _ _

/-- A submission that is not announced as too long is performed in the scope of
    the request, once the write guard has let the caller through. -/
theorem answer_submits (h : Submits r route verb controller service json)
    (hguard : (writeGuard app.settings).allowed.admits (app.caller r) = true)
    (hshort : app.isTooLong r = false) (s : Session Store) :
    ∃ (id : RequestId) (inner : Session Store), inner.data = s.data ∧
      let answered := (app.perform r route verb >>= respond id) inner
      app.answer r s = (answered.1, answered.2.leave) := by
  obtain ⟨id, issued, hrun⟩ := behind_run (writeGuard app.settings) (app.caller r) r
    (app.perform r route verb) s
  simp only [Access.Guard.protect_of_admits hguard] at hrun
  refine ⟨id, _, ?_, (congrFun (answer_write h.target h.writeRoute hshort) s).trans hrun⟩
  rfl

/-- What is announced as too long is refused at once. -/
theorem answer_announced (h : Submits r route verb controller service json)
    (hlong : app.isTooLong r = true) (s : Session Store) :
    RefusesAnnounced (app.answer r s).1 := by
  have hhead : (r.method = "HEAD" && (Route.ofTarget? r.target).isSome) = false := by
    simp [h.writeRoute.ne_head]
  have hroute : ∀ id, app.route r id = return tooLong id none := by
    intro id
    unfold Application.route
    simp only [h.target, h.writeRoute.accepted, hlong]
    rfl
  unfold answer
  rw [Work.bind_run, Work.bind_run, hhead, hroute]
  exact ⟨rfl, rfl⟩

/-- What turns out too long is refused behind the write guard. -/
theorem answer_cut (htype : MediaType.saysJson r.headers = true)
    (h : Submits r route verb controller service json)
    (hguard : (writeGuard app.settings).allowed.admits (app.caller r) = true)
    (hshort : app.isTooLong r = false) (hlong : bodyLimit app r < r.body.length)
    (s : Session Store) : RefusesCut (app.answer r s).1 := by
  obtain ⟨wrap, -, hperform⟩ := perform_submits htype h
  obtain ⟨id, inner, -, hanswer⟩ := answer_submits h hguard hshort s
  rw [hanswer, hperform, if_pos hlong]
  exact faulted_respond id (bodyFault .tooLong) inner

/-- All else brings the service to work. -/
theorem answer_reaches (hr : app.registry.recorder.KeepsData)
    (htype : MediaType.saysJson r.headers = true)
    (h : Submits r route verb controller service json)
    (hguard : (writeGuard app.settings).allowed.admits (app.caller r) = true)
    (hadmits : Registry.Admits (app.registry.advices controller) (app.caller r))
    (hshort : app.isTooLong r = false) (hwithin : r.body.length ≤ bodyLimit app r)
    (s : Session Store) :
    Reaches (service app.registry) json s (app.answer r s).1 (app.answer r s).2 := by
  obtain ⟨wrap, hwrap, hperform⟩ := perform_submits htype h
  obtain ⟨id, inner, hinner, hanswer⟩ := answer_submits h hguard hshort s
  rw [if_neg (Nat.not_lt.mpr hwithin)] at hperform
  have hcontrol : Reaches (service app.registry) json inner _ _ :=
    reaches_control hr hadmits hwrap id inner
  obtain ⟨s₁, hdata, hrelays, hafter⟩ := hcontrol
  rw [hanswer, hperform]
  exact ⟨s₁, hdata.trans hinner, hrelays, hafter⟩

/-! ### Which of the three it is -/

/-- The faults of a service operation that is one step of the store. -/
theorem status_invokeNow_step {registry : Registry Store} (hr : registry.recorder.KeepsData)
    {name : String} {change : Store → Except Calendar.Refusal α × Store} {s : Session Store}
    {fault : Fault}
    (h : (registry.invokeNow name none (Calendar.Service.step change) s).1 = .error fault) :
    fault.code.status ∈ [403, 404, 409] := by
  unfold Registry.invokeNow at h
  by_cases hadmits : Registry.Admits (registry.advices name) Access.Caller.unknown
  · obtain ⟨s₁, -, hresult, -⟩ := Registry.surround_admitted hr name hadmits
      (Calendar.Service.step change) s
    have hrefused : (change s₁.data).1.mapError Calendar.Service.faultOf = .error fault := by
      rw [← h, Option.getD_none, hresult, Calendar.Service.step_eq]
    cases hchange : (change s₁.data).1 with
    | ok value =>
      rw [hchange] at hrefused
      cases hrefused
    | error refusal =>
      rw [hchange] at hrefused
      cases hrefused
      cases refusal <;> simp [Calendar.Service.faultOf, Calendar.Service.notFound, Fault.code,
        Code.status]
  · rw [Option.getD_none, (Registry.surround_rejected hr name hadmits _ s).1] at h
    cases h
    simp [Fault.code, Code.status]

theorem status_submits (hr : app.registry.recorder.KeepsData)
    (h : Submits r route verb controller service json) {s : Session Store} {fault : Fault}
    (hfault : (service app.registry s).1 = .error fault) : fault.code.status ∈ [403, 404, 409] := by
  cases h <;> exact status_invokeNow_step hr hfault

/-- No response of the service has the status of a refusal for the size. -/
theorem status_reaches (hr : app.registry.recorder.KeepsData)
    (h : Submits r route verb controller service json) {before after : Session Store}
    {response : Response} (hreaches : Reaches (service app.registry) json before response after) :
    response.status ∈ [200, 403, 404, 409] := by
  obtain ⟨s₁, -, hrelays, -⟩ := hreaches
  cases houtcome : (service app.registry s₁).1 with
  | ok value =>
    rw [houtcome] at hrelays
    obtain ⟨e, -, hstatus, -⟩ := hrelays
    simp [hstatus]
  | error fault =>
    rw [houtcome] at hrelays
    obtain ⟨e, -, hstatus, -⟩ := hrelays
    have hfault := status_submits hr h houtcome
    rw [hstatus]
    exact List.mem_cons_of_mem _ hfault

theorem status_refusesCut {response : Response} (h : RefusesCut response) :
    response.status = 400 := by
  obtain ⟨e, -, hstatus, -⟩ := h
  exact hstatus

theorem not_refusesCut {response : Response} (h : RefusesAnnounced response) :
    ¬ RefusesCut response := by
  intro hcut
  have hstatus := status_refusesCut hcut
  rw [h.1] at hstatus
  cases hstatus

theorem not_refused_of_reaches (hr : app.registry.recorder.KeepsData)
    (h : Submits r route verb controller service json) {before after : Session Store}
    {response : Response} (hreaches : Reaches (service app.registry) json before response after) :
    ¬ RefusesAnnounced response ∧ ¬ RefusesCut response := by
  have hstatus := status_reaches hr h hreaches
  constructor
  · intro hrefused
    rw [hrefused.1] at hstatus
    revert hstatus
    decide
  · intro hcut
    rw [status_refusesCut hcut] at hstatus
    revert hstatus
    decide

/-- An announcement that is true decides by the length of the body. -/
theorem isTooLong_iff (hlength : announcedLength r = none ∨ announcedLength r = some r.body.length) :
    app.isTooLong r = true ↔
      announcedLength r = some r.body.length ∧ app.settings.security.maxBodySize < r.body.length := by
  unfold isTooLong
  rcases hlength with h | h <;> simp [h]

/-- An announcement that is true does not change where the body is cut. -/
theorem bodyLimit_lt_iff
    (hlength : announcedLength r = none ∨ announcedLength r = some r.body.length) :
    bodyLimit app r < r.body.length ↔
      min app.settings.security.maxBodySize readLimit < r.body.length := by
  unfold bodyLimit
  rcases hlength with h | h
  · rw [h]
  · rw [h]
    show min (min _ _) _ < _ ↔ _
    omega

/-- **Which bodies are refused for their size.** A valid body whose length is
    not announced or announced as it is, from a caller who is turned away
    neither by the write guard nor by a guard of the controller operation, is
    refused iff it is longer than the size of the settings or than `readLimit`:
    with 413 where the announcement is more than that size, and else as not
    readable. Every other body gets to the service. -/
theorem refusedForSize_iff (settings : Settings) (start : Session Store) :
    let app := (build settings start).1
    let size := settings.security.maxBodySize
    ∀ {α : Type} (r : Request) (route : Route) (verb : Route.Verb) (controller : String)
      (service : Registry Store → Work Store (Outcome α)) (json : α → Json),
    Submits r route verb controller service json →
    MediaType.saysJson r.headers = true →
    (announcedLength r = none ∨ announcedLength r = some r.body.length) →
    (writeGuard settings).allowed.admits (app.caller r) = true →
    Registry.Admits (app.registry.advices controller) (app.caller r) →
    ∀ s : Session Store,
    let response := (app.answer r s).1
    let announced := announcedLength r = some r.body.length ∧ size < r.body.length
    (RefusesAnnounced response ∨ RefusesCut response ↔ min size readLimit < r.body.length) ∧
      (RefusesAnnounced response ↔ announced) ∧
      (RefusesCut response ↔ ¬ announced ∧ min size readLimit < r.body.length) ∧
      (r.body.length ≤ min size readLimit →
        Reaches (service app.registry) json s response (app.answer r s).2) := by
  intro app size α r route verb controller service json h htype hlength hguard hadmits s
    response announced
  have hr : app.registry.recorder.KeepsData := Recorder.keepsData_standard
  have hannounced : app.isTooLong r = true ↔ announced := isTooLong_iff hlength
  have hlimit : bodyLimit app r < r.body.length ↔ min size readLimit < r.body.length :=
    bodyLimit_lt_iff hlength
  by_cases hlong : app.isTooLong r = true
  · -- the announcement is enough
    have hrefused : RefusesAnnounced response := answer_announced h hlong s
    have hcut : ¬ RefusesCut response := not_refusesCut hrefused
    have hover := hannounced.mp hlong
    have hmin : min size readLimit < r.body.length :=
      Nat.lt_of_le_of_lt (Nat.min_le_left _ _) hover.2
    refine ⟨iff_of_true (.inl hrefused) hmin, iff_of_true hrefused hover,
      iff_of_false hcut fun hno => hno.1 hover, ?_⟩
    intro hwithin
    exact absurd hmin (Nat.not_lt.mpr hwithin)
  · have hunannounced : ¬ announced := fun hyes => hlong (hannounced.mpr hyes)
    have hshort : app.isTooLong r = false := Bool.eq_false_iff.mpr hlong
    by_cases hover : bodyLimit app r < r.body.length
    · -- the reader stops at the limit
      have hcut : RefusesCut response := answer_cut htype h hguard hshort hover s
      have hrefused : ¬ RefusesAnnounced response := fun h => not_refusesCut h hcut
      have hmin := hlimit.mp hover
      refine ⟨iff_of_true (.inr hcut) hmin, iff_of_false hrefused hunannounced,
        iff_of_true hcut ⟨hunannounced, hmin⟩, ?_⟩
      intro hwithin
      exact absurd hmin (Nat.not_lt.mpr hwithin)
    · -- the body is read, and the service answers
      have hreaches : Reaches (service app.registry) json s response (app.answer r s).2 :=
        answer_reaches hr htype h hguard hadmits hshort (Nat.not_lt.mp hover) s
      obtain ⟨hrefused, hcut⟩ := not_refused_of_reaches hr h hreaches
      have hmin : ¬ min size readLimit < r.body.length := fun hmin => hover (hlimit.mpr hmin)
      exact ⟨iff_of_false (fun hsome => hsome.elim hrefused hcut) hmin,
        iff_of_false hrefused hunannounced, iff_of_false hcut fun hno => hmin hno.2,
        fun _ => hreaches⟩

/-! ### A body that is mostly blank -/

/-- The bytes of a small holiday. -/
def smallHoliday : List UInt8 :=
  Text.Utf8.encode "\x7b\"holidayDate\":\"2025-01-01\",\"name\":\"New Year\"\x7d"

/-- A creation that the machine itself asks for, without a body yet. -/
def creation : Request where
  method := "POST"
  target := "/api/holidays"
  headers := .ofTexts [("Content-Type", "application/json")]
  peer := some (.v4 (.ofOctets 127 0 0 1))

/-- The creation of the small holiday, with this many blanks in front of it. -/
def blankLed (n : Nat) : Request :=
  { creation with body := List.replicate n 0x20 ++ smallHoliday }

theorem length_blankLed (n : Nat) : (blankLed n).body.length = n + 46 := by
  have hsmall : smallHoliday.length = 46 := by decide +kernel
  show (List.replicate n 0x20 ++ smallHoliday).length = n + 46
  rw [List.length_append, List.length_replicate, hsmall]

theorem units_blankLed (n : Nat) : Text.Utf8.units (blankLed n).body =
    List.replicate n (some ' ') ++ Text.Utf8.units smallHoliday := by
  have hsmall : ∀ b ∈ smallHoliday, b < 0x80 := by decide +kernel
  have hall : ∀ b ∈ List.replicate n (0x20 : UInt8) ++ smallHoliday, b < 0x80 := by
    intro b hb
    rcases List.mem_append.mp hb with hblank | hb
    · rw [List.eq_of_mem_replicate hblank]
      decide
    · exact hsmall b hb
  show Text.Utf8.units (List.replicate n 0x20 ++ smallHoliday) = _
  rw [Text.Utf8.units_ascii hall, Text.Utf8.units_ascii hsmall, List.map_append, List.map_replicate]
  rfl

/-- The blanks do not change what the body says. -/
theorem says_blankLed (n : Nat) :
    Says (blankLed n) Draft.createDecoder Calendar.Service.newYear := by
  have hsmall : ∀ b ∈ smallHoliday, b < 0x80 := by decide +kernel
  have hwhole : (Data.JsonText.read (smallHoliday.map fun b => some (Char.ofNat b.toNat))).1.isWhole =
      true := by decide +kernel
  have hblank : ∀ unit ∈ List.replicate n (some ' '), Data.JsonText.isBlank unit = true := by
    intro unit hunit
    rw [List.eq_of_mem_replicate hunit]
    rfl
  unfold Says
  rw [units_blankLed, Text.Utf8.units_ascii hsmall, Data.JsonText.decode_append _ hblank hwhole]
  decide +kernel

theorem submits_blankLed (n : Nat) :
    Submits (blankLed n) .holidays .post "HolidayController.create"
      (fun registry => Calendar.Service.create registry Calendar.Service.newYear) Holiday.json :=
  .create rfl (by decide +kernel : Route.ofTarget? "/api/holidays" = some .holidays)
    (says_blankLed n)

theorem saysJson_blankLed (n : Nat) : MediaType.saysJson (blankLed n).headers = true := by
  show MediaType.saysJson creation.headers = true
  decide +kernel

theorem announcedLength_blankLed (n : Nat) : announcedLength (blankLed n) = none := by
  show announcedLength creation = none
  decide +kernel

/-- The standard settings, but for the size of bodies. -/
def sized (size : Nat) : Settings := { security := { maxBodySize := size } }

/-- Whatever the size is, no guard turns the machine itself away. -/
theorem admits_blankLed (size n : Nat) :
    let app := (build (sized size) { data := {} }).1
    (writeGuard (sized size)).allowed.admits (app.caller (blankLed n)) = true ∧
      Registry.Admits (app.registry.advices "HolidayController.create")
        (app.caller (blankLed n)) := by
  intro app
  -- neither the guards nor the believed peers depend on the size
  have hwrite : writeGuard (sized size) = writeGuard {} := rfl
  have hdeclared : declarations (sized size) = declarations {} := rfl
  have happ : app = ⟨sized size, (declarations {}).registry .standard⟩ := by
    rw [← hdeclared]
    exact (build_eq (sized size) { data := {} }).1
  have hcaller : caller ⟨sized size, (declarations {}).registry .standard⟩ (blankLed n) =
      Access.Caller.resolve creation.headers creation.peer .loopback := rfl
  have hname : Access.Caller.resolve creation.headers creation.peer .loopback =
      "127.0.0.1" := by decide +kernel
  have hguards : ((declarations {}).registry (Recorder.standard : Recorder Store)).guards
      "HolidayController.create" = [] := by decide +kernel
  rw [hwrite, happ, hcaller, hname]
  refine ⟨by decide +kernel, ?_⟩
  intro guard hmem
  unfold Registry.guards at hguards
  rw [hguards] at hmem
  cases hmem

/-- The small holiday gets to the service under the standard settings. -/
theorem refusedForSize_iff_blankLed :
    let app := (build {} { data := {} }).1
    let r := blankLed 3
    let answered := app.answer r { data := {} }
    MediaType.saysJson r.headers = true ∧ announcedLength r = none ∧
      (writeGuard {}).allowed.admits (app.caller r) = true ∧
      Registry.Admits (app.registry.advices "HolidayController.create") (app.caller r) ∧
      ¬ RefusesAnnounced answered.1 ∧ ¬ RefusesCut answered.1 ∧
      Reaches (Calendar.Service.create app.registry Calendar.Service.newYear) Holiday.json
        { data := {} } answered.1 answered.2 := by
  intro app r answered
  have htype : MediaType.saysJson r.headers = true := saysJson_blankLed 3
  have hlength : announcedLength r = none := announcedLength_blankLed 3
  obtain ⟨hguard, hadmits⟩ := admits_blankLed (2 * 1024 * 1024) 3
  obtain ⟨heither, -, -, hreaches⟩ := refusedForSize_iff {} { data := {} } r _ _ _ _ _
    (submits_blankLed 3) htype (.inl hlength) hguard hadmits { data := {} }
  have hwithin : r.body.length ≤ min ({} : Settings).security.maxBodySize readLimit := by
    rw [length_blankLed]
    decide
  have hneither := mt heither.mp (Nat.not_lt.mpr hwithin)
  exact ⟨htype, hlength, hguard, hadmits, fun h => hneither (.inl h), fun h => hneither (.inr h),
    hreaches hwithin⟩

/-- A body that is shorter than the settings allow is refused for its size. -/
theorem blankLed_refused :
    let app := (build (sized 3000000) { data := {} }).1
    let r := blankLed 2100000
    ((sized 3000000).check (σ := Store) { data := {} }).1 = .ok () ∧
      Submits r .holidays .post "HolidayController.create"
        (fun registry => Calendar.Service.create registry Calendar.Service.newYear) Holiday.json ∧
      MediaType.saysJson r.headers = true ∧ announcedLength r = none ∧
      (writeGuard (sized 3000000)).allowed.admits (app.caller r) = true ∧
      Registry.Admits (app.registry.advices "HolidayController.create") (app.caller r) ∧
      r.body.length ≤ (sized 3000000).security.maxBodySize ∧
      RefusesCut (app.answer r { data := {} }).1 := by
  intro app r
  obtain ⟨hguard, hadmits⟩ := admits_blankLed 3000000 2100000
  have hlength : r.body.length = 2100046 := length_blankLed 2100000
  have hannounced : announcedLength r = none := announcedLength_blankLed 2100000
  have hshort : app.isTooLong r = false := by
    refine isTooLong_eq_false ?_
    intro n hn
    rw [hannounced] at hn
    cases hn
  have hlong : bodyLimit app r < r.body.length := by
    rw [bodyLimit_lt_iff (.inl hannounced), hlength]
    show min 3000000 2097152 < 2100046
    decide
  refine ⟨by rfl, submits_blankLed _, saysJson_blankLed _, hannounced, hguard, hadmits, ?_, ?_⟩
  · rw [hlength]
    show 2100046 ≤ 3000000
    decide
  · exact answer_cut (saysJson_blankLed _) (submits_blankLed _) hguard hshort hlong { data := {} }

end Application
end HolidayApi.Web
