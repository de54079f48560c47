import HolidayApi.Proofs.Calendar.Writes
import HolidayApi.Web.Application

/-! # What requests do to the store

    A request changes rows or index only if it is a write that is answered as
    a success, and then it changes what it addresses and nothing else. There
    are many ways to fail: the size, the route, the method, three guards, the
    path, the body, the service. None of them writes first and fails later.

    * `Written` says what a success did, by resource, method and answer.
    * `writes_perform` is the contract of the controller operations, through
      advices and service down to the store.
    * `Effect` says it of a response: any other status than that of a success
      means that nothing was touched, and so does a method that only reads.
    * `answer_cases` is one request, `answer_effect` any of them in any state
      that requests lead to.
-/

namespace HolidayApi.Web

open HolidayApi.Calendar (Draft Holiday Store Writes)
open HolidayApi.Calendar.Store (Adds Removes Rewrites Untouched)
open HolidayApi.Call (Recorder Registry Session Work)
open HolidayApi.Data (Json)

/-- What a write that is answered as a success did, by the resource, the
    method and the data of the answer. -/
inductive Written (before after : Store) : Route → Route.Verb → Json → Prop where
  /-- The one returned row is new. -/
  | created (h : Holiday) : Adds before after [h] → Written before after .holidays .post h.json
  /-- The returned rows are new. -/
  | createdAll (holidays : List Holiday) : Adds before after holidays →
      Written before after .bulk .post (.list (holidays.map Holiday.json))
  /-- The row of the path's id holds the returned row now. -/
  | updated (raw : String) (id : Int) (h : Holiday) :
      Parameter.readAll [.id raw] = .ok [id] → h.id = id.toNat → Rewrites before after h →
      Written before after (.item raw) .put h.json
  /-- The row of the path's id is gone. -/
  | deleted (raw : String) (id : Int) :
      Parameter.readAll [.id raw] = .ok [id] → Removes before after id.toNat →
      Written before after (.item raw) .delete .null

/-! ### Parameters -/

namespace Parameter

theorem length_texts {ps : List Parameter} {ts : List (Parameter × String)}
    (h : texts ps = .ok ts) : ts.length = ps.length := by
  induction ps generalizing ts with
  | nil =>
    cases h
    rfl
  | cons p rest ih =>
    unfold texts at h
    split at h
    · cases h
    · cases hrest : texts rest with
      | error e => rw [hrest] at h; cases h
      | ok ts' =>
        rw [hrest] at h
        cases h
        rw [List.length_cons, List.length_cons, ih hrest]

theorem length_numbers {single : Bool} {index : Nat} {ts : List (Parameter × String)}
    {ns : List Int} (h : numbers single index ts = .ok ns) : ns.length = ts.length := by
  induction ts generalizing index ns with
  | nil =>
    cases h
    rfl
  | cons t rest ih =>
    obtain ⟨p, text⟩ := t
    unfold numbers at h
    split at h
    · cases h
    · cases hrest : numbers single (index + 1) rest with
      | error e => rw [hrest] at h; cases h
      | ok ns' =>
        rw [hrest] at h
        cases h
        rw [List.length_cons, List.length_cons, ih hrest]

theorem length_readAll {ps : List Parameter} {ns : List Int} (h : readAll ps = .ok ns) :
    ns.length = ps.length := by
  unfold readAll at h
  split at h
  · next ts hts => rw [length_numbers h, length_texts hts]
  · cases h

end Parameter

namespace Application

variable {α : Type} {app : Application} {done : α → Store → Store → Prop}

/-! ### Controller operations -/

/-- The work makes the envelope of a success around these data. -/
structure MakesSuccess (work : Work Store Envelope) (data : Json) : Prop where
  status : ∀ s, (work s).1.status = 200
  data : ∀ s, (work s).1.data = data
  keepsData : work.KeepsData

theorem makesSuccess_single (h : Holiday) : MakesSuccess (single h) h.json :=
  ⟨fun _ => rfl, fun _ => rfl, fun _ => rfl⟩

theorem makesSuccess_listing (holidays : List Holiday) : MakesSuccess (listing holidays)
    (.object [("holidays", .list (holidays.map Holiday.json))]) :=
  ⟨fun _ => rfl, fun _ => rfl, fun _ => rfl⟩

theorem makesSuccess_created (holidays : List Holiday) :
    MakesSuccess (created holidays) (.list (holidays.map Holiday.json)) :=
  ⟨fun _ => rfl, fun _ => rfl, fun _ => rfl⟩

theorem makesSuccess_null : MakesSuccess (Envelope.success .null) .null :=
  ⟨fun _ => rfl, fun _ => rfl, fun _ => rfl⟩

/-- What the service writes is what the controller writes; the value is put
    into the envelope of a success. -/
theorem writes_control (hr : app.registry.recorder.KeepsData) {operation caller : String}
    {service : Registry Store → Work Store (Outcome α)} {wrap : α → Work Store Envelope}
    {json : α → Json} (hservice : Writes (service app.registry) done)
    (hwrap : ∀ value, MakesSuccess (wrap value) (json value)) :
    Writes (app.control operation caller service wrap) fun e before after =>
      ∃ value, (e.status = 200 ∧ e.data = json value) ∧ done value before after := by
  refine Writes.invokeNow hr _ _ (Writes.bind hservice ?_ ?_ ?_)
  · -- what follows the service only makes the envelope
    intro outcome
    cases outcome with
    | error fault => exact Work.KeepsData.of_pure _
    | ok value =>
      exact Work.KeepsData.bind (hwrap value).keepsData fun _ => Work.KeepsData.of_pure _
  · intro value s
    exact ⟨(wrap value s).1, rfl, (hwrap value).status s, (hwrap value).data s⟩
  · intro fault s
    rfl

/-! ### Resources -/

/-- What a success on a resource did: a write did what its answer says, and
    all else touched nothing. -/
def Succeeded (route : Route) (verb : Route.Verb) (e : Envelope) (before after : Store) : Prop :=
  e.status = 200 ∧
    if isWrite route verb then Written before after route verb e.data else Untouched before after

/-- A controller operation that reads. -/
theorem succeeded_read (hr : app.registry.recorder.KeepsData) {operation caller : String}
    {service : Registry Store → Work Store (Outcome α)} {wrap : α → Work Store Envelope}
    {json : α → Json} {route : Route} {verb : Route.Verb} (hread : isWrite route verb = false)
    (hservice : Writes (service app.registry) fun _ before after => Untouched before after)
    (hwrap : ∀ value, MakesSuccess (wrap value) (json value)) :
    Writes (app.control operation caller service wrap) (Succeeded route verb) := by
  refine (writes_control hr hservice hwrap).mono ?_
  intro e before after ⟨value, ⟨hstatus, _⟩, hsame⟩
  refine ⟨hstatus, ?_⟩
  rw [hread]
  exact hsame

/-- A controller operation that writes. -/
theorem succeeded_write (hr : app.registry.recorder.KeepsData) {operation caller : String}
    {service : Registry Store → Work Store (Outcome α)} {wrap : α → Work Store Envelope}
    {json : α → Json} {route : Route} {verb : Route.Verb} (hwrite : isWrite route verb = true)
    (hservice : Writes (service app.registry) done)
    (hwrap : ∀ value, MakesSuccess (wrap value) (json value))
    (hwritten : ∀ value before after, done value before after →
      Written before after route verb (json value)) :
    Writes (app.control operation caller service wrap) (Succeeded route verb) := by
  refine (writes_control hr hservice hwrap).mono ?_
  intro e before after ⟨value, ⟨hstatus, hdata⟩, hdone⟩
  refine ⟨hstatus, ?_⟩
  rw [if_pos hwrite, hdata]
  exact hwritten value before after hdone

/-- **The controller operations write what they answer.** Only verbs that the
    resource accepts come here. -/
theorem writes_perform (hr : app.registry.recorder.KeepsData) (r : Request) {route : Route}
    {verb : Route.Verb} (haccepts : route.accepts verb = true) :
    Writes (app.perform r route verb) (Succeeded route verb) := by
  unfold perform
  cases hnumbers : Parameter.readAll (parameters route) with
  | error e => exact Writes.of_error _
  | ok numbers =>
    -- there are as many numbers as parameters, which picks the operation
    have hlength := Parameter.length_readAll hnumbers
    cases route with
    | health =>
      exact Writes.of_keepsData (fun _ => rfl) fun s e h => by
        cases h
        exact ⟨rfl, Untouched.refl s.data⟩
    | year raw =>
      obtain ⟨y, rfl⟩ := List.length_eq_one_iff.mp hlength
      exact succeeded_read hr rfl (Calendar.Service.writes_findByYear hr y) makesSuccess_listing
    | month rawYear rawMonth =>
      obtain ⟨y, m, rfl⟩ := List.length_eq_two.mp hlength
      exact succeeded_read hr rfl (Calendar.Service.writes_findByYearAndMonth hr y m.toNat)
        makesSuccess_listing
    | day rawYear rawMonth rawDay =>
      obtain ⟨y, m, d, rfl⟩ := List.length_eq_three.mp hlength
      exact succeeded_read hr rfl (Calendar.Service.writes_findByDate hr y m.toNat d.toNat)
        makesSuccess_listing
    | holidays =>
      simp only
      cases app.payload Draft.createDecoder r with
      | error u => exact Writes.of_error _
      | ok draft =>
        cases verb with
        | get | put | delete => cases haccepts
        | post =>
          exact succeeded_write hr rfl (Calendar.Service.writes_create hr draft)
            makesSuccess_single fun h _ _ => .created h
    | bulk =>
      simp only
      cases app.payload Calendar.draftsDecoder r with
      | error u => exact Writes.of_error _
      | ok drafts =>
        cases verb with
        | get | put | delete => cases haccepts
        | post =>
          exact succeeded_write hr rfl (Calendar.Service.writes_createAll hr drafts)
            makesSuccess_created fun holidays _ _ => .createdAll holidays
    | item raw =>
      obtain ⟨id, rfl⟩ := List.length_eq_one_iff.mp hlength
      cases verb with
      | post => cases haccepts
      | get =>
        exact succeeded_read hr rfl (Calendar.Service.writes_findById hr id.toNat)
          makesSuccess_single
      | put =>
        simp only
        cases app.payload Draft.updateDecoder r with
        | error u => exact Writes.of_error _
        | ok draft =>
          exact succeeded_write hr rfl (Calendar.Service.writes_update hr id.toNat draft)
            makesSuccess_single fun h _ _ hdone => .updated raw id h hnumbers hdone.1 hdone.2
      | delete =>
        exact succeeded_write hr rfl (Calendar.Service.writes_delete hr id.toNat)
          (fun _ => makesSuccess_null) fun _ _ _ => .deleted raw id hnumbers

/-- The write guard does not change what a resource writes. -/
theorem writes_guarded (hr : app.registry.recorder.KeepsData) (r : Request) {route : Route}
    {verb : Route.Verb} (haccepts : route.accepts verb = true) :
    Writes (app.guarded r route verb) (Succeeded route verb) := by
  unfold guarded
  split
  · exact Writes.protect _ _ (writes_perform hr r haccepts)
  · exact writes_perform hr r haccepts

/-! ### Responses -/

theorem status_ne_ok (code : Code) : code.status ≠ 200 := by cases code <;> decide

theorem respond_error (id : RequestId) (fault : Fault) (s : Session Store) :
    (respond id (.error fault) s).1.status = fault.code.status ∧
    (respond id (.error fault) s).2.data = s.data := by
  cases fault <;> exact ⟨rfl, rfl⟩

/-- What a response tells about the store: another status than 200 that
    nothing was touched, and the status 200 what `Succeeded` says. -/
def Tells (r : Request) (response : Response) (before after : Store) : Prop :=
  response.status ≠ 200 ∧ Untouched before after ∨
  ∃ route verb e, Route.ofTarget? r.target = some route ∧
    Route.Verb.ofMethod? r.method = some verb ∧ route.accepts verb = true ∧
    response.body = .envelope e ∧ response.status = 200 ∧ Succeeded route verb e before after

/-- The work answers the request with a response that tells what it did. -/
def Answers (r : Request) (work : Work Store Response) : Prop :=
  ∀ s : Session Store, s.data.Indexed →
    (work s).2.data.Indexed ∧ Tells r (work s).1 s.data (work s).2.data

theorem answers_refusal (r : Request) {response : Response} (hstatus : response.status ≠ 200) :
    Answers r (pure response) := by
  intro s hs
  exact ⟨hs, Or.inl ⟨hstatus, Untouched.refl s.data⟩⟩

/-- The scope moves the slot only. -/
theorem answers_inScope {r : Request} {work : Work Store Response} (seed : Option Call.Id)
    (hwork : Answers r work) : Answers r (Work.inScope seed work) := by
  intro s hs
  obtain ⟨hresponse, hdata⟩ := Work.data_inScope seed work s
  rw [hresponse, hdata]
  exact hwork (s.enter { seed }) hs

/-- A resource that accepts the verb. -/
theorem answers_guarded (hr : app.registry.recorder.KeepsData) (r : Request) (id : RequestId)
    {route : Route} {verb : Route.Verb} (htarget : Route.ofTarget? r.target = some route)
    (hmethod : Route.Verb.ofMethod? r.method = some verb) (haccepts : route.accepts verb = true) :
    Answers r (app.guarded r route verb >>= respond id) := by
  intro s hs
  obtain ⟨hindexed, houtcome⟩ := writes_guarded hr r haccepts s hs
  rw [Work.bind_run]
  cases hvalue : (app.guarded r route verb s).1 with
  | error fault =>
    -- no fault has the status of a success
    rw [hvalue] at houtcome
    obtain ⟨hstatus, hdata⟩ := respond_error id fault (app.guarded r route verb s).2
    rw [hdata]
    refine ⟨hindexed, Or.inl ⟨?_, houtcome⟩⟩
    rw [hstatus]
    exact status_ne_ok fault.code
  | ok e =>
    rw [hvalue] at houtcome
    exact ⟨hindexed, Or.inr ⟨route, verb, e, htarget, hmethod, haccepts, rfl, houtcome.1, houtcome⟩⟩

theorem answers_route (hr : app.registry.recorder.KeepsData) (r : Request) (id : RequestId) :
    Answers r (app.route r id) := by
  unfold route
  split
  · -- no resource
    split
    · exact answers_refusal r (by simp [tooLong])
    · exact answers_refusal r (by simp)
  · next route htarget =>
    split
    · -- no method of the resource
      split
      · exact answers_refusal r (by simp [tooLong])
      · exact answers_refusal r (by simp)
    · next verb hverb =>
      obtain ⟨hmethod, haccepts⟩ := Option.filter_eq_some_iff.mp hverb
      split
      · exact answers_refusal r (by simp [tooLong])
      · exact answers_inScope id.seed (answers_guarded hr r id htarget hmethod haccepts)

/-- Taking an id from a request changes the number of issued ids at most. -/
theorem requestId_run (r : Request) (s : Session Store) :
    ∃ (id : RequestId) (issued : Nat), requestId r s = (id, { s with issued }) := by
  unfold requestId
  cases r.headers.first? "x-request-id" with
  | some value => exact ⟨.sent value, s.issued, rfl⟩
  | none => exact ⟨.issued (.fresh s.issued), s.issued + 1, rfl⟩

theorem keepsData_requestId (r : Request) : (requestId r).KeepsData := by
  intro s
  obtain ⟨id, issued, hid⟩ := requestId_run r s
  rw [hid]

/-- The answer is that of the route, under an id whose issue leaves the data
    alone. Only in answer to `HEAD` the body is dropped. -/
theorem answer_of_route (app : Application) (r : Request) (s : Session Store) :
    ∃ (id : RequestId) (s₁ : Session Store), s₁.data = s.data ∧
      (app.answer r s).1.status = (app.route r id s₁).1.status ∧
      (app.answer r s).2.data = (app.route r id s₁).2.data ∧
      (r.method ≠ "HEAD" → (app.answer r s).1.body = (app.route r id s₁).1.body) := by
  refine ⟨(requestId r s).1, (requestId r s).2, keepsData_requestId r s, ?_⟩
  unfold answer
  rw [Work.bind_run, Work.bind_run]
  split
  · next hhead =>
    have hmethod : r.method = "HEAD" := by
      rw [Bool.and_eq_true, decide_eq_true_eq] at hhead
      exact hhead.1
    exact ⟨rfl, rfl, fun hne => absurd hmethod hne⟩
  · exact ⟨rfl, rfl, fun _ => rfl⟩

/-- Among the verbs that a resource accepts, all but `get` write. -/
theorem isWrite_iff_ne_get {route : Route} {verb : Route.Verb}
    (haccepts : route.accepts verb = true) : isWrite route verb = true ↔ verb ≠ .get := by
  cases route <;> cases verb <;> simp_all [isWrite, Route.accepts]

/-- Among the verbs that a resource accepts, those that write are those of
    the methods that write. -/
theorem isWrite_iff {method : String} {route : Route} {verb : Route.Verb}
    (hmethod : Route.Verb.ofMethod? method = some verb) (haccepts : route.accepts verb = true) :
    isWrite route verb = true ↔ method ∈ ["POST", "PUT", "DELETE"] := by
  rw [isWrite_iff_ne_get haccepts]
  unfold Route.Verb.ofMethod? at hmethod
  split at hmethod
  · next h =>
    cases hmethod
    rcases h with h | h
    · simp [h]
    · simp [h]
  split at hmethod
  · next h => cases hmethod; simp [h]
  split at hmethod
  · next h => cases hmethod; simp [h]
  split at hmethod
  · next h => cases hmethod; simp [h]
  · cases hmethod

/-- The effect of a request, read off its method and its answer. -/
structure Effect (r : Request) (response : Response) (before after : Store) : Prop where
  /-- All that is no success of a write touches nothing. -/
  untouched : response.status ≠ 200 ∨ r.method ∉ ["POST", "PUT", "DELETE"] →
    Untouched before after
  /-- A write that succeeds did what its answer says. -/
  written : response.status = 200 → r.method ∈ ["POST", "PUT", "DELETE"] →
    ∃ route verb e, Route.ofTarget? r.target = some route ∧
      Route.Verb.ofMethod? r.method = some verb ∧ response.body = .envelope e ∧
      Written before after route verb e.data

/-- **A request does what its method and its answer say.** -/
theorem answer_cases (hr : app.registry.recorder.KeepsData) (r : Request) {s : Session Store}
    (hs : s.data.Indexed) :
    (app.answer r s).2.data.Indexed ∧
    Effect r (app.answer r s).1 s.data (app.answer r s).2.data := by
  obtain ⟨id, s₁, hdata, hstatus, hfinal, hbody⟩ := answer_of_route app r s
  have hs₁ : s₁.data.Indexed := by rw [hdata]; exact hs
  obtain ⟨hindexed, htells⟩ := answers_route hr r id s₁ hs₁
  rw [hdata] at htells
  rw [hfinal]
  refine ⟨hindexed, ?_⟩
  rcases htells with ⟨hfailed, hsame⟩ |
    ⟨route, verb, e, htarget, hmethod, haccepts, henvelope, hok, _, hdone⟩
  · -- the route failed
    constructor
    · intro _
      exact hsame
    · intro hok
      rw [hstatus] at hok
      exact absurd hok hfailed
  · by_cases hwrite : r.method ∈ ["POST", "PUT", "DELETE"]
    · rw [if_pos ((isWrite_iff hmethod haccepts).mpr hwrite)] at hdone
      -- a write is no `HEAD`, so the answer has the body of the route
      have hhead : r.method ≠ "HEAD" := by
        intro h
        rw [h] at hwrite
        revert hwrite
        decide
      constructor
      · rintro (hfailed | hread)
        · exact absurd (hstatus.trans hok) hfailed
        · exact absurd hwrite hread
      · intro _ _
        exact ⟨route, verb, e, htarget, hmethod, (hbody hhead).trans henvelope, hdone⟩
    · rw [if_neg (fun h => hwrite ((isWrite_iff hmethod haccepts).mp h))] at hdone
      constructor
      · intro _
        exact hdone
      · intro _ h
        exact absurd h hwrite

/-! ### Runs -/

/-- The application of the settings with an empty store, and the state after
    it has answered these requests. -/
def afterRequests (settings : Settings) (start : Session Store) (requests : List Request) :
    Application × Session Store :=
  let built := build settings { start with data := {} }
  (built.1, (requests.mapM built.1.answer built.2).2)

theorem run_indexed (hr : app.registry.recorder.KeepsData) (requests : List Request)
    {s : Session Store} (hs : s.data.Indexed) :
    (requests.mapM app.answer s).2.data.Indexed := by
  induction requests generalizing s with
  | nil => exact hs
  | cons r rest ih =>
    -- the first answer keeps the index, and the others begin there
    have hstep : ((r :: rest).mapM app.answer s).2 =
        (rest.mapM app.answer (app.answer r s).2).2 := by
      rw [List.mapM_cons]
      rfl
    rw [hstep]
    exact ih (answer_cases hr r hs).1

theorem build_eq (settings : Settings) (s : Session Store) :
    (build settings s).1 = ⟨settings, (declarations settings).registry .standard⟩ ∧
    (build settings s).2.data = s.data := by
  refine ⟨rfl, ?_⟩
  exact Call.Declarations.keepsData_build (declarations settings) Recorder.standard s

theorem afterRequests_indexed (settings : Settings) (start : Session Store)
    (requests : List Request) :
    (afterRequests settings start requests).1.registry.recorder.KeepsData ∧
    (afterRequests settings start requests).2.data.Indexed := by
  obtain ⟨happ, hdata⟩ := build_eq settings { start with data := {} }
  have hr : (build settings { start with data := {} }).1.registry.recorder.KeepsData := by
    rw [happ]
    exact Recorder.keepsData_standard
  have hempty : (build settings { start with data := {} }).2.data.Indexed := by
    rw [hdata]
    exact Calendar.Store.indexed_empty
  exact ⟨hr, run_indexed hr requests hempty⟩

/-- **Requests do what their answers say**, whatever the settings are and
    whatever was asked before, and the index stays the inverse of the rows. -/
theorem answer_effect (settings : Settings) (start : Session Store) (earlier : List Request)
    (r : Request) :
    let app := (afterRequests settings start earlier).1
    let before := (afterRequests settings start earlier).2
    Effect r (app.answer r before).1 before.data (app.answer r before).2.data ∧
      (app.answer r before).2.data.Indexed := by
  intro app before
  obtain ⟨hr, hindexed⟩ := afterRequests_indexed settings start earlier
  obtain ⟨hafter, heffect⟩ := answer_cases hr r hindexed
  exact ⟨heffect, hafter⟩

end Application
end HolidayApi.Web
