import HolidayApi.Proofs.Call.Chain
import HolidayApi.Proofs.Web.Tracing

/-! # Answers and the lines of their call trees

    A request has an id, its answer may carry one, and so do the lines of the
    call trees that are logged for it.

    * All lines of a request are of one chain, for a controller operation
      calls one service operation and nothing else opens a span
      (`oneChain_plan`).
    * The envelope of a success is made within the controller operation, and
      so within its span if that is traced. All other envelopes are made where
      no span is open, and then the seed of the scope stands in for the chain
      (`found_guarded`, `respond_found`).
    * `answer_correlated` puts this together for any request. If its id names
      something, chain and seed are the same (`answer_underOneId`); if it does
      not, only envelopes from within a span show the chain
      (`envelope_names_tree_iff`).
-/

namespace HolidayApi.Web.Application

open HolidayApi.Calendar (Store)
open HolidayApi.Calendar.Service (RunsUnder)
open HolidayApi.Call (Event Id Recorder Registry Session Slot Work)
open HolidayApi.Data (Json)

variable {α : Type} {app : Application} {r : Request} {route : Route} {verb : Route.Verb}

/-! ### One chain -/

theorem quiet_wrap {wrap : α → Work Store Envelope} (hwrap : Wraps wrap) (value : α) :
    (wrap value).Quiet := by
  obtain ⟨size, data, hwrap⟩ := hwrap
  intro s
  rw [hwrap]
  exact ⟨[], .refl s, by simp⟩

theorem quiet_ofFault (fault : Fault) : (Envelope.ofFault fault : Work Store Envelope).Quiet := by
  have hunder : ∀ code data, (Envelope.under code data : Work Store Envelope).Quiet :=
    fun code data => Work.Quiet.currentId.bind fun traceId => .of_pure _
  unfold Envelope.ofFault
  split
  · exact (Work.Quiet.tell rfl).bind fun _ => hunder _ _
  · exact hunder _ _

theorem quiet_respond (id : RequestId) (outcome : Outcome Envelope) :
    (respond id outcome).Quiet := by
  unfold respond
  cases outcome with
  | ok e => exact .of_pure _
  | error fault => exact (quiet_ofFault fault).bind fun e => .of_pure _

section StandardRecorder

variable {registry : Registry Store} (hr : registry.recorder = Recorder.standard)
include hr

theorem oneChain_service {name : String} {service : Registry Store → Work Store (Outcome α)}
    (hservice : RunsUnder name service) : (service registry).OneChain := by
  obtain ⟨step, hstep, -⟩ := hservice
  rw [hstep]
  exact Work.OneChain.invokeNow hr name none (Work.Quiet.onData step).oneChain

/-- What a controller operation calls is its service operation. -/
theorem oneChain_called {name : String} {service : Registry Store → Work Store (Outcome α)}
    {wrap : α → Work Store Envelope} (hservice : RunsUnder name service) (hwrap : Wraps wrap) :
    Work.OneChain (do
      match ← service registry with
      | .ok value => return .ok (← wrap value)
      | .error fault => return .error fault : Work Store (Outcome Envelope)) := by
  refine (oneChain_service hr hservice).bind fun outcome => ?_
  cases outcome with
  | ok value => exact (quiet_wrap hwrap value).bind fun e => .of_pure _
  | error fault => exact .of_pure _

theorem oneChain_plan {caller : String} {names : Option (String × String)} {understood : Prop}
    {plan : Registry Store → Work Store (Outcome Envelope)}
    (hplan : Plan caller names understood plan) : (plan registry).OneChain := by
  cases hplan with
  | refused fault _ _ => exact (Work.Quiet.of_pure _).oneChain
  | health _ =>
    have hhealth : health.Quiet := Work.Quiet.currentId.bind fun traceId => .of_pure _
    exact (hhealth.bind fun e => .of_pure _).oneChain
  | operation hnames hservice hwrap =>
    exact Work.OneChain.invokeNow hr _ _ (oneChain_called hr hservice hwrap)

end StandardRecorder

theorem oneChain_perform (hr : app.registry.recorder = Recorder.standard)
    (haccepts : route.accepts verb = true) : (app.perform r route verb).OneChain :=
  oneChain_plan hr (plan_perform app r haccepts)

theorem oneChain_guarded (hr : app.registry.recorder = Recorder.standard)
    (haccepts : route.accepts verb = true) : (app.guarded r route verb).OneChain := by
  unfold guarded
  split
  · exact Work.OneChain.protect _ _ (oneChain_perform hr haccepts)
  · exact oneChain_perform hr haccepts

/-! ### The id that an envelope carries -/

/-- The id that is found in a slot: by work within a span that of the chain,
    by other work what the slot shows. -/
def idFrom (slot : Slot) (n : Nat) (inside : Bool) : Option Id :=
  if inside then some (slot.chainId n) else slot.id?

/-- The envelope of a success carries the id that is found in the slot. -/
def Found (slot : Slot) (n : Nat) (inside : Bool) : Outcome Envelope → Prop
  | .ok e => e.status = 200 ∧ e.traceId = idFrom slot n inside
  | .error _ => True

/-- Whether the controller operation of a request is traced. -/
def tracesOperation (registry : Registry Store) (names : Option (String × String)) : Bool :=
  names.any fun (controller, _) => registry.isTraced controller

theorem found_controlled {registry : Registry Store} (hr : registry.recorder = Recorder.standard)
    {controller caller name : String} {service : Registry Store → Work Store (Outcome α)}
    {wrap : α → Work Store Envelope} (hservice : RunsUnder name service) (hwrap : Wraps wrap)
    (s : Session Store) :
    Found s.slot s.issued (registry.isTraced controller)
      (controlled controller caller service wrap registry s).1 := by
  have hslots := oneChain_service hr hservice
  obtain ⟨size, data, hwrap⟩ := hwrap
  -- the envelope is made where the service has closed its spans again
  have hcall : ∀ (s : Session Store) (e : Envelope),
      ((do
        match ← service registry with
        | .ok value => return .ok (← wrap value)
        | .error fault => return .error fault : Work Store (Outcome Envelope)) s).1 = .ok e →
      e.status = 200 ∧ e.traceId = s.slot.id? := by
    intro s e he
    obtain ⟨lines, hlines, -⟩ := hslots s
    rw [Work.bind_run] at he
    cases houtcome : (service registry s).1 with
    | error fault =>
      rw [houtcome] at he
      cases he
    | ok value =>
      rw [houtcome] at he
      have hwrapped : Except.ok (wrap value (service registry s).2).1 = Except.ok e := he
      rw [hwrap, hlines.slots.slot] at hwrapped
      cases hwrapped
      exact ⟨rfl, rfl⟩
  cases houtcome : (controlled controller caller service wrap registry s).1 with
  | error fault => exact trivial
  | ok e =>
    unfold controlled Registry.invokeNow at houtcome
    rw [hr] at houtcome
    exact Registry.surround_found (fun id e => e.status = 200 ∧ e.traceId = id) hcall _ s e
      houtcome

theorem found_plan {registry : Registry Store} (hr : registry.recorder = Recorder.standard)
    {caller : String} {names : Option (String × String)} {understood : Prop}
    {plan : Registry Store → Work Store (Outcome Envelope)}
    (hplan : Plan caller names understood plan) (s : Session Store) :
    Found s.slot s.issued (tracesOperation registry names) (plan registry s).1 := by
  cases hplan with
  | refused fault _ _ => exact trivial
  | health hnone =>
    subst hnone
    exact ⟨rfl, rfl⟩
  | operation hnames hservice hwrap =>
    subst hnames
    exact found_controlled hr hservice hwrap s

/-- The write guard neither opens a span nor makes an envelope. -/
theorem found_guarded (hr : app.registry.recorder = Recorder.standard)
    (haccepts : route.accepts verb = true) (s : Session Store) :
    Found s.slot s.issued (tracesOperation app.registry (operationsOf route verb))
      (app.guarded r route verb s).1 := by
  have hperform : ∀ s : Session Store, Found s.slot s.issued
      (tracesOperation app.registry (operationsOf route verb)) (app.perform r route verb s).1 :=
    found_plan hr (plan_perform app r haccepts)
  unfold guarded
  split
  · cases hadmits : (writeGuard app.settings).allowed.admits (app.caller r) with
    | true =>
      rw [Access.Guard.protect_of_admits hadmits]
      exact hperform (s.checked (app.caller r))
    | false =>
      rw [Access.Guard.protect_of_rejects hadmits]
      exact trivial
  · exact hperform s

/-- A fault is put into an envelope outside of all spans. -/
theorem respond_found {slot : Slot} {n : Nat} {inside : Bool} {outcome : Outcome Envelope}
    (h : Found slot n inside outcome) {id : RequestId} {s : Session Store} (hslot : s.slot = slot)
    {e : Envelope} (he : (respond id outcome s).1.body = .envelope e) :
    e.traceId = idFrom slot n (inside && e.status = 200) := by
  cases outcome with
  | ok made =>
    obtain ⟨hstatus, hid⟩ := h
    have hmade : Body.envelope made = .envelope e := he
    cases hmade
    rw [hid, hstatus]
    simp
  | error fault =>
    have hmade : Body.envelope (Envelope.ofFault fault s).1 = .envelope e := he
    cases hmade
    have hfault : (Envelope.ofFault fault s).1.traceId = s.slot.id? ∧
        (Envelope.ofFault fault s).1.status = fault.code.status := by
      cases fault <;> exact ⟨rfl, rfl⟩
    rw [hfault.1, hfault.2, hslot]
    simp [idFrom, status_ne_ok]

/-! ### Answers -/

/-- The operations that a request runs: that of the controller and that of the
    service. -/
def operations? (r : Request) : Option (String × String) :=
  (Route.ofTarget? r.target).bind fun route =>
    ((Route.Verb.ofMethod? r.method).filter route.accepts).bind (operationsOf route)

/-- What a response and the lines told with it have in common. -/
structure Correlated (id : RequestId) (chain : Id) (inside : Bool) (before : Session Store)
    (response : Response) (after : Session Store) : Prop where
  /-- The response is that to the request with the id. -/
  header : response.requestId = id
  /-- The lines are of one chain. -/
  lines : ∃ lines, after.events = before.events ++ lines ∧ ∀ line ∈ lines, line.InChain chain
  /-- The envelope is of the chain as well, if it was made within a span, and
      else it carries the seed. -/
  envelope : ∀ e, response.body = .envelope e →
    e.traceId = if inside && e.status = 200 then some chain else id.seed

/-- The work answers the request with this id, and what it tells and answers
    belong together. -/
def Correlates (id : RequestId) (inside : Bool) (work : Work Store Response) : Prop :=
  ∀ s : Session Store, Correlated id (({ seed := id.seed } : Slot).chainId s.issued) inside s
    (work s).1 (work s).2

theorem correlates_bare {id : RequestId} {inside : Bool} {response : Response}
    (hid : response.requestId = id) (hbare : ∀ e, response.body ≠ .envelope e) :
    Correlates id inside (pure response) := by
  intro s
  exact ⟨hid, ⟨[], (List.append_nil _).symm, by simp⟩, fun e he => absurd he (hbare e)⟩

theorem operations?_eq (htarget : Route.ofTarget? r.target = some route)
    (hverb : (Route.Verb.ofMethod? r.method).filter route.accepts = some verb) :
    operations? r = operationsOf route verb := by
  unfold operations?
  rw [htarget, Option.bind_some, hverb, Option.bind_some]

section StandardRecorder

variable (hr : app.registry.recorder = Recorder.standard)
include hr

/-- A resource that accepts the verb is asked in the scope of the request. -/
theorem correlates_guarded (id : RequestId) (haccepts : route.accepts verb = true) :
    Correlates id (tracesOperation app.registry (operationsOf route verb))
      (Work.inScope id.seed (app.guarded r route verb >>= respond id)) := by
  intro s
  let entered := s.enter { seed := id.seed }
  have hguarded : (app.guarded r route verb).OneChain := oneChain_guarded hr haccepts
  obtain ⟨lines, hlines, hchain⟩ := (hguarded.bind (quiet_respond id)).inScope id.seed s
  refine ⟨?_, ⟨lines, hlines.events, hchain⟩, ?_⟩
  · show (respond id (app.guarded r route verb entered).1 _).1.requestId = id
    cases (app.guarded r route verb entered).1 <;> rfl
  · intro e he
    -- all spans are closed again when the response is made
    obtain ⟨_, hkept, -⟩ := hguarded entered
    exact respond_found (found_guarded hr haccepts entered) hkept.slots.slot he

theorem correlates_route (r : Request) (id : RequestId) :
    Correlates id (tracesOperation app.registry (operations? r)) (app.route r id) := by
  unfold Application.route
  split
  · -- no resource
    split
    · exact correlates_bare rfl fun _ h => by cases h
    · exact correlates_bare rfl fun _ h => by cases h
  · next route htarget =>
    split
    · -- no method of the resource
      split
      · exact correlates_bare rfl fun _ h => by cases h
      · exact correlates_bare rfl fun _ h => by cases h
    · next verb hverb =>
      obtain ⟨_, haccepts⟩ := Option.filter_eq_some_iff.mp hverb
      split
      · exact correlates_bare rfl fun _ h => by cases h
      · rw [operations?_eq htarget hverb]
        exact correlates_guarded hr id haccepts

/-- **An answer and the lines told with it belong together.** Taking an id for
    the request tells nothing, and to `HEAD` no envelope is sent. -/
theorem answer_correlated (r : Request) (s : Session Store) :
    Correlated (requestId r s).1
      (({ seed := (requestId r s).1.seed } : Slot).chainId (requestId r s).2.issued)
      (tracesOperation app.registry (operations? r)) s (app.answer r s).1 (app.answer r s).2 := by
  obtain ⟨id, issued, hid⟩ := requestId_run r s
  obtain ⟨hheader, hlines, henvelope⟩ := correlates_route hr r id { s with issued }
  rw [answer_run, hid, Work.bind_run]
  unfold sent
  split
  · exact ⟨hheader, hlines, fun e he => by cases he⟩
  · exact ⟨hheader, hlines, henvelope⟩

end StandardRecorder

/-! ### One request, one id -/

/-- The text of the header that carries the id of a request, unless it is not
    readable; `name` gives the texts of issued ids. -/
def headerText? (name : Nat → String) : RequestId → Option String
  | .sent value => (Net.Headers.readable? value).map String.ofList
  | .issued id => some (id.text name)

/-- The id that the JSON text of an envelope shows. -/
def shownTraceId? (envelope : Json) : Option Json :=
  (envelope.member? "meta").bind fun about => about.member? "appTraceId"

theorem shownTraceId?_toJson (name : Nat → String) (stamp : Int) (e : Envelope) :
    shownTraceId? (e.toJson name stamp) = e.traceId.map fun id => .text (id.text name) := by
  obtain ⟨status, code, message, traceId, size, data⟩ := e
  cases traceId with
  | some id => rfl
  | none =>
    cases size with
    | none => rfl
    | some n => rfl

theorem requestId_sent {value : List UInt8}
    (h : r.headers.first? "x-request-id" = some value) (s : Session Store) :
    (requestId r s).1 = .sent value := by
  unfold requestId
  rw [h]
  rfl

/-- The id of a named request is found in its header, or it is issued. It names
    the chain. -/
theorem requestId_named (h : NamedRequest r) (s : Session Store) (name : Nat → String) :
    ∃ id, (requestId r s).1.seed = some id ∧
      (∀ n, ({ seed := (requestId r s).1.seed } : Slot).chainId n = id) ∧
      headerText? name (requestId r s).1 = some (id.text name) ∧
      id.text name =
        ((r.headers.text? "x-request-id").map String.ofList).getD (name s.issued) := by
  unfold Net.Headers.text?
  cases hheader : r.headers.first? "x-request-id" with
  | none =>
    have hissued : (requestId r s).1 = .issued (.fresh s.issued) := by
      unfold requestId
      rw [hheader]
      rfl
    rw [hissued]
    exact ⟨.fresh s.issued, rfl, fun n => rfl, rfl, rfl⟩
  | some value =>
    obtain ⟨text, htext, hne⟩ := h value hheader
    have hseed : (RequestId.sent value).seed = some (.given (String.ofList text)) := by
      show (Net.Headers.readable? value).map _ = _
      rw [htext]
      rfl
    rw [requestId_sent hheader, hseed]
    refine ⟨.given (String.ofList text), rfl, ?_, ?_, ?_⟩
    · intro n
      simp [Slot.chainId, Id.isEmpty, hne]
    · show (Net.Headers.readable? value).map _ = _
      rw [htext]
      rfl
    · rw [Option.bind_some, htext]
      rfl

/-- **One request, one id.** The id of a request that names one, or else the id
    that is issued for it, is the id of the response, that of every line of its
    call tree and that of the envelope, whichever operations are traced and
    whatever comes of the request. -/
theorem answer_underOneId (settings : Settings) (start : Session Store) :
    let app := (build settings start).1
    ∀ (r : Request) (s : Session Store) (name : Nat → String), NamedRequest r →
    let text := ((r.headers.text? "x-request-id").map String.ofList).getD (name s.issued)
    let response := (app.answer r s).1
    headerText? name response.requestId = some text ∧
    (∀ value, r.headers.first? "x-request-id" = some value → response.requestId = .sent value) ∧
    (∃ lines, (app.answer r s).2.events = s.events ++ lines ∧
      ∀ line ∈ lines, ∀ trace, line.trace? = some trace →
        line.fields name = [("trace_id", .shown text)]) ∧
    ∀ e, response.body = .envelope e → ∀ stamp,
      shownTraceId? (e.toJson name stamp) = some (.text text) := by
  intro app r s name hnamed text response
  have hr : app.registry.recorder = Recorder.standard := rfl
  obtain ⟨hheader, ⟨lines, hlines, hchain⟩, henvelope⟩ := answer_correlated hr r s
  obtain ⟨id, hseed, htree, htext, hid⟩ := requestId_named hnamed s name
  -- a seed that names something is the id of the chain as well
  rw [htree] at hchain henvelope
  refine ⟨?_, ?_, ⟨lines, hlines, ?_⟩, ?_⟩
  · show headerText? name (app.answer r s).1.requestId = some text
    rw [hheader, htext, hid]
  · intro value hvalue
    exact hheader.trans (requestId_sent hvalue s)
  · intro line hline trace htrace
    have hsame : trace = id := hchain line hline trace htrace
    rw [Event.fields_of_trace? htrace, hsame, hid]
  · intro e he stamp
    have hfound : e.traceId = some id := by
      rw [henvelope e he, hseed, ite_self]
    rw [shownTraceId?_toJson, hfound, Option.map_some, hid]

/-- A request that names its id has it everywhere. -/
theorem answer_underOneId_namedLookUp :
    NamedRequest namedLookUp ∧
    headerText? toString
      ((build {} { data := {} }).1.answer namedLookUp { data := {} }).1.requestId = some "abc" ∧
    ∀ e, ((build {} { data := {} }).1.answer namedLookUp { data := {} }).1.body = .envelope e →
      shownTraceId? (e.toJson toString 0) = some (.text "abc") := by
  obtain ⟨hheader, -, -, henvelope⟩ := answer_underOneId {} { data := {} } namedLookUp
    { data := {} } toString namedRequest_namedLookUp
  have htext : ((namedLookUp.headers.text? "x-request-id").map String.ofList).getD (toString 0) =
      "abc" := by decide +kernel
  rw [htext] at hheader henvelope
  exact ⟨namedRequest_namedLookUp, hheader, fun e he => henvelope e he 0⟩

/-! ### Requests whose id names nothing -/

/-- The seed of a request that names no id is missing or empty, and so an id is
    issued for its chain. -/
theorem requestId_unnamed (h : ¬ NamedRequest r) (s : Session Store) :
    (requestId r s).1.seed = (r.headers.text? "x-request-id").map (fun _ => .given "") ∧
    ∀ n, ({ seed := (requestId r s).1.seed } : Slot).chainId n = .fresh n := by
  unfold NamedRequest at h
  push Not at h
  obtain ⟨value, hheader, hempty⟩ := h
  rw [requestId_sent hheader]
  unfold Net.Headers.text?
  rw [hheader, Option.bind_some]
  have hseed : (RequestId.sent value).seed =
      (Net.Headers.readable? value).map fun cs => .given (String.ofList cs) := rfl
  rw [hseed]
  cases htext : Net.Headers.readable? value with
  | none => exact ⟨rfl, fun n => rfl⟩
  | some text =>
    have hnil : text = [] := hempty text htext
    subst hnil
    exact ⟨rfl, fun n => rfl⟩

/-- **Which envelopes name the call tree of their request.** All lines of the
    tree are under one id. The envelope carries it iff the request names an id
    or the envelope is that of a success of a traced controller operation. Any
    other envelope carries what the header says: the empty text, or nothing. -/
theorem envelope_names_tree_iff (settings : Settings) (start : Session Store) :
    let app := (build settings start).1
    ∀ (r : Request) (s : Session Store) (e : Envelope),
    (app.answer r s).1.body = .envelope e →
    let named := NamedRequest r ∨
      e.status = 200 ∧ tracesOperation app.registry (operations? r) = true
    ∃ (tree : Id) (lines : List Event), (app.answer r s).2.events = s.events ++ lines ∧
      (∀ line ∈ lines, ∀ trace, line.trace? = some trace → trace = tree) ∧
      (e.traceId = some tree ↔ named) ∧
      (¬ named → e.traceId = (r.headers.text? "x-request-id").map fun _ => .given "") := by
  intro app r s e he named
  have hr : app.registry.recorder = Recorder.standard := rfl
  obtain ⟨-, ⟨lines, hlines, hchain⟩, henvelope⟩ := answer_correlated hr r s
  have hfound := henvelope e he
  refine ⟨_, lines, hlines, hchain, ?_⟩
  by_cases hnamed : NamedRequest r
  · obtain ⟨id, hseed, htree, -⟩ := requestId_named hnamed s toString
    rw [htree, hseed, ite_self] at hfound
    rw [htree]
    exact ⟨iff_of_true hfound (.inl hnamed), fun h => absurd (.inl hnamed) h⟩
  · obtain ⟨hseed, htree⟩ := requestId_unnamed hnamed s
    rw [htree, hseed] at hfound
    rw [htree]
    by_cases hinside : e.status = 200 ∧ tracesOperation app.registry (operations? r) = true
    · rw [if_pos (by simpa [and_comm] using hinside)] at hfound
      exact ⟨iff_of_true hfound (.inr hinside), fun h => absurd (.inr hinside) h⟩
    · rw [if_neg (by simpa [and_comm] using hinside)] at hfound
      have hnot : ¬ named := by
        intro h
        exact h.elim hnamed hinside
      refine ⟨iff_of_false ?_ hnot, fun _ => hfound⟩
      -- what is issued is never the text that was sent
      rw [hfound]
      cases r.headers.text? "x-request-id" with
      | none => simp
      | some text => simp

/-- The envelope of a response that has one. -/
def envelope? (response : Response) : Option Envelope :=
  match response.body with
  | .envelope e => some e
  | _ => none

theorem body_of_envelope? {response : Response} {e : Envelope}
    (h : envelope? response = some e) : response.body = .envelope e := by
  unfold envelope? at h
  split at h
  · next made hmade => rw [hmade, Option.some.inj h]
  · cases h

/-- A question under an empty id. -/
def unnamed (target : String) : Request where
  target := target
  headers := .ofTexts [("X-Request-Id", "")]

/-- A listing names its call tree even under an empty id, for its envelope is
    made within a span. -/
theorem envelope_names_tree_iff_listing :
    let answered := (build {} { data := {} }).1.answer (unnamed "/api/holidays/2025") { data := {} }
    ∃ e tree lines, answered.1.body = .envelope e ∧ answered.2.events = [] ++ lines ∧
      (∀ line ∈ lines, ∀ trace, line.trace? = some trace → trace = tree) ∧
      e.traceId = some tree := by
  intro answered
  have hmade : (envelope? answered.1).map Envelope.status = some 200 := by decide +kernel
  obtain ⟨e, he, hstatus⟩ := Option.map_eq_some_iff.mp hmade
  have hbody : answered.1.body = .envelope e := body_of_envelope? he
  have htraced : tracesOperation (build {} { data := {} }).1.registry
      (operations? (unnamed "/api/holidays/2025")) = true := by decide +kernel
  obtain ⟨tree, lines, hlines, htree, hiff, -⟩ := envelope_names_tree_iff {} { data := {} }
    (unnamed "/api/holidays/2025") { data := {} } e hbody
  exact ⟨e, tree, lines, hbody, hlines, htree, hiff.mpr (.inr ⟨hstatus, htraced⟩)⟩

/-- What is not found is answered under the empty id that was sent, while the
    lines of the call tree are under an id that was issued. -/
theorem notFound_apart_from_tree :
    let answered := (build {} { data := {} }).1.answer (unnamed "/api/holidays/id/1") { data := {} }
    (∃ e, answered.1.body = .envelope e ∧ e.status = 404 ∧ e.traceId = some (.given "")) ∧
    ∃ line ∈ answered.2.events, line.trace? = some (.fresh 0) := by
  intro answered
  have hmade : (envelope? answered.1).map (fun e => (e.status, e.traceId)) =
      some (404, some (.given "")) := by decide +kernel
  obtain ⟨e, he, hfields⟩ := Option.map_eq_some_iff.mp hmade
  obtain ⟨hstatus, htrace⟩ := Prod.mk.inj hfields
  have hline : .spanOpened (.fresh 0) 1 "HolidayController.get_by_id" ∈ answered.2.events := by
    decide +kernel
  exact ⟨⟨e, body_of_envelope? he, hstatus, htrace⟩, _, hline, rfl⟩

end HolidayApi.Web.Application
