import HolidayApi.Proofs.Call.Alike
import HolidayApi.Proofs.Settings.Verdicts
import HolidayApi.Proofs.Web.Plans

/-! # Tracing is not seen from outside

    Which operations are traced is a matter of the settings. It shows in the
    lines of the call trees and in the measures of spans, and nowhere else.

    * While a request is answered, the slot that is seen carries its id, be it
      as the seed or as the trace that took the seed (`NamedBy`). So answers
      find the same id whether a span is open or not.
    * Two runs of a request whose slots differ at most in that are related by
      `SameInRequest`, a relation to which spans mean nothing.
    * Between requests the slots are the same on both sides again
      (`SameOutside`): `alike_answer` says that an answer keeps it, and so does
      a history of requests.
-/

namespace HolidayApi.Call

variable {σ α : Type} {id : Id}

/-! ### Slots that carry an id -/

/-- The slot has this seed, and the trace in it took the seed, if there is one. -/
structure Slot.NamedBy (slot : Slot) (id : Id) : Prop where
  seed : slot.seed = some id
  current : ∀ trace, slot.current = some trace → trace.id = id

namespace Slot.NamedBy

variable {slot : Slot}

theorem seeded (id : Id) : NamedBy { seed := some id } id := ⟨rfl, by simp⟩

theorem id? (h : slot.NamedBy id) : slot.id? = some id := by
  unfold Slot.id?
  cases hcurrent : slot.current with
  | none => exact h.seed
  | some trace => exact congrArg some (h.current trace hcurrent)

/-- A seed that is not empty names the next trace, so no id is issued for it. -/
theorem issues (h : slot.NamedBy id) (hid : id.isEmpty = false) : slot.issues = 0 := by
  unfold Slot.issues
  rw [h.seed]
  cases slot.current with
  | none => simp [hid]
  | some trace => rfl

theorem opened (h : slot.NamedBy id) (hid : id.isEmpty = false) (n : Nat) :
    (slot.opened n).NamedBy id := by
  refine ⟨h.seed, ?_⟩
  intro trace htrace
  have hname : slot.chainId n = id := by
    unfold Slot.chainId
    rw [h.seed]
    cases hcurrent : slot.current with
    | none => simp [hid]
    | some trace => exact h.current trace hcurrent
  cases htrace
  exact hname

theorem closeLevel (h : slot.NamedBy id) : slot.closeLevel.NamedBy id := by
  refine ⟨?_, ?_⟩
  · rw [Slot.seed_closeLevel]
    exact h.seed
  · intro trace htrace
    obtain ⟨before, hcurrent, hid⟩ := Slot.exists_of_closeLevel htrace
    exact hid.trans (h.current before hcurrent)

end Slot.NamedBy

/-! ### Within a request -/

namespace Session

/-- While a request with this id is answered, the states differ at most in what
    traces leave behind and in whether a span is open. -/
structure SameInRequest (id : Id) (s t : Session σ) : Prop extends SameButTraces s t where
  issued : s.issued = t.issued
  thread : s.thread = t.thread
  slots : ∃ inner inner' outer, s.scopes = inner :: outer ∧ t.scopes = inner' :: outer ∧
    inner.NamedBy id ∧ inner'.NamedBy id

/-- Between requests the states differ at most in what traces leave behind. -/
structure SameOutside (s t : Session σ) : Prop extends SameButTraces s t, SameSlots s t where
  issued : s.issued = t.issued

theorem SameOutside.symm {s t : Session σ} (h : SameOutside s t) : SameOutside t s :=
  ⟨blindToSpans_sameButTraces.symm h.toSameButTraces, ⟨h.thread.symm, h.scopes.symm⟩,
    h.issued.symm⟩

theorem slot_of_scopes {s : Session σ} {inner : Slot} {outer : List Slot}
    (h : s.scopes = inner :: outer) : s.slot = inner := by
  unfold Session.slot
  rw [h]

theorem SameInRequest.id? {s t : Session σ} (h : SameInRequest id s t) :
    s.slot.id? = some id ∧ t.slot.id? = some id := by
  obtain ⟨inner, inner', outer, hs, ht, hinner, hinner'⟩ := h.slots
  rw [slot_of_scopes hs, slot_of_scopes ht]
  exact ⟨hinner.id?, hinner'.id?⟩

/-- In a scope only its own slot is replaced. -/
theorem setSlot_of_scopes {s : Session σ} {inner : Slot} {outer : List Slot}
    (h : s.scopes = inner :: outer) (slot : Slot) :
    s.setSlot slot = { s with scopes := slot :: outer } := by
  unfold setSlot
  rw [h]

/-- The first state may move to another slot with the same name. -/
theorem SameInRequest.moved {s t after : Session σ} (h : SameInRequest id s t)
    (hsame : after.SameButTraces t) (hissued : after.issued = s.issued)
    (hslot : ∀ inner outer, s.scopes = inner :: outer → inner.NamedBy id →
      after.thread = s.thread ∧ ∃ slot, after.scopes = slot :: outer ∧ slot.NamedBy id) :
    SameInRequest id after t := by
  obtain ⟨inner, inner', outer, hs, ht, hinner, hinner'⟩ := h.slots
  obtain ⟨hthread, slot, hafter, hnamed⟩ := hslot inner outer hs hinner
  exact ⟨hsame, hissued.trans h.issued, hthread.trans h.thread,
    slot, inner', outer, hafter, ht, hnamed, hinner'⟩

theorem blindToSpans_sameInRequest (hid : id.isEmpty = false) :
    BlindToSpans (SameInRequest (σ := σ) id) where
  data h := h.data
  put data h :=
    ⟨blindToSpans_sameButTraces.put data h.toSameButTraces, h.issued, h.thread, h.slots⟩
  checked caller h :=
    ⟨blindToSpans_sameButTraces.checked caller h.toSameButTraces, h.issued, h.thread, h.slots⟩
  rejected caller h :=
    ⟨blindToSpans_sameButTraces.rejected caller h.toSameButTraces, h.issued, h.thread, h.slots⟩
  symm h := by
    obtain ⟨inner, inner', outer, hs, ht, hinner, hinner'⟩ := h.slots
    exact ⟨blindToSpans_sameButTraces.symm h.toSameButTraces, h.issued.symm, h.thread.symm,
      inner', inner, outer, ht, hs, hinner', hinner⟩
  opened {s t} label h := by
    refine h.moved (blindToSpans_sameButTraces.opened label h.toSameButTraces) ?_ ?_
    · -- the seed names the trace, so the side with the span issues no id for it
      obtain ⟨inner, inner', outer, hs, ht, hinner, hinner'⟩ := h.slots
      show s.issued + s.slot.issues = s.issued
      rw [slot_of_scopes hs, hinner.issues hid, Nat.add_zero]
    · intro inner outer hs hinner
      unfold Recorder.openedState
      rw [setSlot_of_scopes hs, slot_of_scopes hs]
      exact ⟨rfl, _, rfl, hinner.opened hid _⟩
  closed {s t} span fault h := by
    refine h.moved (blindToSpans_sameButTraces.closed span fault h.toSameButTraces)
      (Recorder.issued_closedState span fault s) ?_
    intro inner outer hs hinner
    have hscopes : ∀ told meters, Session.scopes { s with told, meters } = inner :: outer :=
      fun _ _ => hs
    simp only [Recorder.closedState]
    rw [setSlot_of_scopes (hscopes _ _), slot_of_scopes hs]
    exact ⟨rfl, _, rfl, hinner.closeLevel⟩

/-- The id is found whether a span is open or not. -/
theorem alike_currentId :
    Work.Alike (SameInRequest (σ := σ) id) Work.currentId Work.currentId := by
  intro s t h
  obtain ⟨hs, ht⟩ := h.id?
  refine ⟨?_, h⟩
  show s.slot.id? = t.slot.id?
  rw [hs, ht]

theorem alike_tell (event : Event) :
    Work.Alike (SameInRequest (σ := σ) id) (Work.tell event) (Work.tell event) := by
  intro s t h
  refine ⟨rfl, ⟨h.data, ?_, h.denials⟩, h.issued, h.thread, h.slots⟩
  exact h.untraced_snoc List.reverse_cons List.reverse_cons

/-- A request opens a scope of its own on both sides, and closes it. -/
theorem alike_inScope {work work' : Work σ α} (h : Work.Alike (SameInRequest id) work work') :
    Work.Alike SameOutside (Work.inScope (some id) work) (Work.inScope (some id) work') := by
  intro s t hst
  have hentered : SameInRequest id (s.enter { seed := some id }) (t.enter { seed := some id }) :=
    ⟨⟨hst.data, hst.untraced, hst.denials⟩, hst.issued, hst.thread,
      _, _, _, rfl, congrArg (_ :: ·) hst.scopes.symm, .seeded id, .seeded id⟩
  obtain ⟨hvalue, hafter⟩ := h _ _ hentered
  obtain ⟨inner, inner', outer, hs, ht, -, -⟩ := hafter.slots
  refine ⟨hvalue, ⟨hafter.data, hafter.untraced, hafter.denials⟩, ⟨hafter.thread, ?_⟩,
    hafter.issued⟩
  show (work (s.enter { seed := some id })).2.scopes.tail =
    (work' (t.enter { seed := some id })).2.scopes.tail
  rw [hs, ht]
  rfl

end Session
end HolidayApi.Call

namespace HolidayApi.Web.Application

open HolidayApi.Calendar (Store)
open HolidayApi.Call (Advice BlindToSpans Event Id Recorder Registry Session Work)
open HolidayApi.Call.Session (SameInRequest SameOutside)

variable {α : Type} {id : Id}

/-! ### Envelopes and responses -/

theorem alike_wrap {wrap : α → Work Store Envelope} (hwrap : Wraps wrap) (value : α) :
    Work.Alike (SameInRequest id) (wrap value) (wrap value) := by
  obtain ⟨size, data, hwrap⟩ := hwrap
  intro s t h
  obtain ⟨hs, ht⟩ := h.id?
  rw [hwrap, hwrap, hs, ht]
  exact ⟨rfl, h⟩

theorem alike_ofFault (fault : Fault) :
    Work.Alike (SameInRequest (σ := Store) id) (Envelope.ofFault fault)
      (Envelope.ofFault fault) := by
  have hunder : ∀ code data, Work.Alike (SameInRequest (σ := Store) id)
      (Envelope.under code data) (Envelope.under code data) :=
    fun code data => Session.alike_currentId.bind fun traceId => .of_pure _
  unfold Envelope.ofFault
  split
  · exact (Session.alike_tell _).bind fun _ => hunder _ _
  · exact hunder _ _

theorem alike_respond (requestId : RequestId) (outcome : Outcome Envelope) :
    Work.Alike (SameInRequest id) (respond requestId outcome) (respond requestId outcome) := by
  unfold respond
  cases outcome with
  | ok e => exact .of_pure _
  | error fault => exact (alike_ofFault fault).bind fun e => .of_pure _

/-! ### The id of a request -/

/-- The request sends no id, or one that is a text and not empty. -/
def NamedRequest (r : Request) : Prop :=
  ∀ value, r.headers.first? "x-request-id" = some value →
    ∃ text, Net.Headers.readable? value = some text ∧ text ≠ []

/-- Both sides find the same id for the request, and it names the trace. -/
theorem alike_requestId {r : Request} (h : NamedRequest r) {s t : Session Store}
    (hst : SameOutside s t) :
    ∃ requestId id, (Application.requestId r s).1 = requestId ∧
      (Application.requestId r t).1 = requestId ∧
      requestId.seed = some id ∧ id.isEmpty = false ∧
      SameOutside (Application.requestId r s).2 (Application.requestId r t).2 := by
  unfold Application.requestId
  cases hheader : r.headers.first? "x-request-id" with
  | some value =>
    obtain ⟨text, htext, hne⟩ := h value hheader
    refine ⟨.sent value, .given (String.ofList text), rfl, rfl, ?_, ?_, hst⟩
    · show (Net.Headers.readable? value).map _ = _
      rw [htext]
      rfl
    · simpa [Id.isEmpty] using hne
  | none =>
    refine ⟨.issued (.fresh s.issued), .fresh s.issued, rfl, ?_, rfl, rfl, ?_⟩
    · show RequestId.issued (.fresh t.issued) = _
      rw [hst.issued]
    · exact ⟨⟨hst.data, hst.untraced, hst.denials⟩, ⟨hst.thread, hst.scopes⟩,
        congrArg (· + 1) hst.issued⟩

/-- The response that is sent. No resource sends a body in answer to `HEAD`. -/
def sent (r : Request) (response : Response) : Work Store Response :=
  if r.method = "HEAD" && (Route.ofTarget? r.target).isSome then
    return { response with body := .empty }
  else return response

theorem answer_run (app : Application) (r : Request) (s : Session Store) :
    app.answer r s =
      (app.route r (requestId r s).1 >>= sent r) (requestId r s).2 := rfl

section SameGuards

variable {registry registry' : Registry Store} (hr : registry.recorder = Recorder.standard)
  (hr' : registry'.recorder = Recorder.standard)
  (hguards : ∀ operation, registry.guards operation = registry'.guards operation)
include hr hr' hguards

/-- **A plan has the same outcome under both registries**, whichever operations
    they trace. -/
theorem alike_plan (hid : id.isEmpty = false) {caller : String}
    {names : Option (String × String)} {understood : Prop}
    {plan : Registry Store → Work Store (Outcome Envelope)}
    (hplan : Plan caller names understood plan) :
    Work.Alike (SameInRequest id) (plan registry) (plan registry') := by
  have hblind : BlindToSpans (SameInRequest (σ := Store) id) :=
    Session.blindToSpans_sameInRequest hid
  cases hplan with
  | refused fault _ _ => exact .of_pure _
  | health _ =>
    have hhealth : Work.Alike (SameInRequest id) health health :=
      Session.alike_currentId.bind fun traceId => .of_pure _
    exact hhealth.bind fun e => .of_pure _
  | operation hnames hservice hwrap =>
    obtain ⟨step, hstep, -⟩ := hservice
    refine hblind.invokeNow hr hr' (hguards _) _ ?_
    refine Work.Alike.bind ?_ fun outcome => ?_
    · rw [hstep, hstep]
      exact hblind.invokeNow hr hr' (hguards _) _ (hblind.onData step)
    · cases outcome with
      | ok value => exact (alike_wrap hwrap value).bind fun e => .of_pure _
      | error fault => exact .of_pure _

variable (settings : Settings) (trace : Settings.Tracing) (r : Request)

theorem alike_guarded (hid : id.isEmpty = false) {route : Route} {verb : Route.Verb}
    (haccepts : route.accepts verb = true) :
    Work.Alike (SameInRequest id) (guarded ⟨settings, registry⟩ r route verb)
      (guarded ⟨{ settings with trace }, registry'⟩ r route verb) := by
  -- the settings of traces are not read here, so one plan serves both sides
  have hperform : Work.Alike (SameInRequest id) (perform ⟨settings, registry⟩ r route verb)
      (perform ⟨{ settings with trace }, registry'⟩ r route verb) :=
    alike_plan hr hr' hguards hid (plan_perform ⟨settings, registry⟩ r haccepts)
  unfold guarded
  split
  · exact (Session.blindToSpans_sameInRequest hid).protect _ _ hperform
  · exact hperform

theorem alike_route (hid : id.isEmpty = false) {requestId : RequestId}
    (hseed : requestId.seed = some id) :
    Work.Alike SameOutside (Application.route ⟨settings, registry⟩ r requestId)
      (Application.route ⟨{ settings with trace }, registry'⟩ r requestId) := by
  have hlong : isTooLong ⟨{ settings with trace }, registry'⟩ r =
      isTooLong ⟨settings, registry⟩ r := rfl
  unfold Application.route
  rw [hlong, hseed]
  split
  · split <;> exact .of_pure _
  · next route htarget =>
    split
    · split <;> exact .of_pure _
    · next verb hverb =>
      obtain ⟨_, haccepts⟩ := Option.filter_eq_some_iff.mp hverb
      split
      · exact .of_pure _
      · exact Session.alike_inScope ((alike_guarded hr hr' hguards settings trace r
          hid haccepts).bind (alike_respond requestId))

theorem alike_answer {r : Request} (h : NamedRequest r) :
    Work.Alike SameOutside (Application.answer ⟨settings, registry⟩ r)
      (Application.answer ⟨{ settings with trace }, registry'⟩ r) := by
  intro s t hst
  obtain ⟨requestId, id, hs, ht, hseed, hid, hafter⟩ := alike_requestId h hst
  rw [answer_run, answer_run, hs, ht]
  refine Work.Alike.bind (alike_route hr hr' hguards settings trace r hid hseed) ?_ _ _ hafter
  intro response
  unfold sent
  split <;> exact .of_pure _

end SameGuards

/-! ### Requests in turn -/

/-- Telling which operations are registered makes no difference. -/
theorem sameOutside_registered {s t : Session Store} (hst : SameOutside s t)
    (operations : List (String × List Advice)) :
    SameOutside ((operations.forM fun (name, advices) =>
      Work.tell (.operationRegistered name advices.length)) s).2 t := by
  induction operations generalizing s with
  | nil => exact hst
  | cons operation rest ih =>
    let told : Session Store :=
      { s with told := .operationRegistered operation.1 operation.2.length :: s.told }
    have hevents : told.events =
        s.events ++ [.operationRegistered operation.1 operation.2.length] := List.reverse_cons
    have huntraced : told.untraced = t.untraced := by
      rw [Session.untraced_of_events hevents]
      exact (List.append_nil _).trans hst.untraced
    exact ih (s := told)
      ⟨⟨hst.data, huntraced, hst.denials⟩, ⟨hst.thread, hst.scopes⟩, hst.issued⟩

theorem sameOutside_build (settings settings' : Settings) (start : Session Store) :
    SameOutside (build settings start).2 (build settings' start).2 := by
  have hstart : SameOutside start start := ⟨⟨rfl, rfl, rfl⟩, ⟨rfl, rfl⟩, rfl⟩
  have hright : SameOutside start (build settings' start).2 :=
    (sameOutside_registered hstart _).symm
  exact sameOutside_registered hright _

/-- What is seen of a request from outside: the response, and then the store,
    the events that are not about traces and the number of denials. -/
structure Seen where
  response : Response
  store : Store
  events : List Event
  denials : Nat

/-- Looks at what is seen after a response. -/
def look (response : Response) : Work Store Seen := do
  let after ← get
  return ⟨response, after.data, after.untraced, after.meters.denials⟩

/-- Answers a request and looks at what is seen then. -/
def answerSeen (app : Application) (r : Request) : Work Store Seen := do look (← app.answer r)

theorem alike_look (response : Response) :
    Work.Alike SameOutside (look response) (look response) := by
  intro s t hst
  refine ⟨?_, hst⟩
  show (⟨response, s.data, s.untraced, s.meters.denials⟩ : Seen) =
    ⟨response, t.data, t.untraced, t.meters.denials⟩
  rw [hst.data, hst.untraced, hst.denials]

/-- **Tracing is not seen from outside.** Settings that differ in the choice of
    the traced operations give the same responses to the same requests, one
    after another, and the same store after each of them. What guards and
    answers tell and count is the same, too. -/
theorem answerSeen_eq_of_trace (settings : Settings) (trace : Settings.Tracing)
    (start : Session Store) (requests : List Request) (h : ∀ r ∈ requests, NamedRequest r) :
    let one := build settings start
    let other := build { settings with trace } start
    (requests.mapM one.1.answerSeen one.2).1 = (requests.mapM other.1.answerSeen other.2).1 := by
  intro one other
  have hguards : ∀ operation, one.1.registry.guards operation =
      other.1.registry.guards operation := by
    intro operation
    exact (Settings.guards_declarations settings Recorder.standard operation).trans
      (Settings.guards_declarations { settings with trace } Recorder.standard operation).symm
  have hall : Work.Alike SameOutside (requests.mapM one.1.answerSeen)
      (requests.mapM other.1.answerSeen) := by
    refine Work.Alike.mapM requests fun r hr => ?_
    exact (alike_answer rfl rfl hguards settings trace (h r hr)).bind alike_look
  exact (hall one.2 other.2 (sameOutside_build settings _ start)).1

/-- A request under an id of its own. -/
def namedLookUp : Request where
  target := "/api/holidays/id/1"
  headers := .ofTexts [("X-Request-Id", "abc")]

theorem namedRequest_namedLookUp : NamedRequest namedLookUp := by
  intro value hvalue
  have hheader : namedLookUp.headers.first? "x-request-id" = some [97, 98, 99] := by
    decide +kernel
  cases hheader.symm.trans hvalue
  exact ⟨['a', 'b', 'c'], by decide, by decide⟩

/-- A question that is asked twice has the same answers with and without traces. -/
theorem answerSeen_eq_of_trace_namedLookUp :
    let one := build {} { data := {} }
    let other := build { trace := { enabled := false } } { data := {} }
    NamedRequest namedLookUp ∧
    ([namedLookUp, namedLookUp].mapM one.1.answerSeen one.2).1 =
      ([namedLookUp, namedLookUp].mapM other.1.answerSeen other.2).1 := by
  refine ⟨namedRequest_namedLookUp, answerSeen_eq_of_trace {} { enabled := false } { data := {} }
    [namedLookUp, namedLookUp] ?_⟩
  intro r hr
  have hr : r = namedLookUp := by simpa using hr
  rw [hr]
  exact namedRequest_namedLookUp

end HolidayApi.Web.Application
