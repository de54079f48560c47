import HolidayApi.Proofs.Web.Effects

/-! # Writes are guarded before they are looked at

    A request that writes is answered behind the write guard (`answer_write`):
    the guard comes before the parameters, before the media type and before
    the body. A caller that the guard does not know learns that and nothing
    else, and what stands behind the guard does not matter then
    (`turnedAway_behind`).

    Requests that read never meet the write guard, so the list of its callers
    makes no difference to them (`answer_get`).
-/

namespace HolidayApi.Web

open HolidayApi.Access (AllowList Caller.resolve Guard)
open HolidayApi.Calendar (Store)
open HolidayApi.Call (Session Work)

/-- The methods that write, with the resources that they are asked of. -/
inductive WriteRoute : String → Route → Route.Verb → Prop where
  | create : WriteRoute "POST" .holidays .post
  | createAll : WriteRoute "POST" .bulk .post
  | update (id : String) : WriteRoute "PUT" (.item id) .put
  | delete (id : String) : WriteRoute "DELETE" (.item id) .delete

namespace WriteRoute

variable {method : String} {route : Route} {verb : Route.Verb}

theorem accepted (h : WriteRoute method route verb) :
    (Route.Verb.ofMethod? method).filter route.accepts = some verb := by
  cases h <;> rfl

theorem isWrite (h : WriteRoute method route verb) : Application.isWrite route verb = true := by
  cases h <;> rfl

theorem ne_head (h : WriteRoute method route verb) : method ≠ "HEAD" := by
  cases h <;> decide

end WriteRoute

namespace Application

variable {app : Application} {r : Request} {route : Route} {verb : Route.Verb}

/-! ### Behind a guard -/

/-- Answers a request by a handler that stands behind a guard. -/
def behind (guard : Guard) (caller : String) (r : Request)
    (handler : Work Store (Outcome Envelope)) : Work Store Response := do
  let id ← requestId r
  Work.inScope id.seed (guard.protect caller handler >>= respond id)

theorem isTooLong_eq_false
    (h : ∀ n, announcedLength r = some n → n ≤ app.settings.security.maxBodySize) :
    app.isTooLong r = false := by
  unfold isTooLong
  cases hlength : announcedLength r with
  | none => rfl
  | some n =>
    have hle := h n hlength
    simpa using hle

/-- Where the announced length is not too much, a resource that accepts the
    verb is asked in the scope of the request. -/
theorem route_accepted (htarget : Route.ofTarget? r.target = some route)
    (haccepted : (Route.Verb.ofMethod? r.method).filter route.accepts = some verb)
    (hshort : app.isTooLong r = false) (id : RequestId) :
    app.route r id = Work.inScope id.seed (app.guarded r route verb >>= respond id) := by
  unfold Application.route
  simp only [htarget, haccepted, hshort]
  rfl

/-- **A write is answered behind the write guard.** -/
theorem answer_write (htarget : Route.ofTarget? r.target = some route)
    (hwrite : WriteRoute r.method route verb) (hshort : app.isTooLong r = false) :
    app.answer r = behind (writeGuard app.settings) (app.caller r) r (app.perform r route verb) := by
  have hguarded : app.guarded r route verb =
      (writeGuard app.settings).protect (app.caller r) (app.perform r route verb) := by
    unfold guarded
    rw [if_pos hwrite.isWrite]
  -- only the answer to HEAD is changed once more after the guard
  have hhead : (r.method = "HEAD" && (Route.ofTarget? r.target).isSome) = false := by
    simp [hwrite.ne_head]
  funext s
  unfold answer behind
  rw [Work.bind_run, Work.bind_run, hhead, route_accepted htarget hwrite.accepted hshort,
    hguarded, Work.bind_run]
  rfl

/-- What a caller that is turned away leaves behind: an answer that names the
    caller, what the guard and the answer tell, and one more denial. -/
structure TurnedAway (caller : String) (before : Session Store) (response : Response)
    (after : Session Store) : Prop where
  status : response.status = 403
  envelope : ∃ e, response.body = .envelope e ∧
    e.status = 403 ∧ e.code = "UNAUTHORIZED_IP" ∧ e.data = .text caller
  events : after.events = before.events ++
    [.callerChecked caller, .callerRejected caller, .faultAnswered (.unauthorizedIp caller)]
  meters : after.meters = { before.meters with denials := before.meters.denials + 1 }
  data : after.data = before.data

/-- A handler behind a guard that turns the caller away makes no difference. -/
theorem behind_of_rejects {guard : Guard} {caller : String}
    (h : guard.allowed.admits caller = false) (r : Request)
    (handler other : Work Store (Outcome Envelope)) (s : Session Store) :
    behind guard caller r handler s = behind guard caller r other s := by
  have hsame : guard.protect caller handler = guard.protect caller other := by
    funext inner
    rw [Guard.protect_of_rejects h, Guard.protect_of_rejects h]
  unfold behind
  rw [hsame]

/-- The stages of a request behind a guard: an id, the guard with the handler
    in the scope of the request, and the response. -/
theorem behind_run (guard : Guard) (caller : String) (r : Request)
    (handler : Work Store (Outcome Envelope)) (s : Session Store) :
    ∃ (id : RequestId) (issued : Nat),
      let inner : Session Store := ({ s with issued } : Session Store).enter { seed := id.seed }
      let outcome := guard.protect caller handler inner
      let answered := respond id outcome.1 outcome.2
      behind guard caller r handler s = (answered.1, answered.2.leave) := by
  obtain ⟨id, issued, hid⟩ := requestId_run r s
  refine ⟨id, issued, ?_⟩
  unfold behind
  rw [Work.bind_run, hid]
  rfl

/-- Nothing of the handler is seen when the guard turns the caller away. -/
theorem turnedAway_behind {guard : Guard} {caller : String}
    (h : guard.allowed.admits caller = false) (r : Request)
    (handler : Work Store (Outcome Envelope)) (s : Session Store) :
    TurnedAway caller s (behind guard caller r handler s).1 (behind guard caller r handler s).2 := by
  obtain ⟨id, issued, hrun⟩ := behind_run guard caller r handler s
  -- the guard ends here, so the response is made of its fault alone
  simp only [Guard.protect_of_rejects h] at hrun
  rw [hrun]
  constructor
  case status => rfl
  case envelope => exact ⟨_, rfl, rfl, rfl, rfl⟩
  case events =>
    show (Call.Event.faultAnswered (.unauthorizedIp caller) :: .callerRejected caller ::
      .callerChecked caller :: s.told).reverse = _
    simp [Session.events]
  case meters => rfl
  case data => rfl

/-! ### Reads -/

/-- The settings with another list of callers of the write routes. -/
def allowing (settings : Settings) (allowed : AllowList) : Settings :=
  { settings with security := { settings.security with allowed } }

/-- What does not write is never asked about by the write guard. -/
theorem guarded_get (settings : Settings) (allowed : AllowList) (start : Session Store)
    (r : Request) {route : Route} (haccepts : route.accepts .get = true) :
    (build (allowing settings allowed) start).1.guarded r route .get =
      (build settings start).1.guarded r route .get := by
  have hread : isWrite route .get = false := by
    rw [Bool.eq_false_iff]
    intro hwrite
    exact (isWrite_iff_ne_get haccepts).mp hwrite rfl
  unfold guarded
  rw [hread]
  rfl

theorem answer_get (settings : Settings) (allowed : AllowList) (start : Session Store)
    {r : Request} (hget : r.method = "GET") :
    (build (allowing settings allowed) start).1.answer r = (build settings start).1.answer r := by
  have hroute : (build (allowing settings allowed) start).1.route r =
      (build settings start).1.route r := by
    funext id
    unfold Application.route
    cases htarget : Route.ofTarget? r.target with
    | none => rfl
    | some route =>
      have hmethod : Route.Verb.ofMethod? r.method = some .get := by
        rw [hget]
        rfl
      by_cases haccepts : route.accepts .get = true
      · -- the resource can be read, and reading it is not guarded
        have haccepted : (Route.Verb.ofMethod? r.method).filter route.accepts = some .get := by
          rw [hmethod]
          simp [haccepts]
        simp only [haccepted, guarded_get settings allowed start r haccepts]
        rfl
      · -- another method is asked for, whoever asks
        have hrefused : (Route.Verb.ofMethod? r.method).filter route.accepts = none := by
          rw [hmethod]
          simp [haccepts]
        simp only [hrefused]
        rfl
  unfold answer
  rw [hroute]

/-! ### All settings -/

/-- **Writes are guarded before anything else is looked at**, whatever stands
    behind the guard, and reads are not guarded by the same list. -/
theorem writes_behind_guard (settings : Settings) (start : Session Store) :
    let app := (build settings start).1
    let security := settings.security
    (∀ (r : Request) (route : Route) (verb : Route.Verb),
      Route.ofTarget? r.target = some route → WriteRoute r.method route verb →
      (∀ n, announcedLength r = some n → n ≤ security.maxBodySize) →
      let caller := Caller.resolve r.headers r.peer security.trustedProxies
      app.answer r = behind (writeGuard settings) caller r (app.perform r route verb) ∧
      (security.allowed.admits caller = false → security.allowedAlways.admits caller = false →
        ∀ s : Session Store, TurnedAway caller s (app.answer r s).1 (app.answer r s).2 ∧
          ∀ handler, behind (writeGuard settings) caller r handler s = app.answer r s) ∧
      (security.allowed.admits caller = true ∨ security.allowedAlways.admits caller = true →
        ∀ (handler : Work Store (Outcome Envelope)) (s : Session Store),
          (writeGuard settings).protect caller handler s = handler (s.checked caller))) ∧
    (∀ (allowed : AllowList) (r : Request), r.method = "GET" →
      (build (allowing settings allowed) start).1.answer r = app.answer r) := by
  intro app security
  refine ⟨?_, fun allowed r hget => answer_get settings allowed start hget⟩
  intro r route verb htarget hwrite hlength caller
  have hshort : app.isTooLong r = false := isTooLong_eq_false hlength
  have hanswer : app.answer r = behind (writeGuard settings) caller r (app.perform r route verb) :=
    answer_write htarget hwrite hshort
  refine ⟨hanswer, ?_, ?_⟩
  · intro hallowed halways s
    -- the guard holds both lists, so it turns away whom neither admits
    have hrejects : (writeGuard settings).allowed.admits caller = false := by
      rw [Bool.eq_false_iff]
      intro hadmits
      rcases (Guard.admits_withDefaults _ _ _).mp hadmits with h | h
      · rw [hallowed] at h
        cases h
      · rw [halways] at h
        cases h
    rw [hanswer]
    refine ⟨turnedAway_behind hrejects r _ s, ?_⟩
    intro handler
    exact behind_of_rejects hrejects r handler _ s
  · intro hadmits handler s
    exact Guard.protect_of_admits ((Guard.admits_withDefaults _ _ _).mpr hadmits) handler s

/-- A change of a row without a body and with an id that is no number, sent
    from some peer. -/
def brokenUpdate (peer : Net.Ipv4) : Request :=
  { method := "PUT", target := "/api/holidays/id/x", peer := some (.v4 peer) }

/-- Under the standard settings a stranger's broken request is turned away,
    and the same request from the machine itself passes the guard. -/
theorem writes_behind_guard_brokenUpdate :
    TurnedAway "10.0.0.9" { data := {} }
      ((build {} { data := {} }).1.answer (brokenUpdate (.ofOctets 10 0 0 9)) { data := {} }).1
      ((build {} { data := {} }).1.answer (brokenUpdate (.ofOctets 10 0 0 9)) { data := {} }).2 ∧
    ∀ (handler : Work Store (Outcome Envelope)) (s : Session Store),
      (writeGuard {}).protect "127.0.0.1" handler s = handler (s.checked "127.0.0.1") := by
  have htarget : Route.ofTarget? "/api/holidays/id/x" = some (.item "x") := by rfl
  have hlength : ∀ peer n, announcedLength (brokenUpdate peer) = some n →
      n ≤ ({} : Settings).security.maxBodySize := by
    intro peer n hn
    cases hn
  have hstranger : Caller.resolve {} (some (.v4 (.ofOctets 10 0 0 9))) .loopback =
      "10.0.0.9" := by decide
  have hmachine : Caller.resolve {} (some (.v4 (.ofOctets 127 0 0 1))) .loopback =
      "127.0.0.1" := by decide
  have hempty : AllowList.empty.admits "10.0.0.9" = false := rfl
  have hloopback : AllowList.loopback.admits "10.0.0.9" = false := by decide
  have hself : AllowList.loopback.admits "127.0.0.1" = true := by decide
  -- without headers the caller is the peer, in the form that the theorem has
  rw [← hstranger] at hempty hloopback ⊢
  rw [← hmachine] at hself ⊢
  have hdenied := ((writes_behind_guard {} { data := {} }).1 (brokenUpdate (.ofOctets 10 0 0 9))
    _ _ htarget (.update "x") (hlength _)).2.1 hempty hloopback
  have hpassed := ((writes_behind_guard {} { data := {} }).1 (brokenUpdate (.ofOctets 127 0 0 1))
    _ _ htarget (.update "x") (hlength _)).2.2 (Or.inr hself)
  exact ⟨(hdenied { data := {} }).1, hpassed⟩

end Application
end HolidayApi.Web
