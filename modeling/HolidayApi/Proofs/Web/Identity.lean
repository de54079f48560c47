import HolidayApi.Web.Application

/-! # Who is not believed is not heard

    A request reaches the application through its method, its path, its body,
    some of its headers, and its caller. The headers that name a caller are
    read for that purpose only, and only where the peer is believed. So a peer
    that is not believed cannot change anything by what it says there: two
    requests that differ in nothing else (`SameApart`) have the same caller
    (`caller_congr`), the same answer and the same effect
    (`answer_eq_of_unbelieved`).
-/

namespace HolidayApi.Access.Caller

open HolidayApi.Net (Headers IpAddress)

/-! ### Headers that name a caller -/

/-- The headers other than those that name a caller, in order. -/
def otherHeaders (headers : Headers) : List (String × List UInt8) :=
  headers.fields.filter fun field => field.1 ∉ forwardingHeaders

/-- Every other header is found among the other headers. -/
theorem first?_eq_lookup {name : String} (hname : name ∉ forwardingHeaders)
    (headers : Headers) : headers.first? name = (otherHeaders headers).lookup name := by
  obtain ⟨fields⟩ := headers
  show fields.lookup name = (fields.filter fun field => field.1 ∉ forwardingHeaders).lookup name
  induction fields with
  | nil => rfl
  | cons field rest ih =>
    obtain ⟨other, value⟩ := field
    by_cases hother : name = other
    · -- this header is found in both lists
      subst hother
      simp [hname]
    · have hne : (name == other) = false := by simpa using hother
      rw [List.lookup_cons, hne, ih, List.filter_cons]
      by_cases hdropped : other ∈ forwardingHeaders
      · simp [hdropped]
      · simp [hdropped, List.lookup_cons, hne]

/-- A peer that is not believed is the caller itself. -/
theorem resolve_of_unbelieved {peer : Option IpAddress} {trusted : AllowList}
    (h : ∀ address, peer.map IpAddress.canonical = some address →
      trusted.admits address.text = false) (headers : Headers) :
    resolve headers peer trusted = ((peer.map IpAddress.canonical).map IpAddress.text).getD unknown := by
  cases peer with
  | none => rfl
  | some peer =>
    have huntrusted : trusted.admits peer.canonical.text = false := h peer.canonical rfl
    show (if trusted.admits peer.canonical.text then _ else _) = _
    rw [huntrusted]
    rfl

end HolidayApi.Access.Caller

namespace HolidayApi.Web

open HolidayApi.Access (AllowList Caller.forwardingHeaders Caller.otherHeaders
  Caller.first?_eq_lookup Caller.resolve_of_unbelieved Caller.unknown Guard)
open HolidayApi.Calendar (Store)
open HolidayApi.Call (Session Work)
open HolidayApi.Net (IpAddress)

/-! ### Requests that differ in those headers only -/

/-- The requests are the same apart from the headers that name a caller, the
    query, and the form in which the address of the peer is given. -/
structure SameApart (a b : Request) : Prop where
  method : a.method = b.method
  path : Route.path a.target = Route.path b.target
  headers : Caller.otherHeaders a.headers = Caller.otherHeaders b.headers
  body : a.body = b.body
  peer : a.peer.map IpAddress.canonical = b.peer.map IpAddress.canonical

namespace SameApart

variable {a b : Request} (h : SameApart a b)
include h

theorem first? {name : String} (hname : name ∉ Caller.forwardingHeaders) :
    a.headers.first? name = b.headers.first? name := by
  rw [Caller.first?_eq_lookup hname, Caller.first?_eq_lookup hname, h.headers]

theorem text? {name : String} (hname : name ∉ Caller.forwardingHeaders) :
    a.headers.text? name = b.headers.text? name := by
  unfold Net.Headers.text?
  rw [h.first? hname]

theorem target : Route.ofTarget? a.target = Route.ofTarget? b.target := by
  unfold Route.ofTarget?
  rw [h.path]

theorem announcedLength : Application.announcedLength a = Application.announcedLength b := by
  unfold Application.announcedLength
  rw [h.text? (by decide)]

theorem requestId : Application.requestId a = Application.requestId b := by
  unfold Application.requestId
  rw [h.first? (by decide)]

theorem saysJson : MediaType.saysJson a.headers = MediaType.saysJson b.headers := by
  unfold MediaType.saysJson
  rw [h.text? (by decide)]

end SameApart

namespace Application

variable {app : Application} {a b : Request}

theorem isTooLong_congr (h : SameApart a b) : app.isTooLong a = app.isTooLong b := by
  unfold isTooLong
  rw [h.announcedLength]

theorem payload_congr {α : Type} (h : SameApart a b) (decoder : Data.Decoder α) :
    app.payload decoder a = app.payload decoder b := by
  have hlimit : app.bodyLimit a = app.bodyLimit b := by
    unfold bodyLimit
    rw [h.announcedLength]
  unfold payload
  rw [h.saysJson, hlimit, h.body]

/-- The caller is that of the connection on both sides, and so the same. -/
theorem caller_congr (h : SameApart a b)
    (hpeer : ∀ address, a.peer.map IpAddress.canonical = some address →
      app.settings.security.trustedProxies.admits address.text = false) :
    app.caller a = app.caller b := by
  have hpeer' : ∀ address, b.peer.map IpAddress.canonical = some address →
      app.settings.security.trustedProxies.admits address.text = false := by
    rw [← h.peer]
    exact hpeer
  unfold caller
  rw [Caller.resolve_of_unbelieved hpeer, Caller.resolve_of_unbelieved hpeer', h.peer]

/-! ### Answers -/

theorem perform_congr (h : SameApart a b) (hcaller : app.caller a = app.caller b) (route : Route)
    (verb : Route.Verb) : app.perform a route verb = app.perform b route verb := by
  -- besides the caller it is only the body that is read, with its type and limit
  unfold perform
  rw [hcaller]
  simp only [payload_congr h]

theorem guarded_congr (h : SameApart a b) (hcaller : app.caller a = app.caller b) (route : Route)
    (verb : Route.Verb) : app.guarded a route verb = app.guarded b route verb := by
  unfold guarded
  rw [hcaller, perform_congr h hcaller]

theorem route_congr (h : SameApart a b) (hcaller : app.caller a = app.caller b) :
    app.route a = app.route b := by
  funext id
  unfold Application.route
  simp only [h.target, h.method, isTooLong_congr h, guarded_congr h hcaller]

theorem answer_congr (h : SameApart a b) (hcaller : app.caller a = app.caller b) :
    app.answer a = app.answer b := by
  unfold answer
  rw [h.requestId, route_congr h hcaller, h.method, h.target]

/-- **A peer that is not believed is not heard.** -/
theorem answer_eq_of_unbelieved (settings : Settings) (start : Session Store) {a b : Request}
    (h : SameApart a b)
    (hpeer : ∀ address, a.peer.map IpAddress.canonical = some address →
      settings.security.trustedProxies.admits address.text = false) :
    let app := (build settings start).1
    (∀ s : Session Store, app.answer a s = app.answer b s) ∧
    (∀ (guard : Guard) (s : Session Store),
      guard.check (app.caller a) s = guard.check (app.caller b) s) := by
  intro app
  have hcaller : app.caller a = app.caller b := caller_congr h hpeer
  refine ⟨?_, ?_⟩
  · intro s
    rw [answer_congr h hcaller]
  · intro guard s
    rw [hcaller]

/-- A stranger that asks for a deletion and claims to be the machine itself. -/
def pretender : Request where
  method := "DELETE"
  target := "/api/holidays/id/1"
  headers := .ofTexts [("X-Forwarded-For", "127.0.0.1"), ("X-Real-IP", "::1")]
  peer := some (.v4 0x0A000009)

/-- The same stranger without a claim, its address in the other form. -/
def stranger : Request where
  method := "DELETE"
  target := "/api/holidays/id/1"
  peer := some (.v6 0xFFFF0A000009)

theorem sameApart_pretender_stranger : SameApart pretender stranger where
  method := rfl
  path := rfl
  headers := by decide +kernel
  body := rfl
  peer := by decide

/-- Under the standard settings the claim makes no difference. -/
theorem answer_eq_of_unbelieved_stranger :
    SameApart pretender stranger ∧
    ({} : Settings).security.trustedProxies.admits "10.0.0.9" = false ∧
    ∀ s : Session Store, (build {} { data := {} }).1.answer pretender s =
      (build {} { data := {} }).1.answer stranger s := by
  have hpeer : ∀ address, pretender.peer.map IpAddress.canonical = some address →
      ({} : Settings).security.trustedProxies.admits address.text = false := by
    intro address haddress
    cases haddress
    decide
  exact ⟨sameApart_pretender_stranger, by decide,
    (answer_eq_of_unbelieved {} { data := {} } sameApart_pretender_stranger hpeer).1⟩

end Application
end HolidayApi.Web
