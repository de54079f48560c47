import HolidayApi.Proofs.Call.Awaiting
import HolidayApi.Proofs.Call.Frame
import HolidayApi.Proofs.Call.Warnings
import Mathlib.Logic.Basic

/-! # Counters and log

    The counters and the log are kept side by side: a recorder tells that a
    span opens or closes and counts those that close, and a guard tells and
    counts the callers that it turns away.

    * `Meters.note` is what a line of the log means for the counters. On the
      way of any call, `Session.Accounts` says, the counters change as the new
      lines mean, and as many spans open as close.
    * `Course` is what becomes of a call if nothing is told or counted at all:
      its outcome, the data, and the number of callers that guards turn away.
      `takes_work` and `takes_task` find these callers in the log.
    * `Session.Reconciled` is the balance of a whole log. It is kept by
      whatever accounts for its lines.
-/

namespace HolidayApi.Call

open HolidayApi.Access (Guard)
open Recorder (standard)

variable {σ α β : Type}

/-! ### Lines that are counted -/

namespace Event

/-- The line closes a span. -/
def closesSpan : Event → Bool
  | spanClosed .. => true
  | _ => false

/-- The line closes a span whose call failed. -/
def closesInFault : Event → Bool
  | spanClosed _ _ _ fault => fault.isSome
  | _ => false

/-- The line closes a span whose call failed with a fault of this kind. -/
def closesWith (kind : Fault.Kind) : Event → Bool
  | spanClosed _ _ _ fault => fault.map Fault.kind = some kind
  | _ => false

/-- The line says that a caller is turned away. -/
def rejectsCaller : Event → Bool
  | callerRejected _ => true
  | _ => false

/-- The line is about a span, or about a caller who is turned away. -/
def isCounted (line : Event) : Bool := line.opensSpan || line.closesSpan || line.rejectsCaller

end Event

namespace Meters

/-- The number of failed spans, whatever the kinds of their faults. -/
def failures (m : Meters) : Nat := Fault.Kind.all.foldr (fun kind n => m.faults kind + n) 0

/-- The counters after a line of the log, as the line has it. -/
def note (m : Meters) : Event → Meters
  | .spanClosed _ _ _ fault => m.countSpan fault
  | .callerRejected _ => m.countDenial
  | _ => m

theorem note_of_uncounted (m : Meters) {line : Event} (h : line.isCounted = false) :
    m.note line = m := by
  cases line with
  | spanClosed | callerRejected => cases h
  | _ => rfl

theorem spans_notes (lines : List Event) (m : Meters) :
    (lines.foldl note m).spans = m.spans + lines.countP Event.closesSpan := by
  induction lines generalizing m with
  | nil => rfl
  | cons line rest ih =>
    have hline : (m.note line).spans = m.spans + if line.closesSpan then 1 else 0 := by
      cases line <;> rfl
    rw [List.foldl_cons, ih, hline, List.countP_cons]
    omega

theorem faults_notes (kind : Fault.Kind) (lines : List Event) (m : Meters) :
    (lines.foldl note m).faults kind = m.faults kind + lines.countP (Event.closesWith kind) := by
  induction lines generalizing m with
  | nil => rfl
  | cons line rest ih =>
    have hline : (m.note line).faults kind =
        m.faults kind + if line.closesWith kind then 1 else 0 := by
      cases line with
      | spanClosed trace level label fault =>
        show (if fault.map Fault.kind = some kind then m.faults kind + 1 else m.faults kind) =
          m.faults kind + if decide (fault.map Fault.kind = some kind) = true then 1 else 0
        by_cases hkind : fault.map Fault.kind = some kind
        · rw [if_pos hkind, if_pos (decide_eq_true hkind)]
        · rw [if_neg hkind, if_neg (by simpa using hkind), Nat.add_zero]
      | _ => rfl
    rw [List.foldl_cons, ih, hline, List.countP_cons]
    omega

/-- Each span that closes in a fault does so with a fault of one kind. -/
theorem failures_notes (lines : List Event) (m : Meters) :
    (lines.foldl note m).failures = m.failures + lines.countP Event.closesInFault := by
  induction lines generalizing m with
  | nil => rfl
  | cons line rest ih =>
    have hline : (m.note line).failures = m.failures + if line.closesInFault then 1 else 0 := by
      cases line with
      | spanClosed trace level label fault =>
        cases fault with
        | none => rfl
        | some fault =>
          cases fault <;> simp [note, countSpan, failures, Fault.Kind.all, Fault.kind,
            Event.closesInFault] <;> omega
      | _ => rfl
    rw [List.foldl_cons, ih, hline, List.countP_cons]
    omega

theorem denials_notes (lines : List Event) (m : Meters) :
    (lines.foldl note m).denials = m.denials + lines.countP Event.rejectsCaller := by
  induction lines generalizing m with
  | nil => rfl
  | cons line rest ih =>
    have hline : (m.note line).denials = m.denials + if line.rejectsCaller then 1 else 0 := by
      cases line <;> rfl
    rw [List.foldl_cons, ih, hline, List.countP_cons]
    omega

end Meters

/-! ### Accounts -/

/-- On the way from one state to the other these lines were told, and the
    counters changed as they mean. All spans that opened on the way are closed,
    and so many callers were turned away. -/
structure Session.Accounts (s : Session σ) (lines : List Event) (denials : Nat)
    (after : Session σ) : Prop where
  events : after.events = s.events ++ lines
  meters : after.meters = lines.foldl Meters.note s.meters
  spans : lines.countP Event.opensSpan = lines.countP Event.closesSpan
  denials : lines.countP Event.rejectsCaller = denials

namespace Session.Accounts

variable {s between inside after : Session σ} {lines more : List Event} {m n : Nat}

/-- Nothing is told, and nothing is counted. -/
theorem of_same (hevents : after.events = s.events) (hmeters : after.meters = s.meters) :
    s.Accounts [] 0 after :=
  ⟨by rw [hevents, List.append_nil], hmeters, rfl, rfl⟩

theorem trans (h : s.Accounts lines m between) (h' : between.Accounts more n after) :
    s.Accounts (lines ++ more) (m + n) after := by
  constructor
  case events => rw [h'.events, h.events, List.append_assoc]
  case meters => rw [h'.meters, h.meters, List.foldl_append]
  case spans => rw [List.countP_append, List.countP_append, h.spans, h'.spans]
  case denials => rw [List.countP_append, h.denials, h'.denials]

/-- Whoever is turned away is so in what comes second. -/
theorem before (h : s.Accounts lines 0 between) (h' : between.Accounts more n after) :
    s.Accounts (lines ++ more) n after := by
  have hall := h.trans h'
  rw [Nat.zero_add] at hall
  exact hall

/-- A line that means nothing for the counters. -/
theorem tell (s : Session σ) {line : Event} (h : line.isCounted = false) :
    s.Accounts [line] 0 { s with told := line :: s.told } := by
  have hparts : (line.opensSpan = false ∧ line.closesSpan = false) ∧
      line.rejectsCaller = false := by
    simpa [Event.isCounted] using h
  obtain ⟨⟨hopens, hcloses⟩, hrejects⟩ := hparts
  constructor
  case events => exact List.reverse_cons
  case meters => exact (Meters.note_of_uncounted s.meters h).symm
  case spans => rw [List.countP_singleton, List.countP_singleton, hopens, hcloses]
  case denials => rw [List.countP_singleton, hrejects]; rfl

/-- A guard that lets the caller through goes on to what it protects. -/
theorem checked (caller : String) (h : (s.checked caller).Accounts lines n after) :
    s.Accounts (.callerChecked caller :: lines) n after :=
  (tell s rfl).before h

/-- A caller who is turned away is told of once and counted once. -/
theorem rejected (s : Session σ) (caller : String) :
    s.Accounts [.callerChecked caller, .callerRejected caller] 1 (s.rejected caller) :=
  checked caller ⟨List.reverse_cons, rfl, rfl, rfl⟩

/-- A span is one that opens and one that closes, whatever is in it. -/
theorem around (label : String) (h : (Recorder.openedState label s).Accounts lines n inside)
    (fault : Option Fault) :
    s.Accounts
      (.spanOpened (s.slot.chainId s.issued) (s.slot.depth + 1) label :: lines ++
        [.spanClosed (s.slot.chainId s.issued) (s.slot.depth + 1) label fault]) n
      (Recorder.closedState ⟨s.slot.chainId s.issued, s.slot.depth + 1, label⟩ fault inside) := by
  constructor
  case events =>
    rw [Recorder.events_closedState, h.events, Recorder.events_openedState]
    simp
  case meters =>
    -- a span that opens is not counted, only its closing is
    rw [Recorder.meters_closedState, h.meters, Recorder.meters_openedState, List.foldl_append]
    rfl
  case spans =>
    rw [List.cons_append, List.countP_cons, List.countP_cons, List.countP_append,
      List.countP_append, h.spans]
    rfl
  case denials =>
    rw [List.cons_append, List.countP_cons, List.countP_append, h.denials]
    rfl

/-- Slots take no part in this, so neither do scopes. -/
theorem leave {slot : Slot} (h : (s.enter slot).Accounts lines n inside) :
    s.Accounts lines n inside.leave := ⟨h.events, h.meters, h.spans, h.denials⟩

end Session.Accounts

/-! ### Work that accounts for its lines -/

instance (advices : List Advice) (caller : String) : Decidable (Registry.Admits advices caller) :=
  inferInstanceAs (Decidable (∀ guard ∈ advices.filterMap Advice.guard?, _))

theorem Registry.admits_checkCaller (guard : Guard) (rest : List Advice) (caller : String) :
    Admits (.checkCaller guard :: rest) caller ↔
      guard.allowed.admits caller = true ∧ Admits rest caller := List.forall_mem_cons

/-- What the work tells and counts is accounted for, and on these data so many
    callers are turned away by it. -/
def Work.Balances (denials : σ → Nat) (work : Work σ α) : Prop :=
  ∀ s : Session σ, ∃ lines, s.Accounts lines (denials s.data) (work s).2

namespace Work.Balances

variable {denials : σ → Nat}

theorem of_same {work : Work σ α}
    (h : ∀ s, (work s).2.events = s.events ∧ (work s).2.meters = s.meters) :
    work.Balances fun _ => 0 := by
  intro s
  exact ⟨[], .of_same (h s).1 (h s).2⟩

theorem of_pure (a : α) : Balances (fun _ => 0) (pure a : Work σ α) := of_same fun _ => ⟨rfl, rfl⟩

theorem tell {line : Event} (h : line.isCounted = false) :
    Balances (fun _ => 0) (Work.tell line : Work σ Unit) := by
  intro s
  exact ⟨[line], .tell s h⟩

/-- Work that turns as many callers away on all data may follow other work. -/
theorem bind {m n : Nat} {work : Work σ α} {next : α → Work σ β}
    (h : work.Balances fun _ => m) (hnext : ∀ a, (next a).Balances fun _ => n) :
    (work >>= next).Balances fun _ => m + n := by
  intro s
  obtain ⟨lines, hlines⟩ := h s
  obtain ⟨more, hmore⟩ := hnext (work s).1 (work s).2
  exact ⟨lines ++ more, hlines.trans hmore⟩

/-- Nothing is made of what the work gives. -/
theorem ignored {work : Work σ α} (h : work.Balances denials) :
    Balances denials (work >>= fun _ => pure () : Work σ Unit) := h

theorem protect (guard : Guard) (caller : String) {call : Work σ (Outcome α)}
    (h : call.Balances denials) :
    (guard.protect caller call).Balances fun data =>
      if guard.allowed.admits caller then denials data else 1 := by
  intro s
  show ∃ lines, s.Accounts lines (if guard.allowed.admits caller then denials s.data else 1) _
  cases hadmits : guard.allowed.admits caller with
  | true =>
    rw [Guard.protect_of_admits hadmits, if_pos rfl]
    obtain ⟨lines, hlines⟩ := h (s.checked caller)
    exact ⟨_, hlines.checked caller⟩
  | false =>
    rw [Guard.protect_of_rejects hadmits, if_neg Bool.false_ne_true]
    exact ⟨_, .rejected s caller⟩

theorem around (label : String) {call : Work σ (Outcome α)} (h : call.Balances denials) :
    (standard.around label call).Balances denials := by
  intro s
  obtain ⟨lines, hlines⟩ := h (Recorder.openedState label s)
  rw [Recorder.data_openedState] at hlines
  rw [Recorder.standard_around_run]
  exact ⟨_, hlines.around label _⟩

theorem inScope (seed : Option Id) {work : Work σ α} (h : work.Balances denials) :
    (Work.inScope seed work).Balances denials := by
  intro s
  obtain ⟨lines, hlines⟩ := h (s.enter { seed })
  exact ⟨lines, hlines.leave⟩

/-- **Behind advices**, the first guard that does not know the caller is the one
    that turns it away. Spans do not count. -/
theorem surround (operation caller : String) {call : Work σ (Outcome α)}
    (h : call.Balances denials) (advices : List Advice) :
    (Registry.surround standard operation caller call advices).Balances fun data =>
      if Registry.Admits advices caller then denials data else 1 := by
  induction advices with
  | nil =>
    have hadmits : Registry.Admits [] caller := List.forall_mem_nil _
    simp only [if_pos hadmits]
    exact h
  | cons advice rest ih =>
    cases advice with
    | traceCall => exact ih.around operation
    | checkCaller guard =>
      have hall := ih.protect guard caller
      simp only [Registry.admits_checkCaller, ite_and]
      exact hall

theorem invokeNow {registry : Registry σ} (hr : registry.recorder = standard) (operation : String)
    (caller : Option String) {call : Work σ (Outcome α)} (h : call.Balances denials) :
    (registry.invokeNow operation caller call).Balances fun data =>
      if Registry.Admits (registry.advices operation) (caller.getD Access.Caller.unknown)
      then denials data else 1 := by
  unfold Registry.invokeNow
  rw [hr]
  exact h.surround operation _ _

end Work.Balances

/-! ### Courses -/

/-- What becomes of a call, apart from what is told and counted. -/
structure Course (σ α : Type) where
  /-- The outcome of the call. -/
  outcome : Outcome α
  /-- The data after the call. -/
  data : σ
  /-- The number of times that a guard turned a caller away. -/
  denials : Nat

namespace Course

/-- The course of a call behind guards. A caller who is turned away changes
    nothing. -/
def behind (advices : List Advice) (caller : String) (course : σ → Course σ α) (data : σ) :
    Course σ α :=
  if Registry.Admits advices caller then course data else ⟨.error (.unauthorizedIp caller), data, 1⟩

/-- One course after the other. -/
def andThen (first : σ → Course σ α) (next : Outcome α → σ → Course σ β) (data : σ) :
    Course σ β :=
  let rest := next (first data).outcome (first data).data
  { rest with denials := (first data).denials + rest.denials }

section Behind

variable {guard : Guard} {rest : List Advice} {caller : String} {course : σ → Course σ α}

theorem behind_nil (caller : String) (course : σ → Course σ α) :
    behind [] caller course = course := by
  have hadmits : Registry.Admits [] caller := List.forall_mem_nil _
  funext data
  exact if_pos hadmits

theorem behind_of_admits (h : guard.allowed.admits caller = true) :
    behind (.checkCaller guard :: rest) caller course = behind rest caller course := by
  funext data
  unfold behind
  simp only [Registry.admits_checkCaller, h, true_and]

theorem behind_of_rejects (h : guard.allowed.admits caller = false) :
    behind (.checkCaller guard :: rest) caller course =
      fun data => ⟨.error (.unauthorizedIp caller), data, 1⟩ := by
  funext data
  unfold behind
  simp only [Registry.admits_checkCaller, h, Bool.false_eq_true, false_and, if_false]

end Behind

end Course

/-- From this state the work came to its end by this course, and what was told
    and counted on the way is accounted for. -/
structure Session.Follows (s : Session σ) (course : Course σ α) (ended : Outcome α × Session σ) :
    Prop where
  outcome : ended.1 = course.outcome
  data : ended.2.data = course.data
  accounts : ∃ lines, s.Accounts lines course.denials ended.2

/-- The work follows the course, wherever it begins. -/
def Work.Takes (course : σ → Course σ α) (work : Work σ (Outcome α)) : Prop :=
  ∀ s : Session σ, s.Follows (course s.data) (work s)

namespace Work.Takes

variable {course : σ → Course σ α}

theorem balances {work : Work σ (Outcome α)} (h : work.Takes course) :
    work.Balances fun data => (course data).denials := fun s => (h s).accounts

theorem of_pure (outcome : Outcome α) :
    Takes (fun data => ⟨outcome, data, 0⟩) (pure outcome : Work σ (Outcome α)) :=
  fun _ => ⟨rfl, rfl, [], .of_same rfl rfl⟩

theorem bind {work : Work σ (Outcome α)} {next : Outcome α → Work σ (Outcome β)}
    {course' : Outcome α → σ → Course σ β} (h : work.Takes course)
    (hnext : ∀ outcome, (next outcome).Takes (course' outcome)) :
    (work >>= next).Takes (Course.andThen course course') := by
  intro s
  obtain ⟨houtcome, hdata, lines, hlines⟩ := h s
  have hrest := hnext (work s).1 (work s).2
  rw [houtcome, hdata] at hrest
  obtain ⟨more, hmore⟩ := hrest.accounts
  rw [Work.bind_run, houtcome]
  exact ⟨hrest.outcome, hrest.data, lines ++ more, hlines.trans hmore⟩

/-- What becomes of a call in a span becomes of it without. -/
theorem around (label : String) {call : Work σ (Outcome α)} (h : call.Takes course) :
    (standard.around label call).Takes course := by
  intro s
  obtain ⟨houtcome, hdata, lines, hlines⟩ := h (Recorder.openedState label s)
  rw [Recorder.data_openedState] at houtcome hdata hlines
  rw [Recorder.standard_around_run]
  exact ⟨houtcome, (Recorder.data_closedState _ _ _).trans hdata, _, hlines.around label _⟩

/-- A guard that knows the caller is passed, and any other ends the call. -/
theorem protect (guard : Guard) {caller : String} {rest : List Advice}
    {call : Work σ (Outcome α)} (h : call.Takes (Course.behind rest caller course)) :
    (guard.protect caller call).Takes
      (Course.behind (.checkCaller guard :: rest) caller course) := by
  intro s
  cases hadmits : guard.allowed.admits caller with
  | true =>
    obtain ⟨houtcome, hdata, lines, hlines⟩ := h (s.checked caller)
    rw [Guard.protect_of_admits hadmits, Course.behind_of_admits hadmits]
    exact ⟨houtcome, hdata, _, hlines.checked caller⟩
  | false =>
    rw [Guard.protect_of_rejects hadmits, Course.behind_of_rejects hadmits]
    exact ⟨rfl, rfl, _, .rejected s caller⟩

theorem surround (operation caller : String) {call : Work σ (Outcome α)} (h : call.Takes course)
    (advices : List Advice) :
    (Registry.surround standard operation caller call advices).Takes
      (Course.behind advices caller course) := by
  induction advices with
  | nil =>
    rw [Course.behind_nil]
    exact h
  | cons advice rest ih =>
    cases advice with
    | traceCall => exact ih.around operation
    | checkCaller guard => exact ih.protect guard

/-- A task that wants a scope takes the same course in each. -/
theorem inSomeScope {task : Task σ (Outcome α)} (hstays : task.StaysInScope)
    (h : task.toWork.Takes course) : task.inSomeScope.toWork.Takes course := by
  intro s
  by_cases hs : s.scopes = []
  · -- a new scope, around all of the task
    obtain ⟨houtcome, hdata, lines, hlines⟩ := h (s.enter {})
    rw [Task.toWork_inSomeScope hstays hs]
    exact ⟨houtcome, hdata, lines, hlines.leave⟩
  · have hrun : task.inSomeScope.toWork s = task.toWork s := by
      show (if s.scopes.isEmpty then task.inScope none else task).toWork s = _
      rw [Task.next_inSomeScope task hs]
    rw [hrun]
    exact h s

theorem surroundTask (operation caller : String) {call : Task σ (Outcome α)}
    (hstays : call.StaysInScope) (h : call.toWork.Takes course) (advices : List Advice) :
    (Registry.surroundTask standard operation caller call advices).toWork.Takes
      (Course.behind advices caller course) := by
  -- guards and spans are those of a direct call; only the scope is new
  induction advices with
  | nil =>
    rw [Course.behind_nil]
    exact h
  | cons advice rest ih =>
    have hr : (standard : Recorder σ).StaysInScope := Recorder.staysInScope_standard
    have hrest : (Registry.surroundTask standard operation caller call rest).StaysInScope :=
      Registry.staysInScope_surroundTask hr hstays rest
    cases advice with
    | checkCaller guard =>
      rw [Registry.toWork_checked]
      exact ih.protect guard
    | traceCall =>
      refine inSomeScope (Registry.staysInScope_spanTask hr hrest) ?_
      show (Registry.spanTask standard operation _).toWork.Takes _
      rw [Registry.toWork_spanTask]
      exact ih.around operation

end Work.Takes

/-! ### The courses of scripts -/

namespace Script

/-- What becomes of a script under a registry. The manner of its calls makes no
    difference, and neither do spans. -/
def course (r : Registry σ) : Script σ α → σ → Course σ α
  | done outcome, data => ⟨outcome, data, 0⟩
  | step change next, data => (next data).course r (change data)
  | pause next, data => next.course r data
  | call _ operation caller inner next, data =>
    Course.andThen
      (Course.behind (r.advices operation) (caller.getD Access.Caller.unknown) (inner.course r))
      (fun outcome => (next outcome).course r) data

/-- The script of a call that works on the data once. -/
def single (operation : String) (body : σ → Outcome α × σ) : Script σ α :=
  call .direct operation none
    (step (fun data => (body data).2) fun before => done (body before).1) done

theorem work_single (r : Registry σ) (operation : String) (body : σ → Outcome α × σ) :
    (single operation body).work r = r.invokeNow operation none (Work.onData body) := by
  have hbody : (step (fun data => (body data).2) fun before => done (body before).1).work r =
      Work.onData body := by
    funext s
    rfl
  show (r.invokeNow operation none (Script.work r _) >>= fun outcome => pure outcome) = _
  rw [hbody]
  rfl

/-- The body turns nobody away, so the guards decide. -/
theorem denials_single (r : Registry σ) (operation : String) (body : σ → Outcome α × σ)
    (data : σ) :
    ((single operation body).course r data).denials =
      if Registry.Admits (r.advices operation) Access.Caller.unknown then 0 else 1 := by
  show (Course.behind _ Access.Caller.unknown _ data).denials = _
  unfold Course.behind
  split
  · rfl
  · rfl

variable {r : Registry σ}

theorem takes_before {change : σ → σ} {next : σ → Work σ (Outcome α)}
    {course : σ → σ → Course σ α} (h : ∀ before, (next before).Takes (course before)) :
    (before change >>= next).Takes fun data => course data (change data) := by
  intro s
  obtain ⟨houtcome, hdata, lines, hlines⟩ := h s.data { s with data := change s.data }
  have hstart : s.Accounts [] 0 { s with data := change s.data } := .of_same rfl rfl
  exact ⟨houtcome, hdata, _, hstart.before hlines⟩

variable (hr : r.recorder = standard)
include hr

/-- **A script takes its course**, if all calls are made directly. -/
theorem takes_work (p : Script σ α) : (p.work r).Takes (p.course r) := by
  induction p with
  | done outcome => exact .of_pure outcome
  | step change next ih => exact takes_before ih
  | pause next ih => exact ih
  | call manner operation caller inner next ihInner ihNext =>
    have hcall := ihInner.surround operation (caller.getD Access.Caller.unknown)
      (r.advices operation)
    rw [← hr] at hcall
    exact hcall.bind ihNext

/-- **So it does as a task** that awaits some of its calls. -/
theorem takes_task (p : Script σ α) : (p.task r).toWork.Takes (p.course r) := by
  induction p with
  | done outcome => exact .of_pure outcome
  | step change next ih =>
    show (Task.ofWork (before change) >>= fun data => (next data).task r).toWork.Takes _
    rw [Task.toWork_bind]
    exact takes_before ih
  | pause next ih => exact ih
  | call manner operation caller inner next ihInner ihNext =>
    cases manner with
    | direct =>
      -- what is within a direct call is direct, whatever the script says
      have hcall := (takes_work hr inner).surround operation
        (caller.getD Access.Caller.unknown) (r.advices operation)
      rw [← hr] at hcall
      show (Task.ofWork (r.invokeNow operation caller (inner.work r)) >>=
        fun outcome => (next outcome).task r).toWork.Takes _
      rw [Task.toWork_bind]
      exact hcall.bind ihNext
    | awaited =>
      have hstays : (inner.task r).StaysInScope :=
        inner.staysInScope_task (hr ▸ Recorder.staysInScope_standard)
      have hcall := ihInner.surroundTask operation (caller.getD Access.Caller.unknown) hstays
        (r.advices operation)
      rw [← hr] at hcall
      show (r.invoke operation caller (inner.task r) >>=
        fun outcome => (next outcome).task r).toWork.Takes _
      rw [Task.toWork_bind]
      exact hcall.bind ihNext

end Script

/-! ### The balance of a log -/

/-- Counters and log say the same, and so many callers were turned away. -/
structure Session.Reconciled (s : Session σ) (denials : Nat) : Prop where
  /-- The time of as many spans was recorded as were opened. -/
  opened : s.meters.spans = s.events.countP Event.opensSpan
  /-- As many were closed. -/
  closed : s.meters.spans = s.events.countP Event.closesSpan
  /-- Failed spans are counted under the kinds of their faults. -/
  kinds : ∀ kind, s.meters.faults kind = s.events.countP (Event.closesWith kind)
  /-- Over all kinds, these are the spans that closed in a fault. -/
  failed : s.meters.failures = s.events.countP Event.closesInFault
  /-- Callers who are turned away are told of. -/
  rejected : s.meters.denials = s.events.countP Event.rejectsCaller
  /-- Each of them is counted once. -/
  denials : s.meters.denials = denials

namespace Session.Reconciled

variable {s after : Session σ} {lines : List Event} {m n : Nat}

/-- A session with nothing in its log and all counters at zero. -/
theorem of_blank (s : Session σ) : Reconciled { s with told := [], meters := {} } 0 :=
  ⟨rfl, rfl, fun _ => rfl, rfl, rfl, rfl⟩

/-- **Whatever accounts for its lines keeps the balance.** -/
theorem accounts (h : s.Reconciled m) (hlines : s.Accounts lines n after) :
    after.Reconciled (m + n) := by
  constructor
  case opened =>
    rw [hlines.meters, Meters.spans_notes, h.opened, hlines.events, List.countP_append,
      hlines.spans]
  case closed =>
    rw [hlines.meters, Meters.spans_notes, h.closed, hlines.events, List.countP_append]
  case kinds =>
    intro kind
    rw [hlines.meters, Meters.faults_notes, h.kinds, hlines.events, List.countP_append]
  case failed =>
    rw [hlines.meters, Meters.failures_notes, h.failed, hlines.events, List.countP_append]
  case rejected =>
    rw [hlines.meters, Meters.denials_notes, h.rejected, hlines.events, List.countP_append]
  case denials =>
    rw [hlines.meters, Meters.denials_notes, h.denials, hlines.denials]

end Session.Reconciled
end HolidayApi.Call
