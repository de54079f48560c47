import HolidayApi.Proofs.Call.Chain

/-! # What a call warns of

    A fault that nobody expects makes a warning of every span that it passes
    on its way out, and a guard that turns a caller away warns of that by
    itself. A fault that is expected is passed on in silence.

    * `Alarms place` says this of an outcome and the lines told on the way to
      it, where `place` knows how many spans are open where a fault arises.
    * There is a rule for each thing that surrounds a call: a guard is one more
      place where a fault may arise (`Warns.protect`), a span is one more that
      is open in all places (`Warns.around`), and `Warns.surround` is both for
      the advices of an operation.
-/

namespace HolidayApi.Call

open HolidayApi.Access (Guard)
open Recorder (standard)

variable {σ α β : Type}

/-! ### Counting lines -/

namespace Event

/-- The event is a warning. -/
def isWarning (line : Event) : Bool := line.severity = .warn

/-- The event is an error. -/
def isError (line : Event) : Bool := line.severity = .error

/-- The event opens a span. -/
def opensSpan : Event → Bool
  | spanOpened .. => true
  | _ => false

end Event

/-- The number of warnings that a fault makes which arises within so many
    spans. -/
def warningsOf (fault : Fault) (spans : Nat) : Nat :=
  if fault.isKnown then 0 else spans + if fault.kind = .unauthorizedIp then 1 else 0

/-- A span that the fault passes is one more warning, unless the fault is
    expected. -/
theorem warningsOf_succ (fault : Fault) (spans : Nat) (trace : Id) (level : Nat)
    (label : String) :
    warningsOf fault (spans + 1) = warningsOf fault spans +
      if (Event.spanClosed trace level label (some fault)).isWarning then 1 else 0 := by
  have hwarning : (Event.spanClosed trace level label (some fault)).isWarning = !fault.isKnown := by
    cases fault <;> rfl
  unfold warningsOf
  rw [hwarning]
  cases fault.isKnown with
  | true => rfl
  | false =>
    simp only [Bool.false_eq_true, if_false, Bool.not_false, if_true]
    omega

/-- On the way to the outcome these lines were told. There is no error among
    them. On the way to a success there is no warning either; on the way to a
    fault there are those that it makes where it arises, in the spans that
    were opened on the way. -/
def Alarms (place : Fault → Nat → Prop) (outcome : Outcome α) (lines : List Event) : Prop :=
  lines.countP Event.isError = 0 ∧
    match outcome with
    | .ok _ => lines.countP Event.isWarning = 0
    | .error fault => ∃ spans, place fault spans ∧ lines.countP Event.opensSpan = spans ∧
      lines.countP Event.isWarning = warningsOf fault spans

namespace Alarms

variable {place place' : Fault → Nat → Prop} {outcome : Outcome α} {lines : List Event}

theorem mono (hplace : ∀ fault spans, place fault spans → place' fault spans)
    (h : Alarms place outcome lines) : Alarms place' outcome lines := by
  obtain ⟨herrors, hwarnings⟩ := h
  refine ⟨herrors, ?_⟩
  cases outcome with
  | ok value => exact hwarnings
  | error fault =>
    obtain ⟨spans, hspans, hcount⟩ := hwarnings
    exact ⟨spans, hplace fault spans hspans, hcount⟩

/-- Without any lines there are no alarms, except of a caller turned away. -/
theorem of_nil
    (h : ∀ fault, outcome = .error fault → fault.kind ≠ .unauthorizedIp ∧ place fault 0) :
    Alarms place outcome [] := by
  refine ⟨rfl, ?_⟩
  cases outcome with
  | ok value => exact rfl
  | error fault =>
    obtain ⟨hkind, hplace⟩ := h fault rfl
    refine ⟨0, hplace, rfl, ?_⟩
    unfold warningsOf
    rw [if_neg hkind, ite_self]
    rfl

/-- A guard that looks at a caller says so, which is no warning. -/
theorem checked (h : Alarms place outcome lines) (caller : String) :
    Alarms place outcome (.callerChecked caller :: lines) := by
  obtain ⟨herrors, hwarnings⟩ := h
  refine ⟨herrors, ?_⟩
  cases outcome with
  | ok value => exact hwarnings
  | error fault => exact hwarnings

/-- A guard that turns a caller away warns of it. -/
theorem rejected (caller : String) (h : place (.unauthorizedIp caller) 0) :
    Alarms place (.error (.unauthorizedIp caller) : Outcome α)
      [.callerChecked caller, .callerRejected caller] :=
  ⟨rfl, 0, h, rfl, rfl⟩

/-- In a span there is one more span open wherever a fault arises. -/
theorem around (h : Alarms place outcome lines) (trace : Id) (level : Nat) (label : String) :
    Alarms (fun fault spans => ∃ inner, place fault inner ∧ spans = inner + 1) outcome
      (.spanOpened trace level label :: lines ++
        [.spanClosed trace level label (Recorder.faultOf outcome)]) := by
  have hopening : (Event.spanOpened trace level label).isWarning = false := rfl
  obtain ⟨herrors, hwarnings⟩ := h
  refine ⟨?_, ?_⟩
  · -- a span that closes is at most a warning
    have hclosing : ∀ fault, (Event.spanClosed trace level label fault).isError = false := by
      intro fault
      cases fault with
      | none => rfl
      | some fault => cases fault <;> rfl
    rw [List.cons_append, List.countP_cons, List.countP_append, herrors, List.countP_singleton,
      hclosing]
    rfl
  · cases outcome with
    | ok value =>
      rw [List.cons_append, List.countP_cons, List.countP_append, hwarnings, hopening]
      rfl
    | error fault =>
      obtain ⟨spans, hspans, hopenings, hwarnings⟩ := hwarnings
      refine ⟨spans + 1, ⟨spans, hspans, rfl⟩, ?_, ?_⟩
      · rw [List.cons_append, List.countP_cons, List.countP_append, hopenings]
        rfl
      · rw [List.cons_append, List.countP_cons, List.countP_append, hwarnings, hopening,
          List.countP_singleton, warningsOf_succ fault spans trace level label]
        rfl

end Alarms

/-! ### Work -/

/-- The lines that the work tells are those of its outcome. -/
def Work.Warns (place : Fault → Nat → Prop) (work : Work σ (Outcome α)) : Prop :=
  ∀ s : Session σ, ∃ lines : List Event, s.Continues lines (work s).2 ∧
    Alarms place (work s).1 lines

/-- Where a fault arises behind guards and perhaps in a span: a guard turns the
    caller away before there is a span, or the fault arises within. -/
inductive Behind (admitted : Prop) (caller : String) (traced : Bool)
    (place : Fault → Nat → Prop) : Fault → Nat → Prop where
  | turnedAway : ¬ admitted → Behind admitted caller traced place (.unauthorizedIp caller) 0
  | within {fault : Fault} {spans : Nat} : admitted → place fault spans →
      Behind admitted caller traced place fault (spans + traced.toNat)

namespace Work.Warns

variable {place place' : Fault → Nat → Prop}

theorem mono {work : Work σ (Outcome α)}
    (hplace : ∀ fault spans, place fault spans → place' fault spans) (h : work.Warns place) :
    work.Warns place' := by
  intro s
  obtain ⟨lines, hlines, halarms⟩ := h s
  exact ⟨lines, hlines, halarms.mono hplace⟩

/-- What follows a success tells nothing more, and a fault is passed on. -/
theorem bind {work : Work σ (Outcome α)} {next : Outcome α → Work σ (Outcome β)}
    (h : work.Warns place) (hok : ∀ value s, ∃ b, next (.ok value) s = (.ok b, s))
    (herror : ∀ fault s, next (.error fault) s = (.error fault, s)) :
    (work >>= next).Warns place := by
  intro s
  obtain ⟨lines, hlines, halarms⟩ := h s
  rw [Work.bind_run]
  cases houtcome : (work s).1 with
  | ok value =>
    obtain ⟨b, hb⟩ := hok value (work s).2
    rw [hb]
    rw [houtcome] at halarms
    exact ⟨lines, hlines, halarms⟩
  | error fault =>
    rw [herror]
    rw [houtcome] at halarms
    exact ⟨lines, hlines, halarms⟩

theorem protect (guard : Guard) (caller : String) {call : Work σ (Outcome α)}
    (h : call.Warns place) :
    (guard.protect caller call).Warns
      (Behind (guard.allowed.admits caller = true) caller false place) := by
  intro s
  cases hadmits : guard.allowed.admits caller with
  | true =>
    rw [Guard.protect_of_admits hadmits]
    obtain ⟨lines, hlines, halarms⟩ := h (s.checked caller)
    refine ⟨_, (Session.Continues.checked s caller).trans hlines, .checked ?_ caller⟩
    exact halarms.mono fun fault spans hspans => .within rfl hspans
  | false =>
    rw [Guard.protect_of_rejects hadmits]
    exact ⟨_, .rejected s caller, .rejected caller (.turnedAway Bool.false_ne_true)⟩

theorem around (label : String) {call : Work σ (Outcome α)} (h : call.Warns place) :
    (standard.around label call).Warns
      fun fault spans => ∃ inner, place fault inner ∧ spans = inner + 1 := by
  intro s
  rw [Recorder.standard_around_run]
  obtain ⟨lines, hlines, halarms⟩ := h (Recorder.openedState label s)
  exact ⟨_, hlines.around label _, halarms.around _ _ _⟩

/-- **The advices of an operation**, guards first and then perhaps the span. -/
theorem surround (operation caller : String) (guards : List Guard) (traced : Bool)
    {call : Work σ (Outcome α)} (h : call.Warns place) :
    (Registry.surround standard operation caller call
        (guards.map Advice.checkCaller ++ if traced then [.traceCall] else [])).Warns
      (Behind (∀ guard ∈ guards, guard.allowed.admits caller = true) caller traced place) := by
  induction guards with
  | nil =>
    cases traced with
    | false => exact h.mono fun fault spans hspans => .within (by simp) hspans
    | true =>
      refine (h.around operation).mono ?_
      rintro fault spans ⟨inner, hinner, rfl⟩
      exact .within (by simp) hinner
  | cons guard rest ih =>
    refine (ih.protect guard caller).mono ?_
    intro fault spans hspans
    -- the first guard that turns the caller away is this one or a later one
    cases hspans with
    | turnedAway hrejects =>
      exact .turnedAway fun hall => hrejects (hall guard List.mem_cons_self)
    | within hadmits hrest =>
      cases hrest with
      | turnedAway hrejects =>
        exact .turnedAway fun hall => hrejects fun g hg => hall g (List.mem_cons_of_mem guard hg)
      | within hrest hspans =>
        refine .within ?_ hspans
        intro g hg
        rcases List.mem_cons.mp hg with rfl | hg
        · exact hadmits
        · exact hrest g hg

end Work.Warns

/-! ### Registries -/

namespace Registry

/-- Among the advices of every operation the guards come first, and then the
    span if there is one. -/
def GuardsFirst (r : Registry σ) : Prop := ∀ operation, r.advices operation =
  (r.guards operation).map Advice.checkCaller ++
    if r.isTraced operation then [.traceCall] else []

theorem guardsFirst_built (policy : Policy) (steps : List Declaration) (recorder : Recorder σ) :
    ((Declarations.ofSteps policy steps).registry recorder).GuardsFirst := by
  intro operation
  have hadvices := Declarations.advices_ofSteps policy steps recorder operation
  have hguards := guards_ofSteps policy steps recorder operation
  have htraced : ((Declarations.ofSteps policy steps).registry recorder).isTraced operation =
      decide (operation ∈ steps.map Declaration.name ∧ policy.selects operation = true) := by
    unfold isTraced
    rw [hadvices]
    by_cases h : operation ∈ steps.map Declaration.name ∧ policy.selects operation = true
    · rw [if_pos h, decide_eq_true h]
      simp
    · rw [if_neg h, decide_eq_false h]
      simp
  rw [hguards, htraced, hadvices]
  simp only [decide_eq_true_eq]

theorem warns_invokeNow {r : Registry σ} (hr : r.recorder = standard) (hfirst : r.GuardsFirst)
    (operation : String) (caller : Option String) {place : Fault → Nat → Prop}
    {call : Work σ (Outcome α)} (h : call.Warns place) :
    (r.invokeNow operation caller call).Warns
      (Behind (∀ guard ∈ r.guards operation,
          guard.allowed.admits (caller.getD Access.Caller.unknown) = true)
        (caller.getD Access.Caller.unknown) (r.isTraced operation) place) := by
  unfold invokeNow
  rw [hr, hfirst operation]
  exact Work.Warns.surround operation _ _ _ h

end Registry
end HolidayApi.Call
