import HolidayApi.Proofs.Call.Advice
import HolidayApi.Proofs.Call.Slots

/-! # Two runs side by side

    Two pieces of work are alike for a relation on states if they give the
    same value and keep the relation. The rules follow the way in which work
    is put together, down to the advices of an operation.

    * `KeptByCalls`: what a relation has to satisfy so that guards and work on
      the data are alike to themselves. What a span does is left to the
      relation.
    * `BlindToSpans`: relations to which spans mean nothing. For these, two
      operations are alike as soon as they have the same guards, whichever of
      them is traced.
    * `SameButTraces` is the coarsest relation of this kind that still shows
      the data and what guards tell and count.
-/

namespace HolidayApi.Call

open HolidayApi.Access (Guard)

/-! ### Alike work -/

variable {σ α β γ : Type} {R : Session σ → Session σ → Prop}

/-- Begun in related states, both pieces of work give the same value and end
    in related states. -/
def Work.Alike (R : Session σ → Session σ → Prop) (first second : Work σ α) : Prop :=
  ∀ s t, R s t → (first s).1 = (second t).1 ∧ R (first s).2 (second t).2

namespace Work.Alike

theorem of_pure (a : α) : Alike R (pure a) (pure a) := by
  intro s t h
  exact ⟨rfl, h⟩

theorem bind {first second : Work σ α} {next next' : α → Work σ β} (h : Alike R first second)
    (hnext : ∀ a, Alike R (next a) (next' a)) : Alike R (first >>= next) (second >>= next') := by
  intro s t hst
  obtain ⟨hvalue, hafter⟩ := h s t hst
  rw [Work.bind_run, Work.bind_run, hvalue]
  exact hnext _ _ _ hafter

theorem symm (hR : ∀ {s t}, R s t → R t s) {first second : Work σ α} (h : Alike R first second) :
    Alike R second first := by
  intro s t hst
  obtain ⟨hvalue, hafter⟩ := h t s (hR hst)
  exact ⟨hvalue.symm, hR hafter⟩

theorem mapM {f g : β → Work σ α} (xs : List β) (h : ∀ x ∈ xs, Alike R (f x) (g x)) :
    Alike R (xs.mapM f) (xs.mapM g) := by
  induction xs with
  | nil => exact of_pure []
  | cons x rest ih =>
    rw [List.mapM_cons, List.mapM_cons]
    refine bind (h x List.mem_cons_self) fun a => bind (ih ?_) fun as => of_pure (a :: as)
    intro y hy
    exact h y (List.mem_cons_of_mem x hy)

end Work.Alike

/-! ### Relations that calls keep -/

/-- The relation holds of states with the same data, and guards and work on
    the data keep it. -/
structure KeptByCalls (R : Session σ → Session σ → Prop) : Prop where
  data : ∀ {s t}, R s t → s.data = t.data
  put : ∀ {s t} data, R s t → R { s with data } { t with data }
  checked : ∀ {s t} caller, R s t → R (s.checked caller) (t.checked caller)
  rejected : ∀ {s t} caller, R s t → R (s.rejected caller) (t.rejected caller)

namespace KeptByCalls

theorem onData (hR : KeptByCalls R) (step : σ → α × σ) :
    Work.Alike R (Work.onData step) (Work.onData step) := by
  intro s t hst
  rw [Work.onData_run, Work.onData_run, hR.data hst]
  exact ⟨rfl, hR.put _ hst⟩

theorem check (hR : KeptByCalls R) (guard : Guard) (caller : String) :
    Work.Alike R (guard.check caller) (guard.check caller) := by
  intro s t hst
  cases hadmits : guard.allowed.admits caller with
  | true =>
    rw [Guard.check_of_admits hadmits, Guard.check_of_admits hadmits]
    exact ⟨rfl, hR.checked caller hst⟩
  | false =>
    rw [Guard.check_of_rejects hadmits, Guard.check_of_rejects hadmits]
    exact ⟨rfl, hR.rejected caller hst⟩

theorem protect (hR : KeptByCalls R) (guard : Guard) (caller : String)
    {call call' : Work σ (Outcome α)} (h : Work.Alike R call call') :
    Work.Alike R (guard.protect caller call) (guard.protect caller call') := by
  refine (hR.check guard caller).bind fun verdict => ?_
  cases verdict with
  | ok _ => exact h
  | error fault => exact .of_pure _

theorem surround (hR : KeptByCalls R) {recorder : Recorder σ} {operation caller : String}
    (hspan : ∀ label {call call' : Work σ (Outcome α)}, Work.Alike R call call' →
      Work.Alike R (recorder.around label call) (recorder.around label call'))
    {call call' : Work σ (Outcome α)} (h : Work.Alike R call call') (advices : List Advice) :
    Work.Alike R (Registry.surround recorder operation caller call advices)
      (Registry.surround recorder operation caller call' advices) := by
  induction advices with
  | nil => exact h
  | cons advice rest ih =>
    cases advice with
    | checkCaller guard => exact hR.protect guard caller ih
    | traceCall => exact hspan operation ih

end KeptByCalls

/-! ### Relations that spans keep -/

/-- It makes no difference to the relation whether a span is open. -/
structure BlindToSpans (R : Session σ → Session σ → Prop) : Prop extends KeptByCalls R where
  symm : ∀ {s t}, R s t → R t s
  opened : ∀ {s t} label, R s t → R (Recorder.openedState label s) t
  closed : ∀ {s t} span fault, R s t → R (Recorder.closedState span fault s) t

namespace BlindToSpans

open Recorder (standard)

theorem around_left (hR : BlindToSpans R) (label : String) {call call' : Work σ (Outcome α)}
    (h : Work.Alike R call call') : Work.Alike R (standard.around label call) call' := by
  intro s t hst
  obtain ⟨hvalue, hafter⟩ := h _ _ (hR.opened label hst)
  rw [Recorder.standard_around_run]
  exact ⟨hvalue, hR.closed _ _ hafter⟩

theorem around_right (hR : BlindToSpans R) (label : String) {call call' : Work σ (Outcome α)}
    (h : Work.Alike R call call') : Work.Alike R call (standard.around label call') :=
  (hR.around_left label (h.symm hR.symm)).symm hR.symm

theorem around (hR : BlindToSpans R) (label : String) {call call' : Work σ (Outcome α)}
    (h : Work.Alike R call call') :
    Work.Alike R (standard.around label call) (standard.around label call') :=
  hR.around_left label (hR.around_right label h)

theorem surround (hR : BlindToSpans R) {operation caller : String}
    {call call' : Work σ (Outcome α)} (h : Work.Alike R call call')
    {advices advices' : List Advice}
    (hguards : advices.filterMap Advice.guard? = advices'.filterMap Advice.guard?) :
    Work.Alike R (Registry.surround standard operation caller call advices)
      (Registry.surround standard operation caller call' advices') := by
  -- a span on either side is passed by itself, guards are passed in pairs
  induction advices generalizing advices' with
  | nil =>
    induction advices' with
    | nil => exact h
    | cons advice' rest' ih' =>
      cases advice' with
      | checkCaller guard' => simp [Advice.guard?] at hguards
      | traceCall => exact hR.around_right operation (ih' hguards)
  | cons advice rest ih =>
    cases advice with
    | traceCall => exact hR.around_left operation (ih hguards)
    | checkCaller guard =>
      induction advices' with
      | nil => simp [Advice.guard?] at hguards
      | cons advice' rest' ih' =>
        cases advice' with
        | traceCall =>
          exact hR.around_right operation (ih' hguards)
        | checkCaller guard' =>
          simp only [List.filterMap_cons, Advice.guard?, List.cons.injEq] at hguards
          obtain ⟨rfl, hrest⟩ := hguards
          exact hR.protect guard caller (ih hrest)

theorem invokeNow (hR : BlindToSpans R) {r r' : Registry σ} (hr : r.recorder = standard)
    (hr' : r'.recorder = standard) {operation : String}
    (hguards : r.guards operation = r'.guards operation) (caller : Option String)
    {call call' : Work σ (Outcome α)} (h : Work.Alike R call call') :
    Work.Alike R (r.invokeNow operation caller call) (r'.invokeNow operation caller call') := by
  unfold Registry.invokeNow
  rw [hr, hr']
  exact hR.surround h hguards

end BlindToSpans

/-! ### The same but for traces -/

/-- Whether the event tells which operations are traced, or is a line of a
    call tree. -/
def Event.aboutTraces : Event → Bool
  | operationRegistered .. | spanOpened .. | spanClosed .. => true
  | _ => false

namespace Session

/-- The events that are not about traces, in the order in which they were told. -/
def untraced (s : Session σ) : List Event := s.events.filter fun event => !event.aboutTraces

/-- The states differ at most in what traces leave behind: their lines, the
    measures of their spans, the slots and the ids. -/
structure SameButTraces (s t : Session σ) : Prop where
  data : s.data = t.data
  untraced : s.untraced = t.untraced
  denials : s.meters.denials = t.meters.denials

theorem untraced_of_events {before after : Session σ} {event : Event}
    (h : after.events = before.events ++ [event]) :
    after.untraced = before.untraced ++ [event].filter fun event => !event.aboutTraces := by
  unfold untraced
  rw [h, List.filter_append]

theorem events_checked (s : Session σ) (caller : String) :
    (s.checked caller).events = s.events ++ [.callerChecked caller] := List.reverse_cons

theorem events_rejected (s : Session σ) (caller : String) :
    (s.rejected caller).events = (s.checked caller).events ++ [.callerRejected caller] :=
  List.reverse_cons

theorem SameButTraces.untraced_snoc {s t s' t' : Session σ} (h : s.SameButTraces t)
    {event : Event} (hs : s'.events = s.events ++ [event]) (ht : t'.events = t.events ++ [event]) :
    s'.untraced = t'.untraced := by
  rw [untraced_of_events hs, untraced_of_events ht, h.untraced]

theorem blindToSpans_sameButTraces : BlindToSpans (SameButTraces (σ := σ)) where
  data h := h.data
  put data h := ⟨rfl, h.untraced, h.denials⟩
  checked caller h :=
    ⟨h.data, h.untraced_snoc (events_checked _ caller) (events_checked _ caller), h.denials⟩
  rejected caller h := by
    have hchecked := h.untraced_snoc (events_checked _ caller) (events_checked _ caller)
    refine ⟨h.data, ?_, congrArg (· + 1) h.denials⟩
    rw [untraced_of_events (events_rejected _ caller), untraced_of_events (events_rejected _ caller),
      hchecked]
  symm h := ⟨h.data.symm, h.untraced.symm, h.denials.symm⟩
  opened {s t} label h := by
    refine ⟨(Recorder.data_openedState label s).trans h.data, ?_, ?_⟩
    · rw [untraced_of_events (Recorder.events_openedState label s)]
      exact (List.append_nil _).trans h.untraced
    · rw [Recorder.meters_openedState]
      exact h.denials
  closed {s t} span fault h := by
    refine ⟨(Recorder.data_closedState span fault s).trans h.data, ?_, ?_⟩
    · rw [untraced_of_events (Recorder.events_closedState span fault s)]
      exact (List.append_nil _).trans h.untraced
    · rw [Recorder.meters_closedState]
      exact h.denials

end Session

end HolidayApi.Call
