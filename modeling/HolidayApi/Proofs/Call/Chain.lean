import HolidayApi.Proofs.Call.Advice
import HolidayApi.Proofs.Call.Slots

/-! # Lines of one chain

    The lines of a call tree carry the id of their chain. While no span is
    open, every call starts a chain of its own, so two calls one after another
    may tell two ids. Calls within one another never do.

    * `Quiet` work tells no line of a tree, `OneChain` work tells lines of a
      single one, and both leave the slots as they were.
    * The rules follow the way in which operations are put together: work of
      one chain stays so behind guards, within spans and before quiet work.
    * What a call finds out about its slot is found in the chain if a span is
      around it (`surround_found`).
-/

namespace HolidayApi.Call

open HolidayApi.Access (Guard)
open Recorder (standard)

variable {σ α β : Type}

/-! ### Lines -/

/-- The id that a line of a call tree carries; no other event carries one. -/
def Event.trace? : Event → Option Id
  | spanOpened trace .. | spanClosed trace .. => some trace
  | _ => none

/-- The event is no line of a call tree, or it is one under this id. -/
def Event.InChain (line : Event) (id : Id) : Prop := ∀ trace, line.trace? = some trace → trace = id

theorem Event.inChain_of_none {line : Event} (h : line.trace? = none) (id : Id) :
    line.InChain id := by
  intro trace htrace
  rw [h] at htrace
  cases htrace

theorem Event.inChain_of_some {line : Event} {id : Id} (h : line.trace? = some id) :
    line.InChain id := by
  intro trace htrace
  rw [h] at htrace
  exact (Option.some.inj htrace).symm

/-- What a line of a call tree shows besides its message is its id. -/
theorem Event.fields_of_trace? {line : Event} {trace : Id} (h : line.trace? = some trace)
    (name : Nat → String) : line.fields name = [("trace_id", .shown (trace.text name))] := by
  cases line with
  | spanOpened id level label =>
    cases h
    rfl
  | spanClosed id level label fault =>
    cases h
    rfl
  | _ => cases h

/-! ### What is told on the way -/

/-- On the way from one state to the other these events were told, and in the
    end all slots are as they were. -/
structure Session.Continues (s : Session σ) (lines : List Event) (after : Session σ) : Prop where
  events : after.events = s.events ++ lines
  slots : after.SameSlots s

namespace Session.Continues

variable {s between after : Session σ} {lines more : List Event}

theorem refl (s : Session σ) : Continues s [] s := ⟨(List.append_nil _).symm, .refl s⟩

theorem trans (h : Continues s lines between) (h' : Continues between more after) :
    Continues s (lines ++ more) after := by
  refine ⟨?_, h'.slots.trans h.slots⟩
  rw [h'.events, h.events, List.append_assoc]

/-- One event that has nothing to do with the slots. -/
theorem tell (s : Session σ) (event : Event) (meters : Meters) :
    Continues s [event] { s with told := event :: s.told, meters } :=
  ⟨List.reverse_cons, ⟨rfl, rfl⟩⟩

theorem checked (s : Session σ) (caller : String) :
    Continues s [.callerChecked caller] (s.checked caller) := tell s _ s.meters

theorem rejected (s : Session σ) (caller : String) :
    Continues s [.callerChecked caller, .callerRejected caller] (s.rejected caller) :=
  (checked s caller).trans (tell (s.checked caller) _ _)

/-- What a span tells: that it opens, what is told within it, and that it
    closes. -/
theorem around (label : String) {inside : Session σ}
    (h : (Recorder.openedState label s).Continues lines inside) (fault : Option Fault) :
    s.Continues
      (.spanOpened (s.slot.chainId s.issued) (s.slot.depth + 1) label :: lines ++
        [.spanClosed (s.slot.chainId s.issued) (s.slot.depth + 1) label fault])
      (Recorder.closedState ⟨s.slot.chainId s.issued, s.slot.depth + 1, label⟩ fault inside) := by
  refine ⟨?_, Recorder.sameSlots_closedState _ fault h.slots⟩
  rw [Recorder.events_closedState, h.events, Recorder.events_openedState]
  simp

end Session.Continues

namespace Work

/-- The work tells no line of a call tree. -/
def Quiet (work : Work σ α) : Prop :=
  ∀ s : Session σ, ∃ lines : List Event, s.Continues lines (work s).2 ∧
    ∀ line ∈ lines, line.trace? = none

/-- All lines of call trees that the work tells are of one chain: that of a
    call which is opened where the work begins. -/
def OneChain (work : Work σ α) : Prop :=
  ∀ s : Session σ, ∃ lines : List Event, s.Continues lines (work s).2 ∧
    ∀ line ∈ lines, line.InChain (s.slot.chainId s.issued)

/-! ### Quiet work -/

namespace Quiet

theorem of_pure (a : α) : Quiet (pure a : Work σ α) := by
  intro s
  exact ⟨[], .refl s, by simp⟩

theorem currentId : Quiet (Work.currentId : Work σ (Option Id)) := by
  intro s
  exact ⟨[], .refl s, by simp⟩

theorem onData (step : σ → α × σ) : Quiet (Work.onData step) := by
  intro s
  exact ⟨[], ⟨(List.append_nil _).symm, ⟨rfl, rfl⟩⟩, by simp⟩

theorem tell {event : Event} (h : event.trace? = none) : Quiet (Work.tell event : Work σ Unit) := by
  intro s
  exact ⟨[event], .tell s event s.meters, by simpa using h⟩

theorem bind {work : Work σ α} {next : α → Work σ β} (h : Quiet work)
    (hnext : ∀ a, Quiet (next a)) : Quiet (work >>= next) := by
  intro s
  obtain ⟨lines, hlines, hnone⟩ := h s
  obtain ⟨more, hmore, hnone'⟩ := hnext (work s).1 (work s).2
  refine ⟨lines ++ more, hlines.trans hmore, ?_⟩
  intro line hline
  rcases List.mem_append.mp hline with hline | hline
  · exact hnone line hline
  · exact hnone' line hline

theorem oneChain {work : Work σ α} (h : Quiet work) : OneChain work := by
  intro s
  obtain ⟨lines, hlines, hnone⟩ := h s
  refine ⟨lines, hlines, ?_⟩
  intro line hline
  exact Event.inChain_of_none (hnone line hline) _

end Quiet

/-! ### Work of one chain -/

namespace OneChain

/-- What comes after a chain must not start another one. -/
theorem bind {work : Work σ α} {next : α → Work σ β} (h : OneChain work)
    (hnext : ∀ a, Quiet (next a)) : OneChain (work >>= next) := by
  intro s
  obtain ⟨lines, hlines, hchain⟩ := h s
  obtain ⟨more, hmore, hnone⟩ := hnext (work s).1 (work s).2
  refine ⟨lines ++ more, hlines.trans hmore, ?_⟩
  intro line hline
  rcases List.mem_append.mp hline with hline | hline
  · exact hchain line hline
  · exact Event.inChain_of_none (hnone line hline) _

theorem protect (guard : Guard) (caller : String) {call : Work σ (Outcome α)}
    (h : OneChain call) : OneChain (guard.protect caller call) := by
  intro s
  cases hadmits : guard.allowed.admits caller with
  | true =>
    rw [Guard.protect_of_admits hadmits]
    obtain ⟨lines, hlines, hchain⟩ := h (s.checked caller)
    refine ⟨.callerChecked caller :: lines, (Session.Continues.checked s caller).trans hlines, ?_⟩
    intro line hline
    rcases List.mem_cons.mp hline with rfl | hline
    · exact Event.inChain_of_none rfl _
    · exact hchain line hline
  | false =>
    rw [Guard.protect_of_rejects hadmits]
    refine ⟨_, .rejected s caller, ?_⟩
    intro line hline
    have hline : line = .callerChecked caller ∨ line = .callerRejected caller := by
      simpa using hline
    rcases hline with rfl | rfl
    · exact Event.inChain_of_none rfl _
    · exact Event.inChain_of_none rfl _

/-- A span belongs to the chain of the call in it, for both find the same id
    in the slot. -/
theorem around (label : String) {call : Work σ (Outcome α)} (h : OneChain call) :
    OneChain (standard.around label call) := by
  intro s
  rw [Recorder.standard_around_run]
  obtain ⟨lines, hlines, hchain⟩ := h (Recorder.openedState label s)
  have hid : (Recorder.openedState label s).slot.chainId (Recorder.openedState label s).issued =
      s.slot.chainId s.issued := by
    rw [Recorder.slot_openedState, Slot.chainId_opened]
  rw [hid] at hchain
  refine ⟨_, hlines.around label _, ?_⟩
  intro line hline
  rcases List.mem_append.mp hline with hline | hline
  · rcases List.mem_cons.mp hline with rfl | hline
    · exact Event.inChain_of_some rfl
    · exact hchain line hline
  · rw [List.mem_singleton.mp hline]
    exact Event.inChain_of_some rfl

theorem surround (operation caller : String) {call : Work σ (Outcome α)} (h : OneChain call)
    (advices : List Advice) :
    OneChain (Registry.surround standard operation caller call advices) := by
  induction advices with
  | nil => exact h
  | cons advice rest ih =>
    cases advice with
    | checkCaller guard => exact protect guard caller ih
    | traceCall => exact around operation ih

theorem invokeNow {registry : Registry σ} (hr : registry.recorder = standard)
    (operation : String) (caller : Option String) {call : Work σ (Outcome α)}
    (h : OneChain call) : OneChain (registry.invokeNow operation caller call) := by
  unfold Registry.invokeNow
  rw [hr]
  exact surround operation _ h _

/-- In a scope of its own the work starts the chain that the seed names. The
    scope is gone in the end. -/
theorem inScope {work : Work σ α} (h : OneChain work) (seed : Option Id) (s : Session σ) :
    ∃ lines, s.Continues lines (Work.inScope seed work s).2 ∧
      ∀ line ∈ lines, line.InChain (({ seed } : Slot).chainId s.issued) := by
  obtain ⟨lines, hlines, hchain⟩ := h (s.enter { seed })
  refine ⟨lines, ⟨hlines.events, ⟨hlines.slots.thread, ?_⟩⟩, hchain⟩
  show (work (s.enter { seed })).2.scopes.tail = s.scopes
  rw [hlines.slots.scopes]
  rfl

end OneChain
end Work

/-! ### What is found within a span -/

namespace Registry

/-- What a successful call found out about the id in its slot, it found in the
    chain, if a span is among the advices around it, and else where the advices
    begin. -/
theorem surround_found {operation caller : String} {call : Work σ (Outcome α)}
    (found : Option Id → α → Prop)
    (h : ∀ s value, (call s).1 = .ok value → found s.slot.id? value)
    (advices : List Advice) (s : Session σ) (value : α)
    (hvalue : (surround standard operation caller call advices s).1 = .ok value) :
    found (if advices.contains .traceCall then some (s.slot.chainId s.issued) else s.slot.id?)
      value := by
  induction advices generalizing s with
  | nil => exact h s value hvalue
  | cons advice rest ih =>
    cases advice with
    | checkCaller guard =>
      have hrest : (Advice.checkCaller guard :: rest).contains .traceCall =
          rest.contains .traceCall := by
        rw [List.contains_cons]
        rfl
      have hprotect : surround standard operation caller call (.checkCaller guard :: rest) s =
          guard.protect caller (surround standard operation caller call rest) s := rfl
      rw [hprotect] at hvalue
      rw [hrest]
      cases hadmits : guard.allowed.admits caller with
      | true =>
        rw [Guard.protect_of_admits hadmits] at hvalue
        exact ih (s.checked caller) hvalue
      | false =>
        rw [Guard.protect_of_rejects hadmits] at hvalue
        cases hvalue
    | traceCall =>
      have haround : surround standard operation caller call (.traceCall :: rest) s =
          standard.around operation (surround standard operation caller call rest) s := rfl
      rw [haround, Recorder.standard_around_run] at hvalue
      have hfound := ih (Recorder.openedState operation s) hvalue
      -- within the span the slot shows the chain, whether another span follows or not
      have hid : (Recorder.openedState operation s).slot.id? =
          some (s.slot.chainId s.issued) := by
        rw [Recorder.slot_openedState]
        rfl
      have hchain : (Recorder.openedState operation s).slot.chainId
          (Recorder.openedState operation s).issued = s.slot.chainId s.issued := by
        rw [Recorder.slot_openedState, Slot.chainId_opened]
      rw [hid, hchain, ite_self] at hfound
      simpa using hfound

end Registry
end HolidayApi.Call
