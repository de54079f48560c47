import HolidayApi.Call.Session

/-! # Spans

    A span is one call in a call chain. It is opened before the call and
    closed after it, with the fault if the call failed. The outcome of the
    call is handed on unchanged.
-/

namespace HolidayApi.Call

/-- An open span. -/
structure Span where
  /-- The id of the chain. -/
  trace : Id
  /-- The level of the span. -/
  level : Nat
  /-- What the span is called in logs. -/
  label : String
  deriving DecidableEq, Repr

/-- What is done when spans open and close. -/
structure Recorder (σ : Type) where
  /-- Opens a span. -/
  opened : String → Work σ Span
  /-- Closes a span, with the fault if there was one. -/
  closed : Span → Option Fault → Work σ Unit

namespace Recorder

variable {σ α : Type}

/-- Opens a level in the slot that is seen and tells it. -/
def standardOpened (label : String) : Work σ Span := do
  let trace ← modifyGet fun s =>
    let (trace, slot, issued) := s.slot.openLevel s.issued
    (trace, { s.setSlot slot with issued })
  Work.tell (.spanOpened trace.id trace.level label)
  return ⟨trace.id, trace.level, label⟩

/-- Tells the end, counts it, and closes a level in the slot that is seen. -/
def standardClosed (span : Span) (fault : Option Fault) : Work σ Unit := do
  Work.tell (.spanClosed span.trace span.level span.label fault)
  Work.count fun m => m.countSpan fault
  modify fun s => s.setSlot s.slot.closeLevel

/-- The recorder that writes the call tree. -/
def standard : Recorder σ := ⟨standardOpened, standardClosed⟩

/-- The fault of a failed call. -/
def faultOf : Outcome α → Option Fault
  | .ok _ => none
  | .error fault => some fault

/-- Runs the call inside a span. -/
def around (r : Recorder σ) (label : String) (call : Work σ (Outcome α)) :
    Work σ (Outcome α) := do
  let span ← r.opened label
  let outcome ← call
  r.closed span (faultOf outcome)
  return outcome

end Recorder
end HolidayApi.Call
