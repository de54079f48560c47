import HolidayApi.Call.Event
import HolidayApi.Call.Slot

/-! # Sessions

    The state that calls share: the data that they work on, what they told,
    what they counted, and where the trace of the running chain is kept.

    A trace scope has a slot of its own. Scopes nest, and only the innermost
    one is seen; outside all scopes the slot of the thread is. A piece of
    `Work` that runs in a scope leaves the slots around it alone, whatever it
    does to its own.
-/

namespace HolidayApi.Call

/-! ### Counters -/

/-- The counters that are shown as metrics. -/
structure Meters where
  /-- The number of spans whose time was recorded. -/
  spans : Nat := 0
  /-- The number of spans that closed with a fault of each kind. -/
  faults : Fault.Kind → Nat := fun _ => 0
  /-- The number of callers turned away. -/
  denials : Nat := 0

namespace Meters

/-- Counts a closed span. -/
def countSpan (m : Meters) (fault : Option Fault) : Meters :=
  { m with
    spans := m.spans + 1
    faults := fun kind =>
      if fault.map Fault.kind = some kind then m.faults kind + 1 else m.faults kind }

/-- Counts a caller turned away. -/
def countDenial (m : Meters) : Meters := { m with denials := m.denials + 1 }

/-- The counters that were touched, by their names. -/
def readings (m : Meters) : List (String × Nat) :=
  let faults := Fault.Kind.all.map fun kind =>
    ("trace_span_errors_total\x7bkind=" ++ kind.name ++ "\x7d", m.faults kind)
  (("access_denied_total", m.denials) :: ("trace_span_duration_seconds", m.spans) :: faults).filter
    fun (_, count) => 0 < count

end Meters

/-! ### The shared state -/

/-- The state that calls share. -/
structure Session (σ : Type) where
  /-- What the calls work on. -/
  data : σ
  /-- The events told so far, the latest first. -/
  told : List Event := []
  /-- The counters. -/
  meters : Meters := {}
  /-- The slot outside all scopes. -/
  thread : Slot := {}
  /-- The slots of the open scopes, the innermost first. -/
  scopes : List Slot := []
  /-- The number of ids issued so far. -/
  issued : Nat := 0

namespace Session

variable {σ : Type}

/-- The events in the order in which they were told. -/
def events (s : Session σ) : List Event := s.told.reverse

/-- The slot that is seen. -/
def slot (s : Session σ) : Slot :=
  match s.scopes with
  | inner :: _ => inner
  | [] => s.thread

/-- The state with another slot in place of the one that is seen. -/
def setSlot (s : Session σ) (slot : Slot) : Session σ :=
  match s.scopes with
  | _ :: outer => { s with scopes := slot :: outer }
  | [] => { s with thread := slot }

/-- The state inside a new scope. -/
def enter (s : Session σ) (slot : Slot) : Session σ :=
  { s with scopes := slot :: s.scopes }

/-- The state outside the innermost scope. -/
def leave (s : Session σ) : Session σ := { s with scopes := s.scopes.tail }

@[simp] theorem slot_setSlot (s : Session σ) (slot : Slot) : (s.setSlot slot).slot = slot := by
  unfold setSlot Session.slot
  cases s.scopes <;> simp

@[simp] theorem data_setSlot (s : Session σ) (slot : Slot) : (s.setSlot slot).data = s.data := by
  unfold setSlot
  cases s.scopes <;> rfl

@[simp] theorem told_setSlot (s : Session σ) (slot : Slot) : (s.setSlot slot).told = s.told := by
  unfold setSlot
  cases s.scopes <;> rfl

@[simp] theorem meters_setSlot (s : Session σ) (slot : Slot) :
    (s.setSlot slot).meters = s.meters := by
  unfold setSlot
  cases s.scopes <;> rfl

@[simp] theorem issued_setSlot (s : Session σ) (slot : Slot) :
    (s.setSlot slot).issued = s.issued := by
  unfold setSlot
  cases s.scopes <;> rfl

end Session

/-! ### Work -/

/-- Something that runs on the shared state from beginning to end. -/
abbrev Work (σ α : Type) := StateM (Session σ) α

namespace Work

variable {σ α : Type}

/-- Tells an event. -/
def tell (event : Event) : Work σ Unit :=
  modify fun s => { s with told := event :: s.told }

/-- Changes the counters. -/
def count (change : Meters → Meters) : Work σ Unit :=
  modify fun s => { s with meters := change s.meters }

/-- A new id. -/
def issue : Work σ Id :=
  modifyGet fun s => (.fresh s.issued, { s with issued := s.issued + 1 })

/-- Runs a step on the data. -/
def onData (step : σ → α × σ) : Work σ α :=
  modifyGet fun s => ((step s.data).1, { s with data := (step s.data).2 })

/-- The trace that is seen, if there is one. -/
def currentTrace : Work σ (Option Trace) := do return (← get).slot.current

/-- The id that answers carry, if there is one. -/
def currentId : Work σ (Option Id) := do return (← get).slot.id?

/-- Runs the work in a scope of its own with this seed. -/
def inScope (seed : Option Id) (work : Work σ α) : Work σ α := do
  modify fun s => s.enter { seed }
  let result ← work
  modify Session.leave
  return result

/-- What is bound to a piece of work runs where the work ended. -/
theorem bind_run {β : Type} (work : Work σ α) (next : α → Work σ β) (s : Session σ) :
    (work >>= next) s = next (work s).1 (work s).2 := rfl

theorem onData_run (step : σ → α × σ) (s : Session σ) :
    Work.onData step s = ((step s.data).1, { s with data := (step s.data).2 }) := rfl

end Work
end HolidayApi.Call
