import HolidayApi.Call.Id

/-! # Trace slots

    A slot holds the trace of the call chain that is running. The first span
    of a chain starts a trace, every span inside it goes one level deeper,
    and the last span to close ends it. A slot may carry a seed, the id that
    its next trace takes.

    What a slot shows is a depth (`depth_open`, `depth_close`): opening raises
    it by one, closing lowers it by one and never below zero.
-/

namespace HolidayApi.Call

/-- The trace of a call chain. -/
structure Trace where
  /-- The id that all spans of the chain share. -/
  id : Id
  /-- The number of open spans around the innermost one. -/
  around : Nat
  deriving DecidableEq, Repr

namespace Trace

/-- The trace of an outermost span. -/
def start (id : Id) : Trace := ⟨id, 0⟩

/-- The level of the innermost span; the outermost one has level 1. -/
def level (t : Trace) : Nat := t.around + 1

/-- Whether only the outermost span is open. -/
def isFirst (t : Trace) : Bool := t.around = 0

/-- One level deeper. -/
def deeper (t : Trace) : Trace := { t with around := t.around + 1 }

/-- One level up, if there is one. -/
def shallower (t : Trace) : Trace := { t with around := t.around - 1 }

/-- The trace that a chain starts with: the seed names it unless the seed is
    missing or empty, and then an issued id does. The second part counts the
    ids issued so far. -/
def generate (seed : Option Id) (issued : Nat) : Trace × Nat :=
  match seed with
  | some id => if id.isEmpty then (start (.fresh issued), issued + 1) else (start id, issued)
  | none => (start (.fresh issued), issued + 1)

end Trace

/-- The place where the trace of a call chain is kept. -/
structure Slot where
  /-- The id for the next trace. -/
  seed : Option Id := none
  /-- The trace of the open spans. -/
  current : Option Trace := none
  deriving DecidableEq, Repr

namespace Slot

/-- The number of open levels. -/
def depth (slot : Slot) : Nat :=
  match slot.current with
  | some trace => trace.level
  | none => 0

/-- Opens a level and gives the trace after that. -/
def openLevel (slot : Slot) (issued : Nat) : Trace × Slot × Nat :=
  match slot.current with
  | some trace => (trace.deeper, { slot with current := some trace.deeper }, issued)
  | none =>
    let (trace, issued) := Trace.generate slot.seed issued
    (trace, { slot with current := some trace }, issued)

/-- Closes a level; nothing happens where none is open. -/
def closeLevel (slot : Slot) : Slot :=
  match slot.current with
  | some trace =>
    if trace.isFirst then { slot with current := none }
    else { slot with current := some trace.shallower }
  | none => slot

/-- The id that answers carry: that of the trace, else the seed. -/
def id? (slot : Slot) : Option Id :=
  match slot.current with
  | some trace => some trace.id
  | none => slot.seed

theorem depth_open (slot : Slot) (issued : Nat) :
    (slot.openLevel issued).2.1.depth = slot.depth + 1 := by
  unfold openLevel depth
  cases slot.current with
  | some trace => simp [Trace.deeper, Trace.level]
  | none =>
    simp only [Trace.generate]
    split
    · split <;> simp [Trace.start, Trace.level]
    · simp [Trace.start, Trace.level]

theorem depth_close (slot : Slot) : slot.closeLevel.depth = slot.depth - 1 := by
  unfold closeLevel depth
  cases h : slot.current with
  | none => simp [h]
  | some trace =>
    by_cases hf : trace.around = 0
    · simp [Trace.isFirst, hf, Trace.level]
    · simp [Trace.isFirst, hf, Trace.level, Trace.shallower]
      omega

end Slot
end HolidayApi.Call
