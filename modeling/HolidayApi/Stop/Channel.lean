/-! # The shutdown channel

    Coordinators ask for a shutdown; whoever wants to hear of it holds a
    receiver. The channel keeps the last signal only: a receiver that missed
    earlier ones is told how many, and then reads the last.

    A receiver hears the signals that are sent after it was made. What it has
    not read yet is the difference between the number of signals sent and its
    own position, `Channel.unseen`.
-/

namespace HolidayApi.Stop

/-- What a receiver hears when it does not wait. -/
inductive Reception where
  /-- A signal. -/
  | signal
  /-- Nothing yet. -/
  | empty
  /-- Nothing, and there never will be. -/
  | closed
  /-- So many signals were missed. -/
  | lagged (missed : Nat)
  deriving DecidableEq, Repr

namespace Reception

/-- The reception in words. -/
def text : Reception → String
  | signal => "signal"
  | empty => "empty"
  | closed => "closed"
  | lagged missed => "lagged " ++ toString missed

/-- Whether somebody who hears this knows that a shutdown was asked for. -/
def isCall : Reception → Bool
  | signal | lagged _ => true
  | empty | closed => false

end Reception

/-- The channel between coordinators and receivers. -/
structure Channel where
  /-- The number of signals sent. -/
  sent : Nat := 0
  /-- The number of live coordinators. -/
  coordinators : Nat := 1
  /-- The number of receivers ever made. -/
  made : Nat := 0
  /-- The live receivers with the number of signals that each has behind it. -/
  receivers : List (Nat × Nat) := []
  deriving DecidableEq, Repr

namespace Channel

/-! ### Coordinators -/

/-- One more coordinator. -/
def clone (c : Channel) : Channel := { c with coordinators := c.coordinators + 1 }

/-- A coordinator goes away. -/
def dropCoordinator (c : Channel) : Channel := { c with coordinators := c.coordinators - 1 }

/-- Sends a signal. -/
def trigger (c : Channel) : Channel := { c with sent := c.sent + 1 }

/-! ### Receivers -/

/-- The number of live receivers. -/
def receiverCount (c : Channel) : Nat := c.receivers.length

/-- Makes a receiver and gives its number. -/
def subscribe (c : Channel) : Nat × Channel :=
  (c.made, { c with made := c.made + 1, receivers := (c.made, c.sent) :: c.receivers })

/-- A receiver goes away. -/
def dropReceiver (c : Channel) (receiver : Nat) : Channel :=
  { c with receivers := c.receivers.filter fun (r, _) => r ≠ receiver }

/-- The number of signals that a receiver has not read. -/
def unseen (c : Channel) (receiver : Nat) : Nat :=
  match c.receivers.lookup receiver with
  | some seen => c.sent - seen
  | none => 0

/-- Moves a receiver forward. -/
def advance (c : Channel) (receiver steps : Nat) : Channel :=
  { c with
    receivers := c.receivers.map fun (r, seen) =>
      if r = receiver then (r, seen + steps) else (r, seen) }

/-- What a receiver hears now, and the channel after that. -/
def receive (c : Channel) (receiver : Nat) : Reception × Channel :=
  match c.unseen receiver with
  | 0 => (if c.coordinators = 0 then .closed else .empty, c)
  | 1 => (.signal, c.advance receiver 1)
  | missed + 2 => (.lagged (missed + 1), c.advance receiver (missed + 1))

end Channel
end HolidayApi.Stop
