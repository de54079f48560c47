import HolidayApi.Daemon.Server

/-! # The parties to a shutdown

    Coordinators and receivers share one channel. Each of them can be made and
    dropped at any time, in any order; a step that a party would have to take
    that is not there any more is not taken.

    A receiver may be given to a wait, which ends with the first cause to stop.
    The wait looks at its causes when it is polled, in an order that begins at
    a random one, and keeps waiting if none is there. A server that is called
    to run subscribes at once and waits with that receiver.
-/

namespace HolidayApi.Daemon

open HolidayApi.Stop (Channel Reception Signal)

/-! ### Waiting -/

/-- How a wait stands to the coordinators. -/
inductive Ear where
  /-- It listens to them. -/
  | listening
  /-- It has heard that there are none, and does not listen any more. -/
  | deaf
  deriving DecidableEq, Repr

/-- Whether a trigger is there for a wait with this receiver, and how things
    stand after the wait has listened for it. -/
def Ear.hear (receiver : Nat) (c : Channel) : Ear → Bool × Ear × Channel
  | deaf => (false, deaf, c)
  | listening =>
    let (heard, c) := c.receive receiver
    (heard.isCall, if heard = .closed then deaf else listening, c)

/-- The first of these causes that is there, where the signals in `arrived` are,
    and how things stand after that. The causes behind it are not looked at. -/
def firstCause (receiver : Nat) (arrived : List Signal) :
    List Cause → Ear → Channel → Option Cause × Ear × Channel
  | [], ear, c => (none, ear, c)
  | .signal s :: rest, ear, c =>
    if s ∈ arrived then (some (.signal s), ear, c) else firstCause receiver arrived rest ear c
  | .triggered :: rest, ear, c =>
    match ear.hear receiver c with
    | (true, ear, c) => (some .triggered, ear, c)
    | (false, ear, c) => firstCause receiver arrived rest ear c

/-- The order in which a poll looks at the causes, beginning at one of them. -/
def causesFrom (turn : Nat) : List Cause :=
  [.signal .interrupt, .signal .terminate, .triggered].rotateLeft turn

/-! ### Parties -/

/-- The parties to a shutdown, each with a number. -/
structure Parties where
  /-- The channel, which knows the receivers. -/
  channel : Channel := {}
  /-- The live coordinators. -/
  coordinators : List Nat := [0]
  /-- The number of coordinators ever made. -/
  cloned : Nat := 1
  /-- The receivers that waits hold. -/
  waits : List (Nat × Ear) := []
  deriving DecidableEq, Repr

/-- What a party does. -/
inductive Step where
  /-- Somebody subscribes through a coordinator. -/
  | subscribe (coordinator : Nat)
  /-- A coordinator is cloned. -/
  | clone (coordinator : Nat)
  /-- A coordinator asks for a shutdown. -/
  | trigger (coordinator : Nat)
  /-- A receiver that no wait holds is asked what there is. -/
  | receive (receiver : Nat)
  /-- A wait begins with a receiver. -/
  | wait (receiver : Nat)
  /-- A server is called to run with a coordinator. -/
  | serve (coordinator : Nat)
  /-- A wait is polled when these signals have arrived for it. -/
  | poll (receiver turn : Nat) (arrived : List Signal)
  | dropCoordinator (coordinator : Nat)
  /-- A receiver is dropped, and the wait that holds it with it. -/
  | dropReceiver (receiver : Nat)
  deriving DecidableEq, Repr

/-- What came of a step. -/
inductive Act where
  /-- There is a new receiver. -/
  | subscribed (receiver : Nat)
  /-- There is a new coordinator. -/
  | cloned (coordinator : Nat)
  | triggered
  /-- A receiver heard this. -/
  | received (receiver : Nat) (heard : Reception)
  /-- A wait began. -/
  | waited (receiver : Nat)
  /-- A server waits with a new receiver. -/
  | served (receiver : Nat)
  /-- A wait goes on. -/
  | pending (receiver : Nat)
  /-- A wait ended. -/
  | resolved (receiver : Nat) (cause : Cause)
  | coordinatorDropped (coordinator : Nat)
  | receiverDropped (receiver : Nat)
  /-- The party is not there. -/
  | nothing
  deriving DecidableEq, Repr

namespace Parties

/-- Whether a receiver is live. -/
def isLive (p : Parties) (receiver : Nat) : Bool := (p.channel.receivers.lookup receiver).isSome

/-- Whether a wait holds the receiver. -/
def isWaiting (p : Parties) (receiver : Nat) : Bool := (p.waits.lookup receiver).isSome

/-- The parties without a receiver and without the wait that holds it. -/
def without (p : Parties) (receiver : Nat) : Parties :=
  { p with
    channel := p.channel.dropReceiver receiver
    waits := p.waits.filter fun (r, _) => r ≠ receiver }

/-- The parties after a poll that left the wait of a receiver with this ear. -/
def keepWaiting (p : Parties) (receiver : Nat) (ear : Ear) (c : Channel) : Parties :=
  { p with
    channel := c
    waits := p.waits.map fun (r, old) => if r = receiver then (r, ear) else (r, old) }

/-- The parties with one more wait. -/
def await (p : Parties) (receiver : Nat) : Parties :=
  { p with waits := (receiver, .listening) :: p.waits }

/-- The result of a step, if the party that takes it is there. -/
def ifThere (p : Parties) (there : Bool) (result : Act × Parties) : Act × Parties :=
  if there then result else (.nothing, p)

/-- Polls the wait that holds a receiver. A wait that ends drops it. -/
def poll (p : Parties) (receiver turn : Nat) (arrived : List Signal) : Act × Parties :=
  match p.waits.lookup receiver with
  | none => (.nothing, p)
  | some ear =>
    let (cause, ear, channel) := firstCause receiver arrived (causesFrom turn) ear p.channel
    match cause with
    | some cause => (.resolved receiver cause, { p with channel }.without receiver)
    | none => (.pending receiver, p.keepWaiting receiver ear channel)

/-- Takes a step. -/
def step (p : Parties) : Step → Act × Parties
  | .subscribe coordinator =>
    let (receiver, channel) := p.channel.subscribe
    p.ifThere (coordinator ∈ p.coordinators) (.subscribed receiver, { p with channel })
  | .clone coordinator =>
    p.ifThere (coordinator ∈ p.coordinators)
      (.cloned p.cloned,
        { p with
          channel := p.channel.clone
          coordinators := p.cloned :: p.coordinators
          cloned := p.cloned + 1 })
  | .trigger coordinator =>
    p.ifThere (coordinator ∈ p.coordinators)
      (.triggered, { p with channel := p.channel.trigger })
  | .receive receiver =>
    let (heard, channel) := p.channel.receive receiver
    p.ifThere (p.isLive receiver && !p.isWaiting receiver)
      (.received receiver heard, { p with channel })
  | .wait receiver =>
    p.ifThere (p.isLive receiver && !p.isWaiting receiver) (.waited receiver, p.await receiver)
  | .serve coordinator =>
    let (receiver, channel) := p.channel.subscribe
    p.ifThere (coordinator ∈ p.coordinators)
      (.served receiver, { p with channel }.await receiver)
  | .poll receiver turn arrived => p.poll receiver turn arrived
  | .dropCoordinator coordinator =>
    p.ifThere (coordinator ∈ p.coordinators)
      (.coordinatorDropped coordinator,
        { p with
          channel := p.channel.dropCoordinator
          coordinators := p.coordinators.filter (· ≠ coordinator) })
  | .dropReceiver receiver =>
    p.ifThere (p.isLive receiver) (.receiverDropped receiver, p.without receiver)

/-- Takes steps one after the other. The acts are put before those of earlier
    steps, the last one first. -/
def run (acts : List Act) (p : Parties) : List Step → List Act × Parties
  | [] => (acts, p)
  | first :: rest => run ((p.step first).1 :: acts) (p.step first).2 rest

end Parties
end HolidayApi.Daemon
