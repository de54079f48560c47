import HolidayApi.Call.Session

/-! # Tasks

    A task is work that may be suspended. It is a resumption: it is done, or
    it makes a step on the shared state and goes on, or it is suspended and
    has a rest. `poll` runs a task to its next suspension.

    A scope belongs to the task that runs in it. While the task is suspended
    its slot is kept with the rest, so tasks that run in turns never see each
    other's scopes; a task that is dropped takes its scope with it.
-/

namespace HolidayApi.Call

/-- Work that may be suspended. -/
inductive Task (σ α : Type) where
  /-- Finished. -/
  | done (result : α)
  /-- A change of the state, after which the task goes on as the state before
      the change decides. -/
  | step (change : Session σ → Session σ) (next : Session σ → Task σ α)
  /-- Suspended, with the rest. -/
  | suspended (rest : Task σ α)

namespace Task

variable {σ α β γ : Type}

/-! ### Composition -/

/-- One task after the other. -/
def bind : Task σ α → (α → Task σ β) → Task σ β
  | done a, k => k a
  | step change next, k => step change fun s => (next s).bind k
  | suspended rest, k => suspended (rest.bind k)

instance : Monad (Task σ) where
  pure := done
  bind := bind

/-- Work that is not suspended. -/
def ofWork (work : Work σ α) : Task σ α :=
  step (fun s => (work s).2) fun s => done (work s).1

/-- A single suspension. -/
def pause : Task σ Unit := suspended (done ())

/-- So many suspensions. -/
def pauses : Nat → Task σ Unit
  | 0 => done ()
  | n + 1 => suspended (pauses n)

/-! ### Scopes -/

/-- The task in a scope that holds `slot`. The scope is entered for each step
    and left after it. -/
def within (slot : Slot) : Task σ α → Task σ α
  | done a => done a
  | suspended rest => suspended (rest.within slot)
  | step change next =>
    step (fun s => (change (s.enter slot)).leave)
      fun s => (next (s.enter slot)).within (change (s.enter slot)).slot

/-- The task in a scope of its own with this seed. -/
def inScope (seed : Option Id) (task : Task σ α) : Task σ α := task.within { seed }

/-- The task in the scope in which it is first run, or in a new one if that
    is none. -/
def inSomeScope (task : Task σ α) : Task σ α :=
  step id fun s => if s.scopes.isEmpty then task.inScope none else task

/-! ### Running -/

/-- The task after it ran to its next suspension, and the state then. -/
inductive Progress (σ α : Type) where
  | finished (result : α)
  | pending (rest : Task σ α)

/-- Runs the task to its end or to its next suspension. -/
def poll : Task σ α → Session σ → Progress σ α × Session σ
  | done a, s => (.finished a, s)
  | suspended rest, s => (.pending rest, s)
  | step change next, s => (next s).poll (change s)

/-- Runs the task to its end, going on after each suspension. -/
def toWork : Task σ α → Work σ α
  | done a => pure a
  | suspended rest => rest.toWork
  | step change next => fun s => (next s).toWork (change s)

/-- Polls the task so many times at most, without a suspension between them,
    and then drops it. -/
def attempt : Nat → Task σ α → Task σ (Option α)
  | 0, _ => done none
  | _ + 1, done a => done (some a)
  | polls + 1, suspended rest => attempt polls rest
  | polls + 1, step change next => step change fun s => attempt (polls + 1) (next s)

/-! ### Taking turns -/

/-- Runs a task to its suspension and suspends with what `rejoin` makes of
    the rest. -/
def yieldTo (rejoin : Task σ α → Task σ β) : Task σ α → Task σ β
  | done a => suspended (rejoin (done a))
  | suspended rest => suspended (rejoin rest)
  | step change next => step change fun s => (next s).yieldTo rejoin

/-- Two tasks that take turns: the first runs to its suspension, then the
    second, and then both are suspended. A task that is done has no more
    turns. -/
def zip : Task σ α → Task σ β → Task σ (α × β)
  | done a => fun second => second.bind fun b => done (a, b)
  | suspended rest => yieldTo (zip rest)
  | step change next => fun second => step change fun s => zip (next s) second

/-- Tasks that take turns in order. -/
def zipAll : List (Task σ α) → Task σ (List α)
  | [] => done []
  | task :: tasks => (zip task (zipAll tasks)).bind fun (a, as) => done (a :: as)

end Task
end HolidayApi.Call
