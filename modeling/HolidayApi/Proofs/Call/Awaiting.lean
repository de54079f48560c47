import HolidayApi.Proofs.Call.Alike

/-! # Awaited calls and direct calls

    A registry invokes a call directly or as a task, and both ways are written
    out by themselves. Here they are related.

    * `toWork_within`: a task that does not leave its scope runs in a scope of
      its own as it would run there, although the scope is entered anew for
      each of its steps.
    * `surroundTask_alike`: in a scope, the advices of a task do what those of
      a direct call do. A traced task finds a scope and makes none.
    * `surroundTask_alone`: outside all scopes, a traced task makes a scope.
      What it does there a direct call does in an empty slot of the thread.

    A script is any nesting of calls, each of them made in one of the two
    manners. `manner_irrelevant` is what follows for scripts.
-/

namespace HolidayApi.Call

open HolidayApi.Access (Guard)

variable {σ α β : Type}

/-! ### Running a task to its end -/

namespace Task

theorem toWork_bind (task : Task σ α) (next : α → Task σ β) :
    (task >>= next).toWork = task.toWork >>= fun a => (next a).toWork := by
  induction task with
  | done a => rfl
  | suspended rest ih => exact ih
  | step change rest ih =>
    funext s
    exact congrFun (ih s) (change s)

theorem toWork_ofWork (work : Work σ α) : (ofWork work).toWork = work := rfl

end Task

/-! ### Staying in a scope -/

/-- Within a scope, the work does not leave it. -/
def Work.StaysInScope (work : Work σ α) : Prop :=
  ∀ s : Session σ, s.scopes ≠ [] → (work s).2.scopes ≠ []

/-- What the recorder does within a scope does not leave it. -/
structure Recorder.StaysInScope (r : Recorder σ) : Prop where
  opened : ∀ label, (r.opened label).StaysInScope
  closed : ∀ span fault, (r.closed span fault).StaysInScope

theorem Session.scopes_setSlot_ne_nil {s : Session σ} (h : s.scopes ≠ []) (slot : Slot) :
    (s.setSlot slot).scopes ≠ [] := by
  unfold setSlot
  cases hscopes : s.scopes with
  | nil => exact absurd hscopes h
  | cons inner outer => simp

theorem Recorder.staysInScope_standard : (standard : Recorder σ).StaysInScope where
  opened label := by
    intro s hs
    show (standardOpened label s).2.scopes ≠ []
    rw [standardOpened_run]
    exact Session.scopes_setSlot_ne_nil hs _
  closed span fault := by
    intro s hs
    show (closedState span fault s).scopes ≠ []
    unfold closedState
    refine Session.scopes_setSlot_ne_nil ?_ _
    exact hs

/-- The same state, within a scope. -/
def Session.SameInScope (s t : Session σ) : Prop := s = t ∧ s.scopes ≠ []

theorem Work.StaysInScope.alike {work : Work σ α} (h : work.StaysInScope) :
    Work.Alike Session.SameInScope work work := by
  rintro s _ ⟨rfl, hs⟩
  exact ⟨rfl, rfl, h s hs⟩

theorem Work.Alike.staysInScope {first second : Work σ α}
    (h : Work.Alike Session.SameInScope first second) : second.StaysInScope := by
  intro s hs
  obtain ⟨_, hsame, hafter⟩ := h s s ⟨rfl, hs⟩
  rw [hsame] at hafter
  exact hafter

theorem keptByCalls_sameInScope : KeptByCalls (Session.SameInScope (σ := σ)) where
  data := by
    rintro s _ ⟨rfl, _⟩
    rfl
  put := by
    rintro s _ data ⟨rfl, hs⟩
    exact ⟨rfl, hs⟩
  checked := by
    rintro s _ caller ⟨rfl, hs⟩
    exact ⟨rfl, hs⟩
  rejected := by
    rintro s _ caller ⟨rfl, hs⟩
    exact ⟨rfl, hs⟩

theorem Recorder.StaysInScope.around_alike {recorder : Recorder σ} (hr : recorder.StaysInScope)
    (label : String) {call call' : Work σ (Outcome α)}
    (h : Work.Alike Session.SameInScope call call') :
    Work.Alike Session.SameInScope (recorder.around label call) (recorder.around label call') := by
  refine (hr.opened label).alike.bind fun span => h.bind fun outcome => ?_
  exact (hr.closed span _).alike.bind fun _ => .of_pure outcome

namespace Task

/-- No step of the task leaves the scope in which it is made. -/
def StaysInScope : Task σ α → Prop
  | done _ => True
  | suspended rest => rest.StaysInScope
  | step change next => ∀ s : Session σ, s.scopes ≠ [] →
    (change s).scopes ≠ [] ∧ (next s).StaysInScope

namespace StaysInScope

theorem ofWork {work : Work σ α} (h : work.StaysInScope) : (ofWork work).StaysInScope := by
  intro s hs
  exact ⟨h s hs, trivial⟩

theorem bind {task : Task σ α} {next : α → Task σ β} (h : task.StaysInScope)
    (hnext : ∀ a, (next a).StaysInScope) : (task >>= next).StaysInScope := by
  induction task with
  | done a => exact hnext a
  | suspended rest ih => exact ih h
  | step change rest ih =>
    intro s hs
    obtain ⟨hchange, hrest⟩ := h s hs
    exact ⟨hchange, ih s hrest⟩

end StaysInScope

/-- Where a scope is there, none is made. -/
theorem next_inSomeScope (task : Task σ α) {s : Session σ} (hs : s.scopes ≠ []) :
    (if s.scopes.isEmpty then task.inScope none else task) = task := by
  have hsome : s.scopes.isEmpty = false := by simpa using hs
  rw [hsome]
  rfl

theorem StaysInScope.inSomeScope {task : Task σ α} (h : task.StaysInScope) :
    task.inSomeScope.StaysInScope := by
  intro s hs
  refine ⟨hs, ?_⟩
  show (if s.scopes.isEmpty then task.inScope none else task).StaysInScope
  rw [next_inSomeScope task hs]
  exact h

theorem leave_enter_slot {s : Session σ} (h : s.scopes ≠ []) : s.leave.enter s.slot = s := by
  obtain ⟨data, told, meters, thread, scopes, issued⟩ := s
  cases scopes with
  | nil => exact absurd rfl h
  | cons inner outer => rfl

/-- A task that has a scope of its own runs as it would run there. -/
theorem toWork_within {task : Task σ α} (h : task.StaysInScope) (slot : Slot) (s : Session σ) :
    (task.within slot).toWork s =
      ((task.toWork (s.enter slot)).1, (task.toWork (s.enter slot)).2.leave) := by
  induction task generalizing slot s with
  | done a => rfl
  | suspended rest ih => exact ih h slot s
  | step change next ih =>
    obtain ⟨hchange, hnext⟩ := h (s.enter slot) (by simp [Session.enter])
    -- what the step leaves in the scope is what the next one finds there
    have hthere : (change (s.enter slot)).leave.enter (change (s.enter slot)).slot =
        change (s.enter slot) := leave_enter_slot hchange
    show ((next (s.enter slot)).within (change (s.enter slot)).slot).toWork
      (change (s.enter slot)).leave = _
    rw [ih _ hnext, hthere]
    rfl

end Task

/-! ### Awaited calls in a scope -/

namespace Registry

variable {recorder : Recorder σ} {operation caller : String}

/-- The call of a task in a span. -/
def spanTask (recorder : Recorder σ) (label : String) (call : Task σ (Outcome α)) :
    Task σ (Outcome α) := do
  let span ← Task.ofWork (recorder.opened label)
  let outcome ← call
  Task.ofWork (recorder.closed span (Recorder.faultOf outcome))
  return outcome

theorem toWork_spanTask (label : String) (call : Task σ (Outcome α)) :
    (spanTask recorder label call).toWork = recorder.around label call.toWork := by
  unfold spanTask Recorder.around
  rw [Task.toWork_bind, Task.toWork_ofWork]
  congr 1
  funext span
  rw [Task.toWork_bind]
  congr 1

theorem staysInScope_spanTask (hr : recorder.StaysInScope) {label : String}
    {call : Task σ (Outcome α)} (h : call.StaysInScope) :
    (spanTask recorder label call).StaysInScope := by
  refine .bind (.ofWork (hr.opened label)) fun span => h.bind fun outcome => ?_
  exact .bind (.ofWork (hr.closed span _)) fun _ => trivial

theorem toWork_checked (guard : Guard) (call : Task σ (Outcome α)) (rest : List Advice) :
    (surroundTask recorder operation caller call (.checkCaller guard :: rest)).toWork =
      guard.protect caller (surroundTask recorder operation caller call rest).toWork := by
  show (Task.ofWork (guard.check caller) >>= _).toWork = _
  unfold Guard.protect
  rw [Task.toWork_bind, Task.toWork_ofWork]
  congr 1
  funext verdict
  cases verdict with
  | ok _ => rfl
  | error fault => rfl

theorem staysInScope_surroundTask (hr : recorder.StaysInScope) {call : Task σ (Outcome α)}
    (h : call.StaysInScope) (advices : List Advice) :
    (surroundTask recorder operation caller call advices).StaysInScope := by
  induction advices with
  | nil => exact h
  | cons advice rest ih =>
    cases advice with
    | checkCaller guard =>
      have hcheck : (guard.check caller : Work σ (Outcome Unit)).StaysInScope :=
        (keptByCalls_sameInScope.check guard caller).staysInScope
      refine .bind (.ofWork hcheck) fun verdict => ?_
      cases verdict with
      | ok _ => exact ih
      | error fault => exact trivial
    | traceCall => exact .inSomeScope (staysInScope_spanTask hr ih)

/-- In a scope, the advices of a task do what those of a direct call do. -/
theorem surroundTask_alike (hr : recorder.StaysInScope) {call : Task σ (Outcome α)}
    {call' : Work σ (Outcome α)} (h : Work.Alike Session.SameInScope call.toWork call')
    (advices : List Advice) :
    Work.Alike Session.SameInScope (surroundTask recorder operation caller call advices).toWork
      (surround recorder operation caller call' advices) := by
  induction advices with
  | nil => exact h
  | cons advice rest ih =>
    cases advice with
    | checkCaller guard =>
      rw [toWork_checked]
      exact keptByCalls_sameInScope.protect guard caller ih
    | traceCall =>
      rintro s t ⟨rfl, hs⟩
      -- the scope of the caller is used, so the span opens where it would anyway
      have hspan :
          (surroundTask recorder operation caller call (.traceCall :: rest)).toWork s =
            recorder.around operation
              (surroundTask recorder operation caller call rest).toWork s := by
        show (if s.scopes.isEmpty then _ else _ : Task σ (Outcome α)).toWork s = _
        rw [Task.next_inSomeScope _ hs]
        exact congrFun (toWork_spanTask operation _) s
      rw [hspan]
      exact hr.around_alike operation ih s s ⟨rfl, hs⟩

end Registry

/-! ### Scripts of calls -/

/-- How a call is made: directly, or as a task that is awaited. -/
inductive Manner where
  | direct
  | awaited
  deriving DecidableEq, Repr

/-- What a call does until it has its outcome: it works on the data, it may be
    suspended, and it makes further calls, whose outcomes decide how it goes
    on. -/
inductive Script (σ α : Type) where
  | done (outcome : Outcome α)
  | step (change : σ → σ) (next : σ → Script σ α)
  | pause (next : Script σ α)
  | call (manner : Manner) (operation : String) (caller : Option String) (inner : Script σ α)
      (next : Outcome α → Script σ α)

namespace Script

/-- The script with all calls made directly and without suspensions. -/
def direct : Script σ α → Script σ α
  | done outcome => done outcome
  | step change next => step change fun before => (next before).direct
  | pause next => next.direct
  | call _ operation caller inner next =>
    call .direct operation caller inner.direct fun outcome => (next outcome).direct

/-- A change of the data that gives them as they were before. -/
def before (change : σ → σ) : Work σ σ := Work.onData fun data => (data, change data)

/-- The script as work: every call is made directly. -/
def work (r : Registry σ) : Script σ α → Work σ (Outcome α)
  | done outcome => return outcome
  | step change next => do (next (← before change)).work r
  | pause next => next.work r
  | call _ operation caller inner next => do
    let outcome ← r.invokeNow operation caller (inner.work r)
    (next outcome).work r

/-- The script as a task: awaited calls are tasks of their own, while all that
    happens within a direct call is direct. -/
def task (r : Registry σ) : Script σ α → Task σ (Outcome α)
  | done outcome => return outcome
  | step change next => do (next (← Task.ofWork (before change))).task r
  | pause next => .suspended (next.task r)
  | call .direct operation caller inner next => do
    let outcome ← Task.ofWork (r.invokeNow operation caller (inner.work r))
    (next outcome).task r
  | call .awaited operation caller inner next => do
    let outcome ← r.invoke operation caller (inner.task r)
    (next outcome).task r

theorem work_direct (r : Registry σ) (p : Script σ α) : p.direct.work r = p.work r := by
  induction p with
  | done outcome => rfl
  | step change next ih =>
    show (before change >>= fun data => (next data).direct.work r) = _
    simp only [ih]
    rfl
  | pause next ih => exact ih
  | call manner operation caller inner next ihInner ihNext =>
    show (r.invokeNow operation caller (inner.direct.work r) >>=
      fun outcome => (next outcome).direct.work r) = _
    simp only [ihInner, ihNext]
    rfl

theorem work_alike {R : Session σ → Session σ → Prop} (hR : KeptByCalls R) {r : Registry σ}
    (hspan : ∀ label {call call' : Work σ (Outcome α)}, Work.Alike R call call' →
      Work.Alike R (r.recorder.around label call) (r.recorder.around label call'))
    (p : Script σ α) : Work.Alike R (p.work r) (p.work r) := by
  induction p with
  | done outcome => exact .of_pure outcome
  | step change next ih => exact (hR.onData _).bind ih
  | pause next ih => exact ih
  | call manner operation caller inner next ihInner ihNext =>
    exact (hR.surround hspan ihInner _).bind ihNext

variable {r : Registry σ} (hr : r.recorder.StaysInScope)
include hr

/-- A direct call leaves the scope no more than what it calls. -/
theorem invokeNow_alike (operation : String) (caller : Option String) (inner : Script σ α) :
    Work.Alike Session.SameInScope (r.invokeNow operation caller (inner.work r))
      (r.invokeNow operation caller (inner.work r)) :=
  keptByCalls_sameInScope.surround hr.around_alike
    (inner.work_alike keptByCalls_sameInScope hr.around_alike) _

/-- In a scope, a script does as a task what it does with all calls made
    directly. -/
theorem task_alike (p : Script σ α) :
    Work.Alike Session.SameInScope (p.task r).toWork (p.work r) := by
  induction p with
  | done outcome => exact .of_pure outcome
  | step change next ih =>
    show Work.Alike _ (Task.ofWork (before change) >>= fun data => (next data).task r).toWork _
    rw [Task.toWork_bind, Task.toWork_ofWork]
    exact Work.Alike.bind (keptByCalls_sameInScope.onData _) ih
  | pause next ih => exact ih
  | call manner operation caller inner next ihInner ihNext =>
    cases manner with
    | direct =>
      show Work.Alike _ (Task.ofWork (r.invokeNow operation caller (inner.work r)) >>=
        fun outcome => (next outcome).task r).toWork _
      rw [Task.toWork_bind]
      exact (invokeNow_alike hr operation caller inner).bind ihNext
    | awaited =>
      show Work.Alike _ (r.invoke operation caller (inner.task r) >>=
        fun outcome => (next outcome).task r).toWork _
      rw [Task.toWork_bind]
      exact (Registry.surroundTask_alike hr ihInner _).bind ihNext

theorem staysInScope_task (p : Script σ α) : (p.task r).StaysInScope := by
  induction p with
  | done outcome => exact trivial
  | step change next ih =>
    exact .bind (.ofWork (keptByCalls_sameInScope.onData _).staysInScope) ih
  | pause next ih => exact ih
  | call manner operation caller inner next ihInner ihNext =>
    cases manner with
    | direct => exact .bind (.ofWork (invokeNow_alike hr operation caller inner).staysInScope) ihNext
    | awaited => exact .bind (Registry.staysInScope_surroundTask hr ihInner _) ihNext

end Script

/-! ### Awaited calls outside all scopes -/

/-- What the first state has in its only scope the second has in the slot of the
    thread, where the first has `kept`. -/
def Session.MovedOut (kept : Slot) (s t : Session σ) : Prop :=
  t.scopes = [] ∧ s = { t with thread := kept, scopes := [t.thread] }

theorem keptByCalls_movedOut (kept : Slot) : KeptByCalls (Session.MovedOut (σ := σ) kept) where
  data := by
    rintro s t ⟨_, rfl⟩
    rfl
  put := by
    rintro s t data ⟨ht, rfl⟩
    exact ⟨ht, rfl⟩
  checked := by
    rintro s t caller ⟨ht, rfl⟩
    exact ⟨ht, rfl⟩
  rejected := by
    rintro s t caller ⟨ht, rfl⟩
    exact ⟨ht, rfl⟩

theorem closedState_movedOut {kept : Slot} {s t : Session σ} (span : Span)
    (fault : Option Fault) (h : Session.MovedOut kept s t) :
    Session.MovedOut kept (Recorder.closedState span fault s)
      (Recorder.closedState span fault t) := by
  obtain ⟨data, told, meters, thread, scopes, issued⟩ := t
  obtain ⟨ht, rfl⟩ := h
  cases ht
  exact ⟨rfl, rfl⟩

theorem around_movedOut (kept : Slot) (label : String) {call call' : Work σ (Outcome α)}
    (h : Work.Alike (Session.MovedOut kept) call call') :
    Work.Alike (Session.MovedOut kept) (Recorder.standard.around label call)
      (Recorder.standard.around label call') := by
  rintro s t ⟨ht, rfl⟩
  obtain ⟨data, told, meters, thread, scopes, issued⟩ := t
  cases ht
  rw [Recorder.standard_around_run, Recorder.standard_around_run]
  -- the slot that is seen is the same, so the same level opens in it
  obtain ⟨hvalue, hafter⟩ := h (Recorder.openedState label
    ⟨data, told, meters, kept, [thread], issued⟩) (Recorder.openedState label
    ⟨data, told, meters, thread, [], issued⟩) ⟨rfl, rfl⟩
  refine ⟨hvalue, ?_⟩
  show Session.MovedOut kept (Recorder.closedState _ _ _) (Recorder.closedState _ _ _)
  rw [hvalue]
  exact closedState_movedOut _ _ hafter

/-- Outside all scopes, a task that wants one gets an empty one. -/
theorem Task.toWork_inSomeScope {task : Task σ α} (h : task.StaysInScope) {s : Session σ}
    (hscopes : s.scopes = []) :
    task.inSomeScope.toWork s =
      ((task.toWork (s.enter {})).1, (task.toWork (s.enter {})).2.leave) := by
  show (if s.scopes.isEmpty then task.inScope none else task).toWork s = _
  rw [hscopes]
  exact toWork_within h {} s

theorem Session.MovedOut.leave {kept : Slot} {s t : Session σ} (h : MovedOut kept s t) :
    s.leave = { t with thread := kept } := by
  obtain ⟨ht, rfl⟩ := h
  unfold Session.leave
  rw [ht]
  rfl

section Alone

variable {operation caller : String} {call : Task σ (Outcome α)} {call' : Work σ (Outcome α)}
  (hstays : call.StaysInScope) (hcall : Work.Alike Session.SameInScope call.toWork call')
  {kept : Slot} (hmoved : Work.Alike (Session.MovedOut kept) call' call')
include hstays hcall hmoved

/-- A traced task outside all scopes does what the call does in an empty slot of
    the thread. -/
theorem aroundTask_alone {t : Session σ} (hscopes : t.scopes = []) (hthread : t.thread = {}) :
    (Registry.aroundTask .standard operation call).toWork { t with thread := kept } =
      ((Recorder.standard.around operation call' t).1,
        { (Recorder.standard.around operation call' t).2 with thread := kept }) := by
  have hstart : Session.MovedOut kept (Session.enter { t with thread := kept } {}) t := by
    refine ⟨hscopes, ?_⟩
    rw [hthread]
    unfold Session.enter
    rw [hscopes]
  have hspan : Work.Alike Session.SameInScope (Registry.spanTask .standard operation call).toWork
      (Recorder.standard.around operation call') := by
    rw [Registry.toWork_spanTask]
    exact Recorder.staysInScope_standard.around_alike operation hcall
  have hnone : Session.scopes { t with thread := kept } = [] := hscopes
  obtain ⟨hsame, hafter, -⟩ := hspan (Session.enter { t with thread := kept } {}) _
    ⟨rfl, List.cons_ne_nil _ _⟩
  obtain ⟨hvalue, hout⟩ := around_movedOut kept operation hmoved _ _ hstart
  show (Registry.spanTask .standard operation call).inSomeScope.toWork _ = _
  rw [Task.toWork_inSomeScope (Registry.staysInScope_spanTask Recorder.staysInScope_standard hstays)
    hnone]
  refine Prod.ext (hsame.trans hvalue) ?_
  rw [hafter]
  exact hout.leave

/-- So does a task behind advices that trace it. -/
theorem surroundTask_alone {advices : List Advice} (htraced : .traceCall ∈ advices)
    {t : Session σ} (hscopes : t.scopes = []) (hthread : t.thread = {}) :
    (Registry.surroundTask .standard operation caller call advices).toWork
        { t with thread := kept } =
      ((Registry.surround .standard operation caller call' advices t).1,
        { (Registry.surround .standard operation caller call' advices t).2 with
          thread := kept }) := by
  -- guards do not look at slots, and the first span makes the scope
  induction advices generalizing t with
  | nil => simp at htraced
  | cons advice rest ih =>
    cases advice with
    | checkCaller guard =>
      have hrest : Advice.traceCall ∈ rest := by simpa using htraced
      rw [Registry.toWork_checked]
      show guard.protect caller _ _ = ((guard.protect caller _ t).1,
        { (guard.protect caller _ t).2 with thread := kept })
      cases hadmits : guard.allowed.admits caller with
      | true =>
        rw [Guard.protect_of_admits hadmits, Guard.protect_of_admits hadmits]
        exact ih hrest (t := t.checked caller) hscopes hthread
      | false =>
        rw [Guard.protect_of_rejects hadmits, Guard.protect_of_rejects hadmits]
        rfl
    | traceCall =>
      -- what stands behind the span is in its scope already
      have hr : (Recorder.standard : Recorder σ).StaysInScope := Recorder.staysInScope_standard
      exact aroundTask_alone (Registry.staysInScope_surroundTask hr hstays rest)
        (Registry.surroundTask_alike hr hcall rest)
        ((keptByCalls_movedOut kept).surround (around_movedOut kept) hmoved rest)
        hscopes hthread

end Alone

/-! ### The manner of calls makes no difference -/

namespace Script

/-- The script as a task that also gives the slot that is seen at its end. -/
def watched (r : Registry σ) (p : Script σ α) : Task σ (Outcome α × Slot) := do
  let outcome ← p.task r
  let slot ← Task.ofWork do return (← get).slot
  return (outcome, slot)

theorem toWork_watched {r : Registry σ} (hr : r.recorder.StaysInScope) (p : Script σ α)
    {s : Session σ} (hs : s.scopes ≠ []) :
    (p.watched r).toWork s =
      (((p.work r s).1, (p.work r s).2.slot), (p.work r s).2) := by
  obtain ⟨hvalue, hsame, -⟩ := p.task_alike hr s s ⟨rfl, hs⟩
  unfold watched
  rw [Task.toWork_bind, Work.bind_run, hsame, hvalue]
  rfl

theorem staysInScope_watched {r : Registry σ} (hr : r.recorder.StaysInScope) (p : Script σ α) :
    (p.watched r).StaysInScope := by
  refine .bind (p.staysInScope_task hr) fun outcome => .bind (.ofWork ?_) fun slot => trivial
  intro s hs
  exact hs

/-- A script in a scope of its own does what it does with all its calls made
    directly. -/
theorem toWork_inScope_watched {r : Registry σ} (hr : r.recorder.StaysInScope) (p : Script σ α)
    (seed : Option Id) (s : Session σ) :
    ((p.watched r).inScope seed).toWork s =
      (((p.direct.work r (s.enter { seed })).1, (p.direct.work r (s.enter { seed })).2.slot),
        (p.direct.work r (s.enter { seed })).2.leave) := by
  have hscope : (s.enter { seed }).scopes ≠ [] := List.cons_ne_nil _ _
  have hrun : ((p.watched r).inScope seed).toWork s =
      (((p.watched r).toWork (s.enter { seed })).1,
        ((p.watched r).toWork (s.enter { seed })).2.leave) :=
    Task.toWork_within (p.staysInScope_watched hr) { seed } s
  rw [hrun, p.toWork_watched hr hscope, work_direct]

/-- **It makes no difference whether calls are awaited or made directly.** In a
    scope, scripts that differ in the manners of their calls only have the same
    outcome, leave the same state behind and see the same slot at their end.
    Outside all scopes, an awaited call of a traced operation has the outcome of
    the direct one and tells the same apart from its trace, which is the one that
    the direct call has in an empty slot of the thread, and that slot is as it
    was. -/
theorem manner_irrelevant (r : Registry σ) (hr : r.recorder.StaysInScope) :
    (∀ p q : Script σ α, p.direct = q.direct → ∀ (seed : Option Id) (s : Session σ),
      ((p.watched r).inScope seed).toWork s = ((q.watched r).inScope seed).toWork s) ∧
    (r.recorder = Recorder.standard →
      ∀ (operation : String) (caller : Option String) (p : Script σ α) (s : Session σ),
      r.isTraced operation = true → s.scopes = [] →
      let awaited := (r.invoke operation caller (p.task r)).toWork s
      let alone := r.invokeNow operation caller (p.work r) { s with thread := {} }
      let direct := r.invokeNow operation caller (p.work r) s
      awaited = (alone.1, { alone.2 with thread := s.thread }) ∧
      awaited.1 = direct.1 ∧ awaited.2.SameButTraces direct.2) := by
  refine ⟨?_, ?_⟩
  · intro p q hpq seed s
    rw [p.toWork_inScope_watched hr, q.toWork_inScope_watched hr, hpq]
  · intro hstandard operation caller p s htraced hscopes awaited alone direct
    obtain ⟨operations, recorder⟩ := r
    cases hstandard
    let r : Registry σ := ⟨operations, .standard⟩
    have halone : awaited = (alone.1, { alone.2 with thread := s.thread }) :=
      surroundTask_alone (p.staysInScope_task hr) (p.task_alike hr)
        (p.work_alike (keptByCalls_movedOut s.thread) (around_movedOut s.thread))
        (List.contains_iff_mem.mp htraced) (t := { s with thread := {} }) hscopes rfl
    -- spans make no difference to the rest, so neither does the slot they use
    have hblind := Session.blindToSpans_sameButTraces (σ := σ)
    have hcall : Work.Alike Session.SameButTraces (p.work r) (p.work r) :=
      p.work_alike hblind.toKeptByCalls hblind.around
    have hinvoke : Work.Alike Session.SameButTraces (r.invokeNow operation caller (p.work r))
        (r.invokeNow operation caller (p.work r)) := hblind.invokeNow rfl rfl rfl caller hcall
    obtain ⟨hvalue, hrest⟩ := hinvoke { s with thread := {} } s ⟨rfl, rfl, rfl⟩
    rw [halone]
    exact ⟨rfl, hvalue, hrest.data, hrest.untraced, hrest.denials⟩

/-- A script of two calls, one within the other. -/
def nested (outer inner : Manner) : Script Nat Nat :=
  .call outer "HolidayController.create" (some "10.0.0.9")
    (.call inner "HolidayService.create" none
      (.step (· + 1) fun before => .done (.ok before)) .done)
    .done

theorem manner_irrelevant_nested :
    let guard : Guard := ⟨⟨[.any]⟩⟩
    let registry : Registry Nat :=
      ⟨[("HolidayController.create", [.checkCaller guard, .traceCall]),
        ("HolidayService.create", [.checkCaller guard, .traceCall])], .standard⟩
    let busy : Session Nat := { data := 0, thread := { current := some ⟨.given "old", 3⟩ } }
    let p := nested .awaited .direct
    let q := nested .direct .awaited
    p.direct = q.direct ∧
    ((p.watched registry).inScope (some (.given "t"))).toWork busy =
      ((q.watched registry).inScope (some (.given "t"))).toWork busy ∧
    registry.isTraced "HolidayController.create" = true ∧
    ((registry.invoke "HolidayController.create" none (p.task registry)).toWork busy).2.thread =
      busy.thread := by
  intro guard registry busy p q
  have h := manner_irrelevant (α := Nat) registry Recorder.staysInScope_standard
  have htraced : registry.isTraced "HolidayController.create" = true := by decide
  refine ⟨rfl, h.1 p q rfl _ busy, htraced, ?_⟩
  rw [(h.2 rfl "HolidayController.create" none p busy htraced rfl).1]

end Script

end HolidayApi.Call
