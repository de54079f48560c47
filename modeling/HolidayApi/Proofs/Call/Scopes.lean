import HolidayApi.Proofs.Call.Awaiting

/-! # Scopes keep their traces to themselves

    A program is any nesting of scopes, awaited calls, direct calls and spans
    that are opened and closed by hand, in balance or not.

    * `Task.Steps`: what every step of a task does. A step of a program
      touches no slot but the one that is seen (`steps_task`), so a step of a
      program in a scope of its own touches none (`Steps.inScope`).
    * `Displaced`: two states with the same slot in sight, while the slots
      behind it differ. Programs cannot tell them apart (`run_alike`).
    * `untilSpan` goes to the first span of a scope. Up to there the slot of
      the scope is empty (`leadsTo_untilSpan`).
-/

namespace HolidayApi.Call

open Recorder (closedState openedState standard)

variable {σ α β : Type}

/-! ### Programs -/

/-- What a program does until it has its outcome. -/
inductive Program (σ α : Type) where
  | done (outcome : Outcome α)
  /-- A change of the data. -/
  | step (change : σ → σ) (next : σ → Program σ α)
  /-- A suspension. -/
  | pause (next : Program σ α)
  /-- A look at the trace and at the id that are seen. -/
  | look (next : Option Trace → Option Id → Program σ α)
  /-- A span that is opened and left open. -/
  | opened (label : String) (next : Span → Program σ α)
  /-- A span that is closed, whether it is the innermost one or not. -/
  | closed (span : Span) (fault : Option Fault) (next : Program σ α)
  /-- A direct call in a span. All that it does comes to its end before the
      call returns. -/
  | direct (label : String) (inner : Program σ α) (next : Outcome α → Program σ α)
  /-- An awaited call in a span. -/
  | awaited (label : String) (inner : Program σ α) (next : Outcome α → Program σ α)
  /-- A program in a scope of its own. -/
  | inScope (seed : Option Id) (inner : Program σ α) (next : Outcome α → Program σ α)

namespace Program

/-- The program as a task. -/
def task : Program σ α → Task σ (Outcome α)
  | done outcome => return outcome
  | step change next => do
    let before ← Task.ofWork (Work.onData fun data => (data, change data))
    (next before).task
  | pause next => .suspended next.task
  | look next => do
    let trace ← Task.ofWork Work.currentTrace
    let id ← Task.ofWork Work.currentId
    (next trace id).task
  | opened label next => do
    let span ← Task.ofWork (standard.opened label)
    (next span).task
  | closed span fault next => do
    Task.ofWork (standard.closed span fault)
    next.task
  | direct label inner next => do
    let outcome ← Task.ofWork (standard.around label inner.task.toWork)
    (next outcome).task
  | awaited label inner next => do
    let outcome ← Registry.aroundTask standard label inner.task
    (next outcome).task
  | inScope seed inner next => do
    let outcome ← inner.task.inScope seed
    (next outcome).task

/-- Runs the program to its end. -/
def run (p : Program σ α) : Work σ (Outcome α) := p.task.toWork

end Program

/-! ### What a step touches -/

namespace Session

theorem setSlot_slot (s : Session σ) : s.setSlot s.slot = s := by
  obtain ⟨data, told, meters, thread, scopes, issued⟩ := s
  cases scopes <;> rfl

theorem setSlot_setSlot (s : Session σ) (slot slot' : Slot) :
    (s.setSlot slot).setSlot slot' = s.setSlot slot' := by
  obtain ⟨data, told, meters, thread, scopes, issued⟩ := s
  cases scopes <;> rfl

theorem SameSlots.setSlot {s t : Session σ} (h : s.SameSlots t) (slot : Slot) :
    (s.setSlot slot).SameSlots (t.setSlot slot) := by
  obtain ⟨data, told, meters, thread, scopes, issued⟩ := s
  obtain ⟨data', told', meters', thread', scopes', issued'⟩ := t
  obtain ⟨rfl, rfl⟩ := h
  cases scopes <;> exact ⟨rfl, rfl⟩

/-- On the way from one state to the other no slot was touched but the one
    that is seen, and events were only told and ids only issued. -/
structure LeadsTo (s t : Session σ) : Prop where
  slots : t.SameSlots (s.setSlot t.slot)
  told : s.events <+: t.events
  issued : s.issued ≤ t.issued

namespace LeadsTo

variable {s t u : Session σ}

theorem of_sameSlots (hslots : t.SameSlots s) (htold : s.events <+: t.events)
    (hissued : s.issued ≤ t.issued) : s.LeadsTo t := by
  refine ⟨?_, htold, hissued⟩
  rw [hslots.slot, setSlot_slot]
  exact hslots

theorem refl (s : Session σ) : s.LeadsTo s := of_sameSlots (.refl s) List.prefix_rfl Nat.le.refl

theorem trans (h : s.LeadsTo t) (h' : t.LeadsTo u) : s.LeadsTo u := by
  refine ⟨?_, h.told.trans h'.told, Nat.le_trans h.issued h'.issued⟩
  have hslots : (t.setSlot u.slot).SameSlots ((s.setSlot t.slot).setSlot u.slot) :=
    h.slots.setSlot u.slot
  rw [setSlot_setSlot] at hslots
  exact h'.slots.trans hslots

/-- The slot that is seen was put there last. -/
theorem of_setSlot (slot : Slot) (hslots : t.SameSlots (s.setSlot slot))
    (htold : s.events <+: t.events) (hissued : s.issued ≤ t.issued) : s.LeadsTo t := by
  have hslot : t.slot = slot := by rw [hslots.slot, slot_setSlot]
  exact ⟨hslot.symm ▸ hslots, htold, hissued⟩

theorem opened (label : String) (s : Session σ) : s.LeadsTo (openedState label s) := by
  have htold : s.events <+: (openedState label s).events := by
    rw [Recorder.events_openedState]
    exact List.prefix_append _ _
  exact of_setSlot (s.slot.opened s.issued) ⟨rfl, rfl⟩ htold (Nat.le_add_right _ _)

theorem closed (span : Span) (fault : Option Fault) (s : Session σ) :
    s.LeadsTo (closedState span fault s) := by
  have htold : s.events <+: (closedState span fault s).events := by
    rw [Recorder.events_closedState]
    exact List.prefix_append _ _
  have hissued : s.issued ≤ (closedState span fault s).issued :=
    Nat.le_of_eq (Recorder.issued_closedState span fault s).symm
  have hline : SameSlots { s with
      told := .spanClosed span.trace span.level span.label fault :: s.told
      meters := s.meters.countSpan fault } s := ⟨rfl, rfl⟩
  exact of_setSlot s.slot.closeLevel (hline.setSlot _) htold hissued

theorem scopes_ne_nil (h : s.LeadsTo t) (hs : s.scopes ≠ []) : t.scopes ≠ [] := by
  rw [h.slots.scopes]
  exact scopes_setSlot_ne_nil hs _

/-- What happened in a scope touched no slot outside of it. -/
theorem leave {slot : Slot} (h : (s.enter slot).LeadsTo t) :
    s.LeadsTo t.leave ∧ t.leave.SameSlots s := by
  have hslots : t.leave.SameSlots s := by
    have hscopes : t.scopes = t.slot :: s.scopes := h.slots.scopes
    refine ⟨h.slots.thread, ?_⟩
    show t.scopes.tail = s.scopes
    rw [hscopes, List.tail_cons]
  exact ⟨of_sameSlots hslots h.told h.issued, hslots⟩

end LeadsTo
end Session

/-! ### The steps of a task -/

namespace Task

/-- Every step of the task takes the state to a related one. -/
def Steps (R : Session σ → Session σ → Prop) : Task σ α → Prop
  | done _ => True
  | suspended rest => rest.Steps R
  | step change next => ∀ s, R s (change s) ∧ (next s).Steps R

namespace Steps

variable {R R' : Session σ → Session σ → Prop} {task : Task σ α}

theorem ofWork {work : Work σ α} (h : ∀ s, R s (work s).2) : (ofWork work).Steps R :=
  fun s => ⟨h s, trivial⟩

theorem bind {next : α → Task σ β} (h : task.Steps R) (hnext : ∀ a, (next a).Steps R) :
    (task >>= next).Steps R := by
  induction task with
  | done a => exact hnext a
  | suspended rest ih => exact ih h
  | step change rest ih =>
    intro s
    exact ⟨(h s).1, ih s (h s).2⟩

theorem mono (hR : ∀ s t, R s t → R' s t) (h : task.Steps R) : task.Steps R' := by
  induction task with
  | done a => trivial
  | suspended rest ih => exact ih h
  | step change rest ih =>
    intro s
    exact ⟨hR _ _ (h s).1, ih s (h s).2⟩

/-- A task in a scope enters the scope for each step and leaves it again. -/
theorem within (hR : ∀ slot s t, R (s.enter slot) t → R' s t.leave) (h : task.Steps R)
    (slot : Slot) : (task.within slot).Steps R' := by
  induction task generalizing slot with
  | done a => trivial
  | suspended rest ih => exact ih h slot
  | step change rest ih =>
    intro s
    obtain ⟨hchange, hrest⟩ := h (s.enter slot)
    exact ⟨hR slot s _ hchange, ih (s.enter slot) hrest _⟩

/-- What holds of every step holds of the whole run. -/
theorem toWork (hrefl : ∀ s, R s s) (htrans : ∀ {s t u}, R s t → R t u → R s u)
    (h : task.Steps R) (s : Session σ) : R s (task.toWork s).2 := by
  induction task generalizing s with
  | done a => exact hrefl s
  | suspended rest ih => exact ih h s
  | step change rest ih => exact htrans (h s).1 (ih s (h s).2 (change s))

theorem staysInScope (h : task.Steps Session.LeadsTo) : task.StaysInScope := by
  induction task with
  | done a => trivial
  | suspended rest ih => exact ih h
  | step change rest ih =>
    intro s hs
    exact ⟨(h s).1.scopes_ne_nil hs, ih s (h s).2⟩

/-- In a scope of its own, a task touches no slot outside of it. -/
theorem inScope (h : task.Steps Session.LeadsTo) (seed : Option Id) :
    (task.inScope seed).Steps fun s t => s.LeadsTo t ∧ t.SameSlots s :=
  h.within (fun _ _ _ hstep => hstep.leave) { seed }

theorem inSomeScope (h : task.Steps Session.LeadsTo) :
    task.inSomeScope.Steps Session.LeadsTo := by
  intro s
  refine ⟨.refl s, ?_⟩
  show (if s.scopes.isEmpty then task.inScope none else task).Steps _
  split
  · exact (h.inScope none).mono fun _ _ hstep => hstep.1
  · exact h

end Steps
end Task

namespace Program

/-- **A step of a program** touches no slot but the one that is seen. -/
theorem steps_task (p : Program σ α) : p.task.Steps Session.LeadsTo := by
  induction p with
  | done outcome => trivial
  | step change next ih =>
    refine .bind (.ofWork fun s => ?_) ih
    exact .of_sameSlots ⟨rfl, rfl⟩ List.prefix_rfl Nat.le.refl
  | pause next ih => exact ih
  | look next ih =>
    exact .bind (.ofWork fun s => .refl s) fun trace => .bind (.ofWork fun s => .refl s) (ih trace)
  | opened label next ih =>
    refine .bind (.ofWork fun s => ?_) ih
    show s.LeadsTo (Recorder.standardOpened label s).2
    rw [Recorder.standardOpened_run]
    exact .opened label s
  | closed span fault next ih => exact .bind (.ofWork fun s => .closed span fault s) fun _ => ih
  | direct label inner next ihInner ihNext =>
    refine .bind (.ofWork fun s => ?_) ihNext
    rw [Recorder.standard_around_run]
    exact (Session.LeadsTo.opened label s).trans
      ((ihInner.toWork .refl .trans _).trans (.closed _ _ _))
  | awaited label inner next ihInner ihNext =>
    refine .bind (.inSomeScope (.bind (.ofWork fun s => ?_) fun span => ?_)) ihNext
    · show s.LeadsTo (Recorder.standardOpened label s).2
      rw [Recorder.standardOpened_run]
      exact .opened label s
    · exact .bind ihInner fun outcome => .bind (.ofWork fun s => .closed span _ s) fun _ => trivial
  | inScope seed inner next ihInner ihNext =>
    exact .bind ((ihInner.inScope seed).mono fun _ _ hstep => hstep.1) ihNext

theorem leadsTo_run (p : Program σ α) (s : Session σ) : s.LeadsTo (p.run s).2 :=
  p.steps_task.toWork .refl .trans s

/-! ### Runs -/

theorem run_opened (label : String) (next : Span → Program σ α) (s : Session σ) :
    (opened label next).run s =
      (next ⟨s.slot.chainId s.issued, s.slot.depth + 1, label⟩).run (openedState label s) := by
  have hopened : (standard.opened label : Work σ Span) s =
      (⟨s.slot.chainId s.issued, s.slot.depth + 1, label⟩, openedState label s) :=
    Recorder.standardOpened_run label s
  show (next ((standard.opened label : Work σ Span) s).1).run
    ((standard.opened label : Work σ Span) s).2 = _
  rw [hopened]

theorem run_direct (label : String) (inner : Program σ α) (next : Outcome α → Program σ α) :
    (direct label inner next).run =
      (standard.around label inner.run >>= fun outcome => (next outcome).run) :=
  Task.toWork_bind _ _

/-- What runs in a scope runs in the slot of that scope. -/
theorem run_inScope (seed : Option Id) (inner : Program σ α) (next : Outcome α → Program σ α) :
    (inScope seed inner next).run =
      (Work.inScope seed inner.run >>= fun outcome => (next outcome).run) := by
  have hinner : (inner.task.inScope seed).toWork = Work.inScope seed inner.run := by
    funext s
    exact Task.toWork_within inner.steps_task.staysInScope { seed } s
  show (inner.task.inScope seed >>= fun outcome => (next outcome).task).toWork = _
  rw [Task.toWork_bind, hinner]
  rfl

/-- An awaited call in a scope is one in the slot of that scope. -/
theorem run_awaited_inside (label : String) (inner : Program σ α)
    (next : Outcome α → Program σ α) {s : Session σ} (hs : s.scopes ≠ []) :
    (awaited label inner next).run s = (direct label inner next).run s := by
  have hspan : (Registry.aroundTask standard label inner.task).toWork s =
      standard.around label inner.run s := by
    show (if s.scopes.isEmpty then _ else _ : Task σ (Outcome α)).toWork s = _
    rw [Task.next_inSomeScope _ hs]
    exact congrFun (Registry.toWork_spanTask label inner.task) s
  show (Registry.aroundTask standard label inner.task >>= fun o => (next o).task).toWork s = _
  rw [Task.toWork_bind, run_direct, Work.bind_run, Work.bind_run, hspan]
  rfl

/-- An awaited call outside all scopes has a scope of its own. -/
theorem run_awaited_outside (label : String) (inner : Program σ α)
    (next : Outcome α → Program σ α) {s : Session σ} (hs : s.scopes = []) :
    (awaited label inner next).run s = (inScope none (direct label inner .done) next).run s := by
  have hstays : (Registry.spanTask standard label inner.task).StaysInScope :=
    Registry.staysInScope_spanTask Recorder.staysInScope_standard inner.steps_task.staysInScope
  have hspan : (Registry.aroundTask standard label inner.task).toWork s =
      Work.inScope none (standard.around label inner.run) s := by
    show (Registry.spanTask standard label inner.task).inSomeScope.toWork s = _
    rw [Task.toWork_inSomeScope hstays hs, Registry.toWork_spanTask]
    rfl
  show (Registry.aroundTask standard label inner.task >>= fun o => (next o).task).toWork s = _
  rw [Task.toWork_bind, run_inScope, Work.bind_run, Work.bind_run, hspan]
  rfl

end Program

/-! ### Slots out of sight -/

/-- The same state in a scope with this slot, where the slots behind it are
    those of the thread and of the outer scopes. -/
def Session.inFrontOf (common : Session σ) (slot thread : Slot) (outer : List Slot) : Session σ :=
  { common with thread, scopes := slot :: outer }

/-- Two states with the same slot in sight, that of a scope, which differ at
    most in the slots behind it. -/
def Session.Displaced (thread thread' : Slot) (outer outer' : List Slot) (s t : Session σ) : Prop :=
  ∃ common slot, s = inFrontOf common slot thread outer ∧ t = inFrontOf common slot thread' outer'

namespace Session.Displaced

variable {thread thread' : Slot} {outer outer' : List Slot} {s t : Session σ}

theorem opened (h : Displaced thread thread' outer outer' s t) (label : String) :
    Displaced thread thread' outer outer' (openedState label s) (openedState label t) := by
  obtain ⟨common, slot, rfl, rfl⟩ := h
  exact ⟨openedState label (inFrontOf common slot thread outer), _, rfl, rfl⟩

theorem closed (h : Displaced thread thread' outer outer' s t) (span : Span)
    (fault : Option Fault) : Displaced thread thread' outer outer' (closedState span fault s)
      (closedState span fault t) := by
  obtain ⟨common, slot, rfl, rfl⟩ := h
  exact ⟨closedState span fault (inFrontOf common slot thread outer), _, rfl, rfl⟩

theorem around (label : String) {call : Work σ (Outcome α)}
    (h : Work.Alike (Displaced thread thread' outer outer') call call) :
    Work.Alike (Displaced thread thread' outer outer') (standard.around label call)
      (standard.around label call) := by
  intro s t hst
  obtain ⟨hvalue, hafter⟩ := h _ _ (hst.opened label)
  obtain ⟨common, slot, rfl, rfl⟩ := hst
  rw [Recorder.standard_around_run, Recorder.standard_around_run]
  -- the slot that is seen is the same, so the same level closes in it
  refine ⟨hvalue, ?_⟩
  show Displaced _ _ _ _ (closedState _ _ _) (closedState _ _ _)
  rw [← hvalue]
  exact hafter.closed _ _

theorem scopes_ne_nil (h : Displaced thread thread' outer outer' s t) :
    s.scopes ≠ [] ∧ t.scopes ≠ [] := by
  obtain ⟨common, slot, rfl, rfl⟩ := h
  exact ⟨List.cons_ne_nil _ _, List.cons_ne_nil _ _⟩

end Session.Displaced

namespace Program

open Session (Displaced)

/-- **A program in a scope** neither reads nor changes the slots behind it. -/
theorem run_alike (p : Program σ α) (thread thread' : Slot) (outer outer' : List Slot) :
    Work.Alike (Displaced thread thread' outer outer') p.run p.run := by
  -- a scope within a scope has one more slot behind it
  induction p generalizing outer outer' with
  | done outcome => exact .of_pure outcome
  | step change next ih =>
    rintro s t ⟨common, slot, rfl, rfl⟩
    exact ih common.data outer outer' _ _
      ⟨{ common with data := change common.data }, slot, rfl, rfl⟩
  | pause next ih => exact ih outer outer'
  | look next ih =>
    rintro s t ⟨common, slot, rfl, rfl⟩
    exact ih slot.current slot.id? outer outer' _ _ ⟨common, slot, rfl, rfl⟩
  | opened label next ih =>
    rintro s t ⟨common, slot, rfl, rfl⟩
    rw [run_opened, run_opened]
    exact ih _ outer outer' _ _ (Displaced.opened ⟨common, slot, rfl, rfl⟩ label)
  | closed span fault next ih =>
    intro s t hst
    exact ih outer outer' _ _ (hst.closed span fault)
  | direct label inner next ihInner ihNext =>
    rw [run_direct]
    exact (Displaced.around label (ihInner outer outer')).bind fun o => ihNext o outer outer'
  | awaited label inner next ihInner ihNext =>
    intro s t hst
    obtain ⟨hs, ht⟩ := hst.scopes_ne_nil
    rw [run_awaited_inside label inner next hs, run_awaited_inside label inner next ht, run_direct]
    exact (Displaced.around label (ihInner outer outer')).bind (fun o => ihNext o outer outer')
      s t hst
  | inScope seed inner next ihInner ihNext =>
    rw [run_inScope]
    refine Work.Alike.bind ?_ fun o => ihNext o outer outer'
    rintro s t ⟨common, slot, rfl, rfl⟩
    obtain ⟨hvalue, after, last, hs, ht⟩ :=
      ihInner (slot :: outer) (slot :: outer') _ _ ⟨common, { seed }, rfl, rfl⟩
    refine ⟨hvalue, after, slot, ?_, ?_⟩
    · exact congrArg Session.leave hs
    · exact congrArg Session.leave ht

end Program

/-- The work neither reads nor changes any slot. -/
def Work.IgnoresSlots (work : Work σ α) : Prop :=
  ∀ s thread scopes, work { s with thread, scopes } =
    ((work s).1, { (work s).2 with thread, scopes })

theorem Work.IgnoresSlots.sameSlots {work : Work σ α} (h : work.IgnoresSlots) (s : Session σ) :
    (work s).2.SameSlots s := by
  have hs : work s = ((work s).1, { (work s).2 with thread := s.thread, scopes := s.scopes }) :=
    h s s.thread s.scopes
  rw [hs]
  exact ⟨rfl, rfl⟩

namespace Program

/-- A program in a scope of its own ignores all slots outside of it. -/
theorem ignoresSlots_inScope (seed : Option Id) (p : Program σ α) :
    (Work.inScope seed p.run).IgnoresSlots := by
  intro s thread scopes
  obtain ⟨hvalue, after, last, hs, ht⟩ := p.run_alike s.thread thread s.scopes scopes
    (s.enter { seed }) (({ s with thread, scopes } : Session σ).enter { seed })
    ⟨s, { seed }, rfl, rfl⟩
  refine Prod.ext hvalue.symm ?_
  show (p.run _).2.leave = { (p.run (s.enter { seed })).2.leave with thread, scopes }
  rw [hs, ht]
  rfl

/-! ### The first span -/

/-- What is left of the program, and the state then, when it is about to open
    a span where it runs. Scopes on the way are passed with all that happens
    in them. -/
def untilSpan : Program σ α → Session σ → Program σ α × Session σ
  | step change next, s => (next s.data).untilSpan { s with data := change s.data }
  | pause next, s => next.untilSpan s
  | look next, s => (next s.slot.current s.slot.id?).untilSpan s
  | closed span fault next, s => next.untilSpan (closedState span fault s)
  | inScope seed inner next, s =>
    (next (Work.inScope seed inner.run s).1).untilSpan (Work.inScope seed inner.run s).2
  | p, s => (p, s)

/-- The label of the span that the program opens at once. -/
def opens? : Program σ α → Option String
  | opened label _ => some label
  | direct label _ _ => some label
  | awaited label _ _ => some label
  | _ => none

theorem run_untilSpan (p : Program σ α) (s : Session σ) :
    p.run s = (p.untilSpan s).1.run (p.untilSpan s).2 := by
  induction p generalizing s with
  | done outcome => rfl
  | step change next ih => exact ih s.data _
  | pause next ih => exact ih s
  | look next ih => exact ih _ _ s
  | opened label next ih => rfl
  | closed span fault next ih => exact ih _
  | direct label inner next ihInner ihNext => rfl
  | awaited label inner next ihInner ihNext => rfl
  | inScope seed inner next ihInner ihNext =>
    rw [run_inScope]
    exact ihNext _ _

/-- A program that is not about to open a span is at its end. -/
theorem done_of_untilSpan (p : Program σ α) (s : Session σ)
    (h : (p.untilSpan s).1.opens? = none) : ∃ outcome, (p.untilSpan s).1 = done outcome := by
  induction p generalizing s with
  | done outcome => exact ⟨outcome, rfl⟩
  | step change next ih => exact ih s.data _ h
  | pause next ih => exact ih s h
  | look next ih => exact ih _ _ s h
  | opened label next ih => cases h
  | closed span fault next ih => exact ih _ h
  | direct label inner next ihInner ihNext => cases h
  | awaited label inner next ihInner ihNext => cases h
  | inScope seed inner next ihInner ihNext => exact ihNext _ _ h

/-- Where no span is open, closing one leaves the slot as it is. -/
theorem sameSlots_closedState {s : Session σ} (h : s.slot.current = none) (span : Span)
    (fault : Option Fault) : (closedState span fault s).SameSlots s := by
  have hslots := (Session.LeadsTo.closed span fault s).slots
  rw [Recorder.slot_closedState, Slot.closeLevel_vacant h, Session.setSlot_slot] at hslots
  exact hslots

/-- Up to the first span, the slot stays empty. -/
theorem leadsTo_untilSpan (p : Program σ α) {s : Session σ} (h : s.slot.current = none) :
    s.LeadsTo (p.untilSpan s).2 ∧ (p.untilSpan s).2.SameSlots s := by
  induction p generalizing s with
  | done outcome => exact ⟨.refl s, .refl s⟩
  | step change next ih =>
    have hstep : s.LeadsTo { s with data := change s.data } :=
      .of_sameSlots ⟨rfl, rfl⟩ List.prefix_rfl Nat.le.refl
    obtain ⟨hleads, hslots⟩ := ih s.data (s := { s with data := change s.data }) h
    exact ⟨hstep.trans hleads, hslots.trans ⟨rfl, rfl⟩⟩
  | pause next ih => exact ih h
  | look next ih => exact ih _ _ h
  | opened label next ih => exact ⟨.refl s, .refl s⟩
  | closed span fault next ih =>
    have hsame : (closedState span fault s).SameSlots s := sameSlots_closedState h span fault
    obtain ⟨hleads, hslots⟩ := ih (hsame.slot ▸ h)
    exact ⟨(Session.LeadsTo.closed span fault s).trans hleads, hslots.trans hsame⟩
  | direct label inner next ihInner ihNext => exact ⟨.refl s, .refl s⟩
  | awaited label inner next ihInner ihNext => exact ⟨.refl s, .refl s⟩
  | inScope seed inner next ihInner ihNext =>
    obtain ⟨hscope, hsame⟩ := (inner.leadsTo_run (s.enter { seed })).leave
    obtain ⟨hleads, hslots⟩ := ihNext (Work.inScope seed inner.run s).1 (hsame.slot ▸ h)
    exact ⟨hscope.trans hleads, hslots.trans hsame⟩

/-- A program that opens a span goes on from there. -/
theorem leadsTo_of_opens {p : Program σ α} {label : String} (h : p.opens? = some label)
    {s : Session σ} (hs : s.scopes ≠ []) : (openedState label s).LeadsTo (p.run s).2 := by
  have hdirect : ∀ (inner : Program σ α) next,
      (openedState label s).LeadsTo ((direct label inner next).run s).2 := by
    intro inner next
    rw [run_direct, Work.bind_run, Recorder.standard_around_run]
    exact (inner.leadsTo_run _).trans ((Session.LeadsTo.closed _ _ _).trans (leadsTo_run _ _))
  cases p with
  | opened other next =>
    cases h
    rw [run_opened]
    exact leadsTo_run _ _
  | direct other inner next =>
    cases h
    exact hdirect inner next
  | awaited other inner next =>
    cases h
    rw [run_awaited_inside _ _ _ hs]
    exact hdirect inner next
  | _ => cases h

/-! ### The result -/

/-- The id that the first span takes in a scope: the seed, unless it is missing
    or empty, and else a new one. -/
def firstId (seed : Option Id) (issued : Nat) : Id :=
  match seed with
  | some id => if id.isEmpty then .fresh issued else id
  | none => .fresh issued

theorem chainId_seeded (seed : Option Id) (issued : Nat) :
    Slot.chainId { seed } issued = firstId seed issued := by
  cases seed <;> rfl

/-- The first span of a scope with this seed, in which the program runs from
    this state on. -/
structure FirstSpan (seed : Option Id) (p : Program σ α) (s : Session σ)
    (first : Program σ α) (t : Session σ) : Prop where
  /-- The program gets to where it opens the span. -/
  reached : p.run (s.enter { seed }) = first.run t
  /-- The slot of the scope is empty up to there. -/
  empty : t.slot = { seed }
  /-- Nothing is told but the span, at the first level and with the id of the
      scope. -/
  opens : ∀ label, first.opens? = some label → ∃ later,
    (first.run t).2.events = t.events ++ .spanOpened (firstId seed t.issued) 1 label :: later
  /-- A new id is not one of those that were there before the scope. -/
  fresh : (∀ id ∈ seed, id.isEmpty = true) → ∀ n < s.issued, firstId seed t.issued ≠ .fresh n
  /-- Where there is no such span, the program is at its end. -/
  ends : first.opens? = none → ∃ outcome, first = done outcome

theorem firstSpan (seed : Option Id) (p : Program σ α) (s : Session σ) :
    FirstSpan seed p s (p.untilSpan (s.enter { seed })).1 (p.untilSpan (s.enter { seed })).2 := by
  let inside : Session σ := s.enter { seed }
  obtain ⟨hleads, hslots⟩ := p.leadsTo_untilSpan (s := inside) rfl
  have hslot : (p.untilSpan inside).2.slot = { seed } := hslots.slot
  refine ⟨p.run_untilSpan inside, hslot, ?_, ?_, p.done_of_untilSpan inside⟩
  · intro label hopens
    have hscopes : (p.untilSpan inside).2.scopes ≠ [] := hleads.scopes_ne_nil (List.cons_ne_nil _ _)
    obtain ⟨later, hlater⟩ := (leadsTo_of_opens hopens hscopes).told
    refine ⟨later, ?_⟩
    rw [← hlater, Recorder.events_openedState, hslot, chainId_seeded, List.append_assoc]
    rfl
  · intro hseed n hn heq
    have hissued : s.issued ≤ (p.untilSpan inside).2.issued := hleads.issued
    have hnew : firstId seed (p.untilSpan inside).2.issued =
        .fresh (p.untilSpan inside).2.issued := by
      cases seed with
      | none => rfl
      | some id => exact if_pos (hseed id rfl)
    rw [hnew, Id.fresh.injEq] at heq
    omega

/-- What a scope with this seed is to a program and to the slots around it. -/
structure ScopeApart (seed : Option Id) (p : Program σ α) : Prop where
  /-- The program runs in a slot of its own, which is gone afterwards. -/
  slot : ∀ s, (inScope seed p .done).run s =
    ((p.run (s.enter { seed })).1, (p.run (s.enter { seed })).2.leave)
  /-- No step of it touches a slot outside of the scope. -/
  steps : (p.task.inScope seed).Steps fun s t => t.SameSlots s
  /-- At the end all slots are as they were. -/
  sameSlots : ∀ s, ((inScope seed p .done).run s).2.SameSlots s
  /-- Other slots outside of the scope make no difference. -/
  ignoresSlots : (inScope seed p .done).run.IgnoresSlots
  /-- The first span has the first level and the id of the scope. -/
  first : ∀ s, FirstSpan seed p s (p.untilSpan (s.enter { seed })).1
    (p.untilSpan (s.enter { seed })).2

/-- What an awaited call does to the slots. -/
structure AwaitedApart (label : String) (p : Program σ α) : Prop where
  /-- In a scope, the span opens in the slot of that scope. -/
  inside : ∀ s : Session σ, s.scopes ≠ [] →
    (awaited label p .done).run s = standard.around label p.run s
  /-- Outside of all scopes, there is a new one without a seed. -/
  outside : ∀ s : Session σ, s.scopes = [] →
    (awaited label p .done).run s = Work.inScope none (standard.around label p.run) s
  /-- Then the slot of the thread is neither read nor changed. -/
  thread : ∀ s : Session σ, s.scopes = [] → ∀ thread,
    (awaited label p .done).run { s with thread } =
    (((awaited label p .done).run s).1, { ((awaited label p .done).run s).2 with thread })

theorem run_inScope_done (seed : Option Id) (p : Program σ α) :
    (inScope seed p .done).run = Work.inScope seed p.run := run_inScope seed p .done

theorem run_direct_done (label : String) (p : Program σ α) :
    (direct label p .done).run = standard.around label p.run := run_direct label p .done

/-- **Scopes are isolated.** Whatever a program in a scope leaves open or closes
    too often, the slots around it are as they were, and they make no
    difference to it. Its first span is the first one of a chain of its own.
    Awaited calls use the scope in which they are, and where there is none they
    have one, so that the slot of the thread is out of their reach. -/
theorem scopes_isolated (p : Program σ α) :
    (∀ seed, ScopeApart seed p) ∧ ∀ label, AwaitedApart label p := by
  refine ⟨?_, ?_⟩
  · intro seed
    have hignores : (inScope seed p .done).run.IgnoresSlots := by
      rw [run_inScope_done]
      exact ignoresSlots_inScope seed p
    refine ⟨?_, ?_, hignores.sameSlots, hignores, firstSpan seed p⟩
    · intro s
      rw [run_inScope_done]
      rfl
    · exact (p.steps_task.inScope seed).mono fun _ _ hstep => hstep.2
  · intro label
    have houtside : ∀ s : Session σ, s.scopes = [] →
        (awaited label p .done).run s = Work.inScope none (standard.around label p.run) s := by
      intro s hs
      rw [run_awaited_outside label p .done hs, run_inScope_done, run_direct_done]
    refine ⟨?_, houtside, ?_⟩
    · intro s hs
      rw [run_awaited_inside label p .done hs, run_direct_done]
    · intro s hs thread
      -- the scope ignores all slots outside, so that of the thread as well
      have hignores := ignoresSlots_inScope none (direct label p .done) s thread s.scopes
      rw [run_direct_done] at hignores
      have hscopes : (Work.inScope none (standard.around label p.run) s).2.scopes = s.scopes := by
        have hsame := (ignoresSlots_inScope none (direct label p .done)).sameSlots s
        rw [run_direct_done] at hsame
        exact hsame.scopes
      rw [houtside { s with thread } hs, houtside s hs]
      refine hignores.trans ?_
      rw [← hscopes]

/-- What is closed too often in a scope and what is left open in it stays in it. -/
example :
    let busy : Session Nat := { data := 0, thread := { current := some ⟨.given "outer", 3⟩ } }
    let careless : Program Nat Nat := .closed ⟨.given "outer", 4, "other"⟩ none <|
      .opened "left open" fun span => .done (.ok span.level)
    let after := (inScope (some (.given "req-9")) careless .done).run busy
    after.1 = .ok 1 ∧ after.2.thread = busy.thread := ⟨rfl, rfl⟩

end Program
end HolidayApi.Call
