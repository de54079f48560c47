import HolidayApi.Call.Span

/-! # Levels open and close like brackets

    A slot knows the id of the chain that a call opened in it belongs to
    (`chainId`) and whether that id has to be issued (`issues`). With these
    two, opening a level is one equation (`openLevel_eq`) for all slots, and
    closing the level gives back the slot as it was (`closeLevel_opened`).
    Whatever is closed, the seed stays, and what is left of a trace has its id.

    A session has many slots, of which one is seen. Sessions with the same
    slots may differ in everything else (`SameSlots`).
-/

namespace HolidayApi.Call

variable {σ : Type}

/-! ### One slot -/

namespace Slot

/-- The id of the chain that a call opened in this slot belongs to: the one
    that is active, else the seed unless it is empty, else the `n`-th issued
    one. -/
def chainId (slot : Slot) (n : Nat) : Id :=
  match slot.current, slot.seed with
  | some trace, _ => trace.id
  | none, some seed => if seed.isEmpty then .fresh n else seed
  | none, none => .fresh n

/-- The number of ids that are issued when a level opens in this slot. -/
def issues (slot : Slot) : Nat :=
  match slot.current, slot.seed with
  | some _, _ => 0
  | none, some seed => if seed.isEmpty then 1 else 0
  | none, none => 1

/-- The slot with one more level open. -/
def opened (slot : Slot) (n : Nat) : Slot :=
  { slot with current := some ⟨slot.chainId n, slot.depth⟩ }

@[simp] theorem chainId_opened (slot : Slot) (n m : Nat) :
    (slot.opened n).chainId m = slot.chainId n := rfl

@[simp] theorem issues_opened (slot : Slot) (n : Nat) : (slot.opened n).issues = 0 := rfl

/-- Where no id is issued, the id of a chain is the same at all times. -/
theorem chainId_after (slot : Slot) (n later : Nat) :
    slot.chainId (n + slot.issues + later) = slot.chainId (n + (later + 1)) := by
  have hnext : n + 1 + later = n + (later + 1) := by omega
  unfold chainId issues
  -- a fresh id is the only one that depends on the number of issued ids
  cases slot.current with
  | some trace => rfl
  | none =>
    cases slot.seed with
    | none => simp only [hnext]
    | some seed =>
      by_cases hempty : seed.isEmpty = true
      · simp only [hempty, if_true, hnext]
      · simp only [hempty]
        rfl

theorem openLevel_eq (slot : Slot) (n : Nat) :
    slot.openLevel n = (⟨slot.chainId n, slot.depth⟩, slot.opened n, n + slot.issues) := by
  obtain ⟨seed, current⟩ := slot
  cases current with
  | some trace => rfl
  | none =>
    cases seed with
    | none => rfl
    | some id =>
      -- only here it matters what the seed says: an empty one counts as none
      unfold openLevel opened chainId issues
      simp only [Trace.generate]
      by_cases hempty : id.isEmpty = true
      · simp only [hempty, if_true]
        rfl
      · simp only [hempty]
        rfl

/-- Closing a level undoes its opening. -/
theorem closeLevel_opened (slot : Slot) (n : Nat) : (slot.opened n).closeLevel = slot := by
  obtain ⟨seed, current⟩ := slot
  cases current with
  | none => rfl
  | some trace => rfl

/-- Closing where no level is open leaves the slot alone. -/
theorem closeLevel_vacant {slot : Slot} (h : slot.current = none) : slot.closeLevel = slot := by
  unfold closeLevel
  rw [h]

@[simp] theorem seed_closeLevel (slot : Slot) : slot.closeLevel.seed = slot.seed := by
  obtain ⟨seed, current⟩ := slot
  cases current with
  | none => rfl
  | some trace =>
    unfold closeLevel
    dsimp only
    split <;> rfl

/-- What is left of a trace has its id. -/
theorem exists_of_closeLevel {slot : Slot} {trace : Trace}
    (h : slot.closeLevel.current = some trace) :
    ∃ before, slot.current = some before ∧ trace.id = before.id := by
  obtain ⟨seed, current⟩ := slot
  cases current with
  | none => cases h
  | some before =>
    refine ⟨before, rfl, ?_⟩
    unfold closeLevel at h
    dsimp only at h
    split at h
    · cases h
    · cases h
      rfl

end Slot

/-! ### The slots of a session -/

namespace Session

/-- Both sessions have the same slots. -/
structure SameSlots {τ : Type} (a : Session σ) (b : Session τ) : Prop where
  thread : a.thread = b.thread
  scopes : a.scopes = b.scopes

namespace SameSlots

variable {a b c : Session σ}

theorem refl (a : Session σ) : SameSlots a a := ⟨rfl, rfl⟩

theorem trans (hab : SameSlots a b) (hbc : SameSlots b c) : SameSlots a c :=
  ⟨hab.thread.trans hbc.thread, hab.scopes.trans hbc.scopes⟩

/-- The same slot is seen. -/
theorem slot (h : SameSlots a b) : a.slot = b.slot := by
  unfold Session.slot
  rw [h.thread, h.scopes]

/-- A slot that was put in the place of another makes way for it again. -/
theorem restored {slot : Slot} (h : SameSlots a (b.setSlot slot)) :
    SameSlots (a.setSlot b.slot) b := by
  obtain ⟨hthread, hscopes⟩ := h
  unfold setSlot Session.slot at *
  cases hb : b.scopes with
  | nil =>
    -- outside all scopes it is the slot of the thread that was replaced
    rw [hb] at hscopes
    have hnone : a.scopes = [] := hscopes
    rw [hnone]
    exact ⟨rfl, hb.symm⟩
  | cons inner outer =>
    rw [hb] at hthread hscopes
    have hsome : a.scopes = slot :: outer := hscopes
    rw [hsome]
    exact ⟨hthread, hb.symm⟩

end SameSlots
end Session

/-! ### Opening and closing a span -/

namespace Recorder

/-- The state after a span was opened. -/
def openedState (label : String) (s : Session σ) : Session σ :=
  { s.setSlot (s.slot.opened s.issued) with
    issued := s.issued + s.slot.issues
    told := .spanOpened (s.slot.chainId s.issued) (s.slot.depth + 1) label :: s.told }

theorem standardOpened_run (label : String) (s : Session σ) :
    standardOpened label s =
      (⟨s.slot.chainId s.issued, s.slot.depth + 1, label⟩, openedState label s) := by
  show (let level := s.slot.openLevel s.issued
    ((⟨level.1.id, level.1.level, label⟩, { s.setSlot level.2.1 with
      issued := level.2.2
      told := .spanOpened level.1.id level.1.level label :: (s.setSlot level.2.1).told }) :
        Span × Session σ)) = _
  rw [Slot.openLevel_eq]
  simp only [Session.told_setSlot]
  rfl

theorem slot_openedState (label : String) (s : Session σ) :
    (openedState label s).slot = s.slot.opened s.issued := Session.slot_setSlot s _

theorem data_openedState (label : String) (s : Session σ) :
    (openedState label s).data = s.data := Session.data_setSlot s _

theorem meters_openedState (label : String) (s : Session σ) :
    (openedState label s).meters = s.meters := Session.meters_setSlot s _

theorem events_openedState (label : String) (s : Session σ) :
    (openedState label s).events =
      s.events ++ [.spanOpened (s.slot.chainId s.issued) (s.slot.depth + 1) label] :=
  List.reverse_cons

/-- The state after a span was closed. -/
def closedState (span : Span) (fault : Option Fault) (s : Session σ) : Session σ :=
  let told : Session σ :=
    { s with
      told := .spanClosed span.trace span.level span.label fault :: s.told
      meters := s.meters.countSpan fault }
  told.setSlot s.slot.closeLevel

theorem slot_closedState (span : Span) (fault : Option Fault) (s : Session σ) :
    (closedState span fault s).slot = s.slot.closeLevel := Session.slot_setSlot _ _

theorem data_closedState (span : Span) (fault : Option Fault) (s : Session σ) :
    (closedState span fault s).data = s.data := Session.data_setSlot _ _

theorem meters_closedState (span : Span) (fault : Option Fault) (s : Session σ) :
    (closedState span fault s).meters = s.meters.countSpan fault := Session.meters_setSlot _ _

theorem issued_closedState (span : Span) (fault : Option Fault) (s : Session σ) :
    (closedState span fault s).issued = s.issued := Session.issued_setSlot _ _

theorem events_closedState (span : Span) (fault : Option Fault) (s : Session σ) :
    (closedState span fault s).events =
      s.events ++ [.spanClosed span.trace span.level span.label fault] := by
  unfold closedState Session.events
  rw [Session.told_setSlot, List.reverse_cons]

theorem standard_opened_run (label : String) (s : Session σ) :
    standard.opened label s =
      (⟨s.slot.chainId s.issued, s.slot.depth + 1, label⟩, openedState label s) :=
  standardOpened_run label s

theorem standard_closed_run (span : Span) (fault : Option Fault) (s : Session σ) :
    standard.closed span fault s = ((), closedState span fault s) := rfl

/-- A call in a span. -/
theorem standard_around_run {α : Type} (label : String) (call : Work σ (Outcome α))
    (s : Session σ) :
    standard.around label call s =
      let result := call (openedState label s)
      (result.1, closedState ⟨s.slot.chainId s.issued, s.slot.depth + 1, label⟩
        (faultOf result.1) result.2) := by
  show (let opened := standardOpened label s
    let result := call opened.2
    (result.1, (standardClosed opened.1 (faultOf result.1) result.2).2)) = _
  rw [standardOpened_run]
  rfl

/-- **A span that closes leaves the slots as they were before it opened**, if
    what ran within it did so, too. -/
theorem sameSlots_closedState {label : String} {s inside : Session σ} (span : Span)
    (fault : Option Fault) (h : inside.SameSlots (openedState label s)) :
    (closedState span fault inside).SameSlots s := by
  have hslot : inside.slot.closeLevel = s.slot := by
    rw [h.slot, slot_openedState, Slot.closeLevel_opened]
  unfold closedState
  rw [hslot]
  exact Session.SameSlots.restored ⟨h.thread, h.scopes⟩

end Recorder
end HolidayApi.Call
