import HolidayApi.Proofs.Call.Slots
import Mathlib.Data.List.Basic
import Mathlib.Data.List.Induction

/-! # Levels are counted, whatever is closed

    Spans may be closed in any order, twice, or where they were never opened.
    A slot does not know which span is closed; it counts. So what it holds is
    known from the number of openings and closings alone (`depthFrom`):

    * after any acts the slot is as deep as the count (`depth_play`), where
      closing at depth zero counts for nothing;
    * while the count does not come back to zero, the trace keeps its id, and
      every span that is opened gets it (`chain_play`);
    * while it is not zero, the trace is the one that was started when the
      count last left zero (`exists_start`).

    `slot_counts_levels` has them together, for any seed and any acts.
-/

namespace HolidayApi.Call

open Recorder (closedState openedState standard)

variable {σ : Type}

/-! ### Acts -/

/-- Something that is done by hand: a span is opened, or any span at all is
    closed, with or without a fault. -/
inductive Act where
  | opens (label : String)
  | closes (span : Span) (fault : Option Fault)

namespace Act

/-- Does it; an opening gives a span. -/
def work : Act → Work σ (Option Span)
  | opens label => do
    let span ← standard.opened label
    return some span
  | closes span fault => do
    standard.closed span fault
    return none

/-- The number of open levels after it, where `depth` were open before. -/
def count (depth : Nat) : Act → Nat
  | opens _ => depth + 1
  | closes .. => depth - 1

/-- Does one after another, and gives the spans that were opened. -/
def play : List Act → Work σ (List Span)
  | [] => return []
  | act :: acts => do
    let span ← act.work
    let spans ← play acts
    return span.toList ++ spans

/-- The number of open levels after the acts. -/
def depthFrom (depth : Nat) (acts : List Act) : Nat := acts.foldl count depth

/-- From this depth on, no part of the acts leads to depth zero. -/
def StaysOpen (depth : Nat) (acts : List Act) : Prop :=
  ∀ before after, acts = before ++ after → 0 < depthFrom depth before

theorem StaysOpen.pos {depth : Nat} {acts : List Act} (h : StaysOpen depth acts) : 0 < depth :=
  h [] acts rfl

theorem StaysOpen.tail {depth : Nat} {act : Act} {acts : List Act}
    (h : StaysOpen depth (act :: acts)) : StaysOpen (act.count depth) acts := by
  intro before after hacts
  exact h (act :: before) after (by rw [hacts]; rfl)

theorem depthFrom_concat (depth : Nat) (acts : List Act) (act : Act) :
    depthFrom depth (acts ++ [act]) = act.count (depthFrom depth acts) := by
  unfold depthFrom
  rw [List.foldl_append]
  rfl

/-- An open level was opened by an act at depth zero, and since then the depth
    was never zero. -/
theorem exists_start {acts : List Act} (h : depthFrom 0 acts ≠ 0) :
    ∃ before label during, acts = before ++ opens label :: during ∧
      depthFrom 0 before = 0 ∧ StaysOpen 1 during := by
  -- on the last act: it starts a chain, or goes on with the one before
  induction acts using List.reverseRecOn with
  | nil => exact absurd rfl h
  | append_singleton first last ih =>
    by_cases hzero : depthFrom 0 first = 0
    · cases last with
      | opens label =>
        refine ⟨first, label, [], rfl, hzero, ?_⟩
        intro before after hnone
        rw [(List.append_eq_nil_iff.mp hnone.symm).1]
        exact Nat.one_pos
      | closes span fault =>
        -- closing at depth zero stays there
        rw [depthFrom_concat, hzero] at h
        exact absurd rfl h
    · obtain ⟨before, label, during, rfl, hbefore, hopen⟩ := ih hzero
      refine ⟨before, label, during ++ [last], by simp, hbefore, ?_⟩
      intro front rest hsplit
      rcases List.eq_nil_or_concat' rest with rfl | ⟨rest', act, rfl⟩
      · -- all of the acts: the depth at the end is not zero
        have hdepth : depthFrom 0 (before ++ opens label :: during ++ [last]) =
            depthFrom 1 front := by
          rw [List.append_nil] at hsplit
          rw [← hsplit, List.append_assoc]
          unfold depthFrom at hbefore ⊢
          rw [List.foldl_append, hbefore]
          rfl
        rw [hdepth] at h
        exact Nat.pos_of_ne_zero h
      · rw [← List.append_assoc] at hsplit
        exact hopen front rest' (List.append_inj_left' hsplit rfl)

/-! ### What an act does to the slot -/

theorem play_cons (act : Act) (acts : List Act) (s : Session σ) :
    play (act :: acts) s =
      ((act.work s).1.toList ++ (play acts (act.work s).2).1, (play acts (act.work s).2).2) := rfl

theorem play_append (acts more : List Act) (s : Session σ) :
    play (acts ++ more) s =
      ((play acts s).1 ++ (play more (play acts s).2).1, (play more (play acts s).2).2) := by
  induction acts generalizing s with
  | nil => rfl
  | cons act acts ih =>
    rw [List.cons_append, play_cons, play_cons, ih]
    simp only [List.append_assoc]

theorem opens_run (label : String) (s : Session σ) :
    (opens label).work s =
      (some ⟨s.slot.chainId s.issued, s.slot.depth + 1, label⟩, openedState label s) := by
  show (some (standard.opened label s).1, (standard.opened label s).2) = _
  rw [Recorder.standard_opened_run]

theorem closes_run (span : Span) (fault : Option Fault) (s : Session σ) :
    (closes span fault).work s = (none, closedState span fault s) := rfl

/-- **An act moves the depth of the slot as it moves the count.** -/
theorem depth_work (act : Act) (s : Session σ) :
    (act.work s).2.slot.depth = act.count s.slot.depth := by
  cases act with
  | opens label =>
    rw [opens_run, Recorder.slot_openedState]
    rfl
  | closes span fault =>
    rw [closes_run, Recorder.slot_closedState]
    exact Slot.depth_close s.slot

theorem seed_work (act : Act) (s : Session σ) : (act.work s).2.slot.seed = s.slot.seed := by
  cases act with
  | opens label =>
    rw [opens_run, Recorder.slot_openedState]
    rfl
  | closes span fault =>
    rw [closes_run, Recorder.slot_closedState, Slot.seed_closeLevel]

/-- **After any acts the slot is as deep as the count.** -/
theorem depth_play (acts : List Act) (s : Session σ) :
    (play acts s).2.slot.depth = depthFrom s.slot.depth acts := by
  induction acts generalizing s with
  | nil => rfl
  | cons act acts ih =>
    rw [play_cons, ih, depth_work]
    rfl

theorem seed_play (acts : List Act) (s : Session σ) :
    (play acts s).2.slot.seed = s.slot.seed := by
  induction acts generalizing s with
  | nil => rfl
  | cons act acts ih => rw [play_cons, ih, seed_work]

/-! ### A chain -/

/-- While a level stays open under it, closing one leaves a trace with the same
    id. -/
theorem closeLevel_of_deep {slot : Slot} {id : Id} {around : Nat}
    (h : slot.current = some ⟨id, around⟩) (hdeep : 0 < around) :
    slot.closeLevel.current = some ⟨id, around - 1⟩ := by
  have hfirst : around ≠ 0 := Nat.ne_of_gt hdeep
  unfold Slot.closeLevel
  rw [h]
  simp [Trace.isFirst, hfirst, Trace.shallower]

/-- **While the count does not come back to zero, the id stays**: the trace and
    every span that is opened have it, and none is issued. -/
theorem chain_play {acts : List Act} {s : Session σ} {id : Id} {around : Nat}
    (h : s.slot.current = some ⟨id, around⟩) (hopen : StaysOpen (around + 1) acts) :
    (∀ span ∈ (play acts s).1, span.trace = id) ∧
      (∃ around', (play acts s).2.slot.current = some ⟨id, around'⟩) ∧
      (play acts s).2.issued = s.issued := by
  induction acts generalizing s around with
  | nil => exact ⟨fun _ hspan => absurd hspan List.not_mem_nil, ⟨around, h⟩, rfl⟩
  | cons act acts ih =>
    have hchain : s.slot.chainId s.issued = id := by
      unfold Slot.chainId
      rw [h]
    have hdepth : s.slot.depth = around + 1 := by
      unfold Slot.depth
      rw [h]
      rfl
    rw [play_cons]
    cases act with
    | opens label =>
      have hslot : (openedState label s).slot.current = some ⟨id, around + 1⟩ := by
        rw [Recorder.slot_openedState, Slot.opened, hchain, hdepth]
      have hissued : (openedState label s).issued = s.issued := by
        show s.issued + s.slot.issues = s.issued
        unfold Slot.issues
        rw [h]
        rfl
      obtain ⟨hspans, htrace, hissued'⟩ := ih hslot hopen.tail
      rw [opens_run]
      refine ⟨?_, htrace, hissued'.trans hissued⟩
      intro span hspan
      rcases List.mem_cons.mp hspan with rfl | hlater
      · exact hchain
      · exact hspans span hlater
    | closes span fault =>
      -- one more level is open below, for else the count would be zero now
      have hdeep : 0 < around := hopen.tail.pos
      have hslot : (closedState span fault s).slot.current = some ⟨id, around - 1⟩ := by
        rw [Recorder.slot_closedState]
        exact closeLevel_of_deep h hdeep
      have hcount : around - 1 + 1 = around := by omega
      obtain ⟨hspans, htrace, hissued'⟩ := ih hslot (hcount.symm ▸ hopen.tail)
      exact ⟨hspans, htrace, hissued'.trans (Recorder.issued_closedState span fault s)⟩

/-! ### Fresh ids -/

/-- The seed names nothing. -/
def Unusable (seed : Option Id) : Prop := ∀ id, seed = some id → id.isEmpty = true

/-- Without a usable seed all ids of the slot are issued ones. -/
structure Issued (s : Session σ) : Prop where
  seed : Unusable s.slot.seed
  trace : ∀ trace, s.slot.current = some trace → ∃ n < s.issued, trace.id = .fresh n

/-- The id of the next chain, where no level is open. -/
theorem chainId_vacant {slot : Slot} (h : slot.current = none) (n : Nat) :
    (∃ id, slot.seed = some id ∧ id.isEmpty = false ∧ slot.chainId n = id ∧ slot.issues = 0) ∨
      (Unusable slot.seed ∧ slot.chainId n = .fresh n ∧ slot.issues = 1) := by
  obtain ⟨seed, current⟩ := slot
  obtain rfl : current = none := h
  cases seed with
  | none => exact .inr ⟨nofun, rfl, rfl⟩
  | some id =>
    by_cases hempty : id.isEmpty = true
    · right
      refine ⟨?_, ?_, ?_⟩
      · rintro _ ⟨rfl⟩
        exact hempty
      · simp [Slot.chainId, hempty]
      · simp [Slot.issues, hempty]
    · left
      refine ⟨id, rfl, by simpa using hempty, ?_, ?_⟩
      · simp [Slot.chainId, hempty]
      · simp [Slot.issues, hempty]

/-- An opening gives a span with an issued id. -/
theorem Issued.opens {s : Session σ} (h : Issued s) (label : String) :
    Issued (openedState label s) ∧
      ∃ n < (openedState label s).issued, s.slot.chainId s.issued = .fresh n := by
  have hid : ∃ n < (openedState label s).issued, s.slot.chainId s.issued = .fresh n := by
    show ∃ n < s.issued + s.slot.issues, s.slot.chainId s.issued = .fresh n
    cases hcurrent : s.slot.current with
    | some trace =>
      obtain ⟨n, hn, htrace⟩ := h.trace trace hcurrent
      have hchain : s.slot.chainId s.issued = trace.id := by
        unfold Slot.chainId
        rw [hcurrent]
      exact ⟨n, Nat.lt_add_right _ hn, hchain.trans htrace⟩
    | none =>
      rcases chainId_vacant hcurrent s.issued with ⟨id, hseed, hfull, _⟩ | ⟨_, hchain, hissues⟩
      · rw [h.seed id hseed] at hfull
        cases hfull
      · exact ⟨s.issued, by omega, hchain⟩
  refine ⟨⟨?_, ?_⟩, hid⟩
  · rw [Recorder.slot_openedState]
    exact h.seed
  · rw [Recorder.slot_openedState]
    rintro trace ⟨rfl⟩
    exact hid

theorem Issued.closes {s : Session σ} (h : Issued s) (span : Span) (fault : Option Fault) :
    Issued (closedState span fault s) := by
  refine ⟨?_, ?_⟩
  · rw [Recorder.slot_closedState, Slot.seed_closeLevel]
    exact h.seed
  · rw [Recorder.slot_closedState, Recorder.issued_closedState]
    intro trace htrace
    obtain ⟨before, hcurrent, hid⟩ := Slot.exists_of_closeLevel htrace
    rw [hid]
    exact h.trace before hcurrent

/-- Without a usable seed every span that is opened has an issued id. -/
theorem Issued.play {acts : List Act} {s : Session σ} (h : Issued s) :
    s.issued ≤ (play acts s).2.issued ∧
      ∀ span ∈ (play acts s).1, ∃ n < (play acts s).2.issued, span.trace = .fresh n := by
  induction acts generalizing s with
  | nil => exact ⟨Nat.le_refl _, fun _ hspan => absurd hspan List.not_mem_nil⟩
  | cons act acts ih =>
    rw [play_cons]
    cases act with
    | opens label =>
      obtain ⟨hopened, n, hn, hid⟩ := h.opens label
      obtain ⟨hle, hspans⟩ := ih hopened
      have hissued : s.issued ≤ (openedState label s).issued := Nat.le_add_right _ _
      rw [opens_run]
      refine ⟨Nat.le_trans hissued hle, ?_⟩
      intro span hspan
      rcases List.mem_cons.mp hspan with rfl | hlater
      · exact ⟨n, Nat.lt_of_lt_of_le hn hle, hid⟩
      · exact hspans span hlater
    | closes span fault =>
      obtain ⟨hle, hspans⟩ := ih (h.closes span fault)
      rw [Recorder.issued_closedState] at hle
      exact ⟨hle, hspans⟩

/-! ### Any acts in one slot -/

/-- The spans that the acts open in a slot with this seed. -/
def spans (seed : Option Id) (start : Session σ) (acts : List Act) : List Span :=
  (play acts (start.setSlot { seed })).1

/-- The state that they lead to. -/
def after (seed : Option Id) (start : Session σ) (acts : List Act) : Session σ :=
  (play acts (start.setSlot { seed })).2

/-- The id for a chain that starts after the acts: the seed, or one that no span
    has had before. -/
def IsChosen (seed : Option Id) (start : Session σ) (acts : List Act) (id : Id) : Prop :=
  (seed = some id ∧ id.isEmpty = false) ∨
    (Unusable seed ∧ id = .fresh (after seed start acts).issued ∧
      ∀ span ∈ spans seed start acts, span.trace ≠ id)

/-- What counting tells about a slot after the acts. -/
structure Counted (seed : Option Id) (start : Session σ) (acts : List Act) : Prop where
  /-- There is no trace iff no level is open. -/
  vacant : (after seed start acts).slot.current = none ↔ depthFrom 0 acts = 0
  /-- The level of the trace is the number of open levels. -/
  level : ∀ trace, (after seed start acts).slot.current = some trace →
    trace.level = depthFrom 0 acts ∧ 1 ≤ trace.level
  /-- So is that of the next span, which counts as open. -/
  opened : ∀ label, (standard.opened label (after seed start acts)).1.level =
    depthFrom 0 (acts ++ [opens label])
  /-- Closing where nothing is open leaves the slot alone. -/
  idle : depthFrom 0 acts = 0 → ∀ span fault,
    (standard.closed span fault (after seed start acts)).2.slot = (after seed start acts).slot
  /-- The first opening chooses an id, which the trace and all spans have until
      nothing is open again, and in the meantime none is issued. -/
  chain : depthFrom 0 acts = 0 → ∀ label during, StaysOpen 1 during →
    ∃ id, IsChosen seed start acts id ∧
      (∀ span ∈ (play (opens label :: during) (after seed start acts)).1, span.trace = id) ∧
      (∃ around, (after seed start (acts ++ opens label :: during)).slot.current =
        some ⟨id, around⟩) ∧
      (after seed start (acts ++ opens label :: during)).issued =
        (standard.opened label (after seed start acts)).2.issued
  /-- A trace was started when the number of open levels last left zero. -/
  origin : ∀ trace, (after seed start acts).slot.current = some trace →
    ∃ before label during, acts = before ++ opens label :: during ∧
      depthFrom 0 before = 0 ∧ StaysOpen 1 during ∧ IsChosen seed start before trace.id

section

variable (seed : Option Id) (start : Session σ) (acts : List Act)

theorem depth_after : (after seed start acts).slot.depth = depthFrom 0 acts := by
  unfold after
  rw [depth_play, Session.slot_setSlot]
  rfl

theorem seed_after : (after seed start acts).slot.seed = seed := by
  unfold after
  rw [seed_play, Session.slot_setSlot]

theorem current_after_eq_none :
    (after seed start acts).slot.current = none ↔ depthFrom 0 acts = 0 := by
  rw [← depth_after seed start]
  unfold Slot.depth
  cases (after seed start acts).slot.current with
  | none => simp
  | some trace => simp [Trace.level]

/-- The id of the next chain is chosen as it should be. -/
theorem isChosen_chainId (h : depthFrom 0 acts = 0) :
    IsChosen seed start acts
      ((after seed start acts).slot.chainId (after seed start acts).issued) := by
  have hvacant := (current_after_eq_none seed start acts).mpr h
  rcases chainId_vacant hvacant (after seed start acts).issued with
    ⟨id, hseed, hfull, hchain, _⟩ | ⟨hunusable, hchain, _⟩
  · rw [seed_after] at hseed
    rw [hchain]
    exact .inl ⟨hseed, hfull⟩
  · rw [seed_after] at hunusable
    rw [hchain]
    refine .inr ⟨hunusable, rfl, ?_⟩
    -- all ids so far were issued, so they are older than the next one
    have hissued : Issued (start.setSlot { seed }) := by
      refine ⟨?_, ?_⟩
      · rw [Session.slot_setSlot]
        exact hunusable
      · rw [Session.slot_setSlot]
        intro trace htrace
        cases htrace
    intro span hspan heq
    obtain ⟨n, hn, hid⟩ := hissued.play.2 span hspan
    rw [hid] at heq
    have hlast : n = (after seed start acts).issued := Id.fresh.inj heq
    have hless : n < (after seed start acts).issued := hn
    omega

/-- A chain from its first opening on. -/
theorem chain_after (h : depthFrom 0 acts = 0) (label : String) {during : List Act}
    (hopen : StaysOpen 1 during) :
    ∃ id, IsChosen seed start acts id ∧
      (∀ span ∈ (play (opens label :: during) (after seed start acts)).1, span.trace = id) ∧
      (∃ around, (after seed start (acts ++ opens label :: during)).slot.current =
        some ⟨id, around⟩) ∧
      (after seed start (acts ++ opens label :: during)).issued =
        (standard.opened label (after seed start acts)).2.issued := by
  have hdepth : (after seed start acts).slot.depth = 0 := (depth_after seed start acts).trans h
  have hmore : after seed start (acts ++ opens label :: during) =
      (play during (openedState label (after seed start acts))).2 := by
    unfold after
    rw [play_append, play_cons, opens_run]
  have hslot : (openedState label (after seed start acts)).slot.current =
      some ⟨(after seed start acts).slot.chainId (after seed start acts).issued, 0⟩ := by
    rw [Recorder.slot_openedState, Slot.opened, hdepth]
  obtain ⟨hspans, htrace, hissued⟩ := chain_play hslot hopen
  refine ⟨_, isChosen_chainId seed start acts h, ?_, ?_, ?_⟩
  · intro span hspan
    rw [play_cons, opens_run] at hspan
    rcases List.mem_cons.mp hspan with rfl | hlater
    · rfl
    · exact hspans span hlater
  · rw [hmore]
    exact htrace
  · rw [hmore, hissued, Recorder.standard_opened_run]

/-- **A slot counts the open levels, whatever is closed.** -/
theorem slot_counts_levels : Counted seed start acts where
  vacant := current_after_eq_none seed start acts
  level := by
    intro trace htrace
    have hdepth := depth_after seed start acts
    unfold Slot.depth at hdepth
    rw [htrace] at hdepth
    exact ⟨hdepth, Nat.succ_le_succ (Nat.zero_le _)⟩
  opened := by
    intro label
    rw [Recorder.standard_opened_run, depthFrom_concat, ← depth_after seed start]
    rfl
  idle := by
    intro h span fault
    have hvacant := (current_after_eq_none seed start acts).mpr h
    rw [Recorder.standard_closed_run, Recorder.slot_closedState]
    exact Slot.closeLevel_vacant hvacant
  chain := fun h label _ hopen => chain_after seed start acts h label hopen
  origin := by
    intro trace htrace
    have hdepth : depthFrom 0 acts ≠ 0 := by
      intro hzero
      rw [(current_after_eq_none seed start acts).mpr hzero] at htrace
      cases htrace
    obtain ⟨before, label, during, hacts, hzero, hopen⟩ := exists_start hdepth
    obtain ⟨id, hchosen, _, ⟨around, hcurrent⟩, _⟩ :=
      chain_after seed start before hzero label hopen
    rw [← hacts, htrace] at hcurrent
    cases hcurrent
    exact ⟨before, label, during, hacts, hzero, hopen, hchosen⟩

end

/-- The outer span is closed first and the inner one twice: the trace is gone
    after two closings, and the third does nothing. -/
example (fault : Option Fault) :
    let outer : Span := ⟨.fresh 0, 1, "outer"⟩
    let inner : Span := ⟨.fresh 0, 2, "inner"⟩
    let acts := [opens "outer", opens "inner", closes outer none, closes inner fault]
    (after none { data := () } (acts.take 3)).slot.current = some ⟨.fresh 0, 0⟩ ∧
      (after none { data := () } acts).slot.current = none ∧
      (after none { data := () } (acts ++ [closes inner fault])).slot.current = none :=
  ⟨rfl, rfl, rfl⟩

end Act
end HolidayApi.Call
