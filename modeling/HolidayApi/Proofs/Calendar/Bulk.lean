import HolidayApi.Calendar.Service
import HolidayApi.Proofs.Calendar.Indexing
import HolidayApi.Proofs.Call.Frame
import Mathlib.Data.List.Induction

/-! # All drafts or none

    Drafts that are stored together are inserted one after another. The first
    of them that collides, with a stored holiday or with a draft before it,
    ends the attempt, and what was inserted is removed again.

    * `Clear` says of a list of drafts that none of them collides.
    * `insertAll_clear`: then all are stored, under the next ids in order.
    * `insertAll_collision`: otherwise rows and index are as before, and the
      ids that were used are lost.

    That the removal restores the index needs no look at the index: an index
    is decided by its rows (`index_eq_of_rows_eq`).
-/

namespace HolidayApi.Calendar

open Std (ExtTreeMap)

namespace Store

variable {s t : Store} {draft key : Draft} {drafts front rest : List Draft} {id : Nat} {h : Holiday}

/-! ### Drafts that can be stored together -/

/-- No draft has a key that is taken, and no two have the same. -/
def Clear (s : Store) (drafts : List Draft) : Prop :=
  drafts.Nodup ∧ ∀ draft ∈ drafts, ¬ s.Taken draft

/-- The holidays that the drafts become under the next ids. -/
def numbered (s : Store) (drafts : List Draft) : List Holiday :=
  (drafts.zipIdx (s.issued + 1)).map fun (draft, id) => draft.under id

/-- The store with the drafts as further rows. -/
def addedAll (s : Store) (drafts : List Draft) : Store := drafts.foldl added s

theorem taken_added (hs : s.Indexed) : (s.added draft).Taken key ↔ s.Taken key ∨ draft = key := by
  constructor
  · rintro ⟨id, h, hr, hk⟩
    simp only [added, lookup_insert] at hr
    split at hr
    · cases hr
      exact Or.inr hk
    · exact Or.inl ⟨id, h, hr, hk⟩
  · rintro (⟨id, h, hr, hk⟩ | rfl)
    · refine ⟨id, h, ?_, hk⟩
      have hne : s.issued + 1 ≠ id := fun hid => by
        rw [← hid, hs.rows_next] at hr
        cases hr
      simp only [added, lookup_insert, if_neg hne, hr]
    · refine ⟨s.issued + 1, draft.under (s.issued + 1), ?_, rfl⟩
      simp only [added, lookup_insert, if_pos]

theorem clear_cons (hs : s.Indexed) :
    s.Clear (draft :: rest) ↔ ¬ s.Taken draft ∧ (s.added draft).Clear rest := by
  unfold Clear
  simp only [List.nodup_cons, List.mem_cons, forall_eq_or_imp, taken_added hs, not_or]
  constructor
  · rintro ⟨⟨hmem, hnodup⟩, hfree, hrest⟩
    exact ⟨hfree, hnodup, fun d hd => ⟨hrest d hd, fun heq => hmem (heq ▸ hd)⟩⟩
  · rintro ⟨hfree, hnodup, hrest⟩
    exact ⟨⟨fun hmem => (hrest draft hmem).2 rfl, hnodup⟩, hfree, fun d hd => (hrest d hd).1⟩

theorem clear_concat : s.Clear (front ++ [draft]) ↔
    s.Clear front ∧ ¬ s.Taken draft ∧ draft ∉ front := by
  unfold Clear
  simp only [List.nodup_append, List.nodup_singleton, List.mem_append, List.mem_singleton, or_imp,
    forall_and, forall_eq]
  constructor
  · rintro ⟨⟨hnodup, -, hne⟩, hfront, hfree⟩
    exact ⟨⟨hnodup, hfront⟩, hfree, fun hmem => hne draft hmem rfl⟩
  · rintro ⟨⟨hnodup, hfront⟩, hfree, hmem⟩
    exact ⟨⟨hnodup, trivial, fun d hd heq => hmem (heq ▸ hd)⟩, hfront, hfree⟩

/-- Drafts that are not clear have a first one that collides. -/
theorem exists_collision (hc : ¬ s.Clear drafts) :
    ∃ front draft rest, drafts = front ++ draft :: rest ∧ s.Clear front ∧
      (s.Taken draft ∨ draft ∈ front) := by
  induction drafts using List.reverseRecOn with
  | nil => exact absurd ⟨List.nodup_nil, fun _ hd => absurd hd List.not_mem_nil⟩ hc
  | append_singleton front draft ih =>
    by_cases hfront : s.Clear front
    · -- all before the last is clear, so it is the last that collides
      refine ⟨front, draft, [], rfl, hfront, ?_⟩
      by_contra hneither
      rw [not_or] at hneither
      exact hc (clear_concat.mpr ⟨hfront, hneither⟩)
    · obtain ⟨front', draft', rest, rfl, hclear, hcollides⟩ := ih hfront
      exact ⟨front', draft', rest ++ [draft], by simp, hclear, hcollides⟩

/-! ### The store with all drafts -/

theorem Indexed.addedAll (hs : s.Indexed) (hc : s.Clear drafts) : (s.addedAll drafts).Indexed := by
  induction drafts generalizing s with
  | nil => exact hs
  | cons draft rest ih =>
    obtain ⟨hfree, hrest⟩ := (clear_cons hs).mp hc
    exact ih (hs.added hfree) hrest

theorem issued_addedAll (s : Store) (drafts : List Draft) :
    (s.addedAll drafts).issued = s.issued + drafts.length := by
  induction drafts generalizing s with
  | nil => rfl
  | cons draft rest ih =>
    show ((s.added draft).addedAll rest).issued = s.issued + (rest.length + 1)
    rw [ih (s.added draft)]
    show s.issued + 1 + rest.length = s.issued + (rest.length + 1)
    omega

theorem numbered_cons : s.numbered (draft :: rest) =
    draft.under (s.issued + 1) :: (s.added draft).numbered rest := rfl

theorem mem_numbered (hh : h ∈ s.numbered drafts) :
    s.issued < h.id ∧ h.id ≤ s.issued + drafts.length := by
  induction drafts generalizing s with
  | nil => cases hh
  | cons draft rest ih =>
    rw [numbered_cons, List.mem_cons] at hh
    rw [List.length_cons]
    rcases hh with rfl | hh
    · rw [Draft.id_under]
      omega
    · have hrest : s.issued + 1 < h.id ∧ h.id ≤ s.issued + 1 + rest.length := ih hh
      omega

/-- The ids of the new holidays are not in use. -/
theorem rows_numbered (hs : s.Indexed) (hh : h ∈ s.numbered drafts) : s.rows[h.id]? = none :=
  hs.rows_eq_none (mem_numbered hh).1

/-- The rows are the old ones and the new ones. -/
theorem rows_addedAll (hs : s.Indexed) (hc : s.Clear drafts) (id : Nat) (h : Holiday) :
    (s.addedAll drafts).rows[id]? = some h ↔
      s.rows[id]? = some h ∨ h ∈ s.numbered drafts ∧ h.id = id := by
  induction drafts generalizing s with
  | nil => simp [Store.addedAll, numbered]
  | cons draft rest ih =>
    obtain ⟨hfree, hrest⟩ := (clear_cons hs).mp hc
    rw [numbered_cons, List.mem_cons]
    refine (ih (hs.added hfree) hrest).trans ?_
    simp only [added, lookup_insert]
    by_cases hid : s.issued + 1 = id
    · -- the row of the first draft, which is no old one
      subst hid
      rw [if_pos rfl, hs.rows_next]
      constructor
      · rintro (heq | ⟨hmem, hid⟩)
        · exact Or.inr ⟨Or.inl (Option.some.inj heq).symm, by rw [← Option.some.inj heq]; rfl⟩
        · exact Or.inr ⟨Or.inr hmem, hid⟩
      · rintro (hnone | ⟨rfl | hmem, hid⟩)
        · cases hnone
        · exact Or.inl rfl
        · exact Or.inr ⟨hmem, hid⟩
    · rw [if_neg hid]
      constructor
      · rintro (hr | ⟨hmem, hh⟩)
        · exact Or.inl hr
        · exact Or.inr ⟨Or.inr hmem, hh⟩
      · rintro (hr | ⟨rfl | hmem, hh⟩)
        · exact Or.inl hr
        · exact absurd hh hid
        · exact Or.inr ⟨hmem, hh⟩

theorem taken_addedAll (hs : s.Indexed) (hc : s.Clear drafts) :
    (s.addedAll drafts).Taken key ↔ s.Taken key ∨ key ∈ drafts := by
  induction drafts generalizing s with
  | nil => simp [Store.addedAll]
  | cons draft rest ih =>
    obtain ⟨hfree, hrest⟩ := (clear_cons hs).mp hc
    refine (ih (hs.added hfree) hrest).trans ?_
    rw [taken_added hs, List.mem_cons, or_assoc, eq_comm (a := draft)]

/-! ### The first loop stores, the second removes -/

theorem insertFrom_clear (hs : s.Indexed) (hc : s.Clear drafts) (stored : List Holiday) :
    s.insertFrom stored drafts = (.ok (stored.reverse ++ s.numbered drafts), s.addedAll drafts) := by
  induction drafts generalizing s stored with
  | nil => simp [insertFrom, numbered, Store.addedAll]
  | cons draft rest ih =>
    obtain ⟨hfree, hrest⟩ := (clear_cons hs).mp hc
    simp only [insertFrom, insert_free hs hfree]
    rw [ih (hs.added hfree) hrest, List.reverse_cons, List.append_assoc, numbered_cons]
    rfl

/-- At a collision the drafts before it have been stored, and their holidays
    are removed together with those that were stored before them. -/
theorem insertFrom_collision (hs : s.Indexed) (hc : s.Clear front)
    (ht : s.Taken draft ∨ draft ∈ front) (stored : List Holiday) :
    s.insertFrom stored (front ++ draft :: rest) =
      (.error (.duplicate draft),
        (s.addedAll front).deleteAll ((s.numbered front).reverse ++ stored)) := by
  rw [← taken_addedAll hs hc] at ht
  induction front generalizing s stored with
  | nil =>
    simp only [List.nil_append, insertFrom]
    rw [insert_taken hs ht]
    rfl
  | cons first front ih =>
    -- the holiday of `first` joins those that a collision removes
    obtain ⟨hfree, hrest⟩ := (clear_cons hs).mp hc
    simp only [List.cons_append, insertFrom, insert_free hs hfree]
    rw [ih (hs.added hfree) hrest ht, numbered_cons, List.reverse_cons, List.append_assoc]
    rfl

theorem rows_delete (s : Store) (id : Nat) : (s.delete id).2.rows = s.rows.erase id := by
  cases hr : s.rows[id]? with
  | some old => simp only [delete, hr]
  | none =>
    rw [delete_missing hr]
    apply ExtTreeMap.ext_getElem?
    intro j
    rw [lookup_erase]
    split
    · next hid => rw [← hid, hr]
    · rfl

theorem issued_delete (s : Store) (id : Nat) : (s.delete id).2.issued = s.issued := by
  unfold delete
  cases s.rows[id]? <;> rfl

theorem Indexed.delete (hs : s.Indexed) (id : Nat) : (s.delete id).2.Indexed := by
  cases hr : s.rows[id]? with
  | none => rw [delete_missing hr]; exact hs
  | some old => rw [delete_stored hs hr]; exact hs.removed hr

/-- Exactly the holidays of the list are gone. -/
theorem rows_deleteAll (s : Store) (holidays : List Holiday) (id : Nat) :
    (s.deleteAll holidays).rows[id]? =
      if id ∈ holidays.map Holiday.id then none else s.rows[id]? := by
  induction holidays with
  | nil => rfl
  | cons h rest ih =>
    have hrows : (s.deleteAll (h :: rest)).rows = (s.deleteAll rest).rows.erase h.id :=
      rows_delete _ _
    rw [hrows, lookup_erase, ih]
    simp only [List.map_cons, List.mem_cons]
    by_cases hid : h.id = id
    · simp [hid]
    · simp only [hid, Ne.symm hid, if_false, false_or]

theorem issued_deleteAll (s : Store) (holidays : List Holiday) :
    (s.deleteAll holidays).issued = s.issued := by
  induction holidays with
  | nil => rfl
  | cons h rest ih => exact (issued_delete _ _).trans ih

theorem Indexed.deleteAll (hs : s.Indexed) (holidays : List Holiday) :
    (s.deleteAll holidays).Indexed := by
  induction holidays with
  | nil => exact hs
  | cons h rest ih => exact ih.delete h.id

theorem eq_of_parts (hrows : s.rows = t.rows) (hindex : s.index = t.index)
    (hissued : s.issued = t.issued) : s = t := by
  cases s; cases t; simp_all

/-- What was added is removed without a trace in rows and index. -/
theorem deleteAll_addedAll (hs : s.Indexed) (hc : s.Clear drafts) :
    (s.addedAll drafts).deleteAll (s.numbered drafts).reverse =
      { s with issued := s.issued + drafts.length } := by
  have hindexed := (hs.addedAll hc).deleteAll (s.numbered drafts).reverse
  have hrows : ((s.addedAll drafts).deleteAll (s.numbered drafts).reverse).rows = s.rows := by
    apply ExtTreeMap.ext_getElem?
    intro id
    rw [rows_deleteAll]
    split
    · next hmem =>
      -- a removed row is a new one, and its id was not in use before
      obtain ⟨h, hh, rfl⟩ := List.mem_map.mp hmem
      exact (rows_numbered hs (List.mem_reverse.mp hh)).symm
    · next hmem =>
      -- all new rows are removed, so the others are the old ones
      apply Option.ext
      intro h
      rw [rows_addedAll hs hc]
      constructor
      · rintro (hr | ⟨hh, rfl⟩)
        · exact hr
        · exact absurd (List.mem_map_of_mem (List.mem_reverse.mpr hh)) hmem
      · exact Or.inl
  -- both stores are indexed, so the rows decide their indexes
  have hindex := hindexed.index_eq_of_rows_eq hs hrows
  have hissued : ((s.addedAll drafts).deleteAll (s.numbered drafts).reverse).issued
      = s.issued + drafts.length := by
    rw [issued_deleteAll, issued_addedAll]
  exact eq_of_parts hrows hindex hissued

theorem insertAll_clear (hs : s.Indexed) (hc : s.Clear drafts) :
    s.insertAll drafts = (.ok (s.numbered drafts), s.addedAll drafts) := by
  rw [insertAll, insertFrom_clear hs hc]
  rfl

theorem insertAll_collision (hs : s.Indexed) (hc : s.Clear front)
    (ht : s.Taken draft ∨ draft ∈ front) :
    s.insertAll (front ++ draft :: rest) =
      (.error (.duplicate draft), { s with issued := s.issued + front.length }) := by
  rw [insertAll, insertFrom_collision hs hc ht, List.append_nil, deleteAll_addedAll hs hc]

/-! ### Through the service -/

/-- What became of an attempt to store drafts together: all of them were
    stored or none was. -/
structure AllOrNone (before : Store) (drafts : List Draft) (outcome : Outcome (List Holiday))
    (final : Store) : Prop where
  /-- The attempt succeeds iff no draft collides. -/
  ok_iff : (∃ holidays, outcome = .ok holidays) ↔
    drafts.Nodup ∧ ∀ draft ∈ drafts, ¬ before.Taken draft
  /-- A success adds the drafts, in order and under the next ids, and nothing else. -/
  all : ∀ holidays, outcome = .ok holidays →
    holidays = before.numbered drafts ∧ final.issued = before.issued + drafts.length ∧
    (∀ id h, final.rows[id]? = some h ↔ before.rows[id]? = some h ∨ h ∈ holidays ∧ h.id = id) ∧
    (∀ key id, final.index[key]? = some id ↔
      before.index[key]? = some id ∨ ∃ h ∈ holidays, h.key = key ∧ h.id = id)
  /-- A failure names the first draft that collides and changes neither rows
      nor index, so that every question is answered as before. -/
  none : ∀ fault, outcome = .error fault →
    ∃ front draft rest, drafts = front ++ draft :: rest ∧ before.Clear front ∧
      (before.Taken draft ∨ draft ∈ front) ∧
      fault = .known .holidayAlreadyExists
        ("Holiday already exists: " ++ draft.date.text ++ " " ++ draft.name) ∧
      final.rows = before.rows ∧ final.index = before.index ∧
      final.issued = before.issued + front.length ∧
      ∀ action : Action, action.isQuestion → (final.perform action).1 = (before.perform action).1

/-- The index of the store with all drafts, said of its entries. -/
theorem index_addedAll (hs : s.Indexed) (hc : s.Clear drafts) (key : Draft) (id : Nat) :
    (s.addedAll drafts).index[key]? = some id ↔
      s.index[key]? = some id ∨ ∃ h ∈ s.numbered drafts, h.key = key ∧ h.id = id := by
  rw [(hs.addedAll hc).index_iff, hs.index_iff]
  simp only [rows_addedAll hs hc]
  constructor
  · rintro ⟨h, hr | ⟨hh, hid⟩, hk⟩
    · exact Or.inl ⟨h, hr, hk⟩
    · exact Or.inr ⟨h, hh, hk, hid⟩
  · rintro (⟨h, hr, hk⟩ | ⟨h, hh, hk, hid⟩)
    · exact ⟨h, Or.inl hr, hk⟩
    · exact ⟨h, Or.inr ⟨hh, hid⟩, hk⟩

/-- Questions are answered from rows and index alone. -/
theorem perform_question (hrows : s.rows = t.rows) (hindex : s.index = t.index) {action : Action}
    (hq : action.isQuestion = true) : (s.perform action).1 = (t.perform action).1 := by
  cases action with
  | insert _ | update _ _ | delete _ => cases hq
  | find id => simp only [perform, find?, hrows]
  | holds key => simp only [perform, holds, hindex]
  | select chosen => simp only [perform, select, hrows]
  | size => simp only [perform, size, hrows]
  | isEmpty => simp only [perform, isEmpty, hrows]

theorem allOrNone_insertAll (hs : s.Indexed) (drafts : List Draft) :
    AllOrNone s drafts ((s.insertAll drafts).1.mapError Service.faultOf)
      (s.insertAll drafts).2 := by
  by_cases hc : s.Clear drafts
  · rw [insertAll_clear hs hc]
    constructor
    · exact ⟨fun _ => hc, fun _ => ⟨s.numbered drafts, rfl⟩⟩
    · intro holidays hok
      cases hok
      exact ⟨rfl, issued_addedAll s drafts, rows_addedAll hs hc, index_addedAll hs hc⟩
    · intro fault herror
      cases herror
  · obtain ⟨front, draft, rest, rfl, hfront, hcollides⟩ := exists_collision hc
    rw [insertAll_collision hs hfront hcollides]
    constructor
    · constructor
      · intro ⟨holidays, hok⟩
        cases hok
      · intro h
        exact absurd h hc
    · intro holidays hok
      cases hok
    · intro fault herror
      cases herror
      refine ⟨front, draft, rest, rfl, hfront, hcollides, rfl, rfl, rfl, rfl, ?_⟩
      intro action hquestion
      refine perform_question ?_ ?_ hquestion
      · rfl
      · rfl

end Store

namespace Service

open HolidayApi.Call (Declarations Recorder Registry Session Work)

variable {α : Type}

/-- A step of the store in a session: its refusals become faults. -/
theorem step_eq (change : Store → Except Refusal α × Store) (s : Session Store) :
    step change s = ((change s.data).1.mapError faultOf, { s with data := (change s.data).2 }) := by
  unfold step
  rw [Work.bind_run, Work.onData_run]
  cases (change s.data).1 <;> rfl

/-- Behind guards that let it through, `createAll` is `insertAll`. -/
theorem createAll_admitted {registry : Registry Store} (hr : registry.recorder.KeepsData)
    (hadmitted : Registry.Admits (registry.advices "HolidayService.create_all")
      Access.Caller.unknown) (drafts : List Draft) (s : Session Store) :
    (createAll registry drafts s).1 = (s.data.insertAll drafts).1.mapError faultOf ∧
    (createAll registry drafts s).2.data = (s.data.insertAll drafts).2 :=
  Registry.surround_changes hr "HolidayService.create_all" hadmitted
    (fun s => ((s.insertAll drafts).1.mapError faultOf, (s.insertAll drafts).2))
    (step_eq fun s => s.insertAll drafts) s

/-- **Drafts are stored all or none**, in every store that calls lead to, if
    the guards of the operation let calls without a caller through. -/
theorem createAll_allOrNone (declarations : Declarations) (actions : List Action)
    (s : Session Store) (drafts : List Draft)
    (hadmitted : ∀ guard ∈ (declarations.registry (Recorder.standard : Recorder Store)).guards
      "HolidayService.create_all", guard.allowed.admits Access.Caller.unknown = true) :
    Store.AllOrNone (Store.after actions) drafts
      (createAll (declarations.registry .standard) drafts
        { s with data := Store.after actions }).1
      (createAll (declarations.registry .standard) drafts
        { s with data := Store.after actions }).2.data := by
  obtain ⟨houtcome, hfinal⟩ := createAll_admitted Recorder.keepsData_standard hadmitted drafts
    { s with data := Store.after actions }
  rw [houtcome, hfinal]
  exact Store.allOrNone_insertAll (Store.indexed_after actions) drafts

/-- The first day of 2025. -/
def newYear : Draft := ⟨⟨2025, 1, 1, by decide, by decide, by decide⟩, "New Year"⟩

/-- The second of two drafts is stored already, behind a guard for everybody
    and in a span. -/
theorem createAll_newYear_twice :
    (∀ guard ∈ (Declarations.registry ⟨.standard, [("HolidayService.create_all", [⟨⟨[.any]⟩⟩])]⟩
      (Recorder.standard : Recorder Store)).guards "HolidayService.create_all",
      guard.allowed.admits Access.Caller.unknown = true) ∧
    Store.AllOrNone (Store.after [.insert newYear]) [{ newYear with name := "Day off" }, newYear]
      (createAll (Declarations.registry
        ⟨.standard, [("HolidayService.create_all", [⟨⟨[.any]⟩⟩])]⟩ .standard)
        [{ newYear with name := "Day off" }, newYear]
        { data := Store.after [.insert newYear] }).1
      (createAll (Declarations.registry
        ⟨.standard, [("HolidayService.create_all", [⟨⟨[.any]⟩⟩])]⟩ .standard)
        [{ newYear with name := "Day off" }, newYear]
        { data := Store.after [.insert newYear] }).2.data :=
  ⟨by decide, createAll_allOrNone ⟨.standard, [("HolidayService.create_all", [⟨⟨[.any]⟩⟩])]⟩
    [.insert newYear] { data := {} } [{ newYear with name := "Day off" }, newYear] (by decide)⟩

end Service
end HolidayApi.Calendar
