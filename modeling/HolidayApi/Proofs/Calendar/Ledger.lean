import HolidayApi.Proofs.Calendar.Listing

/-! # A store without an index

    A ledger keeps the day and name under each id and the last id that was
    issued, nothing else, and decides everything by a look at all rows. It
    says in plain words what the calls of a store mean:

    * a day and name is refused iff some row (for `update`, another row) has it;
    * ids are issued in order;
    * a change touches the row that it addresses and no other.

    `answers_eq_ledger` says that a store answers every run of calls as the
    ledger does. The step behind it is `perform_ledger`, for one call of an
    indexed store.
-/

namespace HolidayApi.Calendar

open Std (ExtTreeMap)

/-- Holidays by id, without an index. -/
structure Ledger where
  /-- The day and name under each id. -/
  rows : ExtTreeMap Nat Draft := {}
  /-- The last id that was issued. -/
  issued : Nat := 0

namespace Ledger

/-! ### Looks at all rows -/

/-- Whether some row has this day and name. -/
def holds (l : Ledger) (key : Draft) : Bool := l.rows.toList.any fun row => row.2 = key

/-- Whether another row than that of `id` has this day and name. -/
def holdsElsewhere (l : Ledger) (id : Nat) (key : Draft) : Bool :=
  l.rows.toList.any fun row => row.1 ≠ id && row.2 = key

/-- Whether some row has this id. -/
def has (l : Ledger) (id : Nat) : Bool := l.rows.toList.any fun row => row.1 = id

/-! ### Calls -/

/-- Adds a row under the next id, unless some row has the day and name. -/
def insert (l : Ledger) (draft : Draft) : Except Refusal Holiday × Ledger :=
  if l.holds draft then (.error (.duplicate draft), l)
  else
    (.ok (draft.under (l.issued + 1)),
      { rows := l.rows.insert (l.issued + 1) draft, issued := l.issued + 1 })

/-- Overwrites a row, unless another row has the day and name. -/
def update (l : Ledger) (id : Nat) (draft : Draft) : Except Refusal Holiday × Ledger :=
  if l.holdsElsewhere id draft then (.error (.duplicate draft), l)
  else if l.has id then (.ok (draft.under id), { l with rows := l.rows.insert id draft })
  else (.error (.notFound id), l)

/-- Removes a row and says whether there was one. -/
def delete (l : Ledger) (id : Nat) : Bool × Ledger :=
  if l.has id then (true, { l with rows := l.rows.erase id }) else (false, l)

/-- The holiday with this id. -/
def find? (l : Ledger) (id : Nat) : Option Holiday :=
  (l.rows.toList.find? fun row => row.1 = id).map fun row => row.2.under row.1

/-- The holidays with some property, by day and id. -/
def select (l : Ledger) (chosen : Holiday → Bool) : List Holiday :=
  ((l.rows.toList.map fun row => row.2.under row.1).filter chosen).insertionSort Store.Precedes

/-- What the ledger answers to a call, and the ledger after it. -/
def perform (l : Ledger) : Action → Answer × Ledger
  | .insert draft => (l.insert draft).map .stored fun l => l
  | .update id draft => (l.update id draft).map .stored fun l => l
  | .delete id => (l.delete id).map .removed fun l => l
  | .find id => (.found (l.find? id), l)
  | .holds key => (.truth (l.holds key), l)
  | .select chosen => (.listed (l.select chosen), l)
  | .size => (.number l.rows.toList.length, l)
  | .isEmpty => (.truth l.rows.toList.isEmpty, l)

end Ledger

namespace Store

variable {s : Store} {draft key : Draft} {id : Nat} {old h : Holiday}

/-- The store without its index. -/
def ledger (s : Store) : Ledger := ⟨s.rows.map fun _ h => h.key, s.issued⟩

/-! ### What the looks find -/

theorem mem_ledger {row : Nat × Draft} :
    row ∈ s.ledger.rows.toList ↔ ∃ h, s.rows[row.1]? = some h ∧ h.key = row.2 := by
  rw [ExtTreeMap.mem_toList_iff_getElem?_eq_some, ledger, ExtTreeMap.getElem?_map,
    Option.map_eq_some_iff]

theorem holds_ledger : s.ledger.holds key = true ↔ s.Taken key := by
  simp only [Ledger.holds, List.any_eq_true, decide_eq_true_eq, Prod.exists, mem_ledger]
  constructor
  · rintro ⟨id, _, ⟨h, hr, hk⟩, rfl⟩
    exact ⟨id, h, hr, hk⟩
  · rintro ⟨id, h, hr, hk⟩
    exact ⟨id, key, ⟨h, hr, hk⟩, rfl⟩

theorem holdsElsewhere_ledger : s.ledger.holdsElsewhere id key = true ↔
    ∃ j h, s.rows[j]? = some h ∧ h.key = key ∧ j ≠ id := by
  simp only [Ledger.holdsElsewhere, List.any_eq_true, Bool.and_eq_true, decide_eq_true_eq,
    Prod.exists, mem_ledger]
  constructor
  · rintro ⟨j, _, ⟨h, hr, hk⟩, hne, rfl⟩
    exact ⟨j, h, hr, hk, hne⟩
  · rintro ⟨j, h, hr, hk, hne⟩
    exact ⟨j, key, ⟨h, hr, hk⟩, hne, rfl⟩

theorem has_ledger : s.ledger.has id = true ↔ ∃ h, s.rows[id]? = some h := by
  simp only [Ledger.has, List.any_eq_true, decide_eq_true_eq, Prod.exists, mem_ledger]
  constructor
  · rintro ⟨_, _, ⟨h, hr, _⟩, rfl⟩
    exact ⟨h, hr⟩
  · rintro ⟨h, hr⟩
    exact ⟨id, h.key, ⟨h, hr, rfl⟩, rfl⟩

theorem has_ledger_of_none (hr : s.rows[id]? = none) : ¬ s.ledger.has id = true := by
  intro hhas
  obtain ⟨h, hh⟩ := has_ledger.mp hhas
  rw [hr] at hh
  cases hh

/-- A key that neither another row nor this one has is free. -/
theorem free_of_not_elsewhere (helse : ¬ ∃ j h, s.rows[j]? = some h ∧ h.key = key ∧ j ≠ id)
    (hhere : ∀ h, s.rows[id]? = some h → h.key ≠ key) : ¬ s.Taken key := by
  intro ⟨j, h, hj, hk⟩
  by_cases hid : j = id
  · rw [hid] at hj
    exact hhere h hj hk
  · exact helse ⟨j, h, hj, hk, hid⟩

theorem find?_ledger (hs : s.Indexed) : s.ledger.find? id = s.rows[id]? := by
  unfold Ledger.find?
  cases hfind : s.ledger.rows.toList.find? fun row => row.1 = id with
  | none =>
    cases hr : s.rows[id]? with
    | none => rfl
    | some h =>
      -- the row would have been found
      rw [List.find?_eq_none] at hfind
      exact absurd (decide_eq_true rfl) (hfind (id, h.key) (mem_ledger.mpr ⟨h, hr, rfl⟩))
  | some row =>
    have hid : row.1 = id := by simpa using List.find?_some hfind
    obtain ⟨h, hr, hk⟩ := mem_ledger.mp (List.mem_of_find?_eq_some hfind)
    rw [Option.map_some, ← hk, ← hs.row_eq hr, ← hid, hr]

/-- The rows of the ledger are those of the store. -/
theorem holidays_ledger (hs : s.Indexed) :
    (s.ledger.rows.toList.map fun row => row.2.under row.1) = s.holidays := by
  rw [ledger, ExtTreeMap.toList_map, List.map_map, holidays]
  apply List.map_congr_left
  rintro ⟨id, h⟩ hrow
  exact (hs.row_eq (ExtTreeMap.mem_toList_iff_getElem?_eq_some.mp hrow)).symm

theorem select_ledger (hs : s.Indexed) (chosen : Holiday → Bool) :
    s.select chosen = s.ledger.select chosen := by
  rw [Ledger.select, holidays_ledger hs]
  exact select_eq_of_perm hs (List.perm_insertionSort _ _) (List.pairwise_insertionSort _ _)

/-! ### What the changes leave behind -/

theorem ledger_added : (s.added draft).ledger =
    { rows := s.ledger.rows.insert (s.issued + 1) draft, issued := s.issued + 1 } := by
  unfold ledger Store.added
  congr 1
  apply ExtTreeMap.ext_getElem?
  intro j
  simp only [ExtTreeMap.getElem?_map, lookup_insert]
  split <;> rfl

theorem ledger_moved {was : Draft} : (s.moved id was draft).ledger =
    { s.ledger with rows := s.ledger.rows.insert id draft } := by
  unfold ledger Store.moved
  congr 1
  apply ExtTreeMap.ext_getElem?
  intro j
  simp only [ExtTreeMap.getElem?_map, lookup_insert]
  split <;> rfl

theorem ledger_removed {was : Draft} : (s.removed id was).ledger =
    { s.ledger with rows := s.ledger.rows.erase id } := by
  unfold ledger Store.removed
  congr 1
  apply ExtTreeMap.ext_getElem?
  intro j
  simp only [ExtTreeMap.getElem?_map, lookup_erase]
  split <;> rfl

/-- A row that is written as it stands leaves the ledger as it is. -/
theorem ledger_rewritten (hr : s.rows[id]? = some h) :
    s.ledger.rows.insert id h.key = s.ledger.rows := by
  apply ExtTreeMap.ext_getElem?
  intro j
  rw [lookup_insert]
  split
  · next hid =>
    subst hid
    simp only [ledger, ExtTreeMap.getElem?_map, hr, Option.map_some]
  · rfl

/-! ### One call -/

theorem insert_ledger (hs : s.Indexed) (draft : Draft) :
    ((s.insert draft).1, (s.insert draft).2.ledger) = s.ledger.insert draft := by
  unfold Ledger.insert
  by_cases ht : s.Taken draft
  · rw [insert_taken hs ht, if_pos (holds_ledger.mpr ht)]
  · rw [insert_free hs ht, if_neg (fun h => ht (holds_ledger.mp h)), ledger_added]
    rfl

theorem update_ledger (hs : s.Indexed) (id : Nat) (draft : Draft) :
    ((s.update id draft).1, (s.update id draft).2.ledger) = s.ledger.update id draft := by
  unfold Ledger.update
  -- the ledger's own order of questions: another row first, then this one
  by_cases helse : ∃ j h, s.rows[j]? = some h ∧ h.key = draft ∧ j ≠ id
  · obtain ⟨j, h, hr, hk, hne⟩ := helse
    rw [update_taken hs hr hk hne, if_pos (holdsElsewhere_ledger.mpr ⟨j, h, hr, hk, hne⟩)]
  · rw [if_neg (fun h => helse (holdsElsewhere_ledger.mp h))]
    cases hr : s.rows[id]? with
    | none =>
      have hf : ¬ s.Taken draft := by
        apply free_of_not_elsewhere helse
        intro h hh
        rw [hr] at hh
        cases hh
      rw [update_missing hs hr hf, if_neg (has_ledger_of_none hr)]
    | some old =>
      rw [if_pos (has_ledger.mpr ⟨old, hr⟩)]
      by_cases hsame : old.key = draft
      · -- nothing moves, and the ledger writes what is there
        rw [update_same hs hr hsame, ← hsame, ledger_rewritten hr]
      · have hf : ¬ s.Taken draft := by
          apply free_of_not_elsewhere helse
          intro h hh
          rw [hr] at hh
          cases hh
          exact hsame
        rw [update_moved hs hr hf, ledger_moved]

theorem delete_ledger (hs : s.Indexed) (id : Nat) :
    ((s.delete id).1, (s.delete id).2.ledger) = s.ledger.delete id := by
  unfold Ledger.delete
  cases hr : s.rows[id]? with
  | none => rw [delete_missing hr, if_neg (has_ledger_of_none hr)]
  | some old => rw [delete_stored hs hr, if_pos (has_ledger.mpr ⟨old, hr⟩), ledger_removed]

theorem holds_eq_ledger (hs : s.Indexed) (key : Draft) : s.holds key = s.ledger.holds key := by
  rw [Bool.eq_iff_iff, holds_ledger, holds, ExtTreeMap.contains_eq_isSome_getElem?,
    Option.isSome_iff_ne_none, ne_eq, hs.index_eq_none, not_not]

theorem size_ledger (s : Store) : s.ledger.rows.toList.length = s.size := by
  rw [ledger, ExtTreeMap.length_toList, ExtTreeMap.size_map]
  rfl

theorem isEmpty_ledger (s : Store) : s.ledger.rows.toList.isEmpty = s.isEmpty := by
  rw [ledger, ExtTreeMap.isEmpty_toList, isEmpty, ExtTreeMap.isEmpty_eq_size_beq_zero,
    ExtTreeMap.size_map, ExtTreeMap.isEmpty_eq_size_beq_zero]

/-- A call of an indexed store is the call of its ledger. -/
theorem perform_ledger (hs : s.Indexed) (action : Action) :
    ((s.perform action).1, (s.perform action).2.ledger) = s.ledger.perform action := by
  cases action with
  | insert draft =>
    have := insert_ledger hs draft
    simp only [perform, Ledger.perform, ← this, Prod.map]
  | update id draft =>
    have := update_ledger hs id draft
    simp only [perform, Ledger.perform, ← this, Prod.map]
  | delete id =>
    have := delete_ledger hs id
    simp only [perform, Ledger.perform, ← this, Prod.map]
  | find id => simp only [perform, Ledger.perform, find?_ledger hs, find?]
  | holds key => simp only [perform, Ledger.perform, holds_eq_ledger hs]
  | select chosen => simp only [perform, Ledger.perform, select_ledger hs]
  | size => simp only [perform, Ledger.perform, size_ledger]
  | isEmpty => simp only [perform, Ledger.perform, isEmpty_ledger]

/-- A call that fails changes nothing at all. -/
theorem perform_of_isFailure (hs : s.Indexed) {action : Action}
    (hfail : (s.perform action).1.isFailure = true) : (s.perform action).2 = s := by
  rcases hs.perform_cases action with h | ⟨draft, rfl, hf, _⟩ | ⟨id, draft, old, rfl, hr, hf, _⟩ |
    ⟨id, old, rfl, hr, _⟩
  · exact h
  · simp only [perform, insert_free hs hf, Prod.map_apply] at hfail
    cases hfail
  · simp only [perform, update_moved hs hr hf, Prod.map_apply] at hfail
    cases hfail
  · simp only [perform, delete_stored hs hr, Prod.map_apply] at hfail
    cases hfail

/-! ### Runs -/

theorem run_ledger (hs : s.Indexed) (actions : List Action) :
    (Action.run perform s actions).1 = (Action.run Ledger.perform s.ledger actions).1 ∧
    (Action.run perform s actions).2.ledger = (Action.run Ledger.perform s.ledger actions).2 := by
  induction actions generalizing s with
  | nil => exact ⟨rfl, rfl⟩
  | cons action rest ih =>
    -- after one call both sides stand at the ledger of the same store
    have hstep := perform_ledger hs action
    obtain ⟨hanswers, hlast⟩ := ih (hs.perform action)
    simp only [Action.run, ← hstep]
    exact ⟨congrArg _ hanswers, hlast⟩

theorem ledger_empty : ({} : Store).ledger = {} := by
  unfold ledger
  congr 1

/-- **A store answers as its ledger does**, in every run of calls on a new
    store, and keeps the same rows and the same last id. A call that fails
    leaves the whole store, its index included, as it was. -/
theorem answers_eq_ledger (actions : List Action) :
    (Action.run perform {} actions).1 = (Action.run Ledger.perform {} actions).1 ∧
    (after actions).ledger = (Action.run Ledger.perform {} actions).2 ∧
    ∀ action, ((after actions).perform action).1.isFailure = true →
      ((after actions).perform action).2 = after actions := by
  have hrun := run_ledger indexed_empty actions
  rw [ledger_empty] at hrun
  exact ⟨hrun.1, hrun.2, fun action => perform_of_isFailure (indexed_after actions)⟩

end Store
end HolidayApi.Calendar
