import HolidayApi.Calendar.Store
import Mathlib.Data.List.Nodup

/-! # The index of the store

    The index of a store is the inverse of its rows. This is the invariant
    that makes a look at the index as good as a look at all rows:

    * `Taken` is what the index has to answer, said of the rows alone.
    * `Indexed` is the invariant; each step of the store keeps it.
    * `insert_free`, `update_moved`, `delete_stored` and their like say what a
      step does to an indexed store. Nothing later opens the steps again.
    * `Action` gathers the calls of a store, changes and questions alike, and
      `indexed_after` carries the invariant through any run of them.
-/

namespace HolidayApi.Calendar

open Std (ExtTreeMap LawfulEqCmp)

/-- The holiday that a draft becomes under an id. -/
def Draft.under (draft : Draft) (id : Nat) : Holiday := ⟨id, draft.date, draft.name⟩

@[simp] theorem Draft.key_under (draft : Draft) (id : Nat) : (draft.under id).key = draft := rfl

@[simp] theorem Draft.id_under (draft : Draft) (id : Nat) : (draft.under id).id = id := rfl

theorem Holiday.under_key (h : Holiday) : h.key.under h.id = h := rfl

namespace Store

variable {s t : Store} {draft key : Draft} {id : Nat} {old h : Holiday}

/-- A stored holiday has this day and name. -/
def Taken (s : Store) (key : Draft) : Prop :=
  ∃ (id : Nat) (h : Holiday), s.rows[id]? = some h ∧ h.key = key

/-- The index is the inverse of the rows, and the rows lie where their ids
    say, among the ids that were issued. -/
structure Indexed (s : Store) : Prop where
  index_iff : ∀ (key : Draft) (id : Nat),
    s.index[key]? = some id ↔ ∃ h, s.rows[id]? = some h ∧ h.key = key
  id_eq : ∀ (id : Nat) (h : Holiday), s.rows[id]? = some h → h.id = id
  issued : ∀ (id : Nat) (h : Holiday), s.rows[id]? = some h → 1 ≤ id ∧ id ≤ s.issued

/-! ### Looking things up -/

theorem lookup_insert {α β : Type} {cmp : α → α → Ordering} [Std.TransCmp cmp] [LawfulEqCmp cmp]
    [DecidableEq α] (m : ExtTreeMap α β cmp) (k a : α) (v : β) :
    (m.insert k v)[a]? = if k = a then some v else m[a]? := by
  simp only [ExtTreeMap.getElem?_insert, LawfulEqCmp.compare_eq_iff_eq]

theorem lookup_erase {α β : Type} {cmp : α → α → Ordering} [Std.TransCmp cmp] [LawfulEqCmp cmp]
    [DecidableEq α] (m : ExtTreeMap α β cmp) (k a : α) :
    (m.erase k)[a]? = if k = a then none else m[a]? := by
  simp only [ExtTreeMap.getElem?_erase, LawfulEqCmp.compare_eq_iff_eq]

/-- Of two keys it does not matter which is written first. -/
theorem erase_insert {α β : Type} {cmp : α → α → Ordering} [Std.TransCmp cmp] [LawfulEqCmp cmp]
    [DecidableEq α] (m : ExtTreeMap α β cmp) {k l : α} (hne : k ≠ l) (v : β) :
    (m.insert k v).erase l = (m.erase l).insert k v := by
  apply ExtTreeMap.ext_getElem?
  intro a
  rw [lookup_erase, lookup_insert, lookup_insert, lookup_erase]
  by_cases hk : k = a
  · have hl : l ≠ a := fun hl => hne (hk.trans hl.symm)
    rw [if_neg hl, if_pos hk, if_pos hk]
  · rw [if_neg hk, if_neg hk]

/-- A row is the holiday that its key becomes under its id. -/
theorem Indexed.row_eq (hs : s.Indexed) (hr : s.rows[id]? = some h) : h = h.key.under id := by
  rw [← hs.id_eq id h hr]
  exact h.under_key.symm

/-- Two rows with the same key are the same row. -/
theorem Indexed.row_unique (hs : s.Indexed) {i j : Nat} {g h : Holiday}
    (hi : s.rows[i]? = some g) (hj : s.rows[j]? = some h) (hk : g.key = h.key) : i = j := by
  have hgi : s.index[g.key]? = some i := (hs.index_iff g.key i).mpr ⟨g, hi, rfl⟩
  have hgj : s.index[g.key]? = some j := (hs.index_iff g.key j).mpr ⟨h, hj, hk.symm⟩
  rw [hgi] at hgj
  exact Option.some.inj hgj

theorem Indexed.index_eq_none (hs : s.Indexed) : s.index[key]? = none ↔ ¬ s.Taken key := by
  constructor
  · intro hnone ⟨id, h, hr, hk⟩
    have hsome : s.index[key]? = some id := (hs.index_iff key id).mpr ⟨h, hr, hk⟩
    rw [hnone] at hsome
    cases hsome
  · intro hfree
    cases hi : s.index[key]? with
    | none => rfl
    | some id =>
      obtain ⟨h, hr, hk⟩ := (hs.index_iff key id).mp hi
      exact absurd ⟨id, h, hr, hk⟩ hfree

/-- Ids that were not issued yet are not in use. -/
theorem Indexed.rows_eq_none (hs : s.Indexed) (hid : s.issued < id) : s.rows[id]? = none := by
  cases hr : s.rows[id]? with
  | none => rfl
  | some h =>
    have hle : id ≤ s.issued := (hs.issued id h hr).2
    omega

/-- The next id is not in use. -/
theorem Indexed.rows_next (hs : s.Indexed) : s.rows[s.issued + 1]? = none :=
  hs.rows_eq_none (Nat.lt_succ_self s.issued)

/-- A key that is free is not that of a row. -/
theorem ne_key_of_free (hr : s.rows[id]? = some old) (hf : ¬ s.Taken draft) : draft ≠ old.key := by
  intro hk
  exact hf ⟨id, old, hr, hk.symm⟩

/-- The key of a stored row is released outright: it leads to that row. -/
theorem Indexed.release_eq (hs : s.Indexed) (hr : s.rows[id]? = some old) :
    release s.index old.key id = s.index.erase old.key := by
  have howner : s.index[old.key]? = some id := (hs.index_iff old.key id).mpr ⟨old, hr, rfl⟩
  rw [release, if_pos howner]

/-- So is the old key of a row that has just been given a free one: it still
    leads to that row. -/
theorem Indexed.release_insert (hs : s.Indexed) (hr : s.rows[id]? = some old)
    (hf : ¬ s.Taken draft) :
    release (s.index.insert draft id) old.key id = (s.index.insert draft id).erase old.key := by
  have howner : (s.index.insert draft id)[old.key]? = some id := by
    rw [lookup_insert, if_neg (ne_key_of_free hr hf), hs.index_iff]
    exact ⟨old, hr, rfl⟩
  rw [release, if_pos howner]

/-- With the key of a row released, the index leads to the other rows. -/
theorem Indexed.erase_iff (hs : s.Indexed) (hr : s.rows[id]? = some old) (key : Draft) (j : Nat) :
    (s.index.erase old.key)[key]? = some j ↔
      j ≠ id ∧ ∃ h, s.rows[j]? = some h ∧ h.key = key := by
  rw [lookup_erase]
  by_cases hk : old.key = key
  · rw [if_pos hk]
    constructor
    · intro h
      cases h
    · -- the row `id` is the only one with the released key
      intro ⟨hne, h, hj, hkey⟩
      exact absurd (hs.row_unique hj hr (hkey.trans hk.symm)) hne
  · rw [if_neg hk, hs.index_iff]
    constructor
    · intro ⟨h, hj, hkey⟩
      refine ⟨?_, h, hj, hkey⟩
      intro hid
      rw [hid, hr] at hj
      cases hj
      exact hk hkey
    · intro ⟨_, hex⟩
      exact hex

/-- No row has a key that is free. -/
theorem not_exists_of_free (hf : ¬ s.Taken draft) (id : Nat) :
    ¬ ∃ h, s.rows[id]? = some h ∧ h.key = draft := by
  intro ⟨h, hr, hk⟩
  exact hf ⟨id, h, hr, hk⟩

/-- The rows decide the index. -/
theorem Indexed.index_eq_of_rows_eq (hs : s.Indexed) (ht : t.Indexed) (hr : s.rows = t.rows) :
    s.index = t.index := by
  apply ExtTreeMap.ext_getElem?
  intro key
  apply Option.ext
  intro id
  rw [hs.index_iff, ht.index_iff, hr]

/-! ### What the changes leave behind -/

/-- The store with the draft as one more row. -/
def added (s : Store) (draft : Draft) : Store :=
  { rows := s.rows.insert (s.issued + 1) (draft.under (s.issued + 1))
    index := s.index.insert draft (s.issued + 1)
    issued := s.issued + 1 }

/-- The store with the draft in the row that had the key `old`. -/
def moved (s : Store) (id : Nat) (old draft : Draft) : Store :=
  { s with
    rows := s.rows.insert id (draft.under id)
    index := (s.index.insert draft id).erase old }

/-- The store without the row that had the key `old`. -/
def removed (s : Store) (id : Nat) (old : Draft) : Store :=
  { s with rows := s.rows.erase id, index := s.index.erase old }

theorem insert_taken (hs : s.Indexed) (ht : s.Taken draft) :
    s.insert draft = (.error (.duplicate draft), s) := by
  unfold insert
  cases hi : s.index[draft]? with
  | none => exact absurd ht (hs.index_eq_none.mp hi)
  | some id => rfl

theorem insert_free (hs : s.Indexed) (hf : ¬ s.Taken draft) :
    s.insert draft = (.ok (draft.under (s.issued + 1)), s.added draft) := by
  have hi : s.index[draft]? = none := hs.index_eq_none.mpr hf
  simp only [insert, hi]
  rfl

/-- Another row has the key. -/
theorem update_taken (hs : s.Indexed) {j : Nat} (hr : s.rows[j]? = some h) (hk : h.key = draft)
    (hne : j ≠ id) : s.update id draft = (.error (.duplicate draft), s) := by
  have hi : s.index[draft]? = some j := (hs.index_iff draft j).mpr ⟨h, hr, hk⟩
  simp only [update, hi, if_neg hne]

/-- There is no such row, and its key is free. -/
theorem update_missing (hs : s.Indexed) (hr : s.rows[id]? = none) (hf : ¬ s.Taken draft) :
    s.update id draft = (.error (.notFound id), s) := by
  have hi : s.index[draft]? = none := hs.index_eq_none.mpr hf
  simp only [update, hi, hr]

/-- The row has the key already. -/
theorem update_same (hs : s.Indexed) (hr : s.rows[id]? = some h) (hk : h.key = draft) :
    s.update id draft = (.ok (draft.under id), s) := by
  have hi : s.index[draft]? = some id := (hs.index_iff draft id).mpr ⟨h, hr, hk⟩
  simp only [update, hi, if_pos, hr]
  rw [← hk, ← hs.row_eq hr]

theorem update_moved (hs : s.Indexed) (hr : s.rows[id]? = some old) (hf : ¬ s.Taken draft) :
    s.update id draft = (.ok (draft.under id), s.moved id old.key draft) := by
  have hi : s.index[draft]? = none := hs.index_eq_none.mpr hf
  have hid : old.id = id := hs.id_eq id old hr
  simp only [update, hi, hr, hs.release_insert hr hf, hid]
  rfl

theorem delete_missing (hr : s.rows[id]? = none) : s.delete id = (false, s) := by
  simp only [delete, hr]

theorem delete_stored (hs : s.Indexed) (hr : s.rows[id]? = some old) :
    s.delete id = (true, s.removed id old.key) := by
  simp only [delete, hr, hs.release_eq hr]
  rfl

/-! ### The changes keep the invariant -/

theorem indexed_empty : ({} : Store).Indexed where
  index_iff key id := by simp
  id_eq id h hr := by simp at hr
  issued id h hr := by simp at hr

theorem Indexed.added (hs : s.Indexed) (hf : ¬ s.Taken draft) : (s.added draft).Indexed where
  index_iff key id := by
    show (s.index.insert draft (s.issued + 1))[key]? = some id ↔
      ∃ h, (s.rows.insert (s.issued + 1) (draft.under (s.issued + 1)))[id]? = some h ∧ h.key = key
    rw [lookup_insert, lookup_insert]
    by_cases hk : draft = key
    · -- the new key leads to the new id, and no older row has it
      subst hk
      rw [if_pos rfl]
      by_cases hid : s.issued + 1 = id
      · simp [hid]
      · simp only [Option.some.injEq, hid, if_false, not_exists_of_free hf id]
    · -- an older key leads where it led before, and that is not the new id
      rw [if_neg hk, hs.index_iff]
      by_cases hid : s.issued + 1 = id
      · subst hid
        simp [hs.rows_next, hk]
      · simp only [hid, if_false]
  id_eq id h hr := by
    simp only [Store.added, lookup_insert] at hr
    split at hr
    · next hid => cases hr; exact hid
    · exact hs.id_eq id h hr
  issued id h hr := by
    simp only [Store.added, lookup_insert] at hr ⊢
    split at hr
    · omega
    · have := hs.issued id h hr
      omega

theorem Indexed.moved (hs : s.Indexed) (hr : s.rows[id]? = some old) (hf : ¬ s.Taken draft) :
    (s.moved id old.key draft).Indexed where
  index_iff key j := by
    show ((s.index.insert draft id).erase old.key)[key]? = some j ↔
      ∃ h, (s.rows.insert id (draft.under id))[j]? = some h ∧ h.key = key
    rw [erase_insert _ (ne_key_of_free hr hf), lookup_insert, lookup_insert]
    by_cases hk : draft = key
    · subst hk
      rw [if_pos rfl]
      by_cases hid : id = j
      · simp [hid]
      · simp only [Option.some.injEq, hid, if_false, not_exists_of_free hf j]
    · rw [if_neg hk, hs.erase_iff hr]
      by_cases hid : id = j
      · -- the row has left the only key that led to it
        subst hid
        simp [hk]
      · simp only [ne_eq, Ne.symm hid, not_false_eq_true, true_and, hid, if_false]
  id_eq j h hj := by
    simp only [Store.moved, lookup_insert] at hj
    split at hj
    · next hid => cases hj; exact hid
    · exact hs.id_eq j h hj
  issued j h hj := by
    simp only [Store.moved, lookup_insert] at hj ⊢
    split at hj
    · next hid => subst hid; exact hs.issued id old hr
    · exact hs.issued j h hj

theorem Indexed.removed (hs : s.Indexed) (hr : s.rows[id]? = some old) :
    (s.removed id old.key).Indexed where
  index_iff key j := by
    show (s.index.erase old.key)[key]? = some j ↔
      ∃ h, (s.rows.erase id)[j]? = some h ∧ h.key = key
    rw [hs.erase_iff hr, lookup_erase]
    by_cases hid : id = j
    · simp [hid]
    · simp only [ne_eq, Ne.symm hid, not_false_eq_true, true_and, hid, if_false]
  id_eq j h hj := by
    simp only [Store.removed, lookup_erase] at hj
    split at hj
    · cases hj
    · exact hs.id_eq j h hj
  issued j h hj := by
    simp only [Store.removed, lookup_erase] at hj ⊢
    split at hj
    · cases hj
    · exact hs.issued j h hj

/-- Ids may be skipped. -/
theorem Indexed.skip (hs : s.Indexed) (n : Nat) :
    ({ s with issued := s.issued + n } : Store).Indexed where
  index_iff := hs.index_iff
  id_eq := hs.id_eq
  issued id h hr := by
    have := hs.issued id h hr
    show 1 ≤ id ∧ id ≤ s.issued + n
    omega

/-! ### Rows and index have the same size -/

theorem nodup_toList {α β : Type} {cmp : α → α → Ordering} [Std.TransCmp cmp]
    (m : ExtTreeMap α β cmp) : m.toList.Nodup := by
  apply m.distinct_keys_toList.imp
  rintro a b hne rfl
  exact hne Std.ReflCmp.compare_self

/-- The index lists the rows with key and id exchanged. -/
theorem Indexed.index_perm_rows (hs : s.Indexed) :
    s.index.toList.Perm (s.rows.toList.map fun row => (row.2.key, row.1)) := by
  have hrows : (s.rows.toList.map fun row => (row.2.key, row.1)).Nodup := by
    refine List.Nodup.map_on ?_ (nodup_toList s.rows)
    rintro ⟨i, g⟩ hg ⟨j, h⟩ hh heq
    rw [ExtTreeMap.mem_toList_iff_getElem?_eq_some] at hg hh
    obtain ⟨hk, rfl⟩ := Prod.mk.inj heq
    rw [hg] at hh
    rw [Option.some.inj hh]
  rw [List.perm_ext_iff_of_nodup (nodup_toList s.index) hrows]
  rintro ⟨key, id⟩
  rw [ExtTreeMap.mem_toList_iff_getElem?_eq_some, hs.index_iff]
  simp only [List.mem_map, Prod.exists, ExtTreeMap.mem_toList_iff_getElem?_eq_some, Prod.mk.injEq]
  constructor
  · intro ⟨h, hr, hk⟩
    exact ⟨id, h, hr, hk, rfl⟩
  · rintro ⟨_, h, hr, hk, rfl⟩
    exact ⟨h, hr, hk⟩

theorem Indexed.size_eq (hs : s.Indexed) : s.index.size = s.rows.size := by
  have hlength := hs.index_perm_rows.length_eq
  rwa [List.length_map, ExtTreeMap.length_toList, ExtTreeMap.length_toList] at hlength

end Store

/-! ### Runs -/

/-- A call of the store. -/
inductive Action where
  | insert (draft : Draft)
  | update (id : Nat) (draft : Draft)
  | delete (id : Nat)
  | find (id : Nat)
  | holds (key : Draft)
  | select (chosen : Holiday → Bool)
  | size
  | isEmpty

/-- What a call of the store returns. -/
inductive Answer where
  /-- The holiday that was stored, or why none was. -/
  | stored (outcome : Except Refusal Holiday)
  /-- Whether a holiday was removed. -/
  | removed (found : Bool)
  /-- The holiday that was asked for. -/
  | found (holiday : Option Holiday)
  /-- The holidays that were asked for. -/
  | listed (holidays : List Holiday)
  /-- The number of holidays. -/
  | number (n : Nat)
  /-- Whether something is so. -/
  | truth (b : Bool)

namespace Action

/-- Whether the call may issue an id. -/
def isInsert : Action → Bool
  | insert _ => true
  | _ => false

/-- Whether the call only asks. -/
def isQuestion : Action → Bool
  | insert _ | update .. | delete _ => false
  | _ => true

/-- The answers to the calls, one after another, and the state after them. -/
def run {σ : Type} (perform : σ → Action → Answer × σ) (s : σ) : List Action → List Answer × σ
  | [] => ([], s)
  | action :: rest =>
    ((perform s action).1 :: (run perform (perform s action).2 rest).1,
      (run perform (perform s action).2 rest).2)

end Action

/-- Whether the call had no effect because it could not have one. -/
def Answer.isFailure : Answer → Bool
  | stored (.error _) => true
  | removed wasThere => !wasThere
  | _ => false

namespace Store

/-- What the store answers to a call, and the store after it. -/
def perform (s : Store) : Action → Answer × Store
  | .insert draft => (s.insert draft).map .stored fun s => s
  | .update id draft => (s.update id draft).map .stored fun s => s
  | .delete id => (s.delete id).map .removed fun s => s
  | .find id => (.found (s.find? id), s)
  | .holds key => (.truth (s.holds key), s)
  | .select chosen => (.listed (s.select chosen), s)
  | .size => (.number s.size, s)
  | .isEmpty => (.truth s.isEmpty, s)

/-- The store after these calls on a new one. -/
def after (actions : List Action) : Store := (Action.run perform {} actions).2

variable {s : Store}

/-- All that a call can do to an indexed store. -/
theorem Indexed.perform_cases (hs : s.Indexed) (action : Action) :
    (s.perform action).2 = s ∨
    (∃ draft, action = .insert draft ∧ ¬ s.Taken draft ∧ (s.perform action).2 = s.added draft) ∨
    (∃ id draft old, action = .update id draft ∧ s.rows[id]? = some old ∧ ¬ s.Taken draft ∧
      (s.perform action).2 = s.moved id old.key draft) ∨
    (∃ id old, action = .delete id ∧ s.rows[id]? = some old ∧
      (s.perform action).2 = s.removed id old.key) := by
  cases action with
  | insert draft =>
    by_cases ht : s.Taken draft
    · left
      simp only [perform, insert_taken hs ht, Prod.map_apply]
    · right; left
      exact ⟨draft, rfl, ht, by simp only [perform, insert_free hs ht, Prod.map_apply]⟩
  | update id draft =>
    by_cases ht : s.Taken draft
    · left
      obtain ⟨j, h, hr, hk⟩ := ht
      by_cases hid : j = id
      · -- the row has the key already
        subst hid
        simp only [perform, update_same hs hr hk, Prod.map_apply]
      · -- another row has it
        simp only [perform, update_taken hs hr hk hid, Prod.map_apply]
    · cases hr : s.rows[id]? with
      | none =>
        left
        simp only [perform, update_missing hs hr ht, Prod.map_apply]
      | some old =>
        right; right; left
        exact ⟨id, draft, old, rfl, hr, ht, by
          simp only [perform, update_moved hs hr ht, Prod.map_apply]⟩
  | delete id =>
    cases hr : s.rows[id]? with
    | none =>
      left
      simp only [perform, delete_missing hr, Prod.map_apply]
    | some old =>
      right; right; right
      exact ⟨id, old, rfl, hr, by simp only [perform, delete_stored hs hr, Prod.map_apply]⟩
  | find _ | holds _ | select _ | size | isEmpty => exact Or.inl rfl

theorem Indexed.perform (hs : s.Indexed) (action : Action) : (s.perform action).2.Indexed := by
  rcases hs.perform_cases action with h | ⟨draft, _, hf, h⟩ | ⟨id, draft, old, _, hr, hf, h⟩ |
    ⟨id, old, _, hr, h⟩
  · rw [h]; exact hs
  · rw [h]; exact hs.added hf
  · rw [h]; exact hs.moved hr hf
  · rw [h]; exact hs.removed hr

/-- Only an insert issues an id, and it issues one. -/
theorem Indexed.issued_perform (hs : s.Indexed) (action : Action) :
    (s.perform action).2.issued ≤ s.issued + if action.isInsert then 1 else 0 := by
  rcases hs.perform_cases action with h | ⟨draft, rfl, _, h⟩ | ⟨id, draft, old, _, _, _, h⟩ |
    ⟨id, old, _, _, h⟩
  · rw [h]; exact Nat.le_add_right _ _
  · rw [h]; exact Nat.le_refl _
  · rw [h]; exact Nat.le_add_right _ _
  · rw [h]; exact Nat.le_add_right _ _

theorem Indexed.run (hs : s.Indexed) (actions : List Action) :
    (Action.run Store.perform s actions).2.Indexed ∧
    (Action.run Store.perform s actions).2.issued
      ≤ s.issued + actions.countP Action.isInsert := by
  induction actions generalizing s with
  | nil => exact ⟨hs, Nat.le_refl _⟩
  | cons action rest ih =>
    -- the first call keeps the invariant, and the others begin there
    obtain ⟨hrest, hissued⟩ := ih (hs.perform action)
    have hfirst := hs.issued_perform action
    refine ⟨hrest, ?_⟩
    rw [List.countP_cons]
    simp only [Action.run]
    omega

theorem indexed_after (actions : List Action) : (after actions).Indexed :=
  (indexed_empty.run actions).1

/-- **The index is the inverse of the rows** after any run of calls on a new
    store. So keys are unique, no entry of the index dangles, both maps have
    the same size, and every row lies under its own id, which was issued. No
    more ids are issued than inserts were called. -/
theorem index_inverse_rows (actions : List Action) :
    (∀ (key : Draft) (id : Nat), (after actions).index[key]? = some id ↔
      ∃ h, (after actions).rows[id]? = some h ∧ h.key = key) ∧
    (∀ (i j : Nat) (g h : Holiday), (after actions).rows[i]? = some g →
      (after actions).rows[j]? = some h → g.key = h.key → i = j) ∧
    (after actions).index.size = (after actions).rows.size ∧
    (∀ (id : Nat) (h : Holiday), (after actions).rows[id]? = some h →
      h.id = id ∧ 1 ≤ id ∧ id ≤ (after actions).issued) ∧
    (after actions).issued ≤ actions.countP Action.isInsert := by
  have hs : (after actions).Indexed := indexed_after actions
  refine ⟨hs.index_iff, fun i j g h => hs.row_unique, hs.size_eq, ?_, ?_⟩
  · intro id h hr
    exact ⟨hs.id_eq id h hr, hs.issued id h hr⟩
  · have hissued := (indexed_empty.run actions).2
    rwa [Nat.zero_add] at hissued

end Store
end HolidayApi.Calendar
