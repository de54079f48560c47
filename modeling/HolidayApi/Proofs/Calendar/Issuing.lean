import HolidayApi.Proofs.Calendar.Calls
import HolidayApi.Proofs.Calendar.Periods

/-! # Ids are issued once

    A store issues ids in order, one for each holiday that it inserts
    (`Indexed.ids_inserted`). What becomes of the holiday later has no part in
    that: an id whose row is gone was issued, so it lies behind the ids to come.

    `Gone` says that an id was issued and has no row. Deleting a holiday makes
    its id gone, and so does storing drafts together, for those that were stored
    before the attempt failed. Every call of the store leaves it gone
    (`Gone.perform`), and so does every run of calls (`Gone.run`), of the store
    as of the service (`gone_run`).

    `ids_never_reused` gathers what follows for the service.
-/

namespace HolidayApi.Calendar

open HolidayApi.Call (Declarations Recorder Registry Session)

namespace Store

variable {s : Store} {id : Nat} {h : Holiday}

/-! ### Inserted holidays -/

/-- The holiday that a call inserts, if it inserts one. -/
def insertedBy (s : Store) (action : Action) : Option Holiday :=
  match action with
  | .insert draft => (s.insert draft).1.toOption
  | _ => none

/-- The holidays that these calls insert, one after another, those included
    that later calls change or remove. -/
def inserted (s : Store) : List Action → List Holiday
  | [] => []
  | action :: rest => (s.insertedBy action).toList ++ inserted (s.perform action).2 rest

theorem inserted_insert (s : Store) (draft : Draft) (rest : List Action) :
    s.inserted (.insert draft :: rest) =
      (s.insert draft).1.toOption.toList ++ (s.insert draft).2.inserted rest := rfl

theorem inserted_append (s : Store) (actions later : List Action) :
    s.inserted (actions ++ later) =
      s.inserted actions ++ (Action.run perform s actions).2.inserted later := by
  induction actions generalizing s with
  | nil => rfl
  | cons action rest ih =>
    show _ ++ inserted _ (rest ++ later) = _
    rw [ih, ← List.append_assoc]
    rfl

theorem inserted_deletes (s : Store) (holidays : List Holiday) :
    s.inserted (holidays.map fun holiday => .delete holiday.id) = [] := by
  induction holidays generalizing s with
  | nil => rfl
  | cons holiday rest ih => exact ih _

/-- Drafts that are stored together are inserted one after another. -/
theorem inserted_attempts {s : Store} {stored all : List Holiday} {drafts : List Draft}
    (hok : (s.insertFrom stored drafts).1 = .ok all) :
    all = stored.reverse ++ s.inserted (s.attempts stored drafts) := by
  induction drafts generalizing s stored with
  | nil =>
    cases hok
    exact (List.append_nil _).symm
  | cons draft rest ih =>
    unfold attempts
    unfold insertFrom at hok
    rw [inserted_insert]
    revert hok
    rcases s.insert draft with ⟨refusal | holiday, after⟩ <;> intro hok
    · cases hok
    · -- the new holiday joins those that were stored before
      have hall := ih hok
      rw [List.reverse_cons, List.append_assoc] at hall
      exact hall

/-- Before a draft that collides, those in front of it are inserted. -/
theorem inserted_attempts_collision {s : Store} {front rest : List Draft} {draft : Draft}
    (hs : s.Indexed) (hc : s.Clear front) (ht : s.Taken draft ∨ draft ∈ front)
    (stored : List Holiday) :
    s.inserted (s.attempts stored (front ++ draft :: rest)) = s.numbered front := by
  rw [← taken_addedAll hs hc] at ht
  induction front generalizing s stored with
  | nil =>
    have hrefused : s.insert draft = (.error (.duplicate draft), s) := insert_taken hs ht
    simp only [List.nil_append, attempts, hrefused, inserted_insert, inserted_deletes]
    rfl
  | cons first front ih =>
    obtain ⟨hfree, hrest⟩ := (clear_cons hs).mp hc
    simp only [List.cons_append, attempts, insert_free hs hfree, inserted_insert]
    rw [ih (hs.added hfree) hrest ht, numbered_cons]
    rfl

/-- Drafts that are stored in vain are inserted up to the one that is refused,
    and all that is left of them is that ids were issued. -/
theorem insertAll_failed {s : Store} (hs : s.Indexed) {drafts : List Draft} {refusal : Refusal}
    (hfailed : (s.insertAll drafts).1 = .error refusal) :
    ∃ front draft rest, drafts = front ++ draft :: rest ∧ refusal = .duplicate draft ∧
      s.inserted (s.attempts [] drafts) = s.numbered front ∧
      (s.insertAll drafts).2 = { s with issued := s.issued + front.length } := by
  by_cases hclear : s.Clear drafts
  · rw [insertAll_clear hs hclear] at hfailed
    cases hfailed
  · obtain ⟨front, draft, rest, rfl, hfront, hcollides⟩ := exists_collision hclear
    rw [insertAll_collision hs hfront hcollides] at hfailed ⊢
    cases hfailed
    exact ⟨front, draft, rest, rfl, rfl, inserted_attempts_collision hs hfront hcollides [], rfl⟩

/-! ### Issued ids -/

/-- Only an insert issues an id. -/
theorem Indexed.issued_eq (hs : s.Indexed) {action : Action} (hother : action.isInsert = false) :
    (s.perform action).2.issued = s.issued := by
  rcases hs.perform_cases action with hsame | ⟨draft, rfl, hfree, hadded⟩ |
    ⟨id, draft, old, rfl, hrow, hfree, hmoved⟩ | ⟨id, old, rfl, hrow, hremoved⟩
  · rw [hsame]
  · cases hother
  · rw [hmoved]
    rfl
  · rw [hremoved]
    rfl

/-- A call inserts a holiday under the next id, or it inserts nothing and issues
    no id. -/
theorem Indexed.insertedBy_cases (hs : s.Indexed) (action : Action) :
    (s.insertedBy action = none ∧ (s.perform action).2.issued = s.issued) ∨
    ∃ h, s.insertedBy action = some h ∧ h.id = s.issued + 1 ∧
      (s.perform action).2.issued = s.issued + 1 := by
  cases action with
  | insert draft =>
    show ((s.insert draft).1.toOption = none ∧ (s.insert draft).2.issued = s.issued) ∨
      ∃ h, (s.insert draft).1.toOption = some h ∧ h.id = s.issued + 1 ∧
        (s.insert draft).2.issued = s.issued + 1
    by_cases htaken : s.Taken draft
    · rw [insert_taken hs htaken]
      exact .inl ⟨rfl, rfl⟩
    · rw [insert_free hs htaken]
      exact .inr ⟨draft.under (s.issued + 1), rfl, rfl, rfl⟩
  | _ => exact .inl ⟨rfl, hs.issued_eq rfl⟩

/-- **Ids are issued in order**, one for each holiday that is inserted. -/
theorem Indexed.ids_inserted (hs : s.Indexed) (actions : List Action) :
    (s.inserted actions).map Holiday.id =
      List.range' (s.issued + 1) (s.inserted actions).length ∧
    (Action.run Store.perform s actions).2.issued = s.issued + (s.inserted actions).length := by
  induction actions generalizing s with
  | nil => exact ⟨rfl, rfl⟩
  | cons action rest ih =>
    -- the rest goes on behind the id that this call takes, if it takes one
    obtain ⟨hids, hissued⟩ := ih (hs.perform action)
    simp only [inserted, Action.run]
    rcases hs.insertedBy_cases action with ⟨hnone, hsame⟩ | ⟨h, hsome, hid, hnext⟩
    · rw [hnone]
      rw [hsame] at hids hissued
      exact ⟨hids, hissued⟩
    · rw [hsome]
      rw [hnext] at hids hissued
      simp only [Option.toList_some, List.singleton_append, List.map_cons, List.length_cons,
        List.range'_succ, hids, hid, true_and]
      omega

theorem Indexed.id_inserted (hs : s.Indexed) {actions : List Action} {n : Nat}
    (hn : (s.inserted actions)[n]? = some h) : h.id = s.issued + 1 + n := by
  obtain ⟨hlt, -⟩ := List.getElem?_eq_some_iff.mp hn
  have hid : ((s.inserted actions).map Holiday.id)[n]? = some h.id := by
    rw [List.getElem?_map, hn]
    rfl
  rw [(hs.ids_inserted actions).1, List.getElem?_range' hlt, Nat.one_mul] at hid
  exact (Option.some.inj hid).symm

theorem Indexed.pairwise_inserted (hs : s.Indexed) (actions : List Action) :
    (s.inserted actions).Pairwise fun earlier later => earlier.id < later.id := by
  have hids : ((s.inserted actions).map Holiday.id).Pairwise (· < ·) := by
    rw [(hs.ids_inserted actions).1]
    exact List.pairwise_lt_range' 1
  exact List.pairwise_map.mp hids

/-! ### Ids that are gone -/

/-- The id was issued, and no holiday has it any more. -/
structure Gone (s : Store) (id : Nat) : Prop where
  issued : id ≤ s.issued
  row : s.rows[id]? = none

/-- No call brings an id back that is gone. -/
theorem Gone.perform (hs : s.Indexed) (hgone : s.Gone id) (action : Action) :
    (s.perform action).2.Gone id := by
  obtain ⟨hissued, hnone⟩ := hgone
  rcases hs.perform_cases action with hsame | ⟨draft, rfl, hfree, hadded⟩ |
    ⟨other, draft, old, rfl, hrow, hfree, hmoved⟩ | ⟨other, old, rfl, hrow, hremoved⟩
  · rw [hsame]
    exact ⟨hissued, hnone⟩
  · -- a new row lies under a new id
    rw [hadded]
    refine ⟨Nat.le_succ_of_le hissued, ?_⟩
    have hne : s.issued + 1 ≠ id := by omega
    simp only [added, lookup_insert, if_neg hne, hnone]
  · -- a row that is rewritten was there before
    rw [hmoved]
    have hne : other ≠ id := by
      rintro rfl
      rw [hnone] at hrow
      cases hrow
    exact ⟨hissued, by simp only [moved, lookup_insert, if_neg hne, hnone]⟩
  · rw [hremoved]
    refine ⟨hissued, ?_⟩
    simp only [removed, lookup_erase, hnone, ite_self]

theorem Gone.run (hs : s.Indexed) (hgone : s.Gone id) (actions : List Action) :
    (Action.run Store.perform s actions).2.Gone id := by
  induction actions generalizing s with
  | nil => exact hgone
  | cons action rest ih => exact ih (hs.perform action) (hgone.perform hs action)

/-- The id of a holiday that was deleted is gone. -/
theorem gone_of_delete (hs : s.Indexed) (hfound : (s.delete id).1 = true) :
    (s.delete id).2.Gone id := by
  cases hrow : s.rows[id]? with
  | none =>
    rw [delete_missing hrow] at hfound
    cases hfound
  | some old =>
    rw [delete_stored hs hrow]
    refine ⟨(hs.issued id old hrow).2, ?_⟩
    simp only [removed, lookup_erase, if_pos]

/-- The ids of holidays that were stored in vain are gone. -/
theorem gone_of_insertAll (hs : s.Indexed) {drafts : List Draft} {refusal : Refusal}
    (hfailed : (s.insertAll drafts).1 = .error refusal)
    (hinserted : h ∈ s.inserted (s.attempts [] drafts)) : (s.insertAll drafts).2.Gone h.id := by
  obtain ⟨front, draft, rest, -, -, hnumbered, hafter⟩ := insertAll_failed hs hfailed
  rw [hnumbered] at hinserted
  obtain ⟨hnew, hissued⟩ := mem_numbered hinserted
  rw [hafter]
  -- the rows are those from before, among which there was no such id
  exact ⟨hissued, hs.rows_eq_none hnew⟩

/-! ### What is answered about an id that is gone -/

theorem update_gone (hs : s.Indexed) (hgone : s.Gone id) (draft : Draft) :
    ∃ refusal, (s.update id draft).1 = .error refusal := by
  by_cases htaken : s.Taken draft
  · -- whoever has the key is stored, so it is another holiday
    obtain ⟨j, h, hrow, hkey⟩ := htaken
    have hne : j ≠ id := by
      rintro rfl
      rw [hgone.row] at hrow
      cases hrow
    exact ⟨_, by rw [update_taken hs hrow hkey hne]⟩
  · exact ⟨_, by rw [update_missing hs hgone.row htaken]⟩

theorem id_ne_of_mem_select (hs : s.Indexed) (hgone : s.Gone id) {chosen : Holiday → Bool}
    (hmem : h ∈ s.select chosen) : h.id ≠ id := by
  rintro rfl
  obtain ⟨⟨id, hrow⟩, -⟩ := ((listed_select hs chosen).mem_iff h).mp hmem
  rw [← hs.id_eq id h hrow, hgone.row] at hrow
  cases hrow

end Store

/-! ### Calls of the service -/

namespace ServiceCall

open Service (LetsThrough)

variable {registry : Registry Store} {call : ServiceCall}

/-- The holidays that these calls insert, one after another. Those are counted
    that are removed again because a later draft of the same call is refused. -/
def insertedIn (registry : Registry Store) (s : Session Store) (calls : List ServiceCall) :
    List Holiday :=
  s.data.inserted (changesIn registry s calls)

theorem insertedIn_admitted (s : Session Store) (hadmitted : LetsThrough registry call.operation) :
    insertedIn registry s [call] = s.data.inserted (call.actions s.data) := by
  have hchanges : changesIn registry s [call] = call.actions s.data := by
    show call.changes registry s.data ++ [] = _
    rw [List.append_nil, changes, if_pos hadmitted]
  rw [insertedIn, hchanges]

theorem insertedIn_rejected (s : Session Store)
    (hrejected : ¬ LetsThrough registry call.operation) : insertedIn registry s [call] = [] := by
  have hchanges : changesIn registry s [call] = [] := by
    show call.changes registry s.data ++ [] = _
    rw [List.append_nil, changes, if_neg hrejected]
  rw [insertedIn, hchanges]
  rfl

end ServiceCall

namespace Service

variable {ε ε' α : Type} {rename : ε → ε'}

theorem eq_ok_of_mapError {result : Except ε α} {value : α}
    (hok : result.mapError rename = .ok value) : result = .ok value := by
  cases result with
  | ok other =>
    cases hok
    rfl
  | error refusal => cases hok

theorem exists_of_mapError {result : Except ε α} {fault : ε'}
    (hfailed : result.mapError rename = .error fault) :
    ∃ refusal, result = .error refusal ∧ fault = rename refusal := by
  cases result with
  | ok value => cases hfailed
  | error refusal =>
    cases hfailed
    exact ⟨refusal, rfl, rfl⟩

/-- The call takes the id back: it deletes the holiday that has it, or it stores
    drafts in vain after one of them was inserted under the id. -/
inductive Retires (registry : Registry Store) (s : Session Store) : ServiceCall → Nat → Prop where
  | deleted {id : Nat} (hfound : (delete registry id s).1 = .ok ()) :
      Retires registry s (.delete id) id
  | rolledBack {drafts : List Draft} {fault : Fault} {h : Holiday}
      (hfailed : (createAll registry drafts s).1 = .error fault)
      (hinserted : h ∈ ServiceCall.insertedIn registry s [.createAll drafts]) :
      Retires registry s (.createAll drafts) h.id

/-- No holiday has the id: it is found by no call, it cannot be deleted or
    updated, and it is listed nowhere, whatever is chosen for the listing. -/
structure Absent (registry : Registry Store) (s : Session Store) (id : Nat) : Prop where
  select : ∀ chosen, ∀ h ∈ s.data.select chosen, h.id ≠ id
  findById : LetsThrough registry "HolidayService.find_by_id" →
    (findById registry id s).1 = .error (notFound id)
  delete : LetsThrough registry "HolidayService.delete" →
    (delete registry id s).1 = .error (notFound id)
  update : ∀ draft holiday, (update registry id draft s).1 ≠ .ok holiday
  findByYear : ∀ year holidays, (findByYear registry year s).1 = .ok holidays →
    ∀ h ∈ holidays, h.id ≠ id
  findByYearAndMonth : ∀ year month holidays,
    (findByYearAndMonth registry year month s).1 = .ok holidays → ∀ h ∈ holidays, h.id ≠ id
  findByDate : ∀ year month day holidays,
    (findByDate registry year month day s).1 = .ok holidays → ∀ h ∈ holidays, h.id ≠ id

variable {registry : Registry Store} (hr : registry.recorder.KeepsData) {s : Session Store}
  {id : Nat}

include hr

theorem insertedIn_append (s : Session Store) (calls later : List ServiceCall) :
    ServiceCall.insertedIn registry s (calls ++ later) =
      ServiceCall.insertedIn registry s calls ++
        ServiceCall.insertedIn registry (ServiceCall.run registry s calls) later := by
  unfold ServiceCall.insertedIn
  rw [ServiceCall.changesIn_append, Store.inserted_append, ← ServiceCall.run_data hr]

/-- The holiday that a call creates is the one that it inserts. -/
theorem insertedIn_create {draft : Draft} {h : Holiday}
    (hok : (create registry draft s).1 = .ok h) :
    ServiceCall.insertedIn registry s [.create draft] = [h] := by
  have hadmitted : LetsThrough registry "HolidayService.create" := letsThrough_of_ok hr hok
  rw [(create_admitted hr s hadmitted draft).1] at hok
  rw [ServiceCall.insertedIn_admitted s hadmitted]
  show (s.data.insert draft).1.toOption.toList ++ [] = [h]
  rw [eq_ok_of_mapError hok]
  rfl

/-- The holidays that a call creates together are those that it inserts. -/
theorem insertedIn_createAll {drafts : List Draft} {holidays : List Holiday}
    (hok : (createAll registry drafts s).1 = .ok holidays) :
    ServiceCall.insertedIn registry s [.createAll drafts] = holidays := by
  have hadmitted : LetsThrough registry "HolidayService.create_all" := letsThrough_of_ok hr hok
  rw [(createAll_admitted hr hadmitted drafts s).1] at hok
  rw [ServiceCall.insertedIn_admitted s hadmitted]
  exact (Store.inserted_attempts (eq_ok_of_mapError hok)).symm

/-- A call that fails to create holidays together has inserted those before the
    draft that is refused. -/
theorem insertedIn_createAll_failed (hs : s.data.Indexed)
    (hadmitted : LetsThrough registry "HolidayService.create_all") {drafts : List Draft}
    {fault : Fault} (hfailed : (createAll registry drafts s).1 = .error fault) :
    ∃ front draft rest, drafts = front ++ draft :: rest ∧ fault = faultOf (.duplicate draft) ∧
      ServiceCall.insertedIn registry s [.createAll drafts] = s.data.numbered front := by
  rw [(createAll_admitted hr hadmitted drafts s).1] at hfailed
  obtain ⟨refusal, hrefused, rfl⟩ := exists_of_mapError hfailed
  obtain ⟨front, draft, rest, hdrafts, rfl, hnumbered, -⟩ := Store.insertAll_failed hs hrefused
  refine ⟨front, draft, rest, hdrafts, rfl, ?_⟩
  rw [ServiceCall.insertedIn_admitted s hadmitted]
  exact hnumbered

theorem indexed_perform (hs : s.data.Indexed) (call : ServiceCall) :
    (call.perform registry s).2.data.Indexed := by
  rw [ServiceCall.perform_data hr]
  exact (hs.run _).1

theorem indexed_run (hs : s.data.Indexed) (calls : List ServiceCall) :
    (ServiceCall.run registry s calls).data.Indexed := by
  rw [ServiceCall.run_data hr]
  exact (hs.run _).1

theorem gone_run (hs : s.data.Indexed) (hgone : s.data.Gone id) (calls : List ServiceCall) :
    (ServiceCall.run registry s calls).data.Gone id := by
  rw [ServiceCall.run_data hr]
  exact hgone.run hs _

/-- An id that a call takes back is gone. -/
theorem gone_of_retires (hs : s.data.Indexed) {call : ServiceCall}
    (hretires : Retires registry s call id) : (call.perform registry s).2.data.Gone id := by
  cases hretires with
  | deleted hfound =>
    have hadmitted : LetsThrough registry "HolidayService.delete" := letsThrough_of_ok hr hfound
    obtain ⟨houtcome, hdata⟩ := delete_admitted hr s hadmitted id
    have hfinal : ((ServiceCall.delete id).perform registry s).2.data = (s.data.delete id).2 :=
      hdata
    rw [hfinal]
    rw [houtcome] at hfound
    refine Store.gone_of_delete hs ?_
    by_contra hmissing
    rw [if_neg hmissing] at hfound
    cases hfound
  | @rolledBack drafts fault h hfailed hinserted =>
    -- a call that is turned away inserts nothing
    have hadmitted : LetsThrough registry "HolidayService.create_all" := by
      by_contra hrejected
      rw [ServiceCall.insertedIn_rejected s hrejected] at hinserted
      cases hinserted
    obtain ⟨houtcome, hdata⟩ := createAll_admitted hr hadmitted drafts s
    have hfinal : ((ServiceCall.createAll drafts).perform registry s).2.data =
        (s.data.insertAll drafts).2 := hdata
    rw [hfinal]
    rw [houtcome] at hfailed
    rw [ServiceCall.insertedIn_admitted s hadmitted] at hinserted
    obtain ⟨refusal, hrefused, -⟩ := exists_of_mapError hfailed
    exact Store.gone_of_insertAll hs hrefused hinserted

/-- An id that is gone is not found any more, by whichever call. -/
theorem absent_of_gone (hs : s.data.Indexed) (hgone : s.data.Gone id) : Absent registry s id where
  select := fun chosen h hmem => Store.id_ne_of_mem_select hs hgone hmem
  findById := by
    intro hadmitted
    rw [(findById_admitted hr s hadmitted id).1]
    show (s.data.rows[id]?).elim _ _ = _
    rw [hgone.row]
    rfl
  delete := by
    intro hadmitted
    rw [(delete_admitted hr s hadmitted id).1, Store.delete_missing hgone.row]
    rfl
  update := by
    intro draft holiday hok
    obtain ⟨refusal, hrefused⟩ := Store.update_gone hs hgone draft
    rw [(update_admitted hr s (letsThrough_of_ok hr hok) id draft).1, hrefused] at hok
    cases hok
  findByYear := by
    intro year holidays hok h hmem
    rw [(findByYear_admitted hr s (letsThrough_of_ok hr hok) year).1] at hok
    cases hok
    exact Store.id_ne_of_mem_select hs hgone hmem
  findByYearAndMonth := by
    intro year month holidays hok h hmem
    rw [(findByYearAndMonth_admitted hr s (letsThrough_of_ok hr hok) year month).1] at hok
    split at hok
    · cases hok
      exact Store.id_ne_of_mem_select hs hgone hmem
    · cases hok
  findByDate := by
    intro year month day holidays hok h hmem
    rw [(findByDate_admitted hr s (letsThrough_of_ok hr hok) year month day).1] at hok
    split at hok
    · cases hok
      exact Store.id_ne_of_mem_select hs hgone hmem
    · cases hok

omit hr

/-- What it means that ids are issued once, from a state on: holidays are
    inserted under the ids 1, 2 and so on, and an id that a call takes back is
    absent after all calls that may follow. -/
structure IssuesOnce (registry : Registry Store) (start : Session Store) : Prop where
  /-- The inserts are those of the calls of the store that lead to its state. -/
  data : ∀ calls, (ServiceCall.run registry start calls).data =
    (Action.run Store.perform start.data (ServiceCall.changesIn registry start calls)).2
  numbered : ∀ calls (n : Nat) (h : Holiday),
    (ServiceCall.insertedIn registry start calls)[n]? = some h → h.id = n + 1
  increasing : ∀ calls,
    (ServiceCall.insertedIn registry start calls).Pairwise fun earlier later => earlier.id < later.id
  created : ∀ calls draft h,
    (create registry draft (ServiceCall.run registry start calls)).1 = .ok h →
    ServiceCall.insertedIn registry start (calls ++ [.create draft]) =
      ServiceCall.insertedIn registry start calls ++ [h]
  createdAll : ∀ calls drafts holidays,
    (createAll registry drafts (ServiceCall.run registry start calls)).1 = .ok holidays →
    ServiceCall.insertedIn registry start (calls ++ [.createAll drafts]) =
      ServiceCall.insertedIn registry start calls ++ holidays
  createdNone : LetsThrough registry "HolidayService.create_all" → ∀ calls drafts fault,
    (createAll registry drafts (ServiceCall.run registry start calls)).1 = .error fault →
    ∃ front draft rest, drafts = front ++ draft :: rest ∧ fault = faultOf (.duplicate draft) ∧
      ServiceCall.insertedIn registry start (calls ++ [.createAll drafts]) =
        ServiceCall.insertedIn registry start calls ++
          (ServiceCall.run registry start calls).data.numbered front
  absent : ∀ calls call later id,
    Retires registry (ServiceCall.run registry start calls) call id →
    Absent registry (ServiceCall.run registry start (calls ++ call :: later)) id

/-- **Ids are never used again**, in any run of calls on a new store, whichever
    of them the guards let through. -/
theorem ids_never_reused (declarations : Declarations) (start : Session Store) :
    IssuesOnce (declarations.registry .standard) { start with data := {} } := by
  have hr : (declarations.registry (Recorder.standard : Recorder Store)).recorder.KeepsData :=
    Recorder.keepsData_standard
  have hnew : ({ start with data := {} } : Session Store).data.Indexed := Store.indexed_empty
  refine ⟨ServiceCall.run_data hr _, ?_, ?_, ?_, ?_, ?_, ?_⟩
  · intro calls n h hn
    have hid : h.id = 0 + 1 + n := hnew.id_inserted hn
    omega
  · intro calls
    exact hnew.pairwise_inserted _
  · intro calls draft h hok
    rw [insertedIn_append hr, insertedIn_create hr hok]
  · intro calls drafts holidays hok
    rw [insertedIn_append hr, insertedIn_createAll hr hok]
  · intro hadmitted calls drafts fault hfailed
    obtain ⟨front, draft, rest, hdrafts, hfault, hinserted⟩ :=
      insertedIn_createAll_failed hr (indexed_run hr hnew calls) hadmitted hfailed
    refine ⟨front, draft, rest, hdrafts, hfault, ?_⟩
    rw [insertedIn_append hr, hinserted]
  · intro calls call later id hretires
    have hs := indexed_run hr hnew calls
    have hgone := gone_of_retires hr hs hretires
    refine absent_of_gone hr (indexed_run hr hnew _) ?_
    rw [ServiceCall.run_append]
    -- the id is gone after the call, and the calls that follow leave it so
    exact gone_run hr (indexed_perform hr hs call) hgone later

/-- New Year is deleted and created again, under another id. -/
example :
    (create (Declarations.registry ⟨.standard, []⟩ .standard) newYear
      (ServiceCall.run (Declarations.registry ⟨.standard, []⟩ .standard) { data := {} }
        [.create newYear, .delete 1])).1 = .ok (newYear.under 2) := rfl

end Service
end HolidayApi.Calendar
