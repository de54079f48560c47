import HolidayApi.Proofs.Calendar.Bulk

/-! # What the service writes

    `Writes work done` is the contract of a piece of work on the store: when
    it succeeds with a value, it did to the store what `done` says of that
    value, and when it fails, it touched neither rows nor index. In both cases
    the store stays indexed.

    Every service operation has such a contract (`writes_create` and its
    like), and guards and spans around it do not change it (`Writes.invokeNow`).
-/

namespace HolidayApi.Calendar

open Std (ExtTreeMap)
open HolidayApi.Access (Guard)
open HolidayApi.Call (Recorder Registry Session Work)

namespace Store

variable {before after : Store}

/-! ### Effects -/

/-- Rows and index are as before. -/
structure Untouched (before after : Store) : Prop where
  rows : after.rows = before.rows
  index : after.index = before.index

/-- These holidays are new, and all else is as before. -/
structure Adds (before after : Store) (holidays : List Holiday) : Prop where
  fresh : ∀ h ∈ holidays, before.rows[h.id]? = none
  rows : ∀ id h, after.rows[id]? = some h ↔ before.rows[id]? = some h ∨ h ∈ holidays ∧ h.id = id

/-- The row of this holiday holds it now, and all else is as before. -/
structure Rewrites (before after : Store) (holiday : Holiday) : Prop where
  stored : ∃ old, before.rows[holiday.id]? = some old
  row : after.rows[holiday.id]? = some holiday
  others : ∀ id, id ≠ holiday.id → after.rows[id]? = before.rows[id]?

/-- The row of this id is gone, and all else is as before. -/
structure Removes (before after : Store) (id : Nat) : Prop where
  stored : ∃ old, before.rows[id]? = some old
  row : after.rows[id]? = none
  others : ∀ j, j ≠ id → after.rows[j]? = before.rows[j]?

theorem Untouched.refl (s : Store) : s.Untouched s := ⟨rfl, rfl⟩

end Store

/-! ### Contracts -/

variable {α β : Type} {done : α → Store → Store → Prop}

/-- The work succeeds with a change of the store as `done` says, or it fails
    and touches nothing. -/
def Writes (work : Work Store (Outcome α)) (done : α → Store → Store → Prop) : Prop :=
  ∀ s : Session Store, s.data.Indexed → (work s).2.data.Indexed ∧
    match (work s).1 with
    | .ok value => done value s.data (work s).2.data
    | .error _ => s.data.Untouched (work s).2.data

namespace Writes

variable {work : Work Store (Outcome α)}

/-- Work that leaves the data alone may only be asked for what holds then. -/
theorem of_keepsData (hwork : work.KeepsData)
    (hdone : ∀ (s : Session Store) value, (work s).1 = .ok value → done value s.data s.data) :
    Writes work done := by
  intro s hs
  rw [hwork s]
  refine ⟨hs, ?_⟩
  cases houtcome : (work s).1 with
  | ok value => exact hdone s value houtcome
  | error fault => exact Store.Untouched.refl s.data

theorem of_error (fault : Fault) : Writes (return .error fault : Work Store (Outcome α)) done :=
  of_keepsData (Work.KeepsData.of_pure _) fun s value h => by cases h

theorem mono {done' : α → Store → Store → Prop} (hwork : Writes work done)
    (hdone : ∀ value before after, done value before after → done' value before after) :
    Writes work done' := by
  intro s hs
  obtain ⟨hindexed, houtcome⟩ := hwork s hs
  refine ⟨hindexed, ?_⟩
  cases hvalue : (work s).1 with
  | ok value => rw [hvalue] at houtcome; exact hdone _ _ _ houtcome
  | error fault => rw [hvalue] at houtcome; exact houtcome

/-- What comes behind the work may make something of its value, and hands on
    its fault, but leaves the data alone. -/
theorem bind {next : Outcome α → Work Store (Outcome β)} {made : α → β → Prop}
    (hwork : Writes work done) (hkeeps : ∀ outcome, (next outcome).KeepsData)
    (hok : ∀ value s, ∃ result, (next (.ok value) s).1 = .ok result ∧ made value result)
    (herror : ∀ fault s, (next (.error fault) s).1 = .error fault) :
    Writes (work >>= next) fun result before after =>
      ∃ value, made value result ∧ done value before after := by
  intro s hs
  obtain ⟨hindexed, houtcome⟩ := hwork s hs
  rw [Work.bind_run, hkeeps]
  refine ⟨hindexed, ?_⟩
  cases hvalue : (work s).1 with
  | ok value =>
    rw [hvalue] at houtcome
    obtain ⟨result, hnext, hmade⟩ := hok value (work s).2
    rw [hnext]
    exact ⟨value, hmade, houtcome⟩
  | error fault =>
    rw [hvalue] at houtcome
    rw [herror]
    exact houtcome

/-- Contracts speak of outcome and data only. -/
theorem of_run {other : Work Store (Outcome α)} (hwork : Writes work done)
    (hrun : ∀ s, ∃ s₁ : Session Store, s₁.data = s.data ∧
      (((other s).1 = (work s₁).1 ∧ (other s).2.data = (work s₁).2.data) ∨
        ∃ fault, (other s).1 = .error fault ∧ (other s).2.data = s.data)) :
    Writes other done := by
  intro s hs
  obtain ⟨s₁, hdata, ⟨houtcome, hfinal⟩ | ⟨fault, houtcome, hfinal⟩⟩ := hrun s
  · rw [houtcome, hfinal, ← hdata]
    exact hwork s₁ (by rw [hdata]; exact hs)
  · rw [houtcome, hfinal]
    exact ⟨hs, Store.Untouched.refl s.data⟩

/-- The advices of an operation do not change what its call writes. -/
theorem invokeNow {registry : Registry Store} (hr : registry.recorder.KeepsData)
    (operation : String) (caller : Option String) (hwork : Writes work done) :
    Writes (registry.invokeNow operation caller work) done := by
  apply hwork.of_run
  intro s
  by_cases hadm : Registry.Admits (registry.advices operation)
      (caller.getD Access.Caller.unknown)
  · obtain ⟨s₁, hdata, hrun⟩ := Registry.surround_admitted hr operation hadm work s
    exact ⟨s₁, hdata, Or.inl hrun⟩
  · obtain hrun := Registry.surround_rejected hr operation hadm work s
    exact ⟨s, rfl, Or.inr ⟨_, hrun⟩⟩

/-- A guard does not change what the call behind it writes. -/
theorem protect (guard : Guard) (caller : String) (hwork : Writes work done) :
    Writes (guard.protect caller work) done := by
  apply hwork.of_run
  intro s
  by_cases hadm : guard.allowed.admits caller = true
  · obtain ⟨s₁, hdata, hrun⟩ := Call.protect_admitted hadm work s
    exact ⟨s₁, hdata, Or.inl (by rw [hrun]; exact ⟨rfl, rfl⟩)⟩
  · exact ⟨s, rfl, Or.inr ⟨_, Call.protect_rejected hadm work s⟩⟩

end Writes

/-! ### Operations of the service -/

namespace Service

open Store (Untouched Adds Rewrites Removes)

variable {registry : Registry Store}

/-- A step of the store, by what it does to an indexed store. -/
theorem writes_step {change : Store → Except Refusal α × Store}
    (hchange : ∀ s : Store, s.Indexed → (change s).2.Indexed ∧
      match (change s).1 with
      | .ok value => done value s (change s).2
      | .error _ => s.Untouched (change s).2) :
    Writes (step change) done := by
  intro s hs
  rw [step_eq]
  obtain ⟨hindexed, houtcome⟩ := hchange s.data hs
  refine ⟨hindexed, ?_⟩
  cases hc : (change s.data).1 with
  | ok value => rw [hc] at houtcome; exact houtcome
  | error refusal => rw [hc] at houtcome; exact houtcome

theorem writes_create (hr : registry.recorder.KeepsData) (draft : Draft) :
    Writes (create registry draft) fun h before after => Adds before after [h] := by
  refine Writes.invokeNow hr _ _ (writes_step fun s hs => ?_)
  by_cases ht : s.Taken draft
  · rw [Store.insert_taken hs ht]
    exact ⟨hs, Untouched.refl s⟩
  · rw [Store.insert_free hs ht]
    have hclear : s.Clear [draft] := (Store.clear_cons hs).mpr ⟨ht, List.nodup_nil, by simp⟩
    exact ⟨hs.added ht, by simpa using hs.rows_next, Store.rows_addedAll hs hclear⟩

theorem writes_createAll (hr : registry.recorder.KeepsData) (drafts : List Draft) :
    Writes (createAll registry drafts) fun holidays before after =>
      Adds before after holidays := by
  refine Writes.invokeNow hr _ _ (writes_step fun s hs => ?_)
  by_cases hc : s.Clear drafts
  · rw [Store.insertAll_clear hs hc]
    exact ⟨hs.addedAll hc, fun h => Store.rows_numbered hs, Store.rows_addedAll hs hc⟩
  · obtain ⟨front, draft, rest, rfl, hfront, hcollides⟩ := Store.exists_collision hc
    rw [Store.insertAll_collision hs hfront hcollides]
    -- only ids are lost
    exact ⟨hs.skip front.length, rfl, rfl⟩

theorem writes_update (hr : registry.recorder.KeepsData) (id : Nat) (draft : Draft) :
    Writes (update registry id draft) fun h before after =>
      h.id = id ∧ Rewrites before after h := by
  refine Writes.invokeNow hr _ _ (writes_step fun s hs => ?_)
  by_cases ht : s.Taken draft
  · obtain ⟨j, h, hrow, hk⟩ := ht
    by_cases hid : j = id
    · subst hid
      rw [Store.update_same hs hrow hk]
      have hsame : s.rows[j]? = some (draft.under j) := by
        rw [hrow, ← hk, ← hs.row_eq hrow]
      exact ⟨hs, rfl, ⟨h, hrow⟩, hsame, fun _ _ => rfl⟩
    · rw [Store.update_taken hs hrow hk hid]
      exact ⟨hs, Untouched.refl s⟩
  · cases hrow : s.rows[id]? with
    | none =>
      rw [Store.update_missing hs hrow ht]
      exact ⟨hs, Untouched.refl s⟩
    | some old =>
      rw [Store.update_moved hs hrow ht]
      refine ⟨hs.moved hrow ht, rfl, ⟨old, hrow⟩, ?_, ?_⟩
      · simp only [Store.moved, Store.lookup_insert, Draft.id_under, if_pos]
      · intro j hne
        rw [Draft.id_under] at hne
        simp only [Store.moved, Store.lookup_insert, if_neg (Ne.symm hne)]

theorem delete_eq (s : Session Store) (id : Nat) :
    (do
      if ← Work.onData fun s => s.delete id then return .ok ()
      else return .error (notFound id) : Work Store (Outcome Unit)) s =
    (if (s.data.delete id).1 then .ok () else .error (notFound id),
      { s with data := (s.data.delete id).2 }) := by
  rw [Work.bind_run, Work.onData_run]
  split <;> rfl

theorem writes_delete (hr : registry.recorder.KeepsData) (id : Nat) :
    Writes (delete registry id) fun _ before after => Removes before after id := by
  refine Writes.invokeNow hr _ _ fun s hs => ?_
  rw [delete_eq]
  cases hrow : s.data.rows[id]? with
  | none =>
    rw [Store.delete_missing hrow]
    exact ⟨hs, Untouched.refl s.data⟩
  | some old =>
    rw [Store.delete_stored hs hrow]
    refine ⟨hs.removed hrow, ⟨old, hrow⟩, ?_, ?_⟩
    · simp only [Store.removed, Store.lookup_erase, if_pos]
    · intro j hne
      simp only [Store.removed, Store.lookup_erase, if_neg (Ne.symm hne)]

/-- An operation that only asks touches nothing. -/
theorem writes_question (hr : registry.recorder.KeepsData) (operation : String)
    {question : Work Store (Outcome α)} (hquestion : question.KeepsData) :
    Writes (registry.invokeNow operation none question) fun _ before after =>
      Untouched before after :=
  Writes.invokeNow hr _ _ (Writes.of_keepsData hquestion fun s _ _ => Untouched.refl s.data)

theorem writes_findByYear (hr : registry.recorder.KeepsData) (year : Int) :
    Writes (findByYear registry year) fun _ before after => Untouched before after :=
  writes_question hr _ fun _ => rfl

theorem writes_findByYearAndMonth (hr : registry.recorder.KeepsData) (year : Int) (month : Nat) :
    Writes (findByYearAndMonth registry year month) fun _ before after =>
      Untouched before after := by
  refine writes_question hr _ fun s => ?_
  split <;> rfl

theorem writes_findByDate (hr : registry.recorder.KeepsData) (year : Int) (month day : Nat) :
    Writes (findByDate registry year month day) fun _ before after => Untouched before after := by
  refine writes_question hr _ fun s => ?_
  cases Date.of? year month day <;> rfl

theorem writes_findById (hr : registry.recorder.KeepsData) (id : Nat) :
    Writes (findById registry id) fun _ before after => Untouched before after := by
  refine writes_question hr _ (Work.KeepsData.bind (fun _ => rfl) fun found => ?_)
  cases found <;> exact Work.KeepsData.of_pure _

end Service
end HolidayApi.Calendar
