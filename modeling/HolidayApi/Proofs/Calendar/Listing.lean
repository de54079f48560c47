import HolidayApi.Proofs.Calendar.Indexing
import Mathlib.Data.List.Sort

/-! # Listings

    A listing is in order by day and id, and ids tell rows apart, so there is
    only one way to list a choice of rows (`select_eq_of_perm`). It does not
    matter in which order the rows are looked at.
-/

namespace HolidayApi.Calendar.Store

open Std (ExtTreeMap LawfulEqOrd)

variable {s : Store} {a b c : Holiday}

/-! ### The order of listings -/

theorem compare_date_ne_lt (d : Date) : compare d d ≠ .lt := by
  rw [LawfulEqOrd.compare_eq_iff_eq.mpr rfl]
  decide

/-- Earlier days come first, and on one day smaller ids. -/
def Precedes (a b : Holiday) : Prop :=
  compare a.date b.date = .lt ∨ a.date = b.date ∧ a.id ≤ b.id

theorem listedBefore_iff : listedBefore a b = true ↔ Precedes a b := by
  unfold listedBefore Precedes
  cases hd : compare a.date b.date with
  | lt => simp
  | gt =>
    have hne : a.date ≠ b.date := fun h => by
      rw [LawfulEqOrd.compare_eq_iff_eq.mpr h] at hd
      cases hd
    simp [hne]
  | eq =>
    rw [LawfulEqOrd.compare_eq_iff_eq] at hd
    simp [hd, Nat.isLE_compare]

instance (a b : Holiday) : Decidable (Precedes a b) :=
  decidable_of_iff (listedBefore a b = true) listedBefore_iff

theorem precedes_trans (hab : Precedes a b) (hbc : Precedes b c) : Precedes a c := by
  rcases hab with hab | ⟨hab, hab'⟩
  · rcases hbc with hbc | ⟨hbc, _⟩
    · exact Or.inl (Std.TransCmp.lt_trans hab hbc)
    · exact Or.inl (hbc ▸ hab)
  · rcases hbc with hbc | ⟨hbc, hbc'⟩
    · exact Or.inl (hab ▸ hbc)
    · exact Or.inr ⟨hab.trans hbc, hab'.trans hbc'⟩

theorem precedes_total (a b : Holiday) : Precedes a b ∨ Precedes b a := by
  cases hd : compare a.date b.date with
  | lt => exact Or.inl (Or.inl hd)
  | gt => exact Or.inr (Or.inl (Std.OrientedCmp.lt_of_gt hd))
  | eq =>
    have heq : a.date = b.date := LawfulEqOrd.compare_eq_iff_eq.mp hd
    rcases Nat.le_total a.id b.id with h | h
    · exact Or.inl (Or.inr ⟨heq, h⟩)
    · exact Or.inr (Or.inr ⟨heq.symm, h⟩)

/-- Two holidays that precede each other have the same day and id. -/
theorem precedes_antisymm (hab : Precedes a b) (hba : Precedes b a) :
    a.date = b.date ∧ a.id = b.id := by
  rcases hab with hab | ⟨hab, hab'⟩
  · rcases hba with hba | ⟨hba, _⟩
    · exact absurd (Std.TransCmp.lt_trans hab hba) (compare_date_ne_lt _)
    · rw [hba] at hab
      exact absurd hab (compare_date_ne_lt _)
  · rcases hba with hba | ⟨_, hba'⟩
    · rw [hab] at hba
      exact absurd hba (compare_date_ne_lt _)
    · exact ⟨hab, Nat.le_antisymm hab' hba'⟩

instance : Std.Total Precedes := ⟨precedes_total⟩

instance : IsTrans Holiday Precedes := ⟨fun _ _ _ => precedes_trans⟩

/-! ### The listing of a choice of rows -/

/-- The rows as holidays, in no particular order. -/
def holidays (s : Store) : List Holiday := s.rows.toList.map Prod.snd

theorem mem_holidays (hs : s.Indexed) : a ∈ s.holidays ↔ s.rows[a.id]? = some a := by
  simp only [holidays, List.mem_map, Prod.exists, ExtTreeMap.mem_toList_iff_getElem?_eq_some]
  constructor
  · rintro ⟨id, h, hr, rfl⟩
    rw [hs.id_eq id h hr]
    exact hr
  · intro hr
    exact ⟨a.id, a, hr, rfl⟩

/-- Whatever is sorted is in order. -/
theorem pairwise_mergeSort (l : List Holiday) : (l.mergeSort listedBefore).Pairwise Precedes := by
  have hsorted : (l.mergeSort listedBefore).Pairwise fun a b => listedBefore a b = true := by
    apply List.pairwise_mergeSort
    · intro a b c hab hbc
      rw [listedBefore_iff] at hab hbc ⊢
      exact precedes_trans hab hbc
    · intro a b
      rw [Bool.or_eq_true, listedBefore_iff, listedBefore_iff]
      exact precedes_total a b
  exact hsorted.imp listedBefore_iff.mp

theorem pairwise_select (s : Store) (chosen : Holiday → Bool) :
    (s.select chosen).Pairwise Precedes :=
  pairwise_mergeSort _

/-- An ordered list of the chosen rows is their listing. -/
theorem select_eq_of_perm (hs : s.Indexed) {chosen : Holiday → Bool} {l : List Holiday}
    (hperm : l.Perm (s.holidays.filter chosen)) (hl : l.Pairwise Precedes) :
    s.select chosen = l := by
  have hselect : (s.select chosen).Perm (s.holidays.filter chosen) := List.mergeSort_perm _ _
  refine List.Perm.eq_of_pairwise ?_ (pairwise_select s chosen) hl (hselect.trans hperm.symm)
  intro a b ha hb hab hba
  -- the two rows have the same id, so they are the same row
  have hid : a.id = b.id := (precedes_antisymm hab hba).2
  have hra := (mem_holidays hs).mp (List.mem_of_mem_filter (hselect.mem_iff.mp ha))
  have hrb := (mem_holidays hs).mp (List.mem_of_mem_filter (hperm.mem_iff.mp hb))
  rw [hid, hrb] at hra
  exact (Option.some.inj hra).symm

end HolidayApi.Calendar.Store
