import HolidayApi.Proofs.Calendar.Listing
import Mathlib.Data.List.Nodup

/-! # Listings of years, months and days

    A listing holds every chosen row once, in strict order by day and id
    (`listed_select`), and there is only one list like this (`Listed.unique`).
    So a listing may be put together from others: if the choices of the parts
    divide that of the whole, and the days of one part are earlier than those of
    the next, then the listings of the parts behind each other are that of the
    whole (`select_eq_flatMap`).

    A year is divided into months and a month into its days in this way
    (`inYear_eq_flatMap`, `inMonth_eq_flatMap`). This needs that the order of
    days is that of year, month and day (`Date.compare_eq_lt_iff`).
-/

namespace HolidayApi.Calendar

open Std (ExtTreeMap LawfulEqOrd)

/-! ### Days in order -/

namespace Date

variable {d e : Date} {year : Int} {month day : Nat}

/-- The day lies in an earlier year, or in the same year in an earlier month, or
    is an earlier day of the same month. -/
def Earlier (d e : Date) : Prop :=
  d.year < e.year ∨ d.year = e.year ∧
    (d.month < e.month ∨ d.month = e.month ∧ d.day < e.day)

theorem compare_eq_lt_iff : compare d e = .lt ↔ d.Earlier e := by
  show order d e = .lt ↔ _
  unfold order Earlier
  simp only [compareLex, compareOn, Ordering.then_eq_lt, LawfulEqOrd.compare_eq_iff_eq,
    Std.compare_eq_lt]

theorem Earlier.irrefl (d : Date) : ¬ d.Earlier d := by
  unfold Earlier
  omega

/-- The days of a month in order, where there is such a month. -/
def daysOf (year : Int) (month : Nat) : List Date :=
  (List.range' 1 31).filterMap (of? year month)

theorem of?_eq_some_iff : of? year month day = some d ↔
    d.year = year ∧ d.month = month ∧ d.day = day := by
  constructor
  · intro h
    unfold of? at h
    split at h
    · split at h
      · split at h
        · cases h
          exact ⟨rfl, rfl, rfl⟩
        · cases h
      · cases h
    · cases h
  · rintro ⟨rfl, rfl, rfl⟩
    exact of?_self d

theorem mem_daysOf : d ∈ daysOf year month ↔ d.year = year ∧ d.month = month := by
  unfold daysOf
  simp only [List.mem_filterMap, List.mem_range'_1, of?_eq_some_iff]
  constructor
  · rintro ⟨day, -, hyear, hmonth, -⟩
    exact ⟨hyear, hmonth⟩
  · rintro ⟨hyear, hmonth⟩
    have hlast : daysIn d.year d.month ≤ 31 := by
      unfold daysIn
      split
      · split <;> omega
      · split <;> omega
    have hday := d.day_mem
    exact ⟨d.day, by omega, hyear, hmonth, rfl⟩

theorem pairwise_daysOf (year : Int) (month : Nat) : (daysOf year month).Pairwise Earlier := by
  unfold daysOf
  rw [List.pairwise_filterMap]
  refine (List.pairwise_lt_range' 1).imp ?_
  intro i j hij d hd e he
  obtain ⟨hy, hm, rfl⟩ := of?_eq_some_iff.mp hd
  obtain ⟨hy', hm', rfl⟩ := of?_eq_some_iff.mp he
  unfold Earlier
  omega

end Date

/-! ### What a listing is -/

/-- On an earlier day, or on the same day under a smaller id. -/
def Holiday.Before (a b : Holiday) : Prop :=
  a.date.Earlier b.date ∨ a.date = b.date ∧ a.id < b.id

theorem Holiday.Before.irrefl (a : Holiday) : ¬ a.Before a := by
  rintro (hearlier | ⟨-, hid⟩)
  · exact Date.Earlier.irrefl _ hearlier
  · exact Nat.lt_irrefl _ hid

namespace Store

variable {s : Store} {a b h : Holiday} {l l' : List Holiday} {chosen : Holiday → Bool}

/-- The list holds the rows that are chosen, in strict order. -/
structure Listed (s : Store) (chosen : Holiday → Bool) (l : List Holiday) : Prop where
  mem_iff : ∀ h : Holiday, h ∈ l ↔ (∃ id : Nat, s.rows[id]? = some h) ∧ chosen h = true
  sorted : l.Pairwise Holiday.Before

theorem Listed.nodup (hl : s.Listed chosen l) : l.Nodup := by
  refine hl.sorted.imp ?_
  rintro a b hab rfl
  exact Holiday.Before.irrefl a hab

theorem precedes_of_before (h : a.Before b) : Precedes a b := by
  rcases h with hearlier | ⟨hdate, hid⟩
  · exact Or.inl (Date.compare_eq_lt_iff.mpr hearlier)
  · exact Or.inr ⟨hdate, Nat.le_of_lt hid⟩

/-- There is one list only of the rows that are chosen. -/
theorem Listed.unique (hl : s.Listed chosen l) (hl' : s.Listed chosen l') : l = l' := by
  have hperm : l.Perm l' := by
    rw [List.perm_ext_iff_of_nodup hl.nodup hl'.nodup]
    intro h
    rw [hl.mem_iff, hl'.mem_iff]
  refine List.Perm.eq_of_pairwise ?_ hl.sorted hl'.sorted hperm
  intro a b _ _ hab hba
  -- two holidays are not before each other
  have hsame := precedes_antisymm (precedes_of_before hab) (precedes_of_before hba)
  rcases hab with hearlier | ⟨-, hid⟩
  · rw [hsame.1] at hearlier
    exact absurd hearlier (Date.Earlier.irrefl _)
  · exact absurd hsame.2 (Nat.ne_of_lt hid)

/-- Rows have different ids. -/
theorem pairwise_holidays (hs : s.Indexed) : s.holidays.Pairwise fun a b => a.id ≠ b.id := by
  unfold holidays
  rw [List.pairwise_map]
  refine List.Pairwise.imp_of_mem ?_ s.rows.distinct_keys_toList
  rintro ⟨i, a⟩ ⟨j, b⟩ ha hb hne hid
  rw [ExtTreeMap.mem_toList_iff_getElem?_eq_some] at ha hb
  -- a row lies under its own id
  have hi : a.id = i := hs.id_eq i a ha
  have hj : b.id = j := hs.id_eq j b hb
  exact hne (LawfulEqOrd.compare_eq_iff_eq.mpr (hi.symm.trans (hid.trans hj)))

theorem exists_row_iff (hs : s.Indexed) :
    (∃ id : Nat, s.rows[id]? = some h) ↔ s.rows[h.id]? = some h := by
  constructor
  · rintro ⟨id, hr⟩
    rw [hs.id_eq id h hr]
    exact hr
  · intro hr
    exact ⟨h.id, hr⟩

/-- **A listing holds the chosen rows**, each of them once, in strict order. -/
theorem listed_select (hs : s.Indexed) (chosen : Holiday → Bool) :
    s.Listed chosen (s.select chosen) := by
  have hperm : (s.select chosen).Perm (s.holidays.filter chosen) := List.mergeSort_perm _ _
  constructor
  · intro h
    rw [hperm.mem_iff, List.mem_filter, mem_holidays hs, exists_row_iff hs]
  · have hids : (s.select chosen).Pairwise fun a b => a.id ≠ b.id :=
      (hperm.pairwise_iff Ne.symm).mpr ((pairwise_holidays hs).filter chosen)
    -- the order is strict, as no id stands twice
    refine ((pairwise_select s chosen).and hids).imp ?_
    rintro a b ⟨hearlier | ⟨hdate, hle⟩, hne⟩
    · exact .inl (Date.compare_eq_lt_iff.mp hearlier)
    · exact .inr ⟨hdate, Nat.lt_of_le_of_ne hle hne⟩

/-- It does not matter in which order the rows are looked at. -/
theorem select_of_perm (hs : s.Indexed) {rows : List Holiday}
    (hrows : rows.Perm (s.rows.toList.map Prod.snd)) (chosen : Holiday → Bool) :
    (rows.filter chosen).mergeSort listedBefore = s.select chosen := by
  refine (select_eq_of_perm hs ?_ (pairwise_mergeSort _)).symm
  exact (List.mergeSort_perm _ _).trans (hrows.filter chosen)

/-! ### Listings in parts -/

/-- **The listing of the whole is made of those of its parts**, if every chosen
    row is chosen by one of the parts, and the parts follow each other. -/
theorem select_eq_flatMap (hs : s.Indexed) {ι : Type} {parts : List ι}
    {chosen : Holiday → Bool} {part : ι → Holiday → Bool}
    (hchosen : ∀ h, chosen h = true ↔ ∃ i ∈ parts, part i h = true)
    (hordered : parts.Pairwise fun i j => ∀ a b, part i a = true → part j b = true →
      a.date.Earlier b.date) :
    s.select chosen = parts.flatMap fun i => s.select (part i) := by
  refine (listed_select hs chosen).unique ⟨?_, ?_⟩
  · intro h
    simp only [List.mem_flatMap, (listed_select hs _).mem_iff, hchosen]
    constructor
    · rintro ⟨i, hi, hrow, hpart⟩
      exact ⟨hrow, i, hi, hpart⟩
    · rintro ⟨hrow, i, hi, hpart⟩
      exact ⟨i, hi, hrow, hpart⟩
  · -- in order within each part, and from one part to the next
    rw [List.pairwise_flatMap]
    refine ⟨fun i _ => (listed_select hs (part i)).sorted, hordered.imp ?_⟩
    intro i j hij a ha b hb
    have hi : part i a = true := (((listed_select hs _).mem_iff a).mp ha).2
    have hj : part j b = true := (((listed_select hs _).mem_iff b).mp hb).2
    exact .inl (hij a b hi hj)

theorem inYear_eq_flatMap (hs : s.Indexed) (year : Int) :
    s.inYear year = (List.range' 1 12).flatMap fun month => s.inMonth year month := by
  refine select_eq_flatMap hs ?_ ?_
  · intro h
    have hmonth := h.date.month_mem
    simp only [decide_eq_true_iff, Bool.and_eq_true, List.mem_range'_1]
    constructor
    · intro hyear
      exact ⟨h.date.month, by omega, hyear, rfl⟩
    · rintro ⟨_, _, hyear, _⟩
      exact hyear
  · refine (List.pairwise_lt_range' 1).imp ?_
    intro i j hij a b ha hb
    simp only [decide_eq_true_iff, Bool.and_eq_true] at ha hb
    unfold Date.Earlier
    omega

theorem inMonth_eq_flatMap (hs : s.Indexed) (year : Int) (month : Nat) :
    s.inMonth year month = (Date.daysOf year month).flatMap fun date => s.onDate date := by
  refine select_eq_flatMap hs ?_ ?_
  · intro h
    simp only [decide_eq_true_iff, Bool.and_eq_true]
    constructor
    · intro hmonth
      exact ⟨h.date, Date.mem_daysOf.mpr hmonth, rfl⟩
    · rintro ⟨date, hdate, rfl⟩
      exact Date.mem_daysOf.mp hdate
  · refine (Date.pairwise_daysOf year month).imp ?_
    intro d e hde a b ha hb
    rw [decide_eq_true_iff] at ha hb
    rw [ha, hb]
    exact hde

/-! ### Where a row is listed -/

/-- A row stands in a listing once if it is chosen, and else not at all. -/
theorem count_select (hs : s.Indexed) {id : Nat} (hrow : s.rows[id]? = some h)
    (chosen : Holiday → Bool) :
    (s.select chosen).count h = if chosen h = true then 1 else 0 := by
  have hmem : h ∈ s.select chosen ↔ chosen h = true :=
    ((listed_select hs chosen).mem_iff h).trans (and_iff_right ⟨id, hrow⟩)
  rw [(listed_select hs chosen).nodup.count]
  simp only [hmem]

/-! ### Where nothing is listed -/

theorem select_eq_nil_iff (hs : s.Indexed) (chosen : Holiday → Bool) :
    s.select chosen = [] ↔
      ∀ (id : Nat) (h : Holiday), s.rows[id]? = some h → ¬ chosen h = true := by
  simp only [List.eq_nil_iff_forall_not_mem, (listed_select hs chosen).mem_iff, not_and,
    forall_exists_index]
  exact forall_comm

theorem inYear_eq_nil_iff (hs : s.Indexed) {year : Int} : s.inYear year = [] ↔
    ∀ (id : Nat) (h : Holiday), s.rows[id]? = some h → h.date.year ≠ year := by
  refine (select_eq_nil_iff hs _).trans ?_
  simp only [decide_eq_true_iff, ne_eq]

theorem inMonth_eq_nil_iff (hs : s.Indexed) {year : Int} {month : Nat} :
    s.inMonth year month = [] ↔ ∀ (id : Nat) (h : Holiday),
      s.rows[id]? = some h → ¬ (h.date.year = year ∧ h.date.month = month) := by
  refine (select_eq_nil_iff hs _).trans ?_
  simp only [Bool.and_eq_true, decide_eq_true_iff]

theorem onDate_eq_nil_iff (hs : s.Indexed) {date : Date} : s.onDate date = [] ↔
    ∀ (id : Nat) (h : Holiday), s.rows[id]? = some h → h.date ≠ date := by
  refine (select_eq_nil_iff hs _).trans ?_
  simp only [decide_eq_true_iff, ne_eq]

/-- No day lies in a year outside the calendar. -/
theorem inYear_outside (hs : s.Indexed) {year : Int} (hout : year < minYear ∨ maxYear < year) :
    s.inYear year = [] := by
  refine (inYear_eq_nil_iff hs).mpr fun _ h _ heq => ?_
  have hin := h.date.year_mem
  omega

theorem inMonth_outside (hs : s.Indexed) {year : Int} {month : Nat}
    (hout : (year < minYear ∨ maxYear < year) ∨ month < 1 ∨ 12 < month) :
    s.inMonth year month = [] := by
  refine (inMonth_eq_nil_iff hs).mpr ?_
  rintro _ h _ ⟨hyear, hmonth⟩
  have hin := h.date.year_mem
  have hin' := h.date.month_mem
  omega

/-- **Listings are complete, in order and consistent with each other**, in every
    store that calls lead to. A listing holds each chosen row once, strictly in
    order by day and id, in whatever order the rows are looked at. The listing
    of a year consists of those of its months and that of a month of those of
    its days, so a row stands in one listing of each kind, and there once.
    Where no row is, the listing is empty; so it is outside the calendar. -/
theorem listings_consistent (actions : List Action) :
    let s := after actions
    (∀ chosen, s.Listed chosen (s.select chosen) ∧ (s.select chosen).Nodup ∧
      ∀ rows : List Holiday, rows.Perm (s.rows.toList.map Prod.snd) →
        (rows.filter chosen).mergeSort listedBefore = s.select chosen) ∧
    (∀ year, s.inYear year = (List.range' 1 12).flatMap fun month => s.inMonth year month) ∧
    (∀ year month, s.inMonth year month =
      ((List.range' 1 31).filterMap (Date.of? year month)).flatMap fun date => s.onDate date) ∧
    (∀ (id : Nat) (h : Holiday), s.rows[id]? = some h →
      (∀ year, (s.inYear year).count h = if h.date.year = year then 1 else 0) ∧
      (∀ year month, (s.inMonth year month).count h =
        if h.date.year = year ∧ h.date.month = month then 1 else 0) ∧
      ∀ date, (s.onDate date).count h = if h.date = date then 1 else 0) ∧
    (∀ year, s.inYear year = [] ↔
      ∀ (id : Nat) (h : Holiday), s.rows[id]? = some h → h.date.year ≠ year) ∧
    (∀ year month, s.inMonth year month = [] ↔ ∀ (id : Nat) (h : Holiday),
      s.rows[id]? = some h → ¬ (h.date.year = year ∧ h.date.month = month)) ∧
    (∀ date, s.onDate date = [] ↔
      ∀ (id : Nat) (h : Holiday), s.rows[id]? = some h → h.date ≠ date) ∧
    (∀ year, year < minYear ∨ maxYear < year →
      s.inYear year = [] ∧ ∀ month, s.inMonth year month = []) ∧
    ∀ year month, month < 1 ∨ 12 < month → s.inMonth year month = [] := by
  intro s
  have hs : s.Indexed := indexed_after actions
  refine ⟨?_, inYear_eq_flatMap hs, inMonth_eq_flatMap hs, ?_, fun _ => inYear_eq_nil_iff hs,
    fun _ _ => inMonth_eq_nil_iff hs, fun _ => onDate_eq_nil_iff hs, ?_, ?_⟩
  · intro chosen
    exact ⟨listed_select hs chosen, (listed_select hs chosen).nodup,
      fun rows hrows => select_of_perm hs hrows chosen⟩
  · intro id h hrow
    refine ⟨fun year => ?_, fun year month => ?_, fun date => ?_⟩
    · exact (count_select hs hrow _).trans (by simp only [decide_eq_true_iff])
    · exact (count_select hs hrow _).trans (by simp only [Bool.and_eq_true, decide_eq_true_iff])
    · exact (count_select hs hrow _).trans (by simp only [decide_eq_true_iff])
  · intro year hout
    exact ⟨inYear_outside hs hout, fun month => inMonth_outside hs (.inl hout)⟩
  · intro year month hout
    exact inMonth_outside hs (.inr hout)

end Store
end HolidayApi.Calendar
