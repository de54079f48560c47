import HolidayApi.Calendar.Holiday

/-! # The store of holidays

    Holidays are kept under ids, which are issued in order from 1 and never
    again. No two stored holidays have the same day and name; an index from
    day and name to id finds a collision without a look at the rows.

    * `insert` stores a draft under a new id.
    * `update` gives a stored holiday another day and name.
    * `delete` removes a holiday.
    * `select` lists the holidays with some property by day and id.
    * `insertAll` stores all drafts of a list or none of them.

    A collision is decided before anything else, so a refused step changes
    nothing and uses up no id.
-/

namespace HolidayApi.Calendar

open Std (ExtTreeMap)

namespace Draft

/-- Drafts are indexed by day, then by name. -/
def order : Draft → Draft → Ordering := compareLex (compareOn date) (compareOn name)

instance : Ord Draft := ⟨order⟩

instance : Std.TransCmp order := inferInstanceAs (Std.TransCmp (compareLex _ _))

instance : Std.LawfulEqCmp order where
  eq_of_compare {d e} h := by
    simp only [order, compareLex, compareOn, Ordering.then_eq_eq,
      Std.LawfulEqOrd.compare_eq_iff_eq] at h
    cases d; cases e; simp_all

end Draft

/-- The day and name under which a stored holiday is found. -/
def Holiday.key (h : Holiday) : Draft := ⟨h.date, h.name⟩

/-- Why a step of the store is refused. -/
inductive Refusal where
  /-- Another holiday has this day and name. -/
  | duplicate (key : Draft)
  /-- There is no holiday with this id. -/
  | notFound (id : Nat)
  deriving DecidableEq, Repr

/-- The refusal in words. -/
def Refusal.message : Refusal → String
  | duplicate key => "holiday already exists: " ++ key.date.text ++ " " ++ key.name
  | notFound id => "holiday not found: " ++ String.ofList (Text.decimal id)

/-- The stored holidays. -/
structure Store where
  /-- The holidays by id. -/
  rows : ExtTreeMap Nat Holiday := {}
  /-- The ids by day and name. -/
  index : ExtTreeMap Draft Nat Draft.order := {}
  /-- The last id that was issued. -/
  issued : Nat := 0

namespace Store

/-! ### Changes -/

/-- Removes a key from an index if it leads to this id. -/
def release (index : ExtTreeMap Draft Nat Draft.order) (key : Draft) (id : Nat) :
    ExtTreeMap Draft Nat Draft.order :=
  if index[key]? = some id then index.erase key else index

/-- Stores a draft under a new id. -/
def insert (s : Store) (draft : Draft) : Except Refusal Holiday × Store :=
  match s.index[draft]? with
  | some _ => (.error (.duplicate draft), s)
  | none =>
    let holiday : Holiday := ⟨s.issued + 1, draft.date, draft.name⟩
    (.ok holiday,
      { rows := s.rows.insert holiday.id holiday
        index := s.index.insert draft holiday.id
        issued := s.issued + 1 })

/-- Gives the holiday with this id the day and name of the draft. -/
def update (s : Store) (id : Nat) (draft : Draft) : Except Refusal Holiday × Store :=
  match s.index[draft]? with
  | some owner =>
    if owner = id then
      match s.rows[id]? with
      | some holiday => (.ok holiday, s)
      | none => (.error (.notFound id), s)
    else (.error (.duplicate draft), s)
  | none =>
    match s.rows[id]? with
    | none => (.error (.notFound id), s)
    | some old =>
      let holiday : Holiday := { old with date := draft.date, name := draft.name }
      (.ok holiday,
        { s with
          rows := s.rows.insert id holiday
          index := release (s.index.insert draft id) old.key id })

/-- Removes the holiday with this id and says whether there was one. -/
def delete (s : Store) (id : Nat) : Bool × Store :=
  match s.rows[id]? with
  | none => (false, s)
  | some old => (true, { s with rows := s.rows.erase id, index := release s.index old.key id })

/-- Removes the holidays of a list, from its end to its front. -/
def deleteAll (s : Store) (holidays : List Holiday) : Store :=
  holidays.foldr (fun holiday s => (s.delete holiday.id).2) s

/-- Stores the drafts behind those that are stored already, which are
    reversed. After a collision all of them are removed again. -/
def insertFrom (s : Store) (stored : List Holiday) :
    List Draft → Except Refusal (List Holiday) × Store
  | [] => (.ok stored.reverse, s)
  | draft :: rest =>
    match s.insert draft with
    | (.ok holiday, s) => insertFrom s (holiday :: stored) rest
    | (.error refusal, s) => (.error refusal, s.deleteAll stored)

/-- Stores all drafts or none of them. -/
def insertAll (s : Store) (drafts : List Draft) : Except Refusal (List Holiday) × Store :=
  s.insertFrom [] drafts

/-! ### Questions -/

/-- The holiday with this id. -/
def find? (s : Store) (id : Nat) : Option Holiday := s.rows[id]?

/-- Whether a holiday with this day and name is stored. -/
def holds (s : Store) (key : Draft) : Bool := s.index.contains key

/-- The number of stored holidays. -/
def size (s : Store) : Nat := s.rows.size

/-- Whether no holiday is stored. -/
def isEmpty (s : Store) : Bool := s.rows.isEmpty

/-- Holidays are listed by day, then by id. -/
def listedBefore (a b : Holiday) : Bool :=
  ((compare a.date b.date).then (compare a.id b.id)).isLE

/-- The holidays with some property, by day and id. -/
def select (s : Store) (chosen : Holiday → Bool) : List Holiday :=
  ((s.rows.toList.map Prod.snd).filter chosen).mergeSort listedBefore

/-- The holidays of a year. -/
def inYear (s : Store) (year : Int) : List Holiday := s.select fun h => h.date.year = year

/-- The holidays of a month. -/
def inMonth (s : Store) (year : Int) (month : Nat) : List Holiday :=
  s.select fun h => h.date.year = year && h.date.month = month

/-- The holidays of a day. -/
def onDate (s : Store) (date : Date) : List Holiday := s.select fun h => h.date = date

end Store
end HolidayApi.Calendar
