import HolidayApi.Data.Datum

/-! # Tables under construction

    A TOML document fills a tree of tables line by line. How a table came
    about decides what may still be added to it:

    * a header `[a.b]` makes `b` an explicit table, once only, and on its way
      makes `a` an implicit one;
    * a header `[[a]]` appends a table to the array `a`;
    * a dotted key `a.b = 1` makes `a` a dotted table, which more dotted keys
      may fill but no header may open.

    A header that opens an implicit table moves it behind the other entries.
    Every operation fails where the document contradicts itself.
-/

namespace HolidayApi.Toml

open HolidayApi.Data (Datum)

/-- What a key leads to. -/
inductive Item where
  /-- A finished value. -/
  | leaf (datum : Datum)
  /-- A table; whether it is implicit and whether it is dotted. -/
  | table (implicit dotted : Bool) (entries : List (String × Item))
  /-- An array of tables, the latest first. -/
  | tables (latest : List (List (String × Item)))

/-- The entries of a table in the order in which they were added. -/
abbrev Entries := List (String × Item)

namespace Entries

/-- The entries with another item in place of that of a key. -/
def replace (entries : Entries) (key : String) (item : Item) : Entries :=
  entries.map fun (k, old) => if k = key then (k, item) else (k, old)

/-- The entries without a key. -/
def remove (entries : Entries) (key : String) : Entries :=
  entries.filter fun (k, _) => k ≠ key

/-- Goes down a path, making the tables that are missing, and changes the
    entries of the table at its end. `change` is told whether that table is
    dotted. A dotted path does not enter explicit tables; all paths enter the
    latest table of an array. -/
def descend {α : Type} (dotted : Bool) (change : Bool → Entries → Option (α × Entries)) :
    List String → (isDotted : Bool) → Entries → Option (α × Entries)
  | [], isDotted, entries => change isDotted entries
  | key :: path, _, entries =>
    match entries.lookup key with
    | none => do
      let (result, inner) ← descend dotted change path dotted []
      return (result, entries ++ [(key, .table true dotted inner)])
    | some (.leaf _) | some (.tables []) => none
    | some (.tables (latest :: earlier)) => do
      let (result, latest) ← descend dotted change path false latest
      return (result, replace entries key (.tables (latest :: earlier)))
    | some (.table implicit isDotted inner) =>
      if dotted && !implicit then none
      else do
        let (result, inner) ← descend dotted change path isDotted inner
        return (result, replace entries key (.table implicit isDotted inner))

/-- Adds a value under a dotted key. The last table of the path has to be a
    dotted one. -/
def addValue (entries : Entries) (path : List String) (key : String) (value : Datum) :
    Option Entries :=
  (descend true (fun isDotted inner =>
    if isDotted = path.isEmpty ∨ (inner.lookup key).isSome then none
    else some ((), inner ++ [(key, .leaf value)])) path false entries).map Prod.snd

/-- Takes the table out that a header opens. -/
def takeTable (entries : Entries) (path : List String) (key : String) :
    Option (Entries × Entries) :=
  descend false (fun _ inner =>
    match inner.lookup key with
    | none => some ([], inner)
    | some (.table true false opened) => some (opened, remove inner key)
    | some _ => none) path false entries

/-- Puts an explicit table at the end of its parent. -/
def putTable (entries : Entries) (path : List String) (key : String) (table : Entries) :
    Option Entries :=
  (descend false (fun _ inner =>
    if (inner.lookup key).isSome then none
    else some ((), inner ++ [(key, .table false false table)])) path false entries).map Prod.snd

/-- Appends a table to an array of tables, which is made if it is missing. -/
def pushTable (entries : Entries) (path : List String) (key : String) (table : Entries) :
    Option Entries :=
  (descend false (fun _ inner =>
    match inner.lookup key with
    | none => some ((), inner ++ [(key, .tables [table])])
    | some (.tables latest) => some ((), replace inner key (.tables (table :: latest)))
    | some _ => none) path false entries).map Prod.snd

end Entries

/-! ### The finished document -/

mutual

/-- The data of an item. -/
def Item.datum : Item → Datum
  | .leaf datum => datum
  | .table _ _ entries => .mapping (entriesData entries) true
  | .tables latest => .tables (tablesData latest).reverse

/-- The data of the entries of a table. -/
def entriesData : List (String × Item) → List (Option String × Datum)
  | [] => []
  | (key, item) :: entries => (some key, item.datum) :: entriesData entries

/-- The data of the tables of an array. -/
def tablesData : List (List (String × Item)) → List Datum
  | [] => []
  | entries :: tables => .mapping (entriesData entries) true :: tablesData tables

end

/-- The tables of a document of which the lines so far were read. -/
structure Draft where
  /-- The tables whose lines are all read. -/
  root : Entries := []
  /-- The table whose lines are read. -/
  current : Entries := []
  /-- The parents and the key of that table; nothing for the root. -/
  header : Option (List String × String) := none
  /-- Whether that table belongs to an array. -/
  isArray : Bool := false

namespace Draft

/-- Puts the current table at its place. -/
def finish (d : Draft) : Option Entries :=
  match d.header with
  | none => some d.current
  | some (path, key) =>
    if d.isArray then d.root.pushTable path key d.current
    else d.root.putTable path key d.current

/-- Adds a value to the current table. -/
def addValue (d : Draft) (path : List String) (key : String) (value : Datum) : Option Draft := do
  return { d with current := ← d.current.addValue path key value }

/-- Opens a table by a header. -/
def openTable (d : Draft) (path : List String) (key : String) : Option Draft := do
  let (opened, root) ← (← d.finish).takeTable path key
  return { root, current := opened, header := some (path, key) }

/-- Opens a table of an array by a header. -/
def openArray (d : Draft) (path : List String) (key : String) : Option Draft := do
  return { root := ← d.finish, header := some (path, key), isArray := true }

end Draft
end HolidayApi.Toml
