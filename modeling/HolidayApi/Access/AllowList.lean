import HolidayApi.Access.Entry

/-! # Allow lists

    A list of entries admits an address if one of them does. Two lists are
    merged by adding to the first what it does not hold yet.
-/

namespace HolidayApi.Access

/-- The callers that a guard lets through. -/
structure AllowList where
  /-- The entries in the order in which they were given. -/
  entries : List Entry
  deriving DecidableEq, Repr

namespace AllowList

/-- The list that admits nobody. -/
def empty : AllowList := ⟨[]⟩

/-- The list of the entries that these texts denote. -/
def ofPatterns (patterns : List String) : AllowList := ⟨patterns.map Entry.parse⟩

/-- The texts of the entries. -/
def patterns (list : AllowList) : List String := list.entries.map Entry.text

/-- The names of the machine itself. -/
def loopback : AllowList :=
  .ofPatterns ["127.0.0.1", "localhost", "0:0:0:0:0:0:0:1", "::1"]

/-- The entries put behind `known` unless they are there already. -/
def addNew (known : List Entry) : List Entry → List Entry
  | [] => known
  | entry :: rest =>
    if entry ∈ known then addNew known rest else addNew (known ++ [entry]) rest

theorem addNew_cons_known {known : List Entry} {entry : Entry} (h : entry ∈ known)
    (rest : List Entry) : addNew known (entry :: rest) = addNew known rest := by
  rw [addNew, if_pos h]

theorem addNew_cons_new {known : List Entry} {entry : Entry} (h : entry ∉ known)
    (rest : List Entry) : addNew known (entry :: rest) = addNew (known ++ [entry]) rest := by
  rw [addNew, if_neg h]

/-- The entries of `a`, then those of `b` that are new. -/
def merged (a b : AllowList) : AllowList := ⟨addNew a.entries b.entries⟩

/-- Whether some entry admits the address. -/
def admits (list : AllowList) (address : String) : Bool :=
  list.entries.any fun entry => entry.covers address

/-- The entries that admit nothing. -/
def malformed (list : AllowList) : List Entry := list.entries.filter Entry.isMalformed

theorem admits_iff {list : AllowList} {address : String} :
    list.admits address = true ↔ ∃ entry ∈ list.entries, entry.covers address = true := by
  simp [admits]

end AllowList
end HolidayApi.Access
