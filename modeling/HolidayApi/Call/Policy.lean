import HolidayApi.Text.Split

/-! # Trace policies

    Which operations are traced: those whose name fits one of the patterns,
    except for those that are excluded by name. In a pattern `*` stands for
    any run of characters.

    A pattern is matched part by part between its stars. Each middle part is
    taken where it occurs first, which leaves the most text for the parts
    after it.
-/

namespace HolidayApi.Call

/-! ### Patterns -/

/-- Whether the parts between the stars occur one after another in the text,
    the last of them at its end. -/
def partsOccur (last : List Char) : List (List Char) → List Char → Bool
  | [], text => last.isSuffixOf text
  | part :: parts, text =>
    match Text.afterFirst part text with
    | some rest => partsOccur last parts rest
    | none => false

/-- Whether the pattern fits the whole text. -/
def patternFits (pattern text : List Char) : Bool :=
  match Text.splitOn '*' pattern with
  | [] => false
  | first :: parts =>
    match first.isPrefixOf? text, parts.getLast? with
    | none, _ => false
    | some rest, none => rest.isEmpty
    | some rest, some last => partsOccur last parts.dropLast rest

/-! ### Policies -/

/-- The choice of the operations that are traced. -/
structure Policy where
  /-- The patterns of names that are traced. -/
  included : List String
  /-- The names that are not traced, whatever the patterns say. -/
  excluded : List String
  deriving DecidableEq, Repr

namespace Policy

/-- Traces the operations of controllers and services. -/
def standard : Policy := ⟨["*Controller.*", "*Service.*"], []⟩

/-- Traces nothing. -/
def disabled : Policy := ⟨[], []⟩

/-- Whether the operation is traced. -/
def selects (policy : Policy) (operation : String) : Bool :=
  !policy.excluded.contains operation
    && policy.included.any fun pattern => patternFits pattern.toList operation.toList

end Policy
end HolidayApi.Call
