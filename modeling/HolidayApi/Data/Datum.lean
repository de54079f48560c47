import HolidayApi.Data.Json
import HolidayApi.Text.Quoted

/-! # Document data

    What a document holds, before it is known what it should mean. Documents
    come in three dialects: JSON text, a JSON value that was read before, and
    TOML. Records are read from all of them by the same decoders.

    A JSON text is judged while it is read, so its data may be unfinished:
    the reader stops at the first offence against the syntax, and what is
    wrong with the data before that place is found first. A container that
    is not `whole` ends at such an offence, and `broken` stands for a value
    that does not come to an end or is none. Where a document is unfinished,
    all containers around that place are.

    A number out of range and a string that is no text offend only if
    somebody looks at them.
-/

namespace HolidayApi.Data

/-- The kinds of documents. -/
inductive Dialect where
  | jsonText
  | jsonValue
  | toml
  deriving DecidableEq, Repr

/-- What a document holds. -/
inductive Datum where
  | null
  | boolean (b : Bool)
  | integer (n : Int)
  /-- A number with a fraction, unless it is out of range. -/
  | decimal (d : Option Double)
  /-- A string, unless it is no text. -/
  | text (t : Option String)
  /-- A date or time. -/
  | stamp
  | sequence (items : List Datum) (whole : Bool)
  /-- A sequence of tables, each under a header of its own. -/
  | tables (items : List Datum)
  | mapping (entries : List (Option String × Datum)) (whole : Bool)
  /-- An offence against the syntax. -/
  | broken
  deriving Repr

namespace Datum

/-- Whether the value comes to an end. -/
def isWhole : Datum → Bool
  | sequence _ whole | mapping _ whole => whole
  | broken => false
  | _ => true

/-- A number with a fraction as messages show it. -/
def decimalText : Dialect → Double → String
  | .toml, d => d.positional
  | _, d => d.compact

/-- What messages call the value, unless it offends against the syntax. -/
def described (dialect : Dialect) : Datum → Option String
  | null => some "null"
  | boolean b => some ("boolean \x60" ++ (if b then "true" else "false") ++ "\x60")
  | integer n => some ("integer \x60" ++ String.ofList (Json.integer n) ++ "\x60")
  | decimal d => d.map fun d => "floating point \x60" ++ decimalText dialect d ++ "\x60"
  | text t => t.map fun t => "string " ++ Text.quote t
  | stamp | mapping .. => some "map"
  | sequence .. | tables _ => some "sequence"
  | broken => none

end Datum

mutual

/-- The data of a JSON value. -/
def Json.datum : Json → Datum
  | .null => .null
  | .bool b => .boolean b
  | .int n => .integer n
  | .decimal d => .decimal (some d)
  | .text s => .text (some s)
  | .list items => .sequence (Json.itemData items) true
  | .object members => .mapping (Json.memberData members) true

/-- The data of the items of a JSON value. -/
def Json.itemData : List Json → List Datum
  | [] => []
  | item :: items => item.datum :: Json.itemData items

/-- The data of the members of a JSON value. -/
def Json.memberData : List (String × Json) → List (Option String × Datum)
  | [] => []
  | (key, value) :: members => (some key, value.datum) :: Json.memberData members

end

end HolidayApi.Data
