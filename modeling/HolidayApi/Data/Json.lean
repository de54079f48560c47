import HolidayApi.Data.Double

/-! # JSON values

    The values that answers and reports are made of, and their text. A text
    is written without blanks; in a string the quote, the backslash and the
    control characters are escaped.
-/

namespace HolidayApi.Data

/-- A JSON value. -/
inductive Json where
  | null
  | bool (b : Bool)
  | int (n : Int)
  | decimal (d : Double)
  | text (s : String)
  | list (items : List Json)
  | object (members : List (String × Json))
  deriving Repr, Inhabited

namespace Json

/-! ### Building and looking up -/

/-- A natural number. -/
def nat (n : Nat) : Json := int n

/-- A list of texts. -/
def texts (items : List String) : Json := list (items.map text)

/-- The first member with this key. -/
def member? : Json → String → Option Json
  | object members, key => members.lookup key
  | _, _ => none

/-! ### Writing -/

/-- A control character by its number. -/
def controlEscape (c : Char) : List Char :=
  let digits := Nat.toDigits 16 c.toNat
  ['\\', 'u'] ++ List.replicate (4 - digits.length) '0' ++ digits

/-- A character as it stands in a string. -/
def escapeChar (c : Char) : List Char :=
  if c = '"' then ['\\', '"']
  else if c = '\\' then ['\\', '\\']
  else if c = '\x08' then ['\\', 'b']
  else if c = '\t' then ['\\', 't']
  else if c = '\n' then ['\\', 'n']
  else if c = '\x0c' then ['\\', 'f']
  else if c = '\r' then ['\\', 'r']
  else if c.toNat < 0x20 then controlEscape c
  else [c]

/-- A string in quotes. -/
def quoted (s : String) : List Char := '"' :: s.toList.flatMap escapeChar ++ ['"']

/-- An integer in decimal digits. -/
def integer (n : Int) : List Char :=
  if n < 0 then '-' :: Text.decimal n.natAbs else Text.decimal n.natAbs

mutual

/-- The text of a value. -/
def chars : Json → List Char
  | null => "null".toList
  | bool b => if b then "true".toList else "false".toList
  | int n => integer n
  | decimal d => d.compact.toList
  | text s => quoted s
  | list items => '[' :: itemChars items ++ [']']
  | object members => '\x7b' :: memberChars members ++ ['\x7d']

/-- The texts of the items with commas between them. -/
def itemChars : List Json → List Char
  | [] => []
  | [item] => chars item
  | item :: next :: items => chars item ++ ',' :: itemChars (next :: items)

/-- The texts of the members with commas between them. -/
def memberChars : List (String × Json) → List Char
  | [] => []
  | [(key, value)] => quoted key ++ ':' :: chars value
  | (key, value) :: next :: members =>
    quoted key ++ ':' :: (chars value ++ ',' :: memberChars (next :: members))

end

/-- The text of a value. -/
def write (json : Json) : String := String.ofList json.chars

end Json
end HolidayApi.Data
