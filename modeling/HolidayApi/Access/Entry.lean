import HolidayApi.Net.Ipv4

/-! # Entries of an allow list

    An entry is written as one text:

    * `*` admits everything;
    * `base/length` admits the addresses of a block, those that share the
      first `length` bits with `base`;
    * four parts between dots, some of them with stars, admit the texts whose
      parts are the same, where a part `*` stands for any part;
    * every other text admits itself.

    A text with a slash that is no block, or with a star that has not four
    parts, is malformed: it is kept as it was written and admits nothing.
-/

namespace HolidayApi.Access

/-- One entry of an allow list. -/
inductive Entry where
  /-- Every text. -/
  | any
  /-- This text alone. -/
  | exact (address : String)
  /-- Four parts, of which `*` stands for any. -/
  | wildcard (a b c d : String)
  /-- The addresses that agree with `base` in their first `length` bits. -/
  | block (base : Net.Ipv4) (length : Fin 33)
  /-- A text that means nothing. -/
  | malformed (raw : String)
  deriving DecidableEq, Repr

namespace Entry

/-! ### Reading and writing -/

/-- The block that a text with a slash denotes. The length is a numeral, so a
    second slash is refused with it. -/
def block? (raw : List Char) : Option Entry := do
  let (base, length) ← Text.cutAt '/' raw
  let length ← Text.natural? 32 length
  let base ← Net.Ipv4.value? base
  return .block base (Fin.ofNat 33 length)

/-- The wildcard that a text with a star denotes. -/
def wildcard? (raw : List Char) : Option Entry :=
  match Text.splitOn '.' raw with
  | [a, b, c, d] =>
    some (.wildcard (.ofList a) (.ofList b) (.ofList c) (.ofList d))
  | _ => none

/-- The entry that a text denotes. -/
def parse (raw : String) : Entry :=
  if raw = "*" then .any
  else if '/' ∈ raw.toList then (block? raw.toList).getD (.malformed raw)
  else if '*' ∈ raw.toList then (wildcard? raw.toList).getD (.malformed raw)
  else .exact raw

/-- The text of an entry; a block is shown in its canonical notation. -/
def text : Entry → String
  | any => "*"
  | exact address => address
  | wildcard a b c d =>
    String.ofList (Text.joinWith '.' [a.toList, b.toList, c.toList, d.toList])
  | block base length => base.text ++ "/" ++ String.ofList (Text.decimal length)
  | malformed raw => raw

/-! ### Deciding -/

/-- A part of a pattern covers the same part, and `*` covers every part. -/
def partCovers (pattern part : String) : Bool := pattern = "*" || pattern = part

/-- Whether the entry admits the address, where the mask of a block exists. -/
def covers? : Entry → String → Option Bool
  | any, _ => some true
  | exact expected, address => some (expected = address)
  | wildcard a b c d, address =>
    match (Text.splitOn '.' address.toList).map String.ofList with
    | [p, q, r, s] =>
      some (partCovers a p && partCovers b q && partCovers c r && partCovers d s)
    | _ => some false
  | block base length, address =>
    match Net.Ipv4.value? address.toList with
    | some value =>
      (Net.Ipv4.mask? length).map fun mask => value &&& mask = base &&& mask
    | none => some false
  | malformed _, _ => some false

/-- Whether the entry admits the address. -/
def covers (entry : Entry) (address : String) : Bool := entry.covers? address = some true

/-- Whether the entry is malformed. -/
def isMalformed : Entry → Bool
  | malformed _ => true
  | _ => false

end Entry
end HolidayApi.Access
