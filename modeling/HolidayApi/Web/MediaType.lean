import HolidayApi.Net.Headers

/-! # Media types

    A body is taken for JSON if its media type says so: the type has to be
    `application`, and the subtype `json` or anything that ends in `+json`.
    Letters may be small or capital, and parameters are allowed as long as
    they are well-formed.
-/

namespace HolidayApi.Web.MediaType

/-- A character of names and of values without quotes. -/
def isToken (c : Char) : Bool :=
  c.isAlphanum || "!#$%&'*+-.^_\x60|~".toList.contains c

/-- A character of values in quotes. -/
def isQuotable (c : Char) : Bool := 0x20 ≤ c.toNat && c.toNat ≠ 0x7F

/-! ### Parameters -/

/-- Where a reader of parameters stands. -/
inductive Place where
  /-- Before a name. -/
  | before
  /-- In a name. -/
  | name
  /-- After the equals sign. -/
  | equals
  /-- In a value without quotes. -/
  | value
  /-- After an opening quote. -/
  | opened
  /-- In a value in quotes. -/
  | quoted
  /-- After a closing quote. -/
  | closed
  deriving DecidableEq, Repr

namespace Place

/-- The place after one more character. A value in quotes has at least one
    character, so a quote right after the opening one belongs to it. -/
def step (place : Place) (c : Char) : Option Place :=
  match place with
  | before => if c = ' ' then some before else if isToken c then some name else none
  | name => if c = '=' then some equals else if isToken c then some name else none
  | equals => if c = '"' then some opened else if isToken c then some value else none
  | value => if c = ';' then some before else if isToken c then some value else none
  | opened => if isQuotable c then some quoted else none
  | quoted => if c = '"' then some closed else if isQuotable c then some quoted else none
  | closed => if c = ';' then some before else if c = ' ' then some closed else none

/-- Whether the parameters may end here. -/
def isEnd : Place → Bool
  | before | equals | value | closed => true
  | name | opened | quoted => false

end Place

/-- Whether parameters are well-formed. -/
def parametersOk (cs : List Char) : Bool := (cs.foldlM Place.step .before).any Place.isEnd

/-! ### The type itself -/

/-- A subtype without its suffix, and the suffix after the last plus sign. A
    plus sign at the front is no such sign. -/
def suffixed (subtype : List Char) : List Char × Option (List Char) :=
  let suffix := subtype.reverse.takeWhile (· ≠ '+')
  let rest := subtype.reverse.drop (suffix.length + 1)
  if suffix.length = subtype.length ∨ rest.isEmpty then (subtype, none)
  else (rest.reverse, some suffix.reverse)

/-- Whether a subtype is that of JSON. -/
def isJsonSubtype (subtype : List Char) : Bool :=
  let (base, suffix) := suffixed (subtype.map Char.toLower)
  base = "json".toList || suffix = some "json".toList

/-- Whether a media type is that of JSON. -/
def isJson (text : List Char) : Bool :=
  let type := text.takeWhile isToken
  match text.drop type.length with
  | '/' :: rest =>
    let subtype := rest.takeWhile isToken
    let wellFormed := match rest.drop subtype.length with
      | [] => true
      | c :: parameters =>
        c = ';' && !subtype.isEmpty && parametersOk parameters
    type.map Char.toLower = "application".toList && wellFormed && isJsonSubtype subtype
  | _ => false

/-- Whether the headers say that the body is JSON. -/
def saysJson (headers : Net.Headers) : Bool :=
  (headers.text? "content-type").any isJson

end HolidayApi.Web.MediaType
