import HolidayApi.Text.Utf8

/-! # Message headers

    The headers of a message in the order in which they came. Names do not
    distinguish small letters from capitals. A value is a string of bytes; it
    is readable text if it holds printable ASCII characters and tabs only.
-/

namespace HolidayApi.Net

/-- The headers of a message. -/
structure Headers where
  /-- Names in small letters, each with a value. -/
  fields : List (String × List UInt8) := []
  deriving DecidableEq, Repr

namespace Headers

/-- The small letters of an ASCII name. -/
def lower (name : String) : String := name.map Char.toLower

/-- Headers with these names and values. -/
def ofTexts (pairs : List (String × String)) : Headers :=
  ⟨pairs.map fun (name, value) => (lower name, Text.Utf8.encode value)⟩

/-- The value of the first header with this name, given in small letters. -/
def first? (headers : Headers) (name : String) : Option (List UInt8) :=
  headers.fields.lookup name

/-- A byte that readable text may hold. -/
def isReadable (b : UInt8) : Bool := b = 0x09 || (0x20 ≤ b && b ≤ 0x7E)

/-- The characters of a readable value. -/
def readable? (value : List UInt8) : Option (List Char) :=
  if value.all isReadable then some (value.map fun b => Char.ofNat b.toNat) else none

/-- The readable text of the first header with this name. -/
def text? (headers : Headers) (name : String) : Option (List Char) :=
  (headers.first? name).bind readable?

end Headers
end HolidayApi.Net
