import HolidayApi.Text.Utf8

/-! # Percent-encoded text

    A path is taken apart as it was sent; a part that stands for a value is
    then decoded. An escape that is not `%` with two hexadecimal digits stays
    as it is.
-/

namespace HolidayApi.Text.Percent

/-- The value of a hexadecimal digit. -/
def hexValue? (b : UInt8) : Option UInt8 :=
  if 0x30 ≤ b ∧ b ≤ 0x39 then some (b - 0x30)
  else if 0x41 ≤ b ∧ b ≤ 0x46 then some (b - 0x37)
  else if 0x61 ≤ b ∧ b ≤ 0x66 then some (b - 0x57)
  else none

/-- The bytes with every escape replaced by the byte that it names. -/
def decodeBytes : List UInt8 → List UInt8
  | [] => []
  | 0x25 :: hi :: lo :: rest =>
    match hexValue? hi, hexValue? lo with
    | some h, some l => (h * 16 + l) :: decodeBytes rest
    | _, _ => 0x25 :: decodeBytes (hi :: lo :: rest)
  | b :: rest => b :: decodeBytes rest

/-- The text that an encoded part stands for, unless the bytes are no text. -/
def decode? (part : String) : Option String :=
  (Utf8.decode? (decodeBytes (Utf8.encode part))).map String.ofList

end HolidayApi.Text.Percent
