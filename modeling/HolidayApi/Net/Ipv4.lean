import HolidayApi.Text.Numeral

/-! # IPv4 addresses

    An address is its 32-bit value. Two notations of it are in use:

    * the lenient one of allow lists, `value?`: four numerals of at most 255
      between dots, each with an optional plus sign and leading zeros;
    * the canonical one, `text`, in which addresses are shown.

    The strict notation of socket addresses is read in `Net.Endpoint`.

    The addresses of a block share their first bits, those under `mask?`. A
    word can be moved by fewer places than it has bits only, so a mask whose
    making moves too far does not exist.
-/

namespace HolidayApi.Net

/-- An IPv4 address, its first octet in the highest bits. -/
abbrev Ipv4 := BitVec 32

namespace Ipv4

/-! ### Octets -/

/-- The address with these octets. -/
def ofOctets (a b c d : BitVec 8) : Ipv4 := a ++ b ++ c ++ d

/-- The octets from the highest to the lowest. -/
def octets (v : Ipv4) : List (BitVec 8) :=
  [v.extractLsb' 24 8, v.extractLsb' 16 8, v.extractLsb' 8 8, v.extractLsb' 0 8]

/-- The word with one more octet behind its bits; the highest octet makes room. -/
def push (v : Ipv4) (octet : BitVec 8) : Ipv4 := v <<< 8 ||| octet.setWidth 32

/-! ### Notations -/

/-- A numeral of at most 255. -/
def octet? (cs : List Char) : Option (BitVec 8) :=
  (Text.natural? 255 cs).map (BitVec.ofNat 8)

/-- Packs the octets that the parts denote behind the `count` octets of `v`.
    There must be four of them in the end, and a fifth part is not looked at. -/
def packFrom (count : Nat) (v : Ipv4) : List (List Char) → Option Ipv4
  | [] => if count = 4 then some v else none
  | part :: parts =>
    if count < 4 then
      (octet? part).bind fun octet => packFrom (count + 1) (v.push octet) parts
    else none

/-- The value of a text in the lenient notation. -/
def value? (text : List Char) : Option Ipv4 := packFrom 0 0 (Text.splitOn '.' text)

/-- The dotted notation without leading zeros. -/
def dotted (v : Ipv4) : List Char :=
  Text.joinWith '.' (v.octets.map fun o => Text.decimal o.toNat)

/-- The dotted notation as a text. -/
def text (v : Ipv4) : String := String.ofList v.dotted

/-! ### Blocks -/

/-- The word moved to the left. No word can be moved by 32 places or more. -/
def shiftLeft? (v : Ipv4) (places : Nat) : Option Ipv4 :=
  if places < 32 then some (v <<< places) else none

/-- The word of which the first `length` bits are set. -/
def mask? (length : Nat) : Option Ipv4 :=
  if length = 0 then some 0 else shiftLeft? (BitVec.allOnes 32) (32 - length)

end Ipv4
end HolidayApi.Net
