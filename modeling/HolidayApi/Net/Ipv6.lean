import HolidayApi.Net.Ipv4

/-! # IPv6 addresses

    An address is its 128-bit value, shown as eight hexadecimal groups with
    the first of the longest runs of zero groups left out. An address that
    carries an IPv4 address stands for that one wherever callers are compared.
-/

namespace HolidayApi.Net

/-- An IPv6 address, its first group in the highest bits. -/
abbrev Ipv6 := BitVec 128

namespace Ipv6

/-- The address with these groups, the first in the highest bits. -/
def ofGroups (groups : List (BitVec 16)) : Ipv6 :=
  groups.foldl (fun value g => value <<< 16 ||| g.zeroExtend 128) 0

/-- The eight groups from the highest to the lowest. -/
def groups (v : Ipv6) : List (BitVec 16) :=
  (List.range 8).map fun i => v.extractLsb' (16 * (7 - i)) 16

/-- The IPv4 address in the low half of a mapped address: ten zero bytes,
    two bytes of ones, and the address. -/
def mapped? (v : Ipv6) : Option Ipv4 :=
  if v.extractLsb' 32 96 = 0xFFFF then some (v.extractLsb' 0 32) else none

/-- The number of zero groups at the front. -/
def zerosAtFront (gs : List (BitVec 16)) : Nat := (gs.takeWhile (· == 0)).length

/-- Place and length of the longest run of zero groups, the first of equals. -/
def longestZeros (gs : List (BitVec 16)) : Nat × Nat :=
  (List.range gs.length).foldl
    (fun best i =>
      let run := zerosAtFront (gs.drop i)
      if best.2 < run then (i, run) else best)
    (0, 0)

/-- Hexadecimal groups between colons. -/
def hexGroups (gs : List (BitVec 16)) : List Char :=
  Text.joinWith ':' (gs.map fun g => Nat.toDigits 16 g.toNat)

/-- The canonical notation. A single zero group is not left out, and a mapped
    address ends in the dotted notation. -/
def text (v : Ipv6) : String :=
  match v.mapped? with
  | some v4 => "::ffff:" ++ v4.text
  | none =>
    let gs := v.groups
    let (start, run) := longestZeros gs
    if 1 < run then
      String.ofList (hexGroups (gs.take start) ++ [':', ':']
        ++ hexGroups (gs.drop (start + run)))
    else String.ofList (hexGroups gs)

end Ipv6
end HolidayApi.Net
