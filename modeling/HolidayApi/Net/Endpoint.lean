import HolidayApi.Net.Ipv6

/-! # Socket addresses

    An endpoint is an address with a port, written `1.2.3.4:80` or
    `[::1]:80`. The notation is strict where allow lists are lenient: octets
    have at most three digits and no leading zero, groups at most four
    digits; only the port and the scope number may begin with zeros.
-/

namespace HolidayApi.Net

/-- The address of a peer or of a listener. -/
inductive IpAddress where
  | v4 (address : Ipv4)
  | v6 (address : Ipv6)
  deriving DecidableEq, Repr

namespace IpAddress

/-- An IPv4 address in IPv6 form is that IPv4 address. -/
def canonical : IpAddress → IpAddress
  | .v4 a => .v4 a
  | .v6 a => match a.mapped? with
    | some inner => .v4 inner
    | none => .v6 a

/-- Whether the address stands for all addresses of the machine. -/
def isUnspecified : IpAddress → Bool
  | .v4 a => a = 0
  | .v6 a => a = 0

/-- The canonical notation of the address. -/
def text : IpAddress → String
  | .v4 a => a.text
  | .v6 a => a.text

end IpAddress

/-- An address with a port. -/
structure Endpoint where
  /-- The address. -/
  address : IpAddress
  /-- The port. -/
  port : BitVec 16
  /-- The scope of an IPv6 address, or zero. -/
  scope : BitVec 32 := 0
  deriving DecidableEq, Repr

namespace Endpoint

/-! ### Reading -/

/-- The number at the front: as many digits as there are, refused if there is
    none, if there are more than `width`, if a leading zero is not allowed,
    or if the value is above `bound`. -/
def takeNumber (radix : Nat) (width : Option Nat) (zeroFirst : Bool) (bound : Nat)
    (cs : List Char) : Option (Nat × List Char) :=
  let run := cs.takeWhile fun c => (Text.digitValue? radix c).isSome
  let value := run.foldl (fun n c => n * radix + (Text.digitValue? radix c).getD 0) 0
  if run.isEmpty || width.any (· < run.length) then none
  else if !zeroFirst && run.head? == some '0' && 1 < run.length then none
  else if bound < value then none
  else some (value, cs.drop run.length)

/-- The rest after the character `c`. -/
def takeChar (c : Char) : List Char → Option (List Char)
  | d :: rest => if d = c then some rest else none
  | [] => none

/-- The dotted address at the front. -/
def takeIpv4 (cs : List Char) : Option (Ipv4 × List Char) := do
  let (a, cs) ← takeNumber 10 (some 3) false 255 cs
  let (b, cs) ← takeNumber 10 (some 3) false 255 (← takeChar '.' cs)
  let (c, cs) ← takeNumber 10 (some 3) false 255 (← takeChar '.' cs)
  let (d, cs) ← takeNumber 10 (some 3) false 255 (← takeChar '.' cs)
  return (.ofOctets (.ofNat 8 a) (.ofNat 8 b) (.ofNat 8 c) (.ofNat 8 d), cs)

/-- The groups at the front, at most `limit`, with a flag that says whether
    the last two came from a dotted address. That form needs room for two
    groups and ends the list. -/
def takeGroups : (limit : Nat) → (first : Bool) → List Char →
    List (BitVec 16) × Bool × List Char
  | 0, _, cs => ([], false, cs)
  | limit + 1, first, cs =>
    match (if first then some cs else takeChar ':' cs) with
    | none => ([], false, cs)
    | some inner =>
      match (if 0 < limit then takeIpv4 inner else none) with
      | some (quad, rest) => ([quad.extractLsb' 16 16, quad.extractLsb' 0 16], true, rest)
      | none =>
        match takeNumber 16 (some 4) true 0xFFFF inner with
        | none => ([], false, cs)
        | some (g, rest) =>
          let (gs, dotted, rest) := takeGroups limit false rest
          (.ofNat 16 g :: gs, dotted, rest)

/-- The address at the front: eight groups, or two runs of groups with `::`
    for at least one zero group between them. -/
def takeIpv6 (cs : List Char) : Option (Ipv6 × List Char) :=
  let (head, dotted, rest) := takeGroups 8 true cs
  if head.length = 8 then some (.ofGroups head, rest)
  else if dotted then none
  else do
    let rest ← takeChar ':' rest
    let rest ← takeChar ':' rest
    let (tail, _, rest) := takeGroups (7 - head.length) true rest
    let zeros := List.replicate (8 - head.length - tail.length) 0
    return (.ofGroups (head ++ zeros ++ tail), rest)

/-- The port at the front, after its colon. -/
def takePort (cs : List Char) : Option (BitVec 16 × List Char) := do
  let (port, rest) ← takeNumber 10 none true 0xFFFF (← takeChar ':' cs)
  return (.ofNat 16 port, rest)

/-- An IPv4 endpoint at the front. -/
def takeV4 (cs : List Char) : Option (Endpoint × List Char) := do
  let (address, rest) ← takeIpv4 cs
  let (port, rest) ← takePort rest
  return ({ address := .v4 address, port }, rest)

/-- The scope number at the front, if there is one. -/
def takeScope (cs : List Char) : BitVec 32 × List Char :=
  match (takeChar '%' cs).bind (takeNumber 10 none true 0xFFFFFFFF) with
  | some (scope, rest) => (.ofNat 32 scope, rest)
  | none => (0, cs)

/-- An IPv6 endpoint at the front. -/
def takeV6 (cs : List Char) : Option (Endpoint × List Char) := do
  let (address, rest) ← takeIpv6 (← takeChar '[' cs)
  let (scope, rest) := takeScope rest
  let (port, rest) ← takePort (← takeChar ']' rest)
  return ({ address := .v6 address, port, scope }, rest)

/-- The endpoint that a whole text denotes. -/
def parse? (text : String) : Option Endpoint := do
  let (endpoint, rest) ← takeV4 text.toList <|> takeV6 text.toList
  if rest.isEmpty then some endpoint else none

/-! ### Writing -/

/-- The notation of the endpoint; a scope of zero is not shown. -/
def text (e : Endpoint) : String :=
  match e.address with
  | .v4 a => a.text ++ ":" ++ toString e.port.toNat
  | .v6 a =>
    let scope := if e.scope = 0 then "" else "%" ++ toString e.scope.toNat
    "[" ++ a.text ++ scope ++ "]:" ++ toString e.port.toNat

/-! ### Listening -/

/-- Whether a listener at one of the endpoints leaves no room for one at the
    other: they have the same port, and the same address or one of them stands
    for all addresses. On port zero each listener gets a port of its own. -/
def excludes (a b : Endpoint) : Bool :=
  a.port ≠ 0 && a.port = b.port
    && (a.address.isUnspecified || b.address.isUnspecified
      || a.address.canonical = b.address.canonical)

end Endpoint
end HolidayApi.Net
