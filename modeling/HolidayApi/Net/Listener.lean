import HolidayApi.Net.Endpoint

/-! # Addresses of listeners

    A listener is asked for by an endpoint or by a host and a port. A host is
    the name of the machine itself or an address without brackets; the
    classical notation of IPv4 addresses is understood here, in which the
    last of one to four numerals fills all octets that are left.
-/

namespace HolidayApi.Net.Listener

/-- The digits of a numeral, and the base in which they are written: after
    `0x` sixteen, after another zero eight, else ten. -/
def based : List Char → Nat × List Char
  | '0' :: 'x' :: cs | '0' :: 'X' :: cs => (16, cs)
  | '0' :: c :: cs => (8, c :: cs)
  | cs => (10, cs)

/-- The value of a classical numeral. -/
def numeral? (cs : List Char) : Option Nat :=
  let (radix, digits) := based cs
  if digits.isEmpty then none
  else (digits.mapM (Text.digitValue? radix)).map fun values =>
    values.foldl (fun n v => n * radix + v) 0

/-- The value of the numerals of a classical address, with `octets` octets to
    fill: all but the last fill one octet each. -/
def fill : (octets : Nat) → List Nat → Option Nat
  | octets + 1, [last] => if last < 1 <<< (8 * (octets + 1)) then some last else none
  | octets + 1, n :: rest =>
    if n < 256 then (fill octets rest).map fun value => n <<< (8 * octets) + value else none
  | _, _ => none

/-- The address that a text in classical notation denotes. -/
def classical? (cs : List Char) : Option Ipv4 := do
  let numerals ← (Text.splitOn '.' cs).mapM numeral?
  return .ofNat 32 (← fill 4 numerals)

/-- The address of a host. -/
def host? (cs : List Char) : Option IpAddress :=
  if cs.map Char.toLower = "localhost".toList then some (.v4 0x7F000001)
  else
    match classical? cs with
    | some address => some (.v4 address)
    | none =>
      match Endpoint.takeIpv6 cs with
      | some (address, []) => some (.v6 address)
      | _ => none

/-- The endpoint of the listener that a text asks for. The port stands after
    the last colon. -/
def parse? (text : String) : Option Endpoint :=
  match Endpoint.parse? text with
  | some endpoint => some endpoint
  | none => do
    let (port, host) ← Text.cutAt ':' text.toList.reverse
    let address ← host? host.reverse
    let port ← Text.natural? 0xFFFF port.reverse
    return { address, port := .ofNat 16 port }

end HolidayApi.Net.Listener
