import HolidayApi.Access.AllowList
import HolidayApi.Net.Endpoint
import HolidayApi.Net.Headers
import HolidayApi.Text.Blank

/-! # Callers

    Who calls is decided by the peer of the connection. A peer that is
    trusted may name the caller on whose behalf it calls; what other peers
    say about that is not believed.
-/

namespace HolidayApi.Access.Caller

open HolidayApi.Net (Headers IpAddress)

/-- The caller of whom nothing is known. -/
def unknown : String := "unknown"

/-- The headers that name a caller, in the order in which they are asked. -/
def forwardingHeaders : List String :=
  ["x-forwarded-for", "proxy-client-ip", "wl-proxy-client-ip", "x-real-ip"]

/-- The text before the first comma, without blanks around it. -/
def firstHop (value : List Char) : List Char := Text.trim (value.takeWhile (· ≠ ','))

/-- A hop that names somebody: not empty, and not `unknown` in any letters. -/
def isName (hop : List Char) : Bool :=
  !hop.isEmpty && hop.map Char.toLower ≠ unknown.toList

/-- The caller that one header names. -/
def namedBy? (headers : Headers) (name : String) : Option String :=
  ((headers.text? name).map firstHop).bind fun hop =>
    if isName hop then some (String.ofList hop) else none

/-- The caller that the headers name. -/
def forwarded? (headers : Headers) : Option String :=
  forwardingHeaders.findSome? (namedBy? headers)

/-- The caller of a request. -/
def resolve (headers : Headers) (peer : Option IpAddress) (trusted : AllowList) : String :=
  match peer with
  | none => unknown
  | some peer =>
    let address := peer.canonical.text
    if trusted.admits address then (forwarded? headers).getD address else address

end HolidayApi.Access.Caller
