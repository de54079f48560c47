/-! # Ids of requests and traces

    An id is either a text that somebody handed in or one that this program
    made up. A made-up id is known by its place in the order of issue, which
    is all that equality of ids can show; its text is chosen where it is
    written.
-/

namespace HolidayApi.Call

/-- The id of a request or of a trace. -/
inductive Id where
  /-- An id that was handed in. -/
  | given (text : String)
  /-- The id that was issued as number `n`. -/
  | fresh (n : Nat)
  deriving DecidableEq, Repr

namespace Id

/-- Whether the id is the empty text, which names nothing. -/
def isEmpty : Id → Bool
  | given text => text = ""
  | fresh _ => false

/-- The id as a text, where `name` gives the texts of issued ids. -/
def text (name : Nat → String) : Id → String
  | given text => text
  | fresh n => name n

end Id
end HolidayApi.Call
