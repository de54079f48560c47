import HolidayApi.Call.Event
import HolidayApi.Text.Blank
import HolidayApi.Text.Pattern
import HolidayApi.Text.Utf8

/-! # Log filters

    A filter says down to which detail the events of a target are logged. It
    is written as a list of directives between commas, each a level or a
    target with a level. In brackets a directive may be bound to a log span,
    or in braces within them to a field that the event has to have.

    A directive is taken apart without the blanks around it, but what is
    found is then cut out of the text with the blanks, at places counted in
    bytes. So behind blanks every part is shifted, and a place may come to
    lie within a character.

    The directive with the longest target that the target of an event begins
    with decides; an event for which none decides is not logged.
-/

namespace HolidayApi.Daemon

open HolidayApi.Call (Event)

/-- The detail down to which events are logged whose target begins with a
    text; zero is nothing. -/
structure Directive where
  /-- The beginning of the targets; empty for all. -/
  target : String
  /-- The field that the events have to have. -/
  field : Option String := none
  /-- The detail. -/
  detail : Nat
  deriving DecidableEq, Repr

/-- A list of directives, the latest first. -/
structure Filter where
  directives : List Directive
  deriving DecidableEq, Repr

namespace Filter

/-! ### Parts of a directive -/

/-- Why a text is no filter. -/
inductive Unreadable where
  /-- It does not follow the rules. -/
  | malformed
  /-- A part would begin or end within a character. -/
  | torn
  deriving DecidableEq, Repr

/-- The detail of a level, given by name or by number. -/
def detail? (level : List Char) : Option Nat :=
  match Text.natural? 5 level with
  | some detail => some detail
  | none =>
    [("off", 0), ("error", 1), ("warn", 2), ("info", 3), ("debug", 4), ("trace", 5)].lookup
      (String.ofList (level.map Char.toLower))

/-- The detail of the level that ends a directive; without one it is full. -/
def closingDetail? (level : List Char) : Option Nat :=
  if level.isEmpty then some 5 else detail? level

/-- A character with which a directive may begin. -/
def isInitial (c : Char) : Bool :=
  c = '[' || c = '-' || c = ':' || c = '_' || Text.isAlphanumeric c

/-- Whether a text is the value of a field: a number, or a pattern of texts. -/
def isFieldValue (value : List Char) : Bool := Text.isReal value || Text.Pattern.isPattern value

/-! ### Taking a directive apart -/

/-- What is read next, with the place in bytes where it began. -/
inductive Stage where
  /-- The first character. -/
  | first
  /-- A target, or a level alone. -/
  | target
  /-- The name of a span. -/
  | span (start : Nat)
  /-- A field with perhaps a value. -/
  | field (start : Nat)
  /-- The bracket after a field. -/
  | bracket
  /-- A level or the end. -/
  | bound
  /-- A level. -/
  | level (start : Nat)
  deriving DecidableEq, Repr

/-- A directive of which the front was read. -/
structure Reading where
  /-- What is read next. -/
  stage : Stage := .first
  /-- The target; empty for all. -/
  target : List Char := []
  /-- The field that an event has to have. -/
  field : Option (List Char) := none
  /-- Whether the directive is bound to the name of a span or to the value of
      a field. -/
  ofSpans : Bool := false
  deriving DecidableEq, Repr

/-- The characters of the whole text between two places. -/
def part (whole : List Char) (start stop : Nat) : Except Unreadable (List Char) :=
  match Text.Utf8.cut? start stop whole with
  | some part => .ok part
  | none => .error .torn

/-- The name and perhaps the value of a field. What follows a second equals
    sign does not count. -/
def Reading.withField (r : Reading) (field : List Char) : Except Unreadable Reading :=
  match Text.splitOn '=' field with
  | [name] =>
    if name.isEmpty then .error .malformed else .ok { r with stage := .bracket, field := some name }
  | _ :: value :: _ =>
    if isFieldValue value then .ok { r with stage := .bracket, ofSpans := true }
    else .error .malformed
  | [] => .error .malformed

/-- Reads the character at a place. -/
def Reading.next (whole : List Char) (r : Reading) (place : Nat) (c : Char) :
    Except Unreadable Reading :=
  match r.stage with
  | .first =>
    if c = '[' then .ok { r with stage := .span (place + 1) }
    else if isInitial c then .ok { r with stage := .target }
    else .error .malformed
  | .target =>
    if c = '=' then return { r with stage := .level (place + 1), target := ← part whole 0 place }
    else if c = '[' then
      return { r with stage := .span (place + 1), target := ← part whole 0 place }
    else .ok r
  | .span start =>
    if c = ']' then do
      let _ ← part whole start place
      return { r with stage := .bound, ofSpans := true }
    else if c = '\x7b' then do
      let span ← part whole start place
      return { r with stage := .field (place + 1), ofSpans := !span.isEmpty }
    else .ok r
  | .field start =>
    if c = '\x7d' then do r.withField (← part whole start place) else .ok r
  | .bracket => if c = ']' then .ok { r with stage := .bound } else .error .malformed
  | .bound => if c = '=' then .ok { r with stage := .level (place + 1) } else .error .malformed
  | .level _ => .ok r

/-- Reads the characters from a place on. -/
def Reading.all (whole : List Char) (r : Reading) (place : Nat) :
    List Char → Except Unreadable Reading
  | [] => .ok r
  | c :: cs => do (← r.next whole place c).all whole (place + c.utf8Size) cs

/-- The directive that was read; nothing where it is bound to a span or to
    the value of a field, for events have neither. -/
def Reading.directive (r : Reading) (detail : Nat) : Option Directive :=
  if r.ofSpans then none
  else some ⟨String.ofList r.target, r.field.map String.ofList, detail⟩

/-- The directive that a text denotes. A text that is no level is a target
    that is logged in full detail. -/
def directive? (whole : List Char) : Except Unreadable (Option Directive) := do
  let r ← ({} : Reading).all whole 0 (Text.trim whole)
  match r.stage with
  | .target =>
    match detail? whole with
    | some detail => return r.directive detail
    | none => return { r with target := whole }.directive 5
  | .bound => return r.directive 5
  | .level start =>
    match closingDetail? (← part whole start (Text.Utf8.size whole)) with
    | some detail => return r.directive detail
    | none => .error .malformed
  | _ => .error .malformed

/-! ### Reading a filter -/

/-- The filter that a text denotes. Without any directive only errors are
    logged. -/
def parse (text : String) : Except Unreadable Filter := do
  let parts := (Text.splitOn ',' text.toList).filter fun part => !part.isEmpty
  let directives ← parts.mapM directive?
  return ⟨if directives.isEmpty then [⟨"", none, 1⟩] else (directives.filterMap id).reverse⟩

/-- The filter for the events of the program and of its HTTP layer at the
    detail of a level. -/
def ofLevel (level : String) : Filter :=
  match parse ("skeleton_api=" ++ level ++ ",tower_http=" ++ level) with
  | .ok filter => filter
  | .error _ => ⟨[]⟩

/-- The filter that the environment asks for if that follows the rules, else
    the one for the level of the settings. Nothing can be logged where what
    the environment asks for is torn. -/
def choose? (asked : Option String) (level : String) : Option Filter :=
  match asked.map parse with
  | some (.ok filter) => some filter
  | some (.error .torn) => none
  | some (.error .malformed) | none => some (ofLevel level)

/-! ### Deciding -/

/-- Whether the directive concerns an event. -/
def Directive.concerns (d : Directive) (e : Event) : Bool :=
  d.target.toList.isPrefixOf e.target.toList && d.field.all e.hasField

/-- Whether a directive goes before another one that concerns the same event:
    the longer target does, then the presence of a field, then the greater
    name of the field. -/
def Directive.precedes (d other : Directive) : Bool :=
  if d.target.length ≠ other.target.length then other.target.length < d.target.length
  else
    match d.field, other.field with
    | some f, some g => g < f
    | some _, none => true
    | none, _ => false

/-- The directive that decides about an event; of equals the latest. -/
def deciding (f : Filter) (e : Event) : Option Directive :=
  (f.directives.filter fun d => Directive.concerns d e).foldl
    (fun best d =>
      match best with
      | none => some d
      | some b => if Directive.precedes d b then some d else some b)
    none

/-- Whether an event is logged. -/
def admits (f : Filter) (e : Event) : Bool :=
  (f.deciding e).any fun d => e.severity.detail ≤ d.detail

end Filter
end HolidayApi.Daemon
