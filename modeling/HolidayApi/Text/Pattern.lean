import HolidayApi.Text.Alphanumeric
import HolidayApi.Text.Blank
import HolidayApi.Text.Numeral

/-! # Regular expressions

    Whether a text is a regular expression that an automaton can be built
    for. The notation has alternatives, groups with names and flags, classes
    in brackets, the operators `*`, `+` and `?`, and escapes.

    The automaton knows the characters of Unicode, but not their properties.
    So letter case, the classes `\d`, `\s` and `\w`, and the borders of words
    can be had only where the flag `u` is switched off. There, in turn, all
    that could match a byte outside of ASCII is refused, and with it whatever
    is negated.

    Forms in braces are not part of the notation: where these expressions
    are used, a text ends before its first closing brace.
-/

namespace HolidayApi.Text.Pattern

/-! ### Flags -/

/-- The flags on which it depends what is valid. -/
structure Mode where
  /-- Letters stand for their other case, too (`i`). -/
  caseless : Bool := false
  /-- Characters are those of Unicode (`u`). -/
  unicode : Bool := true
  /-- Blanks and comments do not count (`x`). -/
  spaced : Bool := false
  deriving DecidableEq, Repr

namespace Mode

/-- The mode with a flag switched on or off; nothing for an unknown flag. -/
def set? (mode : Mode) (flag : Char) (on : Bool) : Option Mode :=
  match flag with
  | 'i' => some { mode with caseless := on }
  | 'u' => some { mode with unicode := on }
  | 'x' => some { mode with spaced := on }
  | 'm' | 's' | 'U' | 'R' => some mode
  | _ => none

/-- Whether letter case would have to be known. -/
def needsCase (mode : Mode) : Bool := mode.caseless && mode.unicode

end Mode

/-- The text after a comment up to the end of its line. -/
def skipComment (cs : List Char) : List Char := (cs.dropWhile (· ≠ '\n')).drop 1

/-- The text after the blanks and comments at its front, where these do not
    count. A comment holds at least its hash sign, so `fuel` is the length. -/
def skipFrom : (fuel : Nat) → List Char → List Char
  | 0, cs => cs
  | fuel + 1, cs =>
    match trimStart cs with
    | '#' :: rest => skipFrom fuel (skipComment rest)
    | cs => cs

/-- The text after what does not count at its front. -/
def Mode.skip (mode : Mode) (cs : List Char) : List Char :=
  if mode.spaced then skipFrom (cs.length + 1) cs else cs

/-- The flags up to a colon or a closing bracket: the mode they make of
    `mode`, whether there are any, and the text from the mark on. Each may be
    given once, and those after a hyphen are switched off. -/
def flags? (mode : Mode) (seen : List Char) (on : Bool) :
    List Char → Option (Mode × Bool × List Char)
  | [] => none
  | c :: rest =>
    if c = ':' ∨ c = ')' then
      if seen.head? = some '-' then none else some (mode, !seen.isEmpty, c :: rest)
    else if seen.contains c then none
    else if c = '-' then flags? mode (c :: seen) false rest
    else (mode.set? c on).bind fun mode => flags? mode (c :: seen) on rest

/-! ### Single characters -/

/-- What an escape stands for. -/
inductive Escape where
  /-- A character; whether it was written as a byte. -/
  | char (c : Char) (byte : Bool)
  /-- Digits, blanks or word characters, or all but these. -/
  | chars (negated : Bool)
  /-- A place in the text; whether that is the border of a word. -/
  | place (ofWord : Bool)

/-- The value of so many hexadecimal digits, after the value so far. -/
def hex? (mode : Mode) (value : Nat) : (count : Nat) → List Char → Option (Nat × List Char)
  | 0, cs => some (value, cs)
  | count + 1, cs =>
    match mode.skip cs with
    | [] => none
    | c :: rest => (digitValue? 16 c).bind fun v => hex? mode (value * 16 + v) count rest

/-- The character whose number has so many hexadecimal digits. -/
def numbered? (mode : Mode) (byte : Bool) (count : Nat) (cs : List Char) :
    Option (Escape × List Char) := do
  let (n, rest) ← hex? mode 0 count cs
  if n.isValidChar then some (.char (.ofNat n) byte, mode.skip rest) else none

/-- The letters that stand for controls. -/
def controls : List (Char × Char) :=
  [('a', '\x07'), ('f', '\x0c'), ('t', '\t'), ('n', '\n'), ('r', '\r'), ('v', '\x0b')]

/-- The escape after a backslash. Punctuation stands for itself; digits and
    the other letters are kept for other uses. -/
def escape? (mode : Mode) : List Char → Option (Escape × List Char)
  | [] => none
  | 'x' :: rest => numbered? mode true 2 rest
  | 'u' :: rest => numbered? mode false 4 rest
  | 'U' :: rest => numbered? mode false 8 rest
  | c :: rest =>
    if "dsw".toList.contains c then some (.chars false, rest)
    else if "DSW".toList.contains c then some (.chars true, rest)
    else if "Az".toList.contains c then some (.place false, rest)
    else if "bB<>".toList.contains c then some (.place true, rest)
    else if let some control := controls.lookup c then some (.char control false, rest)
    else if 0x7F < c.toNat ∨ c.isAlphanum then none
    else some (.char c false, rest)

/-- Whether an escape may stand outside of classes. -/
def Escape.isValid (mode : Mode) : Escape → Bool
  | char c byte => if mode.unicode then !mode.caseless else !(byte && 0x7F < c.toNat)
  | chars negated => !mode.unicode && !negated
  | place ofWord => !(ofWord && mode.unicode)

/-! ### Classes -/

/-- The names of classes of ASCII characters. -/
def asciiClasses : List String :=
  ["alnum", "alpha", "ascii", "blank", "cntrl", "digit", "graph", "lower", "print", "punct",
   "space", "upper", "word", "xdigit"]

/-- The text after a named class such as `[:alpha:]`, whose first bracket is
    already read, and whether the class is negated. -/
def asciiClass? : List Char → Option (Bool × List Char)
  | ':' :: cs =>
    let negated := cs.head? = some '^'
    let cs := if negated then cs.drop 1 else cs
    let name := cs.takeWhile (· ≠ ':')
    match cs.drop name.length with
    | ':' :: ']' :: rest =>
      if asciiClasses.contains (String.ofList name) then some (negated, rest) else none
    | _ => none
  | _ => none

/-- Whether a character may stand in a class. -/
def isMember (mode : Mode) (c : Char) : Bool :=
  if mode.unicode then !mode.caseless else c.toNat ≤ 0x7F

/-- The text after the start of a class, whose bracket is already read: the
    sign of negation, hyphens, and a closing bracket that is no end because
    nothing stands before it. -/
def classStart? (mode : Mode) (cs : List Char) : Option (List Char) :=
  let cs := mode.skip cs
  let negated := cs.head? = some '^'
  let cs := if negated then mode.skip (cs.drop 1) else cs
  let rest := mode.skip (cs.dropWhile fun c => c = '-' || (mode.spaced && isBlank c))
  let (filled, rest) := match rest with
    | ']' :: after => if rest.length = cs.length then (true, mode.skip after) else (true, rest)
    | _ => (rest.length < cs.length, rest)
  if (negated && !mode.unicode) || (filled && mode.needsCase) || rest.isEmpty then none
  else some rest

/-- A character of a class or an escape. -/
def member? (mode : Mode) : List Char → Option (Escape × List Char)
  | [] => none
  | '\\' :: rest => escape? mode rest
  | c :: rest => some (.char c false, rest)

/-- The text after a member of a class or a range of members. -/
def range? (mode : Mode) (cs : List Char) : Option (List Char) := do
  let (first, rest) ← member? mode cs
  let rest := mode.skip rest
  let alone := match first with
    | .char c _ => isMember mode c
    | .chars _ => first.isValid mode
    | .place _ => false
  match rest with
  | '-' :: after =>
    let after := mode.skip after
    if after.head? = some ']' ∨ after.head? = some '-' then
      if alone then some rest else none
    else
      match first, ← member? mode after with
      | .char lo _, (.char hi _, rest) =>
        if lo ≤ hi ∧ isMember mode lo ∧ isMember mode hi then some rest else none
      | _, _ => none
  | rest => if alone then some rest else none

/-- The text after classes that are open, `depth` within each other. -/
def classes? (mode : Mode) : (fuel depth : Nat) → List Char → Option (List Char)
  | 0, _, _ => none
  | _, 0, cs => some cs
  | fuel + 1, depth + 1, cs =>
    match mode.skip cs with
    | [] => none
    | '[' :: rest =>
      match asciiClass? rest with
      | some (negated, rest) =>
        if (negated && !mode.unicode) || mode.needsCase then none
        else classes? mode fuel (depth + 1) rest
      | none => (classStart? mode rest).bind fun rest => classes? mode fuel (depth + 2) rest
    | ']' :: rest => classes? mode fuel depth rest
    | '&' :: '&' :: rest | '-' :: '-' :: rest | '~' :: '~' :: rest =>
      classes? mode fuel (depth + 1) rest
    | cs => (range? mode cs).bind fun rest => classes? mode fuel (depth + 1) rest

/-- The text after a class, whose first bracket is already read. -/
def class? (mode : Mode) (cs : List Char) : Option (List Char) :=
  (classStart? mode cs).bind fun rest => classes? mode (rest.length + 1) 1 rest

/-! ### Groups -/

/-- The name of a group and the text after its closing mark. -/
def name? (cs : List Char) : Option (List Char × List Char) :=
  let name := cs.takeWhile (· ≠ '>')
  match name, cs.drop name.length with
  | first :: others, _ :: rest =>
    let isFirst (c : Char) : Bool := c = '_' || isAlphabetic c
    let isOther (c : Char) : Bool := c = '_' || c = '.' || c = '[' || c = ']' || isAlphanumeric c
    if isFirst first && others.all isOther then some (name, rest) else none
  | _, _ => none

/-- A place in an expression. -/
structure State where
  /-- The flags at this place. -/
  mode : Mode := {}
  /-- The flags around each open group, the innermost first. -/
  around : List Mode := []
  /-- The names of groups so far. -/
  names : List (List Char) := []
  /-- Whether something stands before that can be repeated. -/
  operand : Bool := false

namespace State

/-- The place after the opening of a group. -/
def opened (s : State) (mode : Mode) : State :=
  { s with mode, around := s.mode :: s.around, operand := false }

/-- The place after an opening bracket and what belongs to it: the name of a
    group, its flags, or flags for the rest of the group around. -/
def group? (s : State) (cs : List Char) : Option (State × List Char) :=
  let named (cs : List Char) : Option (State × List Char) := do
    let (name, rest) ← name? cs
    if s.names.contains name then none
    else some ({ s.opened s.mode with names := name :: s.names }, rest)
  match s.mode.skip cs with
  | '?' :: '<' :: '=' :: _ | '?' :: '<' :: '!' :: _ => none
  | '?' :: 'P' :: '<' :: rest | '?' :: '<' :: rest => named rest
  | '?' :: rest => do
    match ← flags? s.mode [] true rest with
    | (mode, _, ':' :: rest) => some (s.opened mode, rest)
    | (mode, true, _ :: rest) => some ({ s with mode, operand := false }, rest)
    | _ => none
  | rest => some (s.opened s.mode, rest)

/-- The place after the next item of the expression. -/
def next? (s : State) : List Char → Option (State × List Char)
  | '(' :: rest => s.group? rest
  | ')' :: rest =>
    match s.around with
    | mode :: around => some ({ s with mode, around, operand := true }, rest)
    | [] => none
  | '|' :: rest => some ({ s with operand := false }, rest)
  | '[' :: rest => (class? s.mode rest).map ({ s with operand := true }, ·)
  | '\\' :: rest =>
    (escape? s.mode rest).bind fun (e, rest) =>
      if e.isValid s.mode then some ({ s with operand := true }, rest) else none
  | c :: rest =>
    if c = '*' ∨ c = '+' ∨ c = '?' then
      if s.operand then some (s, if rest.head? = some '?' then rest.drop 1 else rest) else none
    else
      let valid :=
        if c = '\x7b' then false
        else if c = '.' then s.mode.unicode
        else if c = '^' ∨ c = '$' then true
        else !s.mode.needsCase
      if valid then some ({ s with operand := true }, rest) else none
  | [] => none

/-- Whether the expression can be read to its end from here. -/
def reads (s : State) : (fuel : Nat) → List Char → Bool
  | 0, _ => false
  | fuel + 1, cs =>
    match s.mode.skip cs with
    | [] => s.around.isEmpty
    | cs =>
      match s.next? cs with
      | some (s, rest) => s.reads fuel rest
      | none => false

end State

/-- Whether a text is a regular expression. Each item has a character at
    least, so the length bounds their number. -/
def isPattern (cs : List Char) : Bool := ({} : State).reads (cs.length + 1) cs

end HolidayApi.Text.Pattern
