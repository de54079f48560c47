import HolidayApi.Data.Decode
import HolidayApi.Text.Utf8

/-! # Reading JSON text

    The reader turns a JSON text into data. It works on the units of the
    text, in which a byte that is no character has its place, because such a
    byte offends only where somebody reads the string that it stands in.

    Containers may be nested to any depth, so the open ones are kept on a
    stack of frames; `advance` makes the moves of the reader.
-/

namespace HolidayApi.Data.JsonText

/-- The units of a text that are still to be read. -/
abbrev Input := List (Option Char)

/-- A blank between the tokens of a text. -/
def isBlank (unit : Option Char) : Bool :=
  unit = some ' ' || unit = some '\n' || unit = some '\t' || unit = some '\r'

/-- The input after the blanks at its front. -/
def skipBlanks (input : Input) : Input := input.dropWhile isBlank

/-! ### Strings -/

/-- A piece of a string. -/
inductive Piece where
  | char (c : Char)
  /-- A unit of sixteen bits, written by its number. -/
  | unit (n : Nat)
  /-- A byte that is no character. -/
  | bad

/-- The value of four hexadecimal digits. -/
def hexUnit? (a b c d : Char) : Option Nat := do
  let digit := Text.digitValue? 16
  return (((← digit a) * 16 + (← digit b)) * 16 + (← digit c)) * 16 + (← digit d)

/-- The pieces up to the closing quote, put before the reversed pieces
    already read, and the input after it. -/
def pieces (read : List Piece) : Input → Option (List Piece × Input)
  | [] => none
  | some '"' :: rest => some (read.reverse, rest)
  | some '\\' :: some 'u' :: some a :: some b :: some c :: some d :: rest =>
    match hexUnit? a b c d with
    | some n => pieces (.unit n :: read) rest
    | none => none
  | some '\\' :: some letter :: rest =>
    match Text.escaped? ['"', '\\', '/'] letter with
    | some c => pieces (.char c :: read) rest
    | none => none
  | some '\\' :: _ => none
  | some c :: rest => if c.toNat < 0x20 then none else pieces (.char c :: read) rest
  | none :: rest => pieces (.bad :: read) rest

/-- The text that the pieces form, put behind the reversed characters already
    formed. Units in the surrogate range have to stand in pairs. -/
def assemble (formed : List Char) : List Piece → Option String
  | [] => some (String.ofList formed.reverse)
  | .char c :: rest => assemble (c :: formed) rest
  | .bad :: _ => none
  | .unit high :: .unit low :: rest =>
    if 0xD800 ≤ high ∧ high ≤ 0xDBFF then
      if 0xDC00 ≤ low ∧ low ≤ 0xDFFF then
        assemble (.ofNat (0x10000 + (high - 0xD800) * 0x400 + (low - 0xDC00)) :: formed) rest
      else none
    else if 0xDC00 ≤ high ∧ high ≤ 0xDFFF then none
    else assemble (.ofNat high :: formed) (.unit low :: rest)
  | .unit n :: rest =>
    if 0xD800 ≤ n ∧ n ≤ 0xDFFF then none else assemble (.ofNat n :: formed) rest

/-- The string after its opening quote: its text, if it is one, and the input
    after the closing quote. -/
def string? (input : Input) : Option (Option String × Input) :=
  (pieces [] input).map fun (read, rest) => (assemble [] read, rest)

/-! ### Numbers -/

/-- The digits at the front. -/
def digits (input : Input) : List Char :=
  (input.takeWhile fun unit => unit.any Char.isDigit).filterMap id

/-- The significand with more digits appended, as long as it fits, and the
    digits for which it has no room. -/
def appendDigits (significand : Nat) : List Char → Nat × List Char
  | [] => (significand, [])
  | c :: cs =>
    let next := significand * 10 + (c.toNat - 0x30)
    if next ≤ Text.max64 then appendDigits next cs else (significand, c :: cs)

/-- The value of an exponent; beyond a bound that no number reaches its
    digits do not matter. -/
def exponentValue (cs : List Char) : Nat :=
  cs.foldl (fun n c => if 1000000000 < n then n else n * 10 + (c.toNat - 0x30)) 0

/-- The number `significand * 10 ^ exponent`, computed with rounded powers of
    ten; nothing where it is out of range. -/
def scaled (x : Double) (exponent : Int) : (fuel : Nat) → Option Double
  | 0 => some x
  | fuel + 1 =>
    if exponent.natAbs ≤ 308 then
      if 0 ≤ exponent then
        match x.timesPowerOfTen exponent.natAbs with
        | .infinite _ => none
        | product => some product
      else some (x.overPowerOfTen exponent.natAbs)
    else
      match x with
      | .finite _ 0 _ => some x
      | _ =>
        if 0 ≤ exponent then none
        else scaled (x.overPowerOfTen 308) (exponent + 308) fuel

/-- A number with a fraction or an exponent, or too long for an integer. -/
def fractional (negative : Bool) (significand : Nat) (exponent : Int) : Datum :=
  let value := scaled (.nearest false significand 1) exponent 4
  .decimal (value.map fun x => if negative then x.negate else x)

/-- An integer, if it fits into the types of integers. -/
def integral (negative : Bool) (significand : Nat) : Datum :=
  if !negative then .integer significand
  else if significand = 0 ∨ Text.max63 + 1 < significand then fractional true significand 0
  else .integer (-significand)

/-- The digits after the point, if there is a point; at least one has to
    follow it. -/
def fraction? : Input → Option (List Char × Input)
  | some '.' :: rest =>
    let cs := digits rest
    if cs.isEmpty then none else some (cs, rest.drop cs.length)
  | input => some ([], input)

/-- The exponent, if there is one; at least one digit has to follow its
    sign. -/
def exponent? : Input → Option (Option Int × Input)
  | some c :: rest =>
    if c = 'e' ∨ c = 'E' then
      let (negative, rest) := match rest with
        | some '-' :: rest => (true, rest)
        | some '+' :: rest => (false, rest)
        | rest => (false, rest)
      let cs := digits rest
      let value : Int := exponentValue cs
      if cs.isEmpty then none
      else some (some (if negative then -value else value), rest.drop cs.length)
    else some (none, some c :: rest)
  | input => some (none, input)

/-- The number at the front and the input after it. -/
def number? (input : Input) : Option (Datum × Input) := do
  let (negative, input) := match input with
    | some '-' :: rest => (true, rest)
    | input => (false, input)
  let whole := digits input
  if whole.isEmpty || (whole.head? == some '0' && 1 < whole.length) then none
  let (fraction, input) ← fraction? (input.drop whole.length)
  let (exponent, input) ← exponent? input
  let (significand, long) := appendDigits 0 whole
  if fraction.isEmpty && exponent.isNone && long.isEmpty then
    return (integral negative significand, input)
  let (significand, cut) := appendDigits significand fraction
  let shift : Int := long.length - (fraction.length - cut.length : Nat)
  return (fractional negative significand (shift + exponent.getD 0), input)

/-! ### Values -/

/-- An open container. -/
inductive Frame where
  /-- A sequence, its items reversed. -/
  | items (read : List Datum)
  /-- A mapping, its entries reversed, with the key whose value is read. -/
  | entries (read : List (Option String × Datum)) (key : Option String)

/-- What the reader looks for. -/
inductive Mode where
  /-- A value. -/
  | value
  /-- The first item of a sequence, or its end. -/
  | item
  /-- A key of a mapping after these entries, or the end of an empty one. -/
  | key (read : List (Option String × Datum))
  /-- What follows a value. -/
  | complete (datum : Datum)

/-- The data where the reading stops: the open containers are closed around
    the innermost value as unfinished. -/
def unfinished (inner : Datum) : List Frame → Datum
  | [] => inner
  | .items read :: outer => unfinished (.sequence (inner :: read).reverse false) outer
  | .entries read key :: outer =>
    unfinished (.mapping ((key, inner) :: read).reverse false) outer

/-- The rest of a word after its first letter. -/
def word? (letters : String) (input : Input) : Option Input :=
  (letters.toList.map some).isPrefixOf? input

/-- The simple value at the front and the input after it. -/
def scalar? (input : Input) : Option (Datum × Input) :=
  match input with
  | some '"' :: rest => (string? rest).map fun (t, rest) => (.text t, rest)
  | some 'n' :: rest => (word? "ull" rest).map fun rest => (.null, rest)
  | some 't' :: rest => (word? "rue" rest).map fun rest => (.boolean true, rest)
  | some 'f' :: rest => (word? "alse" rest).map fun rest => (.boolean false, rest)
  | input => number? input

/-- Moves on from `mode` with these open containers, at most `fuel` times.
    The result is the outermost value and the input after it. -/
def advance : (fuel : Nat) → Mode → List Frame → Input → Datum × Input
  | 0, _, stack, input => (unfinished .broken stack, input)
  | fuel + 1, .value, stack, input =>
    match skipBlanks input with
    | some '[' :: rest => advance fuel .item (.items [] :: stack) rest
    | some '\x7b' :: rest => advance fuel (.key []) stack rest
    | input =>
      match scalar? input with
      | some (datum, rest) => advance fuel (.complete datum) stack rest
      | none => (unfinished .broken stack, input)
  | fuel + 1, .item, stack, input =>
    match skipBlanks input with
    | some ']' :: rest => advance fuel (.complete (.sequence [] true)) stack.tail rest
    | input => advance fuel .value stack input
  | fuel + 1, .key read, stack, input =>
    match skipBlanks input with
    | some '"' :: rest =>
      match string? rest with
      | some (key, rest) =>
        match skipBlanks rest with
        | some ':' :: rest => advance fuel .value (.entries read key :: stack) rest
        | rest => (unfinished .broken (.entries read key :: stack), rest)
      | none => (unfinished (.mapping read.reverse false) stack, rest)
    | some '\x7d' :: rest =>
      if read.isEmpty then advance fuel (.complete (.mapping [] true)) stack rest
      else (unfinished (.mapping read.reverse false) stack, rest)
    | input => (unfinished (.mapping read.reverse false) stack, input)
  | _ + 1, .complete datum, [], input => (datum, input)
  | fuel + 1, .complete datum, .items read :: outer, input =>
    match skipBlanks input with
    | some ',' :: rest => advance fuel .value (.items (datum :: read) :: outer) rest
    | some ']' :: rest =>
      advance fuel (.complete (.sequence (datum :: read).reverse true)) outer rest
    | input => (unfinished (.sequence (datum :: read).reverse false) outer, input)
  | fuel + 1, .complete datum, .entries read key :: outer, input =>
    match skipBlanks input with
    | some ',' :: rest => advance fuel (.key ((key, datum) :: read)) outer rest
    | some '\x7d' :: rest =>
      advance fuel (.complete (.mapping ((key, datum) :: read).reverse true)) outer rest
    | input => (unfinished (.mapping ((key, datum) :: read).reverse false) outer, input)

/-- The value at the front of a text and the input after it. Each unit allows
    for two moves, which is more than it takes. -/
def read (input : Input) : Datum × Input := advance (2 * input.length + 3) .value [] input

/-- Decodes a text that holds one value and nothing else. -/
def decode {α : Type} (decoder : Decoder α) (input : Input) : Decoded α := do
  let (datum, rest) := read input
  let value ← decoder .jsonText datum
  if (skipBlanks rest).isEmpty then .ok value else .error .malformed

end HolidayApi.Data.JsonText
