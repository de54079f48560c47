import HolidayApi.Calendar.Date
import HolidayApi.Data.Datum

/-! # Simple TOML values

    Strings, numbers, truth values and dates. Each reader takes the value
    from the front of the text and gives the rest; none of them looks at what
    follows the value.
-/

namespace HolidayApi.Toml

open HolidayApi.Data (Datum Double)

/-- A reader of something at the front of a text. -/
abbrev Reader (α : Type) := List Char → Option (α × List Char)

/-! ### Characters and blanks -/

/-- A blank within a line. -/
def isSpace (c : Char) : Bool := c = ' ' || c = '\t'

/-- A character that may stand in comments and strings: tabs and all that is
    no control character. -/
def isPlain (c : Char) : Bool := c = '\t' || (0x20 ≤ c.toNat && c.toNat ≠ 0x7F)

/-- The text after the blanks at its front. -/
def skipSpaces (cs : List Char) : List Char := cs.dropWhile isSpace

/-- The text after the line break at its front. -/
def newline? : List Char → Option (List Char)
  | '\n' :: rest => some rest
  | '\r' :: '\n' :: rest => some rest
  | _ => none

/-- The text after the comment at its front; the line break stays. -/
def skipComment : List Char → List Char
  | '#' :: rest => rest.dropWhile isPlain
  | cs => cs

/-! ### Strings -/

/-- The character with the number that these digits write. -/
def charOfHex? (digits : List Char) : Option Char := do
  let values ← digits.mapM (Text.digitValue? 16)
  let n := values.foldl (fun n v => n * 16 + v) 0
  if n.isValidChar then some (.ofNat n) else none

/-- The text after blanks and line breaks. -/
def skipLines : List Char → List Char
  | '\r' :: '\n' :: rest => skipLines rest
  | c :: rest => if isSpace c || c = '\n' then skipLines rest else c :: rest
  | [] => []

/-- The number of quotes at the front. -/
def quotes (quote : Char) (cs : List Char) : Nat := (cs.takeWhile (· = quote)).length

/-- What an escape at the front stands for, and the text after it. The
    backslash is already read. -/
def escape? : Reader Char
  | 'u' :: a :: b :: c :: d :: rest => (charOfHex? [a, b, c, d]).map (·, rest)
  | 'U' :: a :: b :: c :: d :: e :: f :: g :: h :: rest =>
    (charOfHex? [a, b, c, d, e, f, g, h]).map (·, rest)
  | letter :: rest => (Text.escaped? ['"', '\\'] letter).map (·, rest)
  | [] => none

/-- The string up to its closing quote, put behind the reversed characters
    already read. -/
def line (quote : Char) (escapes : Bool) : (fuel : Nat) → List Char → Reader String
  | 0, _, _ => none
  | _ + 1, _, [] => none
  | fuel + 1, read, c :: rest =>
    if c = quote then some (String.ofList read.reverse, rest)
    else if escapes && c = '\\' then
      match escape? rest with
      | some (c, rest) => line quote escapes fuel (c :: read) rest
      | none => none
    else if isPlain c then line quote escapes fuel (c :: read) rest
    else none

/-- The string up to its three closing quotes. Up to two more quotes before
    them belong to it, and every line break is a line feed. A backslash at
    the end of a line skips the line break and the blanks after it. -/
def lines (quote : Char) (escapes : Bool) : (fuel : Nat) → List Char → Reader String
  | 0, _, _ => none
  | _ + 1, _, [] => none
  | fuel + 1, read, c :: rest =>
    if c = quote then
      let n := quotes quote (c :: rest)
      if n < 3 then
        lines quote escapes fuel (List.replicate n quote ++ read) (rest.drop (n - 1))
      else
        let inner := min (n - 3) 2
        some (String.ofList (List.replicate inner quote ++ read).reverse,
          (c :: rest).drop (inner + 3))
    else if escapes && c = '\\' then
      match newline? (skipSpaces rest) with
      | some rest => lines quote escapes fuel read (skipLines rest)
      | none =>
        match escape? rest with
        | some (c, rest) => lines quote escapes fuel (c :: read) rest
        | none => none
    else
      match newline? (c :: rest) with
      | some rest => lines quote escapes fuel ('\n' :: read) rest
      | none => if isPlain c then lines quote escapes fuel (c :: read) rest else none

/-- A string of one line, after its opening quote. -/
def lineString (quote : Char) : Reader String := fun cs =>
  line quote (quote = '"') (cs.length + 1) [] cs

/-- A string, after its first quote. A line break right after three opening
    quotes does not count. -/
def string? (quote : Char) : Reader String := fun cs =>
  match cs with
  | a :: b :: rest =>
    if a = quote ∧ b = quote then
      let rest := (newline? rest).getD rest
      lines quote (quote = '"') (rest.length + 1) [] rest
    else lineString quote cs
  | cs => lineString quote cs

/-! ### Numbers -/

/-- Digits with single underscores between them: the digits, and the text
    after them. -/
def digitRun (isDigit : Char → Bool) : Reader (List Char)
  | c :: '_' :: rest =>
    if isDigit c then
      match rest with
      | d :: _ => if isDigit d then (digitRun isDigit rest).map fun (ds, r) => (c :: ds, r)
        else none
      | [] => none
    else none
  | c :: rest =>
    if isDigit c then
      match rest with
      | d :: _ => if isDigit d then (digitRun isDigit rest).map fun (ds, r) => (c :: ds, r)
        else some ([c], rest)
      | [] => some ([c], [])
    else none
  | [] => none

/-- The sign at the front and the text after it. -/
def sign : List Char → Bool × List Char
  | '+' :: rest => (false, rest)
  | '-' :: rest => (true, rest)
  | cs => (false, cs)

/-- The digits of a number that does not begin with a zero, or a zero. -/
def wholeDigits : Reader (List Char)
  | '0' :: rest => some (['0'], rest)
  | cs => digitRun Char.isDigit cs

/-- An integer of 64 bits. -/
def integer (negative : Bool) (magnitude : Nat) : Option Datum :=
  let n : Int := if negative then -(magnitude : Int) else magnitude
  if -(Text.max63 : Int) - 1 ≤ n ∧ n ≤ Text.max63 then some (.integer n) else none

/-- An integer with digits of another base, after `0` and the letter. -/
def radixInteger (base : Nat) : Reader Datum := fun cs => do
  let isDigit (c : Char) : Bool := (Text.digitValue? base c).isSome
  let (digits, rest) ← digitRun isDigit cs
  let magnitude := digits.foldl (fun n c => n * base + (Text.digitValue? base c).getD 0) 0
  return (← integer false magnitude, rest)

/-- The exponent at the front, if there is one. -/
def exponent : Reader (Option Int)
  | c :: rest =>
    if c = 'e' ∨ c = 'E' then do
      let (negative, rest) := sign rest
      let (digits, rest) ← digitRun Char.isDigit rest
      let n : Int := Nat.ofDigitChars 10 digits 0
      return (some (if negative then -n else n), rest)
    else some (none, c :: rest)
  | [] => some (none, [])

/-- The fraction at the front, if there is one. -/
def fraction : Reader (Option (List Char))
  | '.' :: rest => (digitRun Char.isDigit rest).map fun (digits, rest) => (some digits, rest)
  | cs => some (none, cs)

/-- A number in decimal digits. One that is too large to be held is refused,
    unless it is negative. -/
def decimal : Reader Datum := fun cs => do
  let (negative, cs) := sign cs
  let (whole, cs) ← wholeDigits cs
  let (places, cs) ← fraction cs
  let (exponent, cs) ← exponent cs
  if places.isNone && exponent.isNone then
    return (← integer negative (Nat.ofDigitChars 10 whole 0), cs)
  let places := places.getD []
  let value := Double.ofDecimal negative (Nat.ofDigitChars 10 (whole ++ places) 0)
    (exponent.getD 0 - (places.length : Int))
  if value = .infinite false then none
  return (.decimal (some value), cs)

/-- Infinity or no number, with a sign. -/
def special : Reader Datum := fun cs =>
  let (negative, cs) := sign cs
  match cs with
  | 'i' :: 'n' :: 'f' :: rest => some (.decimal (some (.infinite negative)), rest)
  | 'n' :: 'a' :: 'n' :: rest => some (.decimal (some .notANumber), rest)
  | _ => none

/-! ### Dates and times -/

/-- Exactly so many digits, with a value in a range. -/
def fixed (width lo hi : Nat) : Reader Nat := fun cs =>
  let digits := cs.take width
  let n := Nat.ofDigitChars 10 digits 0
  if digits.length = width ∧ digits.all Char.isDigit ∧ lo ≤ n ∧ n ≤ hi then
    some (n, cs.drop width)
  else none

/-- The character `c` at the front. -/
def mark (c : Char) : Reader Unit
  | d :: rest => if c = d then some ((), rest) else none
  | [] => none

/-- A day of the calendar. -/
def day : Reader Unit := fun cs => do
  let (y, cs) ← fixed 4 0 9999 cs
  let (_, cs) ← mark '-' cs
  let (m, cs) ← fixed 2 1 12 cs
  let (_, cs) ← mark '-' cs
  let (_, cs) ← fixed 2 1 (Calendar.daysIn y m) cs
  return ((), cs)

/-- A time of the day; the fraction of the second is optional. -/
def time : Reader Unit := fun cs => do
  let (_, cs) ← fixed 2 0 23 cs
  let (_, cs) ← mark ':' cs
  let (_, cs) ← fixed 2 0 59 cs
  let (_, cs) ← mark ':' cs
  let (_, cs) ← fixed 2 0 60 cs
  match cs with
  | '.' :: rest =>
    let digits := rest.takeWhile Char.isDigit
    if digits.isEmpty then none else return ((), rest.drop digits.length)
  | cs => return ((), cs)

/-- An offset from universal time, if there is one. -/
def offset : Reader Unit
  | c :: rest =>
    if c = 'Z' ∨ c = 'z' then some ((), rest)
    else if c = '+' ∨ c = '-' then do
      let (_, cs) ← fixed 2 0 23 rest
      let (_, cs) ← mark ':' cs
      let (_, cs) ← fixed 2 0 59 cs
      return ((), cs)
    else some ((), c :: rest)
  | [] => some ((), [])

/-- A date, a time, or both with an offset or without. A blank may separate
    the two; if no time follows it, it does not belong to the date. -/
def stamp : Reader Datum := fun cs =>
  match day cs with
  | some (_, c :: rest) =>
    if c = 'T' ∨ c = 't' ∨ c = ' ' then
      match time rest with
      | some (_, rest) => (offset rest).map fun (_, rest) => (.stamp, rest)
      | none => if c = ' ' then some (.stamp, c :: rest) else none
    else some (.stamp, c :: rest)
  | some (_, []) => some (.stamp, [])
  | none => (time cs).map fun (_, rest) => (.stamp, rest)

/-! ### Any simple value -/

/-- The rest of a word after its first letter. -/
def word (letters : String) (datum : Datum) : Reader Datum := fun cs =>
  (letters.toList.isPrefixOf? cs).map fun rest => (datum, rest)

/-- A number, a date or a time. -/
def numeric : Reader Datum := fun cs =>
  match cs with
  | '0' :: 'x' :: rest => radixInteger 16 rest
  | '0' :: 'o' :: rest => radixInteger 8 rest
  | '0' :: 'b' :: rest => radixInteger 2 rest
  | cs => stamp cs <|> special cs <|> decimal cs

/-- A value that is no container. -/
def scalar : Reader Datum := fun cs =>
  match cs with
  | '"' :: rest => (string? '"' rest).map fun (t, rest) => (.text (some t), rest)
  | '\'' :: rest => (string? '\'' rest).map fun (t, rest) => (.text (some t), rest)
  | 't' :: rest => word "rue" (.boolean true) rest
  | 'f' :: rest => word "alse" (.boolean false) rest
  | cs => numeric cs

end HolidayApi.Toml
