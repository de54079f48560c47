import HolidayApi.Toml.Scalar
import HolidayApi.Toml.Table

/-! # TOML documents

    A document is a sequence of lines: keys with values, headers of tables,
    comments and empty lines. Arrays and inline tables may be nested, but
    fewer than eighty deep, and a key has fewer than eighty parts.
-/

namespace HolidayApi.Toml

open HolidayApi.Data (Datum)

/-! ### Keys -/

/-- A character of a key without quotes. -/
def isKeyChar (c : Char) : Bool := c.isAlphanum || c = '-' || c = '_'

/-- One part of a key. -/
def keyPart : Reader String
  | '"' :: rest => lineString '"' rest
  | '\'' :: rest => lineString '\'' rest
  | cs =>
    let name := cs.takeWhile isKeyChar
    if name.isEmpty then none else some (String.ofList name, cs.drop name.length)

/-- The limit of nesting and of the parts of a key. -/
def limit : Nat := 80

/-- The parts of a key before its last, and the last. -/
def key : (fuel : Nat) → Reader (List String × String)
  | 0, _ => none
  | fuel + 1, cs => do
    let (part, cs) ← keyPart (skipSpaces cs)
    match skipSpaces cs with
    | '.' :: rest => do
      let ((path, last), rest) ← key fuel rest
      return ((part :: path, last), rest)
    | cs => return (([], part), cs)

/-! ### Values -/

/-- The text after blanks, line breaks and comments. -/
def skipLayout : (fuel : Nat) → List Char → List Char
  | 0, cs => cs
  | fuel + 1, cs =>
    match skipSpaces cs with
    | '#' :: rest => skipLayout fuel (skipComment ('#' :: rest))
    | cs =>
      match newline? cs with
      | some rest => skipLayout fuel rest
      | none => cs

/-- Layout in arrays. -/
def layout (cs : List Char) : List Char := skipLayout (2 * cs.length + 1) cs

mutual

/-- A value, with `depth` more levels of nesting allowed. -/
def value : (fuel depth : Nat) → Reader Datum
  | 0, _, _ => none
  | fuel + 1, depth, cs =>
    match cs, depth with
    | '[' :: rest, depth + 1 => items fuel depth [] (layout rest)
    | '\x7b' :: rest, depth + 1 =>
      match skipSpaces rest with
      | '\x7d' :: rest => some (.mapping [] true, rest)
      | rest => pairs fuel depth [] rest
    | '[' :: _, 0 | '\x7b' :: _, 0 => none
    | cs, _ => scalar cs

/-- The items of an array up to its end, put behind the reversed items
    already read. The last item may be followed by a comma. -/
def items : (fuel depth : Nat) → List Datum → Reader Datum
  | 0, _, _, _ => none
  | fuel + 1, depth, read, cs =>
    match cs with
    | ']' :: rest => some (.sequence read.reverse true, rest)
    | cs =>
      match value fuel depth cs with
      | none => none
      | some (datum, rest) =>
        match layout rest with
        | ',' :: rest => items fuel depth (datum :: read) (layout rest)
        | ']' :: rest => some (.sequence (datum :: read).reverse true, rest)
        | _ => none

/-- The pairs of an inline table up to its end, added to the pairs already
    read. It stands on one line and has no comma at its end. -/
def pairs : (fuel depth : Nat) → Entries → Reader Datum
  | 0, _, _, _ => none
  | fuel + 1, depth, read, cs =>
    match key (limit - 1) cs with
    | some ((path, last), '=' :: rest) =>
      match value fuel depth (skipSpaces rest) with
      | none => none
      | some (datum, rest) =>
        match read.addValue path last datum, skipSpaces rest with
        | some read, ',' :: rest => pairs fuel depth read rest
        | some read, '\x7d' :: rest => some (.mapping (entriesData read) true, rest)
        | _, _ => none
    | _ => none

end

/-! ### Lines -/

/-- The rest after the end of a line: a comment at most, then a line break or
    the end of the document. -/
def endOfLine (cs : List Char) : Option (List Char) :=
  match skipComment (skipSpaces cs) with
  | [] => some []
  | cs => newline? cs

/-- A header, after its first bracket. -/
def header (d : Draft) (cs : List Char) : Option (Draft × List Char) :=
  match cs with
  | '[' :: cs => do
    let ((path, last), cs) ← key (limit - 1) cs
    match cs with
    | ']' :: ']' :: rest => return (← d.openArray path last, ← endOfLine rest)
    | _ => none
  | cs => do
    let ((path, last), cs) ← key (limit - 1) cs
    match cs with
    | ']' :: rest => return (← d.openTable path last, ← endOfLine rest)
    | _ => none

/-- A key with its value. -/
def pair (d : Draft) (cs : List Char) : Option (Draft × List Char) := do
  let ((path, last), cs) ← key (limit - 1) cs
  match cs with
  | '=' :: rest => do
    let (datum, rest) ← value (2 * rest.length + 1) (limit - 1) (skipSpaces rest)
    return (← d.addValue path last datum, ← endOfLine rest)
  | _ => none

/-- Reads line after line, at most `fuel` of them. -/
def lines? : (fuel : Nat) → Draft → List Char → Option Draft
  | 0, _, _ => none
  | fuel + 1, d, cs =>
    match skipSpaces cs with
    | [] => some d
    | '#' :: rest =>
      match endOfLine ('#' :: rest) with
      | some rest => lines? fuel d rest
      | none => none
    | '[' :: rest =>
      match header d rest with
      | some (d, rest) => lines? fuel d rest
      | none => none
    | cs =>
      match newline? cs with
      | some rest => lines? fuel d rest
      | none =>
        match pair d cs with
        | some (d, rest) => lines? fuel d rest
        | none => none

/-- The data of a document; a byte order mark may stand before it. -/
def parse (text : List Char) : Option Datum := do
  let text := match text with
    | '\uFEFF' :: rest => rest
    | text => text
  let draft ← lines? (text.length + 2) {} text
  return .mapping (entriesData (← draft.finish)) true

end HolidayApi.Toml
