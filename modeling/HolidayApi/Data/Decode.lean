import HolidayApi.Data.Datum

/-! # Decoders

    A decoder makes a value of the domain out of the data of a document. It
    looks at the data in the order of the document and reports the first
    thing that is wrong: an offence against the syntax, or a defect with the
    path to the place where it was found.
-/

namespace HolidayApi.Data

/-! ### What can be wrong -/

/-- One step of a path into a document. -/
inductive Segment where
  | field (name : String)
  | index (i : Nat)
  deriving DecidableEq, Repr

/-- The notation of a path. -/
def pathText : List Segment → String
  | [] => ""
  | .field name :: rest =>
    name ++ (match rest with | .field _ :: _ => "." | _ => "") ++ pathText rest
  | .index i :: rest =>
    "[" ++ String.ofList (Text.decimal i) ++ "]"
      ++ (match rest with | .field _ :: _ => "." | _ => "") ++ pathText rest

/-- A way in which data have the wrong shape. -/
inductive Defect where
  | wrongType (found expected : String)
  | wrongValue (found expected : String)
  | wrongLength (length : Nat) (expected : String)
  | missingField (name : String)
  | duplicateField (name : String)
  | unknownVariant (found : String) (known : List String)
  /-- A defect with words of its own. -/
  | other (text : String)
  deriving DecidableEq, Repr

namespace Defect

/-- A name between backticks. -/
def ticked (name : String) : String := "\x60" ++ name ++ "\x60"

/-- The defect in words. -/
def message : Defect → String
  | wrongType found expected => "invalid type: " ++ found ++ ", expected " ++ expected
  | wrongValue found expected => "invalid value: " ++ found ++ ", expected " ++ expected
  | wrongLength length expected =>
    "invalid length " ++ String.ofList (Text.decimal length) ++ ", expected " ++ expected
  | missingField name => "missing field " ++ ticked name
  | duplicateField name => "duplicate field " ++ ticked name
  | unknownVariant found known =>
    "unknown variant " ++ ticked found ++ ", expected "
      ++ " or ".intercalate (known.map ticked)
  | other text => text

end Defect

/-- What a decoder reports. -/
inductive DecodeError where
  /-- The document is not well-formed. -/
  | malformed
  /-- The data at the end of the path have the wrong shape. -/
  | misshapen (path : List Segment) (defect : Defect)
  deriving DecidableEq, Repr

/-- The outcome of a decoder. -/
abbrev Decoded (α : Type) := Except DecodeError α

/-- A reader of the data of a document. -/
abbrev Decoder (α : Type) := Dialect → Datum → Decoded α

namespace Decoder

variable {σ α : Type}

/-- A defect at the place where the decoder stands. -/
def fail (defect : Defect) : Decoded α := .error (.misshapen [] defect)

/-- The outcome of a decoder one step further down. -/
def under (segment : Segment) : Decoded α → Decoded α
  | .error (.misshapen path defect) => .error (.misshapen (segment :: path) defect)
  | outcome => outcome

/-- A value of another type than expected. -/
def mismatch (dialect : Dialect) (datum : Datum) (expected : String) : Decoded α :=
  match datum.described dialect with
  | some found => fail (.wrongType found expected)
  | none => .error .malformed

/-! ### Simple values -/

/-- A text; `expected` says what it should denote. -/
def textAs (expected : String) (read : String → Except Defect α) : Decoder α
  | dialect, datum =>
    match datum with
    | .text (some t) =>
      match read t with
      | .ok value => .ok value
      | .error defect => fail defect
    | datum => mismatch dialect datum expected

/-- Any text. -/
def text : Decoder String := textAs "a string" .ok

/-- A truth value. -/
def boolean : Decoder Bool
  | _, .boolean b => .ok b
  | dialect, datum => mismatch dialect datum "a boolean"

/-- A number from zero to the largest; `expected` is the name of its type. -/
def natural (expected : String) : Decoder Nat
  | dialect, datum =>
    match datum with
    | .integer n =>
      if 0 ≤ n ∧ n ≤ Text.max64 then .ok n.toNat
      else fail (.wrongValue ("integer " ++ Defect.ticked (String.ofList (Json.integer n)))
        expected)
    | datum => mismatch dialect datum expected

/-- The items of a sequence from place `i` on, before `read`, which is
    reversed. -/
def itemsFrom (item : Decoder α) (dialect : Dialect) (read : List α) (i : Nat) :
    List Datum → Decoded (List α)
  | [] => .ok read.reverse
  | datum :: rest =>
    match under (.index i) (item dialect datum) with
    | .ok value => itemsFrom item dialect (value :: read) (i + 1) rest
    | .error e => .error e

/-- A sequence of items. -/
def list (item : Decoder α) : Decoder (List α)
  | dialect, datum =>
    match datum with
    | .sequence items whole => do
      let values ← itemsFrom item dialect [] 0 items
      if whole then .ok values else .error .malformed
    | .tables items => itemsFrom item dialect [] 0 items
    | datum => mismatch dialect datum "a sequence"

/-- A choice between names. A name may also be written as the only key of a
    mapping whose value says nothing. -/
def choice (known : List (String × α)) : Decoder α
  | dialect, datum =>
    let named (name : String) : Decoded α :=
      match known.lookup name with
      | some value => .ok value
      | none => fail (.unknownVariant name (known.map Prod.fst))
    match dialect, datum with
    | _, .text (some name) => named name
    | .toml, .mapping [] _ => fail (.other "wanted exactly 1 element, found 0 elements")
    | .toml, .mapping [(some name, datum)] _ => do
      let value ← named name
      match datum with
      | .sequence [] _ | .mapping [] _ => .ok value
      | .sequence .. | .mapping .. => fail (.other "expected empty table")
      | .tables _ => fail (.other "expected empty array")
      | .text _ => fail (.other "expected table, found string")
      | .integer _ => fail (.other "expected table, found integer")
      | .decimal _ => fail (.other "expected table, found float")
      | .boolean _ => fail (.other "expected table, found boolean")
      | .stamp => fail (.other "expected table, found datetime")
      | .null | .broken => .error .malformed
    | .toml, .mapping .. => fail (.other "wanted exactly 1 element, more than 1 element")
    | .toml, _ => fail (.other "wanted string or table")
    | _, .mapping [(some name, datum)] _ => do
      let value ← named name
      match datum with
      | .null => .ok value
      | datum => mismatch dialect datum "unit"
    | _, .mapping .. => fail (.wrongValue "map" "map with a single key")
    | _, datum => mismatch dialect datum "string or map"

/-! ### Records -/

/-- A field of a record that is read into the unfinished record `σ`. -/
structure Field (σ : Type) where
  /-- The name of the field. -/
  name : String
  /-- Whether the field was read already. -/
  isSet : σ → Bool
  /-- Reads the field. -/
  set : Dialect → Datum → σ → Decoded σ

/-- A field whose value is put at its place by `put`. -/
def Field.of (name : String) (get : σ → Option α) (put : σ → α → σ) (value : Decoder α) :
    Field σ where
  name := name
  isSet s := (get s).isSome
  set dialect datum s := (value dialect datum).map (put s)

/-- The shape of a record. -/
structure Shape (σ α : Type) where
  /-- The name of the record. -/
  name : String
  /-- The fields in order. -/
  fields : List (Field σ)
  /-- Whether fields may be left out. -/
  lenient : Bool
  /-- The record before any field was read. -/
  start : σ
  /-- The record after all fields were read. -/
  finish : σ → Except Defect α

namespace Shape

/-- What messages expect where the number of fields is wrong. -/
def expectation (shape : Shape σ α) : String :=
  "struct " ++ shape.name ++ " with " ++ String.ofList (Text.decimal shape.fields.length)
    ++ if shape.fields.length = 1 then " element" else " elements"

/-- The finished record. -/
def close (shape : Shape σ α) (s : σ) : Decoded α :=
  match shape.finish s with
  | .ok value => .ok value
  | .error defect => fail defect

/-- Reads the entries of a mapping in their order. A key that names no field
    is skipped with its value. -/
def fromEntries (shape : Shape σ α) (dialect : Dialect) :
    List (Option String × Datum) → σ → Decoded σ
  | [], s => .ok s
  | (none, _) :: _, _ => .error .malformed
  | (some key, datum) :: rest, s =>
    match shape.fields.find? fun field => field.name == key with
    | none => if datum.isWhole then shape.fromEntries dialect rest s else .error .malformed
    | some field =>
      if field.isSet s then fail (.duplicateField key)
      else
        match under (.field key) (field.set dialect datum s) with
        | .ok s => shape.fromEntries dialect rest s
        | .error e => .error e

/-- Reads the items of a sequence, one field after the other. What is left
    over of the items is given back. -/
def fromItems (shape : Shape σ α) (dialect : Dialect) (whole : Bool) :
    List (Field σ) → Nat → List Datum → σ → Decoded (σ × List Datum)
  | [], _, items, s => .ok (s, items)
  | _ :: _, i, [], s =>
    if !whole then .error .malformed
    else if shape.lenient then .ok (s, [])
    else fail (.wrongLength i shape.expectation)
  | field :: fields, i, datum :: items, s =>
    match under (.index i) (field.set dialect datum s) with
    | .ok s => shape.fromItems dialect whole fields (i + 1) items s
    | .error e => .error e

/-- Reads a record from a sequence of its fields, which may go on after the
    last field in TOML only. -/
def fromSequence (shape : Shape σ α) (dialect : Dialect) (items : List Datum) (whole : Bool) :
    Decoded α := do
  let (s, rest) ← shape.fromItems dialect whole shape.fields 0 items shape.start
  let value ← shape.close s
  match dialect, rest.isEmpty && whole with
  | _, true | .toml, _ => .ok value
  | .jsonText, _ => .error .malformed
  | .jsonValue, _ => fail (.wrongLength items.length "fewer elements in array")

/-- Reads a record from a mapping or from a sequence of its fields. -/
def decoder (shape : Shape σ α) : Decoder α
  | dialect, datum =>
    match datum with
    | .mapping entries whole => do
      let s ← shape.fromEntries dialect entries shape.start
      if whole then shape.close s else .error .malformed
    | .sequence items whole => shape.fromSequence dialect items whole
    | .tables items => shape.fromSequence dialect items true
    | .stamp => shape.close shape.start
    | datum => mismatch dialect datum ("struct " ++ shape.name)

end Shape
end Decoder
end HolidayApi.Data
