import HolidayApi.Data.Decode
import HolidayApi.Calendar.Date

/-! # Holidays

    A holiday is a named day; the same name may stand for many days and the
    same day may have many names. A draft is a holiday that has no id yet.
    Holidays and drafts are written as JSON and read from documents.
-/

namespace HolidayApi.Calendar

open HolidayApi.Data (Json Decoder Defect)

/-- A holiday that is stored. -/
structure Holiday where
  /-- The id under which it is stored. -/
  id : Nat
  /-- The day. -/
  date : Date
  /-- The name. -/
  name : String
  deriving DecidableEq, Repr

/-- A holiday that is to be stored. -/
structure Draft where
  /-- The day. -/
  date : Date
  /-- The name. -/
  name : String
  deriving DecidableEq, Repr

/-! ### Writing -/

/-- The JSON value of a stored holiday. -/
def Holiday.json (h : Holiday) : Json :=
  .object [("id", .nat h.id), ("holidayDate", .text h.date.text), ("name", .text h.name)]

/-- The JSON value of a draft. -/
def Draft.json (d : Draft) : Json :=
  .object [("holidayDate", .text d.date.text), ("name", .text d.name)]

/-- The JSON value of drafts that are stored together. -/
def draftsJson (drafts : List Draft) : Json :=
  .object [("holidays", .list (drafts.map Draft.json))]

/-! ### Reading -/

/-- A date in a document. -/
def Date.decoder : Decoder Date :=
  Decoder.textAs "a formatted date string" fun text =>
    match Date.parse text with
    | .ok date => .ok date
    | .error e => .error (.other e.message)

/-- A holiday of which some parts were read. -/
structure Partial where
  id : Option Nat := none
  date : Option Date := none
  name : Option String := none

namespace Partial

/-- The id of a holiday. -/
def idField : Decoder.Field Partial :=
  .of "id" id (fun p id => { p with id := some id }) (Decoder.natural "u64")

/-- The day of a holiday. -/
def dateField : Decoder.Field Partial :=
  .of "holidayDate" date (fun p date => { p with date := some date }) Date.decoder

/-- The name of a holiday. -/
def nameField : Decoder.Field Partial :=
  .of "name" name (fun p name => { p with name := some name }) Decoder.text

/-- A part that has to be there. -/
def need {α : Type} (field : String) : Option α → Except Defect α
  | some value => .ok value
  | none => .error (.missingField field)

/-- The draft of which all parts were read. -/
def draft (p : Partial) : Except Defect Draft := do
  let date ← need "holidayDate" p.date
  let name ← need "name" p.name
  return ⟨date, name⟩

/-- The holiday of which all parts were read. -/
def holiday (p : Partial) : Except Defect Holiday := do
  let id ← need "id" p.id
  let draft ← p.draft
  return ⟨id, draft.date, draft.name⟩

end Partial

/-- A stored holiday in a document. -/
def Holiday.decoder : Decoder Holiday := Decoder.Shape.decoder
  ⟨"Holiday", [Partial.idField, Partial.dateField, Partial.nameField], false, {},
    Partial.holiday⟩

/-- A draft in a document, where the request is called `request`. -/
def Draft.decoderAs (request : String) : Decoder Draft := Decoder.Shape.decoder
  ⟨request, [Partial.dateField, Partial.nameField], false, {}, Partial.draft⟩

/-- The draft of a holiday to create. -/
def Draft.createDecoder : Decoder Draft := Draft.decoderAs "CreateHolidayRequest"

/-- The draft that a holiday is to become. -/
def Draft.updateDecoder : Decoder Draft := Draft.decoderAs "UpdateHolidayRequest"

/-- Drafts of holidays to create together. -/
def draftsDecoder : Decoder (List Draft) := Decoder.Shape.decoder
  ⟨"BulkCreateHolidayRequest",
    [.of "holidays" id (fun _ drafts => some drafts) (Decoder.list Draft.createDecoder)],
    false, none, Partial.need "holidays"⟩

end HolidayApi.Calendar
