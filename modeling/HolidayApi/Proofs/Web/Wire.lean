import HolidayApi.Proofs.Calendar.Documents
import HolidayApi.Proofs.Web.BodyLimit

/-! # Holidays on the wire

    Holidays and drafts go over the wire as the bytes of their JSON texts.
    What comes out at the other end is what was sent (`holidays_survive`): the
    texts of dates are read back whatever the year is, and strings whatever
    characters stand in them.
-/

namespace HolidayApi.Web

open HolidayApi.Calendar (Date Draft Holiday draftsDecoder draftsJson)
open HolidayApi.Data (Decoded Decoder Json)

/-- The bytes that are sent for a value. -/
def sent (json : Json) : List UInt8 := Text.Utf8.encode json.write

/-- What a decoder makes of bytes that were sent. -/
def received {α : Type} (decoder : Decoder α) (bytes : List UInt8) : Decoded α :=
  Data.JsonText.decode decoder (Text.Utf8.units bytes)

/-- Bytes are received as the value for which they were sent. -/
theorem received_sent {α : Type} {decoder : Decoder α} {json : Json} {a : α} (h : json.Plain)
    (hreads : decoder.Reads json a) : received decoder (sent json) = .ok a := by
  unfold received sent
  rw [Data.JsonText.decode_write h]
  exact hreads json (.same json) .jsonText

/-- A row is received as its draft, with its id or without it. -/
theorem received_row (request : String) {h : Holiday} (hid : h.id ≤ Text.max64)
    {bytes : List UInt8} (hbytes : bytes = sent h.json ∨ bytes = sent h.key.json) :
    received (Draft.decoderAs request) bytes = .ok h.key := by
  have hdraft := Calendar.reads_draft request h.key
  rcases hbytes with rfl | rfl
  · unfold received sent
    rw [Data.JsonText.decode_write (Calendar.plain_holiday hid), Calendar.draft_of_row]
    exact hdraft _ (.same _) .jsonText
  · exact received_sent (Calendar.plain_draft h.key) hdraft

/-- **Holidays survive the wire.** A holiday whose id has 64 bits is received as
    it was sent; so are drafts in requests to create, to update and to create
    many together. A row that is sent back is taken for its day and name,
    unless its text is too long to be read. Two dates have two texts. -/
theorem holidays_survive :
    (∀ h : Holiday, h.id < 2 ^ 64 → received Holiday.decoder (sent h.json) = .ok h) ∧
    (∀ draft : Draft, received Draft.createDecoder (sent draft.json) = .ok draft ∧
      received Draft.updateDecoder (sent draft.json) = .ok draft) ∧
    (∀ drafts : List Draft, received draftsDecoder (sent (draftsJson drafts)) = .ok drafts) ∧
    (∀ (app : Application) (r : Request) (h : Holiday), h.id < 2 ^ 64 →
      MediaType.saysJson r.headers = true → r.body = sent h.json ∨ r.body = sent h.key.json →
      app.payload Draft.createDecoder r =
          (if app.bodyLimit r < r.body.length then .error .tooLong else .ok ⟨h.date, h.name⟩) ∧
        app.payload Draft.updateDecoder r =
          (if app.bodyLimit r < r.body.length then .error .tooLong else .ok ⟨h.date, h.name⟩)) ∧
    Function.Injective Date.text := by
  have hid : ∀ h : Holiday, h.id < 2 ^ 64 → h.id ≤ Text.max64 := by
    intro h hlt
    unfold Text.max64
    omega
  refine ⟨?_, ?_, ?_, ?_, Date.text_injective⟩
  · intro h hlt
    exact received_sent (Calendar.plain_holiday (hid h hlt)) (Calendar.reads_holiday (hid h hlt))
  · intro draft
    have hplain := Calendar.plain_draft draft
    exact ⟨received_sent hplain (Calendar.reads_draft _ draft),
      received_sent hplain (Calendar.reads_draft _ draft)⟩
  · intro drafts
    exact received_sent (Calendar.plain_drafts drafts) (Calendar.reads_drafts drafts)
  · intro app r h hlt htype hbody
    have hdraft : ∀ request, Says r (Draft.decoderAs request) h.key := by
      intro request
      exact received_row request (hid h hlt) hbody
    exact ⟨Application.payload_valid htype (hdraft _), Application.payload_valid htype (hdraft _)⟩

/-- A row with the last id, the leap day of a year with five digits, and a name
    in which quotes, control characters and characters of all lengths stand. -/
def oddRow : Holiday where
  id := 2 ^ 64 - 1
  date := ⟨10000, 2, 29, by decide, by decide, by decide⟩
  name := "\"\\\n\x01\x7f é€𝄞"

/-- The odd row is sent with escapes, it is received, and it is taken for its
    day and name when it is sent back. -/
theorem holidays_survive_oddRow :
    let app := (Application.build {} { data := {} }).1
    let r := { Application.creation with body := sent oddRow.json }
    oddRow.id < 2 ^ 64 ∧
    oddRow.json.write = "\x7b\"id\":18446744073709551615,\"holidayDate\":\"+10000-02-29\"," ++
      "\"name\":\"\\\"\\\\\\n\\u0001\x7f é€𝄞\"\x7d" ∧
    received Holiday.decoder (sent oddRow.json) = .ok oddRow ∧
    MediaType.saysJson r.headers = true ∧
    app.payload Draft.createDecoder r = .ok ⟨oddRow.date, oddRow.name⟩ := by
  intro app r
  have hid : oddRow.id < 2 ^ 64 := by decide
  have htype : MediaType.saysJson r.headers = true := by
    show MediaType.saysJson Application.creation.headers = true
    decide +kernel
  have hlength : r.body.length = 89 := by
    show (Text.Utf8.encode oddRow.json.write).length = 89
    rw [Text.Utf8.encode_eq_flatMap]
    decide +kernel
  have hlimit : ¬app.bodyLimit r < r.body.length := by
    rw [hlength]
    show ¬Application.bodyLimit ⟨{}, _⟩ Application.creation < 89
    decide +kernel
  obtain ⟨hreceived, -, -, hback, -⟩ := holidays_survive
  obtain ⟨hcreate, -⟩ := hback app r oddRow hid htype (.inl rfl)
  rw [if_neg hlimit] at hcreate
  exact ⟨hid, by decide, hreceived oddRow hid, htype, hcreate⟩

end HolidayApi.Web
