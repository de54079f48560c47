import HolidayApi.Calendar.Store
import HolidayApi.Proofs.Calendar.Dates
import HolidayApi.Proofs.Data.Decoding
import HolidayApi.Proofs.Data.Written

/-! # Holidays in documents

    What is written of holidays and drafts is read back by their decoders, in
    whatever order the members stand and in every dialect. A decoder of drafts
    passes over the id of a holiday, so it reads the draft of a whole row
    (`draft_of_row`).
-/

namespace HolidayApi.Calendar

open HolidayApi.Data (Decoder Dialect Json)

/-! ### Reading what was written -/

theorem reads_date (d : Date) : Date.decoder.Reads (.text d.text) d := by
  intro json' hsame dialect
  cases hsame
  simp only [Date.decoder, Json.datum, Decoder.textAs, Date.parse_text]

/-- The id as it is written. -/
def idMember (id : Nat) : Decoder.Member Partial :=
  ⟨"id", .nat id, fun p => { p with id := some id }⟩

/-- The day as it is written. -/
def dateMember (date : Date) : Decoder.Member Partial :=
  ⟨"holidayDate", .text date.text, fun p => { p with date := some date }⟩

/-- The name as it is written. -/
def nameMember (name : String) : Decoder.Member Partial :=
  ⟨"name", .text name, fun p => { p with name := some name }⟩

theorem fits_id {id : Nat} (h : id ≤ Text.max64) : Decoder.Fits Partial.idField (idMember id) :=
  Decoder.fits_of "id" (Decoder.reads_natural h)

theorem fits_date (date : Date) : Decoder.Fits Partial.dateField (dateMember date) :=
  Decoder.fits_of "holidayDate" (reads_date date)

theorem fits_name (name : String) : Decoder.Fits Partial.nameField (nameMember name) :=
  Decoder.fits_of "name" (Decoder.reads_text name)

/-- A field is set by its own member only. -/
theorem apart_members (id : Nat) (date : Date) (name : String) :
    Decoder.Apart [Partial.idField, Partial.dateField, Partial.nameField]
      [idMember id, dateMember date, nameMember name] {} := by
  refine ⟨?_, ?_⟩
  · intro field hfield
    simp only [List.mem_cons, List.not_mem_nil, or_false] at hfield
    rcases hfield with rfl | rfl | rfl <;> rfl
  · intro field hfield m hm hne p
    simp only [List.mem_cons, List.not_mem_nil, or_false] at hfield hm
    rcases hfield with rfl | rfl | rfl <;> rcases hm with rfl | rfl | rfl <;>
      simp [Partial.idField, Partial.dateField, Partial.nameField, Decoder.Field.of, idMember,
        dateMember, nameMember] at hne ⊢

theorem commutes_members (id : Nat) (date : Date) (name : String) :
    [idMember id, dateMember date, nameMember name].Pairwise Decoder.Member.Commutes := by
  simp [Decoder.Member.Commutes, idMember, dateMember, nameMember]

/-- **A stored holiday is read as it was written.** -/
theorem reads_holiday {h : Holiday} (hid : h.id ≤ Text.max64) :
    Holiday.decoder.Reads h.json h := by
  have hfits := fits_id hid
  have hapart := apart_members h.id h.date h.name
  show Holiday.decoder.Reads
    (Decoder.written [idMember h.id, dateMember h.date, nameMember h.name]) h
  refine Decoder.reads_record ?_ (by simp [idMember, dateMember, nameMember]) hapart ?_
  · exact .cons hfits <| .cons (fits_date _) <| .cons (fits_name _) .nil
  · intro ordered hordered
    rw [Decoder.readAll_perm hordered (commutes_members _ _ _)]
    rfl

/-- **A draft is read as it was written**, whatever the request is called. -/
theorem reads_draft (request : String) (d : Draft) : (Draft.decoderAs request).Reads d.json d := by
  obtain ⟨hunset, hothers⟩ := apart_members 0 d.date d.name
  show (Draft.decoderAs request).Reads (Decoder.written [dateMember d.date, nameMember d.name]) d
  refine Decoder.reads_record ?_ (by simp [dateMember, nameMember]) ⟨?_, ?_⟩ ?_
  · exact .cons (fits_date _) <| .cons (fits_name _) .nil
  · intro field hfield
    exact hunset field (List.mem_cons_of_mem _ hfield)
  · intro field hfield m hm
    exact hothers field (List.mem_cons_of_mem _ hfield) m (List.mem_cons_of_mem _ hm)
  · intro ordered hordered
    rw [Decoder.readAll_perm hordered (commutes_members 0 _ _).tail]
    rfl

/-- **Drafts are read as they were written**, however many there are. -/
theorem reads_drafts (drafts : List Draft) : draftsDecoder.Reads (draftsJson drafts) drafts := by
  have hlist : (Decoder.list Draft.createDecoder).Reads (.list (drafts.map Draft.json)) drafts := by
    refine Decoder.reads_list ?_
    rw [List.forall₂_map_left_iff, List.forall₂_same]
    intro d _
    exact reads_draft "CreateHolidayRequest" d
  show draftsDecoder.Reads
    (Decoder.written [⟨"holidays", .list (drafts.map Draft.json), fun _ => some drafts⟩]) drafts
  refine Decoder.reads_record ?_ (by simp) ⟨?_, ?_⟩ ?_
  · exact .cons (Decoder.fits_of "holidays" hlist) .nil
  · intro field hfield
    rw [List.mem_singleton] at hfield
    subst hfield
    rfl
  · intro field hfield m hm hne
    rw [List.mem_singleton] at hfield hm
    subst hfield hm
    exact absurd rfl hne
  · intro ordered hordered
    cases List.singleton_perm.mp hordered
    rfl

/-! ### Rows as drafts -/

/-- In a row the decoder of drafts sees what it sees in the draft. -/
theorem draft_of_row (request : String) (dialect : Dialect) (h : Holiday) :
    Draft.decoderAs request dialect h.json.datum =
      Draft.decoderAs request dialect h.key.json.datum := by
  refine Decoder.decoder_skip ?_ rfl dialect _ true
  intro field hfield
  simp only [List.mem_cons, List.not_mem_nil, or_false] at hfield
  rcases hfield with rfl | rfl <;> decide

/-! ### Plain values -/

theorem plain_draft (d : Draft) : d.json.Plain :=
  .member (.text _) <| .member (.text _) .empty

theorem plain_holiday {h : Holiday} (hid : h.id ≤ Text.max64) : h.json.Plain := by
  have hinteger : Data.JsonText.IsInteger (h.id : Int) := by
    unfold Data.JsonText.IsInteger
    omega
  exact .member (.int hinteger) (plain_draft h.key)

theorem plain_drafts (drafts : List Draft) : (draftsJson drafts).Plain := by
  have hlist : (Json.list (drafts.map Draft.json)).Plain := by
    refine .list ?_
    intro item hitem
    obtain ⟨d, _, rfl⟩ := List.mem_map.mp hitem
    exact plain_draft d
  exact .member hlist .empty

end HolidayApi.Calendar
