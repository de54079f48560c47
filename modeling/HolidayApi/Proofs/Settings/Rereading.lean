import HolidayApi.Proofs.Access.Notation
import HolidayApi.Proofs.Data.Decoding
import HolidayApi.Settings.Report

/-! # Settings are read back as they were written

    Whatever document the settings come from, their JSON value denotes the
    same settings again (`written_reread`). Two things have to come together:

    1. Not all settings are denoted by a document, but those that can be read
       are `Expressible`: their numbers are in range, and their allow lists
       hold entries that were given as texts.
    2. Settings that are expressible are read from their JSON value, one
       section after the other (`reads_settings`).
-/

namespace HolidayApi.Settings

open HolidayApi.Access (AllowList)
open HolidayApi.Data (Datum Dialect Json Decoder)
open HolidayApi.Data.Decoder (Ensures Fits Member Reads readAll written)

variable {σ α : Type}

/-! ### Sections -/

/-- Reading a setting notes that it was read. -/
def noting (part : Member σ) : Member (Reading σ) :=
  ⟨part.key, part.value, fun s => (part.change s.1, part.key :: s.2)⟩

/-- The field is a setting that is read from this part of a section. -/
structure IsSetting (field : Decoder.Field (Reading σ)) (part : Member σ) : Prop where
  fits : Fits field (noting part)
  noted : ∀ s, field.isSet s = s.2.contains field.name

theorem isSetting {name : String} {put : σ → α → σ} {value : Decoder α} {json : Json} {a : α}
    (h : value.Reads json a) :
    IsSetting (setting name put value) ⟨name, json, fun s => put s a⟩ := by
  refine ⟨⟨rfl, ?_⟩, fun s => rfl⟩
  intro json' hsame dialect s
  show (value dialect json'.datum).map _ = _
  rw [h json' hsame dialect]
  rfl

/-- Notes have no influence on what is read. -/
theorem readAll_noting (parts : List (Member σ)) (s : Reading σ) :
    (readAll (parts.map noting) s).1 = readAll parts s.1 := by
  induction parts generalizing s with
  | nil => rfl
  | cons part rest ih => exact ih _

/-- A section is read from its parts in any order. -/
theorem reads_section {name : String} {defaults target : σ}
    {settings : List (Decoder.Field (Reading σ))}
    {parts : List (Member σ)} (hparts : List.Forall₂ IsSetting settings parts)
    (hkeys : (parts.map Member.key).Nodup) (hcomm : parts.Pairwise Member.Commutes)
    (hall : readAll parts defaults = target) :
    (sectionDecoder name defaults settings).Reads (written parts) target := by
  have hwritten : written parts = written (parts.map noting) := by
    simp [written, noting, Function.comp_def]
  have hmembers : (parts.map noting).map Member.key = parts.map Member.key := by
    simp [noting, Function.comp_def]
  have hnoted : ∀ field ∈ settings, ∀ s : Reading σ, field.isSet s = s.2.contains field.name := by
    intro field hfield
    obtain ⟨part, _, hsetting⟩ := Decoder.exists_related hparts hfield
    exact hsetting.noted
  rw [hwritten]
  refine Decoder.reads_record ?_ (hmembers ▸ hkeys) ⟨?_, ?_⟩ ?_
  · rw [List.forall₂_map_right_iff]
    exact hparts.imp fun field part h => h.fits
  · -- nothing is noted at the start
    intro field hfield
    rw [hnoted field hfield]
    rfl
  · -- a part notes its own key and no other
    intro field hfield m hm hne s
    obtain ⟨part, _, rfl⟩ := List.mem_map.mp hm
    have hother : field.name ≠ part.key := hne
    rw [hnoted field hfield, hnoted field hfield]
    simp [noting, hother]
  · -- parts of a section change different fields, so their order is free
    intro ordered hordered
    obtain ⟨parts', hperm, rfl⟩ := Decoder.exists_perm_of_map hordered
    show Except.ok (readAll (parts'.map noting) (defaults, [])).1 = _
    rw [readAll_noting, Decoder.readAll_perm hperm hcomm, hall]

/-- A setting keeps what holds of the section if its values are good. -/
theorem keeps_setting {name : String} {put : σ → α → σ} {value : Decoder α} {good : α → Prop}
    {invariant : σ → Prop} (hvalue : Ensures value good)
    (hput : ∀ s a, invariant s → good a → invariant (put s a)) :
    (setting name put value).Keeps fun s => invariant s.1 :=
  Decoder.keeps_of_good (fun s a => (put s.1 a, name :: s.2)) hvalue (fun s a => hput s.1 a)
    fun _ _ _ => rfl

theorem ensures_section {name : String} {defaults : σ} {settings : List (Decoder.Field (Reading σ))}
    (invariant : σ → Prop) (hdefaults : invariant defaults)
    (hsettings : ∀ field ∈ settings, field.Keeps fun s => invariant s.1) :
    Ensures (sectionDecoder name defaults settings) invariant := by
  refine Decoder.ensures_record hsettings hdefaults ?_
  intro s a hs h
  cases h
  exact hs

/-! ### What can be read -/

/-- Values of which nothing is said. -/
theorem ensures_true (d : Decoder α) : Ensures d fun _ => True := by
  intro _ _ _ _
  trivial

theorem ensures_listDecoder : Ensures listDecoder AllowList.Denoted := by
  intro dialect datum list h
  simp only [listDecoder] at h
  cases hread : Decoder.list Decoder.text dialect datum with
  | error e =>
    rw [hread] at h
    cases h
  | ok patterns =>
    rw [hread] at h
    cases h
    exact ⟨patterns, rfl⟩

theorem denoted_empty : AllowList.empty.Denoted := ⟨[], rfl⟩

theorem denoted_loopback : AllowList.loopback.Denoted := ⟨_, rfl⟩

/-- The number is in range. -/
structure Timeouts.Expressible (t : Timeouts) : Prop where
  requestSecs : t.requestSecs ≤ Text.max64

/-- The number is in range, and the entries were given as texts. -/
structure Security.Expressible (s : Security) : Prop where
  size : s.maxBodySize ≤ Text.max64
  allowed : s.allowed.Denoted
  allowedAlways : s.allowedAlways.Denoted
  trustedProxies : s.trustedProxies.Denoted

/-- Numbers are in range, and entries were given as texts. -/
structure Expressible (s : Settings) : Prop where
  timeouts : s.timeouts.Expressible
  security : s.security.Expressible
  operations : ∀ g ∈ s.operations, g.allowed.Denoted

theorem ensures_timeouts : Ensures Timeouts.decoder Timeouts.Expressible := by
  refine ensures_section _ ⟨by decide⟩ ?_
  intro field hfield
  rw [List.mem_singleton] at hfield
  subst hfield
  exact keeps_setting (Decoder.ensures_natural _) fun _ _ _ h => ⟨h⟩

theorem expressible_default : Security.Expressible {} :=
  ⟨by decide, denoted_empty, denoted_loopback, denoted_loopback⟩

theorem ensures_security : Ensures Security.decoder Security.Expressible := by
  refine ensures_section _ expressible_default ?_
  intro field hfield
  simp only [List.mem_cons, List.not_mem_nil, or_false] at hfield
  rcases hfield with rfl | rfl | rfl | rfl
  · exact keeps_setting (Decoder.ensures_natural _) fun _ _ hs h => { hs with size := h }
  · exact keeps_setting ensures_listDecoder fun _ _ hs h => { hs with allowed := h }
  · exact keeps_setting ensures_listDecoder fun _ _ hs h => { hs with allowedAlways := h }
  · exact keeps_setting ensures_listDecoder fun _ _ hs h => { hs with trustedProxies := h }

theorem ensures_operationGuard : Ensures OperationGuard.decoder fun g => g.allowed.Denoted := by
  have hkept : ∀ field ∈ [Decoder.Field.of "name" PartialGuard.name
        (fun p v => { p with name := some v }) Decoder.text,
      .of "allowed_ips" PartialGuard.allowed (fun p v => { p with allowed := some v })
        listDecoder],
      field.Keeps fun p => ∀ list ∈ p.allowed, list.Denoted := by
    intro field hfield
    simp only [List.mem_cons, List.not_mem_nil, or_false] at hfield
    rcases hfield with rfl | rfl
    · exact Decoder.keeps_of_good (fun p name => { p with name := some name })
        (ensures_true Decoder.text) (fun _ _ hs _ => hs) fun _ _ _ => rfl
    · refine Decoder.keeps_of_good _ ensures_listDecoder ?_ fun _ _ _ => rfl
      intro p list _ hlist other hother
      cases hother
      exact hlist
  refine Decoder.ensures_record hkept (by simp) ?_
  intro p g hp h
  simp only [PartialGuard.finish] at h
  split at h
  · cases h
  · cases h
  · -- both parts are there
    next name allowed _ hallowed =>
    cases h
    exact hp allowed hallowed

/-- All settings that can be read are expressible. -/
theorem ensures_settings : Ensures decoder Expressible := by
  have hdefaults : Expressible {} := ⟨⟨by decide⟩, expressible_default, by simp⟩
  refine ensures_section _ hdefaults ?_
  intro field hfield
  simp only [List.mem_cons, List.not_mem_nil, or_false] at hfield
  rcases hfield with rfl | rfl | rfl | rfl | rfl | rfl
  · exact keeps_setting (ensures_true _) fun _ _ hs _ => { hs with }
  · exact keeps_setting ensures_timeouts fun _ _ hs h => { hs with timeouts := h }
  · exact keeps_setting (ensures_true _) fun _ _ hs _ => { hs with }
  · exact keeps_setting ensures_security fun _ _ hs h => { hs with security := h }
  · exact keeps_setting (ensures_true _) fun _ _ hs _ => { hs with }
  · exact keeps_setting (Decoder.ensures_list ensures_operationGuard)
      fun _ _ hs h => { hs with operations := h }

/-! ### Reading what was written -/

theorem reads_texts (items : List String) : textsDecoder.Reads (.texts items) items := by
  refine Decoder.reads_list ?_
  rw [List.forall₂_map_left_iff, List.forall₂_same]
  intro item _
  exact Decoder.reads_text item

theorem reads_allowList {list : AllowList} (h : list.Denoted) :
    listDecoder.Reads (listJson list) list := by
  intro json' hsame dialect
  have htexts : Decoder.list Decoder.text dialect json'.datum = .ok list.patterns :=
    reads_texts list.patterns json' hsame dialect
  show (Decoder.list Decoder.text dialect json'.datum).map _ = _
  rw [htexts]
  exact congrArg Except.ok (AllowList.ofPatterns_patterns h)

theorem reads_logFormat (format : LogFormat) :
    LogFormat.decoder.Reads (.text format.name) format := by
  refine Decoder.reads_choice ?_
  cases format <;> rfl

/-- What is written of a listener. -/
def Listener.parts (l : Listener) : List (Member Listener) :=
  [⟨"bind_address", .text l.bindAddress, fun s => { s with bindAddress := l.bindAddress }⟩]

theorem reads_listener (l : Listener) : Listener.decoder.Reads (written l.parts) l := by
  refine reads_section ?_ (by simp [Listener.parts]) (by simp [Listener.parts]) rfl
  exact .cons (isSetting (Decoder.reads_text _)) .nil

/-- What is written of timeouts. -/
def Timeouts.parts (t : Timeouts) : List (Member Timeouts) :=
  [⟨"request_secs", .nat t.requestSecs, fun s => { s with requestSecs := t.requestSecs }⟩]

theorem reads_timeouts {t : Timeouts} (h : t.Expressible) :
    Timeouts.decoder.Reads (written t.parts) t := by
  refine reads_section ?_ (by simp [Timeouts.parts]) (by simp [Timeouts.parts]) rfl
  exact .cons (isSetting (Decoder.reads_natural h.requestSecs)) .nil

/-- What is written of what can be seen. -/
def Observability.parts (o : Observability) : List (Member Observability) :=
  [⟨"log_level", .text o.logLevel, fun s => { s with logLevel := o.logLevel }⟩,
   ⟨"log_format", .text o.logFormat.name, fun s => { s with logFormat := o.logFormat }⟩,
   ⟨"metrics_enabled", .bool o.metricsEnabled,
     fun s => { s with metricsEnabled := o.metricsEnabled }⟩,
   ⟨"metrics_address", .text o.metricsAddress,
     fun s => { s with metricsAddress := o.metricsAddress }⟩]

theorem reads_observability (o : Observability) :
    Observability.decoder.Reads (written o.parts) o := by
  refine reads_section ?_ (by simp [Observability.parts])
    (by simp [Observability.parts, Member.Commutes]) rfl
  exact .cons (isSetting (Decoder.reads_text _)) <| .cons (isSetting (reads_logFormat _)) <|
    .cons (isSetting (Decoder.reads_boolean _)) <| .cons (isSetting (Decoder.reads_text _)) .nil

/-- What is written of who may do what. -/
def Security.parts (s : Security) : List (Member Security) :=
  [⟨"max_body_size", .nat s.maxBodySize, fun t => { t with maxBodySize := s.maxBodySize }⟩,
   ⟨"allowed_ips", listJson s.allowed, fun t => { t with allowed := s.allowed }⟩,
   ⟨"default_allowed_ips", listJson s.allowedAlways,
     fun t => { t with allowedAlways := s.allowedAlways }⟩,
   ⟨"trusted_proxies", listJson s.trustedProxies,
     fun t => { t with trustedProxies := s.trustedProxies }⟩]

theorem reads_security {s : Security} (h : s.Expressible) :
    Security.decoder.Reads (written s.parts) s := by
  refine reads_section ?_ (by simp [Security.parts]) (by simp [Security.parts, Member.Commutes]) rfl
  exact .cons (isSetting (Decoder.reads_natural h.size)) <|
    .cons (isSetting (reads_allowList h.allowed)) <|
    .cons (isSetting (reads_allowList h.allowedAlways)) <|
    .cons (isSetting (reads_allowList h.trustedProxies)) .nil

/-- What is written of the choice of traced operations. -/
def Tracing.parts (t : Tracing) : List (Member Tracing) :=
  [⟨"enabled", .bool t.enabled, fun s => { s with enabled := t.enabled }⟩,
   ⟨"include", .texts t.included, fun s => { s with included := t.included }⟩,
   ⟨"exclude", .texts t.excluded, fun s => { s with excluded := t.excluded }⟩]

theorem reads_tracing (t : Tracing) : Tracing.decoder.Reads (written t.parts) t := by
  refine reads_section ?_ (by simp [Tracing.parts]) (by simp [Tracing.parts, Member.Commutes]) rfl
  exact .cons (isSetting (Decoder.reads_boolean _)) <| .cons (isSetting (reads_texts _)) <|
    .cons (isSetting (reads_texts _)) .nil

/-- What is written of the guard of an operation. Both parts have to be there,
    so what is read of it is unfinished until then. -/
def OperationGuard.parts (g : OperationGuard) : List (Member PartialGuard) :=
  [⟨"name", .text g.name, fun p => { p with name := some g.name }⟩,
   ⟨"allowed_ips", listJson g.allowed, fun p => { p with allowed := some g.allowed }⟩]

theorem reads_operationGuard {g : OperationGuard} (h : g.allowed.Denoted) :
    OperationGuard.decoder.Reads (written g.parts) g := by
  refine Decoder.reads_record ?_ (by simp [OperationGuard.parts]) ⟨?_, ?_⟩ ?_
  · refine .cons ⟨rfl, ?_⟩ (.cons ⟨rfl, ?_⟩ .nil)
    · intro json' hsame dialect p
      show (Decoder.text dialect json'.datum).map _ = _
      rw [Decoder.reads_text g.name json' hsame dialect]
      rfl
    · intro json' hsame dialect p
      show (listDecoder dialect json'.datum).map _ = _
      rw [reads_allowList h json' hsame dialect]
      rfl
  · intro field hfield
    simp only [List.mem_cons, List.not_mem_nil, or_false] at hfield
    rcases hfield with rfl | rfl <;> rfl
  · -- of the two fields, neither is set by the part of the other
    intro field hfield m hm hne p
    simp only [List.mem_cons, List.not_mem_nil, or_false, OperationGuard.parts] at hfield hm
    rcases hfield with rfl | rfl <;> rcases hm with rfl | rfl
    · exact absurd rfl hne
    · rfl
    · rfl
    · exact absurd rfl hne
  · intro ordered hordered
    have hcomm : g.parts.Pairwise Member.Commutes := by
      simp [OperationGuard.parts, Member.Commutes]
    rw [Decoder.readAll_perm hordered hcomm]
    rfl

/-- What is written of the settings. -/
def parts (s : Settings) : List (Member Settings) :=
  [⟨"listener", written s.listener.parts, fun t => { t with listener := s.listener }⟩,
   ⟨"timeouts", written s.timeouts.parts, fun t => { t with timeouts := s.timeouts }⟩,
   ⟨"observability", written s.observability.parts,
     fun t => { t with observability := s.observability }⟩,
   ⟨"security", written s.security.parts, fun t => { t with security := s.security }⟩,
   ⟨"trace", written s.trace.parts, fun t => { t with trace := s.trace }⟩,
   ⟨"operations", .list (s.operations.map fun g => written g.parts),
     fun t => { t with operations := s.operations }⟩]

theorem written_parts (s : Settings) : written s.parts = s.toJson := rfl

/-- Settings that are expressible are read from their JSON value. -/
theorem reads_settings {s : Settings} (h : s.Expressible) : decoder.Reads s.toJson s := by
  have hoperations : (Decoder.list OperationGuard.decoder).Reads
      (.list (s.operations.map fun g => written g.parts)) s.operations := by
    refine Decoder.reads_list ?_
    rw [List.forall₂_map_left_iff, List.forall₂_same]
    intro g hg
    exact reads_operationGuard (h.operations g hg)
  rw [← written_parts]
  refine reads_section ?_ (by simp [parts]) (by simp [parts, Member.Commutes]) rfl
  exact .cons (isSetting (reads_listener _)) <| .cons (isSetting (reads_timeouts h.timeouts)) <|
    .cons (isSetting (reads_observability _)) <| .cons (isSetting (reads_security h.security)) <|
    .cons (isSetting (reads_tracing _)) <| .cons (isSetting hoperations) .nil

/-! ### The result -/

/-- **Settings survive being written and read back.** Whatever document the
    settings were read from, their JSON value with its members in any order
    denotes them in every dialect. So nothing that is said about the settings
    changes: the check, the dead entries, the verdicts, the advices of all
    operations, and the JSON value itself. -/
theorem written_reread {dialect : Dialect} {datum : Datum} {s : Settings}
    (hread : decoder dialect datum = .ok s) {json : Json} (hsame : s.toJson.Rearranged json)
    (again : Dialect) :
    ∃ t, decoder again json.datum = .ok t ∧ t = s ∧
      t.violations = s.violations ∧
      (∀ start : Call.Session Unit, t.check.run start = s.check.run start) ∧
      t.deadEntries = s.deadEntries ∧
      (∀ address operation, t.verdict address operation = s.verdict address operation) ∧
      chains ((Web.declarations t).registry (Call.Recorder.standard (σ := Unit))) =
        chains ((Web.declarations s).registry (Call.Recorder.standard (σ := Unit))) ∧
      t.toJson = s.toJson := by
  have hexpressible : s.Expressible := ensures_settings dialect datum s hread
  have hreread : decoder again json.datum = .ok s := reads_settings hexpressible json hsame again
  exact ⟨s, hreread, rfl, rfl, fun _ => rfl, rfl, fun _ _ => rfl, rfl, rfl⟩

/-- A document with entries of all kinds, some of them not as they are written. -/
def oddDocument : Datum :=
  .mapping
    [(some "timeouts", .mapping [(some "request_secs", .integer 18446744073709551615)] true),
     (some "security", .mapping [(some "allowed_ips", .sequence
        [.text (some "+010.0.0.07/08"), .text (some "2.*.x.7"), .text (some "10.*"),
         .text (some "*"), .text (some "1.2.3.4/33"), .text (some "")] true)] true),
     (some "operations", .sequence [.mapping
        [(some "allowed_ips", .sequence [.text (some "::1/8")] true),
         (some "name", .text (some "HolidayController.delete"))] true] true)] true

/-- What the document denotes. -/
def oddSettings : Settings where
  timeouts := ⟨18446744073709551615⟩
  security :=
    { allowed := ⟨[.block 0x0a000007#32 ⟨8, by decide⟩, .wildcard "2" "*" "x" "7",
        .malformed "10.*", .any, .malformed "1.2.3.4/33", .exact ""]⟩ }
  operations := [⟨"HolidayController.delete", ⟨[.malformed "::1/8"]⟩⟩]

/-- Settings with odd entries are written with other texts, which denote them. -/
theorem written_reread_oddSettings :
    decoder .toml oddDocument = .ok oddSettings ∧
      oddSettings.security.allowed.patterns =
        ["10.0.0.7/8", "2.*.x.7", "10.*", "*", "1.2.3.4/33", ""] ∧
      oddSettings.deadEntries.length = 3 ∧
      decoder .jsonValue oddSettings.toJson.datum = .ok oddSettings := by
  have hread : decoder .toml oddDocument = .ok oddSettings := rfl
  obtain ⟨t, hreread, hsame, _⟩ := written_reread hread (.same _) .jsonValue
  subst hsame
  exact ⟨hread, by decide +kernel, by decide +kernel, hreread⟩

end HolidayApi.Settings
