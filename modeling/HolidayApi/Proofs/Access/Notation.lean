import HolidayApi.Access.AllowList
import HolidayApi.Proofs.Net.Dotted

/-! # What is written of an entry denotes it

    A text is read in one of five ways, and which one follows from the
    characters in it (`Reading`). Reading a text keeps to this
    (`reading_parse`), so later proofs take the cases of the relation and do
    not open the reader.

    Entries are written in a notation of their own. A block may have been
    given with signs and leading zeros, and it is written without them; all
    other entries are written as they were given (`text_parse`). Either way
    the text that is written denotes the entry (`parse_text`), and the
    spellings of a block are the texts that are written as its canonical one
    (`shown_reread`).
-/

namespace HolidayApi.Access

namespace Entry

/-! ### How a text is read -/

/-- A spelling of a block: a lenient notation of its base and, behind a slash,
    a numeral of its length. -/
def Spells (raw : List Char) (base : Net.Ipv4) (length : Fin 33) : Prop :=
  ∃ address bits : List Char, raw = address ++ '/' :: bits ∧
    base.Lenient address ∧ Text.Numeral length bits

/-- The ways in which a text is read as an entry. -/
inductive Reading (raw : String) : Entry → Prop where
  /-- A star alone is every text. -/
  | any (hraw : raw = "*") : Reading raw .any
  /-- A spelling of a block is the block. -/
  | block {base : Net.Ipv4} {length : Fin 33} (hspells : Spells raw.toList base length) :
      Reading raw (.block base length)
  /-- Without a slash, but with a star, four parts are a wildcard. -/
  | wildcard {a b c d : List Char} (hslash : '/' ∉ raw.toList) (hstar : '*' ∈ raw.toList)
      (hparts : Text.splitOn '.' raw.toList = [a, b, c, d]) :
      Reading raw (.wildcard (.ofList a) (.ofList b) (.ofList c) (.ofList d))
  /-- Without slash and star a text is itself. -/
  | exact (hslash : '/' ∉ raw.toList) (hstar : '*' ∉ raw.toList) : Reading raw (.exact raw)
  /-- A text with a slash that spells no block means nothing. -/
  | noBlock (hslash : '/' ∈ raw.toList)
      (hspells : ∀ base length, ¬Spells raw.toList base length) : Reading raw (.malformed raw)
  /-- A text with a star that is not all of it, and not in four parts, means
      nothing. -/
  | noWildcard (hraw : raw ≠ "*") (hslash : '/' ∉ raw.toList) (hstar : '*' ∈ raw.toList)
      (hparts : ∀ a b c d, Text.splitOn '.' raw.toList ≠ [a, b, c, d]) :
      Reading raw (.malformed raw)

/-- Blocks are read from their spellings. -/
theorem block?_eq_some_iff {raw : List Char} {entry : Entry} :
    block? raw = some entry ↔
      ∃ base length, entry = .block base length ∧ Spells raw base length := by
  constructor
  · intro h
    unfold block? at h
    simp only [Option.bind_eq_bind, Option.bind_eq_some_iff] at h
    obtain ⟨⟨address, bits⟩, hcut, n, hn, base, hbase, hentry⟩ := h
    cases hentry
    obtain ⟨hbits, hle⟩ := Text.natural?_eq_some_iff.mp hn
    have hlength : (Fin.ofNat 33 n).val = n := Nat.mod_eq_of_lt (by omega)
    refine ⟨base, Fin.ofNat 33 n, rfl, address, bits, (Text.cutAt_eq_some hcut).1,
      Net.Ipv4.value?_eq_some_iff.mp hbase, ?_⟩
    rw [hlength]
    exact hbits
  · rintro ⟨base, length, rfl, address, bits, rfl, haddress, hbits⟩
    have hslash : '/' ∉ address := haddress.not_mem rfl (by decide) (by decide)
    have hlength : Text.natural? 32 bits = some length.val :=
      Text.natural?_eq_some_iff.mpr ⟨hbits, by omega⟩
    unfold block?
    rw [Text.cutAt_append _ hslash]
    simp [hlength, Net.Ipv4.value?_eq_some_iff.mpr haddress]

/-- **Texts are read in one of these ways.** -/
theorem reading_parse (raw : String) : Reading raw (parse raw) := by
  unfold parse
  split
  · next hraw => exact .any hraw
  · next hraw =>
    split
    · next hslash =>
      cases hblock : block? raw.toList with
      | none =>
        refine .noBlock hslash fun base length hspells => ?_
        rw [block?_eq_some_iff.mpr ⟨base, length, rfl, hspells⟩] at hblock
        cases hblock
      | some entry =>
        obtain ⟨base, length, rfl, hspells⟩ := block?_eq_some_iff.mp hblock
        exact .block hspells
    · next hslash =>
      split
      · next hstar =>
        unfold wildcard?
        split
        · next a b c d hparts => exact .wildcard hslash hstar hparts
        · next hparts => exact .noWildcard hraw hslash hstar hparts
      · next hstar => exact .exact hslash hstar

/-- A reading is how the text is read, so there is one for each text. -/
theorem parse_eq_iff {raw : String} {entry : Entry} : parse raw = entry ↔ Reading raw entry := by
  constructor
  · rintro rfl
    exact reading_parse raw
  · intro h
    -- no text with another character beside it is a star alone
    have hany : ∀ {c : Char}, c ∈ raw.toList → c ≠ '*' → raw ≠ "*" := by
      rintro c hc hne rfl
      exact hne (List.mem_singleton.mp hc)
    unfold parse
    cases h with
    | any hraw => rw [if_pos hraw]
    | block hspells =>
      have hslash : '/' ∈ raw.toList := by
        obtain ⟨_, _, hraw, _⟩ := hspells
        simp [hraw]
      rw [if_neg (hany hslash (by decide)), if_pos hslash,
        block?_eq_some_iff.mpr ⟨_, _, rfl, hspells⟩, Option.getD_some]
    | wildcard hslash hstar hparts =>
      have hraw : raw ≠ "*" := by
        rintro rfl
        have hfour : (Text.splitOn '.' "*".toList).length = 4 := congrArg List.length hparts
        exact absurd hfour (by decide)
      unfold wildcard?
      rw [if_neg hraw, if_neg hslash, if_pos hstar, hparts, Option.getD_some]
    | exact hslash hstar =>
      have hraw : raw ≠ "*" := by
        rintro rfl
        exact hstar (by decide)
      rw [if_neg hraw, if_neg hslash, if_neg hstar]
    | noBlock hslash hspells =>
      have hblock : block? raw.toList = none := by
        refine Option.eq_none_iff_forall_ne_some.mpr fun entry h => ?_
        obtain ⟨base, length, _, hspelled⟩ := block?_eq_some_iff.mp h
        exact hspells base length hspelled
      rw [if_neg (hany hslash (by decide)), if_pos hslash, hblock, Option.getD_none]
    | noWildcard hraw hslash hstar hparts =>
      have hwildcard : wildcard? raw.toList = none := by
        unfold wildcard?
        split
        · next a b c d h => exact absurd h (hparts a b c d)
        · rfl
      rw [if_neg hraw, if_neg hslash, if_pos hstar, hwildcard, Option.getD_none]

theorem parse_eq_block_iff {raw : String} {base : Net.Ipv4} {length : Fin 33} :
    parse raw = .block base length ↔ Spells raw.toList base length := by
  rw [parse_eq_iff]
  constructor
  · intro h
    cases h with
    | block hspells => exact hspells
  · exact .block

/-! ### How an entry is written -/

/-- The characters of the canonical notation of a block. -/
theorem toList_text_block (base : Net.Ipv4) (length : Fin 33) :
    (block base length).text.toList = base.dotted ++ '/' :: Text.decimal length := by
  simp [text, Net.Ipv4.text]

/-- A block is read back from its canonical notation. -/
theorem parse_text_block (base : Net.Ipv4) (length : Fin 33) :
    parse (block base length).text = .block base length :=
  parse_eq_block_iff.mpr ⟨base.dotted, Text.decimal length, toList_text_block base length,
    base.lenient_dotted, Text.numeral_decimal length⟩

/-- What a text denotes that is no block is written as that text. -/
theorem text_parse (raw : String) :
    (parse raw).text = raw ∨ ∃ base length, parse raw = .block base length := by
  have hreading := reading_parse raw
  generalize parse raw = entry at hreading ⊢
  cases hreading with
  | any hraw => exact .inl hraw.symm
  | block hspells => exact .inr ⟨_, _, rfl⟩
  | wildcard hslash hstar hparts =>
    have hjoined := Text.joinWith_splitOn '.' raw.toList
    rw [hparts] at hjoined
    left
    simp [text, hjoined]
  | exact hslash hstar => exact .inl rfl
  | noBlock hslash hspells => exact .inl rfl
  | noWildcard hraw hslash hstar hparts => exact .inl rfl

/-- **What is written of an entry denotes the entry**, where the entry was read
    from a text. -/
theorem parse_text (raw : String) : parse (parse raw).text = parse raw := by
  rcases text_parse raw with h | ⟨base, length, h⟩
  · rw [h]
  · rw [h, parse_text_block]

/-- The spellings of a block are what is written as its canonical notation. -/
theorem text_parse_eq_iff {raw : String} {base : Net.Ipv4} {length : Fin 33} :
    (parse raw).text = (block base length).text ↔ Spells raw.toList base length := by
  rw [← parse_eq_block_iff]
  constructor
  · intro h
    rw [← parse_text raw, h, parse_text_block]
  · intro h
    rw [h]

/-- **Writing undoes reading.** What is written of an entry is read as the same
    entry, and it is the text that was given unless the entry is a block. Of a
    block the four octets are written as plain numbers, they pack to its base
    again, and all spellings of it and nothing else are written in this way. -/
theorem shown_reread :
    (∀ raw : String, parse (parse raw).text = parse raw ∧
      ((parse raw).text = raw ∨ ∃ base length, parse raw = .block base length)) ∧
    ∀ (base : Net.Ipv4) (length : Fin 33),
      parse (block base length).text = .block base length ∧
      (∃ a b c d : BitVec 8,
        base.toNat = a.toNat * 2 ^ 24 + b.toNat * 2 ^ 16 + c.toNat * 2 ^ 8 + d.toNat ∧
        ∃ quad : List Char,
          quad = Text.joinWith '.' ([a, b, c, d].map fun o => Text.decimal o.toNat) ∧
          (block base length).text.toList = quad ++ '/' :: Text.decimal length ∧
          Net.Ipv4.value? quad = some base) ∧
      ∀ raw : String,
        (parse raw).text = (block base length).text ↔ Spells raw.toList base length := by
  constructor
  · intro raw
    exact ⟨parse_text raw, text_parse raw⟩
  · intro base length
    refine ⟨parse_text_block base length, ?_, fun raw => text_parse_eq_iff⟩
    refine ⟨base.extractLsb' 24 8, base.extractLsb' 16 8, base.extractLsb' 8 8,
      base.extractLsb' 0 8, ?_, base.dotted, rfl, toList_text_block base length,
      base.value?_dotted⟩
    rw [← Net.Ipv4.toNat_ofOctets, Net.Ipv4.ofOctets_octets]

example : (Entry.parse "+010.0.0.07/08").text = "10.0.0.7/8" := by decide +kernel

end Entry

/-- The entries of the list were given as texts. -/
def AllowList.Denoted (list : AllowList) : Prop := ∃ patterns, list = .ofPatterns patterns

/-- A list of entries that were given as texts is what its own texts denote. -/
theorem AllowList.ofPatterns_patterns {list : AllowList} (h : list.Denoted) :
    .ofPatterns list.patterns = list := by
  obtain ⟨patterns, rfl⟩ := h
  show AllowList.mk (((patterns.map Entry.parse).map Entry.text).map Entry.parse) = _
  simp only [List.map_map, ofPatterns]
  congr 1
  refine List.map_congr_left ?_
  intro raw _
  exact Entry.parse_text raw

end HolidayApi.Access
