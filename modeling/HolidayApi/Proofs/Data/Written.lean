import HolidayApi.Proofs.Data.Literals
import HolidayApi.Proofs.Text.Encoding

/-! # JSON texts read back

    The text of a value is read as that value (`read_chars`), whatever strings
    and however many items and members stand in it, and so is its encoding
    (`decode_write`). Numbers with a fraction are left out, since their text
    need not tell them.

    Each move of the reader is paid for by the input it takes (`Situation.budget`),
    so what it has to do on a value does not depend on how the rest of the
    text goes on, and `read` allows for moves enough.
-/

namespace HolidayApi.Data

/-- A value in which all numbers are integers that have a type. -/
inductive Json.Plain : Json → Prop where
  | null : Plain .null
  | bool (b : Bool) : Plain (.bool b)
  | int {n : Int} : JsonText.IsInteger n → Plain (.int n)
  | text (s : String) : Plain (.text s)
  | list {items : List Json} : (∀ item ∈ items, Plain item) → Plain (.list items)
  | object {members : List (String × Json)} :
      (∀ m ∈ members, Plain m.2) → Plain (.object members)

theorem Json.Plain.empty : (Json.object []).Plain :=
  .object fun _ hm => absurd hm List.not_mem_nil

/-- An object is plain with one more plain member. -/
theorem Json.Plain.member {key : String} {value : Json} {members : List (String × Json)}
    (hvalue : value.Plain) (hrest : (Json.object members).Plain) :
    (Json.object ((key, value) :: members)).Plain := by
  cases hrest with
  | object h => exact .object (List.forall_mem_cons.mpr ⟨hvalue, h⟩)

namespace JsonText

/-! ### First characters -/

/-- The characters that a value may begin with. -/
def opens (c : Char) : Bool := c.isDigit || ['n', 't', 'f', '-', '"', '[', '\x7b'].contains c

theorem ne_of_opens {c d : Char} (hc : opens c = true) (hd : opens d = false) : c ≠ d := by
  rintro rfl
  rw [hc] at hd
  cases hd

/-- An integer begins with a sign or a digit. -/
theorem exists_first_integer (n : Int) :
    ∃ c cs, Json.integer n = c :: cs ∧ (c = '-' ∨ c.isDigit = true) := by
  unfold Json.integer
  split
  · exact ⟨_, _, rfl, .inl rfl⟩
  · obtain ⟨c, cs, hdecimal, hdigit⟩ := (Text.isRun_decimal n.natAbs).exists_first
    exact ⟨c, cs, hdecimal, .inr hdigit⟩

theorem opens_of_first {c : Char} (h : c = '-' ∨ c.isDigit = true) : opens c = true := by
  rcases h with rfl | hdigit
  · rfl
  · simp [opens, hdigit]

/-- The text of a value begins with such a character. -/
theorem exists_opens {json : Json} (h : json.Plain) :
    ∃ c cs, json.chars = c :: cs ∧ opens c = true := by
  cases h with
  | null => exact ⟨_, _, rfl, rfl⟩
  | bool b => cases b <;> exact ⟨_, _, rfl, rfl⟩
  | @int n _ =>
    obtain ⟨c, cs, hchars, hfirst⟩ := exists_first_integer n
    exact ⟨c, cs, hchars, opens_of_first hfirst⟩
  | text s => exact ⟨_, _, rfl, rfl⟩
  | list _ => exact ⟨_, _, rfl, rfl⟩
  | object _ => exact ⟨_, _, rfl, rfl⟩

/-- No blank stands before what is read next. -/
theorem skipBlanks_cons {c : Char} (h : isBlank (some c) = false) (rest : Input) :
    skipBlanks (some c :: rest) = some c :: rest := List.dropWhile_cons_of_neg (by simp [h])

theorem skipBlanks_opens {c : Char} (h : opens c = true) (rest : Input) :
    skipBlanks (some c :: rest) = some c :: rest := by
  have hspace := ne_of_opens h (d := ' ') rfl
  have hline := ne_of_opens h (d := '\n') rfl
  have htab := ne_of_opens h (d := '\t') rfl
  have hreturn := ne_of_opens h (d := '\r') rfl
  exact skipBlanks_cons (by simp [isBlank, hspace, hline, htab, hreturn]) rest

/-! ### Moves -/

/-- Where the reader stands. -/
structure Situation where
  mode : Mode
  stack : List Frame
  input : Input

/-- More than the moves that are left. What looks for a first item and finds
    one goes on without taking any input, so that move is paid for before. -/
def Situation.budget (s : Situation) : Nat :=
  2 * s.input.length + match s.mode with
    | .item => 1
    | _ => 0

/-- The reader gets from the first situation to the second, and what it does
    not need of its budget is left. -/
def Leads (a b : Situation) : Prop :=
  ∃ moves, moves + b.budget ≤ a.budget ∧ ∀ fuel,
    advance (fuel + moves) a.mode a.stack a.input = advance fuel b.mode b.stack b.input

theorem Leads.trans {a b c : Situation} (hab : Leads a b) (hbc : Leads b c) : Leads a c := by
  obtain ⟨m, hm, hfirst⟩ := hab
  obtain ⟨n, hn, hsecond⟩ := hbc
  refine ⟨n + m, by omega, ?_⟩
  intro fuel
  rw [← Nat.add_assoc, hfirst, hsecond]

/-- One move. -/
theorem Leads.of_move {a b : Situation} (hbudget : b.budget < a.budget)
    (h : ∀ fuel, advance (fuel + 1) a.mode a.stack a.input = advance fuel b.mode b.stack b.input) :
    Leads a b := ⟨1, by omega, h⟩

theorem Situation.budget_bounds (s : Situation) :
    2 * s.input.length ≤ s.budget ∧ s.budget ≤ 2 * s.input.length + 1 := by
  unfold Situation.budget
  split <;> omega

/-- One move that takes some of the input. -/
theorem Leads.of_shorter {a b : Situation} (hshorter : b.input.length < a.input.length)
    (h : ∀ fuel, advance (fuel + 1) a.mode a.stack a.input = advance fuel b.mode b.stack b.input) :
    Leads a b := by
  have ha := a.budget_bounds
  have hb := b.budget_bounds
  exact .of_move (by omega) h

variable {stack outer : List Frame} {rest : Input}

/-! Of a list the reader takes the bracket, then its items, each with the
    comma or the bracket behind it. -/

theorem leads_open_list :
    Leads ⟨.value, stack, some '[' :: rest⟩ ⟨.item, .items [] :: stack, rest⟩ :=
  .of_shorter (by simp) fun _ => rfl

theorem leads_empty_list :
    Leads ⟨.item, .items [] :: stack, some ']' :: rest⟩
      ⟨.complete (.sequence [] true), stack, rest⟩ :=
  .of_shorter (by simp) fun _ => rfl

theorem leads_first_item {c : Char} {tail : Input} (hrest : rest = some c :: tail)
    (h : opens c = true) : Leads ⟨.item, stack, rest⟩ ⟨.value, stack, rest⟩ := by
  subst hrest
  refine .of_move (by simp [Situation.budget]) ?_
  intro fuel
  have hne := ne_of_opens h (d := ']') rfl
  simp [advance, skipBlanks_opens h, hne]

theorem leads_next_item {datum : Datum} {read : List Datum} :
    Leads ⟨.complete datum, .items read :: outer, some ',' :: rest⟩
      ⟨.value, .items (datum :: read) :: outer, rest⟩ :=
  .of_shorter (by simp) fun _ => rfl

theorem leads_close_list {datum : Datum} {read : List Datum} :
    Leads ⟨.complete datum, .items read :: outer, some ']' :: rest⟩
      ⟨.complete (.sequence (read.reverse ++ [datum]) true), outer, rest⟩ := by
  rw [← List.reverse_cons]
  exact .of_shorter (by simp) fun _ => rfl

/-! Of an object it takes each key with the colon behind it in one move, and the
    value with the comma or the brace behind it after that. -/

/-- A quoted string as input, without what stands in it. -/
theorem map_quoted (s : String) (rest : Input) : (Json.quoted s).map some ++ rest =
    some '"' :: ((s.toList.flatMap Json.escapeChar).map some ++ some '"' :: rest) := by
  simp [Json.quoted]

theorem leads_open_object :
    Leads ⟨.value, stack, some '\x7b' :: rest⟩ ⟨.key [], stack, rest⟩ :=
  .of_shorter (by simp) fun _ => rfl

theorem leads_empty_object :
    Leads ⟨.key [], stack, some '\x7d' :: rest⟩ ⟨.complete (.mapping [] true), stack, rest⟩ :=
  .of_shorter (by simp) fun _ => rfl

theorem leads_key {read : List (Option String × Datum)} (key : String) :
    Leads ⟨.key read, outer, (Json.quoted key).map some ++ some ':' :: rest⟩
      ⟨.value, .entries read (some key) :: outer, rest⟩ := by
  have hshorter : rest.length < ((Json.quoted key).map some ++ some ':' :: rest).length := by
    simp only [List.length_append, List.length_cons]
    omega
  refine .of_shorter hshorter ?_
  intro fuel
  have hquote := skipBlanks_opens (c := '"') rfl
  have hcolon := skipBlanks_cons (c := ':') rfl
  simp only [map_quoted, advance, hquote, string?_quoted, hcolon]

theorem leads_next_member {datum : Datum} {read : List (Option String × Datum)}
    {key : Option String} :
    Leads ⟨.complete datum, .entries read key :: outer, some ',' :: rest⟩
      ⟨.key ((key, datum) :: read), outer, rest⟩ :=
  .of_shorter (by simp) fun _ => rfl

theorem leads_close_object {datum : Datum} {read : List (Option String × Datum)}
    {key : Option String} :
    Leads ⟨.complete datum, .entries read key :: outer, some '\x7d' :: rest⟩
      ⟨.complete (.mapping (read.reverse ++ [(key, datum)]) true), outer, rest⟩ := by
  rw [← List.reverse_cons]
  exact .of_shorter (by simp) fun _ => rfl

/-! ### Values -/

/-- The reader takes the text of a value, whatever is open around it and
    whatever comes after it, unless a number would go on there. -/
def Taken (json : Json) : Prop :=
  ∀ (stack : List Frame) (rest : Input), EndsNumber rest →
    Leads ⟨.value, stack, json.chars.map some ++ rest⟩ ⟨.complete json.datum, stack, rest⟩

/-- A value without parts is taken in one move. -/
theorem taken_of_scalar {json : Json} {c : Char} {cs : List Char} (hchars : json.chars = c :: cs)
    (hopens : opens c = true) (hlist : c ≠ '[') (hobject : c ≠ '\x7b')
    (hscalar : ∀ rest, EndsNumber rest →
      scalar? (json.chars.map some ++ rest) = some (json.datum, rest)) : Taken json := by
  intro stack rest hrest
  have hread := hscalar rest hrest
  rw [hchars, List.map_cons, List.cons_append] at hread ⊢
  have hshorter : rest.length < (some c :: (cs.map some ++ rest)).length := by
    simp only [List.length_append, List.length_cons]
    omega
  refine .of_shorter hshorter ?_
  intro fuel
  simp [advance, skipBlanks_opens hopens, hread, hlist, hobject]

theorem scalar?_quoted (s : String) (rest : Input) :
    scalar? ((Json.quoted s).map some ++ rest) = some (.text (some s), rest) := by
  simp only [map_quoted, scalar?, string?_quoted, Option.map_some]

theorem taken_integer {n : Int} (hn : IsInteger n) : Taken (.int n) := by
  obtain ⟨c, cs, hchars, hfirst⟩ := exists_first_integer n
  have hne : ∀ d, d ≠ '-' → d.isDigit = false → c ≠ d := by
    rintro d hminus hdigit rfl
    rcases hfirst with hc | hc
    · exact hminus hc
    · rw [hc] at hdigit
      cases hdigit
  have hlist := hne '[' (by decide) rfl
  have hobject := hne '\x7b' (by decide) rfl
  refine taken_of_scalar hchars (opens_of_first hfirst) hlist hobject ?_
  intro rest hrest
  have hread := number?_integer hn hrest
  show scalar? ((Json.integer n).map some ++ rest) = some (.integer n, rest)
  rw [hchars, List.map_cons, List.cons_append] at hread ⊢
  have hquote := hne '"' (by decide) rfl
  have hn := hne 'n' (by decide) rfl
  have ht := hne 't' (by decide) rfl
  have hf := hne 'f' (by decide) rfl
  simp [scalar?, hread, hquote, hn, ht, hf]

/-- From the first item to the end of a list. -/
theorem leads_items {item : Json} {items : List Json} (h : ∀ i ∈ item :: items, Taken i)
    (read : List Datum) :
    Leads ⟨.value, .items read :: outer,
        (Json.itemChars (item :: items)).map some ++ some ']' :: rest⟩
      ⟨.complete (.sequence (read.reverse ++ Json.itemData (item :: items)) true), outer, rest⟩ := by
  induction items generalizing item read with
  | nil =>
    have hitem := h item List.mem_cons_self (.items read :: outer) (some ']' :: rest) (.cons rfl _)
    exact hitem.trans leads_close_list
  | cons next items ih =>
    -- the item joins those that were read, and the next one is the first of the rest
    have htail := ih (fun i hi => h i (List.mem_cons_of_mem _ hi)) (item.datum :: read)
    rw [List.reverse_cons, List.append_assoc] at htail
    have hitem := h item List.mem_cons_self (.items read :: outer)
      (some ',' :: ((Json.itemChars (next :: items)).map some ++ some ']' :: rest)) (.cons rfl _)
    have hinput : (Json.itemChars (item :: next :: items)).map some ++ some ']' :: rest =
        item.chars.map some ++
          some ',' :: ((Json.itemChars (next :: items)).map some ++ some ']' :: rest) := by
      simp [Json.itemChars]
    rw [hinput]
    exact (hitem.trans leads_next_item).trans htail

/-- From the first key to the end of an object. -/
theorem leads_members {m : String × Json} {members : List (String × Json)}
    (h : ∀ m' ∈ m :: members, Taken m'.2) (read : List (Option String × Datum)) :
    Leads ⟨.key read, outer, (Json.memberChars (m :: members)).map some ++ some '\x7d' :: rest⟩
      ⟨.complete (.mapping (read.reverse ++ Json.memberData (m :: members)) true), outer, rest⟩ := by
  induction members generalizing m read with
  | nil =>
    obtain ⟨key, value⟩ := m
    have hvalue := h (key, value) List.mem_cons_self (.entries read (some key) :: outer)
      (some '\x7d' :: rest) (.cons rfl _)
    have hinput : (Json.memberChars [(key, value)]).map some ++ some '\x7d' :: rest =
        (Json.quoted key).map some ++
          some ':' :: (value.chars.map some ++ some '\x7d' :: rest) := by
      simp [Json.memberChars]
    rw [hinput]
    exact ((leads_key key).trans hvalue).trans leads_close_object
  | cons next members ih =>
    obtain ⟨key, value⟩ := m
    have htail := ih (fun m' hm' => h m' (List.mem_cons_of_mem _ hm'))
      ((some key, value.datum) :: read)
    rw [List.reverse_cons, List.append_assoc] at htail
    have hvalue := h (key, value) List.mem_cons_self (.entries read (some key) :: outer)
      (some ',' :: ((Json.memberChars (next :: members)).map some ++ some '\x7d' :: rest))
      (.cons rfl _)
    have hinput : (Json.memberChars ((key, value) :: next :: members)).map some ++
          some '\x7d' :: rest =
        (Json.quoted key).map some ++ some ':' :: (value.chars.map some ++
          some ',' :: ((Json.memberChars (next :: members)).map some ++ some '\x7d' :: rest)) := by
      simp [Json.memberChars]
    rw [hinput]
    exact (((leads_key key).trans hvalue).trans leads_next_member).trans htail

/-- **Every plain value is taken.** -/
theorem taken_of_plain {json : Json} (h : json.Plain) : Taken json := by
  induction h with
  | null => exact taken_of_scalar rfl rfl (by decide) (by decide) fun _ _ => rfl
  | bool b =>
    cases b <;> exact taken_of_scalar rfl rfl (by decide) (by decide) fun _ _ => rfl
  | int hn => exact taken_integer hn
  | text s =>
    exact taken_of_scalar rfl rfl (by decide) (by decide) fun rest _ => scalar?_quoted s rest
  | @list items hplain ih =>
    intro stack rest _
    cases items with
    -- after the opening bracket the reader looks for the end of the list first
    | nil => exact leads_open_list.trans leads_empty_list
    | cons item items =>
      obtain ⟨c, cs, hchars, hopens⟩ := exists_opens (hplain item List.mem_cons_self)
      have hfirst : ∃ tail, (Json.itemChars (item :: items)).map some ++ some ']' :: rest =
          some c :: tail := by
        cases items <;> exact ⟨_, by simp [Json.itemChars, hchars]; rfl⟩
      have hinput : (Json.list (item :: items)).chars.map some ++ rest =
          some '[' :: ((Json.itemChars (item :: items)).map some ++ some ']' :: rest) := by
        simp [Json.chars]
      obtain ⟨tail, htail⟩ := hfirst
      rw [hinput]
      exact (leads_open_list.trans (leads_first_item htail hopens)).trans (leads_items ih [])
  | @object members _ ih =>
    intro stack rest _
    cases members with
    | nil => exact leads_open_object.trans leads_empty_object
    | cons m members =>
      have hinput : (Json.object (m :: members)).chars.map some ++ rest =
          some '\x7b' :: ((Json.memberChars (m :: members)).map some ++ some '\x7d' :: rest) := by
        simp [Json.chars]
      rw [hinput]
      exact leads_open_object.trans (leads_members ih [])

/-! ### Texts -/

/-- **The text of a plain value is read as that value**, and nothing is left of
    it. -/
theorem read_chars {json : Json} (h : json.Plain) :
    read (json.chars.map some) = (json.datum, []) := by
  obtain ⟨moves, hmoves, hadvance⟩ := taken_of_plain h [] [] .nil
  simp only [Situation.budget, List.append_nil] at hmoves hadvance
  -- the fuel that is left suffices to see that nothing is open
  obtain ⟨fuel, hfuel⟩ : ∃ fuel, 2 * (json.chars.map some).length + 3 = fuel + 1 + moves :=
    ⟨2 * (json.chars.map some).length + 2 - moves, by omega⟩
  unfold read
  rw [hfuel, hadvance]
  rfl

/-- A decoder sees in the encoding of a plain value what it would see in the
    value itself. -/
theorem decode_write {α : Type} {json : Json} (h : json.Plain) (decoder : Decoder α) :
    decode decoder (Text.Utf8.units (Text.Utf8.encode json.write)) =
      decoder .jsonText json.datum := by
  have hunits : Text.Utf8.units (Text.Utf8.encode json.write) = json.chars.map some := by
    rw [Text.Utf8.units_encode, Json.write, String.toList_ofList]
  unfold decode
  rw [hunits, read_chars h]
  cases hdecoded : decoder .jsonText json.datum with
  | error e => simp [hdecoded, bind, Except.bind]
  | ok value => simp [hdecoded, bind, Except.bind, skipBlanks]

end JsonText
end HolidayApi.Data
