import HolidayApi.Access.Caller
import HolidayApi.Proofs.Access.Rules
import HolidayApi.Proofs.Net.Spelling
import Mathlib.Data.List.TakeWhile

/-! # Who the caller is

    The caller is found by rules about texts (`Resolution`): nobody for a
    request without a peer, else the name in the first usable header if the
    peer is believed, else the address of the peer. A header is usable if its
    first value is readable and names somebody before its first comma
    (`Names`). The functions that take a value apart are not part of the rules:
    `text?_eq_some_iff`, `takeWhile_eq_iff` and `trim_eq_iff` say of each what
    it finds.

    Whichever rule applies, the caller is a text without blanks around it and
    without a comma, and only the caller of whom nothing is known goes by
    `unknown` (`Resolution.isProper`, `Resolution.saysUnknown_iff`). A header
    that says so is passed over, and no address is spelled with such letters.
-/

namespace HolidayApi.Text

/-! ### Blanks around a text -/

/-- Neither end of the text is a blank. -/
structure IsBare (cs : List Char) : Prop where
  head : ∀ c, cs.head? = some c → isBlank c = false
  last : ∀ c, cs.getLast? = some c → isBlank c = false

/-- What is left of the text without the blanks at both ends. -/
def IsCore (cs core : List Char) : Prop :=
  ∃ lead trail, cs = lead ++ core ++ trail ∧ (∀ c ∈ lead, isBlank c = true) ∧
    (∀ c ∈ trail, isBlank c = true) ∧ IsBare core

theorem mem_takeWhile_isBlank {cs : List Char} : ∀ c ∈ cs.takeWhile isBlank, isBlank c = true :=
  List.all_eq_true.mp List.all_takeWhile

theorem head?_trimStart {cs : List Char} (c : Char) (h : (trimStart cs).head? = some c) :
    isBlank c = false := by
  have hhead := List.head?_dropWhile_not isBlank cs
  unfold trimStart at h
  rw [h] at hhead
  simpa using hhead

/-- Where no blank leads, nothing is taken away. -/
theorem trimStart_of_head {cs : List Char} (h : ∀ c, cs.head? = some c → isBlank c = false) :
    trimStart cs = cs := by
  cases cs with
  | nil => rfl
  | cons c cs =>
    have hc : ¬isBlank c = true := by simp [h c rfl]
    exact List.dropWhile_cons_of_neg hc

theorem trimStart_append {lead : List Char} (h : ∀ c ∈ lead, isBlank c = true) (cs : List Char) :
    trimStart (lead ++ cs) = trimStart cs := List.dropWhile_append_of_pos h

/-- What trimming leaves is the core. -/
theorem isCore_trim (cs : List Char) : IsCore cs (trim cs) := by
  have hlead : cs = cs.takeWhile isBlank ++ trimStart cs :=
    List.takeWhile_append_dropWhile.symm
  have htrail : trimStart cs = trim cs ++ ((trimStart cs).reverse.takeWhile isBlank).reverse := by
    have hsplit : (trimStart cs).reverse =
        (trimStart cs).reverse.takeWhile isBlank ++ trimStart (trimStart cs).reverse :=
      List.takeWhile_append_dropWhile.symm
    have hback := congrArg List.reverse hsplit
    rwa [List.reverse_reverse, List.reverse_append] at hback
  refine ⟨cs.takeWhile isBlank, ((trimStart cs).reverse.takeWhile isBlank).reverse, ?_,
    mem_takeWhile_isBlank, ?_, ?_, ?_⟩
  · rw [List.append_assoc, ← htrail]
    exact hlead
  · intro c hc
    exact mem_takeWhile_isBlank c (List.mem_reverse.mp hc)
  · -- the first character was there after the leading blanks had gone
    intro c hc
    have hfirst : (trimStart cs).head? = some c := by
      rw [htrail, List.head?_append, hc]
      rfl
    exact head?_trimStart c hfirst
  · intro c hc
    unfold trim at hc
    rw [List.getLast?_reverse] at hc
    exact head?_trimStart c hc

/-- **Trimming leaves the core of a text.** -/
theorem trim_eq_iff {cs core : List Char} : trim cs = core ↔ IsCore cs core := by
  constructor
  · rintro rfl
    exact isCore_trim cs
  · rintro ⟨lead, trail, rfl, hlead, htrail, hbare⟩
    have hback : ∀ c ∈ trail.reverse, isBlank c = true :=
      fun c hc => htrail c (List.mem_reverse.mp hc)
    unfold trim
    rw [List.append_assoc, trimStart_append hlead]
    cases core with
    | nil =>
      -- nothing but blanks
      have hnone : trimStart trail = [] := by
        have := trimStart_append htrail []
        rwa [List.append_nil] at this
      rw [List.nil_append, hnone]
      rfl
    | cons c core =>
      have hfront : trimStart (c :: core ++ trail) = c :: core ++ trail :=
        trimStart_of_head fun d hd => hbare.head d hd
      have hlast : trimStart (c :: core).reverse = (c :: core).reverse := by
        refine trimStart_of_head fun d hd => hbare.last d ?_
        rwa [List.head?_reverse] at hd
      rw [hfront, List.reverse_append, trimStart_append hback, hlast, List.reverse_reverse]

/-! ### The text before a separator -/

/-- The text before the first separator, or all of it if there is none. -/
def IsFront (sep : Char) (cs front : List Char) : Prop :=
  sep ∉ front ∧ (cs = front ∨ ∃ rest, cs = front ++ sep :: rest)

theorem takeWhile_eq_iff {sep : Char} {cs front : List Char} :
    (cs.takeWhile fun c => c ≠ sep) = front ↔ IsFront sep cs front := by
  constructor
  · rintro rfl
    induction cs with
    | nil => exact ⟨List.not_mem_nil, .inl rfl⟩
    | cons c cs ih =>
      by_cases hc : c = sep
      · subst hc
        exact ⟨by simp, .inr ⟨cs, by simp⟩⟩
      · have hmore : (c :: cs).takeWhile (fun c => c ≠ sep) =
            c :: cs.takeWhile fun c => c ≠ sep := by simp [hc]
        obtain ⟨hnot, hcs⟩ := ih
        rw [hmore]
        refine ⟨?_, ?_⟩
        · rw [List.mem_cons, not_or]
          exact ⟨fun h => hc h.symm, hnot⟩
        · rcases hcs with hall | ⟨rest, hrest⟩
          · exact .inl (congrArg (c :: ·) hall)
          · exact .inr ⟨rest, congrArg (c :: ·) hrest⟩
  · rintro ⟨hnot, hcs⟩
    have hkeep : ∀ c ∈ front, decide (c ≠ sep) = true := by
      intro c hc
      have hne : c ≠ sep := by
        rintro rfl
        exact hnot hc
      exact decide_eq_true hne
    rcases hcs with rfl | ⟨rest, rfl⟩
    · exact List.takeWhile_eq_self_iff.mpr hkeep
    · rw [List.takeWhile_append_of_pos hkeep, List.takeWhile_cons_of_neg (by simp),
        List.append_nil]

end HolidayApi.Text

namespace HolidayApi.Net.Headers

/-! ### The first value of a header -/

/-- The first header of this name has this readable text: printable characters
    and tabs. -/
def Says (headers : Headers) (name : String) (text : List Char) : Prop :=
  ∃ before bytes after, headers.fields = before ++ (name, bytes) :: after ∧
    (∀ field ∈ before, field.1 ≠ name) ∧
    (∀ b ∈ bytes, b = 0x09 ∨ 0x20 ≤ b ∧ b ≤ 0x7E) ∧
    text = bytes.map fun b => Char.ofNat b.toNat

theorem readable?_eq_some_iff {bytes : List UInt8} {text : List Char} :
    readable? bytes = some text ↔
      (∀ b ∈ bytes, b = 0x09 ∨ 0x20 ≤ b ∧ b ≤ 0x7E) ∧
        text = bytes.map fun b => Char.ofNat b.toNat := by
  have hall : bytes.all isReadable = true ↔ ∀ b ∈ bytes, b = 0x09 ∨ 0x20 ≤ b ∧ b ≤ 0x7E := by
    simp [isReadable]
  unfold readable?
  rw [← hall]
  split
  · next h => simp [h, eq_comm]
  · next h => simp [h]

theorem text?_eq_some_iff {headers : Headers} {name : String} {text : List Char} :
    headers.text? name = some text ↔ headers.Says name text := by
  unfold text? first? Says
  rw [Option.bind_eq_some_iff]
  constructor
  · rintro ⟨bytes, hfirst, hread⟩
    obtain ⟨before, after, hfields, hnew⟩ := List.lookup_eq_some_iff.mp hfirst
    obtain ⟨hbytes, htext⟩ := readable?_eq_some_iff.mp hread
    refine ⟨before, bytes, after, hfields, ?_, hbytes, htext⟩
    intro field hfield heq
    have hne := hnew field hfield
    simp [heq] at hne
  · rintro ⟨before, bytes, after, hfields, hnew, hbytes, htext⟩
    refine ⟨bytes, List.lookup_eq_some_iff.mpr ⟨before, after, hfields, ?_⟩,
      readable?_eq_some_iff.mpr ⟨hbytes, htext⟩⟩
    intro field hfield
    have hne : name ≠ field.1 := Ne.symm (hnew field hfield)
    simpa using hne

end HolidayApi.Net.Headers

namespace HolidayApi.Access.Caller

open HolidayApi.Net (Headers IpAddress)

/-! ### The rules -/

/-- The text is the word `unknown`, in whatever letters. -/
def SaysUnknown (text : List Char) : Prop := text.map Char.toLower = unknown.toList

theorem saysUnknown_unknown : SaysUnknown unknown.toList := by
  unfold SaysUnknown
  decide

/-- The header is usable and names this caller: that is what stands before the
    first comma of its text, without blanks around it. -/
def Names (headers : Headers) (name : String) (hop : List Char) : Prop :=
  ∃ text front, headers.Says name text ∧ Text.IsFront ',' text front ∧ Text.IsCore front hop ∧
    hop ≠ [] ∧ ¬SaysUnknown hop

/-- Who is the caller of a request with these headers and this peer. -/
inductive Resolution (headers : Headers) (trusted : AllowList) : Option IpAddress → String → Prop
  /-- Without a peer nothing is known of the caller. -/
  | nobody : Resolution headers trusted none unknown
  /-- The peer itself calls if it is not believed or no header is usable. -/
  | connection {peer : IpAddress}
      (h : trusted.admits peer.canonical.text = false ∨
        ∀ name ∈ forwardingHeaders, ∀ hop, ¬Names headers name hop) :
      Resolution headers trusted (some peer) peer.canonical.text
  /-- A peer that is believed calls for the one that the first usable header
      names. -/
  | forwarded {peer : IpAddress} {earlier later : List String} {name : String} {hop : List Char}
      (hpeer : trusted.admits peer.canonical.text = true)
      (horder : forwardingHeaders = earlier ++ name :: later)
      (hpassed : ∀ other ∈ earlier, ∀ hop, ¬Names headers other hop)
      (hnames : Names headers name hop) :
      Resolution headers trusted (some peer) (String.ofList hop)

/-! ### Following the rules -/

theorem isName_iff {hop : List Char} : isName hop = true ↔ hop ≠ [] ∧ ¬SaysUnknown hop := by
  simp [isName, SaysUnknown]

theorem namedBy?_eq_some_iff {headers : Headers} {name caller : String} :
    namedBy? headers name = some caller ↔
      ∃ hop, Names headers name hop ∧ caller = String.ofList hop := by
  unfold namedBy?
  rw [Option.bind_eq_some_iff]
  constructor
  · rintro ⟨hop, hfirst, hcaller⟩
    obtain ⟨text, htext, rfl⟩ := Option.map_eq_some_iff.mp hfirst
    split at hcaller
    · next hname =>
      obtain ⟨hne, hknown⟩ := isName_iff.mp hname
      cases hcaller
      exact ⟨firstHop text, ⟨text, _, Net.Headers.text?_eq_some_iff.mp htext,
        Text.takeWhile_eq_iff.mp rfl, Text.trim_eq_iff.mp rfl, hne, hknown⟩, rfl⟩
    · cases hcaller
  · rintro ⟨hop, ⟨text, front, hsays, hfront, hcore, hne, hknown⟩, rfl⟩
    have hhop : firstHop text = hop := by
      unfold firstHop
      rw [Text.takeWhile_eq_iff.mpr hfront, Text.trim_eq_iff.mpr hcore]
    refine ⟨hop, ?_, if_pos (isName_iff.mpr ⟨hne, hknown⟩)⟩
    rw [Net.Headers.text?_eq_some_iff.mpr hsays, Option.map_some, hhop]

theorem namedBy?_eq_none_iff {headers : Headers} {name : String} :
    namedBy? headers name = none ↔ ∀ hop, ¬Names headers name hop := by
  rw [Option.eq_none_iff_forall_not_mem]
  constructor
  · intro hnone hop hnames
    exact hnone (String.ofList hop) (namedBy?_eq_some_iff.mpr ⟨hop, hnames, rfl⟩)
  · intro hnot caller hcaller
    obtain ⟨hop, hnames, _⟩ := namedBy?_eq_some_iff.mp hcaller
    exact hnot hop hnames

theorem forwarded?_eq_none_iff {headers : Headers} :
    forwarded? headers = none ↔ ∀ name ∈ forwardingHeaders, ∀ hop, ¬Names headers name hop := by
  unfold forwarded?
  rw [List.findSome?_eq_none_iff]
  simp only [namedBy?_eq_none_iff]

theorem forwarded?_eq_some_iff {headers : Headers} {caller : String} :
    forwarded? headers = some caller ↔
      ∃ earlier name later hop, forwardingHeaders = earlier ++ name :: later ∧
        (∀ other ∈ earlier, ∀ hop, ¬Names headers other hop) ∧
        Names headers name hop ∧ caller = String.ofList hop := by
  unfold forwarded?
  rw [List.findSome?_eq_some_iff]
  simp only [namedBy?_eq_none_iff, namedBy?_eq_some_iff]
  constructor
  · rintro ⟨earlier, name, later, horder, ⟨hop, hnames, hcaller⟩, hpassed⟩
    exact ⟨earlier, name, later, hop, horder, hpassed, hnames, hcaller⟩
  · rintro ⟨earlier, name, later, hop, horder, hpassed, hnames, hcaller⟩
    exact ⟨earlier, name, later, horder, ⟨hop, hnames, hcaller⟩, hpassed⟩

/-- The caller that is found is one by the rules. -/
theorem resolution_resolve (headers : Headers) (peer : Option IpAddress) (trusted : AllowList) :
    Resolution headers trusted peer (resolve headers peer trusted) := by
  cases peer with
  | none => exact .nobody
  | some peer =>
    show Resolution headers trusted (some peer) (if trusted.admits peer.canonical.text then
      (forwarded? headers).getD peer.canonical.text else peer.canonical.text)
    split
    · next hpeer =>
      cases hforwarded : forwarded? headers with
      | none => exact .connection (.inr (forwarded?_eq_none_iff.mp hforwarded))
      | some caller =>
        obtain ⟨earlier, name, later, hop, horder, hpassed, hnames, rfl⟩ :=
          forwarded?_eq_some_iff.mp hforwarded
        exact .forwarded hpeer horder hpassed hnames
    · next hpeer => exact .connection (.inl (Bool.not_eq_true _ ▸ hpeer))

namespace Resolution

variable {headers : Headers} {trusted : AllowList} {peer : Option IpAddress} {caller : String}

/-- The rules leave no choice. -/
theorem resolve_eq (h : Resolution headers trusted peer caller) :
    resolve headers peer trusted = caller := by
  cases h with
  | nobody => rfl
  | @connection peer h =>
    show (if trusted.admits peer.canonical.text then
      (forwarded? headers).getD peer.canonical.text else peer.canonical.text) = _
    rcases h with hpeer | hunusable
    · rw [hpeer]
      rfl
    · rw [forwarded?_eq_none_iff.mpr hunusable]
      exact ite_self _
  | @forwarded peer earlier later name hop hpeer horder hpassed hnames =>
    have hforwarded : forwarded? headers = some (String.ofList hop) :=
      forwarded?_eq_some_iff.mpr ⟨earlier, name, later, hop, horder, hpassed, hnames, rfl⟩
    show (if trusted.admits peer.canonical.text then
      (forwarded? headers).getD peer.canonical.text else peer.canonical.text) = _
    rw [hpeer, hforwarded]
    rfl

/-! ### What callers look like -/

/-- A text that can stand in a list of callers. -/
structure IsProper (cs : List Char) : Prop where
  ne_nil : cs ≠ []
  bare : Text.IsBare cs
  no_comma : ',' ∉ cs

theorem isProper_of_isSpelled {cs : List Char} (hne : cs ≠ []) (h : Net.IsSpelled cs) :
    IsProper cs where
  ne_nil := hne
  bare :=
    ⟨fun c hc => Net.isBlank_addressChars (h c (List.mem_of_mem_head? hc)),
      fun c hc => Net.isBlank_addressChars (h c (List.mem_of_getLast? hc))⟩
  no_comma := fun hc => Net.not_comma_mem_addressChars (h ',' hc)

/-- No address has the letters of the word. -/
theorem not_saysUnknown_of_isSpelled {cs : List Char} (h : Net.IsSpelled cs) :
    ¬SaysUnknown cs := by
  intro hword
  have hu : 'u' ∈ cs.map Char.toLower := by
    rw [hword]
    decide
  obtain ⟨c, hc, hlower⟩ := List.mem_map.mp hu
  have hmem : c.toLower ∈ Net.addressChars := Net.toLower_addressChars (h c hc)
  rw [hlower] at hmem
  revert hmem
  decide

theorem isProper_of_names {name : String} {hop : List Char} (h : Names headers name hop) :
    IsProper hop := by
  obtain ⟨text, front, _, hfront, ⟨lead, trail, rfl, _, _, hbare⟩, hne, _⟩ := h
  refine ⟨hne, hbare, fun hcomma => hfront.1 ?_⟩
  exact List.mem_append_left _ (List.mem_append_right _ hcomma)

theorem isProper_unknown : IsProper unknown.toList where
  ne_nil := by decide
  bare := by
    refine ⟨?_, ?_⟩
    · intro c hc
      cases hc
      decide
    · intro c hc
      cases hc
      decide
  no_comma := by decide

/-- Every caller is a proper text. -/
theorem isProper (h : Resolution headers trusted peer caller) : IsProper caller.toList := by
  cases h with
  | nobody => exact isProper_unknown
  | @connection peer _ =>
    exact isProper_of_isSpelled peer.canonical.toList_text_ne_nil peer.canonical.isSpelled_text
  | forwarded _ _ _ hnames =>
    rw [String.toList_ofList]
    exact isProper_of_names hnames

/-- Only a caller without a peer goes by `unknown`. -/
theorem saysUnknown_iff (h : Resolution headers trusted peer caller) :
    SaysUnknown caller.toList ↔ peer = none := by
  cases h with
  | nobody => exact iff_of_true saysUnknown_unknown rfl
  | @connection peer _ =>
    exact iff_of_false (not_saysUnknown_of_isSpelled peer.canonical.isSpelled_text) (by simp)
  | forwarded _ _ _ hnames =>
    obtain ⟨_, _, _, _, _, _, hknown⟩ := hnames
    rw [String.toList_ofList]
    exact iff_of_false hknown (by simp)

end Resolution

/-- **Who the caller is.** The rules decide it, and they leave no choice. It is
    never empty, has no blank at its ends and no comma, and is `unknown`, in
    whatever letters, only where there is no peer, so that nobody passes for an
    entry `unknown` of an allow list by saying so. -/
theorem resolve_follows_rules (headers : Headers) (peer : Option IpAddress) (trusted : AllowList) :
    (∀ caller, resolve headers peer trusted = caller ↔ Resolution headers trusted peer caller) ∧
    resolve headers peer trusted ≠ "" ∧
    Text.IsBare (resolve headers peer trusted).toList ∧
    ',' ∉ (resolve headers peer trusted).toList ∧
    (SaysUnknown (resolve headers peer trusted).toList ↔ peer = none) ∧
    ((Entry.parse unknown).covers (resolve headers peer trusted) = true ↔ peer = none) := by
  have hrule := resolution_resolve headers peer trusted
  have hproper := hrule.isProper
  have hentry : Entry.parse unknown = .exact unknown := by decide
  refine ⟨?_, ?_, hproper.bare, hproper.no_comma, hrule.saysUnknown_iff, ?_⟩
  · intro caller
    exact ⟨fun h => h ▸ hrule, fun h => h.resolve_eq⟩
  · intro hempty
    exact hproper.ne_nil (by rw [hempty]; rfl)
  · rw [hentry, Entry.covers_exact_iff]
    constructor
    · intro heq
      refine hrule.saysUnknown_iff.mp ?_
      rw [← heq]
      exact saysUnknown_unknown
    · rintro rfl
      rfl

end HolidayApi.Access.Caller
