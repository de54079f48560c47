/-! # Cutting text at separators

    Texts are handled as lists of characters where they are taken apart, so
    that the functions are plain recursions and their laws plain inductions.

    * `splitOn` cuts at every separator, `joinWith` puts the parts back;
      `joinWith_splitOn` says that nothing is lost, and `splitOn_joinWith`
      that parts without separators are found again.
    * `cutAt` cuts at the first separator only.
    * `afterFirst` finds the leftmost occurrence of a part.
-/

namespace HolidayApi.Text

/-! ### Every separator -/

/-- The parts between the separators; a text without one is its only part. -/
def splitOn (sep : Char) : List Char → List (List Char)
  | [] => [[]]
  | c :: cs =>
    if c = sep then [] :: splitOn sep cs
    else match splitOn sep cs with
      | [] => [[c]]
      | part :: parts => (c :: part) :: parts

/-- The parts written one after another with a separator between them. -/
def joinWith (sep : Char) : List (List Char) → List Char
  | [] => []
  | [part] => part
  | part :: next :: parts => part ++ sep :: joinWith sep (next :: parts)

theorem splitOn_ne_nil (sep : Char) : ∀ cs : List Char, splitOn sep cs ≠ []
  | [] => by simp [splitOn]
  | c :: cs => by
    unfold splitOn
    split
    · simp
    · split <;> simp

theorem joinWith_splitOn (sep : Char) :
    ∀ cs : List Char, joinWith sep (splitOn sep cs) = cs
  | [] => rfl
  | c :: cs => by
    have ih := joinWith_splitOn sep cs
    have hne := splitOn_ne_nil sep cs
    unfold splitOn
    split
    · next h =>
      subst h
      cases hs : splitOn c cs with
      | nil => exact absurd hs hne
      | cons part parts => rw [hs] at ih; simp [joinWith, ih]
    · cases hs : splitOn sep cs with
      | nil => exact absurd hs hne
      | cons part parts =>
        rw [hs] at ih
        cases parts with
        | nil => simpa [joinWith] using ih
        | cons next parts => simpa [joinWith] using ih

/-- A text without a separator is its only part. -/
theorem splitOn_of_not_mem {sep : Char} :
    ∀ {part : List Char}, sep ∉ part → splitOn sep part = [part]
  | [], _ => rfl
  | c :: cs, h => by
    simp only [List.mem_cons, not_or] at h
    obtain ⟨hc, hcs⟩ := h
    unfold splitOn
    rw [if_neg (Ne.symm hc), splitOn_of_not_mem hcs]

/-- The first separator ends the first part. -/
theorem splitOn_append {sep : Char} (rest : List Char) :
    ∀ {part : List Char}, sep ∉ part → splitOn sep (part ++ sep :: rest) = part :: splitOn sep rest
  | [], _ => by simp [splitOn]
  | c :: cs, h => by
    simp only [List.mem_cons, not_or] at h
    obtain ⟨hc, hcs⟩ := h
    rw [List.cons_append, splitOn, if_neg (Ne.symm hc), splitOn_append rest hcs]

/-- Parts that hold no separator are found again. -/
theorem splitOn_joinWith {sep : Char} :
    ∀ {parts : List (List Char)}, parts ≠ [] → (∀ part ∈ parts, sep ∉ part) →
      splitOn sep (joinWith sep parts) = parts
  | [], h, _ => absurd rfl h
  | [part], _, h => splitOn_of_not_mem (h part List.mem_cons_self)
  | part :: next :: parts, _, h => by
    have hpart : sep ∉ part := h part List.mem_cons_self
    have hrest : ∀ other ∈ next :: parts, sep ∉ other :=
      fun other hother => h other (List.mem_cons_of_mem part hother)
    rw [joinWith, splitOn_append _ hpart, splitOn_joinWith (List.cons_ne_nil _ _) hrest]

/-- A joined text holds the separator and the characters of its parts. -/
theorem mem_joinWith {sep c : Char} :
    ∀ {parts : List (List Char)}, c ∈ joinWith sep parts → c = sep ∨ ∃ part ∈ parts, c ∈ part
  | [], h => by simp [joinWith] at h
  | [part], h => .inr ⟨part, List.mem_cons_self, h⟩
  | part :: next :: parts, h => by
    rw [joinWith, List.mem_append, List.mem_cons] at h
    rcases h with hpart | rfl | hrest
    · exact .inr ⟨part, List.mem_cons_self, hpart⟩
    · exact .inl rfl
    · rcases mem_joinWith hrest with hsep | ⟨other, hother, hc⟩
      · exact .inl hsep
      · exact .inr ⟨other, List.mem_cons_of_mem part hother, hc⟩

/-! ### The first separator -/

/-- The texts before and after the first separator, if there is one. -/
def cutAt (sep : Char) : List Char → Option (List Char × List Char)
  | [] => none
  | c :: cs =>
    if c = sep then some ([], cs)
    else (cutAt sep cs).map fun (before, after) => (c :: before, after)

theorem cutAt_eq_some {sep : Char} :
    ∀ {cs before after : List Char}, cutAt sep cs = some (before, after) →
      cs = before ++ sep :: after ∧ sep ∉ before
  | [], _, _, h => by simp [cutAt] at h
  | c :: cs, before, after, h => by
    unfold cutAt at h
    split at h
    · next hc => cases h; subst hc; simp
    · next hc =>
      obtain ⟨⟨b, a⟩, hb, heq⟩ := Option.map_eq_some_iff.mp h
      cases heq
      obtain ⟨rfl, hn⟩ := cutAt_eq_some hb
      refine ⟨rfl, ?_⟩
      simp only [List.mem_cons, not_or]
      exact ⟨fun he => hc he.symm, hn⟩

theorem cutAt_append {sep : Char} (after : List Char) :
    ∀ {before : List Char}, sep ∉ before → cutAt sep (before ++ sep :: after) = some (before, after)
  | [], _ => by simp [cutAt]
  | c :: cs, h => by
    simp only [List.mem_cons, not_or] at h
    obtain ⟨hc, hcs⟩ := h
    rw [List.cons_append]
    unfold cutAt
    rw [if_neg (Ne.symm hc), cutAt_append after hcs]
    rfl

/-! ### Occurrences of a part -/

/-- What follows the leftmost occurrence of `part`, if there is one. -/
def afterFirst (part : List Char) (text : List Char) : Option (List Char) :=
  match part.isPrefixOf? text with
  | some rest => some rest
  | none =>
    match text with
    | [] => none
    | _ :: cs => afterFirst part cs

end HolidayApi.Text
