import HolidayApi.Call.Policy
import Mathlib.Data.List.Basic

/-! # Which names a policy selects

    A pattern fits a name if its stars can be filled so that the name comes
    out (`Fills`). That is a question about all fillings, while the matcher
    tries a single one: it takes each middle part where it occurs first and
    never goes back.

    * `afterFirst_append`: what follows the leftmost occurrence of a part ends
      in what follows any other occurrence. So nothing that some filling puts
      behind a part is lost by taking the part early.
    * `partsOccur_of_spliced`: hence more text in front does no harm, and where
      there is a filling the matcher comes through.
    * `exists_earliest`: where the matcher comes through, it has found a
      filling, and one with every middle part at its leftmost occurrence
      (`Earliest`).

    `selects_iff_fills` puts them together for a policy.
-/

namespace HolidayApi.Text

/-! ### The leftmost occurrence -/

/-- What is found stands behind an occurrence, and none begins before that. -/
theorem afterFirst_eq_some {part text rest : List Char} (h : afterFirst part text = some rest) :
    ∃ gap, text = gap ++ part ++ rest ∧
      ∀ before after, text = before ++ part ++ after → gap.length ≤ before.length := by
  induction text with
  | nil =>
    unfold afterFirst at h
    split at h
    · next hfront =>
      cases h
      have htext : part ++ rest = [] := List.isPrefixOf?_eq_some_iff_append_eq.mp hfront
      exact ⟨[], htext.symm, fun _ _ _ => Nat.zero_le _⟩
    · cases h
  | cons c cs ih =>
    unfold afterFirst at h
    split at h
    · next hfront =>
      cases h
      have htext : part ++ rest = c :: cs := List.isPrefixOf?_eq_some_iff_append_eq.mp hfront
      exact ⟨[], htext.symm, fun _ _ _ => Nat.zero_le _⟩
    · next hfront =>
      obtain ⟨gap, htext, hfirst⟩ := ih h
      refine ⟨c :: gap, by rw [htext]; rfl, ?_⟩
      intro before after heq
      cases before with
      | nil =>
        -- the part does not stand at the front of the text
        have hsome : part.isPrefixOf? (c :: cs) = some after :=
          List.isPrefixOf?_eq_some_iff_append_eq.mpr heq.symm
        rw [hfront] at hsome
        cases hsome
      | cons d before =>
        have hle : gap.length ≤ before.length := hfirst before after (List.cons.inj heq).2
        exact Nat.succ_le_succ hle

/-- A part that occurs is found. -/
theorem exists_afterFirst (before part after : List Char) :
    ∃ rest, afterFirst part (before ++ part ++ after) = some rest := by
  induction before with
  | nil =>
    have hfront : part.isPrefixOf? (part ++ after) = some after :=
      List.isPrefixOf?_eq_some_iff_append_eq.mpr rfl
    refine ⟨after, ?_⟩
    unfold afterFirst
    rw [List.nil_append, hfront]
  | cons c before ih =>
    show ∃ rest, afterFirst part (c :: (before ++ part ++ after)) = some rest
    unfold afterFirst
    split
    · next rest _ => exact ⟨rest, rfl⟩
    · exact ih

/-- **Taking a part early loses nothing** of what follows another occurrence. -/
theorem afterFirst_append (before part after : List Char) :
    ∃ between, afterFirst part (before ++ part ++ after) = some (between ++ after) := by
  obtain ⟨rest, hrest⟩ := exists_afterFirst before part after
  obtain ⟨gap, htext, hfirst⟩ := afterFirst_eq_some hrest
  have hle : gap.length ≤ before.length := hfirst before after rfl
  have hlength : before.length + part.length + after.length =
      gap.length + part.length + rest.length := by
    have := congrArg List.length htext
    simpa only [List.length_append] using this
  -- both are ends of the same text, and this one is not the longer one
  have hafter : after <:+ before ++ part ++ after := List.suffix_append _ _
  have hrest' : rest <:+ before ++ part ++ after := htext ▸ List.suffix_append _ _
  have hshorter : after.length ≤ rest.length := by omega
  obtain ⟨between, rfl⟩ := List.suffix_of_suffix_length_le hafter hrest' hshorter
  exact ⟨between, hrest⟩

end HolidayApi.Text

namespace HolidayApi.Call

/-! ### Fillings -/

/-- The parts one after another, each with a gap in front of it. -/
def spliced : (gaps parts : List (List Char)) → List Char
  | gap :: gaps, part :: parts => gap ++ part ++ spliced gaps parts
  | _, _ => []

/-- The gaps fill the stars of the pattern so that the text comes out: the text
    is the part before the first star, and then for each star a gap and the
    part behind the star. -/
def Fills (pattern text : List Char) (gaps : List (List Char)) : Prop :=
  ∃ first parts, Text.splitOn '*' pattern = first :: parts ∧
    gaps.length = parts.length ∧ text = first ++ spliced gaps parts

/-- Every part but the last stands where it occurs first behind the part before
    it. -/
inductive Earliest : (gaps parts : List (List Char)) → Prop
  | nil : Earliest [] []
  | last (gap part : List Char) : Earliest [gap] [part]
  | middle {gap part : List Char} {gaps parts : List (List Char)}
      (hfirst : ∀ before after,
        gap ++ part ++ spliced gaps parts = before ++ part ++ after → gap.length ≤ before.length)
      (hrest : Earliest gaps parts) : Earliest (gap :: gaps) (part :: parts)

/-- The gaps fill the stars, and every middle part stands at its first
    occurrence. -/
def FillsEarly (pattern text : List Char) (gaps : List (List Char)) : Prop :=
  ∃ first parts, Text.splitOn '*' pattern = first :: parts ∧
    gaps.length = parts.length ∧ text = first ++ spliced gaps parts ∧ Earliest gaps parts

theorem FillsEarly.fills {pattern text : List Char} {gaps : List (List Char)}
    (h : FillsEarly pattern text gaps) : Fills pattern text gaps := by
  obtain ⟨first, parts, hparts, hlength, htext, _⟩ := h
  exact ⟨first, parts, hparts, hlength, htext⟩

/-! ### Parts that occur one after another -/

/-- The matcher finds a filling, and takes each middle part at its first
    occurrence. -/
theorem exists_earliest {last : List Char} {middles : List (List Char)} :
    ∀ {text : List Char}, partsOccur last middles text = true →
      ∃ gaps, gaps.length = (middles ++ [last]).length ∧ text = spliced gaps (middles ++ [last]) ∧
        Earliest gaps (middles ++ [last]) := by
  induction middles with
  | nil =>
    intro text h
    obtain ⟨gap, rfl⟩ : last <:+ text := List.isSuffixOf_iff_suffix.mp h
    exact ⟨[gap], rfl, by simp [spliced], .last gap last⟩
  | cons part middles ih =>
    intro text h
    unfold partsOccur at h
    split at h
    · next rest hfound =>
      obtain ⟨gap, htext, hfirst⟩ := Text.afterFirst_eq_some hfound
      obtain ⟨gaps, hlength, hrest, hearliest⟩ := ih h
      subst htext
      have hlonger : (gap :: gaps).length = (part :: (middles ++ [last])).length := by
        rw [List.length_cons, List.length_cons, hlength]
      refine ⟨gap :: gaps, hlonger, ?_, ?_⟩
      · show gap ++ part ++ rest = gap ++ part ++ spliced gaps (middles ++ [last])
        rw [hrest]
      · rw [hrest] at hfirst
        exact .middle hfirst hearliest
    · cases h

/-- **Where there is a filling, the matcher comes through**, whatever stands in
    front: that text grows by what early occurrences leave over. -/
theorem partsOccur_of_spliced {last : List Char} {middles : List (List Char)} :
    ∀ {gaps : List (List Char)}, gaps.length = (middles ++ [last]).length →
      ∀ front, partsOccur last middles (front ++ spliced gaps (middles ++ [last])) = true := by
  induction middles with
  | nil =>
    intro gaps hlength front
    obtain ⟨gap, rfl⟩ := List.length_eq_one_iff.mp hlength
    have hend : last <:+ front ++ spliced [gap] [last] := ⟨front ++ gap, by simp [spliced]⟩
    exact List.isSuffixOf_iff_suffix.mpr hend
  | cons part middles ih =>
    intro gaps hlength front
    cases gaps with
    | nil => cases hlength
    | cons gap gaps =>
      have hshorter : gaps.length = (middles ++ [last]).length := Nat.succ.inj hlength
      -- the filling shows one occurrence of the part, and the first one serves as well
      obtain ⟨between, hfound⟩ := Text.afterFirst_append (front ++ gap) part
        (spliced gaps (middles ++ [last]))
      have htext : front ++ spliced (gap :: gaps) (part :: (middles ++ [last])) =
          front ++ gap ++ part ++ spliced gaps (middles ++ [last]) := by
        simp only [spliced, List.append_assoc]
      show partsOccur last (part :: middles)
        (front ++ spliced (gap :: gaps) (part :: (middles ++ [last]))) = true
      unfold partsOccur
      rw [htext, hfound]
      exact ih hshorter between

/-! ### Whole patterns -/

/-- What the matcher does with a pattern that has a star. -/
theorem patternFits_of_star {pattern first last : List Char} {middles : List (List Char)}
    (h : Text.splitOn '*' pattern = first :: (middles ++ [last])) (rest : List Char) :
    patternFits pattern (first ++ rest) = partsOccur last middles rest := by
  have hfront : first.isPrefixOf? (first ++ rest) = some rest :=
    List.isPrefixOf?_eq_some_iff_append_eq.mpr rfl
  have hlast : (middles ++ [last]).getLast? = some last := List.getLast?_concat
  have hmiddles : (middles ++ [last]).dropLast = middles := List.dropLast_concat
  unfold patternFits
  rw [h]
  simp only [hfront, hlast, hmiddles]

/-- A text that a pattern fits begins with the part before the first star. -/
theorem exists_of_patternFits {pattern text first : List Char} {parts : List (List Char)}
    (h : Text.splitOn '*' pattern = first :: parts) (hfits : patternFits pattern text = true) :
    ∃ rest, text = first ++ rest := by
  unfold patternFits at hfits
  rw [h] at hfits
  simp only at hfits
  split at hfits
  · cases hfits
  · next hfront _ => exact ⟨_, (List.isPrefixOf?_eq_some_iff_append_eq.mp hfront).symm⟩
  · next hfront _ => exact ⟨_, (List.isPrefixOf?_eq_some_iff_append_eq.mp hfront).symm⟩

/-- **A pattern that the matcher accepts has a filling** with every middle part
    at its first occurrence. -/
theorem exists_fillsEarly {pattern text : List Char} (h : patternFits pattern text = true) :
    ∃ gaps, FillsEarly pattern text gaps := by
  obtain ⟨first, parts, hparts⟩ := List.exists_cons_of_ne_nil (Text.splitOn_ne_nil '*' pattern)
  obtain ⟨rest, rfl⟩ := exists_of_patternFits hparts h
  rcases List.eq_nil_or_concat' parts with rfl | ⟨middles, last, rfl⟩
  · -- without a star nothing may be left
    have hfront : first.isPrefixOf? (first ++ rest) = some rest :=
      List.isPrefixOf?_eq_some_iff_append_eq.mpr rfl
    unfold patternFits at h
    rw [hparts] at h
    simp only [hfront, List.getLast?_nil] at h
    have hnone : rest = [] := List.isEmpty_iff.mp h
    exact ⟨[], first, [], hparts, rfl, by rw [hnone]; rfl, .nil⟩
  · rw [patternFits_of_star hparts] at h
    obtain ⟨gaps, hlength, rfl, hearliest⟩ := exists_earliest h
    exact ⟨gaps, first, _, hparts, hlength, rfl, hearliest⟩

/-- **A pattern that has a filling is accepted.** -/
theorem patternFits_of_fills {pattern text : List Char} {gaps : List (List Char)}
    (h : Fills pattern text gaps) : patternFits pattern text = true := by
  obtain ⟨first, parts, hparts, hlength, rfl⟩ := h
  rcases List.eq_nil_or_concat' parts with rfl | ⟨middles, last, rfl⟩
  · have hfront : first.isPrefixOf? (first ++ []) = some [] :=
      List.isPrefixOf?_eq_some_iff_append_eq.mpr rfl
    have hnone : spliced gaps [] = [] := by cases gaps <;> rfl
    unfold patternFits
    rw [hparts, hnone]
    simp only [hfront, List.getLast?_nil, List.isEmpty_nil]
  · rw [patternFits_of_star hparts]
    exact partsOccur_of_spliced hlength []

/-! ### Policies -/

namespace Policy

/-- **What a policy selects**: the names that are not excluded and that come out
    of some included pattern when its stars are filled. The matcher tries one
    filling only, but where there is any, there is one of the kind it tries. -/
theorem selects_iff_fills (policy : Policy) (operation : String) :
    (policy.selects operation = true ↔
      operation ∉ policy.excluded ∧
        ∃ pattern ∈ policy.included, ∃ gaps, Fills pattern.toList operation.toList gaps) ∧
    ∀ pattern text : List Char,
      (patternFits pattern text = true ↔ ∃ gaps, Fills pattern text gaps) ∧
      ((∃ gaps, Fills pattern text gaps) ↔ ∃ gaps, FillsEarly pattern text gaps) := by
  have hfits : ∀ pattern text : List Char,
      patternFits pattern text = true ↔ ∃ gaps, Fills pattern text gaps := by
    intro pattern text
    constructor
    · intro h
      obtain ⟨gaps, hearly⟩ := exists_fillsEarly h
      exact ⟨gaps, hearly.fills⟩
    · rintro ⟨gaps, h⟩
      exact patternFits_of_fills h
  refine ⟨?_, fun pattern text => ⟨hfits pattern text, ?_⟩⟩
  · unfold selects
    simp only [Bool.and_eq_true, Bool.not_eq_true', List.contains_eq_mem, decide_eq_false_iff_not,
      List.any_eq_true, hfits]
  · constructor
    · rintro ⟨gaps, h⟩
      exact exists_fillsEarly (patternFits_of_fills h)
    · rintro ⟨gaps, hearly⟩
      exact ⟨gaps, hearly.fills⟩

/-- The parts on both sides of a star do not share characters. -/
example : (Policy.mk ["ab*ba"] []).selects "aba" = false := by decide

/-- A middle part that is taken early leaves the end of the name to the last one. -/
example : (Policy.mk ["*Service.*find"] []).selects "HolidayService.findfind" = true := by decide

end Policy
end HolidayApi.Call
