import HolidayApi.Net.Endpoint
import HolidayApi.Text.Blank

/-! # What addresses are spelled with

    A shown address consists of hexadecimal digits in small letters, dots and
    colons (`isSpelled_text`), and it is never empty (`toList_text_ne_nil`). So
    it holds no blank and no comma, and whatever its letters are, they never make
    up a word with other letters in it.
-/

namespace HolidayApi.Net

/-! ### Characters -/

/-- The characters that addresses are written with. -/
def addressChars : List Char := "0123456789abcdef.:".toList

/-- All characters of the text are among those of addresses. -/
def IsSpelled (cs : List Char) : Prop := ∀ c ∈ cs, c ∈ addressChars

-- Decided along the lists: a bounded quantifier over characters goes through all there are.
theorem isSpelled_of_all {cs : List Char} (h : (cs.all fun c => addressChars.contains c) = true) :
    IsSpelled cs := by
  intro c hc
  exact List.contains_iff_mem.mp (List.all_eq_true.mp h c hc)

theorem isBlank_addressChars {c : Char} (hc : c ∈ addressChars) : Text.isBlank c = false := by
  have hall : (addressChars.all fun c => !Text.isBlank c) = true := by decide
  have hnot : (!Text.isBlank c) = true := List.all_eq_true.mp hall c hc
  rwa [Bool.not_eq_true'] at hnot

theorem not_comma_mem_addressChars : ',' ∉ addressChars := by decide

/-- No letter beyond `f` stands in an address, in either form. -/
theorem toLower_addressChars {c : Char} (hc : c ∈ addressChars) : c.toLower ∈ addressChars := by
  have hall : IsSpelled (addressChars.map Char.toLower) := isSpelled_of_all (by decide)
  exact hall c.toLower (List.mem_map_of_mem hc)

theorem digitChar_mem : ∀ d < 16, Nat.digitChar d ∈ addressChars := by decide

/-- What stands in a number is a digit of its base. -/
theorem exists_digit_of_mem {base : Nat} (hone : 1 < base) (n : Nat) {c : Char}
    (hc : c ∈ Nat.toDigits base n) : ∃ d < base, c = Nat.digitChar d := by
  induction n using Nat.strongRecOn with
  | ind n ih =>
    rw [Nat.toDigits_eq_if hone] at hc
    split at hc
    · next hsmall => exact ⟨n, hsmall, List.mem_singleton.mp hc⟩
    · next hlarge =>
      rcases List.mem_append.mp hc with hfront | hlast
      · -- the digits in front are those of a smaller number
        have hless : n / base < n := Nat.div_lt_self (by omega) hone
        exact ih (n / base) hless hfront
      · have hlt : n % base < base := Nat.mod_lt n (by omega)
        exact ⟨n % base, hlt, List.mem_singleton.mp hlast⟩

/-- A number in a base up to sixteen is written with such characters. -/
theorem isSpelled_toDigits {base : Nat} (hone : 1 < base) (hle : base ≤ 16) (n : Nat) :
    IsSpelled (Nat.toDigits base n) := by
  intro c hc
  obtain ⟨d, hd, rfl⟩ := exists_digit_of_mem hone n hc
  exact digitChar_mem d (by omega)

theorem IsSpelled.append {cs ds : List Char} (hcs : IsSpelled cs) (hds : IsSpelled ds) :
    IsSpelled (cs ++ ds) := by
  intro c hc
  rcases List.mem_append.mp hc with h | h
  · exact hcs c h
  · exact hds c h

theorem isSpelled_joinWith {sep : Char} {parts : List (List Char)} (hsep : sep ∈ addressChars)
    (hparts : ∀ part ∈ parts, IsSpelled part) : IsSpelled (Text.joinWith sep parts) := by
  intro c hc
  rcases Text.mem_joinWith hc with rfl | ⟨part, hpart, hmem⟩
  · exact hsep
  · exact hparts part hpart c hmem

/-! ### Addresses -/

namespace Ipv4

theorem isSpelled_dotted (v : Ipv4) : IsSpelled v.dotted := by
  refine isSpelled_joinWith (by decide) ?_
  intro part hpart
  obtain ⟨o, _, rfl⟩ := List.mem_map.mp hpart
  exact isSpelled_toDigits (by decide) (by decide) o.toNat

/-- There are dots in it. -/
theorem dotted_ne_nil (v : Ipv4) : v.dotted ≠ [] := by
  have hdot : '.' ∈ v.dotted := List.mem_append_right _ List.mem_cons_self
  exact List.ne_nil_of_mem hdot

end Ipv4

namespace Ipv6

theorem isSpelled_hexGroups (gs : List (BitVec 16)) : IsSpelled (hexGroups gs) := by
  refine isSpelled_joinWith (by decide) ?_
  intro part hpart
  obtain ⟨g, _, rfl⟩ := List.mem_map.mp hpart
  exact isSpelled_toDigits (by decide) (by decide) g.toNat

/-- The address with its longest run of zeros left out, if there is one, or with
    all of its groups, or ending in a dotted address. -/
theorem toList_text (v : Ipv6) :
    (∃ v4 : Ipv4, v.text.toList = "::ffff:".toList ++ v4.dotted) ∨
    (∃ before after, v.text.toList = hexGroups before ++ [':', ':'] ++ hexGroups after) ∨
    v.text.toList = hexGroups v.groups := by
  unfold text
  split
  · next v4 _ =>
    have hdotted : v4.text.toList = v4.dotted := String.toList_ofList
    left
    exact ⟨v4, by rw [String.toList_append, hdotted]⟩
  · dsimp only
    split
    · right; left
      exact ⟨_, _, String.toList_ofList⟩
    · right; right
      exact String.toList_ofList

theorem isSpelled_text (v : Ipv6) : IsSpelled v.text.toList := by
  rcases toList_text v with ⟨v4, h⟩ | ⟨before, after, h⟩ | h
  · rw [h]
    have hfront : IsSpelled "::ffff:".toList := isSpelled_of_all (by decide)
    exact hfront.append v4.isSpelled_dotted
  · rw [h]
    have hcolons : IsSpelled [':', ':'] := isSpelled_of_all (by decide)
    exact ((isSpelled_hexGroups before).append hcolons).append (isSpelled_hexGroups after)
  · rw [h]
    exact isSpelled_hexGroups v.groups

/-- There are colons in it. -/
theorem toList_text_ne_nil (v : Ipv6) : v.text.toList ≠ [] := by
  have hcolon : ':' ∈ v.text.toList := by
    rcases toList_text v with ⟨v4, h⟩ | ⟨before, after, h⟩ | h
    · rw [h]
      exact List.mem_append_left _ (by decide)
    · rw [h]
      exact List.mem_append_left _ (List.mem_append_right _ List.mem_cons_self)
    · rw [h]
      exact List.mem_append_right _ List.mem_cons_self
  exact List.ne_nil_of_mem hcolon

end Ipv6

namespace IpAddress

/-- **What a shown address is spelled with.** -/
theorem isSpelled_text (address : IpAddress) : IsSpelled address.text.toList := by
  cases address with
  | v4 v =>
    show IsSpelled v.text.toList
    rw [Ipv4.text, String.toList_ofList]
    exact v.isSpelled_dotted
  | v6 v => exact v.isSpelled_text

theorem toList_text_ne_nil (address : IpAddress) : address.text.toList ≠ [] := by
  cases address with
  | v4 v =>
    show v.text.toList ≠ []
    rw [Ipv4.text, String.toList_ofList]
    exact v.dotted_ne_nil
  | v6 v => exact v.toList_text_ne_nil

end IpAddress
end HolidayApi.Net
