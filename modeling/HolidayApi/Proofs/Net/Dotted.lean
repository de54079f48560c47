import HolidayApi.Net.Ipv4
import Mathlib.Algebra.Group.Nat.Defs
import Mathlib.Data.List.Basic
import Mathlib.Data.List.Forall2

/-! # The dotted notation

    Reading an address packs octets into a word one after the other. Four of
    them fit (`toNat_push`), so what has been packed is their place value
    (`toNat_ofOctets`), and a text is read if it consists of four numerals
    between dots (`value?_eq_some_iff`).

    The canonical notation is one of those, so an address that is shown is
    read back (`value?_dotted`).
-/

namespace HolidayApi.Net.Ipv4

/-! ### Packing -/

/-- Nothing is lost while the highest octet is free. -/
theorem toNat_push {v : Ipv4} (h : v.toNat < 2 ^ 24) (o : BitVec 8) :
    (v.push o).toNat = v.toNat * 2 ^ 8 + o.toNat := by
  have ho := o.isLt
  have hshift : (v <<< 8).toNat = v.toNat <<< 8 := by
    rw [BitVec.toNat_shiftLeft, Nat.shiftLeft_eq]
    exact Nat.mod_eq_of_lt (by omega)
  unfold push
  rw [BitVec.toNat_or, hshift, BitVec.toNat_setWidth_of_le (by decide),
    ← Nat.shiftLeft_add_eq_or_of_lt ho, Nat.shiftLeft_eq]

/-- The place value of four octets. -/
theorem toNat_ofOctets (a b c d : BitVec 8) :
    (ofOctets a b c d).toNat =
      a.toNat * 2 ^ 24 + b.toNat * 2 ^ 16 + c.toNat * 2 ^ 8 + d.toNat := by
  have hb := b.isLt
  have hc := c.isLt
  have hd := d.isLt
  unfold ofOctets
  rw [BitVec.toNat_append, BitVec.toNat_append, BitVec.toNat_append,
    ← Nat.shiftLeft_add_eq_or_of_lt hb, ← Nat.shiftLeft_add_eq_or_of_lt hc,
    ← Nat.shiftLeft_add_eq_or_of_lt hd]
  simp only [Nat.shiftLeft_eq]
  omega

/-- Four octets packed one after the other. -/
theorem push_four (a b c d : BitVec 8) :
    ((((0 : Ipv4).push a).push b).push c).push d = ofOctets a b c d := by
  have ha := a.isLt
  have hb := b.isLt
  have hc := c.isLt
  have h₁ : ((0 : Ipv4).push a).toNat = a.toNat := by
    rw [toNat_push (by decide)]
    simp
  have h₂ : (((0 : Ipv4).push a).push b).toNat = a.toNat * 2 ^ 8 + b.toNat := by
    rw [toNat_push (by omega), h₁]
  have h₃ : ((((0 : Ipv4).push a).push b).push c).toNat =
      (a.toNat * 2 ^ 8 + b.toNat) * 2 ^ 8 + c.toNat := by
    rw [toNat_push (by omega), h₂]
  refine BitVec.eq_of_toNat_eq ?_
  rw [toNat_push (by omega), h₃, toNat_ofOctets]
  omega

/-! ### Reading -/

/-- An octet is read from the numerals of its value. -/
theorem octet?_eq_some_iff {cs : List Char} {o : BitVec 8} :
    octet? cs = some o ↔ Text.Numeral o.toNat cs := by
  have hlt := o.isLt
  unfold octet?
  rw [Option.map_eq_some_iff]
  constructor
  · rintro ⟨n, hn, rfl⟩
    obtain ⟨hnumeral, hle⟩ := Text.natural?_eq_some_iff.mp hn
    have hvalue : (BitVec.ofNat 8 n).toNat = n := by
      rw [BitVec.toNat_ofNat]
      exact Nat.mod_eq_of_lt (by omega)
    rw [hvalue]
    exact hnumeral
  · intro hnumeral
    refine ⟨o.toNat, Text.natural?_eq_some_iff.mpr ⟨hnumeral, by omega⟩, ?_⟩
    rw [BitVec.ofNat_toNat, BitVec.setWidth_eq]

/-- What the loop over the parts packs: an octet for each part, so that there
    are four of them with those before. -/
theorem packFrom_eq_some_iff {w : Ipv4} {parts : List (List Char)} :
    ∀ {count : Nat} {v : Ipv4}, packFrom count v parts = some w ↔
      ∃ octets : List (BitVec 8),
        List.Forall₂ (fun part o => octet? part = some o) parts octets ∧
          count + octets.length = 4 ∧ octets.foldl push v = w := by
  induction parts with
  | nil =>
    intro count v
    simp [packFrom]
  | cons part parts ih =>
    intro count v
    unfold packFrom
    split
    · next hcount =>
      rw [Option.bind_eq_some_iff]
      constructor
      · rintro ⟨o, ho, hrest⟩
        obtain ⟨octets, hread, hlength, hvalue⟩ := ih.mp hrest
        refine ⟨o :: octets, .cons ho hread, ?_, hvalue⟩
        rw [List.length_cons]
        omega
      · rintro ⟨_, hread, hlength, hvalue⟩
        cases hread with
        | cons ho hread =>
          rw [List.length_cons] at hlength
          exact ⟨_, ho, ih.mpr ⟨_, hread, by omega, hvalue⟩⟩
    · next hcount =>
      -- a fifth part is one octet too many
      constructor
      · intro h
        cases h
      · rintro ⟨_, hread, hlength, _⟩
        cases hread
        rw [List.length_cons] at hlength
        omega

/-- A lenient notation of the address: four parts between dots, one for each
    octet, and each a numeral of it. -/
def Lenient (v : Ipv4) (cs : List Char) : Prop :=
  ∃ a b c d : BitVec 8, ofOctets a b c d = v ∧
    ∃ p q r s : List Char, Text.splitOn '.' cs = [p, q, r, s] ∧
      Text.Numeral a.toNat p ∧ Text.Numeral b.toNat q ∧
        Text.Numeral c.toNat r ∧ Text.Numeral d.toNat s

/-- **The lenient notations of an address are what is read as it.** -/
theorem value?_eq_some_iff {cs : List Char} {v : Ipv4} : value? cs = some v ↔ v.Lenient cs := by
  unfold value?
  rw [packFrom_eq_some_iff]
  constructor
  · rintro ⟨octets, hread, hlength, rfl⟩
    rw [Nat.zero_add, List.length_eq_four] at hlength
    obtain ⟨a, b, c, d, rfl⟩ := hlength
    obtain ⟨p, _, hp, htail, hparts⟩ := List.forall₂_cons_right_iff.mp hread
    obtain ⟨q, _, hq, hpair, rfl⟩ := List.forall₂_cons_right_iff.mp htail
    obtain ⟨r, _, hr, hlast, rfl⟩ := List.forall₂_cons_right_iff.mp hpair
    obtain ⟨s, _, hs, hnone, rfl⟩ := List.forall₂_cons_right_iff.mp hlast
    cases hnone
    exact ⟨a, b, c, d, (push_four a b c d).symm, p, q, r, s, hparts, octet?_eq_some_iff.mp hp,
      octet?_eq_some_iff.mp hq, octet?_eq_some_iff.mp hr, octet?_eq_some_iff.mp hs⟩
  · rintro ⟨a, b, c, d, rfl, p, q, r, s, hparts, hp, hq, hr, hs⟩
    refine ⟨[a, b, c, d], ?_, rfl, push_four a b c d⟩
    rw [hparts]
    exact .cons (octet?_eq_some_iff.mpr hp) (.cons (octet?_eq_some_iff.mpr hq)
      (.cons (octet?_eq_some_iff.mpr hr) (.cons (octet?_eq_some_iff.mpr hs) .nil)))

/-- In the lenient notation stand digits, dots and plus signs. -/
theorem Lenient.not_mem {v : Ipv4} {cs : List Char} {c : Char} (h : v.Lenient cs)
    (hdigit : c.isDigit = false) (hplus : c ≠ '+') (hdot : c ≠ '.') : c ∉ cs := by
  obtain ⟨_, _, _, _, _, p, q, r, s, hparts, hp, hq, hr, hs⟩ := h
  have hjoined := Text.joinWith_splitOn '.' cs
  rw [hparts] at hjoined
  rw [← hjoined]
  simp [Text.joinWith, hdot, hp.not_mem hdigit hplus, hq.not_mem hdigit hplus,
    hr.not_mem hdigit hplus, hs.not_mem hdigit hplus]

/-! ### Showing -/

/-- The octets are all there is to an address. -/
theorem ofOctets_octets (v : Ipv4) :
    ofOctets (v.extractLsb' 24 8) (v.extractLsb' 16 8) (v.extractLsb' 8 8) (v.extractLsb' 0 8) =
      v := by
  unfold ofOctets
  rw [BitVec.extractLsb'_append_extractLsb'_eq_extractLsb' (show 24 = 16 + 8 from rfl),
    BitVec.extractLsb'_append_extractLsb'_eq_extractLsb' (show 16 = 8 + 8 from rfl),
    BitVec.extractLsb'_append_extractLsb'_eq_extractLsb' (show 8 = 0 + 8 from rfl)]
  exact BitVec.extractLsb'_eq_self

/-- Between the dots of an address there are digits only. -/
theorem splitOn_dotted (v : Ipv4) :
    Text.splitOn '.' v.dotted = v.octets.map fun o => Text.decimal o.toNat := by
  refine Text.splitOn_joinWith (by simp [octets]) ?_
  intro part hpart
  obtain ⟨o, _, rfl⟩ := List.mem_map.mp hpart
  exact Text.not_mem_decimal rfl _

/-- The canonical notation is a lenient one. -/
theorem lenient_dotted (v : Ipv4) : v.Lenient v.dotted :=
  ⟨_, _, _, _, ofOctets_octets v, _, _, _, _, splitOn_dotted v, Text.numeral_decimal _,
    Text.numeral_decimal _, Text.numeral_decimal _, Text.numeral_decimal _⟩

/-- **An address that is shown is read back.** -/
theorem value?_dotted (v : Ipv4) : value? v.dotted = some v :=
  value?_eq_some_iff.mpr (lenient_dotted v)

end HolidayApi.Net.Ipv4
