import HolidayApi.Net.Endpoint
import HolidayApi.Proofs.Access.Rules
import HolidayApi.Proofs.Net.Spelling

/-! # Peers and blocks

    Blocks compare addresses, but lists are asked about texts. Two things have
    to hold so that a block admits the peers that lie in it and no others:

    1. The reader of addresses has a grammar, and it reads nothing else. There
       are four parts between dots, and each is a decimal numeral of at most
       255 (`value?_eq_some_iff_octets`). A text is refused for the number of
       its parts or for what is wrong with one of them (`Unfit`,
       `value?_eq_none_iff`).
    2. The text by which a peer is known is in the grammar if the peer has an
       IPv4 address, also one in IPv6 form, and else it is not: an IPv6 address
       is written without dots (`not_dot_mem_text`).
-/

namespace HolidayApi.Text

/-! ### Numerals and what is none -/

/-- The text without a plus sign at the front. -/
def unsigned : List Char → List Char
  | '+' :: run => run
  | cs => cs

/-- A numeral of `n` is a run of digits of that value behind the sign. -/
theorem numeral_iff_unsigned {n : Nat} {cs : List Char} :
    Numeral n cs ↔ unsigned cs ≠ [] ∧ (∀ c ∈ unsigned cs, c.isDigit = true) ∧
      Nat.ofDigitChars 10 (unsigned cs) 0 = n := by
  constructor
  · rintro ⟨run, hcs, hrun⟩
    have hfront : unsigned cs = run := by
      rcases hcs with rfl | rfl
      · -- a run of digits has no sign that could be taken away
        unfold unsigned
        split
        · exact absurd (hrun.2.1 '+' List.mem_cons_self) (by decide)
        · rfl
      · rfl
    rw [hfront]
    exact hrun
  · intro h
    refine ⟨unsigned cs, ?_, h⟩
    unfold unsigned
    split
    · exact .inr rfl
    · exact .inl rfl

end HolidayApi.Text

namespace HolidayApi.Net

namespace Ipv4

/-! ### The grammar of addresses -/

/-- The part is a decimal numeral of this octet. -/
def IsOctet (n : Nat) (part : List Char) : Prop := Text.Numeral n part ∧ n ≤ 255

/-- What can be wrong with a part. -/
inductive Unfit (part : List Char) : Prop where
  /-- There is nothing in it, or nothing but a plus sign. -/
  | empty (h : Text.unsigned part = [])
  /-- Something in it is no digit, as a minus sign is not. -/
  | foreign {c : Char} (hmem : c ∈ Text.unsigned part) (hdigit : c.isDigit = false)
  /-- Its value is that of no octet. -/
  | large (h : 255 < Nat.ofDigitChars 10 (Text.unsigned part) 0)

theorem IsOctet.not_unfit {n : Nat} {part : List Char} (h : IsOctet n part) : ¬Unfit part := by
  obtain ⟨hnumeral, hle⟩ := h
  obtain ⟨hne, hdigits, hvalue⟩ := Text.numeral_iff_unsigned.mp hnumeral
  intro hunfit
  cases hunfit with
  | empty hnone => exact hne hnone
  | foreign hmem hdigit =>
    rw [hdigits _ hmem] at hdigit
    cases hdigit
  | large hlarge => omega

/-- A part with which nothing is wrong is an octet. -/
theorem exists_octet {part : List Char} (h : ¬Unfit part) : ∃ n, IsOctet n part := by
  refine ⟨Nat.ofDigitChars 10 (Text.unsigned part) 0, ?_, ?_⟩
  · refine Text.numeral_iff_unsigned.mpr ⟨fun hnone => h (.empty hnone), ?_, rfl⟩
    intro c hc
    cases hdigit : c.isDigit with
    | true => rfl
    | false => exact absurd (.foreign hc hdigit) h
  · by_contra hlarge
    exact h (.large (by omega))

/-- **Addresses are read by their grammar**, and nothing is lost on the way: what
    is packed is the place value of the four octets. -/
theorem value?_eq_some_iff_octets {cs : List Char} {v : Ipv4} :
    value? cs = some v ↔ ∃ (p q r s : List Char) (a b c d : Nat),
      Text.splitOn '.' cs = [p, q, r, s] ∧
      IsOctet a p ∧ IsOctet b q ∧ IsOctet c r ∧ IsOctet d s ∧
      v.toNat = a * 2 ^ 24 + b * 2 ^ 16 + c * 2 ^ 8 + d := by
  rw [value?_eq_some_iff]
  constructor
  · rintro ⟨a, b, c, d, rfl, p, q, r, s, hparts, hp, hq, hr, hs⟩
    have hle : ∀ o : BitVec 8, o.toNat ≤ 255 := fun o => Nat.le_of_lt_succ o.isLt
    exact ⟨p, q, r, s, a.toNat, b.toNat, c.toNat, d.toNat, hparts, ⟨hp, hle a⟩, ⟨hq, hle b⟩,
      ⟨hr, hle c⟩, ⟨hs, hle d⟩, toNat_ofOctets a b c d⟩
  · rintro ⟨p, q, r, s, a, b, c, d, hparts, ⟨hp, ha⟩, ⟨hq, hb⟩, ⟨hr, hc⟩, ⟨hs, hd⟩, hv⟩
    have hoctet : ∀ n ≤ 255, (BitVec.ofNat 8 n).toNat = n := by
      intro n hn
      rw [BitVec.toNat_ofNat]
      exact Nat.mod_eq_of_lt (by omega)
    refine ⟨.ofNat 8 a, .ofNat 8 b, .ofNat 8 c, .ofNat 8 d, ?_, p, q, r, s, hparts, ?_, ?_, ?_, ?_⟩
    · refine BitVec.eq_of_toNat_eq ?_
      rw [toNat_ofOctets, hoctet a ha, hoctet b hb, hoctet c hc, hoctet d hd, hv]
    · rwa [hoctet a ha]
    · rwa [hoctet b hb]
    · rwa [hoctet c hc]
    · rwa [hoctet d hd]

/-- **A text is refused for a reason**: it has not four parts, or there is
    something wrong with one of them. -/
theorem value?_eq_none_iff {cs : List Char} :
    value? cs = none ↔
      (Text.splitOn '.' cs).length ≠ 4 ∨ ∃ part ∈ Text.splitOn '.' cs, Unfit part := by
  constructor
  · intro hnone
    by_contra hgood
    rw [not_or, not_not] at hgood
    obtain ⟨hlength, hfit⟩ := hgood
    obtain ⟨p, q, r, s, hparts⟩ := List.length_eq_four.mp hlength
    have hoctets : ∀ part ∈ [p, q, r, s], ∃ n, IsOctet n part := by
      intro part hpart
      rw [← hparts] at hpart
      exact exists_octet fun hunfit => hfit ⟨part, hpart, hunfit⟩
    obtain ⟨a, ha⟩ := hoctets p (by simp)
    obtain ⟨b, hb⟩ := hoctets q (by simp)
    obtain ⟨c, hc⟩ := hoctets r (by simp)
    obtain ⟨d, hd⟩ := hoctets s (by simp)
    have hlt : a * 2 ^ 24 + b * 2 ^ 16 + c * 2 ^ 8 + d < 2 ^ 32 := by
      have ha' := ha.2
      have hb' := hb.2
      have hc' := hc.2
      have hd' := hd.2
      omega
    have hsome : value? cs = some (.ofNat 32 (a * 2 ^ 24 + b * 2 ^ 16 + c * 2 ^ 8 + d)) :=
      value?_eq_some_iff_octets.mpr ⟨p, q, r, s, a, b, c, d, hparts, ha, hb, hc, hd,
        BitVec.toNat_ofNat _ _ ▸ Nat.mod_eq_of_lt hlt⟩
    rw [hnone] at hsome
    cases hsome
  · intro hbad
    rw [Option.eq_none_iff_forall_ne_some]
    intro v hv
    obtain ⟨p, q, r, s, a, b, c, d, hparts, ha, hb, hc, hd, _⟩ := value?_eq_some_iff_octets.mp hv
    rw [hparts] at hbad
    rcases hbad with hlength | ⟨part, hpart, hunfit⟩
    · exact hlength rfl
    · simp only [List.mem_cons, List.not_mem_nil, or_false] at hpart
      rcases hpart with rfl | rfl | rfl | rfl
      · exact ha.not_unfit hunfit
      · exact hb.not_unfit hunfit
      · exact hc.not_unfit hunfit
      · exact hd.not_unfit hunfit

/-- The text of an address is read as the address. -/
theorem value?_text (v : Ipv4) : value? v.text.toList = some v := by
  rw [text, String.toList_ofList]
  exact v.value?_dotted

end Ipv4

/-! ### Texts without dots -/

namespace Ipv6

theorem not_dot_mem_hexGroups (gs : List (BitVec 16)) : '.' ∉ hexGroups gs := by
  intro hdot
  rcases Text.mem_joinWith hdot with hcolon | ⟨part, hpart, hmem⟩
  · exact absurd hcolon (by decide)
  · obtain ⟨g, _, rfl⟩ := List.mem_map.mp hpart
    obtain ⟨d, hd, hdigit⟩ := exists_digit_of_mem (by decide) g.toNat hmem
    have hno : ∀ d < 16, '.' ≠ Nat.digitChar d := by decide
    exact hno d hd hdigit

/-- Only a mapped address is written with dots. -/
theorem not_dot_mem_text {v : Ipv6} (h : v.mapped? = none) : '.' ∉ v.text.toList := by
  unfold text
  rw [h]
  dsimp only
  split
  · -- the longest run of zeros is left out
    rw [String.toList_ofList, List.mem_append, List.mem_append]
    rintro ((hbefore | hcolons) | hafter)
    · exact not_dot_mem_hexGroups _ hbefore
    · exact absurd hcolons (by decide)
    · exact not_dot_mem_hexGroups _ hafter
  · rw [String.toList_ofList]
    exact not_dot_mem_hexGroups _

/-- A text without dots is one part. -/
theorem value?_text {v : Ipv6} (h : v.mapped? = none) : Ipv4.value? v.text.toList = none := by
  have hone : (Text.splitOn '.' v.text.toList).length = 1 := by
    rw [Text.splitOn_of_not_mem (not_dot_mem_text h), List.length_singleton]
  exact Ipv4.value?_eq_none_iff.mpr (.inl (by omega))

end Ipv6

/-- No mapped address is left as it is. -/
theorem IpAddress.mapped?_of_canonical {peer : IpAddress} {a : Ipv6}
    (h : peer.canonical = .v6 a) : a.mapped? = none := by
  cases peer with
  | v4 v => cases h
  | v6 b =>
    unfold canonical at h
    cases hmapped : b.mapped? with
    | some inner =>
      simp only [hmapped] at h
      cases h
    | none =>
      simp only [hmapped] at h
      cases h
      exact hmapped

end HolidayApi.Net

namespace HolidayApi.Access

open HolidayApi.Net (IpAddress Ipv4 Ipv6)

/-! ### The peers of a block -/

/-- A block admits a peer if the address behind its text lies in it. -/
theorem Entry.covers_peer_iff (base : Ipv4) (length : Fin 33) (peer : IpAddress) :
    (Entry.block base length).covers peer.canonical.text = true ↔
      ∃ v, peer.canonical = .v4 v ∧ base.SameBlock length v := by
  rw [covers_block_iff]
  cases hpeer : peer.canonical with
  | v4 v =>
    show (∃ w, Ipv4.value? v.text.toList = some w ∧ base.SameBlock length w) ↔ _
    rw [v.value?_text]
    constructor
    · rintro ⟨w, hw, hsame⟩
      cases hw
      exact ⟨v, rfl, hsame⟩
    · rintro ⟨w, hw, hsame⟩
      cases hw
      exact ⟨v, rfl, hsame⟩
  | v6 a =>
    show (∃ w, Ipv4.value? a.text.toList = some w ∧ base.SameBlock length w) ↔ _
    rw [Ipv6.value?_text (IpAddress.mapped?_of_canonical hpeer)]
    constructor
    · rintro ⟨w, hw, _⟩
      cases hw
    · rintro ⟨w, hw, _⟩
      cases hw

/-- **What is read as an address, and whom a block admits.** A text is read
    exactly if it has four parts between dots and each is a numeral of at most
    255; its value is the place value of the four, so that no bit is lost, and
    every other text is refused for one of the reasons. An IPv4 address is read
    from its own text, while the text of an IPv6 address is refused unless an
    IPv4 address is mapped in it. So a block admits a peer if its canonical
    address is an IPv4 address in the block, and not else. -/
theorem addresses_of_grammar :
    (∀ (text : String) (v : Ipv4), Ipv4.value? text.toList = some v ↔
      ∃ (p q r s : List Char) (a b c d : Nat),
        Text.splitOn '.' text.toList = [p, q, r, s] ∧
        Ipv4.IsOctet a p ∧ Ipv4.IsOctet b q ∧ Ipv4.IsOctet c r ∧ Ipv4.IsOctet d s ∧
        v.toNat = a * 2 ^ 24 + b * 2 ^ 16 + c * 2 ^ 8 + d) ∧
    (∀ text : String, Ipv4.value? text.toList = none ↔
      (Text.splitOn '.' text.toList).length ≠ 4 ∨
        ∃ part ∈ Text.splitOn '.' text.toList, Ipv4.Unfit part) ∧
    (∀ v : Ipv4, Ipv4.value? v.text.toList = some v) ∧
    (∀ a : Ipv6, a.mapped? = none → Ipv4.value? a.text.toList = none) ∧
    ∀ (base : Ipv4) (length : Fin 33) (peer : IpAddress),
      (Entry.block base length).covers peer.canonical.text = true ↔
        ∃ v, peer.canonical = .v4 v ∧ base.SameBlock length v :=
  ⟨fun _ _ => Ipv4.value?_eq_some_iff_octets, fun _ => Ipv4.value?_eq_none_iff,
    Ipv4.value?_text, fun _ => Ipv6.value?_text, Entry.covers_peer_iff⟩

/-- The loopback address of IPv6 has no IPv4 address, and a mapped address lies
    in the block of its IPv4 address. -/
theorem addresses_of_grammar_ipv6 :
    (1 : Ipv6).mapped? = none ∧ Ipv4.value? (1 : Ipv6).text.toList = none ∧
    (IpAddress.v6 0xFFFF0A010203#128).canonical = .v4 0x0A010203#32 ∧
    (Entry.block 0x0A000000#32 8).covers
      (IpAddress.v6 0xFFFF0A010203#128).canonical.text = true := by
  obtain ⟨-, -, -, hnone, hcovers⟩ := addresses_of_grammar
  have hmapped : (1 : Ipv6).mapped? = none := by decide
  have hcanonical : (IpAddress.v6 0xFFFF0A010203#128).canonical = .v4 0x0A010203#32 := by decide
  have hsame : Ipv4.SameBlock 8 0x0A000000#32 0x0A010203#32 := by
    unfold Ipv4.SameBlock
    decide
  exact ⟨hmapped, hnone 1 hmapped, hcanonical, (hcovers _ _ _).mpr ⟨_, hcanonical, hsame⟩⟩

end HolidayApi.Access
