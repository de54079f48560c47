import HolidayApi.Proofs.Access.Notation

/-! # What an entry admits

    Whom an entry admits is a rule about two texts, the one the entry was
    given as and the address (`Rule`); the form in which entries are kept and
    the masks with which blocks are compared are not part of it. A list
    admits an address if one of its texts has a rule for it
    (`admits_iff_rules`).

    Two addresses lie in one block if they are equal after division by its
    size. That this is what masks compare, for the empty and for the whole
    mask too, is shown on words (`and_mask_eq_iff`); no mask is made by moving
    a word too far (`exists_mask`).

    An entry that is not malformed admits somebody: a block admits its base,
    and every other entry its own text (`malformed_iff_covers_nobody`).
-/

namespace HolidayApi.Net.Ipv4

/-! ### Blocks of addresses -/

/-- The addresses lie in one block of which the first `length` bits are fixed. -/
def SameBlock (length : Nat) (v w : Ipv4) : Prop :=
  v.toNat / 2 ^ (32 - length) = w.toNat / 2 ^ (32 - length)

/-- Without fixed bits there is one block only. -/
theorem sameBlock_zero (v w : Ipv4) : SameBlock 0 v w := by
  unfold SameBlock
  rw [Nat.div_eq_of_lt v.isLt, Nat.div_eq_of_lt w.isLt]

/-- With all bits fixed a block is one address. -/
theorem sameBlock_all {v w : Ipv4} : SameBlock 32 v w ↔ v = w := by
  unfold SameBlock
  rw [Nat.sub_self, Nat.pow_zero, Nat.div_one, Nat.div_one]
  exact BitVec.toNat_inj

/-- Words agree above `places` if division leaves the same of them. -/
theorem and_shiftLeft_eq_iff (v w : Ipv4) (places : Nat) :
    v &&& BitVec.allOnes 32 <<< places = w &&& BitVec.allOnes 32 <<< places ↔
      v.toNat / 2 ^ places = w.toNat / 2 ^ places := by
  have hvalue : ∀ x : Ipv4, (x &&& BitVec.allOnes 32 <<< places).toNat =
      x.toNat / 2 ^ places * 2 ^ places := by
    intro x
    have hle : x.toNat / 2 ^ places * 2 ^ places ≤ x.toNat := Nat.div_mul_le_self _ _
    rw [← BitVec.shiftLeft_ushiftRight, BitVec.toNat_shiftLeft, BitVec.toNat_ushiftRight,
      Nat.shiftRight_eq_div_pow, Nat.shiftLeft_eq]
    exact Nat.mod_eq_of_lt (Nat.lt_of_le_of_lt hle x.isLt)
  rw [← BitVec.toNat_inj, hvalue, hvalue]
  exact Nat.mul_left_inj (Nat.ne_of_gt (Nat.two_pow_pos places))

/-- **The mask of a block can be made**: nothing is moved for the empty one, and
    fewer than 32 places for the others. -/
theorem exists_mask (length : Fin 33) : ∃ mask, mask? length = some mask := by
  unfold mask?
  split
  · exact ⟨_, rfl⟩
  · have hplaces : 32 - length.val < 32 := by omega
    unfold shiftLeft?
    rw [if_pos hplaces]
    exact ⟨_, rfl⟩

/-- Under the mask of a block its addresses are equal. -/
theorem and_mask_eq_iff {length : Nat} {mask : Ipv4} (h : mask? length = some mask)
    (v w : Ipv4) : v &&& mask = w &&& mask ↔ v.SameBlock length w := by
  unfold mask? at h
  split at h
  · next hzero =>
    cases h
    subst hzero
    simp [sameBlock_zero]
  · unfold shiftLeft? at h
    split at h
    · cases h
      exact and_shiftLeft_eq_iff v w (32 - length)
    · cases h

end HolidayApi.Net.Ipv4

namespace HolidayApi.Access

open HolidayApi.Net (Ipv4)

namespace Entry

/-! ### What the forms of entries admit -/

/-- **The decision never fails.** -/
theorem covers?_eq (entry : Entry) (address : String) :
    entry.covers? address = some (entry.covers address) := by
  have hanswer : ∃ answer, entry.covers? address = some answer := by
    cases entry with
    | any => exact ⟨_, rfl⟩
    | exact expected => exact ⟨_, rfl⟩
    | wildcard a b c d =>
      rw [covers?]
      split <;> exact ⟨_, rfl⟩
    | block base length =>
      obtain ⟨mask, hmask⟩ := Ipv4.exists_mask length
      rw [covers?, hmask]
      split <;> exact ⟨_, rfl⟩
    | malformed raw => exact ⟨_, rfl⟩
  obtain ⟨answer, h⟩ := hanswer
  cases answer <;> simp [covers, h]

theorem covers_any (address : String) : covers .any address = true := rfl

theorem covers_exact_iff {expected address : String} :
    covers (.exact expected) address = true ↔ expected = address := by
  simp [covers, covers?]

theorem covers_malformed (raw address : String) : covers (.malformed raw) address = false := rfl

/-- A part of a pattern that is a star, or the same as the other part. -/
def PartRule (pattern part : List Char) : Prop := pattern = ['*'] ∨ pattern = part

theorem partCovers_iff {pattern part : List Char} :
    partCovers (.ofList pattern) (.ofList part) = true ↔ PartRule pattern part := by
  have hstar : "*" = String.ofList ['*'] := rfl
  unfold partCovers PartRule
  rw [Bool.or_eq_true, decide_eq_true_iff, decide_eq_true_iff, hstar, String.ofList_inj,
    String.ofList_inj]

theorem covers_wildcard_iff {a b c d : List Char} {address : String} :
    covers (.wildcard (.ofList a) (.ofList b) (.ofList c) (.ofList d)) address = true ↔
      List.Forall₂ PartRule [a, b, c, d] (Text.splitOn '.' address.toList) := by
  rw [covers, covers?, decide_eq_true_iff]
  generalize Text.splitOn '.' address.toList = parts
  -- parts that are not four are not compared at all
  rcases parts with _ | ⟨p, _ | ⟨q, _ | ⟨r, _ | ⟨s, _ | ⟨t, rest⟩⟩⟩⟩⟩ <;>
    simp [partCovers_iff, and_assoc]

theorem covers_block_iff {base : Ipv4} {length : Fin 33} {address : String} :
    covers (.block base length) address = true ↔
      ∃ value, Ipv4.value? address.toList = some value ∧ base.SameBlock length value := by
  obtain ⟨mask, hmask⟩ := Ipv4.exists_mask length
  rw [covers, covers?, hmask, decide_eq_true_iff]
  cases hvalue : Ipv4.value? address.toList with
  | none => simp
  | some value => simp [← Ipv4.and_mask_eq_iff hmask, eq_comm]

/-! ### The rules -/

/-- What a text has to do with an address so that the entry given as the text
    admits the address. -/
inductive Rule (pattern address : String) : Prop where
  /-- A star admits everything. -/
  | star (hpattern : pattern = "*")
  /-- A base and a number of bits around the only slash admit the addresses
      that lie in one block with the base. -/
  | block {base bits : List Char} {length : Nat} {v w : Ipv4}
      (hpattern : pattern.toList = base ++ '/' :: bits)
      (hbase : '/' ∉ base) (hbits : '/' ∉ bits)
      (hlength : Text.Numeral length bits) (hle : length ≤ 32)
      (hv : Ipv4.value? base = some v) (hw : Ipv4.value? address.toList = some w)
      (hsame : v.SameBlock length w)
  /-- Four parts with a star among their characters and without a slash admit
      the texts of four parts that have to do with them one by one. -/
  | parts (hslash : '/' ∉ pattern.toList) (hstar : '*' ∈ pattern.toList)
      (hpattern : (Text.splitOn '.' pattern.toList).length = 4)
      (haddress : (Text.splitOn '.' address.toList).length = 4)
      (hparts : List.Forall₂ PartRule (Text.splitOn '.' pattern.toList)
        (Text.splitOn '.' address.toList))
  /-- Every other text admits itself. -/
  | same (hslash : '/' ∉ pattern.toList) (hstar : '*' ∉ pattern.toList)
      (hsame : pattern = address)

/-- **An entry admits what there is a rule for.** -/
theorem covers_parse_iff {pattern address : String} :
    (parse pattern).covers address = true ↔ Rule pattern address := by
  constructor
  · intro h
    have hreading := reading_parse pattern
    generalize parse pattern = entry at hreading h
    cases hreading with
    | any hraw => exact .star hraw
    | block hspells =>
      obtain ⟨base, bits, hraw, hbase, hbits⟩ := hspells
      obtain ⟨value, hvalue, hsame⟩ := covers_block_iff.mp h
      exact .block hraw (hbase.not_mem rfl (by decide) (by decide))
        (hbits.not_mem rfl (by decide)) hbits (by omega)
        (Ipv4.value?_eq_some_iff.mpr hbase) hvalue hsame
    | wildcard hslash hstar hparts =>
      have hrule := covers_wildcard_iff.mp h
      rw [← hparts] at hrule
      have hfour : (Text.splitOn '.' pattern.toList).length = 4 := congrArg List.length hparts
      exact .parts hslash hstar hfour (hrule.length_eq ▸ hfour) hrule
    | exact hslash hstar => exact .same hslash hstar (covers_exact_iff.mp h)
    | noBlock hslash hspells => cases h
    | noWildcard hraw hslash hstar hparts => cases h
  · intro h
    cases h with
    | star hpattern =>
      rw [parse_eq_iff.mpr (.any hpattern)]
      exact covers_any address
    | @block base bits length v w hpattern hbase hbits hlength hle hv hw hsame =>
      have hspells : Spells pattern.toList v ⟨length, by omega⟩ :=
        ⟨base, bits, hpattern, Ipv4.value?_eq_some_iff.mp hv, hlength⟩
      rw [parse_eq_block_iff.mpr hspells]
      exact covers_block_iff.mpr ⟨w, hw, hsame⟩
    | parts hslash hstar hpattern haddress hparts =>
      obtain ⟨a, b, c, d, hfour⟩ := List.length_eq_four.mp hpattern
      rw [parse_eq_iff.mpr (.wildcard hslash hstar hfour), covers_wildcard_iff, ← hfour]
      exact hparts
    | same hslash hstar hsame =>
      rw [parse_eq_iff.mpr (.exact hslash hstar)]
      exact covers_exact_iff.mpr hsame

/-! ### Entries that admit nobody -/

/-- Unless it is malformed an entry admits somebody. -/
theorem Reading.exists_covers {raw : String} {entry : Entry} (h : Reading raw entry)
    (hgood : entry.isMalformed = false) : ∃ address, entry.covers address = true := by
  cases h with
  | any hraw => exact ⟨raw, covers_any raw⟩
  | @block base length hspells =>
    -- a spelling of the base may be another text than the one that is shown
    refine ⟨base.text, covers_block_iff.mpr ⟨base, ?_, rfl⟩⟩
    rw [Ipv4.text, String.toList_ofList]
    exact base.value?_dotted
  | wildcard hslash hstar hparts =>
    refine ⟨raw, covers_wildcard_iff.mpr ?_⟩
    rw [hparts]
    exact List.forall₂_same.mpr fun part _ => .inr rfl
  | exact hslash hstar => exact ⟨raw, covers_exact_iff.mpr rfl⟩
  | noBlock hslash hspells => cases hgood
  | noWildcard hraw hslash hstar hparts => cases hgood

theorem covers_of_isMalformed {entry : Entry} (h : entry.isMalformed = true) (address : String) :
    entry.covers address = false := by
  cases entry with
  | malformed raw => exact covers_malformed raw address
  | any => cases h
  | exact expected => cases h
  | wildcard a b c d => cases h
  | block base length => cases h

/-- **The malformed entries are those that admit nobody.** -/
theorem malformed_iff_covers_nobody (raw : String) :
    (parse raw).isMalformed = true ↔ ¬∃ address, (parse raw).covers address = true := by
  constructor
  · rintro h ⟨address, hcovers⟩
    rw [covers_of_isMalformed h] at hcovers
    cases hcovers
  · intro hnobody
    cases hgood : (parse raw).isMalformed with
    | true => rfl
    | false => exact absurd ((reading_parse raw).exists_covers hgood) hnobody

end Entry

/-! ### What a list admits -/

/-- **A list admits an address if there is a rule for it in one of its texts.**
    To decide this no word is moved by 32 places or more: to pack an octet the
    others are moved by eight, and the mask of every block can be made. Blocks
    without fixed bits hold all addresses, and blocks with all bits fixed hold
    one. -/
theorem AllowList.admits_iff_rules (patterns : List String) (address : String) :
    ((AllowList.ofPatterns patterns).admits address = true ↔
      ∃ pattern ∈ patterns, Entry.Rule pattern address) ∧
    (∀ entry : Entry, (entry.covers? address).isSome = true) ∧
    ∀ v w : Ipv4, Ipv4.SameBlock 0 v w ∧ (Ipv4.SameBlock 32 v w ↔ v = w) := by
  refine ⟨?_, ?_, fun v w => ⟨Ipv4.sameBlock_zero v w, Ipv4.sameBlock_all⟩⟩
  · rw [admits_iff]
    simp only [ofPatterns, List.mem_map, exists_exists_and_eq_and, Entry.covers_parse_iff]
  · intro entry
    rw [Entry.covers?_eq]
    rfl

end HolidayApi.Access
