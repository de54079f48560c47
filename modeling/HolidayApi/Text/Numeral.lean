import HolidayApi.Text.Split

/-! # Decimal numerals

    The numerals that addresses, ports and path parameters are written in:
    an optional sign and one or more decimal digits, with any number of
    leading zeros (`Numeral`). Reading fails where the value leaves the given
    range. `isReal` tells the numerals that may have a fraction and an exponent,
    and `digitValue?` reads the digits of numbers that are written in another
    base.
-/

namespace HolidayApi.Text

/-! ### Ranges -/

/-- The largest number of 31 bits. -/
def max31 : Nat := 0x7FFFFFFF

/-- The largest number of 32 bits. -/
def max32 : Nat := 0xFFFFFFFF

/-- The largest number of 63 bits. -/
def max63 : Nat := 0x7FFFFFFFFFFFFFFF

/-- The largest number of 64 bits. -/
def max64 : Nat := 0xFFFFFFFFFFFFFFFF

/-! ### Reading and writing -/

/-- The value of a digit in a base of at most sixteen. -/
def digitValue? (radix : Nat) (c : Char) : Option Nat :=
  let value :=
    if c.isDigit then some (c.toNat - 0x30)
    else if 'a' ≤ c ∧ c ≤ 'f' then some (c.toNat - 0x57)
    else if 'A' ≤ c ∧ c ≤ 'F' then some (c.toNat - 0x37)
    else none
  value.filter (· < radix)

/-- The value of a non-empty run of decimal digits. -/
def digits? (cs : List Char) : Option Nat :=
  if cs ≠ [] ∧ cs.all Char.isDigit then some (Nat.ofDigitChars 10 cs 0) else none

/-- A numeral with an optional plus sign and a value of at most `bound`. -/
def natural? (bound : Nat) (cs : List Char) : Option Nat :=
  let run := match cs with
    | '+' :: rest => rest
    | _ => cs
  (digits? run).bind fun n => if n ≤ bound then some n else none

/-- A numeral with an optional sign and a value between `lo` and `hi`. -/
def integer? (lo hi : Int) (cs : List Char) : Option Int :=
  let value := match cs with
    | '+' :: rest => (digits? rest).map Int.ofNat
    | '-' :: rest => (digits? rest).map fun n => -Int.ofNat n
    | _ => (digits? cs).map Int.ofNat
  value.bind fun n => if lo ≤ n ∧ n ≤ hi then some n else none

/-- The text after a sign at the front, if there is one. -/
def afterSign : List Char → List Char
  | '+' :: rest | '-' :: rest => rest
  | cs => cs

/-- Whether a text is an exponent or empty. -/
def isExponent : List Char → Bool
  | [] => true
  | c :: rest => (c = 'e' || c = 'E') && (digits? (afterSign rest)).isSome

/-- Whether a text is a number with an optional sign, fraction and exponent,
    where a digit may be missing on one side of the point, or a word for
    infinity or for no number. -/
def isReal (cs : List Char) : Bool :=
  let cs := afterSign cs
  let whole := cs.takeWhile Char.isDigit
  ["inf", "infinity", "nan"].contains (String.ofList (cs.map Char.toLower))
    || match cs.drop whole.length with
      | '.' :: rest =>
        let places := rest.takeWhile Char.isDigit
        !(whole.isEmpty && places.isEmpty) && isExponent (rest.drop places.length)
      | rest => !whole.isEmpty && isExponent rest

/-- The digits of a number, without leading zeros. -/
def decimal (n : Nat) : List Char := Nat.toDigits 10 n

theorem digits?_decimal (n : Nat) : digits? (decimal n) = some n := by
  have hd : (decimal n).all Char.isDigit = true := by
    rw [List.all_eq_true]
    intro c hc
    exact Nat.isDigit_of_mem_toDigits (by decide) (by decide) hc
  have hne : decimal n ≠ [] := Nat.toDigits_ne_nil
  rw [digits?, if_pos ⟨hne, hd⟩, decimal, Nat.ofDigitChars_ten_toDigits]

theorem isDigit_of_mem_decimal {n : Nat} {c : Char} (h : c ∈ decimal n) : c.isDigit = true :=
  Nat.isDigit_of_mem_toDigits (by decide) (by decide) h

/-- A character that is no digit does not stand in a number. -/
theorem not_mem_decimal {c : Char} (h : c.isDigit = false) (n : Nat) : c ∉ decimal n := by
  intro hc
  rw [isDigit_of_mem_decimal hc] at h
  cases h

/-- Without a sign all of the text is the run of digits. -/
theorem natural?_of_ne_sign {bound : Nat} {cs : List Char} (h : ∀ rest, cs ≠ '+' :: rest) :
    natural? bound cs = (digits? cs).bind fun n => if n ≤ bound then some n else none := by
  unfold natural?
  split
  · next rest => exact absurd rfl (h rest)
  · rfl

/-- A number that is written without leading zeros is read back. -/
theorem natural?_decimal {bound n : Nat} (h : n ≤ bound) : natural? bound (decimal n) = some n := by
  have hsign : ∀ rest, decimal n ≠ '+' :: rest := by
    intro rest heq
    have hmem : '+' ∈ decimal n := by simp [heq]
    exact not_mem_decimal rfl n hmem
  rw [natural?_of_ne_sign hsign, digits?_decimal, Option.bind_some, if_pos h]

/-- What a numeral of `n` is: decimal digits of that value, any number of them
    zeros in front, and a plus sign before them if one likes. -/
def Numeral (n : Nat) (cs : List Char) : Prop :=
  ∃ run : List Char, (cs = run ∨ cs = '+' :: run) ∧ run ≠ [] ∧
    (∀ c ∈ run, c.isDigit = true) ∧ Nat.ofDigitChars 10 run 0 = n

theorem digits?_eq_some_iff {cs : List Char} {n : Nat} :
    digits? cs = some n ↔
      cs ≠ [] ∧ (∀ c ∈ cs, c.isDigit = true) ∧ Nat.ofDigitChars 10 cs 0 = n := by
  have hall : cs.all Char.isDigit = true ↔ ∀ c ∈ cs, c.isDigit = true := List.all_eq_true
  unfold digits?
  rw [← hall]
  split
  · next h => simp [h.1, h.2]
  · next h =>
    constructor
    · intro hnone
      cases hnone
    · intro hrun
      exact absurd ⟨hrun.1, hrun.2.1⟩ h

/-- **Numerals within the bound are what is read.** -/
theorem natural?_eq_some_iff {bound n : Nat} {cs : List Char} :
    natural? bound cs = some n ↔ Numeral n cs ∧ n ≤ bound := by
  have hrun : ∀ run : List Char,
      ((digits? run).bind fun m => if m ≤ bound then some m else none) = some n ↔
        digits? run = some n ∧ n ≤ bound := by
    intro run
    rw [Option.bind_eq_some_iff]
    constructor
    · rintro ⟨m, hm, hle⟩
      split at hle
      · next h => cases hle; exact ⟨hm, h⟩
      · cases hle
    · rintro ⟨hn, hle⟩
      exact ⟨n, hn, if_pos hle⟩
  constructor
  · intro h
    unfold natural? at h
    split at h
    · next rest =>
      obtain ⟨hdigits, hle⟩ := (hrun rest).mp h
      exact ⟨⟨rest, .inr rfl, digits?_eq_some_iff.mp hdigits⟩, hle⟩
    · obtain ⟨hdigits, hle⟩ := (hrun cs).mp h
      exact ⟨⟨cs, .inl rfl, digits?_eq_some_iff.mp hdigits⟩, hle⟩
  · rintro ⟨⟨run, hcs, hdigits⟩, hle⟩
    have hread := (hrun run).mpr ⟨digits?_eq_some_iff.mpr hdigits, hle⟩
    rcases hcs with rfl | rfl
    · -- a digit in front is no sign
      have hsign : ∀ rest, cs ≠ '+' :: rest := by
        rintro rest rfl
        exact absurd (hdigits.2.1 '+' List.mem_cons_self) (by decide)
      rw [natural?_of_ne_sign hsign, hread]
    · exact hread

/-- In a numeral stand digits and at most a plus sign. -/
theorem Numeral.not_mem {n : Nat} {cs : List Char} {c : Char} (h : Numeral n cs)
    (hdigit : c.isDigit = false) (hplus : c ≠ '+') : c ∉ cs := by
  obtain ⟨run, hcs, _, hdigits, _⟩ := h
  have hrun : c ∉ run := by
    intro hc
    rw [hdigits c hc] at hdigit
    cases hdigit
  rcases hcs with rfl | rfl
  · exact hrun
  · simp [hplus, hrun]

/-- A number written without leading zeros is a numeral of it. -/
theorem numeral_decimal (n : Nat) : Numeral n (decimal n) :=
  (natural?_eq_some_iff.mp (natural?_decimal (Nat.le_refl n))).1

/-- A number written with at least `width` digits, zeros first. -/
def padded (width n : Nat) : List Char :=
  List.replicate (width - (decimal n).length) '0' ++ decimal n

end HolidayApi.Text
