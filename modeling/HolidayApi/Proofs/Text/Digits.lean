import HolidayApi.Text.Blank
import HolidayApi.Text.Numeral
import Mathlib.Algebra.Group.Nat.Defs

/-! # Runs of digits

    What numbers look like to a reader that goes from character to character: a
    run of digits ends where something else begins (`takeWhile_digits`), zeros
    in front say nothing (`ofDigitChars_dropZeros`), and a number that is
    written without any has none (`head?_decimal`).
-/

namespace HolidayApi.Text

/-- The characters are a run of digits. -/
structure IsRun (cs : List Char) : Prop where
  ne_nil : cs ≠ []
  digits : ∀ c ∈ cs, c.isDigit = true

theorem IsRun.exists_first {run : List Char} (h : IsRun run) :
    ∃ c cs, run = c :: cs ∧ c.isDigit = true := by
  obtain ⟨hne, hdigits⟩ := h
  cases run with
  | nil => exact absurd rfl hne
  | cons c cs => exact ⟨c, cs, rfl, hdigits c List.mem_cons_self⟩

/-- Nothing follows that would make a run of digits longer. -/
def EndsRun (rest : List Char) : Prop := ∀ c, rest.head? = some c → c.isDigit = false

theorem EndsRun.nil : EndsRun [] := by
  intro c hc
  cases hc

theorem EndsRun.cons {c : Char} (h : c.isDigit = false) (rest : List Char) :
    EndsRun (c :: rest) := by
  intro d hd
  cases hd
  exact h

theorem EndsRun.take {rest : List Char} (h : EndsRun rest) (n : Nat) : EndsRun (rest.take n) := by
  intro c hc
  rw [List.head?_take] at hc
  split at hc
  · cases hc
  · exact h c hc

theorem takeWhile_digits {run rest : List Char} (hrun : ∀ c ∈ run, c.isDigit = true)
    (hrest : EndsRun rest) : (run ++ rest).takeWhile Char.isDigit = run := by
  have hnone : rest.takeWhile Char.isDigit = [] := by
    cases rest with
    | nil => rfl
    | cons c rest =>
      have hc : ¬c.isDigit = true := by simp [hrest c rfl]
      exact List.takeWhile_cons_of_neg hc
  rw [List.takeWhile_append_of_pos hrun, hnone, List.append_nil]

/-! ### Zeros in front -/

theorem ofDigitChars_dropZeros (cs : List Char) :
    Nat.ofDigitChars 10 (cs.dropWhile (· = '0')) 0 = Nat.ofDigitChars 10 cs 0 := by
  induction cs with
  | nil => rfl
  | cons c cs ih =>
    by_cases hc : c = '0'
    · subst hc
      rw [List.dropWhile_cons_of_pos (by decide), ih, Nat.ofDigitChars_cons]
      rfl
    · rw [List.dropWhile_cons_of_neg (by simpa using hc)]

theorem isRun_decimal (n : Nat) : IsRun (decimal n) :=
  ⟨Nat.toDigits_ne_nil, fun _ hc => isDigit_of_mem_decimal hc⟩

theorem length_decimal_le {n k : Nat} (hk : 0 < k) (h : n < 10 ^ k) : (decimal n).length ≤ k :=
  (Nat.length_toDigits_le_iff (by decide) hk).mpr h

theorem ofDigitChars_decimal (n : Nat) : Nat.ofDigitChars 10 (decimal n) 0 = n :=
  Nat.ofDigitChars_ten_toDigits

/-- Only zero is written with a zero in front. -/
theorem head?_decimal {n : Nat} (h : 0 < n) : (decimal n).head? ≠ some '0' := by
  unfold decimal
  induction n using Nat.base_induction 10 (by decide) with
  | single m hm =>
    have hdigit : ∀ m < 10, 0 < m → Nat.digitChar m ≠ '0' := by decide
    rw [Nat.toDigits_of_lt_base hm]
    intro hzero
    exact hdigit m hm h (Option.some.inj hzero)
  | digit m k hk hm ih =>
    -- the first digit is that of the number without its last digit
    have hfront := ih hm
    rw [← Nat.toDigits_append_toDigits (by decide) hm hk]
    cases hdigits : Nat.toDigits 10 m with
    | nil => exact absurd hdigits Nat.toDigits_ne_nil
    | cons c cs =>
      rw [hdigits] at hfront
      exact hfront

/-! ### Numbers of a least width -/

theorem isRun_padded (width n : Nat) : IsRun (padded width n) := by
  obtain ⟨hne, hdigits⟩ := isRun_decimal n
  refine ⟨List.append_ne_nil_of_right_ne_nil _ hne, ?_⟩
  intro c hc
  rcases List.mem_append.mp hc with hzero | hdigit
  · rw [(List.mem_replicate.mp hzero).2]
    rfl
  · exact hdigits c hdigit

theorem ofDigitChars_padded (width n : Nat) : Nat.ofDigitChars 10 (padded width n) 0 = n := by
  unfold padded
  rw [Nat.ofDigitChars_append, Nat.ofDigitChars_replicate_zero, Nat.mul_zero, ofDigitChars_decimal]

theorem length_padded_le {width n k : Nat} (hk : 0 < k) (hwidth : width ≤ k) (h : n < 10 ^ k) :
    (padded width n).length ≤ k := by
  have hdecimal := length_decimal_le hk h
  unfold padded
  rw [List.length_append, List.length_replicate]
  omega

/-! ### Blanks in front -/

theorem isBlank_of_isDigit {c : Char} (h : c.isDigit = true) : isBlank c = false := by
  have hrange : 48 ≤ c.toNat ∧ c.toNat ≤ 57 := by
    simpa [Char.isDigit_iff_toNat] using h
  simp [isBlank, blankRanges]
  omega

theorem trimStart_cons {c : Char} (h : isBlank c = false) (cs : List Char) :
    trimStart (c :: cs) = c :: cs := List.dropWhile_cons_of_neg (by simp [h])

theorem trimStart_run {run : List Char} (h : IsRun run) (rest : List Char) :
    trimStart (run ++ rest) = run ++ rest := by
  obtain ⟨c, cs, rfl, hdigit⟩ := h.exists_first
  exact trimStart_cons (isBlank_of_isDigit hdigit) _

end HolidayApi.Text
