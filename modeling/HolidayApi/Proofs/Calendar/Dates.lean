import HolidayApi.Calendar.Date
import HolidayApi.Proofs.Text.Digits

/-! # Dates read back

    A date is written in one way and may be read in many. Whatever year it
    is of, the reader takes the way in which it was written for the same date
    (`parse_text`). The parts are taken one after the other: each of them is a
    run of digits, and what follows, a hyphen or the end, is no digit.
-/

namespace HolidayApi.Calendar.Date

open HolidayApi.Text

/-! ### Parts -/

/-- A run of digits is read as a whole where the width allows for it. -/
theorem number_append {width : Option Nat} {run rest : List Char} (hrun : IsRun run)
    (hrest : EndsRun rest) (hwidth : ∀ w, width = some w → run.length ≤ w)
    (hlong : run.length ≤ 18) :
    number width (run ++ rest) = .ok (Nat.ofDigitChars 10 run 0, rest) := by
  obtain ⟨hne, hdigits⟩ := hrun
  have hsignificant : ¬18 < (run.dropWhile (· = '0')).length := by
    have hle : (run.dropWhile (· = '0')).length ≤ run.length :=
      (List.dropWhile_suffix _).length_le
    omega
  have hempty : (run ++ rest).isEmpty = false := by simp [hne]
  have hrunEmpty : run.isEmpty = false := by simp [hne]
  cases width with
  | none =>
    simp only [number, takeWhile_digits hdigits hrest, hempty, hrunEmpty, hsignificant,
      Bool.false_eq_true, if_false, ofDigitChars_dropZeros, List.drop_left]
  | some w =>
    -- the limit cuts off some of the rest only
    have htake : (run ++ rest).take w = run ++ rest.take (w - run.length) := by
      rw [List.take_append, List.take_of_length_le (hwidth w rfl)]
    simp only [number, htake, takeWhile_digits hdigits (hrest.take _), hempty, hrunEmpty,
      hsignificant, Bool.false_eq_true, if_false, ofDigitChars_dropZeros, List.drop_left]

/-- A number with zeros in front is read with its value. -/
theorem number_padded {limit : Option Nat} {width n k : Nat} {rest : List Char}
    (hrest : EndsRun rest) (hwidth : width ≤ k) (hn : n < 10 ^ k) (hk : 0 < k ∧ k ≤ 18)
    (hlimit : ∀ w, limit = some w → k ≤ w) :
    number limit (padded width n ++ rest) = .ok (n, rest) := by
  have hlength : (padded width n).length ≤ k := length_padded_le hk.1 hwidth hn
  have hfits : ∀ w, limit = some w → (padded width n).length ≤ w :=
    fun w hw => Nat.le_trans hlength (hlimit w hw)
  rw [number_append (isRun_padded width n) hrest hfits (Nat.le_trans hlength hk.2),
    ofDigitChars_padded]

/-- The hyphen after a part is no digit. -/
theorem endsRun_hyphen (rest : List Char) : EndsRun ('-' :: rest) := .cons rfl rest

theorem readYear_minus {cs rest : List Char} {n : Nat} (h : number none cs = .ok (n, rest))
    (hn : n ≤ max31) : readYear ('-' :: cs) = .ok (-(n : Int), rest) := by
  have hrange : -(max31 : Int) - 1 ≤ -(n : Int) ∧ -(n : Int) ≤ max31 := by omega
  unfold readYear
  rw [trimStart_cons rfl]
  simp only [h, bind, Except.bind, pure, Except.pure, hrange, and_self, if_true]

theorem readYear_plus {cs rest : List Char} {n : Nat} (h : number none cs = .ok (n, rest))
    (hn : n ≤ max31) : readYear ('+' :: cs) = .ok ((n : Int), rest) := by
  have hrange : -(max31 : Int) - 1 ≤ (n : Int) ∧ (n : Int) ≤ max31 := by omega
  unfold readYear
  rw [trimStart_cons rfl]
  simp only [h, bind, Except.bind, pure, Except.pure, hrange, and_self, if_true]

theorem readYear_run {run rest rest' : List Char} {n : Nat} (hrun : IsRun run)
    (h : number (some 4) (run ++ rest) = .ok (n, rest')) (hn : n ≤ max31) :
    readYear (run ++ rest) = .ok ((n : Int), rest') := by
  have hrange : -(max31 : Int) - 1 ≤ (n : Int) ∧ (n : Int) ≤ max31 := by omega
  -- a digit stands in front, so no sign is read
  have hsign : ∀ sign, sign.isDigit = false → ∀ cs, run ++ rest ≠ sign :: cs := by
    intro sign hdigit cs heq
    obtain ⟨c, run, rfl, hfirst⟩ := hrun.exists_first
    cases heq
    rw [hfirst] at hdigit
    cases hdigit
  unfold readYear
  rw [trimStart_run hrun]
  split
  · next heq => exact absurd heq (hsign '-' rfl _)
  · next heq => exact absurd heq (hsign '+' rfl _)
  · simp only [h, bind, Except.bind, pure, Except.pure, hrange, and_self, if_true]

/-- **A year is read as it was written**: behind a sign it may have as many
    digits as it needs, and without one it has four. -/
theorem readYear_yearDigits {year : Int} (h : minYear ≤ year ∧ year ≤ maxYear)
    {rest : List Char} (hrest : EndsRun rest) :
    readYear (yearDigits year ++ rest) = .ok (year, rest) := by
  obtain ⟨hmin, hmax⟩ := h
  simp only [minYear, maxYear] at hmin hmax
  have hbound : year.natAbs ≤ max31 := by
    simp only [max31]
    omega
  have hsmall : year.natAbs < 10 ^ 6 := by omega
  have hsigned : number none (padded 4 year.natAbs ++ rest) = .ok (year.natAbs, rest) :=
    number_padded hrest (by decide) hsmall (by decide) (by simp)
  -- a year before year zero, one with more than four digits, and all others
  unfold yearDigits
  split
  · next hnegative =>
    have hvalue : -(year.natAbs : Int) = year := by omega
    rw [List.cons_append, readYear_minus hsigned hbound, hvalue]
  split
  · next hlarge =>
    have hvalue : (year.natAbs : Int) = year := by omega
    rw [List.cons_append, readYear_plus hsigned hbound, hvalue]
  · have hvalue : (year.natAbs : Int) = year := by omega
    have hfour : number (some 4) (padded 4 year.natAbs ++ rest) = .ok (year.natAbs, rest) :=
      number_padded hrest (Nat.le_refl 4) (by omega) (by decide) (by simp)
    rw [readYear_run (isRun_padded 4 _) hfour hbound, hvalue]

/-- A month or a day is read as it was written. -/
theorem readPart_padded {last n : Nat} (h : 1 ≤ n ∧ n ≤ last) (hlast : last < 100)
    {rest : List Char} (hrest : EndsRun rest) :
    readPart last (padded 2 n ++ rest) = .ok (n, rest) := by
  have hnumber : number (some 2) (padded 2 n ++ rest) = .ok (n, rest) :=
    number_padded hrest (Nat.le_refl 2) (by omega) (by decide) (by simp)
  unfold readPart
  rw [trimStart_run (isRun_padded 2 n)]
  simp only [hnumber, bind, Except.bind, h]
  rfl

theorem readHyphen_cons (rest : List Char) : readHyphen ('-' :: rest) = .ok rest := rfl

theorem daysIn_le (year : Int) (month : Nat) : daysIn year month ≤ 31 := by
  unfold daysIn
  repeat' split
  all_goals decide

/-! ### The result -/

/-- **A date is read back from its text.** -/
theorem parse_text (d : Date) : Date.parse d.text = .ok d := by
  have hday : 1 ≤ d.day ∧ d.day ≤ 31 :=
    ⟨d.day_mem.1, Nat.le_trans d.day_mem.2 (daysIn_le d.year d.month)⟩
  have hyear := readYear_yearDigits d.year_mem
    (endsRun_hyphen (padded 2 d.month ++ '-' :: padded 2 d.day))
  have hmonth := readPart_padded d.month_mem (by decide) (endsRun_hyphen (padded 2 d.day))
  have hlast := readPart_padded hday (by decide) EndsRun.nil
  rw [List.append_nil] at hlast
  unfold Date.parse text chars
  rw [String.toList_ofList, List.append_assoc, List.cons_append]
  simp only [hyear, readHyphen_cons, hmonth, hlast, bind, Except.bind, of?_self]
  rfl

/-- Two dates with one text are one date. -/
theorem text_injective : Function.Injective Date.text := by
  intro d e h
  have hd := parse_text d
  rw [h, parse_text e] at hd
  cases hd
  rfl

end HolidayApi.Calendar.Date
