import HolidayApi.Data.JsonText
import Mathlib.Data.List.Basic

/-! # Blanks in front of a document

    A JSON text says the same with blanks in front of it (`decode_append`). The
    reader is given more fuel for the longer text, but what comes to an end
    does so with any fuel that suffices (`advance_more`).
-/

namespace HolidayApi.Data.JsonText

/-! ### Blanks in front of a document -/

theorem isWhole_unfinished {inner : Datum} (h : inner.isWhole = false) (stack : List Frame) :
    (unfinished inner stack).isWhole = false := by
  induction stack generalizing inner with
  | nil => exact h
  | cons frame outer ih =>
    cases frame with
    | items read => exact ih rfl
    | entries read key => exact ih rfl

/-- More fuel changes nothing about a value that comes to an end. -/
theorem advance_more {fuel : Nat} {mode : Mode} {stack : List Frame} {input rest : Input}
    {datum : Datum} (h : advance fuel mode stack input = (datum, rest))
    (hwhole : datum.isWhole = true) (more : Nat) :
    advance (fuel + more) mode stack input = (datum, rest) := by
  -- where the reader stops early, what it has is unfinished
  have hstop : ∀ {inner : Datum} {stack : List Frame} {left : Input}, inner.isWhole = false →
      (unfinished inner stack, left) ≠ (datum, rest) := by
    intro inner stack left hinner heq
    rw [← (Prod.mk.inj heq).1, isWhole_unfinished hinner] at hwhole
    cases hwhole
  fun_induction advance fuel mode stack input with
  | case1 | case5 | case9 | case10 | case12 | case13 | case17 | case20 =>
    exact absurd h (hstop rfl)
  | case14 n =>
    -- the outermost value is complete, so there are no more moves
    rw [Nat.succ_add]
    exact h
  | case2 | case3 | case4 | case6 | case7 | case8 | case11 | case15 | case16 | case18 | case19 =>
    -- the same move is made, and the rest has more fuel
    rw [Nat.succ_add]
    unfold advance
    simp_all

theorem skipBlanks_append {blanks : Input} (h : ∀ unit ∈ blanks, isBlank unit = true)
    (input : Input) : skipBlanks (blanks ++ input) = skipBlanks input :=
  List.dropWhile_append_of_pos h

/-- Blanks in front of a value that comes to an end do not change what is
    read. -/
theorem read_append {blanks input : Input} (h : ∀ unit ∈ blanks, isBlank unit = true)
    (hwhole : (read input).1.isWhole = true) : read (blanks ++ input) = read input := by
  have hlonger : 2 * (blanks ++ input).length + 3 =
      (2 * input.length + 2 + 2 * blanks.length) + 1 := by
    rw [List.length_append]
    omega
  have hfuel : (2 * input.length + 2 + 2 * blanks.length) + 1 =
      (2 * input.length + 3) + 2 * blanks.length := by omega
  calc read (blanks ++ input)
      = advance ((2 * input.length + 2 + 2 * blanks.length) + 1) .value [] (blanks ++ input) := by
        unfold read
        rw [hlonger]
    _ = advance ((2 * input.length + 2 + 2 * blanks.length) + 1) .value [] input := by
        -- the first move skips the blanks
        unfold advance
        rw [skipBlanks_append h]
    _ = read input := by
        rw [hfuel]
        exact advance_more rfl hwhole _

theorem decode_append {α : Type} (decoder : Decoder α) {blanks input : Input}
    (h : ∀ unit ∈ blanks, isBlank unit = true) (hwhole : (read input).1.isWhole = true) :
    decode decoder (blanks ++ input) = decode decoder input := by
  unfold decode
  rw [read_append h hwhole]

end HolidayApi.Data.JsonText
