import HolidayApi.Data.JsonText
import HolidayApi.Proofs.Text.Digits

/-! # Strings and numbers in JSON texts

    How the reader takes what was written for a single value, whatever comes
    after it. A string ends at its closing quote, which no character of it
    spells (`string?_quoted`); an integer ends where something stands that
    no number goes on with (`number?_integer`).
-/

namespace HolidayApi.Data.JsonText

open HolidayApi.Text

/-! ### Strings -/

/-- The piece that a character is read as after it was written: control
    characters without a letter of their own are written by their number. -/
def pieceOf (c : Char) : Piece :=
  if c.toNat < 0x20 ∧ c ∉ ['\x08', '\t', '\n', '\x0c', '\r'] then .unit c.toNat else .char c

theorem hexUnit?_controlEscape : ∀ n < 0x20,
    Json.controlEscape (.ofNat n) =
        ['\\', 'u', '0', '0', Nat.digitChar (n / 16), Nat.digitChar (n % 16)] ∧
      hexUnit? '0' '0' (Nat.digitChar (n / 16)) (Nat.digitChar (n % 16)) = some n := by
  decide

theorem pieces_controlEscape {c : Char} (h : c.toNat < 0x20) (read : List Piece) (rest : Input) :
    pieces read ((Json.controlEscape c).map some ++ rest) =
      pieces (.unit c.toNat :: read) rest := by
  obtain ⟨hescape, hunit⟩ := hexUnit?_controlEscape c.toNat h
  rw [Char.ofNat_toNat] at hescape
  rw [hescape]
  simp only [List.map_cons, List.map_nil, List.cons_append, List.nil_append, pieces, hunit]

/-- A character that was written is one piece. -/
theorem pieces_escapeChar (c : Char) (read : List Piece) (rest : Input) :
    pieces read ((Json.escapeChar c).map some ++ rest) = pieces (pieceOf c :: read) rest := by
  by_cases hletter : c ∈ ['"', '\\', '\x08', '\t', '\n', '\x0c', '\r']
  · -- these have a letter of their own
    simp only [List.mem_cons, List.not_mem_nil, or_false] at hletter
    rcases hletter with rfl | rfl | rfl | rfl | rfl | rfl | rfl <;> rfl
  simp only [List.mem_cons, List.not_mem_nil, or_false, not_or] at hletter
  by_cases hcontrol : c.toNat < 0x20
  · have hpiece : pieceOf c = .unit c.toNat := by simp [pieceOf, hcontrol, hletter]
    have hescape : Json.escapeChar c = Json.controlEscape c := by
      simp [Json.escapeChar, hcontrol, hletter]
    rw [hescape, pieces_controlEscape hcontrol, hpiece]
  · have hpiece : pieceOf c = .char c := by simp [pieceOf, hcontrol]
    have hescape : Json.escapeChar c = [c] := by simp [Json.escapeChar, hcontrol, hletter]
    obtain ⟨hquote, hbackslash, _⟩ := hletter
    rw [hescape, hpiece]
    simp [pieces, hbackslash, hcontrol]

theorem pieces_quoted (cs : List Char) (read : List Piece) (rest : Input) :
    pieces read ((cs.flatMap Json.escapeChar).map some ++ some '"' :: rest) =
      some (read.reverse ++ cs.map pieceOf, rest) := by
  induction cs generalizing read with
  | nil => simp [pieces]
  | cons c cs ih =>
    rw [List.flatMap_cons, List.map_append, List.append_assoc, pieces_escapeChar, ih]
    simp

/-- Each piece forms its character: none of them is half of a pair. -/
theorem assemble_pieceOf (c : Char) (formed : List Char) (rest : List Piece) :
    assemble formed (pieceOf c :: rest) = assemble (c :: formed) rest := by
  unfold pieceOf
  split
  · next h =>
    have hhigh : ¬0xD800 ≤ c.toNat := by omega
    have hlow : ¬0xDC00 ≤ c.toNat := by omega
    cases rest with
    | nil => simp [assemble, hhigh]
    | cons next rest =>
      cases next <;> simp [assemble, hhigh, hlow]
  · rfl

theorem assemble_map_pieceOf (cs formed : List Char) :
    assemble formed (cs.map pieceOf) = some (String.ofList (formed.reverse ++ cs)) := by
  induction cs generalizing formed with
  | nil => simp [assemble]
  | cons c cs ih =>
    rw [List.map_cons, assemble_pieceOf, ih, List.reverse_cons, List.append_assoc]
    rfl

/-- **A string is read as it was written.** -/
theorem string?_quoted (s : String) (rest : Input) :
    string? ((s.toList.flatMap Json.escapeChar).map some ++ some '"' :: rest) =
      some (some s, rest) := by
  have hassemble : assemble [] (s.toList.map pieceOf) = some s := by
    rw [assemble_map_pieceOf, List.reverse_nil, List.nil_append, String.ofList_toList]
  unfold string?
  rw [pieces_quoted, List.reverse_nil, List.nil_append, Option.map_some]
  show some (assemble [] (s.toList.map pieceOf), rest) = some (some s, rest)
  rw [hassemble]

/-! ### Numbers -/

/-- What a number does not go on with. -/
def goesOn (c : Char) : Bool := c.isDigit || ['.', 'e', 'E'].contains c

/-- A number ends before the input. -/
def EndsNumber (rest : Input) : Prop := ∀ c, rest.head? = some (some c) → goesOn c = false

theorem EndsNumber.nil : EndsNumber [] := by
  intro c hc
  cases hc

theorem EndsNumber.cons {c : Char} (h : goesOn c = false) (rest : Input) :
    EndsNumber (some c :: rest) := by
  intro d hd
  cases hd
  exact h

theorem digits_append {run : List Char} (hrun : ∀ c ∈ run, c.isDigit = true) {rest : Input}
    (hrest : EndsNumber rest) : digits (run.map some ++ rest) = run := by
  have hdigits : ∀ unit ∈ run.map some, (unit.any Char.isDigit) = true := by
    intro unit hunit
    obtain ⟨c, hc, rfl⟩ := List.mem_map.mp hunit
    exact hrun c hc
  have hnone : rest.takeWhile (fun unit => unit.any Char.isDigit) = [] := by
    cases rest with
    | nil => rfl
    | cons unit rest =>
      refine List.takeWhile_cons_of_neg ?_
      cases unit with
      | none => simp
      | some c =>
        have hgoesOn := hrest c rfl
        simp only [goesOn, Bool.or_eq_false_iff] at hgoesOn
        simp [hgoesOn.1]
  unfold digits
  rw [List.takeWhile_append_of_pos hdigits, hnone, List.append_nil]
  simp

/-- Digits are appended as long as the number has room for them. -/
theorem appendDigits_eq {cs : List Char} {significand : Nat}
    (h : Nat.ofDigitChars 10 cs significand ≤ max64) :
    appendDigits significand cs = (Nat.ofDigitChars 10 cs significand, []) := by
  induction cs generalizing significand with
  | nil => rfl
  | cons c cs ih =>
    have hnext : significand * 10 + (c.toNat - 0x30) = 10 * significand + (c.toNat - '0'.toNat) := by
      rw [Nat.mul_comm]
      rfl
    rw [Nat.ofDigitChars_cons] at h ⊢
    have hroom : 10 * significand + (c.toNat - '0'.toNat) ≤ max64 := by
      -- further digits do not make a number smaller
      refine Nat.le_trans ?_ h
      rw [Nat.ofDigitChars_eq_ofDigitChars_zero]
      exact Nat.le_trans (Nat.le_mul_of_pos_left _ (Nat.pow_pos (by decide))) (Nat.le_add_right _ _)
    simp only [appendDigits, hnext, hroom, if_true]
    exact ih h

theorem fraction?_of_endsNumber {rest : Input} (h : EndsNumber rest) :
    fraction? rest = some ([], rest) := by
  unfold fraction?
  split
  · exact absurd (h '.' rfl) (by decide)
  · rfl

theorem exponent?_of_endsNumber {rest : Input} (h : EndsNumber rest) :
    exponent? rest = some (none, rest) := by
  unfold exponent?
  split
  · next c rest =>
    have hc := h c rfl
    split
    · next he => rcases he with rfl | rfl <;> exact absurd hc (by decide)
    · rfl
  · rfl

/-- No zero stands before other digits of a number. -/
theorem no_zero_first (n : Nat) :
    ((decimal n).isEmpty || ((decimal n).head? == some '0' && 1 < (decimal n).length)) = false := by
  have hne : (decimal n).isEmpty = false := by simp [(isRun_decimal n).ne_nil]
  cases Nat.eq_zero_or_pos n with
  | inl hzero =>
    subst hzero
    rfl
  | inr hpos => simp [hne, head?_decimal hpos]

/-- The sign at the front, if there is one, and the input after it. -/
def sign (input : Input) : Bool × Input :=
  match input with
  | some '-' :: rest => (true, rest)
  | input => (false, input)

theorem number?_of_sign {n : Nat} (hn : n ≤ max64) {negative : Bool} {input rest : Input}
    (hsign : sign input = (negative, (decimal n).map some ++ rest)) (hrest : EndsNumber rest) :
    number? input = some (integral negative n, rest) := by
  have hdigits := digits_append (fun c hc => isDigit_of_mem_decimal (n := n) hc) hrest
  have hdrop : ((decimal n).map some ++ rest).drop (decimal n).length = rest := by simp
  have hvalue : appendDigits 0 (decimal n) = (n, []) := by
    have h := ofDigitChars_decimal n
    rw [appendDigits_eq (by rw [h]; exact hn), h]
  unfold number?
  split
  next heq =>
  cases hsign.symm.trans heq
  simp only [hdigits, no_zero_first, hdrop, fraction?_of_endsNumber hrest, hvalue,
    exponent?_of_endsNumber hrest, Option.bind_eq_bind, Option.bind_some, Bool.false_eq_true,
    if_false]
  rfl

/-- The numbers that have a type of integers. -/
def IsInteger (n : Int) : Prop := -(max63 + 1 : Int) ≤ n ∧ n ≤ max64

theorem integral_false (n : Nat) : integral false n = .integer n := rfl

theorem integral_true {n : Nat} (h : 0 < n ∧ n ≤ max63 + 1) : integral true n = .integer (-n) := by
  have hrange : ¬(n = 0 ∨ max63 + 1 < n) := by omega
  simp only [integral, hrange, Bool.not_true, Bool.false_eq_true, if_false]

/-- **An integer is read as it was written.** -/
theorem number?_integer {n : Int} (hn : IsInteger n) {rest : Input} (hrest : EndsNumber rest) :
    number? ((Json.integer n).map some ++ rest) = some (.integer n, rest) := by
  obtain ⟨hmin, hmax⟩ := hn
  simp only [max63, max64] at hmin hmax
  have hbound : n.natAbs ≤ max64 := by
    simp only [max64]
    omega
  unfold Json.integer
  split
  · next hnegative =>
    have hvalue : -(n.natAbs : Int) = n := by omega
    have habs : 0 < n.natAbs ∧ n.natAbs ≤ max63 + 1 := by
      simp only [max63]
      omega
    rw [number?_of_sign hbound rfl hrest, integral_true habs, hvalue]
  · have hvalue : (n.natAbs : Int) = n := by omega
    have hsign : sign ((decimal n.natAbs).map some ++ rest) =
        (false, (decimal n.natAbs).map some ++ rest) := by
      -- a digit stands in front
      obtain ⟨c, run, hrun, hfirst⟩ := (isRun_decimal n.natAbs).exists_first
      rw [hrun]
      unfold sign
      split
      · next heq =>
        cases heq
        exact absurd hfirst (by decide)
      · rfl
    rw [number?_of_sign hbound hsign hrest, integral_false, hvalue]

end HolidayApi.Data.JsonText
