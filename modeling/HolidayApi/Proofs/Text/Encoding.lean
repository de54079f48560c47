import HolidayApi.Text.Utf8

/-! # Texts survive their bytes

    The bytes of a text are read back as its characters (`units_encode`). A
    character takes one to four bytes; how many there are shows in the first
    one. The bounds on the second byte leave out what no character is written
    as: forms that are longer than they need to be, surrogates, and values
    beyond the last character.

    Bytes below 128 are one character each (`units_ascii`).
-/

namespace HolidayApi.Text.Utf8

/-! ### One character -/

variable {b b1 b2 b3 : UInt8} {v : Nat}

/-! The values of bytes decide which range a byte is in. -/

theorem inside {lo hi : UInt8} (hlo : lo.toNat ≤ b.toNat) (hhi : b.toNat ≤ hi.toNat) :
    lo ≤ b ∧ b ≤ hi :=
  ⟨UInt8.le_iff_toNat_le.mpr hlo, UInt8.le_iff_toNat_le.mpr hhi⟩

theorem beyond {lo hi : UInt8} (h : hi.toNat < b.toNat) : ¬(lo ≤ b ∧ b ≤ hi) := by
  rintro ⟨-, hle⟩
  exact Nat.not_le.mpr h (UInt8.le_iff_toNat_le.mp hle)

theorem not_ascii (h : 0x80 ≤ b.toNat) : ¬b < 0x80 := by
  intro hlt
  exact Nat.not_le.mpr (UInt8.lt_iff_toNat_lt.mp hlt) h

/-- A byte after the first one gives six bits if it is within its bounds. -/
theorem continuation?_eq_some {lo hi : UInt8} (hlo : lo.toNat ≤ b.toNat)
    (hhi : b.toNat ≤ hi.toNat) : continuation? lo hi b = some (b.toNat % 64) := by
  unfold continuation?
  rw [if_pos (inside hlo hhi)]

/-- The plain bounds hold of all that six bits are put into. -/
theorem continuation?_plain (h : b.toNat = v % 64 + 0x80) :
    continuation? 0x80 0xBF b = some (v % 64) := by
  have hlo : (0x80 : UInt8).toNat ≤ b.toNat := by
    show 0x80 ≤ b.toNat
    omega
  have hhi : b.toNat ≤ (0xBF : UInt8).toNat := by
    show b.toNat ≤ 0xBF
    omega
  have hbits : b.toNat % 64 = v % 64 := by omega
  rw [continuation?_eq_some hlo hhi, hbits]

theorem charAt?_ascii {b : UInt8} (h : b < 0x80) (rest : List UInt8) :
    charAt? (b :: rest) = some (Char.ofNat b.toNat, rest) := by
  unfold charAt?
  exact if_pos h

theorem charAt?_two (hb : b.toNat = v / 64 + 0xC0) (hb1 : b1.toNat = v % 64 + 0x80)
    (hlo : 0x7F < v) (hhi : v ≤ 0x7FF) (rest : List UInt8) :
    charAt? (b :: b1 :: rest) = some (Char.ofNat v, rest) := by
  have hone : ¬b < 0x80 := not_ascii (by omega)
  have htwo : 0xC2 ≤ b ∧ b ≤ 0xDF := by
    rw [UInt8.le_iff_toNat_le, UInt8.le_iff_toNat_le]
    show 0xC2 ≤ b.toNat ∧ b.toNat ≤ 0xDF
    omega
  have hvalue : b.toNat % 32 * 64 + v % 64 = v := by omega
  unfold charAt?
  dsimp only
  rw [if_neg hone, if_pos htwo, continuation?_plain hb1]
  show some (Char.ofNat (b.toNat % 32 * 64 + v % 64), rest) = _
  rw [hvalue]

theorem charAt?_three (hb : b.toNat = v / 4096 + 0xE0) (hb1 : b1.toNat = v / 64 % 64 + 0x80)
    (hb2 : b2.toNat = v % 64 + 0x80) (hlo : 0x7FF < v) (hhi : v ≤ 0xFFFF)
    (hsurrogate : v < 0xD800 ∨ 0xDFFF < v) (rest : List UInt8) :
    charAt? (b :: b1 :: b2 :: rest) = some (Char.ofNat v, rest) := by
  have hone : ¬b < 0x80 := not_ascii (by omega)
  have htwo : ¬(0xC2 ≤ b ∧ b ≤ 0xDF) := by
    refine beyond ?_
    show 0xDF < b.toNat
    omega
  have hthree : 0xE0 ≤ b ∧ b ≤ 0xEF := by
    rw [UInt8.le_iff_toNat_le, UInt8.le_iff_toNat_le]
    show 0xE0 ≤ b.toNat ∧ b.toNat ≤ 0xEF
    omega
  have hfirst : continuation? (if b = 0xE0 then 0xA0 else 0x80)
      (if b = 0xED then 0x9F else 0xBF) b1 = some (b1.toNat % 64) := by
    refine continuation?_eq_some ?_ ?_
    · -- below `0x800` two bytes would do
      split
      · next heq =>
        have hE0 : b.toNat = 0xE0 := congrArg UInt8.toNat heq
        show 0xA0 ≤ b1.toNat
        omega
      · show 0x80 ≤ b1.toNat
        omega
    · -- the surrogates would stand behind this byte
      split
      · next heq =>
        have hED : b.toNat = 0xED := congrArg UInt8.toNat heq
        show b1.toNat ≤ 0x9F
        omega
      · show b1.toNat ≤ 0xBF
        omega
  have hvalue : (b.toNat % 16 * 64 + b1.toNat % 64) * 64 + v % 64 = v := by omega
  unfold charAt?
  dsimp only
  rw [if_neg hone, if_neg htwo, if_pos hthree, hfirst, continuation?_plain hb2]
  show some (Char.ofNat ((b.toNat % 16 * 64 + b1.toNat % 64) * 64 + v % 64), rest) = _
  rw [hvalue]

theorem charAt?_four (hb : b.toNat = v / 262144 + 0xF0) (hb1 : b1.toNat = v / 4096 % 64 + 0x80)
    (hb2 : b2.toNat = v / 64 % 64 + 0x80) (hb3 : b3.toNat = v % 64 + 0x80) (hlo : 0xFFFF < v)
    (hhi : v < 0x110000) (rest : List UInt8) :
    charAt? (b :: b1 :: b2 :: b3 :: rest) = some (Char.ofNat v, rest) := by
  have hone : ¬b < 0x80 := not_ascii (by omega)
  have htwo : ¬(0xC2 ≤ b ∧ b ≤ 0xDF) := by
    refine beyond ?_
    show 0xDF < b.toNat
    omega
  have hthree : ¬(0xE0 ≤ b ∧ b ≤ 0xEF) := by
    refine beyond ?_
    show 0xEF < b.toNat
    omega
  have hfour : 0xF0 ≤ b ∧ b ≤ 0xF4 := by
    rw [UInt8.le_iff_toNat_le, UInt8.le_iff_toNat_le]
    show 0xF0 ≤ b.toNat ∧ b.toNat ≤ 0xF4
    omega
  have hfirst : continuation? (if b = 0xF0 then 0x90 else 0x80)
      (if b = 0xF4 then 0x8F else 0xBF) b1 = some (b1.toNat % 64) := by
    refine continuation?_eq_some ?_ ?_
    · -- below `0x10000` three bytes would do
      split
      · next heq =>
        have hF0 : b.toNat = 0xF0 := congrArg UInt8.toNat heq
        show 0x90 ≤ b1.toNat
        omega
      · show 0x80 ≤ b1.toNat
        omega
    · -- there is no character from `0x110000` on
      split
      · next heq =>
        have hF4 : b.toNat = 0xF4 := congrArg UInt8.toNat heq
        show b1.toNat ≤ 0x8F
        omega
      · show b1.toNat ≤ 0xBF
        omega
  have hvalue : ((b.toNat % 8 * 64 + b1.toNat % 64) * 64 + v / 64 % 64) * 64 + v % 64 = v := by
    omega
  unfold charAt?
  dsimp only
  rw [if_neg hone, if_neg htwo, if_neg hthree, if_pos hfour, hfirst, continuation?_plain hb2,
    continuation?_plain hb3]
  show some (Char.ofNat (((b.toNat % 8 * 64 + b1.toNat % 64) * 64 + v / 64 % 64) * 64 + v % 64),
    rest) = _
  rw [hvalue]

theorem toNat_ofNat {n : Nat} (h : n < 256) : (UInt8.ofNat n).toNat = n := by
  rw [UInt8.toNat_ofNat']
  exact Nat.mod_eq_of_lt h

/-- **A character is read from its bytes.** -/
theorem charAt?_encode (c : Char) (rest : List UInt8) :
    charAt? (String.utf8EncodeChar c ++ rest) = some (c, rest) := by
  have hvalid : c.val.toNat < 0xD800 ∨ 0xDFFF < c.val.toNat ∧ c.val.toNat < 0x110000 := c.valid
  have hback : Char.ofNat c.val.toNat = c := Char.ofNat_toNat c
  unfold String.utf8EncodeChar
  dsimp only
  generalize c.val.toNat = v at hvalid hback
  subst hback
  split
  · next hone =>
    have hvalue : (UInt8.ofNat v).toNat = v := toNat_ofNat (by omega)
    have hascii : UInt8.ofNat v < 0x80 := by
      rw [UInt8.lt_iff_toNat_lt, hvalue]
      exact Nat.lt_succ_of_le hone
    have hread := charAt?_ascii hascii rest
    rw [hvalue] at hread
    exact hread
  · next hone =>
    split
    · next htwo =>
      refine charAt?_two ?_ (toNat_ofNat (by omega)) (by omega) htwo rest
      rw [toNat_ofNat (by omega)]
      omega
    · next htwo =>
      split
      · next hthree =>
        refine charAt?_three ?_ (toNat_ofNat (by omega)) (toNat_ofNat (by omega)) (by omega)
          hthree (by omega) rest
        rw [toNat_ofNat (by omega)]
        omega
      · next hthree =>
        refine charAt?_four ?_ (toNat_ofNat (by omega)) (toNat_ofNat (by omega))
          (toNat_ofNat (by omega)) (by omega) (by omega) rest
        rw [toNat_ofNat (by omega)]
        omega

/-! ### A whole text -/

theorem toList_loop (bytes : ByteArray) (i : Nat) (read : List UInt8) :
    ByteArray.toList.loop bytes i read = read.reverse ++ bytes.data.toList.drop i := by
  fun_induction ByteArray.toList.loop bytes i read with
  | case1 i read h ih =>
    have hi : i < bytes.data.toList.length := h
    have hbyte : bytes.get! i = bytes.data.toList[i] := by
      show bytes.data[i]! = _
      rw [getElem!_pos bytes.data i h, Array.getElem_toList]
    rw [ih, List.drop_eq_getElem_cons hi, hbyte, List.reverse_cons, List.append_assoc]
    rfl
  | case2 i read h =>
    have hend : bytes.data.toList.length ≤ i := Nat.le_of_not_lt h
    rw [List.drop_eq_nil_of_le hend, List.append_nil]

/-- The bytes of a text are those of its characters one after another. -/
theorem encode_eq_flatMap (text : String) :
    encode text = text.toList.flatMap String.utf8EncodeChar := by
  have hbytes : text.toUTF8 = (text.toList.flatMap String.utf8EncodeChar).toByteArray := by
    obtain ⟨cs, rfl⟩ : ∃ cs, text = String.ofList cs := ⟨text.toList, String.ofList_toList.symm⟩
    rw [String.toUTF8_eq_toByteArray, String.toByteArray_ofList, String.toList_ofList]
    rfl
  unfold encode ByteArray.toList
  rw [toList_loop, hbytes, List.toList_data_toByteArray]
  rfl

/-- The units of bytes that begin with a character. -/
theorem unitsFrom_of_charAt? {bytes rest : List UInt8} {c : Char}
    (h : charAt? bytes = some (c, rest)) (read : List (Option Char)) :
    unitsFrom read bytes = unitsFrom (some c :: read) rest := by
  cases bytes with
  | nil => cases h
  | cons b bytes =>
    rw [unitsFrom]
    split
    · next c' rest' hread =>
      rw [h] at hread
      obtain ⟨rfl, rfl⟩ := Prod.mk.inj (Option.some.inj hread)
      rfl
    · next hread =>
      rw [h] at hread
      cases hread

theorem unitsFrom_ascii {bytes : List UInt8} (h : ∀ b ∈ bytes, b < 0x80)
    (read : List (Option Char)) :
    unitsFrom read bytes = read.reverse ++ bytes.map fun b => some (Char.ofNat b.toNat) := by
  induction bytes generalizing read with
  | nil =>
    rw [unitsFrom]
    simp
  | cons b rest ih =>
    have hrest : ∀ b ∈ rest, b < 0x80 := fun b hb => h b (List.mem_cons_of_mem _ hb)
    rw [unitsFrom_of_charAt? (charAt?_ascii (h b List.mem_cons_self) rest), ih hrest]
    simp

/-- In bytes below 128 every byte is a character. -/
theorem units_ascii {bytes : List UInt8} (h : ∀ b ∈ bytes, b < 0x80) :
    units bytes = bytes.map fun b => some (Char.ofNat b.toNat) := unitsFrom_ascii h []

theorem unitsFrom_encode (cs : List Char) (read : List (Option Char)) :
    unitsFrom read (cs.flatMap String.utf8EncodeChar) = read.reverse ++ cs.map some := by
  induction cs generalizing read with
  | nil =>
    rw [List.flatMap_nil, unitsFrom]
    simp
  | cons c cs ih =>
    rw [List.flatMap_cons, unitsFrom_of_charAt? (charAt?_encode c _), ih]
    simp

/-- **A text is read from its bytes.** -/
theorem units_encode (text : String) : units (encode text) = text.toList.map some := by
  rw [encode_eq_flatMap]
  exact unitsFrom_encode text.toList []

end HolidayApi.Text.Utf8
