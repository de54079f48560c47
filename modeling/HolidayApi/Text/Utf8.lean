/-! # Text in bytes

    UTF-8, read so that no byte is lost: a byte that belongs to no character
    is reported in its place. A document whose readers look at some of its
    parts only can then be refused for the bytes that they look at.

    * `charAt?` reads one character from the front.
    * `units` reads a whole text, `none` standing for a byte that is no text.
    * `decode?` reads a text that has to be text throughout.
    * `cut?` cuts a part out of a text where its place is given in bytes;
      `cut?_append` says that it finds what stands there.
-/

namespace HolidayApi.Text.Utf8

/-! ### One character -/

/-- The low six bits of a continuation byte. -/
def continuation? (lo hi : UInt8) (b : UInt8) : Option Nat :=
  if lo ≤ b ∧ b ≤ hi then some (b.toNat % 64) else none

/-- The character at the front with the bytes after it. Overlong forms,
    surrogates and values above U+10FFFF are refused by the range of the
    second byte. -/
def charAt? : List UInt8 → Option (Char × List UInt8)
  | [] => none
  | b :: bs =>
    if b < 0x80 then some (Char.ofNat b.toNat, bs)
    else if 0xC2 ≤ b ∧ b ≤ 0xDF then
      match bs with
      | b1 :: rest => do
        let x ← continuation? 0x80 0xBF b1
        return (Char.ofNat (b.toNat % 32 * 64 + x), rest)
      | _ => none
    else if 0xE0 ≤ b ∧ b ≤ 0xEF then
      match bs with
      | b1 :: b2 :: rest => do
        let x ← continuation? (if b = 0xE0 then 0xA0 else 0x80)
          (if b = 0xED then 0x9F else 0xBF) b1
        let y ← continuation? 0x80 0xBF b2
        return (Char.ofNat ((b.toNat % 16 * 64 + x) * 64 + y), rest)
      | _ => none
    else if 0xF0 ≤ b ∧ b ≤ 0xF4 then
      match bs with
      | b1 :: b2 :: b3 :: rest => do
        let x ← continuation? (if b = 0xF0 then 0x90 else 0x80)
          (if b = 0xF4 then 0x8F else 0xBF) b1
        let y ← continuation? 0x80 0xBF b2
        let z ← continuation? 0x80 0xBF b3
        return (Char.ofNat (((b.toNat % 8 * 64 + x) * 64 + y) * 64 + z), rest)
      | _ => none
    else none

theorem length_charAt? {bytes rest : List UInt8} {c : Char}
    (h : charAt? bytes = some (c, rest)) : rest.length < bytes.length := by
  unfold charAt? at h
  split at h
  · cases h
  · split at h
    · cases h; simp
    · split at h
      · split at h
        · simp [Option.bind_eq_some_iff] at h
          obtain ⟨_, _, _, rfl⟩ := h
          simp +arith
        · cases h
      · split at h
        · split at h
          · simp [Option.bind_eq_some_iff] at h
            obtain ⟨_, _, _, _, _, rfl⟩ := h
            simp +arith
          · cases h
        · split at h
          · split at h
            · simp [Option.bind_eq_some_iff] at h
              obtain ⟨_, _, _, _, _, _, _, rfl⟩ := h
              simp +arith
            · cases h
          · cases h

/-! ### A whole text -/

/-- The units of the bytes, put before the reversed units already read. -/
def unitsFrom (read : List (Option Char)) : List UInt8 → List (Option Char)
  | [] => read.reverse
  | b :: bs =>
    match _h : charAt? (b :: bs) with
    | some (c, rest) => unitsFrom (some c :: read) rest
    | none => unitsFrom (none :: read) bs
  termination_by bytes => bytes.length
  decreasing_by
    · exact length_charAt? _h
    · exact Nat.lt_succ_self bs.length

/-- The characters of the bytes in order, with `none` for each byte that is
    part of no character. -/
def units (bytes : List UInt8) : List (Option Char) := unitsFrom [] bytes

/-- The characters of the bytes, if they are text throughout. -/
def decode? (bytes : List UInt8) : Option (List Char) := (units bytes).mapM id

/-- The bytes of a text. -/
def encode (text : String) : List UInt8 := text.toUTF8.toList

/-! ### Places in bytes -/

/-- The number of bytes that characters take. -/
def size : List Char → Nat
  | [] => 0
  | c :: cs => c.utf8Size + size cs

/-- The characters in front of a place and those behind it, unless the place
    lies within a character or beyond the end. -/
def split? : Nat → List Char → Option (List Char × List Char)
  | 0, cs => some ([], cs)
  | _ + 1, [] => none
  | n + 1, c :: cs =>
    if c.utf8Size ≤ n + 1 then
      (split? (n + 1 - c.utf8Size) cs).map fun (front, back) => (c :: front, back)
    else none

/-- The characters between two places, unless one of the places lies within a
    character. -/
def cut? (start stop : Nat) (cs : List Char) : Option (List Char) := do
  let (_, back) ← split? start cs
  let (part, _) ← split? (stop - start) back
  return part

theorem split?_append (front back : List Char) :
    split? (size front) (front ++ back) = some (front, back) := by
  induction front with
  | nil => simp [size, split?]
  | cons c cs ih =>
    have hc := c.utf8Size_pos
    obtain ⟨n, hn⟩ : ∃ n, c.utf8Size + size cs = n + 1 := ⟨c.utf8Size + size cs - 1, by omega⟩
    have hle : c.utf8Size ≤ n + 1 := by omega
    have hsub : n + 1 - c.utf8Size = size cs := by omega
    simp [size, hn, split?, hle, hsub, ih]

theorem cut?_append (front part back : List Char) :
    cut? (size front) (size front + size part) (front ++ (part ++ back)) = some part := by
  simp [cut?, split?_append]

end HolidayApi.Text.Utf8
