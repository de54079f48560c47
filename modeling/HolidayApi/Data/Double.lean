import HolidayApi.Text.Numeral

/-! # Fractional numbers

    Numbers with a fraction are kept as documents hold them: binary numbers
    of 64 bits with 53 significant ones. A finite number is
    `significand * 2 ^ exponent` and its sign.

    * `nearest` rounds a quotient, a half to the even neighbour; `ofDecimal`
      reads a decimal with it.
    * `shortest` gives the fewest decimal digits that round to the number,
      and of those the nearest.
    * `positional` and `compact` are the two notations in use.
-/

namespace HolidayApi.Data

/-- A binary floating point number of 64 bits. -/
inductive Double where
  /-- The number `significand * 2 ^ exponent`, negated if `negative`. -/
  | finite (negative : Bool) (significand : Nat) (exponent : Int)
  /-- A number too large to be held. -/
  | infinite (negative : Bool)
  /-- No number. -/
  | notANumber
  deriving DecidableEq, Repr

namespace Double

/-! ### Rounding -/

/-- The smallest exponent of a finite number. -/
def minExponent : Int := -1074

/-- The largest exponent of a finite number. -/
def maxExponent : Int := 971

/-- A power of two. -/
def twoTo (k : Nat) : Nat := Nat.pow 2 k

/-- A power of ten. -/
def tenTo (k : Nat) : Nat := Nat.pow 10 k

/-- The least significand that has all 53 digits. -/
def fullSignificand : Nat := 0x10000000000000

/-- The integer nearest to a quotient, the even one of two. -/
def roundDiv (num den : Nat) : Nat :=
  let quotient := num / den
  let twice := 2 * (num % den)
  if twice < den then quotient
  else if den < twice then quotient + 1
  else quotient + quotient % 2

/-- A quotient divided by a power of two, as a quotient. -/
def scaleDown (num den : Nat) (exponent : Int) : Nat × Nat :=
  (num * twoTo (-exponent).toNat, den * twoTo exponent.toNat)

/-- The number nearest to `num / den`. -/
def nearest (negative : Bool) (num den : Nat) : Double :=
  if num = 0 then .finite negative 0 minExponent
  else
    let guess : Int := (num.log2 : Int) - (den.log2 : Int) - 52
    let (n, d) := scaleDown num den guess
    let exponent := max minExponent (if n < fullSignificand * d then guess - 1 else guess)
    let (n, d) := scaleDown num den exponent
    let significand := roundDiv n d
    let (significand, exponent) :=
      if significand = 2 * fullSignificand then (fullSignificand, exponent + 1)
      else (significand, exponent)
    if maxExponent < exponent then .infinite negative
    else .finite negative significand exponent

/-- The number nearest to `digits * 10 ^ exponent`. Powers far outside the
    range are not computed. -/
def ofDecimal (negative : Bool) (digits : Nat) (exponent : Int) : Double :=
  let magnitude : Int := exponent + (Text.decimal digits).length
  if digits = 0 ∨ magnitude < -400 then .finite negative 0 minExponent
  else if 400 < magnitude then .infinite negative
  else nearest negative (digits * tenTo exponent.toNat) (tenTo (-exponent).toNat)

/-! ### Arithmetic -/

/-- A finite magnitude as a quotient. -/
def ratio (significand : Nat) (exponent : Int) : Nat × Nat :=
  (significand * twoTo exponent.toNat, twoTo (-exponent).toNat)

/-- The product with the number nearest to `10 ^ k`. -/
def timesPowerOfTen (x : Double) (k : Nat) : Double :=
  match x, nearest false (tenTo k) 1 with
  | .finite negative m e, .finite _ m' e' =>
    let (n, d) := ratio m e
    let (n', d') := ratio m' e'
    nearest negative (n * n') (d * d')
  | x, _ => x

/-- The quotient by the number nearest to `10 ^ k`. -/
def overPowerOfTen (x : Double) (k : Nat) : Double :=
  match x, nearest false (tenTo k) 1 with
  | .finite negative m e, .finite _ m' e' =>
    let (n, d) := ratio m e
    let (n', d') := ratio m' e'
    nearest negative (n * d') (d * n')
  | x, _ => x

/-- The negated number. -/
def negate : Double → Double
  | .finite negative m e => .finite (!negative) m e
  | .infinite negative => .infinite (!negative)
  | .notANumber => .notANumber

/-! ### Digits -/

/-- The first power of ten, from `10 ^ k` downwards, that has a multiple in
    the interval of the numbers that round to `m * 2 ^ e`; of two multiples
    the nearer one. -/
def shortestFrom (m : Nat) (e : Int) : (fuel : Nat) → (k : Int) → Nat × Int
  | 0, k => (0, k)
  | fuel + 1, k =>
    let quarter := twoTo (e - 2).toNat * tenTo (-k).toNat
    let unit := twoTo (2 - e).toNat * tenTo k.toNat
    let value := 4 * m * quarter
    let low := (if m = fullSignificand ∧ minExponent < e then 4 * m - 1 else 4 * m - 2) * quarter
    let high := (4 * m + 2) * quarter
    let inside (n : Nat) : Bool :=
      0 < n && if m % 2 = 0 then low ≤ n * unit && n * unit ≤ high
        else low < n * unit && n * unit < high
    let below := value / unit
    let nearer := roundDiv value unit
    let other := if nearer = below then below + 1 else below
    if inside nearer then (nearer, k)
    else if inside other then (other, k)
    else shortestFrom m e fuel (k - 1)

/-- Digits and power of ten of the shortest decimal that rounds to the
    number `m * 2 ^ e`, which is not zero. -/
def shortest (m : Nat) (e : Int) : Nat × Int :=
  shortestFrom m e 24 (((m.log2 : Int) + e) * 30103 / 100000 + 2)

/-! ### Notations -/

/-- The digits with a point before the last `places` of them and at least
    one digit on both sides of it. -/
def pointed (digits : List Char) (places : Nat) : List Char :=
  let digits := List.replicate (places + 1 - digits.length) '0' ++ digits
  digits.take (digits.length - places) ++ '.' :: digits.drop (digits.length - places)

/-- The digits times a power of ten, without an exponent. -/
def plainDigits (digits : List Char) (k : Int) : List Char :=
  if k < 0 then pointed digits (-k).toNat
  else digits ++ List.replicate k.toNat '0' ++ ['.', '0']

/-- The notation without an exponent. -/
def positional : Double → String
  | .finite negative m e =>
    let text := if m = 0 then ['0', '.', '0']
      else
        let (digits, k) := shortest m e
        plainDigits (Text.decimal digits) k
    String.ofList (if negative then '-' :: text else text)
  | .infinite negative => if negative then "-inf" else "inf"
  | .notANumber => "NaN"

/-- The notation with a signed exponent, one digit before the point. -/
def scientific (digits : List Char) (exponent : Int) : List Char :=
  let mantissa := match digits with
    | first :: second :: rest => first :: '.' :: second :: rest
    | _ => digits
  let sign := if exponent < 0 then '-' else '+'
  mantissa ++ 'e' :: sign :: Text.decimal exponent.natAbs

/-- The notation with an exponent only where it is from sixteen digits
    before the point, or five zeros behind it, on. -/
def compact : Double → String
  | .finite negative m e =>
    let text := if m = 0 then ['0', '.', '0']
      else
        let (digits, k) := shortest m e
        let digits := Text.decimal digits
        let point := digits.length + k
        if -5 < point ∧ point ≤ 16 then plainDigits digits k
        else scientific digits (point - 1)
    String.ofList (if negative then '-' :: text else text)
  | _ => "null"

end Double
end HolidayApi.Data
