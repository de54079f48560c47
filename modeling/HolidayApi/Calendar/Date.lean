import HolidayApi.Text.Blank
import HolidayApi.Text.Numeral
import Std.Data.ExtTreeMap

/-! # Calendar dates

    Days of the Gregorian calendar, continued to both sides. A date is
    written as year, month and day with hyphens; years of more than four
    digits and years before year zero have a sign.

    Reading is more lenient than writing: month and day may have one digit,
    blanks may stand around the parts, and a year may have any sign, though
    without one it has at most four digits.
-/

namespace HolidayApi.Calendar

/-! ### Days -/

/-- Whether a year has a leap day. -/
def isLeap (year : Int) : Bool := year % 4 = 0 && (year % 100 ≠ 0 || year % 400 = 0)

/-- The number of days of a month. -/
def daysIn (year : Int) (month : Nat) : Nat :=
  if month = 2 then if isLeap year then 29 else 28
  else if month = 4 ∨ month = 6 ∨ month = 9 ∨ month = 11 then 30
  else 31

/-- The first year. -/
def minYear : Int := -262143

/-- The last year. -/
def maxYear : Int := 262142

/-- A day of the calendar. -/
structure Date where
  /-- The year; year zero is the one before year one. -/
  year : Int
  /-- The month from 1. -/
  month : Nat
  /-- The day of the month from 1. -/
  day : Nat
  year_mem : minYear ≤ year ∧ year ≤ maxYear
  month_mem : 1 ≤ month ∧ month ≤ 12
  day_mem : 1 ≤ day ∧ day ≤ daysIn year month
  deriving DecidableEq, Repr

namespace Date

/-- The day with these numbers, if there is one. -/
def of? (year : Int) (month day : Nat) : Option Date :=
  if hy : minYear ≤ year ∧ year ≤ maxYear then
    if hm : 1 ≤ month ∧ month ≤ 12 then
      if hd : 1 ≤ day ∧ day ≤ daysIn year month then some ⟨year, month, day, hy, hm, hd⟩
      else none
    else none
  else none

theorem of?_self (d : Date) : of? d.year d.month d.day = some d := by
  simp [of?, d.year_mem, d.month_mem, d.day_mem]

theorem eq_of_parts {d e : Date} (hy : d.year = e.year) (hm : d.month = e.month)
    (hd : d.day = e.day) : d = e := by
  cases d; cases e; simp_all

/-! ### Order -/

/-- Earlier days come first. -/
def order : Date → Date → Ordering :=
  compareLex (compareOn Date.year) (compareLex (compareOn Date.month) (compareOn Date.day))

instance : Ord Date := ⟨order⟩

instance : Std.TransCmp order := inferInstanceAs (Std.TransCmp (compareLex _ _))

instance : Std.TransOrd Date := inferInstanceAs (Std.TransCmp order)

instance : Std.LawfulEqCmp order where
  eq_of_compare {d e} h := by
    simp only [order, compareLex, compareOn, Ordering.then_eq_eq,
      Std.LawfulEqOrd.compare_eq_iff_eq] at h
    exact eq_of_parts h.1 h.2.1 h.2.2

instance : Std.LawfulEqOrd Date := inferInstanceAs (Std.LawfulEqCmp order)

/-! ### Writing -/

/-- A year with four digits at least, and a sign if they do not suffice. -/
def yearDigits (year : Int) : List Char :=
  if year < 0 then '-' :: Text.padded 4 year.natAbs
  else if 9999 < year then '+' :: Text.padded 4 year.natAbs
  else Text.padded 4 year.natAbs

/-- The notation of the date. -/
def chars (d : Date) : List Char :=
  yearDigits d.year ++ '-' :: Text.padded 2 d.month ++ '-' :: Text.padded 2 d.day

/-- The notation of the date as a text. -/
def text (d : Date) : String := String.ofList d.chars

/-! ### Reading -/

/-- What can be wrong with the text of a date. -/
inductive Error where
  | outOfRange
  | invalid
  | tooShort
  | tooLong
  deriving DecidableEq, Repr

/-- The error in words. -/
def Error.message : Error → String
  | outOfRange => "input is out of range"
  | invalid => "input contains invalid characters"
  | tooShort => "premature end of input"
  | tooLong => "trailing input"

/-- The number at the front, of at most `width` digits, and the rest. -/
def number (width : Option Nat) (cs : List Char) : Except Error (Nat × List Char) :=
  let front := match width with
    | some width => cs.take width
    | none => cs
  let digits := front.takeWhile Char.isDigit
  let significant := digits.dropWhile (· = '0')
  if cs.isEmpty then .error .tooShort
  else if digits.isEmpty then .error .invalid
  else if 18 < significant.length then .error .outOfRange
  else .ok (Nat.ofDigitChars 10 significant 0, cs.drop digits.length)

/-- The year at the front, with its sign. -/
def readYear (cs : List Char) : Except Error (Int × List Char) := do
  let (year, rest) ← match Text.trimStart cs with
    | '-' :: rest => do
      let (n, rest) ← number none rest
      pure (-(n : Int), rest)
    | '+' :: rest => do
      let (n, rest) ← number none rest
      pure ((n : Int), rest)
    | cs => do
      let (n, rest) ← number (some 4) cs
      pure ((n : Int), rest)
  if -(Text.max31 : Int) - 1 ≤ year ∧ year ≤ Text.max31 then return (year, rest)
  else throw .outOfRange

/-- The number of at most two digits at the front, from 1 to `last`. -/
def readPart (last : Nat) (cs : List Char) : Except Error (Nat × List Char) := do
  let (n, rest) ← number (some 2) (Text.trimStart cs)
  if 1 ≤ n ∧ n ≤ last then return (n, rest) else throw .outOfRange

/-- The rest after the hyphen at the front. -/
def readHyphen (cs : List Char) : Except Error (List Char) :=
  match Text.trimStart cs with
  | [] => .error .tooShort
  | '-' :: rest => .ok rest
  | _ => .error .invalid

/-- The date that a text denotes. -/
def parse (text : String) : Except Error Date := do
  let (year, rest) ← readYear text.toList
  let (month, rest) ← readPart 12 (← readHyphen rest)
  let (day, rest) ← readPart 31 (← readHyphen rest)
  if !(Text.trimStart rest).isEmpty then throw .tooLong
  match of? year month day with
  | some date => return date
  | none => throw .outOfRange

end Date
end HolidayApi.Calendar
