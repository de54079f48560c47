/-! # Ranges of characters

    The properties of characters that the standard defines are kept as tables
    of ranges of code points in ascending order, and looked up by halving.
-/

namespace HolidayApi.Text

/-- Whether `n` lies in one of the ranges between the places `lo` and `hi`;
    each step halves the stretch that is still in question. -/
def inRanges (ranges : Array (Nat × Nat)) (n : Nat) (lo hi : Nat) : Bool :=
  if lo < hi then
    let mid := (lo + hi) / 2
    match ranges[mid]? with
    | some (first, last) =>
      if n < first then inRanges ranges n lo mid
      else if last < n then inRanges ranges n (mid + 1) hi
      else true
    | none => false
  else false
  termination_by hi - lo

/-- Whether a character lies in one of the ranges. -/
def liesIn (ranges : Array (Nat × Nat)) (c : Char) : Bool :=
  inRanges ranges c.toNat 0 ranges.size

end HolidayApi.Text
