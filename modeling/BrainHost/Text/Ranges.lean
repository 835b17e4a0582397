/-! # Sorted ranges of code points

A class of characters is a sorted table of disjoint ranges, and membership is a binary search. -/

namespace BrainHost.Text

/-- Whether one of the sorted ranges from index `lo` up to `hi` holds `n`. -/
def searchRanges (table : Array (Nat × Nat)) (n : Nat) : Nat → Nat → Nat → Bool
  | 0, _, _ => false
  | steps + 1, lo, hi =>
    if lo < hi then
      let mid := (lo + hi) / 2
      match table[mid]? with
      | none => false
      | some (first, last) =>
        if n < first then searchRanges table n steps lo mid
        else if last < n then searchRanges table n steps (mid + 1) hi
        else true
    else false

/-- Whether a sorted table of ranges holds `n`. -/
def inRanges (table : Array (Nat × Nat)) (n : Nat) : Bool :=
  searchRanges table n (table.size + 1) 0 table.size

end BrainHost.Text
