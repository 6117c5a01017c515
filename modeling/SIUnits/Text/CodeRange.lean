/-! Sets of characters given as ranges of code points. -/
namespace SIUnits.Text

abbrev CodeRange := Nat × Nat

def inRanges (ranges : List CodeRange) (c : Char) : Bool :=
  ranges.any fun r => decide (r.1 ≤ c.toNat) && decide (c.toNat ≤ r.2)

/-- The character is in one of the sorted ranges from `low` on and before `high`. Each step leaves
fewer of them, so it is enough if `fuel` is not less than their number. -/
def searchRanges (ranges : Array CodeRange) (c : Char) : Nat → Nat → Nat → Bool
  | 0, _, _ => false
  | fuel + 1, low, high =>
    if high ≤ low then false
    else
      let middle := (low + high) / 2
      match ranges[middle]? with
      | none => false
      | some (first, last) =>
        if c.toNat < first then searchRanges ranges c fuel low middle
        else if last < c.toNat then searchRanges ranges c fuel (middle + 1) high
        else true

def inSortedRanges (ranges : Array CodeRange) (c : Char) : Bool :=
  searchRanges ranges c ranges.size 0 ranges.size

end SIUnits.Text
