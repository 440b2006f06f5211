/-! A property of characters as a list of ranges of code points, both ends included. -/
namespace WikiPivot

abbrev CharRanges := List (Nat × Nat)

def CharRanges.has (ranges : CharRanges) (c : Char) : Bool :=
  ranges.any fun (first, last) => first ≤ c.toNat && c.toNat ≤ last

end WikiPivot
