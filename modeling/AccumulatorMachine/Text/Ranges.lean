/-! Classes of characters, given by ranges of code points with both ends. -/
namespace AccumulatorMachine.Text

def isInRanges (ranges : List (Nat × Nat)) (c : Char) : Bool :=
  ranges.any fun (lo, hi) => lo ≤ c.toNat && c.toNat ≤ hi

end AccumulatorMachine.Text
