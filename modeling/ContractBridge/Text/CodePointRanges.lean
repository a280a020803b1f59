/-!
# Ranges of code points

A set of characters as a list of inclusive ranges of code points, from low to high.
-/

namespace ContractBridge.Text

abbrev CodePointRanges := List (Nat × Nat)

namespace CodePointRanges

def includes (ranges : CodePointRanges) (c : Char) : Bool :=
  ranges.any fun range => range.1 ≤ c.toNat && c.toNat ≤ range.2

end CodePointRanges

end ContractBridge.Text
