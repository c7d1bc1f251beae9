/-!
Sets of characters, given by the first and the last code point of every run.
-/

namespace BulkIngest.Text

abbrev Ranges := Array (Nat × Nat)

def Ranges.contains (ranges : Ranges) (c : Char) : Bool :=
  ranges.any fun (low, high) => low ≤ c.toNat && c.toNat ≤ high

end BulkIngest.Text
