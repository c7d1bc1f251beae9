/-!
Decimal numerals with a comma between groups of three digits.
-/

namespace BulkIngest.Text

/-- A comma stands behind every digit that a multiple of three digits follows. -/
def separate : List Char → List Char
  | [] => []
  | [c] => [c]
  | c :: d :: rest =>
    if (rest.length + 1) % 3 = 0 then c :: ',' :: separate (d :: rest)
    else c :: separate (d :: rest)

def grouped (n : Nat) : String := String.ofList (separate (Nat.toDigits 10 n))

end BulkIngest.Text
