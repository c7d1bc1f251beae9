import BulkIngest.Entries
import BulkIngest.Number.Binary64

/-!
JSON values. Whole numbers keep 64 bits and are either unsigned or negative; all others are
binary64. The members of an object ascend by name, and a name that is given twice keeps its last
value.
-/

namespace BulkIngest.Json

/-- A whole number of 64 bits, unsigned or negative. -/
structure Whole where
  value : Int
  ge_min : -9223372036854775808 ≤ value
  lt_max : value < 18446744073709551616
deriving DecidableEq

namespace Whole

def ofNat (n : Nat) (h : n < 18446744073709551616) : Whole := ⟨n, by omega, by omega⟩

/-- The number `-n`. -/
def ofNeg (n : Nat) (h : n ≤ 9223372036854775808) : Whole := ⟨-n, by omega, by omega⟩

end Whole

inductive Number
  | whole (n : Whole)
  | float (x : Binary64)
deriving DecidableEq

inductive Value
  | null
  | boolean (b : Bool)
  | number (n : Number)
  | string (s : String)
  | array (elements : List Value)
  | object (members : List (String × Value))

instance : Inhabited Value := ⟨.null⟩

/-- The members of an object. -/
abbrev Members := Entries Value

namespace Value

def ofNat (n : Nat) (h : n < 18446744073709551616 := by decide) : Value :=
  .number (.whole (.ofNat n h))

/-- What a value is called in messages about files. -/
def typeName : Value → String
  | .null => "null"
  | .boolean _ => "boolean"
  | .number _ => "number"
  | .string _ => "string"
  | .array _ => "array"
  | .object _ => "object"

def isNull : Value → Bool
  | .null => true
  | _ => false

end Value

end BulkIngest.Json
