/-!
What a format of structured data has to offer so that records can be read from it: a way from a
value `V` to each kind of field, or an error `E`.
-/

namespace BulkIngest

structure DataFormat (V E : Type) where
  text : V → Except E String
  /-- A whole number from zero up to a bound, under the name of its kind. -/
  natural : Nat → String → V → Except E Nat
  optional {α : Type} : (V → Except E α) → V → Except E (Option α)
  list {α : Type} : (V → Except E α) → V → Except E (List α)
  /-- One of several names, under the name of their kind. -/
  variant {α : Type} : String → List (String × α) → V → Except E α

end BulkIngest
