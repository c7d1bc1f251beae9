import BulkIngest.Number.Binary64

/-!
The shortest decimal that reads back as a given binary64 number, and of those the nearest one. For
each count of digits the two neighbours of the number on that decimal grid are tried; the first
grid with a neighbour inside the rounding interval wins.
-/

namespace BulkIngest

/-- The number `digits * 10 ^ exponent`. -/
structure Decimal where
  digits : Nat
  exponent : Int
deriving DecidableEq, Repr

namespace Decimal

private def trim : Nat → Decimal → Decimal
  | 0, d => d
  | fuel + 1, d =>
    if d.digits ≠ 0 ∧ d.digits % 10 = 0 then trim fuel ⟨d.digits / 10, d.exponent + 1⟩ else d

/-- The same number without zeros at the end of its digits. -/
def normalize (d : Decimal) : Decimal := trim (Nat.log2 d.digits + 1) d

end Decimal

namespace Binary64

/-- The power of ten at or below `num / den`. -/
private def decimalOrder (num den : Nat) : Int :=
  if den ≤ num then ((Nat.toDigits 10 (num / den)).length : Int) - 1
  else
    let places := (Nat.toDigits 10 (den / num)).length
    if den ≤ num * Nat.pow 10 (places - 1) then 1 - (places : Int) else - (places : Int)

/-- The candidate on the grid of `10 ^ exponent` that lies in the rounding interval of `x` and is
the nearer one to it, the even one of two that are equally near. -/
private def onGrid? (x : Binary64) (exponent : Int) : Option Decimal :=
  let up := Nat.pow 10 exponent.toNat
  let down := Nat.pow 10 (-exponent).toNat
  -- All magnitudes are multiples of `1 / (4 * scale * down)`.
  let unit := 4 * scale * up
  let value := 4 * x.numerator * down
  let half := 2 * Nat.pow 2 x.exponent * down
  let below := if x.mantissa = Nat.pow 2 52 ∧ x.exponent ≠ 0 then half / 2 else half
  let inside (n : Nat) : Bool :=
    if x.mantissa % 2 = 0 then value - below ≤ n * unit ∧ n * unit ≤ value + half
    else value - below < n * unit ∧ n * unit < value + half
  let low := value / unit
  match inside low && low ≠ 0, inside (low + 1) with
  | true, true =>
    let toLow := value - low * unit
    let toHigh := (low + 1) * unit - value
    if toLow < toHigh ∨ (toLow = toHigh ∧ low % 2 = 0) then some ⟨low, exponent⟩
    else some ⟨low + 1, exponent⟩
  | true, false => some ⟨low, exponent⟩
  | false, true => some ⟨low + 1, exponent⟩
  | false, false => none

private def search (x : Binary64) (order : Int) (count : Nat) : Nat → Decimal
  | 0 => ⟨x.numerator, 0⟩
  | fuel + 1 =>
    match onGrid? x (order - count) with
    | some d => d.normalize
    | none => search x order (count + 1) fuel

/-- The magnitude of `x` in the fewest digits that read back. -/
def shortest (x : Binary64) : Decimal :=
  if x.isZero then ⟨0, 0⟩ else search x (decimalOrder x.numerator scale) 0 18

/-- Shortest digits: positional from `10 ^ -5` up to below `10 ^ 16` and with at least one place,
otherwise with a signed exponent. -/
def text (x : Binary64) : String :=
  let d := x.shortest
  let digits := Nat.toDigits 10 d.digits
  let point : Int := d.exponent + digits.length
  let sign := if x.negative then "-" else ""
  let body :=
    if x.isZero then "0.0"
    else if -5 < point ∧ point ≤ 16 then
      if point ≤ 0 then "0." ++ String.ofList (List.replicate (-point).toNat '0' ++ digits)
      else
        let whole := digits.take point.toNat
        let places := digits.drop point.toNat
        String.ofList (whole ++ List.replicate (point.toNat - digits.length) '0') ++ "." ++
          (if places.isEmpty then "0" else String.ofList places)
    else
      let order := point - 1
      let places := digits.drop 1
      String.ofList (digits.take 1) ++
      (if places.isEmpty then "" else "." ++ String.ofList places) ++
        "e" ++ (if order < 0 then "-" else "+") ++ toString order.natAbs
  sign ++ body

end Binary64

end BulkIngest
