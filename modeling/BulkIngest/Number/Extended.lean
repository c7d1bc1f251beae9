import BulkIngest.Number.Shortest

/-!
Binary64 numbers together with the infinities and the undefined one, and decimals on their way in
and out.
-/

namespace BulkIngest

inductive Extended
  | finite (x : Binary64)
  | infinite (negative : Bool)
  | undefined
deriving DecidableEq

namespace Binary64

/-- The number nearest to `± digits * 10 ^ exponent`, or `none` if that is too large. -/
def ofDecimal? (negative : Bool) (d : Decimal) : Option Binary64 :=
  let order := d.exponent + (Nat.toDigits 10 d.digits).length
  if d.digits = 0 ∨ order < -400 then some (zero negative)
  else if 400 < order then none
  else ofRatio? negative (d.digits * Nat.pow 10 d.exponent.toNat)
    (Nat.pow 10 (-d.exponent).toNat)

/-- Shortest digits without an exponent, and without a point if no place follows it. -/
def plainText (x : Binary64) : String :=
  let d := x.shortest
  let digits := Nat.toDigits 10 d.digits
  let places := (-d.exponent).toNat
  let whole := digits.take (digits.length - places) ++ List.replicate d.exponent.toNat '0'
  let fraction :=
    List.replicate (places - digits.length) '0' ++ digits.drop (digits.length - places)
  (if x.negative then "-" else "") ++
    (if whole.isEmpty then "0" else String.ofList whole) ++
    (if places = 0 then "" else "." ++ String.ofList fraction)

end Binary64

/-- A decimal as it is written, with its sign. -/
structure SignedDecimal where
  negative : Bool
  decimal : Decimal

namespace SignedDecimal

def digitValue (c : Char) : Nat := c.toNat - '0'.toNat

def natOfDigits (digits : List Char) : Nat :=
  digits.foldl (fun n c => n * 10 + digitValue c) 0

/-- Whether a sign in front is a minus, and what follows it. -/
def unsigned (cs : List Char) : Bool × List Char :=
  match cs with
  | '-' :: rest => (true, rest)
  | '+' :: rest => (false, rest)
  | _ => (false, cs)

/-- The exponent behind the digits, zero if there is none. -/
def exponent? (cs : List Char) : Option Int :=
  match cs with
  | [] => some 0
  | mark :: rest =>
    let (negative, digits) := unsigned rest
    if (mark = 'e' || mark = 'E') && !digits.isEmpty && digits.all (·.isDigit) then
      let n : Int := natOfDigits digits
      some (if negative then -n else n)
    else none

/-- Reads a decimal with at least one digit, a point anywhere among the digits, and an exponent. -/
def ofChars? (cs : List Char) : Option SignedDecimal :=
  let (negative, cs) := unsigned cs
  let whole := cs.takeWhile (·.isDigit)
  let rest := cs.drop whole.length
  let (places, rest) : List Char × List Char :=
    match rest with
    | '.' :: rest =>
      let places := rest.takeWhile (·.isDigit)
      (places, rest.drop places.length)
    | _ => ([], rest)
  if whole.isEmpty && places.isEmpty then none
  else
    (exponent? rest).map fun exponent =>
      ⟨negative, natOfDigits (whole ++ places), exponent - places.length⟩

/-- The nearest number, which is infinite for a decimal that is too large. -/
def value (n : SignedDecimal) : Extended :=
  match Binary64.ofDecimal? n.negative n.decimal with
  | some x => .finite x
  | none => .infinite n.negative

end SignedDecimal

def Extended.text : Extended → String
  | .finite x => x.plainText
  | .infinite negative => if negative then "-inf" else "inf"
  | .undefined => "NaN"

end BulkIngest
