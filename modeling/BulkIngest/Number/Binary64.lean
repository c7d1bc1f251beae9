/-!
Finite binary64 numbers in exact arithmetic. Every operation is a quotient of natural numbers that
is rounded once, to the nearest number and to the even one of two; a result beyond the largest
finite number is `none`.
-/

namespace BulkIngest

/-- `numerator / denominator`, rounded to the nearest whole number, a half to the even one. -/
def roundHalfEven (numerator denominator : Nat) : Nat :=
  let whole := numerator / denominator
  let twice := 2 * (numerator % denominator)
  if twice < denominator then whole
  else if twice = denominator then whole + whole % 2
  else whole + 1

/-- The number `± mantissa * 2 ^ exponent / 2 ^ 1074`. The mantissa stays below `2 ^ 53` and reaches
`2 ^ 52` unless the exponent is zero, so that equal numbers of one sign are equal values. -/
structure Binary64 where
  negative : Bool
  mantissa : Nat
  exponent : Nat
deriving DecidableEq, Repr

namespace Binary64

def zero (negative : Bool) : Binary64 := ⟨negative, 0, 0⟩

def isZero (x : Binary64) : Bool := x.mantissa = 0

def negate (x : Binary64) : Binary64 := { x with negative := !x.negative }

/-- The magnitude is `numerator / 2 ^ 1074`. -/
def numerator (x : Binary64) : Nat := x.mantissa * Nat.pow 2 x.exponent

def scale : Nat := Nat.pow 2 1074

def ofRatio? (negative : Bool) (num den : Nat) : Option Binary64 :=
  let scaled := num * scale
  let exponent := (scaled / den).log2 - 52
  let mantissa := roundHalfEven scaled (den * Nat.pow 2 exponent)
  let rounded : Binary64 :=
    if mantissa = Nat.pow 2 53 then ⟨negative, Nat.pow 2 52, exponent + 1⟩
    else ⟨negative, mantissa, exponent⟩
  if rounded.exponent ≤ 2045 then some rounded else none

def ofNat? (n : Nat) : Option Binary64 := ofRatio? false n 1

/-- The sum of two numbers that are not negative. -/
def add? (x y : Binary64) : Option Binary64 :=
  ofRatio? false (x.numerator + y.numerator) scale

def mul? (x y : Binary64) : Option Binary64 :=
  ofRatio? (x.negative ^^ y.negative) (x.numerator * y.numerator) (scale * scale)

/-- The quotient by a number other than zero. -/
def div? (x y : Binary64) : Option Binary64 :=
  ofRatio? (x.negative ^^ y.negative) x.numerator y.numerator

/-- The whole part of a number that is not negative. -/
def floor (x : Binary64) : Nat := if x.negative then 0 else x.numerator / scale

end Binary64

end BulkIngest
