import BulkIngest.Json.Fault
import BulkIngest.Json.Value

/-!
Reading JSON numbers. The digits are gathered in 64 bits and those that no longer fit are dropped;
what is no whole number is then scaled by a power of ten in binary64, with one rounding for the
digits and one for every scaling. So a whole number of at most 64 bits is exact and a long fraction
may be off in its last digit.
-/

namespace BulkIngest.Json

def digit? (b : UInt8) : Option Nat :=
  if 0x30 ≤ b && b ≤ 0x39 then some (b.toNat - 0x30) else none

namespace Numeral

def startsWithDigit : Bytes → Bool
  | [] => false
  | b :: _ => (digit? b).isSome

/-- Appends digits to `significand` while it stays below `2 ^ 64`; also their number. -/
def gather (significand places : Nat) : Bytes → Nat × Nat × Bytes
  | [] => (significand, places, [])
  | b :: rest =>
    match digit? b with
    | none => (significand, places, b :: rest)
    | some d =>
      if significand * 10 + d < 18446744073709551616 then
        gather (significand * 10 + d) (places + 1) rest
      else (significand, places, b :: rest)

/-- Passes over digits and counts them. -/
def skip (count : Nat) : Bytes → Nat × Bytes
  | [] => (count, [])
  | b :: rest => if (digit? b).isSome then skip (count + 1) rest else (count, b :: rest)

def power? (n : Nat) : Option Binary64 := Binary64.ofNat? (Nat.pow 10 n)

/-- `x / 10 ^ (308 * steps)`, a division for every step until nothing is left. -/
def lowered? (x : Binary64) : Nat → Option Binary64
  | 0 => some x
  | steps + 1 =>
    if x.isZero then some x
    else
      match power? 308 >>= x.div? with
      | none => none
      | some y => lowered? y steps

/-- `x * 10 ^ exponent`, or `none` if that is too large. -/
def scaled? (x : Binary64) (exponent : Int) : Option Binary64 :=
  if exponent < 0 then
    let steps := (exponent.natAbs - 1) / 308
    match lowered? x steps, power? (exponent.natAbs - 308 * steps) with
    | some y, some p => y.div? p
    | _, _ => none
  else if exponent ≤ 308 then power? exponent.toNat >>= x.mul?
  else if x.isZero then some x
  else none

/-- The magnitude with its sign, if there is such a number. -/
def signed (negative : Bool) (rest : Bytes) : Option Binary64 → Except Fault (Number × Bytes)
  | some x => .ok (.float (if negative then x.negate else x), rest)
  | none => fail .numberOutOfRange rest

def float (negative : Bool) (significand : Nat) (exponent : Int) (rest : Bytes) :
    Except Fault (Number × Bytes) :=
  signed negative rest (Binary64.ofNat? significand >>= (scaled? · exponent))

/-- The digits of an exponent after the first one. -/
def exponentDigits (negative zero positive : Bool) (value : Nat) :
    Bytes → Except Fault (Option Nat × Bytes)
  | [] => .ok (some value, [])
  | b :: rest =>
    match digit? b with
    | none => .ok (some value, b :: rest)
    | some d =>
      if value * 10 + d < 2147483648 then
        exponentDigits negative zero positive (value * 10 + d) rest
      else if positive && !zero then fail .numberOutOfRange rest
      else .ok (none, (skip 0 rest).2)

/-- The sign of an exponent, plus if none is written. -/
def sign : Bytes → Bool × Bytes
  | 0x2B :: rest => (true, rest)
  | 0x2D :: rest => (false, rest)
  | input => (true, input)

/-- The exponent behind its letter, added to `start`. -/
def exponent (negative : Bool) (significand : Nat) (start : Int) (input : Bytes) :
    Except Fault (Number × Bytes) :=
  let (positive, input) := sign input
  match input with
  | [] => fail .endOfValue []
  | b :: rest =>
    match digit? b with
    | none => fail .invalidNumber rest
    | some d =>
      match exponentDigits negative (significand = 0) positive d rest with
      | .error fault => .error fault
      | .ok (none, rest) => .ok (.float (Binary64.zero negative), rest)
      | .ok (some value, rest) =>
        float negative significand (if positive then start + value else start - value) rest

def isExponentLetter (b : UInt8) : Bool := b = 0x65 || b = 0x45

/-- The fraction behind its point; `dropped` digits of the whole part did not fit. -/
def fraction (negative : Bool) (significand dropped : Nat) (input : Bytes) :
    Except Fault (Number × Bytes) :=
  let (significand, places, rest) := gather significand 0 input
  if places = 0 && !startsWithDigit rest then
    match rest with
    | [] => fail .endOfValue []
    | _ => failNext .invalidNumber rest
  else
    let start := (dropped : Int) - places
    match (skip 0 rest).2 with
    | [] => float negative significand start []
    | b :: rest =>
      if isExponentLetter b then exponent negative significand start rest
      else float negative significand start (b :: rest)

/-- The number when neither a fraction nor an exponent follows. -/
def whole (negative : Bool) (significand : Nat) (rest : Bytes) : Except Fault (Number × Bytes) :=
  if negative then
    if h : 0 < significand ∧ significand ≤ 9223372036854775808 then
      .ok (.whole (.ofNeg significand h.2), rest)
    else float true significand 0 rest
  else
    if h : significand < 18446744073709551616 then .ok (.whole (.ofNat significand h), rest)
    else float false significand 0 rest

/-- What follows the whole part, of which `dropped` digits did not fit. -/
def continued (negative : Bool) (significand dropped : Nat) : Bytes → Except Fault (Number × Bytes)
  | [] =>
    if dropped = 0 then whole negative significand [] else float negative significand dropped []
  | b :: rest =>
    if b = 0x2E then fraction negative significand dropped rest
    else if isExponentLetter b then exponent negative significand dropped rest
    else if dropped = 0 then whole negative significand (b :: rest)
    else float negative significand dropped (b :: rest)

/-- A number behind its sign. -/
def unsigned (negative : Bool) : Bytes → Except Fault (Number × Bytes)
  | [] => fail .endOfValue []
  | b :: rest =>
    match digit? b with
    | none => fail .invalidNumber rest
    | some 0 =>
      if startsWithDigit rest then failNext .invalidNumber rest else continued negative 0 0 rest
    | some d =>
      let (significand, _, rest) := gather d 0 rest
      let (dropped, rest) := skip 0 rest
      continued negative significand dropped rest

/-- Passes over the digits of an exponent, at least one. -/
def skipExponent (input : Bytes) : Except Fault Bytes :=
  match (sign input).2 with
  | [] => fail .invalidNumber []
  | b :: rest => if (digit? b).isSome then .ok (skip 0 rest).2 else fail .invalidNumber rest

def skipContinued : Bytes → Except Fault Bytes
  | [] => .ok []
  | b :: rest =>
    if b = 0x2E then
      let (places, rest) := skip 0 rest
      if places = 0 then failNext .invalidNumber rest
      else
        match rest with
        | [] => .ok []
        | b :: rest => if isExponentLetter b then skipExponent rest else .ok (b :: rest)
    else if isExponentLetter b then skipExponent rest
    else .ok (b :: rest)

/-- Passes over a number behind its sign without looking at its size. -/
def skipUnsigned : Bytes → Except Fault Bytes
  | [] => fail .invalidNumber []
  | b :: rest =>
    match digit? b with
    | none => fail .invalidNumber rest
    | some 0 => if startsWithDigit rest then failNext .invalidNumber rest else skipContinued rest
    | some _ => skipContinued (skip 0 rest).2

end Numeral

end BulkIngest.Json
