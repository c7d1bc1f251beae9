import BulkIngest.Number.Extended

/-!
Dates, times of day and both together, with or without the distance from universal time.
-/

namespace BulkIngest.Toml

structure Date where
  year : Nat
  month : Nat
  day : Nat
deriving DecidableEq

structure ClockTime where
  hour : Nat
  minute : Nat
  second : Nat
  nanosecond : Nat
deriving DecidableEq

inductive Zone
  | universal
  /-- Minutes ahead of universal time. -/
  | ahead (minutes : Int)
deriving DecidableEq

inductive Moment
  | date (d : Date)
  | time (t : ClockTime)
  | both (d : Date) (t : ClockTime) (zone : Option Zone)
deriving DecidableEq

namespace Moment

/-- A number in exactly `count` digits within bounds. -/
def field? (count low high : Nat) (cs : List Char) : Option (Nat × List Char) :=
  let digits := cs.take count
  let n := SignedDecimal.natOfDigits digits
  if digits.length = count ∧ digits.all (·.isDigit) ∧ low ≤ n ∧ n ≤ high then
    some (n, cs.drop count)
  else none

def mark? (c : Char) : List Char → Option (List Char)
  | d :: rest => if c = d then some rest else none
  | [] => none

def isLeap (year : Nat) : Bool := year % 4 = 0 && (year % 100 ≠ 0 || year % 400 = 0)

def daysIn (year month : Nat) : Nat :=
  if month = 2 then if isLeap year then 29 else 28
  else if [4, 6, 9, 11].contains month then 30
  else 31

def date? (cs : List Char) : Option (Date × List Char) := do
  let (year, cs) ← field? 4 0 9999 cs
  let (month, cs) ← mark? '-' cs >>= field? 2 1 12
  let (day, cs) ← mark? '-' cs >>= field? 2 1 (daysIn year month)
  return (⟨year, month, day⟩, cs)

/-- Billionths behind a point; further digits are dropped. -/
def fraction? (cs : List Char) : Option (Nat × List Char) :=
  match cs with
  | '.' :: rest =>
    let digits := rest.takeWhile (·.isDigit)
    let kept := digits.take 9
    if digits.isEmpty then none
    else
      some (SignedDecimal.natOfDigits kept * Nat.pow 10 (9 - kept.length), rest.drop digits.length)
  | _ => some (0, cs)

def time? (cs : List Char) : Option (ClockTime × List Char) := do
  let (hour, cs) ← field? 2 0 23 cs
  let (minute, cs) ← mark? ':' cs >>= field? 2 0 59
  let (second, cs) ← mark? ':' cs >>= field? 2 0 60
  let (nanosecond, cs) ← fraction? cs
  return (⟨hour, minute, second, nanosecond⟩, cs)

def zone? (cs : List Char) : Option (Option Zone) :=
  match cs with
  | [] => some none
  | ['Z'] | ['z'] => some (some .universal)
  | sign :: rest => do
    let (hours, rest) ← field? 2 0 23 rest
    let (minutes, rest) ← mark? ':' rest >>= field? 2 0 59
    let n : Int := hours * 60 + minutes
    if !rest.isEmpty then none
    else if sign = '+' then some (some (.ahead n))
    else if sign = '-' then some (some (.ahead (-n)))
    else none

def isDivider (c : Char) : Bool := c = 'T' || c = 't' || c = ' '

/-- Reads all of the given characters. -/
def ofChars? (cs : List Char) : Option Moment :=
  match date? cs with
  | some (d, []) => some (.date d)
  | some (d, c :: rest) =>
    if isDivider c then do
      let (t, rest) ← time? rest
      let zone ← zone? rest
      return .both d t zone
    else none
  | none =>
    match time? cs with
    | some (t, []) => some (.time t)
    | _ => none

/-- A number with zeros in front up to `count` digits. -/
def padded (count n : Nat) : String :=
  let digits := Nat.toDigits 10 n
  String.ofList (List.replicate (count - digits.length) '0' ++ digits)

end Moment

open Moment

def Date.text (d : Date) : String :=
  padded 4 d.year ++ "-" ++ padded 2 d.month ++ "-" ++ padded 2 d.day

def ClockTime.text (t : ClockTime) : String :=
  let fraction := ((padded 9 t.nanosecond).toList.reverse.dropWhile (· = '0')).reverse
  padded 2 t.hour ++ ":" ++ padded 2 t.minute ++ ":" ++ padded 2 t.second ++
    if fraction.isEmpty then "" else "." ++ String.ofList fraction

def Zone.text : Zone → String
  | .universal => "Z"
  | .ahead minutes =>
    (if minutes < 0 then "-" else "+") ++ padded 2 (minutes.natAbs / 60) ++ ":" ++
      padded 2 (minutes.natAbs % 60)

def Moment.text : Moment → String
  | .date d => d.text
  | .time t => t.text
  | .both d t zone => d.text ++ "T" ++ t.text ++ (zone.map Zone.text).getD ""

end BulkIngest.Toml
