import BulkIngest.Text.Escape

/-!
Internet addresses of eight pieces with sixteen bits each. They are written in hexadecimal digits
with colons between the pieces; one run of zeros may be left out, and the last two pieces may be
written as four octets.
-/

namespace BulkIngest

structure Ipv6 where
  pieces : Vector UInt16 8
deriving DecidableEq

namespace Ipv6

/-- An octet in decimal digits without a zero in front. -/
def octet? (digits : List Char) : Option Nat :=
  let n := digits.foldl (fun n c => n * 10 + (c.toNat - '0'.toNat)) 0
  if digits.isEmpty ∨ !digits.all (·.isDigit) ∨ 255 < n ∨
    1 < digits.length ∧ digits.head? = some '0'
  then none
  else some n

/-- Two pieces that are written as four octets. -/
def octets? (cs : List Char) : Option (List Nat) :=
  match (cs.splitOn '.').mapM octet? with
  | some [a, b, c, d] => some [a * 256 + b, c * 256 + d]
  | _ => none

def hexNumber (digits : List Char) : Nat :=
  digits.foldl (fun n c => n * 16 + (Text.Escape.hexDigit? c).getD 0) 0

/-- Pieces on their way: those so far, and how many stand before the end of the gap. -/
structure Draft where
  pieces : List Nat
  gap : Option Nat

/-- Reads pieces, of which `left` are still to come. The gap counts as one of them. -/
def read (left : Nat) (state : Draft) (cs : List Char) : Option Draft :=
  match left, cs with
  | _, [] => some state
  | 0, _ :: _ => none
  | left + 1, ':' :: rest =>
    if state.gap.isSome then none
    else read left ⟨state.pieces ++ [0], some (state.pieces.length + 1)⟩ rest
  | left + 1, cs =>
    let digits := (cs.take 4).takeWhile fun c => (Text.Escape.hexDigit? c).isSome
    let next : Draft := { state with pieces := state.pieces ++ [hexNumber digits] }
    match cs.drop digits.length with
    | [] => some next
    | ':' :: rest => if rest.isEmpty then none else read left next rest
    | '.' :: _ =>
      if digits.isEmpty ∨ left = 0 then none
      else (octets? cs).map fun pieces => { state with pieces := state.pieces ++ pieces }
    | _ => none

/-- The pieces with the gap filled up. -/
def filled? (state : Draft) : Option (List Nat) :=
  match state.gap with
  | some gap =>
    let zeros := List.replicate (8 - state.pieces.length) 0
    some (state.pieces.take gap ++ zeros ++ state.pieces.drop gap)
  | none => some state.pieces

def ofPieces? (pieces : List Nat) : Option Ipv6 :=
  let words := (pieces.map UInt16.ofNat).toArray
  if h : words.size = 8 then some ⟨⟨words, h⟩⟩ else none

def parse? (cs : List Char) : Option Ipv6 :=
  let state? :=
    match cs with
    | ':' :: ':' :: rest => read 7 ⟨[0], some 1⟩ rest
    | ':' :: _ | [] | [_] => none
    | cs => read 8 ⟨[], none⟩ cs
  state? >>= filled? >>= ofPieces?

/-- How many zeros stand at the front. -/
def zeros (pieces : List UInt16) : Nat := (pieces.takeWhile (· = 0)).length

/-- The place and the length of the first of the longest runs of zeros, if it has more than one. -/
def longestZeros (pieces : List UInt16) : Option (Nat × Nat) :=
  let runs := (List.range pieces.length).map fun i => (i, zeros (pieces.drop i))
  let longest := runs.foldl (fun best run => if best.2 < run.2 then run else best) (0, 1)
  if 1 < longest.2 then some longest else none

def text (address : Ipv6) : String :=
  let pieces := address.pieces.toList
  let shown (pieces : List UInt16) : String :=
    ":".intercalate (pieces.map fun piece => String.ofList (Nat.toDigits 16 piece.toNat))
  match longestZeros pieces with
  | some (start, length) => shown (pieces.take start) ++ "::" ++
      shown (pieces.drop (start + length))
  | none => shown pieces

end Ipv6

end BulkIngest
