import BulkIngest.Text.Escape

/-!
Internet addresses of four octets. They are written as up to four numbers with dots between them,
each in decimal, octal or hexadecimal digits; the last number holds all octets that are left.
-/

namespace BulkIngest

structure Ipv4 where
  value : UInt32
deriving DecidableEq

namespace Ipv4

def numberOfBase (base : Nat) (digits : List Char) : Option Nat :=
  digits.foldlM (fun n c =>
    match Text.Escape.hexDigit? c with
    | some digit => if digit < base then some (n * base + digit) else none
    | none => none) 0

/-- A part of an address; a zero in front stands for octal digits, `0x` for hexadecimal ones. -/
def number? : List Char → Option Nat
  | [] => none
  | '0' :: 'x' :: digits | '0' :: 'X' :: digits => numberOfBase 16 digits
  | '0' :: digits => numberOfBase 8 digits
  | digits => numberOfBase 10 digits

/-- The parts of a name between its dots; the last dot may stand at the end. -/
def parts (name : List Char) : List (List Char) :=
  let parts := name.splitOn '.'
  if 1 < parts.length ∧ parts.getLast? = some [] then parts.dropLast else parts

/-- Whether a name can only be meant as an address. -/
def isMeant (name : List Char) : Bool :=
  match (parts name).getLast? with
  | some last => (!last.isEmpty && last.all (·.isDigit)) || (number? last).isSome
  | none => false

/-- The address of the numbers, all but the last of which are octets. -/
def ofNumbers? (numbers : List Nat) : Option Ipv4 :=
  let octets := numbers.dropLast
  match numbers.getLast? with
  | some last =>
    if 4 < numbers.length ∨ octets.any (255 < ·) ∨ Nat.pow 256 (4 - octets.length) ≤ last then none
    else
      let front := octets.foldl (fun n octet => n * 256 + octet) 0 * Nat.pow 256 (4 - octets.length)
      some ⟨UInt32.ofNat (front + last)⟩
  | none => none

def parse? (name : List Char) : Option Ipv4 := (parts name).mapM number? >>= ofNumbers?

def text (address : Ipv4) : String :=
  let octet (place : Nat) : String := toString (address.value.toNat / Nat.pow 256 place % 256)
  ".".intercalate [octet 3, octet 2, octet 1, octet 0]

end Ipv4

end BulkIngest
