import BulkIngest.Settings.Setting
import BulkIngest.Text.Escape
import BulkIngest.Toml.Moment

/-!
Single values of a TOML document: strings of four kinds, numbers, truth values and moments. The text
has no carriage returns and no control characters other than tabs and line ends.
-/

namespace BulkIngest.Toml

abbrev Reader (α : Type) := List Char → Option (α × List Char)

namespace Literal

/-- The characters up to three quotes, before which up to two more belong to the text. -/
def block (quote : Char) (escapes escaped : Bool) (done : List Char) : Reader (List Char)
  | [] => none
  | c :: rest =>
    let run := ((c :: rest).takeWhile (· = quote)).length
    if escaped then block quote escapes false (c :: done) rest
    else if 3 ≤ run then
      let inner := min (run - 3) 2
      some (done.reverse ++ List.replicate inner quote, (c :: rest).drop (inner + 3))
    else block quote escapes (escapes && c = '\\') (c :: done) rest

/-- A line end directly behind the opening quotes is no text. -/
def afterOpening (cs : List Char) : List Char :=
  match cs with
  | '\n' :: rest => rest
  | _ => cs

def isOneLine (part : List Char) : Bool := !part.contains '\n'

/-- A string on one line, behind its opening double quote. -/
def doubleQuoted : Reader String := fun cs => do
  let (inner, rest) ← Text.quotedPart false [] cs
  if !isOneLine inner then none
  let meant ← Text.unescaped? false inner
  return (String.ofList meant, rest)

/-- A string without escapes on one line, behind its opening single quote. -/
def singleQuoted : Reader String := fun cs =>
  let inner := cs.takeWhile (· ≠ '\'')
  match cs.drop inner.length with
  | _ :: rest => if isOneLine inner then some (String.ofList inner, rest) else none
  | [] => none

def string : Reader String
  | '"' :: '"' :: '"' :: rest => do
    let (inner, rest) ← block '"' true false [] (afterOpening rest)
    let meant ← Text.unescaped? true inner
    return (String.ofList meant, rest)
  | '"' :: rest => doubleQuoted rest
  | '\'' :: '\'' :: '\'' :: rest =>
    (block '\'' false false [] (afterOpening rest)).map fun (inner, rest) =>
      (String.ofList inner, rest)
  | '\'' :: rest => singleQuoted rest
  | _ => none

/-- Digits that may be divided by single underscores, without these. -/
def digits? (isDigit : Char → Bool) (afterDigit : Bool) : List Char → Option (List Char)
  | [] => if afterDigit then some [] else none
  | c :: rest =>
    if c = '_' then if afterDigit then digits? isDigit false rest else none
    else if isDigit c then (digits? isDigit true rest).map (c :: ·)
    else none

/-- Decimal digits without a zero in front of others. -/
def whole? (cs : List Char) : Option (List Char) :=
  match digits? Char.isDigit false cs with
  | some ('0' :: _ :: _) => none
  | digits => digits

def bounded? (n : Int) : Option Scalar :=
  if -9223372036854775808 ≤ n ∧ n < 9223372036854775808 then some (.signed (Int64.ofInt n))
  else none

def based? (base : Nat) (cs : List Char) : Option Scalar := do
  let isDigit (c : Char) : Bool := (Text.Escape.hexDigit? c).any (· < base)
  let digits ← digits? isDigit false cs
  bounded? (digits.foldl (fun n c => n * base + (Text.Escape.hexDigit? c).getD 0) 0 : Nat)

def integer? (cs : List Char) : Option Scalar :=
  match cs with
  | '0' :: 'x' :: rest => based? 16 rest
  | '0' :: 'o' :: rest => based? 8 rest
  | '0' :: 'b' :: rest => based? 2 rest
  | _ => do
    let (negative, cs) := SignedDecimal.unsigned cs
    let n : Int := SignedDecimal.natOfDigits (← whole? cs)
    bounded? (if negative then -n else n)

def isDigitPart (c : Char) : Bool := c.isDigit || c = '_'

/-- The exponent at the end of a number, if there is one. -/
def exponent? (cs : List Char) : Option Int :=
  match cs with
  | [] => some 0
  | mark :: rest => do
    if mark ≠ 'e' ∧ mark ≠ 'E' then none
    let (negative, cs) := SignedDecimal.unsigned rest
    let n : Int := SignedDecimal.natOfDigits (← digits? Char.isDigit false cs)
    return if negative then -n else n

/-- A number with places or an exponent; it may be too small to be finite, but not too large. -/
def float? (cs : List Char) : Option Extended := do
  let (negative, cs) := SignedDecimal.unsigned cs
  if cs = "inf".toList then return .infinite negative
  if cs = "nan".toList then return .undefined
  let part := cs.takeWhile isDigitPart
  let whole ← whole? part
  let rest := cs.drop part.length
  if rest.isEmpty then none
  let (places, rest) ←
    match rest with
    | '.' :: rest =>
      let part := rest.takeWhile isDigitPart
      (digits? Char.isDigit false part).map fun places => (places, rest.drop part.length)
    | _ => some ([], rest)
  let exponent ← exponent? rest
  let written : SignedDecimal :=
    ⟨negative, SignedDecimal.natOfDigits (whole ++ places), exponent - places.length⟩
  match written.value with
  | .infinite false => none
  | x => return x

/-- The one name in a table that stands for a moment. -/
def momentName : String := "$__toml_private_datetime"

def ofScalar (s : Scalar) : Setting := .scalar .file s

def ofMoment (m : Moment) : Setting :=
  .table .file [(momentName, ofScalar (.text m.text))]

def isWordCharacter (c : Char) : Bool := c.isAlphanum || ['+', '-', '_', '.', ':'].contains c

def ofWord? (word : List Char) : Option Setting :=
  if word = "true".toList then some (ofScalar (.boolean true))
  else if word = "false".toList then some (ofScalar (.boolean false))
  else
    match integer? word with
    | some n => some (ofScalar n)
    | none => (float? word).map fun x => ofScalar (.float x)

/-- A value without quotes. A blank may divide a date from a time. -/
def unquoted : Reader Setting := fun cs =>
  let word := cs.takeWhile isWordCharacter
  let rest := cs.drop word.length
  let further := rest.tail.takeWhile isWordCharacter
  let moment := Moment.ofChars? word
  match moment, rest.head?, Moment.ofChars? (word ++ ' ' :: further) with
  | some (.date _), some ' ', some both => some (ofMoment both, rest.tail.drop further.length)
  | some m, _, _ => some (ofMoment m, rest)
  | none, _, _ => (ofWord? word).map fun v => (v, rest)

def read : Reader Setting := fun cs =>
  if cs.head? = some '"' ∨ cs.head? = some '\'' then
    (string cs).map fun (s, rest) => (ofScalar (.text s), rest)
  else unquoted cs

end Literal

end BulkIngest.Toml
