import BulkIngest.Json.Numeral

/-!
Reading JSON text. A reader takes the unread octets and gives back a value and the octets behind it.
Values nest at most 127 deep. A value that nobody asked for is passed over with looser rules: its
numbers may be of any size, its strings are not decoded and it may nest to any depth.
-/

namespace BulkIngest.Json

abbrev Reader (α : Type) := Bytes → Except Fault (α × Bytes)

namespace Read

def isBlank (b : UInt8) : Bool := b = 0x20 || b = 0x0A || b = 0x09 || b = 0x0D

def skipBlanks : Bytes → Bytes
  | [] => []
  | b :: rest => if isBlank b then skipBlanks rest else b :: rest

/-- The rest of a word such as `null` whose first letter has been read. -/
def word : Bytes → Bytes → Except Fault Bytes
  | [], input => .ok input
  | _ :: _, [] => fail .endOfValue []
  | expected :: letters, b :: rest =>
    if b = expected then word letters rest else fail .expectedIdent rest

def wordNull : Bytes := [0x75, 0x6C, 0x6C]
def wordTrue : Bytes := [0x72, 0x75, 0x65]
def wordFalse : Bytes := [0x61, 0x6C, 0x73, 0x65]

def hexDigit? (b : UInt8) : Option Nat :=
  if 0x30 ≤ b && b ≤ 0x39 then some (b.toNat - 0x30)
  else if 0x61 ≤ b && b ≤ 0x66 then some (b.toNat - 0x57)
  else if 0x41 ≤ b && b ≤ 0x46 then some (b.toNat - 0x37)
  else none

/-- Four hexadecimal digits as a number below `2 ^ 16`. -/
def unit? (a b c d : UInt8) : Option Nat := do
  let a ← hexDigit? a
  let b ← hexDigit? b
  let c ← hexDigit? c
  let d ← hexDigit? d
  return ((a * 16 + b) * 16 + c) * 16 + d

def isLeading (unit : Nat) : Bool := 0xD800 ≤ unit && unit ≤ 0xDBFF

def isTrailing (unit : Nat) : Bool := 0xDC00 ≤ unit && unit ≤ 0xDFFF

/-- The octets of a code point, last one first, in front of `done`. -/
def push (codePoint : Nat) (done : Bytes) : Bytes :=
  (Text.bytes (Char.ofNat codePoint).toString).reverse ++ done

/-- The octet that a one-letter escape stands for. -/
def shortEscape? (b : UInt8) : Option UInt8 :=
  if b = 0x22 then some 0x22
  else if b = 0x5C then some 0x5C
  else if b = 0x2F then some 0x2F
  else if b = 0x62 then some 0x08
  else if b = 0x66 then some 0x0C
  else if b = 0x6E then some 0x0A
  else if b = 0x72 then some 0x0D
  else if b = 0x74 then some 0x09
  else none

/-- The octets of a string up to its closing quote; `done` holds them so far, last one first. -/
def stringBytes (done : Bytes) : Bytes → Except Fault (Bytes × Bytes)
  | [] => fail .endOfString []
  | b :: rest =>
    if b = 0x22 then .ok (done.reverse, rest)
    else if b = 0x5C then
      match rest with
      | [] => fail .endOfString []
      | letter :: rest =>
        match shortEscape? letter with
        | some octet => stringBytes (octet :: done) rest
        | none =>
          if letter ≠ 0x75 then fail .invalidEscape rest
          else
            match rest with
            | a :: b :: c :: d :: rest =>
              match unit? a b c d with
              | none => fail .invalidEscape rest
              | some unit =>
                if isTrailing unit then fail .loneSurrogate rest
                else if isLeading unit then
                  match rest with
                  | [] => fail .endOfString []
                  | [x] => if x = 0x5C then fail .endOfString [] else fail .endOfHexEscape []
                  | x :: y :: rest =>
                    if x ≠ 0x5C then fail .endOfHexEscape (y :: rest)
                    else if y ≠ 0x75 then fail .endOfHexEscape rest
                    else
                      match rest with
                      | a :: b :: c :: d :: rest =>
                        match unit? a b c d with
                        | none => fail .invalidEscape rest
                        | some second =>
                          if isTrailing second then
                            let codePoint := (unit - 0xD800) * 0x400 + (second - 0xDC00) + 0x10000
                            stringBytes (push codePoint done) rest
                          else fail .loneSurrogate rest
                      | _ => fail .endOfString []
                else stringBytes (push unit done) rest
            | _ => fail .endOfString []
    else if b < 0x20 then fail .controlCharacter rest
    else stringBytes (b :: done) rest

/-- A string behind its opening quote. Octets that are no text are reported as far before the
closing quote as the first of them stands before the end of the decoded octets. -/
def string (input : Bytes) : Except Fault (String × Bytes) :=
  match stringBytes [] input with
  | .error fault => .error fault
  | .ok (octets, rest) =>
    match Text.ofBytes? octets with
    | some s => .ok (s, rest)
    | none =>
      let valid := ((Text.Flaw.first? octets).map (·.offset)).getD 0
      .error ⟨.invalidCodePoint, rest.length + (octets.length - valid)⟩

/-- Passes over a string behind its opening quote. -/
def skipString : Bytes → Except Fault Bytes
  | [] => fail .endOfString []
  | b :: rest =>
    if b = 0x22 then .ok rest
    else if b = 0x5C then
      match rest with
      | [] => fail .endOfString []
      | letter :: rest =>
        if (shortEscape? letter).isSome then skipString rest
        else if letter ≠ 0x75 then fail .invalidEscape rest
        else
          match rest with
          | a :: b :: c :: d :: rest =>
            if (unit? a b c d).isSome then skipString rest else fail .invalidEscape rest
          | _ => fail .endOfString []
    else if b < 0x20 then fail .controlCharacter (b :: rest)
    else skipString rest

/-- What comes next inside a list. -/
def hasElement (first : Bool) (input : Bytes) : Except Fault (Bool × Bytes) :=
  match skipBlanks input with
  | [] => failNext .endOfList []
  | b :: rest =>
    if b = 0x5D then .ok (false, b :: rest)
    else if first then .ok (true, b :: rest)
    else if b = 0x2C then
      match skipBlanks rest with
      | [] => failNext .endOfValue []
      | b :: rest =>
        if b = 0x5D then failNext .trailingComma (b :: rest) else .ok (true, b :: rest)
    else failNext .expectedListCommaOrEnd (b :: rest)

/-- What comes next inside an object: whether there is a name, and the octets behind its opening
quote or before the closing brace. -/
def hasName (first : Bool) (input : Bytes) : Except Fault (Bool × Bytes) :=
  match skipBlanks input with
  | [] => failNext .endOfObject []
  | b :: rest =>
    if b = 0x7D then .ok (false, b :: rest)
    else if first then
      if b = 0x22 then .ok (true, rest) else failNext .nameNotString (b :: rest)
    else if b = 0x2C then
      match skipBlanks rest with
      | [] => failNext .endOfValue []
      | b :: rest =>
        if b = 0x22 then .ok (true, rest)
        else if b = 0x7D then failNext .trailingComma (b :: rest)
        else failNext .nameNotString (b :: rest)
    else failNext .expectedObjectCommaOrEnd (b :: rest)

def colon (input : Bytes) : Except Fault Bytes :=
  match skipBlanks input with
  | [] => failNext .endOfObject []
  | b :: rest => if b = 0x3A then .ok rest else failNext .expectedColon (b :: rest)

/-- The end of a list that was left early or read to its end. -/
def endOfList (input : Bytes) : Except Fault Bytes :=
  match skipBlanks input with
  | [] => failNext .endOfList []
  | b :: rest =>
    if b = 0x5D then .ok rest
    else if b = 0x2C then
      match skipBlanks rest with
      | 0x5D :: rest => failNext .trailingComma (0x5D :: rest)
      | rest => failNext .trailingCharacters rest
    else failNext .trailingCharacters (b :: rest)

/-- The end of an object that was left early or read to its end. -/
def endOfObject (input : Bytes) : Except Fault Bytes :=
  match skipBlanks input with
  | [] => failNext .endOfObject []
  | b :: rest =>
    if b = 0x7D then .ok rest
    else if b = 0x2C then failNext .trailingComma (b :: rest)
    else failNext .trailingCharacters (b :: rest)

mutual

/-- A value, with `depth` levels of nesting left. `fuel` bounds the calls. -/
def value (fuel depth : Nat) (input : Bytes) : Except Fault (Value × Bytes) :=
  match fuel with
  | 0 => fail .nestingTooDeep input
  | fuel + 1 =>
    match skipBlanks input with
    | [] => failNext .endOfValue []
    | b :: rest =>
      if b = 0x6E then (word wordNull rest).map fun rest => (.null, rest)
      else if b = 0x74 then (word wordTrue rest).map fun rest => (.boolean true, rest)
      else if b = 0x66 then (word wordFalse rest).map fun rest => (.boolean false, rest)
      else if b = 0x2D then
        (Numeral.unsigned true rest).map fun (n, rest) => (.number n, rest)
      else if (digit? b).isSome then
        (Numeral.unsigned false (b :: rest)).map fun (n, rest) => (.number n, rest)
      else if b = 0x22 then (string rest).map fun (s, rest) => (.string s, rest)
      else if b = 0x5B then
        match depth with
        | 0 | 1 => failNext .nestingTooDeep (b :: rest)
        | depth + 1 => elements fuel depth true [] rest
      else if b = 0x7B then
        match depth with
        | 0 | 1 => failNext .nestingTooDeep (b :: rest)
        | depth + 1 => members fuel depth true [] rest
      else failNext .expectedValue (b :: rest)

/-- The elements of a list behind its opening bracket; `done` holds them so far, last one first. -/
def elements (fuel depth : Nat) (first : Bool) (done : List Value) (input : Bytes) :
    Except Fault (Value × Bytes) :=
  match fuel with
  | 0 => fail .nestingTooDeep input
  | fuel + 1 =>
    match hasElement first input with
    | .error fault => .error fault
    | .ok (false, rest) => (endOfList rest).map fun rest => (.array done.reverse, rest)
    | .ok (true, rest) =>
      match value fuel depth rest with
      | .error fault => .error fault
      | .ok (v, rest) => elements fuel depth false (v :: done) rest

/-- The members of an object behind its opening brace. -/
def members (fuel depth : Nat) (first : Bool) (done : Members) (input : Bytes) :
    Except Fault (Value × Bytes) :=
  match fuel with
  | 0 => fail .nestingTooDeep input
  | fuel + 1 =>
    match hasName first input with
    | .error fault => .error fault
    | .ok (false, rest) => (endOfObject rest).map fun rest => (.object done, rest)
    | .ok (true, rest) =>
      match string rest with
      | .error fault => .error fault
      | .ok (name, rest) =>
        match colon rest with
        | .error fault => .error fault
        | .ok rest =>
          match value fuel depth rest with
          | .error fault => .error fault
          | .ok (v, rest) => members fuel depth false (done.put name v) rest

end

/-- An open list or object around a value that is passed over. -/
inductive Frame
  | list
  | object
deriving DecidableEq

/-- Closes what ends here and finds the next value: the frames still open around it, or `none` when
the value that is passed over is complete. -/
def skipAfter (fuel : Nat) (comma : Bool) (open_ : List Frame) (input : Bytes) :
    Except Fault (Option (List Frame) × Bytes) :=
  match fuel, open_ with
  | 0, _ => fail .nestingTooDeep input
  | _, [] => .ok (none, input)
  | fuel + 1, frame :: outer =>
    let next (rest : Bytes) : Except Fault (Option (List Frame) × Bytes) :=
      match frame with
      | .list => .ok (some (frame :: outer), rest)
      | .object =>
        match skipBlanks rest with
        | [] => failNext .endOfObject []
        | b :: rest =>
          if b ≠ 0x22 then failNext .nameNotString (b :: rest)
          else
            match skipString rest with
            | .error fault => .error fault
            | .ok rest =>
              match colon rest with
              | .error fault => .error fault
              | .ok rest => .ok (some (frame :: outer), rest)
    match skipBlanks input with
    | [] => failNext (if frame = .list then .endOfList else .endOfObject) []
    | b :: rest =>
      if b = 0x2C && comma then next rest
      else if (b = 0x5D && frame = .list) || (b = 0x7D && frame = .object) then
        skipAfter fuel true outer rest
      else if comma then
        failNext (if frame = .list then .expectedListCommaOrEnd else .expectedObjectCommaOrEnd)
          (b :: rest)
      else next (b :: rest)

/-- Passes over a value inside the frames `open_`. -/
def skipValue (fuel : Nat) (open_ : List Frame) (input : Bytes) : Except Fault Bytes :=
  match fuel with
  | 0 => fail .nestingTooDeep input
  | fuel + 1 =>
    let after (comma : Bool) (open_ : List Frame) (rest : Bytes) : Except Fault Bytes :=
      match skipAfter (fuel + 1) comma open_ rest with
      | .error fault => .error fault
      | .ok (none, rest) => .ok rest
      | .ok (some open_, rest) => skipValue fuel open_ rest
    match skipBlanks input with
    | [] => failNext .endOfValue []
    | b :: rest =>
      if b = 0x6E then word wordNull rest >>= after true open_
      else if b = 0x74 then word wordTrue rest >>= after true open_
      else if b = 0x66 then word wordFalse rest >>= after true open_
      else if b = 0x2D then Numeral.skipUnsigned rest >>= after true open_
      else if (digit? b).isSome then Numeral.skipUnsigned (b :: rest) >>= after true open_
      else if b = 0x22 then skipString rest >>= after true open_
      else if b = 0x5B then after false (.list :: open_) rest
      else if b = 0x7B then after false (.object :: open_) rest
      else failNext .expectedValue (b :: rest)

/-- Enough calls for every text of this length. -/
def fuelFor (input : Bytes) : Nat := 2 * input.length + 2

/-- How deep values may nest, plus one. -/
def depthLimit : Nat := 128

/-- Nothing but blanks may follow. -/
def finish {α : Type} (result : α × Bytes) : Except Fault α :=
  match skipBlanks result.2 with
  | [] => .ok result.1
  | b :: rest => failNext .trailingCharacters (b :: rest)

end Read

/-- The value that a whole text stands for. -/
def Value.ofBytes (input : Bytes) : Except Fault Value :=
  Read.value (Read.fuelFor input) Read.depthLimit input >>= Read.finish

end BulkIngest.Json
