/-!
Escapes in quoted settings: a backslash and a letter, or a backslash, a `u` and the number of a
character in four or eight hexadecimal digits. Where lines may be broken, a backslash at the end of
a line takes all blanks up to the next line with text.
-/

namespace BulkIngest.Text

/-- What has been read of an escape. -/
inductive Escape
  | outside
  | opened
  | digits (missing : Nat) (value : Nat)
  | fold (lineEnded : Bool)
deriving DecidableEq

namespace Escape

def hexDigit? (c : Char) : Option Nat :=
  if '0' ≤ c ∧ c ≤ '9' then some (c.toNat - '0'.toNat)
  else if 'a' ≤ c ∧ c ≤ 'f' then some (c.toNat - 'a'.toNat + 10)
  else if 'A' ≤ c ∧ c ≤ 'F' then some (c.toNat - 'A'.toNat + 10)
  else none

def ofLetter? (c : Char) : Option Char :=
  [('b', '\x08'), ('t', '\t'), ('n', '\n'), ('f', '\x0c'), ('r', '\r'), ('"', '"'),
    ('\\', '\\')].lookup c

def character? (code : Nat) : Option Char :=
  if h : code.isValidChar then some (Char.ofNatAux code h) else none

def isFoldable (c : Char) : Bool := c = ' ' || c = '\t' || c = '\n'

/-- Reads one more character; `done` is what the characters so far stand for, last first. -/
def step (foldsLines : Bool) (state : Escape × List Char) (c : Char) :
    Option (Escape × List Char) :=
  let (escape, done) := state
  let plain := if c = '\\' then (.opened, done) else (.outside, c :: done)
  match escape with
  | .outside => some plain
  | .opened =>
    if foldsLines && isFoldable c then some (.fold (c = '\n'), done)
    else if c = 'u' then some (.digits 4 0, done)
    else if c = 'U' then some (.digits 8 0, done)
    else (ofLetter? c).map fun meant => (.outside, meant :: done)
  | .digits missing value =>
    match hexDigit? c with
    | none => none
    | some digit =>
      if missing = 1 then
        (character? (value * 16 + digit)).map fun meant => (.outside, meant :: done)
      else some (.digits (missing - 1) (value * 16 + digit), done)
  | .fold lineEnded =>
    if isFoldable c then some (.fold (lineEnded || c = '\n'), done)
    else if lineEnded then some plain
    else none

def isComplete : Escape → Bool
  | .outside => true
  | .fold lineEnded => lineEnded
  | .opened | .digits .. => false

end Escape

/-- What quoted characters stand for, or `none` if an escape among them has no meaning. -/
def unescaped? (foldsLines : Bool) (cs : List Char) : Option (List Char) :=
  match cs.foldlM (Escape.step foldsLines) (.outside, []) with
  | some (escape, done) => if escape.isComplete then some done.reverse else none
  | none => none

/-- The characters up to a quote that no backslash stands before, and what follows that quote. -/
def quotedPart (escaped : Bool) (done : List Char) : List Char → Option (List Char × List Char)
  | [] => none
  | c :: rest =>
    if escaped then quotedPart false (c :: done) rest
    else if c = '"' then some (done.reverse, rest)
    else quotedPart (c = '\\') (c :: done) rest

end BulkIngest.Text
