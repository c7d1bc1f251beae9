import BulkIngest.Settings.Setting
import BulkIngest.Text.Blank
import BulkIngest.Text.Bytes
import BulkIngest.Text.Cut
import BulkIngest.Text.Escape

/-!
Settings from variables of the environment. The name of a variable, without its mark in front and in
any case, is a path whose steps are divided by a double underscore. Its content is one value in a
short notation; what is not in that notation is text.
-/

namespace BulkIngest

/-- Variables with their contents, in order. -/
abbrev Environment := List (String × String)

namespace Environment

/-- Sets a variable; one that is set already keeps its place. -/
def set (environment : Environment) (name content : String) : Environment :=
  if environment.any (·.1 = name) then
    environment.map fun entry => if entry.1 = name then (name, content) else entry
  else environment ++ [(name, content)]

/-- The variables of a block of octets in which a zero ends each of them. -/
def ofBlock (block : Bytes) : Environment :=
  (block.splitOn 0).filterMap fun octets =>
    (Text.ofBytes? octets).bind fun text =>
      match text.splitOn "=" with
      | name :: first :: more => some (name, "=".intercalate (first :: more))
      | _ => none

def isBlank (c : Char) : Bool := c = ' ' || c = '\t' || c = '\n' || c = '\x0c' || c = '\r'

def isSeparator (c : Char) : Bool := c = ',' || c = '\x7b' || c = '\x7d' || c = '[' || c = ']'

def isNameCharacter (c : Char) : Bool := c.isAlphanum || c = '_' || c = '-'

def skipBlanks (cs : List Char) : List Char := cs.dropWhile isBlank

/-- What keeps characters from being read as a value. -/
inductive Misfit
  | notThisNotation
  | cut (fault : Text.CutFault)
deriving DecidableEq

abbrev Reader (α : Type) := List Char → Except Misfit (α × List Char)

def misfit {α : Type} : Except Misfit α := .error .notThisNotation

def isControl (c : Char) : Bool := (c.toNat < 0x20 && c ≠ '\t') || c.toNat = 0x7F

/-- What quoted characters stand for. Of those before the first backslash as many octets are kept as
there are characters. -/
def meaning (inner : List Char) : Except Misfit String :=
  let plain := inner.takeWhile (· ≠ '\\')
  let escaped := inner.drop plain.length
  if plain.any isControl then misfit
  else if escaped.isEmpty then .ok (String.ofList plain)
  else
    match Text.cut plain.length plain, Text.unescaped? false escaped with
    | .error fault, _ => .error (.cut fault)
    | .ok kept, some meant =>
      if escaped.any isControl then misfit else .ok (String.ofList (kept ++ meant))
    | .ok _, none => misfit

/-- A string behind its opening quote. -/
def quotedText : Reader String := fun cs =>
  match Text.quotedPart false [] cs with
  | some (inner, rest) => (meaning inner).map fun meant => (meant, rest)
  | none => misfit

/-- The value of text that has no quotes around it. -/
def plainValue (cs : List Char) : Scalar :=
  let float? : Option Extended :=
    if cs.contains '.' then (SignedDecimal.ofChars? cs).map (·.value) else none
  let whole? : Option Scalar :=
    let (negative, digits) := SignedDecimal.unsigned cs
    let n := SignedDecimal.natOfDigits digits
    if digits.isEmpty || !digits.all (·.isDigit) then none
    else if cs.head? ≠ some '-' ∧ n < UInt64.size then some (.unsigned (UInt64.ofNat n))
    else if negative ∧ n ≤ 9223372036854775808 then some (.signed (Int64.ofInt (-n)))
    else none
  match float?, whole? with
  | some x, _ => .float x
  | none, some n => n
  | none, none => .text (String.ofList cs)

def scalar (s : Scalar) : Setting := .scalar .environment s

/-- Items up to the closing bracket; a separator may stand after the last one. -/
def items {α : Type} (item : Reader α) (close : Char) (done : List α) : Nat → Reader (List α)
  | 0, _ => misfit
  | fuel + 1, cs =>
    if cs.head? = some close then .ok (done.reverse, cs.tail)
    else
      match item cs with
      | .error misfit => .error misfit
      | .ok (a, ',' :: rest) => items item close (a :: done) fuel rest
      | .ok (a, c :: rest) => if c = close then .ok ((a :: done).reverse, rest) else misfit
      | .ok (_, []) => misfit

def entryName : Reader String := fun cs =>
  match cs with
  | '"' :: rest => quotedText rest
  | _ =>
    let name := cs.takeWhile isNameCharacter
    if name.isEmpty then misfit else .ok (String.ofList name, cs.drop name.length)

/-- A name and its value. -/
def entry (value : Reader Setting) : Reader (String × Setting) := fun cs => do
  let (name, rest) ← entryName (skipBlanks cs)
  match skipBlanks rest with
  | '=' :: rest =>
    let (v, rest) ← value rest
    return ((name, v), rest)
  | _ => misfit

/-- A value with the blanks around it. `fuel` bounds how deep its lists and tables nest. -/
def value : Nat → Reader Setting
  | 0, _ => misfit
  | fuel + 1, cs =>
    let read : Except Misfit (Setting × List Char) :=
      match skipBlanks cs with
      | 't' :: 'r' :: 'u' :: 'e' :: rest => .ok (scalar (.boolean true), rest)
      | 'f' :: 'a' :: 'l' :: 's' :: 'e' :: rest => .ok (scalar (.boolean false), rest)
      | '\x7b' :: rest =>
        (items (entry (value fuel)) '\x7d' [] (rest.length + 1) rest).map fun (entries, rest) =>
          (.table .environment (Entries.ofList entries), rest)
      | '[' :: rest =>
        (items (value fuel) ']' [] (rest.length + 1) rest).map fun (elements, rest) =>
          (.list .environment elements, rest)
      | '"' :: rest => (quotedText rest).map fun (s, rest) => (scalar (.text s), rest)
      | '\'' :: c :: '\'' :: rest => .ok (scalar (.character c), rest)
      | '\'' :: _ => misfit
      | cs =>
        let plain := cs.takeWhile fun c => !isSeparator c
        .ok (scalar (plainValue (Text.trimmedList plain)), cs.drop plain.length)
    read.map fun (v, rest) => (v, skipBlanks rest)

/-- What the content of a variable stands for. -/
def setting (content : String) : Except Text.CutFault Setting :=
  match value (content.length + 1) content.toList with
  | .ok (v, []) => .ok v
  | .error (.cut fault) => .error fault
  | .ok _ | .error .notThisNotation => .ok (scalar (.text content))

/-- A value at the end of a path. -/
def nested (v : Setting) : List String → Setting
  | [] => v
  | name :: path => .table .environment [(name, nested v path)]

/-- What stands in front of the names of all variables that are settings. -/
def mark : String := "SHOVEL_"

def lowered (s : String) : String := String.ofList (s.toList.map (·.toLower))

/-- The path that a variable names, if it is a setting. No step of it is empty. -/
def path? (name : String) : Option (List String) :=
  let name := lowered (Text.trimmed name)
  let mark := lowered mark
  if name.startsWith mark then
    let rest := Text.trimmedList (name.toList.drop mark.length)
    let path := ((String.ofList rest).replace "__" ".").splitOn "."
    if path.contains "" then none else some path
  else none

/-- All settings among the variables; those that come later lie over the others. -/
def settings (environment : Environment) : Except Text.CutFault (Entries Setting) :=
  environment.foldlM
    (fun entries (name, content) =>
      match path? name with
      | none => .ok entries
      | some path =>
        (setting content).map fun v =>
          match nested v path with
          | .table _ more => Setting.overlayAll entries more
          | _ => entries)
    []

end Environment

end BulkIngest
