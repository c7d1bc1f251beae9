import BulkIngest.Text.Bytes
import BulkIngest.Toml.Literal
import BulkIngest.Toml.Tables

/-!
TOML documents. A document is a list of headers and assignments, each on lines of its own; an
assignment belongs to the table of the last header.
-/

namespace BulkIngest.Toml

/-- A path to a name. -/
structure Key where
  path : List String
  name : String

inductive Statement
  | header (key : Key)
  | listHeader (key : Key)
  | assignment (key : Key) (v : Setting)

/-- More than the number of steps that a key may have, and of lists and tables that may be open. -/
def depthLimit : Nat := 80

namespace Read

def isBlank (c : Char) : Bool := c = ' ' || c = '\t'

def skipBlanks (cs : List Char) : List Char := cs.dropWhile isBlank

/-- Passes over blanks, line ends and comments. -/
def skipLines (inComment : Bool) : List Char → List Char
  | [] => []
  | c :: rest =>
    if inComment then skipLines (c ≠ '\n') rest
    else if isBlank c || c = '\n' then skipLines false rest
    else if c = '#' then skipLines true rest
    else c :: rest

/-- The end of a line, behind which the next line starts. -/
def endOfLine (cs : List Char) : Option (List Char) :=
  let rest := skipBlanks cs
  let rest := if rest.head? = some '#' then rest.dropWhile (· ≠ '\n') else rest
  match rest with
  | [] => some []
  | '\n' :: rest => some rest
  | _ => none

def isBareCharacter (c : Char) : Bool := c.isAlphanum || c = '_' || c = '-'

def step : Reader String
  | '"' :: rest => Literal.doubleQuoted rest
  | '\'' :: rest => Literal.singleQuoted rest
  | cs =>
    let bare := cs.takeWhile isBareCharacter
    if bare.isEmpty then none else some (String.ofList bare, cs.drop bare.length)

/-- The steps of a key with the blanks around them, at most `fuel` of them. -/
def steps : Nat → Reader (List String)
  | 0, _ => none
  | fuel + 1, cs => do
    let (name, rest) ← step (skipBlanks cs)
    match skipBlanks rest with
    | '.' :: rest =>
      let (path, rest) ← steps fuel rest
      return (name :: path, rest)
    | rest => return ([name], rest)

def key : Reader Key := fun cs => do
  let (steps, rest) ← steps (depthLimit - 1) cs
  let name ← steps.getLast?
  return (⟨steps.dropLast, name⟩, rest)

/-- The elements of a list up to its closing bracket; a comma may stand after the last one. -/
def elements (value : Reader Setting) (done : List Setting) : Nat → Reader (List Setting)
  | 0, _ => none
  | fuel + 1, cs =>
    match skipLines false cs with
    | ']' :: rest => some (done.reverse, rest)
    | cs =>
      match value cs with
      | none => none
      | some (v, rest) =>
        match skipLines false rest with
        | ',' :: rest => elements value (v :: done) fuel rest
        | ']' :: rest => some ((v :: done).reverse, rest)
        | _ => none

/-- A key, its value and the blanks behind it. -/
def assignment (value : Reader Setting) : Reader (Key × Setting) := fun cs => do
  let (key, rest) ← key cs
  match rest with
  | '=' :: rest =>
    let (v, rest) ← value (skipBlanks rest)
    return ((key, v), skipBlanks rest)
  | _ => none

/-- The assignments of a table in place, the first of which comes next. -/
def members (value : Reader Setting) (table : Table) : Nat → Reader Table
  | 0, _ => none
  | fuel + 1, cs => do
    let ((key, v), rest) ← assignment value cs
    let table ← table.assign? key.path key.name v
    match rest with
    | ',' :: rest => members value table fuel rest
    | '\x7d' :: rest => return (table, rest)
    | _ => none

/-- A value in which at most `depth` lists and tables are open at once. -/
def value : Nat → Reader Setting
  | 0, cs => Literal.read cs
  | depth + 1, cs =>
    match cs with
    | '[' :: rest =>
      (elements (value depth) [] (rest.length + 1) rest).map fun (vs, rest) =>
        (.list .file vs, rest)
    | '\x7b' :: rest =>
      match skipBlanks rest with
      | '\x7d' :: rest => some (.table .file [], rest)
      | rest =>
        (members (value depth) .empty (rest.length + 1) rest).map fun (table, rest) =>
          (.table .file (Node.settings table.entries), rest)
    | _ => Literal.read cs

/-- What stands on a line, without its end. -/
def statement : Reader Statement
  | '[' :: '[' :: rest => do
    let (key, rest) ← key rest
    match rest with
    | ']' :: ']' :: rest => return (.listHeader key, rest)
    | _ => none
  | '[' :: rest => do
    let (key, rest) ← key rest
    match rest with
    | ']' :: rest => return (.header key, rest)
    | _ => none
  | cs => (assignment (value (depthLimit - 1)) cs).map fun ((key, v), rest) =>
      (.assignment key v, rest)

def statements (done : List Statement) : Nat → List Char → Option (List Statement)
  | 0, _ => none
  | fuel + 1, cs =>
    match skipLines false cs with
    | [] => some done.reverse
    | cs =>
      match statement cs with
      | none => none
      | some (s, rest) =>
        match endOfLine rest with
        | none => none
        | some rest => statements (s :: done) fuel rest

/-- Line ends as single characters, if nothing else has a carriage return. -/
def unifyLines? : List Char → Option (List Char)
  | [] => some []
  | '\r' :: '\n' :: rest => (unifyLines? rest).map ('\n' :: ·)
  | '\r' :: _ => none
  | c :: rest => (unifyLines? rest).map (c :: ·)

def isAllowed (c : Char) : Bool := c = '\t' || c = '\n' || (0x20 ≤ c.toNat && c.toNat ≠ 0x7F)

end Read

/-- A document up to some statement: all tables, and the one that assignments belong to. -/
structure Document where
  root : Table
  /-- The path of the last header. -/
  current : List String

namespace Document

def empty : Document := ⟨.empty, []⟩

def add? (document : Document) : Statement → Option Document
  | .header key =>
    (document.root.declare? key.path key.name).map fun root => ⟨root, key.path ++ [key.name]⟩
  | .listHeader key =>
    (document.root.extend? key.path key.name).map fun root => ⟨root, key.path ++ [key.name]⟩
  | .assignment key v =>
    (document.root.changeAt? .implied (Table.assign? key.path key.name v) document.current).map
      fun root => { document with root }

/-- The text behind a mark of its encoding. -/
def unmarked (cs : List Char) : List Char :=
  match cs with
  | '\uFEFF' :: rest => rest
  | _ => cs

/-- The settings that a text stands for, if it is a document. -/
def settings? (text : String) : Option (Entries Setting) := do
  let cs ← Read.unifyLines? (unmarked text.toList)
  if !cs.all Read.isAllowed then none
  let statements ← Read.statements [] (cs.length + 1) cs
  let document ← statements.foldlM add? empty
  return Node.settings document.root.entries

end Document

end BulkIngest.Toml
