import BulkIngest.Settings.Setting

/-!
The tables of a TOML document while it is read. A table is written out once, by a header or in
place. A table that only a header further inside spoke of may still get its own header, one that
came from dotted keys may get more of them, and a name is given to one value only.
-/

namespace BulkIngest.Toml

/-- How a table came to be. -/
inductive TableKind
  /-- By a header of its own. -/
  | written
  /-- On the way to another header. -/
  | implied
  /-- On the way of a dotted key. -/
  | dotted
deriving DecidableEq

inductive Node
  | value (v : Setting)
  | table (kind : TableKind) (entries : List (String × Node))
  /-- A list of tables, the last one first. -/
  | tables (elements : List (List (String × Node)))

structure Table where
  kind : TableKind
  entries : Entries Node

namespace Table

def empty : Table := ⟨.written, []⟩

def put (table : Table) (name : String) (node : Node) : Table :=
  { table with entries := table.entries.put name node }

/-- Changes the table at the end of a path and makes the tables on the way that are missing. A list
of tables stands for its last one. -/
def changeAt? (made : TableKind) (change : Table → Option Table) :
    List String → Table → Option Table
  | [], table => change table
  | name :: path, table => do
    let node ←
      match table.entries.get? name with
      | none => (changeAt? made change path ⟨made, []⟩).map fun t => .table t.kind t.entries
      | some (.table kind entries) =>
        if made = .dotted ∧ kind = .written then none
        else (changeAt? made change path ⟨kind, entries⟩).map fun t => .table t.kind t.entries
      | some (.tables (last :: before)) =>
        (changeAt? made change path ⟨.written, last⟩).map fun t => .tables (t.entries :: before)
      | some (.tables []) | some (.value _) => none
    return table.put name node

/-- The header of a table. -/
def declare? (path : List String) (name : String) : Table → Option Table :=
  changeAt? .implied
    (fun table =>
      match table.entries.get? name with
      | none => some (table.put name (.table .written []))
      | some (.table .implied entries) => some (table.put name (.table .written entries))
      | some _ => none)
    path

/-- The header of one more table in a list of tables. -/
def extend? (path : List String) (name : String) : Table → Option Table :=
  changeAt? .implied
    (fun table =>
      match table.entries.get? name with
      | none => some (table.put name (.tables [[]]))
      | some (.tables elements) => some (table.put name (.tables ([] :: elements)))
      | some _ => none)
    path

/-- Gives a value to a name behind the dotted path `path`. -/
def assign? (path : List String) (name : String) (v : Setting) : Table → Option Table :=
  changeAt? .dotted
    (fun table =>
      let isDotted : Bool := table.kind = .dotted
      if isDotted = path.isEmpty then none
      else
        match table.entries.get? name with
        | none => some (table.put name (.value v))
        | some _ => none)
    path

end Table

namespace Node

mutual

def setting : Node → Setting
  | .value v => v
  | .table _ entries => .table .file (settings entries)
  | .tables elements => .list .file (listed elements).reverse

def settings : List (String × Node) → List (String × Setting)
  | [] => []
  | (name, node) :: rest => (name, setting node) :: settings rest

def listed : List (List (String × Node)) → List Setting
  | [] => []
  | entries :: rest => .table .file (settings entries) :: listed rest

end

end Node

end BulkIngest.Toml
