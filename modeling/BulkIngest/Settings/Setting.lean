import BulkIngest.Entries
import BulkIngest.Json.Value
import BulkIngest.Number.Extended

/-!
Settings as they were written: single values, lists and tables, each with where it was written. Two
layers of settings become one: tables are merged name by name, and of anything else the later one
stays.
-/

namespace BulkIngest

inductive Origin
  | environment
  | file
deriving DecidableEq

inductive Scalar
  | text (s : String)
  | character (c : Char)
  | boolean (b : Bool)
  | signed (n : Int64)
  | unsigned (n : UInt64)
  | float (x : Extended)
deriving DecidableEq

/-- The finite numbers among the JSON values; there is no number for the others. -/
def Scalar.json : Scalar → Json.Value
  | .text s => .string s
  | .character c => .string c.toString
  | .boolean b => .boolean b
  | .signed n =>
    .number (.whole ⟨n.toInt, by have := n.le_toInt; omega, by have := n.toInt_lt; omega⟩)
  | .unsigned n => .number (.whole ⟨n.toNat, by omega, by have := n.toNat_lt; omega⟩)
  | .float (.finite x) => .number (.float x)
  | .float (.infinite _) | .float .undefined => .null

inductive Setting
  | scalar (origin : Origin) (s : Scalar)
  | list (origin : Origin) (elements : List Setting)
  | table (origin : Origin) (entries : List (String × Setting))

namespace Setting

def origin : Setting → Origin
  | .scalar origin _ | .list origin _ | .table origin _ => origin

mutual

/-- What is left of two layers of one setting. -/
def overlay (earlier : Setting) : Setting → Setting
  | .scalar origin s => .scalar origin s
  | .list origin elements => .list origin elements
  | .table origin entries =>
    match earlier with
    | .table _ base => .table origin (overlayAll base entries)
    | .scalar .. | .list .. => .table origin entries

def overlayAll (earlier : Entries Setting) : Entries Setting → Entries Setting
  | [] => earlier
  | (name, later) :: rest =>
    match earlier.get? name with
    | some before => overlayAll (earlier.put name (overlay before later)) rest
    | none => overlayAll (earlier.put name later) rest

end

mutual

def json : Setting → Json.Value
  | .scalar _ s => s.json
  | .list _ elements => .array (jsonOfList elements)
  | .table _ entries => .object (jsonOfEntries entries)

def jsonOfList : List Setting → List Json.Value
  | [] => []
  | v :: rest => json v :: jsonOfList rest

def jsonOfEntries : List (String × Setting) → List (String × Json.Value)
  | [] => []
  | (name, v) :: rest => (name, json v) :: jsonOfEntries rest

end

end Setting

end BulkIngest
