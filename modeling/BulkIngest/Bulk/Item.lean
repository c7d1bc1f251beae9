import BulkIngest.Json.Printer

/-!
A document that has been addressed and written once: an action line that says where it goes, and the
document itself, both compact JSON. `utf8ByteSize_ndjson`: the length of an item is that of the text
it adds to a request.
-/

namespace BulkIngest

/-- A record from a source: named values in ascending order of the names. -/
abbrev Document := Json.Members

/-- How a document is named in outcomes: its place in the order of pulls, and its id if it has
one. -/
structure DocumentRef where
  position : Nat
  key : Option String
deriving DecidableEq

def DocumentRef.text (ref : DocumentRef) : String :=
  match ref.key with
  | some key => s!"#{ref.position} ({key})"
  | none => s!"#{ref.position}"

/-- `index` overwrites what has the same id, `create` refuses to. -/
inductive BulkAction
  | index
  | create
deriving DecidableEq

def BulkAction.name : BulkAction → String
  | .index => "index"
  | .create => "create"

structure BulkItem where
  ref : DocumentRef
  action : BulkAction
  index : String
  routing : Option String
  actionLine : String
  source : String
deriving DecidableEq

namespace BulkItem

/-- The metadata of an action; what is not known is left out. -/
def metadata (ref : DocumentRef) (index : String) (routing : Option String) : Json.Members :=
  let key := ref.key.map fun key => ("_id", Json.Value.string key)
  let route := routing.map fun route => ("routing", Json.Value.string route)
  key.toList ++ [("_index", .string index)] ++ route.toList

def make (ref : DocumentRef) (action : BulkAction) (index : String) (routing : Option String)
    (body : Document) : BulkItem where
  ref
  action
  index
  routing
  actionLine := (Json.Value.object [(action.name, .object (metadata ref index routing))]).text
  source := (Json.Value.object body).text

/-- What the item adds to the body of a bulk request. -/
def ndjson (item : BulkItem) : String := item.actionLine ++ "\n" ++ item.source ++ "\n"

def encodedLength (item : BulkItem) : Nat :=
  item.actionLine.utf8ByteSize + item.source.utf8ByteSize + 2

theorem utf8ByteSize_ndjson (item : BulkItem) : item.ndjson.utf8ByteSize = item.encodedLength := by
  have h : ("\n" : String).utf8ByteSize = 1 := rfl
  simp only [ndjson, encodedLength, String.utf8ByteSize_append, h]
  omega

end BulkItem

end BulkIngest
