import BulkIngest.Json.Reader
import BulkIngest.Outcome

/-!
A search index in memory. `index` overwrites what has the same id, `create` refuses it, and a
document without an id gets a new one.
-/

namespace BulkIngest

/-- Where a document is stored: the name of its index, and its id. -/
abbrev StoredKey := String × String

structure MemorySink where
  /-- The text of every stored document, the latest first. -/
  stored : List (StoredKey × String)
  /-- The sizes of the requests so far, in order. -/
  batchSizes : List Nat
  generated : Nat
  closed : Bool
deriving DecidableEq

namespace MemorySink

def empty : MemorySink := ⟨[], [], 0, false⟩

def text? (sink : MemorySink) (key : StoredKey) : Option String := sink.stored.lookup key

def contains (sink : MemorySink) (key : StoredKey) : Bool := (sink.text? key).isSome

def document? (sink : MemorySink) (index id : String) : Option Json.Value :=
  match sink.text? (index, id) with
  | some text => (Json.Value.ofBytes (Text.bytes text)).toOption
  | none => none

/-- How many documents an index holds. -/
def count (sink : MemorySink) (index : String) : Nat := sink.stored.countP (·.1.1 = index)

def store (sink : MemorySink) (key : StoredKey) (text : String) : MemorySink :=
  { sink with stored := (key, text) :: sink.stored.filter (·.1 ≠ key) }

/-- The id of an item, a new one if it brings none. -/
def identify (sink : MemorySink) (item : BulkItem) : String × MemorySink :=
  match item.ref.key with
  | some key => (key, sink)
  | none => (s!"auto-{sink.generated + 1}", { sink with generated := sink.generated + 1 })

def conflict (id : String) : ItemStatus :=
  .rejected 409
    (s!"version_conflict_engine_exception: [{id}]: version conflict, " ++
      "document already exists")

def put (sink : MemorySink) (item : BulkItem) : ItemStatus × MemorySink :=
  let (id, sink) := sink.identify item
  if item.action = .create ∧ sink.contains (item.index, id) then (conflict id, sink)
  else (.accepted (some id), sink.store (item.index, id) item.source)

def putAll (sink : MemorySink) : List BulkItem → List ItemStatus × MemorySink
  | [] => ([], sink)
  | item :: rest =>
    let (status, sink) := sink.put item
    let (statuses, sink) := putAll sink rest
    (status :: statuses, sink)

def bulk (sink : MemorySink) (batch : Batch) : List ItemStatus × MemorySink :=
  putAll { sink with batchSizes := sink.batchSizes ++ [batch.size] } batch.items

def close (sink : MemorySink) : MemorySink := { sink with closed := true }

end MemorySink

end BulkIngest
