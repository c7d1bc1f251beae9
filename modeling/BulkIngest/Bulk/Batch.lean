import BulkIngest.Bulk.Item

/-!
An ordered group of items that travels as one bulk request.
-/

namespace BulkIngest

structure Batch where
  /-- Batches of a run count from one. -/
  sequence : Nat
  items : List BulkItem
  /-- The length of the request body. -/
  bytes : Nat
deriving DecidableEq

/-- The bytes that items add to a request body. -/
def encodedLength (items : List BulkItem) : Nat :=
  items.foldr (fun item length => item.encodedLength + length) 0

theorem encodedLength_append (items more : List BulkItem) :
    encodedLength (items ++ more) = encodedLength items + encodedLength more := by
  induction items with
  | nil => exact (Nat.zero_add _).symm
  | cons item rest ih =>
      simp only [encodedLength, List.cons_append, List.foldr_cons] at ih ⊢
      omega

theorem encodedLength_singleton (item : BulkItem) : encodedLength [item] = item.encodedLength := rfl

/-- The request body for items: two lines each. -/
def ndjson (items : List BulkItem) : String :=
  items.foldr (fun item body => item.ndjson ++ body) ""

theorem utf8ByteSize_ndjson (items : List BulkItem) :
    (ndjson items).utf8ByteSize = encodedLength items := by
  induction items with
  | nil => rfl
  | cons item rest ih =>
      simp only [ndjson, encodedLength, List.foldr_cons, String.utf8ByteSize_append,
        BulkItem.utf8ByteSize_ndjson] at ih ⊢
      omega

namespace Batch

def ofItems (sequence : Nat) (items : List BulkItem) : Batch :=
  ⟨sequence, items, BulkIngest.encodedLength items⟩

def size (batch : Batch) : Nat := batch.items.length

def refs (batch : Batch) : List DocumentRef := batch.items.map (·.ref)

def ndjson (batch : Batch) : String := BulkIngest.ndjson batch.items

end Batch

end BulkIngest
