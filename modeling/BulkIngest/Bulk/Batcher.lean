import BulkIngest.Bulk.Batch

/-!
Gathering items until a bound says that a batch is full. A batch that reaches the count bound leaves
at once; an item that would pass the byte bound closes the batch before it and opens the next one,
so that only an item which is too large by itself travels in a batch above the bound.
-/

namespace BulkIngest

structure Batcher where
  maxCount : Nat
  maxBytes : Nat
  pending : List BulkItem
  pendingBytes : Nat
  /-- The number of the batch that was handed over last. -/
  sequence : Nat
deriving DecidableEq

namespace Batcher

/-- A bound of zero counts as one. -/
def empty (maxCount maxBytes : Nat) : Batcher := ⟨max maxCount 1, max maxBytes 1, [], 0, 0⟩

def append (batcher : Batcher) (item : BulkItem) : Batcher :=
  { batcher with
    pending := batcher.pending ++ [item]
    pendingBytes := batcher.pendingBytes + item.encodedLength }

/-- Hands over what is pending, if anything is. -/
def flush (batcher : Batcher) : Option Batch × Batcher :=
  if batcher.pending.isEmpty then (none, batcher)
  else
    (some ⟨batcher.sequence + 1, batcher.pending, batcher.pendingBytes⟩,
      { batcher with pending := [], pendingBytes := 0, sequence := batcher.sequence + 1 })

/-- Takes an item, and hands over a batch when a bound is reached. -/
def push (batcher : Batcher) (item : BulkItem) : Option Batch × Batcher :=
  if !batcher.pending.isEmpty && batcher.maxBytes < batcher.pendingBytes + item.encodedLength then
    let (batch, rest) := batcher.flush
    (batch, rest.append item)
  else
    let batcher := batcher.append item
    if batcher.maxCount ≤ batcher.pending.length then batcher.flush else (none, batcher)

end Batcher

end BulkIngest
