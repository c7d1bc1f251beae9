import BulkIngest.Proofs.Batching.Handover
import Mathlib.Algebra.Ring.Nat

/-!
Any calls on a batcher, items and demands for the rest in any order. Each call hands over what it
should, so all of them together do: items stay as they came, in batches that are numbered from one
and weighed, or pending.
-/

namespace BulkIngest.Batcher

/-- What a batcher can be called for. -/
inductive Call
  | push (item : BulkItem)
  | flush

/-- The item that a call brings, if it brings one. -/
def Call.items : Call → List BulkItem
  | .push item => [item]
  | .flush => []

def answer (batcher : Batcher) : Call → Option Batch × Batcher
  | .push item => batcher.push item
  | .flush => batcher.flush

/-- The batches that come of some calls, and the batcher after them. -/
def run (batcher : Batcher) : List Call → List Batch × Batcher
  | [] => ([], batcher)
  | call :: rest =>
    let (batch, batcher) := batcher.answer call
    let (batches, batcher) := run batcher rest
    (batch.toList ++ batches, batcher)

/-- The batches that a batcher makes of items when nothing comes after them. -/
def cut (batcher : Batcher) : List BulkItem → List Batch
  | [] => batcher.flush.1.toList
  | item :: items => (batcher.push item).1.toList ++ (batcher.push item).2.cut items

variable {batcher : Batcher}

theorem run_append (batcher : Batcher) (calls more : List Call) :
    batcher.run (calls ++ more) = ((batcher.run calls).1 ++ ((batcher.run calls).2.run more).1,
      ((batcher.run calls).2.run more).2) := by
  induction calls generalizing batcher with
  | nil => rfl
  | cons call rest ih => simp only [List.cons_append, run, ih, List.append_assoc]

theorem handsOver_answer (batcher : Batcher) (call : Call) :
    HandsOver batcher call.items (batcher.answer call).1.toList (batcher.answer call).2 := by
  cases call with
  | push item => exact batcher.handsOver_push item
  | flush => exact batcher.handsOver_flush

theorem handsOver_run (batcher : Batcher) (calls : List Call) :
    HandsOver batcher (calls.flatMap (·.items)) (batcher.run calls).1 (batcher.run calls).2 := by
  induction calls generalizing batcher with
  | nil => exact .refl batcher
  | cons call rest ih => exact (batcher.handsOver_answer call).trans (ih _)

theorem encodedLength_eq_sum (items : List BulkItem) :
    encodedLength items = (items.map (·.encodedLength)).sum := by
  rw [encodedLength, List.sum_eq_foldr, List.foldr_map]

theorem weighed_empty (maxCount maxBytes : Nat) : (empty maxCount maxBytes).Weighed := rfl

/-- Whatever the bounds are and in whatever order the calls come, the items of all batches so far
and then the pending ones are the items that were given, in their order. The batches are numbered
from one, none is empty, and each is as long as its items and as the request that it makes; the byte
count is that of the pending items. When the rest was demanded last, nothing is pending. -/
theorem items_handed_over_once (maxCount maxBytes : Nat) (calls : List Call) :
    let batches := ((empty maxCount maxBytes).run calls).1
    let after := ((empty maxCount maxBytes).run calls).2
    batches.flatMap (·.items) ++ after.pending = calls.flatMap (·.items) ∧
      batches.map (·.sequence) = List.range' 1 batches.length ∧
      (∀ batch ∈ batches, batch.items ≠ [] ∧
        batch.bytes = (batch.items.map (·.encodedLength)).sum ∧
        batch.bytes = batch.ndjson.utf8ByteSize) ∧
      after.pendingBytes = (after.pending.map (·.encodedLength)).sum ∧
      ∀ earlier, calls = earlier ++ [.flush] → after.pending = [] := by
  intro batches after
  have hands := (empty maxCount maxBytes).handsOver_run calls
  have weighed := hands.weighed (weighed_empty maxCount maxBytes)
  refine ⟨hands.items, hands.numbered, ?_, ?_, ?_⟩
  · intro batch mem
    have bytes := weighed.2 batch mem
    refine ⟨hands.filled batch mem, ?_, ?_⟩
    · rw [bytes, encodedLength_eq_sum]
    · rw [bytes, Batch.ndjson, utf8ByteSize_ndjson]
  · rw [← encodedLength_eq_sum]
    exact weighed.1
  · rintro earlier rfl
    simp only [after, run_append]
    exact pending_flush _

end BulkIngest.Batcher
