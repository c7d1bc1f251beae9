import BulkIngest.Bulk.Batcher

/-!
What a batcher hands over and what it keeps: no item is lost, moved or doubled, batches count on
from the last one, and bytes go with the items they were counted for. Taking an item and handing
over the rest are the same kind of change here, and so is one such change after another
(`HandsOver.trans`).
-/

namespace BulkIngest.Batcher

variable {batcher middle after : Batcher} {new more : List BulkItem} {batches others : List Batch}

/-- The byte count is that of the pending items. -/
def Weighed (batcher : Batcher) : Prop := batcher.pendingBytes = encodedLength batcher.pending

/-- What comes of giving `new` items to a batcher: the batches that it hands over meanwhile, and the
batcher afterwards. -/
structure HandsOver (batcher : Batcher) (new : List BulkItem) (batches : List Batch)
    (after : Batcher) : Prop where
  items : batches.flatMap (·.items) ++ after.pending = batcher.pending ++ new
  numbered : batches.map (·.sequence) = List.range' (batcher.sequence + 1) batches.length
  sequence : after.sequence = batcher.sequence + batches.length
  filled : ∀ batch ∈ batches, batch.items ≠ []
  weighed : batcher.Weighed →
    after.Weighed ∧ ∀ batch ∈ batches, batch.bytes = encodedLength batch.items

theorem HandsOver.refl (batcher : Batcher) : HandsOver batcher [] [] batcher :=
  ⟨by simp, rfl, rfl, by simp, fun weighed => ⟨weighed, by simp⟩⟩

theorem HandsOver.trans (first : HandsOver batcher new batches middle)
    (second : HandsOver middle more others after) :
    HandsOver batcher (new ++ more) (batches ++ others) after where
  items := by
    rw [List.flatMap_append, List.append_assoc, second.items, ← List.append_assoc, first.items,
      List.append_assoc]
  numbered := by
    rw [List.map_append, first.numbered, second.numbered, first.sequence, List.length_append,
      ← List.range'_append_1, Nat.add_right_comm]
  sequence := by rw [second.sequence, first.sequence, List.length_append, Nat.add_assoc]
  filled := fun batch mem =>
    (List.mem_append.mp mem).elim (first.filled batch) (second.filled batch)
  weighed := by
    intro weighed
    have before := first.weighed weighed
    have behind := second.weighed before.1
    exact ⟨behind.1, fun batch mem =>
      (List.mem_append.mp mem).elim (before.2 batch) (behind.2 batch)⟩

theorem pending_flush (batcher : Batcher) : batcher.flush.2.pending = [] := by
  simp only [flush]
  split
  · exact List.isEmpty_iff.mp ‹_›
  · rfl

theorem handsOver_flush (batcher : Batcher) :
    HandsOver batcher [] batcher.flush.1.toList batcher.flush.2 := by
  simp only [flush]
  split
  · exact .refl batcher
  · rename_i idle
    have filled : batcher.pending ≠ [] := mt List.isEmpty_iff.mpr idle
    exact ⟨by simp, rfl, rfl, List.forall_mem_singleton.mpr filled, fun weighed =>
      ⟨rfl, List.forall_mem_singleton.mpr weighed⟩⟩

theorem handsOver_append (batcher : Batcher) (item : BulkItem) :
    HandsOver batcher [item] [] (batcher.append item) := by
  refine ⟨rfl, rfl, rfl, by simp, fun weighed => ⟨?_, by simp⟩⟩
  rw [Weighed] at weighed
  rw [Weighed, append, weighed, encodedLength_append, encodedLength_singleton]

/-- What the batch leaves is there before the item comes that closed it. -/
theorem handsOver_push (batcher : Batcher) (item : BulkItem) :
    HandsOver batcher [item] (batcher.push item).1.toList (batcher.push item).2 := by
  have closed := batcher.handsOver_flush.trans (batcher.flush.2.handsOver_append item)
  have filled := (batcher.handsOver_append item).trans (batcher.append item).handsOver_flush
  simp only [push]
  split
  · rwa [List.nil_append, List.append_nil] at closed
  · split
    · rwa [List.append_nil, List.nil_append] at filled
    · exact batcher.handsOver_append item

end BulkIngest.Batcher
