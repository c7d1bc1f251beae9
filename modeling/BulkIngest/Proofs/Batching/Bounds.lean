import BulkIngest.Proofs.Batching.Calls

/-!
How much a batcher keeps and hands over. Once it has handed over what is due it holds fewer items
than make a full batch, and no more bytes than the bound allows unless they are those of a single
item. So no batch has too many items, and only an item that is too large by itself makes a batch too
long.
-/

namespace BulkIngest.Batcher

variable {batcher middle after : Batcher} {batches others : List Batch}

/-- The pending items are within the bound on bytes, unless there is just one. -/
def Light (batcher : Batcher) : Prop :=
  batcher.pending.length ≤ 1 ∨ batcher.pendingBytes ≤ batcher.maxBytes

structure Roomy (batcher : Batcher) : Prop where
  count : batcher.pending.length < batcher.maxCount
  light : batcher.Light

theorem roomy_empty (maxCount maxBytes : Nat) : (empty maxCount maxBytes).Roomy :=
  ⟨Nat.lt_of_lt_of_le Nat.zero_lt_one (Nat.le_max_right _ _), .inl (Nat.zero_le 1)⟩

/-- A change to a batcher that had room for another item: it has so afterwards, and a batch that it
handed over is full at most and light. -/
structure KeepsBounds (batcher : Batcher) (batches : List Batch) (after : Batcher) : Prop where
  maxCount : after.maxCount = batcher.maxCount
  maxBytes : after.maxBytes = batcher.maxBytes
  room : after.Roomy
  size : ∀ batch ∈ batches, batch.size ≤ batcher.maxCount
  bytes : ∀ batch ∈ batches, batch.size ≤ 1 ∨ batch.bytes ≤ batcher.maxBytes

theorem KeepsBounds.refl (room : batcher.Roomy) : KeepsBounds batcher [] batcher :=
  ⟨rfl, rfl, room, by simp, by simp⟩

theorem KeepsBounds.trans (first : KeepsBounds batcher batches middle)
    (second : KeepsBounds middle others after) : KeepsBounds batcher (batches ++ others) after where
  maxCount := second.maxCount.trans first.maxCount
  maxBytes := second.maxBytes.trans first.maxBytes
  room := second.room
  size := by
    intro batch mem
    cases List.mem_append.mp mem with
    | inl mem => exact first.size batch mem
    | inr mem => exact first.maxCount ▸ second.size batch mem
  bytes := by
    intro batch mem
    cases List.mem_append.mp mem with
    | inl mem => exact first.bytes batch mem
    | inr mem => exact first.maxBytes ▸ second.bytes batch mem

theorem keepsBounds_flush_of_le (bounded : batcher.pending.length ≤ batcher.maxCount)
    (positive : 0 < batcher.maxCount) (light : batcher.Light) :
    KeepsBounds batcher batcher.flush.1.toList batcher.flush.2 := by
  simp only [flush]
  split
  · rename_i idle
    have count : batcher.pending.length < batcher.maxCount := by
      rwa [List.isEmpty_iff.mp idle]
    exact .refl ⟨count, light⟩
  · exact ⟨rfl, rfl, ⟨positive, .inl (Nat.zero_le 1)⟩, List.forall_mem_singleton.mpr bounded,
      List.forall_mem_singleton.mpr light⟩

theorem keepsBounds_flush (room : batcher.Roomy) :
    KeepsBounds batcher batcher.flush.1.toList batcher.flush.2 :=
  keepsBounds_flush_of_le (Nat.le_of_lt room.count) (Nat.zero_lt_of_lt room.count) room.light

/-- An item that does not pass the test on bytes beside what is pending is alone afterwards. -/
theorem keepsBounds_push (room : batcher.Roomy) (item : BulkItem) :
    KeepsBounds batcher (batcher.push item).1.toList (batcher.push item).2 := by
  have longer : (batcher.append item).pending.length = batcher.pending.length + 1 := by
    simp [append]
  simp only [push]
  split
  · -- what was pending is not nothing, so a full batch has room for the item beside it
    rename_i passed
    simp only [Bool.and_eq_true, Bool.not_eq_true', List.isEmpty_eq_false_iff] at passed
    have pos := List.length_pos_iff.mpr passed.1
    have count := room.count
    have flushed := keepsBounds_flush room
    have alone : (batcher.flush.2.append item).pending.length = 1 := by
      simp [append, pending_flush]
    refine ⟨flushed.maxCount, flushed.maxBytes, ⟨?_, .inl (Nat.le_of_eq alone)⟩, flushed.size,
      flushed.bytes⟩
    rw [alone]
    exact flushed.maxCount ▸ (by omega : 1 < batcher.maxCount)
  · rename_i passed
    have light : (batcher.append item).Light := by
      simp only [Bool.and_eq_true, Bool.not_eq_true', List.isEmpty_eq_false_iff, decide_eq_true_eq,
        not_and, ne_eq, Nat.not_lt] at passed
      by_cases alone : batcher.pending = []
      · rw [alone] at longer
        exact .inl (Nat.le_of_eq longer)
      · exact .inr (passed alone)
    split
    · have bounded : (batcher.append item).pending.length ≤ (batcher.append item).maxCount := by
        rw [longer]
        exact room.count
      have flushed := keepsBounds_flush_of_le bounded (Nat.zero_lt_of_lt room.count) light
      exact ⟨flushed.maxCount, flushed.maxBytes, flushed.room, flushed.size, flushed.bytes⟩
    · rename_i notFull
      exact ⟨rfl, rfl, ⟨Nat.lt_of_not_le notFull, light⟩, by simp, by simp⟩

theorem keepsBounds_run (room : batcher.Roomy) (calls : List Call) :
    KeepsBounds batcher (batcher.run calls).1 (batcher.run calls).2 := by
  induction calls generalizing batcher with
  | nil => exact .refl room
  | cons call rest ih =>
      have now : KeepsBounds batcher (batcher.answer call).1.toList (batcher.answer call).2 := by
        cases call with
        | push item => exact keepsBounds_push room item
        | flush => exact keepsBounds_flush room
      exact now.trans (ih now.room)

/-- The bounds allow a request of these items: there are not too many of them, and they are not too
long unless there is just one. -/
structure Allowed (maxCount maxBytes : Nat) (items : List BulkItem) : Prop where
  filled : items ≠ []
  count : items.length ≤ maxCount
  bytes : items.length = 1 ∨ encodedLength items ≤ maxBytes

theorem allowed_run (maxCount maxBytes : Nat) (calls : List Call) :
    ∀ batch ∈ ((empty maxCount maxBytes).run calls).1,
      Allowed (max maxCount 1) (max maxBytes 1) batch.items := by
  intro batch mem
  have hands := (empty maxCount maxBytes).handsOver_run calls
  have weighed := (hands.weighed (weighed_empty maxCount maxBytes)).2 batch mem
  have kept := keepsBounds_run (roomy_empty maxCount maxBytes) calls
  refine ⟨hands.filled batch mem, kept.size batch mem, ?_⟩
  cases kept.bytes batch mem with
  | inl single =>
      exact .inl (Nat.le_antisymm single (List.length_pos_iff.mpr (hands.filled batch mem)))
  | inr within => exact .inr (weighed ▸ within)

/-- Whatever items come and whenever the rest is demanded, no batch has more items than the bound
allows, and its request is not longer than the bound allows unless it is that of a single item which
is too long by itself. Fewer items than make a full batch are pending, and if there are several they
are within the bound on bytes. A bound of zero is a bound of one. -/
theorem batches_within_bounds (maxCount maxBytes : Nat) (calls : List Call) :
    let batches := ((empty maxCount maxBytes).run calls).1
    let after := ((empty maxCount maxBytes).run calls).2
    (∀ batch ∈ batches, batch.size ≤ max maxCount 1 ∧
      (batch.ndjson.utf8ByteSize ≤ max maxBytes 1 ∨
        ∃ item, batch.items = [item] ∧ max maxBytes 1 < item.encodedLength)) ∧
      after.pending.length < max maxCount 1 ∧
      (1 < after.pending.length → encodedLength after.pending ≤ max maxBytes 1) := by
  intro batches after
  have kept := keepsBounds_run (roomy_empty maxCount maxBytes) calls
  refine ⟨?_, Nat.lt_of_lt_of_eq kept.room.count kept.maxCount, ?_⟩
  · intro batch mem
    have allowed := allowed_run maxCount maxBytes calls batch mem
    refine ⟨allowed.count, ?_⟩
    rw [Batch.ndjson, utf8ByteSize_ndjson]
    cases allowed.bytes with
    | inr within => exact .inl within
    | inl single =>
        obtain ⟨item, alone⟩ := List.length_eq_one_iff.mp single
        rw [alone, encodedLength_singleton]
        by_cases within : item.encodedLength ≤ max maxBytes 1
        · exact .inl within
        · exact .inr ⟨item, rfl, Nat.lt_of_not_le within⟩
  · intro several
    have hands := (empty maxCount maxBytes).handsOver_run calls
    have weighed := (hands.weighed (weighed_empty maxCount maxBytes)).1
    have light := kept.room.light.resolve_left (Nat.not_le_of_lt several)
    rw [← weighed]
    exact Nat.le_trans light (Nat.le_of_eq kept.maxBytes)

end BulkIngest.Batcher
