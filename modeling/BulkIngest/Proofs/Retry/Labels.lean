import BulkIngest.Proofs.Retry.Moves

/-!
The labels of documents that were sent. What becomes of a document is read off the last answer to
its batch: its own status if the answer has one status for each document, and otherwise the failure
of the request. A document that was sent never has the label of one that was not.
-/

namespace BulkIngest

/-- Whether the document was never sent, by its label. -/
def Outcome.isUnsent (outcome : Outcome) : Bool := outcome.kind?.any (·.isUnsent)

namespace Batch

variable {batch : Batch} {a : Answer} {i : Nat} {outcome : Outcome}

/-- The answer takes document `i` of the batch. -/
def Accepts (batch : Batch) (a : Answer) (i : Nat) : Prop :=
  ∃ statuses id, a = .statuses statuses ∧ statuses.length = batch.size ∧
    statuses[i]? = some (.accepted id)

/-- The answer refuses document `i` of the batch. -/
def Rejects (batch : Batch) (a : Answer) (i : Nat) : Prop :=
  ∃ statuses code reason, a = .statuses statuses ∧ statuses.length = batch.size ∧
    statuses[i]? = some (.rejected code reason)

/-- The answer is none: the request failed, the sink broke down, or the statuses do not match. -/
inductive Fails (batch : Batch) : Answer → Prop
  | failed (e : TransportError) : Fails batch (.failed e)
  | panicked (message : Option String) : Fails batch (.panicked message)
  | miscounted (statuses : List ItemStatus) (other : statuses.length ≠ batch.size) :
      Fails batch (.statuses statuses)

theorem not_fails_of_length {statuses : List ItemStatus} (h : statuses.length = batch.size) :
    ¬batch.Fails (.statuses statuses) := by
  intro fails
  cases fails with
  | miscounted _ other => exact other h

/-- What the label of document `i` says about the last answer to its batch. -/
structure Told (batch : Batch) (a : Answer) (i : Nat) (outcome : Outcome) : Prop where
  accepted : outcome.kind? = none ↔ batch.Accepts a i
  rejected : outcome.kind? = some .documentRejected ↔ batch.Rejects a i
  transport : outcome.kind? = some .transport ↔ batch.Fails a
  sent : outcome.isUnsent = false

theorem told_of_fails (fails : batch.Fails a) (kind : outcome.kind? = some .transport) :
    batch.Told a i outcome := by
  refine ⟨?_, ?_, ?_, by simp [Outcome.isUnsent, kind, FailureKind.isUnsent]⟩
  · simp only [kind, reduceCtorEq, false_iff]
    rintro ⟨statuses, id, rfl, count, -⟩
    exact not_fails_of_length count fails
  · simp only [kind, Option.some.injEq, reduceCtorEq, false_iff]
    rintro ⟨statuses, code, reason, rfl, count, -⟩
    exact not_fails_of_length count fails
  · simp only [kind, fails]

theorem told_of_status {statuses : List ItemStatus} {status : ItemStatus} (ref : DocumentRef)
    (count : statuses.length = batch.size) (here : statuses[i]? = some status) :
    batch.Told (.statuses statuses) i (Outcome.ofStatus ref status) := by
  have answered := not_fails_of_length count
  cases status with
  | accepted id =>
      have kind : (Outcome.ofStatus ref (.accepted id)).kind? = none := rfl
      refine ⟨?_, ?_, ?_, rfl⟩
      · simpa only [kind, true_iff] using ⟨statuses, id, rfl, count, here⟩
      · simp only [kind, reduceCtorEq, false_iff]
        rintro ⟨_, code, reason, ⟨⟩, -, refused⟩
        simp [here] at refused
      · simp only [kind, reduceCtorEq, answered]
  | rejected code reason =>
      have kind : (Outcome.ofStatus ref (.rejected code reason)).kind? =
          some .documentRejected := rfl
      refine ⟨?_, ?_, ?_, rfl⟩
      · simp only [kind, reduceCtorEq, false_iff]
        rintro ⟨_, id, ⟨⟩, -, taken⟩
        simp [here] at taken
      · simpa only [kind, true_iff] using ⟨statuses, code, reason, rfl, count, here⟩
      · simp only [kind, Option.some.injEq, reduceCtorEq, answered]

theorem told_of_failures {kind : FailureKind} {message : String} (fails : batch.Fails a)
    (transport : kind = .transport)
    (here : (batch.refs.map (Outcome.failed kind message))[i]? = some outcome) :
    batch.Told a i outcome := by
  rw [List.getElem?_map, Option.map_eq_some_iff] at here
  obtain ⟨ref, -, rfl⟩ := here
  exact told_of_fails fails (congrArg some transport)

/-- The outcomes of a batch tell its last answer, document by document. -/
theorem told_outcomesOf (here : (batch.outcomesOf (batch.reading a))[i]? = some outcome) :
    batch.Told a i outcome := by
  cases a with
  | panicked message => exact told_of_failures (.panicked message) rfl here
  | failed e => exact told_of_failures (.failed e) rfl here
  | statuses statuses =>
      by_cases count : statuses.length = batch.size
      · rw [reading_of_length count, outcomesOf, List.getElem?_zipWith_eq_some] at here
        obtain ⟨ref, status, -, status_here, rfl⟩ := here
        exact told_of_status ref count status_here
      · rw [reading_of_ne count] at here
        exact told_of_failures (.miscounted statuses count) rfl here

theorem fails_iff_reading :
    batch.Fails a ↔ ∀ outcomes, batch.reading a ≠ .delivered outcomes := by
  cases a with
  | panicked message => exact ⟨fun _ _ => by simp [reading], fun _ => .panicked message⟩
  | failed e => exact ⟨fun _ _ => by simp [reading], fun _ => .failed e⟩
  | statuses statuses =>
      by_cases count : statuses.length = batch.size
      · simp [reading_of_length count, not_fails_of_length count]
      · simp [reading_of_ne count, Fails.miscounted statuses count]

end Batch

end BulkIngest
