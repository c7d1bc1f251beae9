import BulkIngest.Bulk.Batch

/-!
What becomes of documents: the backend's status for an item of a request, and the outcome of a
document, one for each.
-/

namespace BulkIngest

/-- What the backend says about one item of a bulk request. -/
inductive ItemStatus
  | accepted (id : Option String)
  | rejected (status : Nat) (reason : String)
deriving DecidableEq

/-- Why a document did not make it. -/
inductive FailureKind
  /-- The backend refused this document. -/
  | documentRejected
  /-- The request that carried it failed as a whole. -/
  | transport
  /-- It was not sent because another batch could not be delivered. -/
  | retriesExhausted
  /-- It was not sent because the source failed. -/
  | source
  /-- It was not sent because the run was cancelled. -/
  | cancelled
deriving DecidableEq

namespace FailureKind

def name : FailureKind → String
  | .documentRejected => "document_rejected"
  | .transport => "transport"
  | .retriesExhausted => "retries_exhausted"
  | .source => "source"
  | .cancelled => "cancelled"

/-- Whether a document that failed so was never sent. -/
def isUnsent : FailureKind → Bool
  | .documentRejected | .transport => false
  | .retriesExhausted | .source | .cancelled => true

end FailureKind

structure DocumentFailure where
  kind : FailureKind
  message : String
deriving DecidableEq

structure Outcome where
  ref : DocumentRef
  failure : Option DocumentFailure
deriving DecidableEq

namespace Outcome

def success (ref : DocumentRef) : Outcome := ⟨ref, none⟩

def failed (kind : FailureKind) (message : String) (ref : DocumentRef) : Outcome :=
  ⟨ref, some ⟨kind, message⟩⟩

def isSuccess (outcome : Outcome) : Bool := outcome.failure.isNone

def kind? (outcome : Outcome) : Option FailureKind := outcome.failure.map (·.kind)

/-- The outcome of a document that the backend looked at. -/
def ofStatus (ref : DocumentRef) : ItemStatus → Outcome
  | .accepted _ => success ref
  | .rejected status reason => failed .documentRejected s!"{status}: {reason}" ref

end Outcome

end BulkIngest
