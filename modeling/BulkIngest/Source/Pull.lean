import BulkIngest.Bulk.Item

/-!
What a source answers when it is asked for a document.
-/

namespace BulkIngest

inductive Pull
  | document (d : Document)
  | finished
  | failed (reason : String)

namespace Pull

def document? : Pull → Option Document
  | .document d => some d
  | .finished | .failed _ => none

theorem filterMap_document? (docs : List Document) :
    (docs.map document).filterMap document? = docs := by
  rw [List.filterMap_map]
  exact List.filterMap_some

end Pull

end BulkIngest
