import BulkIngest.Pipeline.Config

/-!
From a document to an item: what a document says about its own place is taken out of it, and the
fields that are kept are looked at last, so the field that holds the id need not be one of them.
-/

namespace BulkIngest

/-- Text goes into an id as it is, any other value as JSON. -/
def Json.Value.keyText : Json.Value → String
  | .string s => s
  | v => v.text

namespace Document

def reservedNames : List String := ["_id", "_index", "_routing"]

/-- The text of a field that is there and not null. -/
def keyText? (d : Document) (name : String) : Option String :=
  match Entries.get? d name with
  | some v => if v.isNull then none else some v.keyText
  | none => none

/-- A document without the fields that say where it goes. -/
def content (d : Document) : Document := d.filter fun member => !reservedNames.contains member.1

end Document

namespace PipelineConfig

/-- A document's own id comes before that of the key field. -/
def keyOf (config : PipelineConfig) (d : Document) : Option String :=
  match Document.keyText? d "_id" with
  | some key => some key
  | none => config.keyField.bind (Document.keyText? (Document.content d))

def indexOf (config : PipelineConfig) (d : Document) : String :=
  (Document.keyText? d "_index").getD config.indexTarget

/-- The item for a document, which was the one pulled at `position`. -/
def prepare (config : PipelineConfig) (position : Nat) (d : Document) : BulkItem :=
  BulkItem.make ⟨position, config.keyOf d⟩ config.action (config.indexOf d)
    (Document.keyText? d "_routing") (config.projection.apply (Document.content d))

end PipelineConfig

end BulkIngest
