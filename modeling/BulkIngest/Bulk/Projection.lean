import BulkIngest.Bulk.Item

/-!
Which fields of a document are kept: all of them, or those on a list.
-/

namespace BulkIngest

structure Projection where
  allowed : Option (List String)
deriving DecidableEq

namespace Projection

def passthrough : Projection := ⟨none⟩

def isPassthrough (projection : Projection) : Bool := projection.allowed.isNone

def keeps (projection : Projection) (field : String) : Bool :=
  match projection.allowed with
  | none => true
  | some allowed => allowed.contains field

def apply (projection : Projection) (document : Document) : Document :=
  document.filter fun member => projection.keeps member.1

end Projection

end BulkIngest
