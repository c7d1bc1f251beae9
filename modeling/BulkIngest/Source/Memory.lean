import BulkIngest.Source.Pull

/-!
Documents that are there from the start, each handed out once: a plain list, whose length is known,
and a stream, which may also fail and knows its length only if it was told.
-/

namespace BulkIngest

structure ListSource where
  documents : List Document
  total : Nat

namespace ListSource

def of (documents : List Document) : ListSource := ⟨documents, documents.length⟩

def next (source : ListSource) : Pull × ListSource :=
  match source.documents with
  | [] => (.finished, source)
  | d :: rest => (.document d, { source with documents := rest })

def sizeHint (source : ListSource) : Option Nat := some source.total

end ListSource

structure StreamSource where
  script : List (Except String Document)
  sizeHint : Option Nat

namespace StreamSource

def next (source : StreamSource) : Pull × StreamSource :=
  match source.script with
  | [] => (.finished, source)
  | .ok d :: rest => (.document d, { source with script := rest })
  | .error reason :: rest => (.failed reason, { source with script := rest })

def describe (source : StreamSource) : String :=
  let hint :=
    match source.sizeHint with
    | some n => s!"Some({n})"
    | none => "None"
  "StreamSource \x7b size_hint: " ++ hint ++ ", .. \x7d"

end StreamSource

end BulkIngest
