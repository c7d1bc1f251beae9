import BulkIngest.Proofs.Source.Reading

/-!
A file of written objects, one on each line, gives back those objects in order and then no more. A
written object has no newline inside, so its line ends where it was ended.
-/

namespace BulkIngest

open Json

namespace FileSource

variable {documents others : List Document}

/-- Objects as they are written, one on each line. -/
def written (documents : List Document) : Bytes :=
  documents.flatMap fun d => Text.bytes (Value.object d).text ++ [0x0A]

/-- What can be written on a line without loss. -/
def Regular (d : Document) : Prop := (Value.object d).Regular 127

/-- The file has one document on each line that is not blank. -/
def HoldsLines (content : Bytes) (documents : List Document) : Prop :=
  ∃ lines, Lined lines content ∧ Told lines documents

theorem unbroken_of_visible {line : Bytes} (h : Visible line) : 0x0A ∉ line :=
  fun mem => h 0x0A mem (by decide)

theorem holdsLines_written (regular : ∀ d ∈ documents, Regular d) :
    HoldsLines (written documents) documents := by
  refine ⟨documents.map fun d => (Value.object d).text, ?_⟩
  induction documents with
  | nil => exact ⟨.nil, .nil⟩
  | cons d documents ih =>
      obtain ⟨first, later⟩ := List.forall_mem_cons.mp regular
      obtain ⟨lined, told⟩ := ih later
      have unbroken : '\n' ∉ (Value.object d).text.toList := by
        intro mem
        refine unbroken_of_visible (Value.visible_text first) ?_
        rw [Text.bytes_eq_flatMap]
        exact List.mem_flatMap.mpr ⟨'\n', mem, by decide⟩
      constructor
      · have whole := Lined.ended unbroken .newline lined
        rwa [← List.append_assoc] at whole
      · refine .object ⟨"", _, "", ?_, Text.blank_empty, Text.blank_empty,
          Value.ofBytes_text first⟩ told
        rw [String.append_empty, String.empty_append]

theorem yield_written (regular : ∀ d ∈ documents, Regular d) (fileName : String) (number : Nat) :
    yieldOfLines fileName number (Text.lines (written documents)) = ⟨documents, none⟩ := by
  obtain ⟨lines, lined, told⟩ := holdsLines_written regular
  exact yield_of_told told lined fileName number

/-- No two lists of objects are written alike. -/
theorem written_injective (h : ∀ d ∈ documents, Regular d) (h' : ∀ d ∈ others, Regular d)
    (same : written documents = written others) : documents = others := by
  have yields := yield_written h "" 0
  rw [same, yield_written h' "" 0] at yields
  exact (congrArg Yield.documents yields).symm

/-- A file of written objects gives back those objects in order and then no more. -/
theorem open_written {files : Files} {fileName : String} (h : ∀ d ∈ documents, Regular d)
    (read : files.read fileName = .ok (written documents)) :
    ∃ source, FileSource.open files ⟨fileName, .ndjson⟩ = .ok source ∧
      ∀ more, source.pulls (documents.length + more) =
        documents.map .document ++ List.replicate more .finished :=
  ⟨_, open_ndjson read, pulls_of_yield (yield_written h fileName 0)⟩

end FileSource

end BulkIngest
