import Mathlib
import BulkIngest.Proofs.Source.Lines

/-!
The two formats of a file say the same. Objects on lines and the same objects in one JSON array are
brought in the same order, although the one is read line by line and the other as a whole, where the
array is one more level of nesting. Only the array knows how many there are, and it brings none if
one of its elements is no object.
-/

namespace BulkIngest

open Json

namespace FileSource

variable {files : Files} {fileName : String} {content : Bytes} {documents : List Document}

/-- The file is one JSON array of the documents. -/
def HoldsArray (content : Bytes) (documents : List Document) : Prop :=
  Value.ofBytes content = .ok (.array (documents.map .object))

theorem holdsArray_text (regular : ∀ d ∈ documents, (Value.object d).Regular 126) :
    HoldsArray (Text.bytes (Value.array (documents.map .object)).text) documents := by
  refine Value.ofBytes_text (.array fun v mem => ?_)
  obtain ⟨d, member, rfl⟩ := List.mem_map.mp mem
  exact regular d member

theorem objects_map (i : Nat) (documents : List Document) :
    objects i (documents.map .object) = .ok documents := by
  induction documents generalizing i with
  | nil => rfl
  | cons d documents ih =>
      rw [List.map_cons, objects, ih]
      rfl

theorem objects_foreign {v : Value} (foreign : ∀ d, v ≠ .object d) (i : Nat)
    (documents : List Document) (rest : List Value) :
    objects i (documents.map .object ++ v :: rest) =
      .error (.of s!"element {i + documents.length} is a {v.typeName}, not an object") := by
  induction documents generalizing i with
  | nil =>
      cases v with
      | object d => exact absurd rfl (foreign d)
      | null | boolean b | number n | string s | array elements => rfl
  | cons d documents ih =>
      rw [List.map_cons, List.cons_append, objects, ih, List.length_cons, Nat.add_assoc,
        Nat.add_comm 1]
      rfl

/-- A list of values is one of objects, or there is a first value that is none. -/
theorem objects_or_foreign (vs : List Value) :
    (∃ documents : List Document, vs = documents.map .object) ∨
      ∃ (documents : List Document) (v : Value) (rest : List Value),
        vs = documents.map .object ++ v :: rest ∧ ∀ d, v ≠ .object d := by
  induction vs with
  | nil => exact .inl ⟨[], rfl⟩
  | cons v vs ih =>
      by_cases object : ∃ d, v = .object d
      · obtain ⟨d, rfl⟩ := object
        rcases ih with ⟨documents, rfl⟩ | ⟨documents, w, rest, rfl, foreign⟩
        · exact .inl ⟨d :: documents, rfl⟩
        · exact .inr ⟨d :: documents, w, rest, rfl, foreign⟩
      · exact .inr ⟨[], v, vs, rfl, fun d same => object ⟨d, same⟩⟩

theorem documentsOfArray_eq {vs : List Value} (h : Value.ofBytes content = .ok (.array vs)) :
    documentsOfArray content = objects 0 vs := by
  simp only [documentsOfArray, whole_listOf h]

theorem open_array (read : files.read fileName = .ok content)
    (holds : HoldsArray content documents) :
    FileSource.open files ⟨fileName, .jsonArray⟩ =
      .ok ⟨⟨fileName, .jsonArray⟩, .array documents, 0, 0, some documents.length⟩ := by
  simp only [FileSource.open, openArray, read, documentsOfArray_eq holds, objects_map]

/-- The same objects on lines and in an array are brought alike, and an array with anything else in
it is refused. -/
theorem formats_agree (documents : List Document) :
    ((∀ d ∈ documents, (Value.object d).Regular 126) →
      HoldsArray (Text.bytes (Value.array (documents.map .object)).text) documents ∧
        HoldsLines (written documents) documents) ∧
    (∀ (files files' : Files) (fileName fileName' : String) (content content' : Bytes),
      files.read fileName = .ok content → HoldsArray content documents →
      files'.read fileName' = .ok content' → HoldsLines content' documents →
      ∃ whole lines, FileSource.open files ⟨fileName, .jsonArray⟩ = .ok whole ∧
        FileSource.open files' ⟨fileName', .ndjson⟩ = .ok lines ∧
        whole.sizeHint = some documents.length ∧ (∀ count, whole.pulls count = lines.pulls count) ∧
        ∀ more, whole.pulls (documents.length + more) =
          documents.map .document ++ List.replicate more .finished) ∧
    ∀ (files : Files) (fileName : String) (content : Bytes) (vs : List Value),
      files.read fileName = .ok content → Value.ofBytes content = .ok (.array vs) →
      (∃ v ∈ vs, ∀ d, v ≠ .object d) →
      ∃ (front : List Document) (v : Value) (rest : List Value),
        vs = front.map .object ++ v :: rest ∧ (∀ d, v ≠ .object d) ∧
        FileSource.open files ⟨fileName, .jsonArray⟩ =
          .error ⟨s!"💀 '{fileName}' was supposed to be a JSON array of objects. It was not.",
            [s!"element {front.length} is a {v.typeName}, not an object"]⟩ := by
  refine ⟨fun regular => ⟨holdsArray_text regular, holdsLines_written fun d mem =>
    (regular d mem).mono (by decide)⟩, ?_, ?_⟩
  · rintro files files' fileName fileName' content content' read holds read' ⟨lines, lined, told⟩
    have yields := yield_of_told told lined fileName' 0
    exact ⟨_, _, open_array read holds, open_ndjson read', rfl, pulls_congr rfl yields,
      pulls_of_yield rfl⟩
  · intro files fileName content vs read array hasForeign
    rcases objects_or_foreign vs with ⟨front, rfl⟩ | ⟨front, v, rest, rfl, foreign⟩
    · obtain ⟨v, mem, foreign⟩ := hasForeign
      obtain ⟨d, -, rfl⟩ := List.mem_map.mp mem
      exact absurd rfl (foreign d)
    · refine ⟨front, v, rest, rfl, foreign, ?_⟩
      simp only [FileSource.open, openArray, read, documentsOfArray_eq array,
        objects_foreign foreign]
      rw [Nat.zero_add]
      rfl

/-- Documents of which one nests deeper than the other. -/
def nestedDocuments : List Document := [[], [("a", .array [.object []]), ("b", .ofNat 2)]]

def nestedArray : Bytes := Text.bytes (Value.array (nestedDocuments.map .object)).text

theorem formats_agree_nestedDocuments :
    (∀ d ∈ nestedDocuments, (Value.object d).Regular 126) ∧
      (∃ whole lines,
        FileSource.open (Files.empty.put "a" (.file nestedArray)) ⟨"a", .jsonArray⟩ = .ok whole ∧
        FileSource.open (Files.empty.put "b" (.file (written nestedDocuments))) ⟨"b", .ndjson⟩ =
          .ok lines ∧
        whole.sizeHint = some 2 ∧ whole.pulls 3 = lines.pulls 3 ∧
        whole.pulls 3 = nestedDocuments.map .document ++ [.finished]) ∧
      FileSource.open (Files.empty.put "a" (.file (Text.bytes "[\x7b\x7d, null, 7]")))
        ⟨"a", .jsonArray⟩ =
        .error ⟨"💀 'a' was supposed to be a JSON array of objects. It was not.",
          ["element 1 is a null, not an object"]⟩ := by
  have regular : ∀ d ∈ nestedDocuments, (Value.object d).Regular 126 := by
    have empty {levels : Nat} : (Value.object []).Regular (levels + 1) := .object .nil (by simp)
    have array : (Value.array [.object []]).Regular 125 := .array (by simp [empty])
    have second : (Value.object [("a", .array [.object []]), ("b", .ofNat 2)]).Regular 126 :=
      .object (by decide) (by simp [array, Value.ofNat, Value.Regular.whole])
    exact List.forall_mem_cons.mpr ⟨empty, List.forall_mem_cons.mpr ⟨second, List.forall_mem_nil _⟩⟩
  have readA (octets : Bytes) : (Files.empty.put "a" (.file octets)).read "a" = .ok octets := by cbv
  have readB (octets : Bytes) : (Files.empty.put "b" (.file octets)).read "b" = .ok octets := by cbv
  have array : Value.ofBytes (Text.bytes "[\x7b\x7d, null, 7]") =
      .ok (.array [.object [], .null, .ofNat 7]) := by cbv
  obtain ⟨written, alike, refused⟩ := formats_agree nestedDocuments
  obtain ⟨holds, holds'⟩ := written regular
  obtain ⟨whole, lines, opened, opened', size, same, pulled⟩ :=
    alike _ _ "a" "b" _ _ (readA _) holds (readB _) holds'
  obtain ⟨front, v, rest, split, foreign, refusal⟩ :=
    refused _ "a" _ _ (readA _) array ⟨.null, by simp, by simp⟩
  obtain ⟨rfl, rfl⟩ : front = [[]] ∧ v = .null := by
    rcases front with _ | ⟨d, _ | ⟨e, front⟩⟩
    · exact absurd (List.cons.inj split).1.symm (foreign [])
    · simp_all
    · simp at split
  exact ⟨regular, ⟨whole, lines, opened, opened', size, same 3, pulled 1⟩, refusal⟩

end FileSource

end BulkIngest
