import Mathlib
import BulkIngest.Proofs.Source.Trimming
import BulkIngest.Proofs.Source.Yield

/-!
Which documents a file of lines has: one for each line that holds a JSON object with blanks around
it, none for a blank line, and none from the first line on that is neither. That line is named by
its place among all lines. How a line is ended does not matter, since what ends a line is blank.
-/

namespace BulkIngest

open Json

namespace FileSource

open Text (Blank)

/-- The answers to so many requests for a document, one after the other. -/
def pulls : Nat → FileSource → List Pull
  | 0, _ => []
  | count + 1, source => source.next.1 :: pulls count source.next.2

theorem open_ndjson {files : Files} {fileName : String} {content : Bytes}
    (read : files.read fileName = .ok content) :
    FileSource.open files ⟨fileName, .ndjson⟩ =
      .ok ⟨⟨fileName, .ndjson⟩, .lines (Text.lines content), 0, 0, none⟩ := by
  cases found : files.find fileName with
  | error fault =>
      rw [Files.read, found] at read
      cases read
  | ok node => simp only [FileSource.open, openLines, found, read]

/-- How a line is ended. -/
inductive Ending
  | newline
  | returnNewline
deriving DecidableEq

def Ending.octets : Ending → Bytes
  | .newline => [0x0A]
  | .returnNewline => [0x0D, 0x0A]

/-- The content of a file of lines, of which only the last one need not be ended. -/
inductive Lined : List String → Bytes → Prop
  | nil : Lined [] []
  | last {line : String} (unbroken : '\n' ∉ line.toList) : Lined [line] (Text.bytes line)
  | ended {line : String} {lines : List String} {content : Bytes} (unbroken : '\n' ∉ line.toList)
      (ending : Ending) (rest : Lined lines content) :
      Lined (line :: lines) (Text.bytes line ++ (ending.octets ++ content))

/-- The line is a text that stands for an object, with blanks around it. -/
def Bears (line : String) (d : Document) : Prop :=
  ∃ before text after, line = before ++ text ++ after ∧ Blank before ∧ Blank after ∧
    Value.ofBytes (Text.bytes text) = .ok (.object d)

/-- The line is neither blank nor an object. -/
def Foreign (line : String) : Prop := ¬ Blank line ∧ ∀ d, ¬ Bears line d

/-- The objects of lines that are all blank or objects. -/
inductive Told : List String → List Document → Prop
  | nil : Told [] []
  | blank {line : String} {lines : List String} {documents : List Document} (blank : Blank line)
      (rest : Told lines documents) : Told (line :: lines) documents
  | object {line : String} {lines : List String} {d : Document} {documents : List Document}
      (bears : Bears line d) (rest : Told lines documents) : Told (line :: lines) (d :: documents)

/-- What is said of a line that is neither blank nor an object. -/
inductive Complains (fileName : String) (number : Nat) (line : String) : String → Prop
  | invalid {fault : Fault}
      (unread : Value.ofBytes (Text.bytes (Text.trimmed line)) = .error fault) :
      Complains fileName number line
        (s!"💀 Line {number} of '{fileName}' is not valid JSON: " ++
          fault.message (Text.bytes (Text.trimmed line)))
  | other {v : Value} (read : Value.ofBytes (Text.bytes (Text.trimmed line)) = .ok v) :
      Complains fileName number line
        s!"💀 Line {number} of '{fileName}' is a {v.typeName}, not a JSON object"

theorem bears_iff {line : String} {d : Document} :
    Bears line d ↔ Value.ofBytes (Text.bytes (Text.trimmed line)) = .ok (.object d) := by
  constructor
  · rintro ⟨before, text, after, rfl, blank, blank', stands⟩
    rw [Text.trimmed_within blank blank']
    exact Text.ofBytes_trimmed stands
  · intro stands
    obtain ⟨before, after, split, blank, blank'⟩ := Text.exists_trimmed line
    exact ⟨before, _, after, split, blank, blank', stands⟩

theorem Bears.not_blank {line : String} {d : Document} (bears : Bears line d) : ¬ Blank line := by
  intro blank
  have read := bears_iff.mp bears
  rw [String.isEmpty_iff.mp (Text.isEmpty_trimmed.mpr blank)] at read
  contradiction

/-- What a line of text brings. -/
def pullOfText (fileName : String) (number : Nat) (line : String) : Pull :=
  if (Text.trimmed line).isEmpty then .finished else pullOfLine fileName number (Text.trimmed line)

section

variable {fileName line : String} {number : Nat} {d : Document}

theorem pullOfText_blank (blank : Blank line) : pullOfText fileName number line = .finished :=
  if_pos (Text.isEmpty_trimmed.mpr blank)

theorem pullOfText_object (bears : Bears line d) :
    pullOfText fileName number line = .document d := by
  rw [pullOfText, if_neg fun empty => bears.not_blank (Text.isEmpty_trimmed.mp empty), pullOfLine,
    bears_iff.mp bears]

theorem pullOfText_foreign (foreign : Foreign line) :
    ∃ reason, pullOfText fileName number line = .failed reason ∧
      Complains fileName number line reason := by
  rw [pullOfText, if_neg fun empty => foreign.1 (Text.isEmpty_trimmed.mp empty), pullOfLine]
  cases read : Value.ofBytes (Text.bytes (Text.trimmed line)) with
  | error fault => exact ⟨_, rfl, .invalid read⟩
  | ok v =>
      cases v with
      | object d => exact absurd (bears_iff.mpr read) (foreign.2 d)
      | null | boolean b | number n | string s | array elements => exact ⟨_, rfl, .other read⟩

/-- A line brings what its text brings once it is bared. -/
theorem pullOf_eq {octets : Bytes} {text : String} (bare : Text.bareLine octets = Text.bytes text)
    (same : Text.trimmed text = Text.trimmed line) :
    pullOf fileName number octets = pullOfText fileName (number + 1) line := by
  simp only [pullOf, nextLine, bare, Text.Flaw.first?_bytes, Text.ofBytes?_bytes, same, pullOfText]
  split <;> rfl

theorem pullOf_ended (ending : Ending) :
    pullOf fileName number (Text.bytes line ++ ending.octets) =
      pullOfText fileName (number + 1) line := by
  cases ending with
  | newline =>
      obtain ⟨text, bare, same⟩ := Text.bareLine_newline line
      exact pullOf_eq bare same
  | returnNewline =>
      have bare : Text.bareLine (Text.bytes line ++ [0x0D, 0x0A]) = Text.bytes line := by
        simp [Text.bareLine]
      exact pullOf_eq bare rfl

/-- What lines bring whose first one is bared to a text. -/
def yieldOfPull (pull : Pull) (later : Yield) : Yield :=
  match pull with
  | .document d => later.cons d
  | .failed reason => ⟨[], some reason⟩
  | .finished => later

theorem yieldOfLines_cons (octets : Bytes) (unread : List Bytes) :
    yieldOfLines fileName number (octets :: unread) =
      yieldOfPull (pullOf fileName number octets) (yieldOfLines fileName (number + 1) unread) := by
  rw [yieldOfLines]
  rfl

/-- The first line of a file brings what its text brings, and the others are lines again. -/
theorem yield_lined {lines : List String} {content : Bytes}
    (lined : Lined (line :: lines) content) :
    ∃ left, Lined lines left ∧ ∀ fileName number,
      yieldOfLines fileName number (Text.lines content) =
        yieldOfPull (pullOfText fileName (number + 1) line)
          (yieldOfLines fileName (number + 1) (Text.lines left)) := by
  cases lined with
  | last unbroken =>
      refine ⟨[], .nil, fun fileName number => ?_⟩
      have unbroken := Text.unbroken_bytes unbroken
      have alone : yieldOfLines fileName number [Text.bytes line] =
          yieldOfPull (pullOfText fileName (number + 1) line)
            (yieldOfLines fileName (number + 1) []) := by
        rw [yieldOfLines_cons, pullOf_eq (Text.bareLine_unended unbroken) rfl]
      rw [Text.lines_unended unbroken]
      split
      · rename_i octets
        have empty : line = "" := by
          have same := Text.ofBytes?_bytes line
          rw [octets] at same
          exact (Option.some.inj same).symm
        rw [pullOfText_blank (by rw [empty]; decide)]
        rfl
      · exact alone
  | @ended _ _ content unbroken ending rest =>
      refine ⟨content, rest, fun fileName number => ?_⟩
      have physical : Text.lines (Text.bytes line ++ (ending.octets ++ content)) =
          (Text.bytes line ++ ending.octets) :: Text.lines content := by
        cases ending with
        | newline => exact Text.lines_append (Text.unbroken_bytes unbroken) content
        | returnNewline =>
            have unbroken : 0x0A ∉ Text.bytes line ++ [0x0D] := by
              simpa using Text.unbroken_bytes unbroken
            simpa [Ending.octets] using Text.lines_append unbroken content
      rw [physical, yieldOfLines_cons, pullOf_ended]

/-- Behind lines that are all blank or objects, a file goes on with the lines that are left. -/
theorem yield_told {before after : List String} {documents : List Document} {content : Bytes}
    (told : Told before documents) (lined : Lined (before ++ after) content) :
    ∃ left, Lined after left ∧ ∀ fileName number,
      yieldOfLines fileName number (Text.lines content) =
        ⟨documents ++ (yieldOfLines fileName (number + before.length) (Text.lines left)).documents,
          (yieldOfLines fileName (number + before.length) (Text.lines left)).fault⟩ := by
  induction told generalizing content with
  | nil => exact ⟨content, lined, fun _ _ => rfl⟩
  | blank blank rest ih =>
      obtain ⟨left, lined, first⟩ := yield_lined lined
      obtain ⟨left, lined, later⟩ := ih lined
      refine ⟨left, lined, fun fileName number => ?_⟩
      rw [first, pullOfText_blank blank, yieldOfPull, later, List.length_cons, Nat.add_assoc,
        Nat.add_comm 1]
  | object bears rest ih =>
      obtain ⟨left, lined, first⟩ := yield_lined lined
      obtain ⟨left, lined, later⟩ := ih lined
      refine ⟨left, lined, fun fileName number => ?_⟩
      rw [first, pullOfText_object bears, yieldOfPull, later, List.length_cons, Nat.add_assoc,
        Nat.add_comm 1]
      rfl

/-- A file of lines that are all blank or objects has these objects. -/
theorem yield_of_told {lines : List String} {documents : List Document} {content : Bytes}
    (told : Told lines documents) (lined : Lined lines content) (fileName : String) (number : Nat) :
    yieldOfLines fileName number (Text.lines content) = ⟨documents, none⟩ := by
  rw [← List.append_nil lines] at lined
  obtain ⟨left, ended, yields⟩ := yield_told told lined
  cases ended
  rw [yields, Text.lines, yieldOfLines, List.append_nil]

/-- Lines are all blank or objects up to the first one that is neither, if there is one. -/
theorem told_or_foreign (lines : List String) :
    (∃ documents, Told lines documents) ∨
      ∃ before line after documents, lines = before ++ line :: after ∧ Told before documents ∧
        Foreign line := by
  induction lines with
  | nil => exact .inl ⟨[], .nil⟩
  | cons line lines ih =>
      by_cases foreign : Foreign line
      · exact .inr ⟨[], line, lines, [], rfl, .nil, foreign⟩
      · have told {before : List String} {documents : List Document}
          (rest : Told before documents) :
            ∃ documents, Told (line :: before) documents := by
          by_cases blank : Blank line
          · exact ⟨documents, .blank blank rest⟩
          · obtain ⟨d, bears⟩ : ∃ d, Bears line d :=
              Classical.not_forall_not.mp fun unborne => foreign ⟨blank, unborne⟩
            exact ⟨d :: documents, .object bears rest⟩
        rcases ih with ⟨documents, rest⟩ | ⟨before, other, after, documents, rfl, rest, foreign⟩
        · exact .inl (told rest)
        · obtain ⟨documents, rest⟩ := told rest
          exact .inr ⟨line :: before, other, after, documents, rfl, rest, foreign⟩

end

section

variable {source : FileSource} {documents rest : List Document} {fault : Option String}

theorem nextLine_ended {fileName : String} {number offset : Nat} {unread : List Bytes}
    (ended : yieldOfLines fileName number unread = ⟨[], none⟩) :
    (nextLine fileName number offset unread).2.2.2 = [] := by
  induction unread generalizing number offset with
  | nil => rfl
  | cons line unread ih =>
      rw [yieldOfLines] at ended
      rcases nextLine_cons fileName number offset line unread with
        ⟨blank, passed⟩ | ⟨_, _, _, ongoing⟩
      · rw [blank] at ended
        rw [passed]
        exact ih ended
      · split at ended
        · exact absurd (congrArg Yield.documents ended) (List.cons_ne_nil _ _)
        · exact absurd (congrArg Yield.fault ended) (Option.some_ne_none _)
        · exact absurd ‹_› ongoing

/-- A source that has nothing left says so, and has nothing left then. -/
theorem next_of_ended (ended : source.yield = ⟨[], none⟩) :
    source.next.1 = .finished ∧ source.next.2.yield = ⟨[], none⟩ := by
  refine ⟨by rw [next_of_nil (by rw [ended]), ended]; rfl, ?_⟩
  cases left : source.rest with
  | lines unread =>
      simp only [yield, left] at ended
      simp only [next, left, yield, nextLine_ended ended, yieldOfLines]
  | unreadable fault =>
      simp only [yield, left, next, Pull.reason?] at ended
      exact absurd (congrArg Yield.fault ended) (Option.some_ne_none _)
  | array documents =>
      simp only [yield, left] at ended
      obtain rfl : documents = [] := congrArg Yield.documents ended
      simp only [next, left, yield]

theorem pulls_ended (ended : source.yield = ⟨[], none⟩) (count : Nat) :
    source.pulls count = List.replicate count .finished := by
  induction count generalizing source with
  | zero => rfl
  | succ count ih =>
      obtain ⟨finished, still⟩ := next_of_ended ended
      rw [pulls, finished, ih still, List.replicate_succ]

/-- A source brings its documents one after the other, and then what a source brings that has only
the rest. -/
theorem pulls_documents (has : source.yield = ⟨documents ++ rest, fault⟩) :
    ∃ later : FileSource, later.yield = ⟨rest, fault⟩ ∧ ∀ count,
      source.pulls (documents.length + count) = documents.map .document ++ later.pulls count := by
  induction documents generalizing source with
  | nil => exact ⟨source, has, fun count => by rw [List.length_nil, Nat.zero_add]; rfl⟩
  | cons d documents ih =>
      obtain ⟨brought, left⟩ := next_of_cons (congrArg Yield.documents has)
      rw [has] at left
      obtain ⟨later, has, pulled⟩ := ih left
      refine ⟨later, has, fun count => ?_⟩
      rw [List.length_cons, Nat.add_right_comm, pulls, brought, pulled]
      rfl

theorem pulls_of_yield (has : source.yield = ⟨documents, none⟩) (more : Nat) :
    source.pulls (documents.length + more) = documents.map .document ++
      List.replicate more .finished := by
  rw [← List.append_nil documents] at has
  obtain ⟨later, ended, pulled⟩ := pulls_documents has
  rw [pulled, pulls_ended ended]

/-- Two sources that have the same documents, and no complaint, cannot be told apart. -/
theorem pulls_congr {other : FileSource} (has : source.yield = ⟨documents, none⟩)
    (has' : other.yield = ⟨documents, none⟩) (count : Nat) :
    source.pulls count = other.pulls count := by
  induction count generalizing source other documents with
  | zero => rfl
  | succ count ih =>
      cases documents with
      | nil =>
          obtain ⟨finished, still⟩ := next_of_ended has
          obtain ⟨finished', still'⟩ := next_of_ended has'
          rw [pulls, pulls, finished, finished', ih still still']
      | cons d documents =>
          obtain ⟨brought, left⟩ := next_of_cons (congrArg Yield.documents has)
          obtain ⟨brought', left'⟩ := next_of_cons (congrArg Yield.documents has')
          rw [has] at left
          rw [has'] at left'
          rw [pulls, pulls, brought, brought', ih left left']

theorem pulls_of_fault {reason : String} (has : source.yield = ⟨documents, some reason⟩) :
    source.pulls (documents.length + 1) = documents.map .document ++ [.failed reason] := by
  rw [← List.append_nil documents] at has
  obtain ⟨later, ended, pulled⟩ := pulls_documents has
  rw [pulled, pulls, next_of_nil (by rw [ended]), ended]
  rfl

end

/-- A file of lines brings the objects of its lines up to the first line that is neither blank nor
an object, and then names that line, or else says that there are no more, however often it is
asked. -/
theorem lines_pulled {files : Files} {fileName : String} {lines : List String} {content : Bytes}
    (lined : Lined lines content) (read : files.read fileName = .ok content) :
    ((∃ documents, Told lines documents) ∨
      ∃ before line after documents, lines = before ++ line :: after ∧ Told before documents ∧
        Foreign line) ∧
    ∃ source, FileSource.open files ⟨fileName, .ndjson⟩ = .ok source ∧
      (∀ documents, Told lines documents → ∀ more, source.pulls (documents.length + more) =
        documents.map .document ++ List.replicate more .finished) ∧
      ∀ before line after documents, lines = before ++ line :: after → Told before documents →
        Foreign line → ∃ reason, Complains fileName (before.length + 1) line reason ∧
          source.pulls (documents.length + 1) = documents.map .document ++ [.failed reason] := by
  refine ⟨told_or_foreign lines, _, open_ndjson read, fun documents told => ?_, ?_⟩
  · exact pulls_of_yield (yield_of_told told lined fileName 0)
  · rintro before line after documents rfl told foreign
    obtain ⟨left, others, yields⟩ := yield_told told lined
    obtain ⟨_, -, first⟩ := yield_lined others
    obtain ⟨reason, failed, complains⟩ := pullOfText_foreign foreign
    have failing : yieldOfLines fileName (0 + before.length) (Text.lines left) =
      ⟨[], some reason⟩ := by
      rw [Nat.zero_add, first, failed]
      rfl
    refine ⟨reason, complains, pulls_of_fault ((yields fileName 0).trans ?_)⟩
    rw [failing, List.append_nil]

/-- An object between blanks and a blank line. -/
def patchyLines : List String := ["\u00A0\x7b\x7d\t", " "]

def patchyContent : Bytes := Text.bytes "\u00A0\x7b\x7d\t\r\n \n"

theorem lines_pulled_patchyLines :
    Lined patchyLines patchyContent ∧
      Lined (patchyLines ++ ["[]"]) (patchyContent ++ Text.bytes "[]") ∧
      Told patchyLines [[]] ∧ Foreign "[]" ∧
      (∃ source, FileSource.open (Files.empty.put "in" (.file patchyContent)) ⟨"in", .ndjson⟩ =
        .ok source ∧
        source.pulls 3 = [.document [], .finished, .finished]) ∧
      ∃ source reason,
        FileSource.open (Files.empty.put "in" (.file (patchyContent ++ Text.bytes "[]")))
          ⟨"in", .ndjson⟩ =
          .ok source ∧
        Complains "in" 3 "[]" reason ∧ source.pulls 2 = [.document [], .failed reason] := by
  have content (octets : Bytes) : (Files.empty.put "in" (.file octets)).read "in" =
    .ok octets := by cbv
  have lined {lines : List String} {octets : Bytes} (rest : Lined lines octets) :
      Lined (patchyLines ++ lines) (patchyContent ++ octets) :=
    .ended (by decide) .returnNewline (.ended (by decide) .newline rest)
  have told : Told patchyLines [[]] :=
    .object ⟨"\u00A0", "\x7b\x7d", "\t", rfl, by decide, by decide, by cbv⟩
    (.blank (by decide) .nil)
  have foreign : Foreign "[]" := by
    refine ⟨by decide, fun d bears => ?_⟩
    have read : Value.ofBytes (Text.bytes (Text.trimmed "[]")) = .ok (.array []) := by cbv
    have same := Except.ok.inj ((bears_iff.mp bears).symm.trans read)
    contradiction
  obtain ⟨-, source, opened, pulled, -⟩ := lines_pulled (lined .nil) (content _)
  obtain ⟨-, source', opened', -, failed⟩ :=
    lines_pulled (lined (@Lined.last "[]" (by decide))) (content _)
  obtain ⟨reason, complains, pulled'⟩ := failed patchyLines "[]" [] [[]] rfl told foreign
  exact ⟨lined .nil, lined (.last (by decide)), told, foreign, ⟨source, opened, pulled _ told 2⟩,
    source', reason, opened', complains, pulled'⟩

end FileSource

end BulkIngest
