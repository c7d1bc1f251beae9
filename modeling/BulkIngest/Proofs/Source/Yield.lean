import BulkIngest.Proofs.Storage.Paths
import BulkIngest.Simulation.Feed

/-!
What a file has to bring as a whole: the documents before the first place that cannot be read, and
what is said of that place. Asked for one document after the other, a source brings just these, and
a file that is read piece by piece has each of them ready after a finite number of pieces.
-/

namespace BulkIngest

def Pull.reason? : Pull → Option String
  | .failed reason => some reason
  | .document _ | .finished => none

namespace FileSource

/-- The documents that can be read, and the complaint about what comes after them, if anything
does. -/
structure Yield where
  documents : List Document
  fault : Option String

namespace Yield

def last (yield : Yield) : Pull :=
  match yield.fault with
  | some reason => .failed reason
  | none => .finished

/-- The answers to requests for a document, up to the last one. -/
def pulls (yield : Yield) : List Pull := yield.documents.map .document ++ [yield.last]

def cons (d : Document) (yield : Yield) : Yield := { yield with documents := d :: yield.documents }

end Yield

/-- What a line brings by itself: a blank one has no document. -/
def pullOf (fileName : String) (number : Nat) (line : Bytes) : Pull :=
  (nextLine fileName number 0 [line]).1

/-- What lines bring that come after line `number`. -/
def yieldOfLines (fileName : String) (number : Nat) : List Bytes → Yield
  | [] => ⟨[], none⟩
  | line :: unread =>
    match pullOf fileName number line with
    | .document d => (yieldOfLines fileName (number + 1) unread).cons d
    | .failed reason => ⟨[], some reason⟩
    | .finished => yieldOfLines fileName (number + 1) unread

/-- All that a source has yet to bring. -/
def yield (source : FileSource) : Yield :=
  match source.rest with
  | .lines unread => yieldOfLines source.config.fileName source.lineNumber unread
  | .unreadable _ => ⟨[], source.next.1.reason?⟩
  | .array documents => ⟨documents, none⟩

/-- A line is passed over if it is blank, and otherwise it brings what it brings by itself. -/
theorem nextLine_cons (fileName : String) (number offset : Nat) (line : Bytes)
    (unread : List Bytes) :
    pullOf fileName number line = .finished ∧
        nextLine fileName number offset (line :: unread) =
          nextLine fileName (number + 1) (offset + line.length) unread ∨
      ∃ number', nextLine fileName number offset (line :: unread) =
        (pullOf fileName number line, number', offset + line.length, unread) ∧
        (∀ d, pullOf fileName number line = .document d → number' = number + 1) ∧
        pullOf fileName number line ≠ .finished := by
  simp only [pullOf, nextLine]
  split
  · split
    · exact .inl ⟨rfl, rfl⟩
    · refine .inr ⟨number + 1, rfl, fun _ _ => rfl, ?_⟩
      simp only [pullOfLine]
      split <;> simp
  · exact .inr ⟨number, rfl, fun d impossible => by contradiction, by simp⟩

theorem nextLine_yield (fileName : String) (number offset : Nat) (unread : List Bytes) :
    (∀ d documents, (yieldOfLines fileName number unread).documents = d :: documents →
      ∃ number' offset' unread',
        nextLine fileName number offset unread = (.document d, number', offset', unread') ∧
        yieldOfLines fileName number' unread' =
          ⟨documents, (yieldOfLines fileName number unread).fault⟩) ∧
    ((yieldOfLines fileName number unread).documents = [] →
      (nextLine fileName number offset unread).1 = (yieldOfLines fileName number unread).last) := by
  -- Blank lines are passed over in one call, so both parts go through the same lines together.
  induction unread generalizing number offset with
  | nil => exact ⟨fun d documents brought => by contradiction, fun _ => rfl⟩
  | cons line unread ih =>
      rw [yieldOfLines]
      rcases nextLine_cons fileName number offset line unread with
        ⟨blank, passed⟩ | ⟨number', brought, counted, ongoing⟩
      · rw [blank, passed]
        exact ih (number + 1) (offset + line.length)
      · rw [brought]
        cases pull : pullOf fileName number line with
        | document d =>
            -- Only here the number of the line matters: the lines after it are counted from it.
            refine ⟨fun first documents same => ?_, fun nothing => by contradiction⟩
            obtain ⟨rfl, rfl⟩ := List.cons.inj same
            exact ⟨number', offset + line.length, unread, rfl, by rw [counted d pull]; rfl⟩
        | failed reason => exact ⟨fun d documents brought => by contradiction, fun _ => rfl⟩
        | finished => exact (ongoing pull).elim

/-- A source brings its first document, and keeps the others. -/
theorem next_of_cons {source : FileSource} {d : Document} {documents : List Document}
    (first : source.yield.documents = d :: documents) :
    source.next.1 = .document d ∧ source.next.2.yield = ⟨documents, source.yield.fault⟩ := by
  cases rest : source.rest with
  | lines unread =>
      simp only [yield, rest] at first ⊢
      obtain ⟨number, offset, left, brought, later⟩ :=
        (nextLine_yield source.config.fileName source.lineNumber source.offset unread).1 d
        documents first
      simp only [next, rest, brought, later, and_self]
  | unreadable fault => simp [yield, rest] at first
  | array left =>
      simp only [yield, rest] at first ⊢
      simp only [first, next, rest, and_self]

theorem next_of_nil {source : FileSource} (empty : source.yield.documents = []) :
    source.next.1 = source.yield.last := by
  cases rest : source.rest with
  | lines unread =>
      simp only [yield, rest] at empty ⊢
      simp only [next, rest]
      exact (nextLine_yield source.config.fileName source.lineNumber source.offset unread).2 empty
  | unreadable fault => simp only [yield, rest, Yield.last, next, Pull.reason?]
  | array left =>
      simp only [yield, rest] at empty ⊢
      simp only [empty, next, rest, Yield.last]

theorem of_open {files : Files} {config : FileSourceConfig} {source : FileSource}
    (opened : FileSource.open files config = .ok source) :
    source.config = config ∧ source.offset = 0 := by
  simp only [FileSource.open, openLines, openArray] at opened
  split at opened
  · split at opened
    · contradiction
    · rw [← Except.ok.inj opened]
      exact ⟨rfl, rfl⟩
  · split at opened
    · contradiction
    · split at opened
      · contradiction
      · rw [← Except.ok.inj opened]
        exact ⟨rfl, rfl⟩

/-- What the file of a source has: lines up to the first one that cannot be read, or a whole
array. -/
def Holds (files : Files) (config : FileSourceConfig) (yield : Yield) : Prop :=
  match config.format, files.read config.fileName with
  | .ndjson, .ok content => yield = yieldOfLines config.fileName 0 (Text.lines content)
  | .ndjson, .error _ => yield.documents = [] ∧ yield.fault.isSome = true
  | .jsonArray, .ok content => documentsOfArray content = .ok yield.documents ∧ yield.fault = none
  | .jsonArray, .error _ => False

theorem holds_of_open {files : Files} {config : FileSourceConfig} {source : FileSource}
    (opened : FileSource.open files config = .ok source) : Holds files config source.yield := by
  unfold Holds
  cases format : config.format with
  | ndjson =>
      simp only [FileSource.open, format, openLines] at opened
      split at opened
      · contradiction
      · rw [← Except.ok.inj opened]
        cases files.read config.fileName with
        | ok content => rfl
        | error fault => exact ⟨rfl, rfl⟩
  | jsonArray =>
      simp only [FileSource.open, format, openArray] at opened
      cases read : files.read config.fileName with
      | error fault =>
          rw [read] at opened
          contradiction
      | ok content =>
          cases parsed : documentsOfArray content with
          | error trouble => simp only [read, parsed, reduceCtorEq] at opened
          | ok documents =>
              simp only [read, parsed] at opened
              rw [← Except.ok.inj opened]
              exact ⟨parsed, rfl⟩

/-- What is put elsewhere does not change a source that was opened. -/
theorem refresh_put {files : Files} {config : FileSourceConfig} {source : FileSource}
    {path : String} {node : FileNode} (opened : FileSource.open files config = .ok source)
    (free : files.named? (FilePath.canonical path) ≠ some .directory)
    (different : FilePath.canonical config.fileName ≠ FilePath.canonical path) :
    source.refresh (files.put path node) = source := by
  have same := (of_open opened).1
  cases format : config.format with
  | jsonArray => simp only [refresh, same, format]
  | ndjson =>
      simp only [FileSource.open, format] at opened
      have again : openLines (files.put path node) config = .ok source := by
        simp only [openLines] at opened ⊢
        cases led : files.find config.fileName with
        | error fault =>
            rw [led] at opened
            contradiction
        | ok found =>
            rw [led] at opened
            rw [Files.find_put_of_ne free different led, Files.read_put_of_ne free different led]
            exact opened
      simp only [refresh, same, format, again]

theorem length_yieldOfLines_le (fileName : String) (number : Nat) (unread : List Bytes) :
    (yieldOfLines fileName number unread).documents.length ≤ unread.length := by
  induction unread generalizing number with
  | nil => exact Nat.le_refl 0
  | cons line unread ih =>
      have later := ih (number + 1)
      rw [yieldOfLines, List.length_cons]
      split
      · exact Nat.succ_le_succ later
      · exact Nat.zero_le _
      · omega

theorem length_yield_le (source : FileSource) :
    source.yield.documents.length ≤
      match source.rest with
      | .lines unread => unread.length
      | .unreadable _ => 0
      | .array documents => documents.length := by
  cases rest : source.rest with
  | lines unread =>
      simp only [yield, rest]
      exact length_yieldOfLines_le _ _ _
  | unreadable fault | array documents => simp [yield, rest]

open Simulation.FileReading (lineSize) in
theorem nextLine_size (fileName : String) (number offset : Nat) (unread : List Bytes) :
    (nextLine fileName number offset unread).2.2.1 +
      lineSize (nextLine fileName number offset unread).2.2.2 = offset + lineSize unread := by
  induction unread generalizing number offset with
  | nil => rfl
  | cons line unread ih =>
      have whole : lineSize (line :: unread) = line.length + lineSize unread := rfl
      rw [whole, ← Nat.add_assoc]
      rcases nextLine_cons fileName number offset line unread with
        ⟨-, passed⟩ | ⟨number', brought, -⟩
      · rw [passed]
        exact ih (number + 1) (offset + line.length)
      · rw [brought]

end FileSource

namespace Simulation.FileReading

variable {reading : FileReading}

/-- What was read and what is unread make up the file. -/
def Sized (reading : FileReading) : Prop :=
  reading.source.offset + unreadSize reading.source = reading.size

theorem sized_of {source : FileSource} (unread : source.offset = 0) : (of source).Sized := by
  rw [Sized, of, unread, Nat.zero_add]

theorem sized_next (sized : reading.Sized) :
    reading.source.next.2.offset + unreadSize reading.source.next.2 = reading.size := by
  cases rest : reading.source.rest with
  | lines unread =>
      simp only [Sized, unreadSize, rest] at sized
      simp only [FileSource.next, rest, unreadSize]
      exact (FileSource.nextLine_size _ _ _ _).trans sized
  | unreadable fault =>
      simp only [FileSource.next, rest]
      exact sized
  | array documents =>
      simp only [Sized, unreadSize, rest] at sized
      cases documents with
      | nil => simp only [FileSource.next, rest, unreadSize, sized]
      | cons d documents => simp only [FileSource.next, rest, unreadSize, sized]

/-- How many more pieces have to be read at most. -/
def missing (reading : FileReading) : Nat :=
  (reading.size - reading.loaded) + if reading.sawEnd then 0 else 1

/-- Documents and pieces are no more than the file has to bring. -/
theorem length_missing_le (source : FileSource) :
    source.yield.documents.length + (of source).missing ≤ (of source).extent + 1 := by
  have documents := source.length_yield_le
  simp only [missing, of, extent, Bool.false_eq_true, if_false, Nat.sub_zero] at documents ⊢
  split <;> simp_all <;> omega

@[simp]
theorem source_loadMore (reading : FileReading) : reading.loadMore.source = reading.source := by
  simp only [loadMore]
  split <;> rfl

@[simp]
theorem size_loadMore (reading : FileReading) : reading.loadMore.size = reading.size := by
  simp only [loadMore]
  split <;> rfl

theorem missing_loadMore (short : 0 < reading.missing) :
    reading.loadMore.missing < reading.missing := by
  simp only [missing, loadMore, chunkSize] at short ⊢
  split <;> split <;> simp_all <;> omega

theorem isEnough_of_missing (sized : reading.Sized) (all : reading.missing = 0) (pull : Pull) :
    reading.isEnough pull reading.source.next.2 = true := by
  have ended : reading.sawEnd = true := by
    cases ended : reading.sawEnd with
    | true => rfl
    | false => simp [missing, ended] at all
  have loaded : reading.size ≤ reading.loaded := by
    simp only [missing] at all
    omega
  have next := sized_next sized
  simp only [isEnough]
  split
  · simp only [ended, Bool.or_true, Bool.and_true, decide_eq_true_eq]
    omega
  · exact ended
  · rfl

/-- Asked for a document, a file has the next answer of its source ready, or reads on. -/
theorem poll_eq (sized : reading.Sized) :
    reading.poll = (.ready reading.source.next.1 false reading.awaited,
        { reading with source := reading.source.next.2, awaited := false }) ∨
      reading.poll = (.yielding, { reading.loadMore with awaited := true }) ∧
        reading.loadMore.missing < reading.missing := by
  by_cases enough : reading.isEnough reading.source.next.1 reading.source.next.2 = true
  · left
    simp only [poll, enough, if_true]
  · right
    refine ⟨by simp only [poll, enough, Bool.false_eq_true, if_false], missing_loadMore ?_⟩
    refine Nat.pos_of_ne_zero fun all => enough ?_
    exact isEnough_of_missing sized all _

end Simulation.FileReading

end BulkIngest
