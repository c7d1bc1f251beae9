import Mathlib
import BulkIngest.Proofs.Storage.Intact
import BulkIngest.Sink.File

/-!
What a file that collects requests contains. However often requests are broken off or refused, and
wherever on their way, the committed part of the file is what was there when it was opened and then
the bodies of the requests that were answered, in order; nothing else is left once the file has been
closed.
-/

namespace BulkIngest.FileSink

/-- One use of the sink, as far as it gets. -/
inductive Visit
  | bulk (batch : Batch) (fate : WriteFate)
  | close (fate : CloseFate)

/-- The batch of a request that was written whole. -/
def Visit.delivered? : Visit → Option Batch
  | .bulk batch .complete => some batch
  | _ => none

def visit (sink : FileSink) : Visit → FileSink
  | .bulk batch fate => { sink with shelf := sink.shelf.write (payload batch) fate }
  | .close fate => { sink with shelf := sink.shelf.close fate }

/-- The bodies of the requests that were written whole. -/
def delivered (visits : List Visit) : Bytes := (visits.filterMap Visit.delivered?).flatMap payload

variable {sink : FileSink} {whole : Bytes}

theorem intact_visit (h : sink.shelf.Intact whole) (visit : Visit) :
    (sink.visit visit).shelf.Intact (whole ++ delivered [visit]) := by
  cases visit with
  | close fate =>
      have closed := h.close fate
      rwa [← List.append_nil whole] at closed
  | bulk batch fate =>
      have written := h.write (payload batch) fate
      cases fate with
      | complete =>
          rw [if_pos rfl] at written
          have once : delivered [.bulk batch .complete] = payload batch := List.append_nil _
          rw [once]
          exact written
      | stoppedMending stop =>
          rw [if_neg (by simp), ← List.append_nil whole] at written
          exact written
      | stoppedWriting octets =>
          rw [if_neg (by simp), ← List.append_nil whole] at written
          exact written

theorem intact_visits (h : sink.shelf.Intact whole) (visits : List Visit) :
    (visits.foldl FileSink.visit sink).shelf.Intact (whole ++ delivered visits) := by
  induction visits generalizing sink whole with
  | nil => simpa [delivered] using h
  | cons visit rest ih =>
      have later := ih (intact_visit h visit)
      have joined : delivered [visit] ++ delivered rest = delivered (visit :: rest) := by
        rw [delivered, delivered, ← List.flatMap_append, ← List.filterMap_append]
        rfl
      rwa [List.append_assoc, joined] at later

/-- A request is a visit that is complete if and only if the request is answered. -/
theorem bulk_is_visit (h : sink.shelf.Intact whole) (limit : Option Nat) (batch : Batch) :
    ∃ fate, (sink.bulk limit batch).2 = sink.visit (.bulk batch fate) ∧
      ((∃ statuses, (sink.bulk limit batch).1 = .ok statuses) ↔ fate = .complete) := by
  refine ⟨(sink.shelf.outcomeOf limit (payload batch)).1, ?_, ?_⟩
  · simp only [bulk]
    split <;> rfl
  · rw [← h.outcomeOf limit (payload batch)]
    simp only [bulk]
    split
    · rename_i refused
      simp [refused]
    · rename_i answered
      simp [answered]

theorem breakOff_is_visit (sink : FileSink) (batch : Batch) :
    ∃ fate, sink.breakOff batch = sink.visit (.bulk batch fate) ∧ fate ≠ .complete := by
  refine ⟨_, rfl, ?_⟩
  split <;> simp

theorem close_is_visit (h : sink.shelf.Intact whole) :
    sink.close = (.ok (), sink.visit (.close .complete)) := by
  simp only [close, h.mendFault?_eq, visit]

/-- A file that was opened for requests has at its front, after any uses of the sink, what was there
before and then the bodies of the requests that were written whole, and has nothing else once it is
closed. A request that is made is such a use, written whole if and only if it is answered; one that
is broken off is one that is not written whole. -/
theorem content_settled (files : Files) (config : FileSinkConfig) (initial : Bytes)
    (found : files.findOrMake config.fileName = .ok (.file initial)) (visits : List Visit) :
    ∃ fresh opened, FileSink.open files config = .ok (fresh, opened) ∧
      let sink := visits.foldl FileSink.visit fresh
      let whole := (if config.append then initial else []) ++ delivered visits
      sink.shelf.committed = whole.length ∧
        sink.shelf.content.take sink.shelf.committed = whole ∧
        (sink.visit (.close .complete)).shelf.content = whole ∧
        (∀ limit batch, ∃ fate, (sink.bulk limit batch).2 = sink.visit (.bulk batch fate) ∧
          ((∃ statuses, (sink.bulk limit batch).1 = .ok statuses) ↔ fate = .complete)) ∧
        (∀ batch, ∃ fate, sink.breakOff batch = sink.visit (.bulk batch fate) ∧
          fate ≠ .complete) ∧
        sink.close = (.ok (), sink.visit (.close .complete)) := by
  let shelf : Shelf := .open (.file initial) config.append
  refine ⟨⟨config.fileName, shelf⟩, files.put config.fileName shelf.node, ?_, ?_⟩
  · simp only [FileSink.open, found, shelf]
  · intro sink whole
    have intact : sink.shelf.Intact whole :=
      intact_visits (Shelf.intact_open initial config.append) visits
    exact ⟨intact.committed, intact.front, intact.content_close, bulk_is_visit intact,
      breakOff_is_visit sink, close_is_visit intact⟩

def keyedBatch : Batch := .ofItems 1 [.make ⟨0, some "a"⟩ .index "idx" none []]

/-- Half a body is written, mending it is broken off twice, and then the batch is written whole. -/
def tornVisits : List Visit :=
  [.bulk keyedBatch (.stoppedWriting 7), .bulk keyedBatch (.stoppedMending (.cut false)),
    .close (.stoppedMending (.cut true)), .bulk keyedBatch .complete,
    .bulk keyedBatch (.stoppedWriting 3)]

def logFiles : Files := Files.empty.put "log" (.file [0x6F, 0x0A])

theorem content_settled_tornVisits :
    logFiles.findOrMake "log" = .ok (.file [0x6F, 0x0A]) ∧
      ∃ fresh opened, FileSink.open logFiles ⟨"log", true⟩ = .ok (fresh, opened) ∧
        ((tornVisits.foldl FileSink.visit fresh).visit (.close .complete)).shelf.content =
          [0x6F, 0x0A] ++ payload keyedBatch := by
  have found : logFiles.findOrMake "log" = .ok (.file [0x6F, 0x0A]) := by cbv
  obtain ⟨fresh, opened, started, -, -, closed, -⟩ :=
    content_settled logFiles ⟨"log", true⟩ [0x6F, 0x0A] found tornVisits
  have once : delivered tornVisits = payload keyedBatch := List.append_nil _
  rw [once] at closed
  exact ⟨found, fresh, opened, started, closed⟩

end BulkIngest.FileSink
