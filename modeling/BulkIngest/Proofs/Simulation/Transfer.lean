import BulkIngest.Proofs.Run.Stopping
import BulkIngest.Proofs.Simulation.Courses
import BulkIngest.Proofs.Source.Yield
import BulkIngest.Proofs.Storage.Intact

/-!
A run from one file to another with one submission at a time. Such a run goes through few kinds of
states: the driver waits for the next piece of the source, or for the only submission that is out,
or goes on. Each round takes a piece or an answer from the source, so the run comes to its end, and
until then the file has what was there before and the bodies of the batches that came in.
-/

namespace BulkIngest

/-- Whether every document of a submission was accepted. -/
def Submission.Delivered (s : Submission) : Prop :=
  s.halt? = none ∧ ∀ outcome ∈ s.outcomes, outcome.isSuccess = true

/-- Whether no batch goes out in any run of these settings over a source. -/
def PipelineConfig.SendsNothing (config : PipelineConfig) (yield : FileSource.Yield) : Prop :=
  ∀ actions m, (Machine.start config false).run? actions = some m →
    PulledFrom yield.documents yield.last actions → m.journal.dispatched = []

/-- The statuses of a batch that was written whole. -/
def Batch.acceptances (batch : Batch) : List ItemStatus :=
  batch.refs.map fun ref => .accepted ref.key

theorem FileSink.bulk_of_intact {sink : FileSink} {whole : Bytes} (h : sink.shelf.Intact whole)
    (batch : Batch) :
    sink.bulk none batch =
      (.ok batch.acceptances,
        { sink with shelf := sink.shelf.write (payload batch) .complete }) := by
  have written : sink.shelf.outcomeOf none (payload batch) = (.complete, none) := by
    simp only [Shelf.outcomeOf, h.mendFault?_eq]
    rw [h.file]
  simp only [bulk, written, Batch.acceptances]

theorem Submission.conclude_acceptances (policy : RetryPolicy) (stopped : Bool) (s : Submission) :
    (s.conclude policy stopped (.statuses s.batch.acceptances)).isOver = true ∧
      (s.conclude policy stopped (.statuses s.batch.acceptances)).Delivered := by
  have counted : s.batch.acceptances.length = s.batch.size := by
    rw [Batch.acceptances, List.length_map, Batch.length_refs]
  rw [conclude, Batch.reading_of_length counted]
  refine ⟨rfl, rfl, fun outcome mem => ?_⟩
  have mem : outcome ∈ List.zipWith Outcome.ofStatus s.batch.refs s.batch.acceptances := mem
  rw [Batch.acceptances, List.zipWith_map_right, List.zipWith_self] at mem
  obtain ⟨ref, -, rfl⟩ := List.mem_map.mp mem
  rfl

namespace Machine

theorem take_eq (m : Machine) (pull : Pull) :
    ∃ batch : Option Batch,
      (m.take pull).inFlight = m.inFlight ++ batch.toList.map .of ∧
      (m.take pull).journal.dispatched = m.journal.dispatched ++ batch.toList ∧
      (m.take pull).phase =
        match pull with
        | .document _ => m.phase
        | .finished | .failed _ => .draining := by
  cases pull with
  | document d =>
      refine ⟨(m.batcher.push (m.config.prepare m.position d)).1, ?_⟩
      simp only [take, dispatch?_eq, and_self]
  | finished => exact ⟨m.batcher.flush.1, by simp only [take, dispatch?_eq, and_self]⟩
  | failed reason => exact ⟨none, by simp [take, haltWith]⟩

end Machine

namespace Simulation

/-- What a run from file to file is about. No request is made with no time at all. -/
structure Transfer where
  config : PipelineConfig
  network : Network
  /-- Where the bodies of requests go. -/
  fileName : String
  /-- What was there before. -/
  base : Bytes
  yield : FileSource.Yield
  single : config.maxInFlight = 1
  inTime : config.submitTimeoutMs = 0 → config.SendsNothing yield

namespace Transfer

variable {t : Transfer} {m m' : Machine} {pulled : List Pull} {action : Action}

/-- A machine that has taken `pulled` and nothing but deliveries, and was not asked to stop. -/
def Reached (t : Transfer) (m : Machine) (pulled : List Pull) : Prop :=
  ∃ actions, (Machine.start t.config false).run? actions = some m ∧ pulls actions = pulled ∧
    .cancel ∉ actions ∧ ∀ s ∈ (Machine.start t.config false).absorbed actions, s.Delivered

theorem reached_start (t : Transfer) : t.Reached (.start t.config false) [] :=
  ⟨[], rfl, rfl, List.not_mem_nil, fun _ mem => (List.not_mem_nil mem).elim⟩

theorem Reached.step (h : t.Reached m pulled) (step : m.Step action m') (going : action ≠ .cancel)
    (delivered : ∀ s ∈ m.absorbedBy action, s.Delivered) :
    t.Reached m' (pulled ++ action.pull?.toList) := by
  obtain ⟨actions, run, rfl, quiet, all⟩ := h
  refine ⟨actions ++ [action], ?_, ?_, ?_, ?_⟩
  · rw [Machine.run?_concat, run, Option.bind_some, step.step_eq]
  · cases brought : action.pull? <;> simp [pulls, brought]
  · simp [quiet, going.symm]
  · intro s mem
    rw [Machine.absorbed_concat action run] at mem
    rcases List.mem_append.mp mem with mem | mem
    · exact all s mem
    · exact delivered s (Option.mem_toList.mp mem)

theorem Reached.quiet (h : t.Reached m pulled) (step : m.Step action m') (going : action ≠ .cancel)
    (still : action.pull? = none) (delivered : ∀ s ∈ m.absorbedBy action, s.Delivered) :
    t.Reached m' pulled := by
  have after := h.step step going delivered
  rwa [still, Option.toList_none, List.append_nil] at after

theorem Reached.config_eq (h : t.Reached m pulled) : m.config = t.config := by
  obtain ⟨actions, run, -⟩ := h
  exact Machine.config_of_run run

theorem Reached.not_stopped (h : t.Reached m pulled) : m.retriesStopped = false := by
  obtain ⟨actions, run, -, quiet, delivered⟩ := h
  rw [← Bool.not_eq_true, Machine.retriesStopped_iff run]
  rintro (asked | asked | ⟨s, mem, halted⟩)
  · contradiction
  · exact quiet asked
  · rw [(delivered s mem).1] at halted
    contradiction

theorem Reached.not_cancelled (h : t.Reached m pulled) : m.cancelled = false := by
  have going := h.not_stopped
  simp only [Machine.retriesStopped, Bool.or_eq_false_iff] at going
  exact going.1

theorem Reached.hasRoom_iff (h : t.Reached m pulled) : m.hasRoom = true ↔ m.inFlight = [] := by
  rw [Machine.hasRoom, h.config_eq, t.single, decide_eq_true_eq, ← List.length_eq_zero_iff]
  exact Nat.lt_one_iff

theorem Reached.awaits (h : t.Reached m pulled) (active : m.phase ≠ .finished) {s : Submission}
    (out : m.inFlight = [s]) :
    m.isFinished = false ∧ m.canClose = false ∧ m.awaitsSubmission = true := by
  refine ⟨decide_eq_false active, by simp [Machine.canClose, out], ?_⟩
  cases phase : m.phase with
  | finished => exact (active phase).elim
  | draining => simp [Machine.awaitsSubmission, phase, out]
  | pulling =>
      have full : m.hasRoom = false := by
        rw [← Bool.not_eq_true, h.hasRoom_iff, out]
        exact List.cons_ne_nil s []
      simp [Machine.awaitsSubmission, phase, full]

end Transfer

namespace World

theorem act_of_step {w : World} {action : Action} {m : Machine} (step : w.machine.Step action m) :
    w.act action = { w with machine := m } := by
  simp only [act, step.step_eq]

end World

namespace Transfer

variable {t : Transfer} {w : World} {phase : Phase} {feed : Feed} {pulled : List Pull}
  {sent : List Batch} {left : Nat}

/-- How much is ahead: the answers that the source still has, and the pieces that have to be
read. -/
inductive Ahead (t : Transfer) (phase : Phase) (feed : Feed) (pulled : List Pull) : Nat → Prop
  | pulling (reading : FileReading) (documents : List Document) (on : phase = .pulling)
      (file : feed = .file reading) (sized : reading.Sized)
      (here : reading.source.yield = ⟨documents, t.yield.fault⟩)
      (rest : pulled ++ documents.map .document ++ [t.yield.last] = t.yield.pulls) :
      Ahead t phase feed pulled (documents.length + 1 + reading.missing)
  | draining (off : phase = .draining) (all : pulled = t.yield.pulls) : Ahead t phase feed pulled 0

theorem Ahead.ne_finished (h : t.Ahead phase feed pulled left) : phase ≠ .finished := by
  cases h with
  | pulling _ _ on _ _ _ _ => simp [on]
  | draining off _ => simp [off]

/-- The answers so far are the first ones of the source. -/
theorem Ahead.pulledFrom (h : t.Ahead phase feed pulled left) : pulled <+: t.yield.pulls := by
  cases h with
  | pulling reading documents _ _ _ _ rest =>
      rw [List.append_assoc] at rest
      exact ⟨_, rest⟩
  | draining _ all => exact ⟨[], by rw [all, List.append_nil]⟩

/-- What holds all the time: nobody else is waiting, and the file has the batches that came in. -/
structure Frame (t : Transfer) (w : World) (sent : List Batch) (left : Nat) : Prop where
  progress : ∃ pulled, t.Reached w.machine pulled ∧ t.Ahead w.machine.phase w.feed pulled left
  quiet : w.deferred = [] ∧ w.passedOver = none ∧ w.alarms = []
  sink : ∃ sink, w.sink = .backend t.network (.file sink) ∧ sink.fileName = t.fileName ∧
    sink.shelf.Intact (t.base ++ sent.flatMap FileSink.payload)

/-- It does not matter who has the next turn, and for how long. -/
theorem Frame.aside (h : t.Frame w sent left) {ready : List Event} {finished : List Nat}
    {round allowance : Nat} {driver : Driver} :
    t.Frame { w with ready, finished, round, allowance, driver } sent left :=
  ⟨h.progress, h.quiet, h.sink⟩

/-- Nothing is out, and the driver may go on. -/
structure Going (t : Transfer) (w : World) (left : Nat) : Prop where
  frame : t.Frame w w.machine.journal.dispatched left
  out : w.machine.inFlight = []
  ready : w.ready = []
  finished : w.finished = []
  round : 0 < w.round

/-- The driver lets others have a turn before it asks the source again. -/
structure OnSource (t : Transfer) (w : World) (left : Nat) : Prop where
  frame : t.Frame w w.machine.journal.dispatched left
  out : w.machine.inFlight = []
  ready : w.ready = [.sourceReady]
  finished : w.finished = []
  round : 0 < w.round
  driver : w.driver = .awaitsSource

/-- A batch is about to be sent. -/
structure Launched (t : Transfer) (w : World) (sent : List Batch) (batch : Batch) (left : Nat) :
    Prop where
  frame : t.Frame w sent left
  dispatched : w.machine.journal.dispatched = sent ++ [batch]
  out : w.machine.inFlight = [.of batch]
  ready : w.ready = [.begin batch.sequence]
  finished : w.finished = []
  round : 0 < w.round

/-- The driver waits for a batch that is about to be sent. -/
structure OnSubmission (t : Transfer) (w : World) (sent : List Batch) (batch : Batch) (left : Nat) :
    Prop extends t.Launched w sent batch left where
  driver : w.driver = .awaitsSubmission

/-- The only submission that was out is over. -/
structure Settled (t : Transfer) (w : World) (s : Submission) (left : Nat) : Prop where
  frame : t.Frame w w.machine.journal.dispatched left
  out : w.machine.inFlight = [s]
  isOver : s.isOver = true
  delivered : s.Delivered
  ready : w.ready = []
  finished : w.finished = [s.sequence]
  driver : w.driver = .awake

structure Done (t : Transfer) (w : World) : Prop where
  ended : w.machine.isFinished = true
  reached : t.Reached w.machine t.yield.pulls
  sink : ∃ sink, w.sink = .backend t.network (.file sink) ∧ sink.fileName = t.fileName ∧
    sink.shelf.Intact (t.base ++ w.machine.journal.dispatched.flatMap FileSink.payload)

/-- Where the driver stops: something was taken from what is left, or all is done. -/
inductive Stop (t : Transfer) (w : World) (left : Nat) : Prop
  | onSource (later : Nat) (less : later < left) (h : t.OnSource w later)
  | onSubmission (sent : List Batch) (batch : Batch) (later : Nat) (less : later < left)
      (h : t.OnSubmission w sent batch later)
  | done (h : t.Done w)

theorem Stop.mono {more : Nat} (h : t.Stop w left) (le : left ≤ more) : t.Stop w more := by
  cases h with
  | onSource later less h => exact .onSource later (by omega) h
  | onSubmission sent batch later less h => exact .onSubmission sent batch later (by omega) h
  | done h => exact .done h

theorem drive_of_isFinished (ended : w.machine.isFinished = true) (fuel : Nat) :
    w.drive fuel = w := by
  cases fuel with
  | zero => rfl
  | succ fuel => simp only [World.drive, ended, if_true]

theorem drive_draining (h : t.Going w left) (off : w.machine.phase = .draining)
    {pulled : List Pull} (reached : t.Reached w.machine pulled) (all : pulled = t.yield.pulls)
    (fuel : Nat) : t.Done (w.drive (fuel + 1)) := by
  have closes : w.machine.canClose = true := by simp [Machine.canClose, off, h.out]
  have active : w.machine.isFinished = false := by simp [Machine.isFinished, off]
  have step := Machine.Step.close closes
  have ended : w.machine.closed.isFinished = true := rfl
  have closed : w.drive (fuel + 1) = { w with machine := w.machine.closed } := by
    simp only [World.drive, active, closes, Bool.false_eq_true, if_false, if_true,
      World.act_of_step step]
    exact drive_of_isFinished ended fuel
  rw [closed]
  exact ⟨ended, all ▸ reached.quiet step (by simp) rfl (fun s impossible => by contradiction),
    h.frame.sink⟩

variable {reading : FileReading} {documents : List Document} {fuel : Nat}

theorem ahead_next (on : phase = .pulling) (sized : reading.Sized)
    (here : reading.source.yield = ⟨documents, t.yield.fault⟩)
    (rest : pulled ++ documents.map .document ++ [t.yield.last] = t.yield.pulls) :
    ∃ left < documents.length + 1 + reading.missing,
      t.Ahead (match reading.source.next.1 with
          | .document _ => phase
          | .finished | .failed _ => .draining)
        (.file { reading with source := reading.source.next.2, awaited := false })
        (pulled ++ [reading.source.next.1]) left := by
  cases documents with
  | nil =>
      have last : reading.source.next.1 = t.yield.last := by
        rw [FileSource.next_of_nil (by rw [here]), here]
        rfl
      refine ⟨0, by omega, ?_⟩
      rw [last]
      refine .draining ?_ ?_
      · cases fault : t.yield.fault <;> simp only [FileSource.Yield.last, fault]
      · simpa using rest
  | cons d documents =>
      obtain ⟨brought, later⟩ := FileSource.next_of_cons (congrArg FileSource.Yield.documents here)
      refine ⟨documents.length + 1 + reading.missing, by simp, ?_⟩
      rw [brought]
      refine .pulling { reading with source := reading.source.next.2, awaited := false }
        documents on rfl
        (FileReading.sized_next sized) ?_ ?_
      · rw [later, here]
      · simpa using rest

theorem takePull_eq {pull : Pull} {m : Machine} {batch : Option Batch}
    (out : w.machine.inFlight = [])
    (step : w.machine.Step (.pull pull) m) (goes : m.inFlight = batch.toList.map .of) :
    w.takePull pull = { w with
      machine := m
      ready := w.ready ++ batch.toList.map fun batch => .begin batch.sequence } := by
  simp only [World.takePull, World.act_of_step step, out, goes, List.length_nil, List.drop_zero,
    World.enqueue, List.map_map]
  rfl

theorem drive_pulling (h : t.Going w left) (on : w.machine.phase = .pulling)
    (reached : t.Reached w.machine pulled) (file : w.feed = .file reading) (roomy : w.allowance ≠ 0)
    (fuel : Nat) :
    w.machine.canPull = true ∧
      (∀ reading', reading.poll = (.yielding, reading') → w.drive (fuel + 1) =
        { w with feed := .file reading', driver := .awaitsSource, ready := [.sourceReady] }) ∧
      ∀ pull waited reading', reading.poll = (.ready pull false waited, reading') →
        w.drive (fuel + 1) = World.drive fuel ({ w with
          feed := .file reading', allowance := w.allowance - waited.toNat }.takePull pull) := by
  have active : w.machine.isFinished = false := by simp [Machine.isFinished, on]
  have closes : w.machine.canClose = false := by simp [Machine.canClose, on]
  have room : w.machine.hasRoom = true := reached.hasRoom_iff.mpr h.out
  have free : w.machine.awaitsSubmission = false := by simp [Machine.awaitsSubmission, on, room]
  refine ⟨by simp [Machine.canPull, on, room], fun reading' polled => ?_,
    fun pull waited reading' polled => ?_⟩
  · simp only [World.drive, active, closes, free, reached.not_cancelled, roomy, file,
      Feed.poll, polled, Bool.false_eq_true, if_false, World.enqueue, h.ready, List.nil_append]
  · simp only [World.drive, active, closes, free, reached.not_cancelled, roomy, file,
      Feed.poll, polled, Bool.false_eq_true, if_false, World.callSupplier]

theorem Launched.drive {batch : Batch} (h : t.Launched w sent batch left) (fuel : Nat) :
    t.OnSubmission (w.drive (fuel + 1)) sent batch left := by
  obtain ⟨pulled, reached, ahead⟩ := h.frame.progress
  obtain ⟨active, closes, awaits⟩ := reached.awaits ahead.ne_finished h.out
  have driven : w.drive (fuel + 1) = { w with driver := .awaitsSubmission } := by
    simp only [World.drive, active, closes, awaits, h.finished, Bool.false_eq_true, if_false,
      if_true]
  rw [driven]
  exact ⟨⟨h.frame.aside, h.dispatched, h.out, h.ready, h.finished, h.round⟩, rfl⟩

/-- With the next answer of the source the run goes on, or a batch goes out. -/
theorem Going.take (h : t.Going w left) {pull : Pull} {reading : FileReading} {later : Nat}
    (reached : t.Reached w.machine pulled) (canPull : w.machine.canPull = true)
    (ahead : t.Ahead (match pull with
        | .document _ => w.machine.phase
        | .finished | .failed _ => .draining) (.file reading) (pulled ++ [pull]) later)
    (allowance : Nat) :
    ∃ w₁ : World,
      ({ w with feed := .file reading, allowance := allowance } : World).takePull pull = w₁ ∧
      w₁.feed = .file reading ∧ w₁.allowance = allowance ∧
      (t.Going w₁ later ∨ ∃ batch, t.Launched w₁ w.machine.journal.dispatched batch later) := by
  obtain ⟨batch, out, dispatched, phase⟩ := w.machine.take_eq pull
  have step : w.machine.Step (.pull pull) (w.machine.take pull) :=
    Machine.step_of_step (by simp [Machine.step, canPull, reached.not_cancelled])
  rw [h.out, List.nil_append] at out
  rw [← phase] at ahead
  have taken := reached.step step (by simp) (fun s impossible => by contradiction)
  refine ⟨_, takePull_eq (w := { w with feed := .file reading, allowance := allowance }) h.out
    step out, rfl, rfl, ?_⟩
  cases batch with
  | none =>
      rw [Option.toList_none, List.append_nil] at dispatched
      refine .inl ⟨⟨⟨_, taken, ahead⟩, h.frame.quiet, ?_⟩, out, ?_, h.finished, h.round⟩
      · simp only [dispatched]
        exact h.frame.sink
      · simp only [h.ready, Option.toList_none, List.map_nil, List.append_nil]
  | some batch =>
      refine .inr ⟨batch, ⟨⟨_, taken, ahead⟩, h.frame.quiet, h.frame.sink⟩, dispatched, out, ?_,
        h.finished, h.round⟩
      simp only [h.ready, List.nil_append]
      rfl

/-- The driver goes on until it has to wait for the source or for a batch, or until all is done. -/
theorem drive_going (h : t.Going w left)
    (roomy : ∀ reading, w.feed = .file reading → reading.awaited.toNat < w.allowance)
    (enough : left + 2 ≤ fuel) : t.Stop (w.drive fuel) left := by
  -- Each document that fills no batch yet takes one from the fuel and one from what is left.
  induction fuel generalizing w left with
  | zero => omega
  | succ fuel ih =>
      obtain ⟨pulled, reached, ahead⟩ := h.frame.progress
      cases ahead with
      | draining off all => exact .done (drive_draining h off reached all fuel)
      | pulling reading documents on file sized here rest =>
          have allowed := roomy reading file
          obtain ⟨canPull, reads, takes⟩ := drive_pulling h on reached file (by omega) fuel
          rcases FileReading.poll_eq sized with polled | ⟨polled, less⟩
          · obtain ⟨later, fewer, ahead⟩ := ahead_next on sized here rest
            obtain ⟨w₁, taken, feed, allowance, goes⟩ :=
              h.take reached canPull ahead (w.allowance - reading.awaited.toNat)
            rw [takes _ _ _ polled, taken]
            rcases goes with going | ⟨batch, launched⟩
            · refine (ih going (fun other same => ?_) (by omega)).mono fewer.le
              obtain rfl := Feed.file.inj (feed.symm.trans same)
              rw [allowance, Bool.toNat_false]
              omega
            · obtain ⟨fuel, rfl⟩ := Nat.exists_eq_add_of_le' (show 1 ≤ fuel by omega)
              exact .onSubmission _ batch later fewer (launched.drive fuel)
          · rw [reads _ polled]
            refine .onSource _ (Nat.add_lt_add_left less _) ⟨⟨⟨pulled, reached, ?_⟩, h.frame.quiet,
              h.frame.sink⟩, h.out, rfl, h.finished, h.round, rfl⟩
            refine .pulling { reading.loadMore with awaited := true } documents on rfl ?_ ?_ rest
            · simpa [FileReading.Sized] using sized
            · simpa using here

theorem submission?_singleton {m : Machine} {s : Submission} (out : m.inFlight = [s]) :
    m.submission? s.sequence = some s := by
  simp [Machine.submission?, out]

theorem Settled.absorb {s : Submission} (h : t.Settled w s left) (round : 0 < w.round)
    (allowance : Nat) :
    ∃ w₁ : World, ({ w with finished := [], allowance := allowance } : World).absorb
      s.sequence = w₁ ∧
      w₁.feed = w.feed ∧ w₁.allowance = allowance ∧ t.Going w₁ left := by
  obtain ⟨pulled, reached, ahead⟩ := h.frame.progress
  obtain ⟨-, -, awaits⟩ := reached.awaits ahead.ne_finished h.out
  have found := submission?_singleton h.out
  have step := Machine.Step.absorb found awaits h.isOver
  have received := reached.quiet step (by simp) rfl fun other same => by
    obtain rfl := Option.some.inj (found.symm.trans same)
    exact h.delivered
  have quiet := received.not_stopped
  have taken := World.act_of_step (w := { w with finished := [], allowance := allowance }) step
  refine ⟨{ w with finished := [], allowance := allowance, machine := w.machine.receive s }, ?_,
    rfl, rfl, ?_⟩
  · simp only [World.absorb, taken, quiet, Bool.and_false, Bool.false_eq_true, if_false]
  · have phase : (w.machine.receive s).phase = w.machine.phase := by
      simp [Machine.receive, h.delivered.1]
    exact ⟨⟨⟨pulled, received, phase ▸ ahead⟩, h.frame.quiet, h.frame.sink⟩,
      by simp [Machine.receive, h.out], h.ready, rfl, round⟩

theorem drive_settled {s : Submission} (h : t.Settled w s left) (round : 0 < w.round)
    (roomy : ∀ reading, w.feed = .file reading → reading.awaited.toNat + 1 < w.allowance)
    (allowed : w.allowance ≠ 0) (enough : left + 3 ≤ fuel) : t.Stop (w.drive fuel) left := by
  obtain ⟨fuel, rfl⟩ := Nat.exists_eq_add_of_le' (show 1 ≤ fuel by omega)
  obtain ⟨pulled, reached, ahead⟩ := h.frame.progress
  obtain ⟨active, closes, awaits⟩ := reached.awaits ahead.ne_finished h.out
  obtain ⟨w₁, absorbed, feed, allowance, going⟩ := h.absorb round (w.allowance - 1)
  simp only [World.drive, active, closes, awaits, h.finished, allowed, Bool.false_eq_true, if_false,
    if_true, absorbed]
  refine drive_going going (fun reading same => ?_) (by omega)
  have := roomy reading (feed ▸ same)
  omega

theorem inFlight_change {m : Machine} {s s' : Submission} (action : Action) (out : m.inFlight = [s])
    (same : s'.sequence = s.sequence) : (m.change action s').inFlight = [s'] := by
  simp [Machine.change, out, same]

theorem request_eq {sink : FileSink} {whole : Bytes} {s : Submission} {m : Machine}
    (quick : w.expiresAtOnce = false) (backend : w.sink = .backend t.network (.file sink))
    (intact : sink.shelf.Intact whole)
    (step : w.machine.Step (.answer s.sequence (.statuses s.batch.acceptances)) m)
    (allowance : Nat) :
    w.request s allowance = ({ w with
      sink := .backend t.network (.file
        { sink with shelf := sink.shelf.write (FileSink.payload s.batch) .complete })
      machine := m }, allowance) := by
  have called : w.sink.call w.now (some w.machine.tracker.latest) s.batch =
      (⟨none, false, some (.statuses s.batch.acceptances)⟩, .backend t.network (.file
        { sink with shelf := sink.shelf.write (FileSink.payload s.batch) .complete })) := by
    simp only [backend, Sink.call, SinkBackend.bulk, FileSink.bulk_of_intact intact,
      SinkBackend.answerOf]
  simp only [World.request, quick, called, World.receive, World.settle, World.hear,
    Bool.false_eq_true, if_false, Option.isSome_some, if_true]
  exact congrArg (·, allowance) (World.act_of_step (w := { w with sink := _ }) step)

theorem answered_whole {m : Machine} {s : Submission} (out : m.inFlight = [s])
    (wire : s.stage = .sending) :
    ∃ s' m', m.Step (.answer s.sequence (.statuses s.batch.acceptances)) m' ∧ m'.inFlight = [s'] ∧
      s'.isOver = true ∧ s'.Delivered ∧ s'.sequence = s.sequence ∧
      m'.journal.dispatched = m.journal.dispatched ∧ m'.phase = m.phase := by
  obtain ⟨isOver, delivered⟩ := s.conclude_acceptances m.config.retryPolicy m.retriesStopped
  have moves : s.Moves m.config m.retriesStopped
      (.answer s.sequence (.statuses s.batch.acceptances)) _ :=
    .answer (.statuses s.batch.acceptances) wire
  exact ⟨_, _, .advance (submission?_singleton out) moves,
    inFlight_change _ out moves.sequence_eq, isOver, delivered, moves.sequence_eq, rfl, rfl⟩

theorem proceed_over {sequence : Nat} {s : Submission}
    (found : w.machine.submission? sequence = some s)
    (isOver : s.isOver = true) (fuel allowance : Nat) :
    w.proceed (fuel + 1) sequence allowance =
      ({ w with finished := w.finished ++ [sequence] } : World).wakeDriver .awaitsSubmission := by
  cases stage : s.stage with
  | reported _ | panicked _ => simp only [World.proceed, found, stage]
  | _ => simp [Submission.isOver, stage] at isOver

theorem proceed_queued {w₁ : World} {s s₁ : Submission} {m : Machine}
    (found : w.machine.submission? s.sequence = some s) (queued : s.stage = .queued)
    (send : w.machine.Step (.send s.sequence) m) (sent : m.submission? s.sequence = some s₁)
    {allowance : Nat}
    (asked : ({ w with machine := m } : World).request s₁ allowance = (w₁, allowance))
    (fuel : Nat) :
    w.proceed (fuel + 1) s.sequence allowance = w₁.proceed fuel s.sequence allowance := by
  simp only [World.proceed, found, queued, World.act_of_step send, sent, asked]

theorem Launched.expiresAtOnce_eq {batch : Batch} (h : t.Launched w sent batch left) :
    w.expiresAtOnce = false := by
  obtain ⟨pulled, reached, ahead⟩ := h.frame.progress
  rw [World.expiresAtOnce, reached.config_eq, decide_eq_false_iff_not]
  -- This batch goes out in a run over the source, so there has to be time for it.
  intro atOnce
  obtain ⟨actions, run, rfl, -⟩ := reached
  have nothing := t.inTime atOnce actions _ run ahead.pulledFrom
  rw [h.dispatched] at nothing
  exact List.append_ne_nil_of_right_ne_nil sent (List.cons_ne_nil _ _) nothing

/-- The batch that goes out is written whole. -/
theorem OnSubmission.handle {batch : Batch} (h : t.OnSubmission w sent batch left)
    (round fuel : Nat) :
    ∃ (w₁ : World) (s : Submission),
      ({ w with ready := [], round := round } : World).handle (fuel + 2)
        (.begin batch.sequence) = w₁ ∧
      w₁.allowance = w.allowance ∧ t.Settled w₁ s left := by
  obtain ⟨pulled, reached, ahead⟩ := h.frame.progress
  obtain ⟨sink, backend, name, intact⟩ := h.frame.sink
  let s : Submission := { Submission.of batch with attempts := 1, stage := .sending }
  have send : w.machine.Step (.send batch.sequence) (w.machine.change (.send batch.sequence) s) :=
    .advance (submission?_singleton h.out) (.send (.inl rfl))
  have out : (w.machine.change (.send batch.sequence) s).inFlight = [s] :=
    inFlight_change (.send batch.sequence) h.out rfl
  have sentOff := reached.quiet send (by simp) rfl (fun s impossible => by contradiction)
  obtain ⟨s', m', answer, out', isOver, delivered, same, dispatched, phase⟩ :=
    answered_whole (s := s) out rfl
  have settled := sentOff.quiet answer (by simp) rfl (fun s impossible => by contradiction)
  have asked := request_eq (w := { w with
    machine := w.machine.change (.send batch.sequence) s, ready := [], round := round })
    h.toLaunched.expiresAtOnce_eq backend intact answer World.turnSize
  refine ⟨{ w with
    machine := m', ready := [], round := round, finished := [s'.sequence], driver := .awake
    sink := .backend t.network (.file
      { sink with shelf := sink.shelf.write (FileSink.payload batch) .complete }) }, s', ?_,
      rfl, ?_⟩
  · have found : (w.machine.change (.send batch.sequence) s).submission? batch.sequence = some s :=
      submission?_singleton out
    have proceeds := proceed_queued (w := { w with ready := [], round := round })
      (submission?_singleton h.out) rfl send found asked (fuel + 1)
    refine proceeds.trans
      ((proceed_over (same ▸ submission?_singleton out') isOver fuel _).trans ?_)
    simp only [World.wakeDriver, h.driver, h.finished, if_true, List.nil_append, same]
    rfl
  · refine ⟨⟨⟨pulled, settled, phase ▸ ahead⟩, h.frame.quiet, _, rfl, name, ?_⟩, out', isOver,
      delivered, rfl, rfl, rfl⟩
    have written := intact.write (FileSink.payload batch) .complete
    have whole : (w.machine.change (.send batch.sequence) s).journal.dispatched = sent ++ [batch] :=
      h.dispatched
    rw [if_pos rfl, List.append_assoc] at written
    simpa only [dispatched, whole, List.flatMap_append, List.flatMap_singleton] using written

theorem turnOver_eq (h : t.Frame w sent left) :
    w.turnOver = { w with round := World.roundSize } := by
  simp [World.turnOver, h.quiet.1, h.quiet.2.1]

theorem going_turnOver (frame : t.Frame w w.machine.journal.dispatched left)
    (out : w.machine.inFlight = [])
    (ready : w.ready = []) (finished : w.finished = []) : t.Going w.turnOver left := by
  rw [turnOver_eq frame]
  exact ⟨frame.aside, out, ready, finished, Nat.zero_lt_succ 60⟩

theorem Settled.turnOver {s : Submission} (h : t.Settled w s left) :
    t.Settled w.turnOver s left := by
  rw [turnOver_eq h.frame]
  exact ⟨h.frame.aside, h.out, h.isOver, h.delivered, h.ready, h.finished, h.driver⟩

theorem play_turn {limit : Nat} (ready : w.ready = []) (awake : w.driver = .awake) (fuel : Nat) :
    w.play limit (fuel + 1) =
      if (w.turnOver.drive fuel).machine.isFinished then w.turnOver.drive fuel
      else World.play limit fuel { w.turnOver.drive fuel with allowance := World.turnSize } := by
  have still : w.turnOver.driver = .awake := awake
  rw [World.play, ready]
  simp only [still, if_true]

theorem play_event {limit : Nat} {event : Event} {rest : List Event}
    (ready : w.ready = event :: rest) (more : 0 < w.round) (fuel : Nat) :
    w.play limit (fuel + 1) = World.play limit fuel
      (({ w with ready := rest, round := w.round - 1 } : World).handle fuel event) := by
  obtain ⟨round, turns⟩ := Nat.exists_eq_add_of_le' more
  rw [World.play, ready, turns]
  rfl

variable {limit : Nat}

theorem OnSource.play (h : t.OnSource w left) (limit fuel : Nat) :
    ∃ w₁ : World, w.play limit (fuel + 1) = w₁.play limit fuel ∧
      w₁.ready = [] ∧ w₁.driver = .awake ∧
      w₁.allowance = w.allowance ∧ t.Going w₁.turnOver left := by
  refine ⟨{ w with ready := [], round := w.round - 1, driver := .awake }, ?_, rfl, rfl, rfl, ?_⟩
  · rw [play_event h.ready h.round]
    simp only [World.handle, World.wakeDriver, h.driver, if_true]
  · exact going_turnOver h.frame.aside h.out rfl h.finished

theorem OnSubmission.play {batch : Batch} (h : t.OnSubmission w sent batch left)
    (limit fuel : Nat) :
    ∃ (w₁ : World) (s : Submission), w.play limit (fuel + 3) = w₁.play limit (fuel + 2) ∧
      w₁.ready = [] ∧ w₁.driver = .awake ∧ w₁.allowance = w.allowance ∧
        t.Settled w₁.turnOver s left := by
  obtain ⟨w₁, s, handled, allowance, settled⟩ := h.handle (w.round - 1) fuel
  refine ⟨w₁, s, ?_, settled.ready, settled.driver, allowance, settled.turnOver⟩
  rw [play_event h.ready h.round, handled]

theorem Stop.allow (h : t.Stop w left) (allowance : Nat) :
    t.Stop { w with allowance := allowance } left := by
  cases h with
  | onSource later less h =>
      exact .onSource later less ⟨h.frame.aside, h.out, h.ready, h.finished, h.round, h.driver⟩
  | onSubmission sent batch later less h =>
      exact .onSubmission sent batch later less
        ⟨⟨h.frame.aside, h.dispatched, h.out, h.ready, h.finished, h.round⟩, h.driver⟩
  | done h => exact .done ⟨h.ended, h.reached, h.sink⟩

theorem not_isFinished (h : t.Frame w sent left) : w.machine.isFinished = false := by
  obtain ⟨pulled, reached, ahead⟩ := h.progress
  exact decide_eq_false ahead.ne_finished

/-- A run that the driver goes on with comes to its end. -/
theorem play_done (ready : w.ready = []) (awake : w.driver = .awake)
    (on : t.Going w.turnOver left ∨ ∃ s, t.Settled w.turnOver s left) (roomy : 2 < w.allowance)
    (enough : 2 * left + 5 ≤ fuel) : t.Done (w.play limit fuel) := by
  -- On what is left: a turn of the driver takes from it before the source or a batch has to be
  -- waited for, and then one event brings the driver back to where it can go on.
  induction left using Nat.strongRecOn generalizing w fuel with
  | _ left ih =>
      obtain ⟨fuel, rfl⟩ := Nat.exists_eq_add_of_le' (show 4 ≤ fuel by omega)
      have plenty : 2 < World.turnSize := by decide
      have same : w.turnOver.allowance = w.allowance := rfl
      have room (reading : FileReading) : reading.awaited.toNat + 1 < w.turnOver.allowance := by
        have short := reading.awaited.toNat_le
        omega
      have stop : t.Stop (w.turnOver.drive (fuel + 3)) left := by
        rcases on with going | ⟨s, settled⟩
        · exact drive_going going (fun reading _ => Nat.lt_of_succ_lt (room reading)) (by omega)
        · exact drive_settled settled (Nat.zero_lt_succ 60) (fun reading _ => room reading)
            (by omega) (by omega)
      rw [play_turn ready awake]
      cases stop.allow World.turnSize with
      | done h =>
          have ended : (w.turnOver.drive (fuel + 3)).machine.isFinished = true := h.ended
          rw [if_pos ended]
          exact ⟨h.ended, h.reached, h.sink⟩
      | onSource later less h =>
          have active := not_isFinished h.frame
          change (w.turnOver.drive (fuel + 3)).machine.isFinished = false at active
          obtain ⟨w₁, played, ready, awake, allowance, going⟩ := h.play limit (fuel + 2)
          rw [active, if_neg Bool.false_ne_true, played]
          exact ih later less ready awake (.inl going) (by rw [allowance]; exact plenty) (by omega)
      | onSubmission sent batch later less h =>
          have active := not_isFinished h.frame
          change (w.turnOver.drive (fuel + 3)).machine.isFinished = false at active
          obtain ⟨w₁, s, played, ready, awake, allowance, settled⟩ := h.play limit fuel
          rw [active, if_neg Bool.false_ne_true, played]
          exact ih later less ready awake (.inr ⟨s, settled⟩) (by rw [allowance]; exact plenty)
            (by omega)

end Transfer

end Simulation

end BulkIngest
