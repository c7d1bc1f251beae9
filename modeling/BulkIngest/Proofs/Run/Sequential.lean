import BulkIngest.Proofs.Run.Calls
import BulkIngest.Proofs.Run.Dispatch
import BulkIngest.Proofs.Run.Load
import BulkIngest.Proofs.Run.Published

/-!
Runs with one submission at a time. A document is pulled only when nothing is out, so batches come
in in the order in which they went out, the calls follow the batches and the attempts of each of
them, and outcomes are recorded in the order of pulls. A submission that brings a reason to stop is
the last one.
-/

namespace BulkIngest

/-- Calls in the order of batches, and of attempts for one batch. -/
def SinkCall.Before (call later : SinkCall) : Prop :=
  call.sequence < later.sequence ∨
    call.sequence = later.sequence ∧ call.attempt < later.attempt

namespace Machine

variable {config : PipelineConfig} {cancelled : Bool} {m m' : Machine} {action : Action}
  {actions : List Action} {settled : List Submission}

/-- A machine with one submission at a time, which is the last one that went out. -/
structure InTurn (m : Machine) (settled : List Submission) : Prop where
  single : m.inFlight.length ≤ 1
  order : (settled ++ m.inFlight).map (·.batch) = m.journal.dispatched
  calls : m.journal.calls = (settled ++ m.inFlight).flatMap (·.calls)
  last : ∀ s ∈ settled, s.halt?.isSome = true → m.inFlight = []

theorem inTurn_start : InTurn (.start config cancelled) [] :=
  ⟨Nat.zero_le _, rfl, rfl, fun _ _ _ => rfl⟩

/-- The only submission that is out. -/
theorem InTurn.eq_singleton (h : InTurn m settled) {s : Submission} (mem : s ∈ m.inFlight) :
    m.inFlight = [s] := by
  obtain ⟨other, only⟩ := List.length_eq_one_iff.mp
    (Nat.le_antisymm h.single (List.length_pos_of_mem mem))
  rw [only, List.mem_singleton] at mem
  rw [only, mem]

theorem inFlight_eq_nil (single : m.config.maxInFlight = 1) (room : m.canPull = true) :
    m.inFlight = [] := by
  have free := length_lt_of_canPull room
  rw [single] at free
  exact List.length_eq_zero_iff.mp (Nat.lt_one_iff.mp free)

theorem InTurn.dispatch (h : InTurn m settled) (phased : Phased m settled)
    (single : m.config.maxInFlight = 1) (room : m.canPull = true) (batch : Option Batch)
    (batcher : Batcher) (phase : Phase) (position : Nat) :
    InTurn ({ m with phase, position, batcher }.dispatch? batch) settled := by
  have out := inFlight_eq_nil single room
  have unhalted := phased.pulling (pulling_of_canPull room)
  have order := h.order
  have calls := h.calls
  rw [out, List.append_nil] at order calls
  rw [dispatch?_eq]
  refine ⟨?_, ?_, ?_, fun s mem reason => ?_⟩
  · rw [out]
    cases batch <;> simp
  · cases batch <;> simp [out, order, Submission.of]
  · cases batch <;> simp [out, calls, Submission.of, Submission.calls]
  · have halted := phased.reasons s mem reason
    simp [unhalted] at halted

theorem InTurn.step (h : InTurn m settled) (phased : Phased m settled)
    (single : m.config.maxInFlight = 1) (step : m.Step action m') :
    InTurn m' (settled ++ (m.absorbedBy action).toList) := by
  cases step with
  | cancel | failed _ _ _ | stop _ _ | close _ =>
      rw [append_absorbedBy rfl]
      exact ⟨h.single, h.order, h.calls, h.last⟩
  | document d room going =>
      rw [append_absorbedBy rfl]
      exact h.dispatch phased single room _ _ m.phase _
  | ended room going =>
      rw [append_absorbedBy rfl]
      exact h.dispatch phased single room _ _ .draining m.position
  | @advance _ s s' found moves =>
      have only := h.eq_singleton (submission?_eq_some found).1
      have order := h.order
      have calls := h.calls
      rw [only] at order calls
      rw [append_absorbedBy (absorbedBy_of_moves moves)]
      refine ⟨?_, ?_, ?_, ?_⟩
      · simpa [Machine.change] using h.single
      · simpa [Machine.change, only, moves.sequence_eq, moves.batch_eq] using order
      · simp [Machine.change, only, moves.sequence_eq, moves.calls_eq, calls]
      · intro other mem reason
        simp [Machine.change, h.last other mem reason]
  | @absorb s found awaits ended =>
      have only := h.eq_singleton (submission?_eq_some found).1
      have order := h.order
      have calls := h.calls
      have out : (m.receive s).inFlight = [] := by simp [Machine.receive, only]
      rw [only] at order calls
      simp only [absorbedBy, found, Option.toList_some]
      refine ⟨by simp [out], ?_, ?_, fun _ _ _ => out⟩
      · rw [out, List.append_nil]
        exact order
      · rw [out, List.append_nil]
        exact calls

theorem inTurn_of_run (single : config.maxInFlight = 1)
    (run : (Machine.start config cancelled).run? actions = some m) :
    InTurn m ((Machine.start config cancelled).absorbed actions) := by
  refine run_induction
    (P := fun actions m => InTurn m ((Machine.start config cancelled).absorbed actions))
    inTurn_start ?_ run
  intro actions m action m' run ih step
  rw [absorbed_concat action run]
  exact ih.step (phased_of_run run) (config_of_run run ▸ single) step

theorem InTurn.sequences (h : InTurn m settled) (custody : Custody m settled) :
    (settled ++ m.inFlight).map (·.sequence) =
      List.range' 1 (settled ++ m.inFlight).length := by
  have numbered := custody.numbered
  rw [← h.order, List.map_map, List.length_map] at numbered
  exact numbered

theorem InTurn.pairwise_calls (h : InTurn m settled) (custody : Custody m settled) :
    m.journal.calls.Pairwise SinkCall.Before := by
  have ascending : (settled ++ m.inFlight).Pairwise fun s later => s.sequence < later.sequence := by
    rw [← List.pairwise_map, h.sequences custody]
    exact List.pairwise_lt_range'
  rw [h.calls, List.pairwise_flatMap]
  constructor
  · intro s _
    rw [Submission.calls, List.pairwise_map]
    exact List.Pairwise.imp (fun earlier => .inr ⟨rfl, earlier⟩) List.pairwise_lt_range'
  · refine ascending.imp fun {s later} earlier call mem call' mem' => ?_
    obtain ⟨attempt, -, rfl⟩ := List.mem_map.mp mem
    obtain ⟨attempt', -, rfl⟩ := List.mem_map.mp mem'
    exact .inl earlier

/-- A call on the wire is one of the only submission that is out. -/
theorem InTurn.singleton_of_open (h : InTurn m settled) (calls : CallsOut m actions)
    {sequence : Nat} (open_ : lastCall? m.config sequence actions = some none) :
    ∃ s, m.inFlight = [s] ∧ s.sequence = sequence := by
  obtain ⟨s, mem, same⟩ := List.mem_map.mp (calls sequence open_)
  exact ⟨s, h.eq_singleton mem, same⟩

/-- A call begins only when there is none on the wire. -/
theorem InTurn.quiet_of_send (h : InTurn m settled) (answered : Answered m actions settled)
    (calls : CallsOut m actions) {sequence : Nat} (step : m.Step (.send sequence) m')
    (other : Nat) : lastCall? m.config other actions ≠ some none := by
  intro open_
  obtain ⟨s, only, rfl⟩ := h.singleton_of_open calls open_
  cases step with
  | @advance _ s' _ found moves =>
      have mem := (submission?_eq_some found).1
      rw [only, List.mem_singleton] at mem
      subst mem
      have stands := answered.stands s' (List.mem_append_right _ (submission?_eq_some found).1)
      rw [open_] at stands
      cases moves with
      | send due =>
          cases stands with
          | sending stage _ _ => rcases due with queued | ⟨last, rested⟩ <;> simp_all

/-- While a batch is out, the documents with an outcome are those of the batches before it. -/
theorem InTurn.length_recorded (h : InTurn m settled) (custody : Custody m settled)
    (answered : Answered m actions settled) {docs : List Document} {unsent : List BulkItem}
    (ledger : Ledger m docs settled unsent) (phased : Phased m settled) {s : Submission}
    (only : m.inFlight = [s]) :
    m.journal.recorded.length =
      ((m.journal.dispatched.filter (·.sequence < s.sequence)).map (·.size)).sum := by
  have active : m.phase ≠ .finished := fun finished => by
    simpa [only] using (phased.finished finished).1
  have numbers := h.sequences custody
  have order := h.order
  rw [only] at numbers order
  rw [List.map_append, List.length_append, List.length_singleton, List.range'_concat,
    List.map_singleton] at numbers
  obtain ⟨before, here⟩ := List.append_inj' numbers rfl
  have here : s.sequence = 1 + settled.length := by simpa using here
  have earlier : m.journal.dispatched.filter (·.sequence < s.sequence) = settled.map (·.batch) := by
    rw [← order, List.map_append, List.filter_append, List.filter_eq_self.mpr ?_]
    · simp [Submission.sequence]
    · intro batch mem
      obtain ⟨other, here', rfl⟩ := List.mem_map.mp mem
      have number : other.sequence ∈ settled.map (·.sequence) := List.mem_map_of_mem here'
      rw [before, List.mem_range'_1] at number
      exact decide_eq_true (here ▸ number.2)
  rw [earlier, ledger.recorded, ledger.active active, unsentOutcomesOf_nil, List.append_nil,
    length_outcomes answered, List.map_map]
  rfl

/-- Outcomes are recorded in the order of pulls. -/
theorem InTurn.positions_recorded (h : InTurn m settled) (answered : Answered m actions settled)
    {docs : List Document} {unsent : List BulkItem} (ledger : Ledger m docs settled unsent)
    (phased : Phased m settled) :
    m.journal.recorded.map (·.ref.position) = List.range m.journal.recorded.length := by
  have refs : m.journal.recorded.map (·.ref) =
      settled.flatMap (·.batch.refs) ++ unsent.map (·.ref) := by
    rw [ledger.recorded, List.map_append, refs_outcomes answered,
      refs_unsentOutcomesOf ledger.reason]
  have items : settled.flatMap (·.batch.refs) ++ m.inFlight.flatMap (·.batch.refs) ++
      unsent.map (·.ref) ++ m.batcher.pending.map (·.ref) = (m.config.items docs).map (·.ref) := by
    rw [← ledger.items, ← h.order, List.map_append, List.map_append, List.map_flatMap,
      List.flatMap_map, List.flatMap_append]
    rfl
  have ahead : m.journal.recorded.map (·.ref) <+: (m.config.items docs).map (·.ref) := by
    rw [refs, ← items]
    by_cases finished : m.phase = .finished
    · rw [(phased.finished finished).1, List.flatMap_nil, List.append_nil]
      exact List.prefix_append _ _
    · rw [ledger.active finished, List.map_nil, List.append_nil, List.append_nil, List.append_assoc]
      exact List.prefix_append _ _
  have positions := ahead.map (·.position)
  rw [List.map_map, List.map_map] at positions
  have range : (m.config.items docs).map ((·.position) ∘ (·.ref)) = List.range docs.length :=
    m.config.positions_items docs
  rw [range, List.prefix_iff_eq_take, List.take_range, List.length_map] at positions
  have short : m.journal.recorded.length ≤ docs.length := by
    have length := ahead.length_le
    rwa [List.length_map, List.length_map, PipelineConfig.length_items] at length
  rw [Nat.min_eq_left short] at positions
  exact positions

/-- A machine that begins nothing any more: whatever is still out brings a reason to stop, and
something is as long as the run would otherwise pull. -/
structure Spent (m : Machine) : Prop where
  single : m.config.maxInFlight = 1
  bring : ∀ s ∈ m.inFlight, s.halt?.isSome = true
  full : m.phase = .pulling → m.inFlight ≠ []

theorem Spent.not_canPull (h : Spent m) : m.canPull = false := by
  by_contra room
  rw [Bool.not_eq_false] at room
  exact h.full (pulling_of_canPull room) (inFlight_eq_nil h.single room)

theorem not_moves_of_halt {s s' : Submission} {stopped : Bool} (reason : s.halt?.isSome = true) :
    ¬s.Moves config stopped action s' := by
  intro moves
  cases moves with
  | send due => rcases due with queued | ⟨last, rested⟩ <;> simp_all [Submission.halt?]
  | answer _ wire | timeOut wire => simp [Submission.halt?, wire] at reason
  | wake last rest => simp [Submission.halt?, rest] at reason
  | abandon last rest stopping =>
      rcases rest with rest | rest <;> simp [Submission.halt?, rest] at reason

theorem Spent.step (h : Spent m) (step : m.Step action m') :
    Spent m' ∧ action.pull? = none ∧ m'.journal.calls = m.journal.calls ∧
      m'.journal.dispatched = m.journal.dispatched := by
  cases step with
  | cancel => exact ⟨⟨h.single, h.bring, h.full⟩, rfl, rfl, rfl⟩
  | document _ room _ | ended room _ | failed _ room _ | stop room _ =>
      rw [h.not_canPull] at room
      contradiction
  | advance found moves =>
      exact (not_moves_of_halt (h.bring _ (submission?_eq_some found).1) moves).elim
  | @absorb s found awaits ended =>
      have reason := h.bring s (submission?_eq_some found).1
      refine ⟨⟨h.single, fun other mem => h.bring other (List.mem_of_mem_filter mem), ?_⟩,
        rfl, rfl, rfl⟩
      intro pulling
      simp [Machine.receive, reason] at pulling
  | close done =>
      exact ⟨⟨h.single, h.bring, fun pulling => by contradiction⟩, rfl, rfl, rfl⟩

theorem Spent.run (h : Spent m) {after : List Action} (run : m.run? after = some m') :
    pulls after = [] ∧ m'.journal.calls = m.journal.calls ∧
      m'.journal.dispatched = m.journal.dispatched := by
  induction after generalizing m with
  | nil =>
      cases run
      exact ⟨rfl, rfl, rfl⟩
  | cons action rest ih =>
      rw [run?_cons, Option.bind_eq_some_iff] at run
      obtain ⟨next, step, run⟩ := run
      obtain ⟨spent, quiet, calls, dispatched⟩ := h.step (step_of_step step)
      obtain ⟨unpulled, calls', dispatched'⟩ := ih spent run
      refine ⟨?_, calls'.trans calls, dispatched'.trans dispatched⟩
      rw [pulls, List.filterMap_cons, quiet]
      exact unpulled

/-- A submission that brings a reason to stop, in or still out, is the last one. -/
theorem InTurn.spent (h : InTurn m settled) (phased : Phased m settled)
    (single : m.config.maxInFlight = 1) {s : Submission} (mem : s ∈ settled ++ m.inFlight)
    (reason : s.halt?.isSome = true) : Spent m := by
  rcases List.mem_append.mp mem with mem | mem
  · have out := h.last s mem reason
    refine ⟨single, fun other here => by simp [out] at here, fun pulling => ?_⟩
    have halted := phased.reasons s mem reason
    simp [phased.pulling pulling] at halted
  · have only := h.eq_singleton mem
    refine ⟨single, fun other here => ?_, fun _ => by simp [only]⟩
    rw [only, List.mem_singleton] at here
    exact here ▸ reason

/-- With one submission at a time calls never overlap and follow the batches and their attempts;
while a batch is on the wire, the documents attempted so far are those of the batches before it;
outcomes are recorded in the order of pulls; and once a submission has failed or broken down nothing
is pulled or sent any more. -/
theorem one_at_a_time (config : PipelineConfig) (cancelled : Bool) (actions : List Action)
    (m : Machine) (single : config.maxInFlight = 1)
    (run : (Machine.start config cancelled).run? actions = some m) :
    (∀ sequence sequence', lastCall? config sequence actions = some none →
      lastCall? config sequence' actions = some none → sequence = sequence') ∧
    (∀ sequence m', m.step (.send sequence) = some m' →
      ∀ other, lastCall? config other actions ≠ some none) ∧
    m.journal.calls.Pairwise SinkCall.Before ∧
    (∀ sequence, lastCall? config sequence actions = some none →
      m.tracker.latest.attempted =
        ((m.journal.dispatched.filter (·.sequence < sequence)).map (·.size)).sum) ∧
    m.journal.recorded.map (·.ref.position) = List.range m.journal.recorded.length ∧
    (∀ s ∈ (Machine.start config cancelled).absorbed actions ++ m.inFlight,
      s.halt?.isSome = true → ∀ after m', m.run? after = some m' →
        pulls after = [] ∧ m'.journal.calls = m.journal.calls ∧
          m'.journal.dispatched = m.journal.dispatched) := by
  have turn := inTurn_of_run single run
  have custody := custody_of_run run
  have answered := answered_of_run run
  have phased := phased_of_run run
  have calls := callsOut_of_run run
  have same := config_of_run run
  obtain ⟨unsent, ledger⟩ := ledger_of_run run
  refine ⟨?_, ?_, turn.pairwise_calls custody, ?_,
    turn.positions_recorded answered ledger phased, ?_⟩
  · intro sequence sequence' open_ open'
    rw [← same] at open_ open'
    obtain ⟨s, only, rfl⟩ := turn.singleton_of_open calls open_
    obtain ⟨s', only', rfl⟩ := turn.singleton_of_open calls open'
    rw [only, List.cons.injEq] at only'
    rw [only'.1]
  · intro sequence m' step other
    rw [← same]
    exact turn.quiet_of_send answered calls (step_of_step step) other
  · intro sequence open_
    rw [← same] at open_
    obtain ⟨s, only, rfl⟩ := turn.singleton_of_open calls open_
    rw [latest_eq_snapshot run, ledger.counted,
      ← turn.length_recorded custody answered ledger phased only]
    exact Nat.zero_add _
  · intro s mem reason after m' later
    exact (turn.spent phased (same ▸ single) mem reason).run later

/-- Every item is larger than a batch should be, so each batch goes out when the next document is
there. The second batch is being sent again. -/
def narrowRun : List Action :=
  [.pull (.document []), .pull (.document []), .send 1, .answer 1 (.statuses [.accepted none]),
    .absorb 1, .pull (.document []), .send 2, .answer 2 (.failed (.connection "reset")), .wake 2,
    .send 2]

def narrowConfig : PipelineConfig := { indexTarget := "idx", maxBatchBytes := 1, maxRetries := 1 }

theorem narrowRun_runs :
    ((Machine.start narrowConfig false).run? narrowRun).any (fun m =>
      decide (m.journal.calls = [⟨1, 1⟩, ⟨2, 1⟩, ⟨2, 2⟩]) &&
      decide ((m.journal.dispatched.filter (·.sequence < 2)).map (·.size) = [1])) = true := by
  decide +kernel

theorem narrowRun_fails :
    ((Machine.start narrowConfig false).run? (narrowRun ++ [.timeOut 2])).any (fun m =>
      m.inFlight.any (·.halt?.isSome) && (m.run? [.absorb 2, .close]).any (·.isFinished)) =
        true := by
  decide +kernel

theorem one_at_a_time_narrowRun :
    (∃ m, narrowConfig.maxInFlight = 1 ∧
      (Machine.start narrowConfig false).run? narrowRun = some m ∧
      m.journal.calls = [⟨1, 1⟩, ⟨2, 1⟩, ⟨2, 2⟩] ∧ m.journal.calls.Pairwise SinkCall.Before ∧
      m.tracker.latest.attempted = 1) ∧
    ∃ m m', (Machine.start narrowConfig false).run? (narrowRun ++ [.timeOut 2]) = some m ∧
      m.run? [.absorb 2, .close] = some m' ∧ m'.isFinished = true ∧
      m'.journal.dispatched = m.journal.dispatched := by
  constructor
  · obtain ⟨m, run, seen⟩ := (Option.any_eq_true _ _).mp narrowRun_runs
    simp only [Bool.and_eq_true, decide_eq_true_eq] at seen
    obtain ⟨-, -, ordered, attempted, -⟩ :=
      one_at_a_time narrowConfig false narrowRun m rfl run
    refine ⟨m, rfl, run, seen.1, ordered, ?_⟩
    rw [attempted 2 rfl, seen.2]
    rfl
  · obtain ⟨m, run, seen⟩ := (Option.any_eq_true _ _).mp narrowRun_fails
    simp only [Bool.and_eq_true] at seen
    obtain ⟨s, mem, reason⟩ := List.any_eq_true.mp seen.1
    obtain ⟨m', later, finished⟩ := (Option.any_eq_true _ _).mp seen.2
    have nothing := (one_at_a_time narrowConfig false (narrowRun ++ [.timeOut 2]) m rfl
      run).2.2.2.2.2 s (List.mem_append_right _ mem) reason _ m' later
    exact ⟨m, m', run, later, finished, nothing.2.2⟩

end Machine

end BulkIngest
