import BulkIngest.Proofs.Batching.Calls
import BulkIngest.Proofs.Run.Completion

/-!
The batches of a run are settled before it starts: they are what the batcher makes of the documents
that the source has. A run sends them in order, all of them if it sees the end of the source, and
otherwise the first ones.
-/

namespace BulkIngest

/-- The batches of documents that are pulled from the first one on. -/
def PipelineConfig.batches (config : PipelineConfig) (docs : List Document) : List Batch :=
  (Batcher.empty config.maxBatchCount.toNat config.maxBatchBytes.toNat).cut (config.items docs)

theorem PipelineConfig.drop_items (config : PipelineConfig) (docs more : List Document)
    (d : Document) :
    (config.items (docs ++ d :: more)).drop docs.length =
      config.prepare docs.length d ::
        (config.items (docs ++ [d] ++ more)).drop (docs.length + 1) := by
  have bound : docs.length < (config.items (docs ++ d :: more)).length := by
    simp [length_items]
  rw [List.drop_eq_getElem_cons bound, List.append_assoc, List.singleton_append]
  simp [items]

namespace Machine

variable {config : PipelineConfig} {cancelled : Bool} {m m' : Machine} {action : Action}
  {actions : List Action} {settled : List Submission}

structure Cutting (m : Machine) (actions : List Action) : Prop where
  pulling : m.phase = .pulling → ∀ more, m.journal.dispatched ++
    m.batcher.cut ((m.config.items (documents actions ++ more)).drop (documents actions).length) =
      m.config.batches (documents actions ++ more)
  ended : .pull .finished ∈ actions → m.journal.dispatched = m.config.batches (documents actions)
  ahead : .pull .finished ∉ actions → ∀ more,
    m.journal.dispatched <+: m.config.batches (documents actions ++ more)

theorem cutting_start : Cutting (.start config cancelled) [] :=
  ⟨fun _ _ => rfl, fun ended => by simp at ended, fun _ _ => List.nil_prefix⟩

/-- A step that pulls no document and sends no batch. -/
theorem Cutting.carry (h : Cutting m actions) (other : action ≠ .pull .finished)
    (quiet : action.document? = none) (config : m'.config = m.config)
    (phase : m'.phase = .pulling → m.phase = .pulling)
    (batcher : m'.phase = .pulling → m'.batcher = m.batcher)
    (dispatched : m'.journal.dispatched = m.journal.dispatched) :
    Cutting m' (actions ++ [action]) := by
  have same : documents (actions ++ [action]) = documents actions := by
    rw [documents_concat, quiet, Option.toList_none, List.append_nil]
  constructor
  · intro pulling
    rw [same, config, dispatched, batcher pulling]
    exact h.pulling (phase pulling)
  · rw [mem_concat_iff other, same, config, dispatched]
    exact h.ended
  · rw [mem_concat_iff other, same, config, dispatched]
    exact h.ahead

theorem Cutting.document (h : Cutting m actions) (concluded : Concluded m actions settled)
    (pulling : m.phase = .pulling) (position : m.position = (documents actions).length)
    (d : Document) :
    Cutting ({ m with
      position := m.position + 1
      batcher := (m.batcher.push (m.config.prepare m.position d)).2 }.dispatch?
      (m.batcher.push (m.config.prepare m.position d)).1) (actions ++ [.pull (.document d)]) := by
  have docs : documents (actions ++ [.pull (.document d)]) = documents actions ++ [d] :=
    documents_concat _ _
  have cut : ∀ more, m.journal.dispatched ++
      (m.batcher.push (m.config.prepare m.position d)).1.toList ++
      (m.batcher.push (m.config.prepare m.position d)).2.cut
        ((m.config.items (documents actions ++ [d] ++ more)).drop
          ((documents actions).length + 1)) =
      m.config.batches (documents actions ++ [d] ++ more) := by
    intro more
    have before := h.pulling pulling (d :: more)
    rw [m.config.drop_items, Batcher.cut, ← position, ← List.append_assoc] at before
    rw [List.append_assoc (documents actions), List.singleton_append, ← before, position,
      List.append_assoc (documents actions), List.singleton_append]
  rw [dispatch?_eq]
  constructor
  · intro _ more
    rw [docs, List.length_append, List.length_singleton]
    exact cut more
  · rw [mem_concat_iff (by simp)]
    exact fun ended => (concluded.pulling pulling ended).elim
  · intro _ more
    rw [docs]
    exact ⟨_, cut more⟩

theorem Cutting.finish (h : Cutting m actions) (pulling : m.phase = .pulling) :
    Cutting ({ m with phase := .draining, batcher := m.batcher.flush.2 }.dispatch?
      m.batcher.flush.1) (actions ++ [.pull .finished]) := by
  have docs : documents (actions ++ [.pull .finished]) = documents actions := by
    simp [documents_concat, Action.document?]
  have cut := h.pulling pulling []
  have used : (m.config.items (documents actions)).drop (documents actions).length = [] :=
    List.drop_of_length_le (Nat.le_of_eq (m.config.length_items _))
  rw [List.append_nil, used, Batcher.cut] at cut
  rw [dispatch?_eq]
  refine ⟨fun idle => by contradiction, fun _ => ?_, fun open_ => (open_ (by simp)).elim⟩
  rw [docs]
  exact cut

theorem Cutting.step (h : Cutting m actions) (concluded : Concluded m actions settled)
    (position : m.position = (documents actions).length) (step : m.Step action m') :
    Cutting m' (actions ++ [action]) := by
  cases step with
  | cancel => exact h.carry (by simp) rfl rfl id (fun _ => rfl) rfl
  | document d room going => exact h.document concluded (pulling_of_canPull room) position d
  | ended room going => exact h.finish (pulling_of_canPull room)
  | failed reason room going =>
      exact h.carry (by simp) rfl rfl (fun idle => by contradiction) (fun _ => rfl) rfl
  | stop room asked =>
      exact h.carry (by simp) rfl rfl (fun idle => by contradiction) (fun _ => rfl) rfl
  | advance found moves =>
      refine h.carry ?_ ?_ rfl id (fun _ => rfl) rfl
      · rintro rfl
        cases moves
      · cases moves <;> rfl
  | absorb found awaits ended =>
      refine h.carry (by simp) rfl rfl ?_ (fun _ => rfl) rfl
      intro pulling
      simp only [Machine.receive] at pulling
      split at pulling
      · contradiction
      · exact pulling
  | close done =>
      exact h.carry (by simp) rfl rfl (fun idle => by contradiction)
        (fun idle => by contradiction) rfl

theorem cutting_of_run (run : (Machine.start config cancelled).run? actions = some m) :
    Cutting m actions := by
  refine run_induction (P := fun actions m => Cutting m actions) cutting_start ?_ run
  intro actions m action m' run ih step
  obtain ⟨unsent, ledger⟩ := ledger_of_run run
  exact ih.step (concluded_of_run run) ledger.position step

end Machine

end BulkIngest
