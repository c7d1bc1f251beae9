import BulkIngest.Proofs.Run.Custody

/-!
Every submission stands where the last call for its batch left it. Batches that are not out yet were
never called for, and a batch that was called for has its call in the journal.
-/

namespace BulkIngest

/-- A submission that is over brings the outcomes that the last answer has for its batch. -/
theorem Submission.Stands.outcomes_eq {policy : RetryPolicy} {stopped : Bool} {s : Submission}
    {last : Option (Option Answer)} (h : Stands policy stopped s last) (ended : s.isOver = true) :
    ∃ a, last = some (some a) ∧ s.outcomes = s.batch.outcomesOf (s.batch.reading a) := by
  cases h with
  | queued fresh =>
      rw [fresh] at ended
      contradiction
  | sending stage begun budget => simp [isOver, stage] at ended
  | resting e stage begun budget read again =>
      rcases stage with stage | stage <;> simp [isOver, stage] at ended
  | delivered outcomes stage begun read =>
      exact ⟨_, rfl, by simp only [Submission.outcomes, stage, read, Batch.outcomesOf]⟩
  | exhausted e stage begun read final =>
      exact ⟨_, rfl, by simp only [Submission.outcomes, stage, read, Batch.outcomesOf]⟩
  | abandoned e stage begun budget read again stopping =>
      exact ⟨_, rfl, by simp only [Submission.outcomes, stage, read, Batch.outcomesOf]⟩
  | panicked message stage begun read =>
      exact ⟨_, rfl, by simp only [Submission.outcomes, stage, read, Batch.outcomesOf]⟩

theorem lastCall?_of_ne {config : PipelineConfig} {sequence : Nat} {action : Action}
    (actions : List Action) (other : action.sequence? ≠ some sequence) :
    lastCall? config sequence (actions ++ [action]) = lastCall? config sequence actions := by
  rw [lastCall?_concat, if_neg other]

theorem lastCall?_of_eq {config : PipelineConfig} {sequence : Nat} {action : Action}
    (actions : List Action) (same : action.sequence? = some sequence) :
    lastCall? config sequence (actions ++ [action]) =
      Submission.lastAfter config (lastCall? config sequence actions) action := by
  rw [lastCall?_concat, if_pos same]

theorem lastCall?_absorb (config : PipelineConfig) (sequence absorbed : Nat)
    (actions : List Action) :
    lastCall? config sequence (actions ++ [.absorb absorbed]) =
      lastCall? config sequence actions := by
  rw [lastCall?_concat]
  exact ite_self _

namespace Machine

variable {config : PipelineConfig} {cancelled : Bool} {m m' : Machine} {action : Action}
  {actions : List Action} {settled : List Submission}

theorem Step.config_eq (step : m.Step action m') : m'.config = m.config := by
  cases step with
  | document d room going | ended room going => rw [dispatch?_eq]
  | _ => rfl

theorem config_of_run (run : (Machine.start config cancelled).run? actions = some m) :
    m.config = config := by
  refine run_induction (P := fun _ m => m.config = config) rfl ?_ run
  intro actions m action m' run ih step
  exact step.config_eq.trans ih

structure Answered (m : Machine) (actions : List Action) (settled : List Submission) :
    Prop where
  stands : ∀ s ∈ settled ++ m.inFlight,
    s.Stands m.config.retryPolicy m.retriesStopped (lastCall? m.config s.sequence actions)
  fresh : ∀ sequence, m.journal.dispatched.length < sequence →
    lastCall? m.config sequence actions = none
  called : ∀ sequence, lastCall? m.config sequence actions ≠ none →
    ∃ call ∈ m.journal.calls, call.sequence = sequence
  ended : ∀ s ∈ settled, s.isOver = true

theorem answered_start : Answered (.start config cancelled) [] [] :=
  ⟨fun _ mem => by simp [start] at mem, fun _ _ => rfl, fun _ h => (h rfl).elim,
    fun _ mem => by simp at mem⟩

/-- A step that is about no batch, and leaves the submissions as they are. -/
theorem Answered.idle (h : Answered m actions settled) (quiet : action.sequence? = none)
    (config : m'.config = m.config) (inFlight : m'.inFlight = m.inFlight)
    (journal : m'.journal.dispatched = m.journal.dispatched ∧
      m'.journal.calls = m.journal.calls)
    (later : m.retriesStopped = true → m'.retriesStopped = true) :
    Answered m' (actions ++ [action]) settled := by
  have same : ∀ sequence, lastCall? m.config sequence (actions ++ [action]) =
      lastCall? m.config sequence actions :=
    fun sequence => lastCall?_of_ne actions (by simp [quiet])
  constructor
  · intro s mem
    rw [inFlight] at mem
    rw [config, same]
    exact (h.stands s mem).mono later
  · intro sequence
    rw [config, journal.1, same]
    exact h.fresh sequence
  · intro sequence
    rw [config, journal.2, same]
    exact h.called sequence
  · exact h.ended

theorem Answered.dispatch (h : Answered m actions settled) (custody : Custody m settled)
    (quiet : action.sequence? = none) {new : List BulkItem} {result : Option Batch × Batcher}
    (hands : m.batcher.HandsOver new result.1.toList result.2) (active : m.phase ≠ .finished)
    (phase : Phase) (position : Nat) :
    Answered ({ m with phase, position, batcher := result.2 }.dispatch? result.1)
      (actions ++ [action]) settled := by
  have same : ∀ sequence, lastCall? m.config sequence (actions ++ [action]) =
      lastCall? m.config sequence actions :=
    fun sequence => lastCall?_of_ne actions (by simp [quiet])
  rw [dispatch?_eq]
  constructor
  · intro s mem
    simp only [← List.append_assoc, List.mem_append (s := settled ++ m.inFlight),
      List.mem_map] at mem
    rw [same]
    rcases mem with mem | ⟨batch, handed, rfl⟩
    · exact h.stands s mem
    · have number : batch.sequence ∈
          List.range' (m.batcher.sequence + 1) result.1.toList.length := by
        rw [← hands.numbered]
        exact List.mem_map_of_mem handed
      rw [custody.next active, List.mem_range'_1] at number
      have uncalled : lastCall? m.config (Submission.of batch).sequence actions = none :=
        h.fresh _ (by exact number.1)
      rw [uncalled]
      exact .queued rfl
  · intro sequence beyond
    simp only [List.length_append] at beyond
    rw [same]
    exact h.fresh sequence (by omega)
  · intro sequence
    rw [same]
    exact h.called sequence
  · exact h.ended

theorem Answered.change (h : Answered m actions settled) (custody : Custody m settled)
    {s s' : Submission} (found : m.submission? s.sequence = some s)
    (moves : s.Moves m.config m.retriesStopped action s') :
    Answered (m.change action s') (actions ++ [action]) settled := by
  have about := moves.sequence?_eq
  have mem := (submission?_eq_some found).1
  have before := h.stands s (List.mem_append_right _ mem)
  have others : ∀ other ∈ settled ++ m.inFlight, other.sequence ≠ s.sequence →
      other.Stands m.config.retryPolicy m.retriesStopped
        (lastCall? m.config other.sequence (actions ++ [action])) := by
    intro other here different
    rw [lastCall?_of_ne actions (by simp [about, different.symm])]
    exact h.stands other here
  constructor
  · intro other here
    rcases List.mem_append.mp here with here | here
    · refine others other (List.mem_append_left _ here) ?_
      have distinct := custody.distinct
      rw [List.map_append, List.nodup_append] at distinct
      exact distinct.2.2 _ (List.mem_map_of_mem here) _ (List.mem_map_of_mem mem)
    · obtain ⟨old, old_here, rfl⟩ := List.mem_map.mp here
      split
      · rw [moves.sequence_eq, lastCall?_of_eq actions about]
        exact before.move moves
      · rename_i different
        rw [moves.sequence_eq] at different
        exact others old (List.mem_append_right _ old_here) different
  · intro sequence beyond
    have here : s.sequence ≤ m.journal.dispatched.length := by
      have number : s.sequence ∈ m.journal.dispatched.map (·.sequence) :=
        List.mem_map_of_mem (custody.mem_dispatched (List.mem_append_right _ mem))
      rw [custody.numbered, List.mem_range'_1] at number
      omega
    have beyond : m.journal.dispatched.length < sequence := beyond
    have different : action.sequence? ≠ some sequence := by
      rw [about, ne_eq, Option.some.injEq]
      omega
    exact (lastCall?_of_ne actions different).trans (h.fresh sequence beyond)
  · intro sequence reached
    simp only [Machine.change, List.mem_append, or_and_right, exists_or]
    by_cases same : sequence = s.sequence
    · subst same
      rcases moves.begun with rfl | begun
      · exact .inr ⟨_, List.mem_singleton_self _, rfl⟩
      · exact .inl (h.called _ (before.ne_none begun))
    · have different : action.sequence? ≠ some sequence := by simpa [about] using Ne.symm same
      rw [lastCall?_of_ne actions different] at reached
      exact .inl (h.called sequence reached)
  · exact h.ended

theorem Answered.receive (h : Answered m actions settled) {s : Submission}
    (found : m.submission? s.sequence = some s) (ended : s.isOver = true) :
    Answered (m.receive s) (actions ++ [.absorb s.sequence]) (settled ++ [s]) := by
  have later : m.retriesStopped = true → (m.receive s).retriesStopped = true := by
    simp only [retriesStopped, Machine.receive, Bool.or_eq_true]
    exact Or.imp_right .inl
  constructor
  · intro other mem
    rw [lastCall?_absorb]
    refine (h.stands other ?_).mono later
    simp only [Machine.receive, List.mem_append, List.mem_singleton, List.mem_filter] at mem ⊢
    rcases mem with (mem | rfl) | mem
    · exact .inl mem
    · exact .inr (submission?_eq_some found).1
    · exact .inr mem.1
  · intro sequence beyond
    rw [lastCall?_absorb]
    exact h.fresh sequence beyond
  · intro sequence
    rw [lastCall?_absorb]
    exact h.called sequence
  · intro other mem
    rcases List.mem_append.mp mem with mem | mem
    · exact h.ended other mem
    · rw [List.mem_singleton.mp mem]
      exact ended

theorem Answered.step (h : Answered m actions settled) (custody : Custody m settled)
    (step : m.Step action m') :
    Answered m' (actions ++ [action]) (settled ++ (m.absorbedBy action).toList) := by
  cases step with
  | cancel =>
      rw [append_absorbedBy rfl]
      exact h.idle rfl rfl rfl ⟨rfl, rfl⟩ fun _ => by simp [retriesStopped]
  | document d room going =>
      rw [append_absorbedBy rfl]
      exact h.dispatch custody rfl (m.batcher.handsOver_push _) (ne_finished_of_canPull room)
        m.phase _
  | ended room going =>
      rw [append_absorbedBy rfl]
      exact h.dispatch custody rfl m.batcher.handsOver_flush (ne_finished_of_canPull room)
        .draining _
  | failed reason room going =>
      rw [append_absorbedBy rfl]
      exact h.idle rfl rfl rfl ⟨rfl, rfl⟩ id
  | stop room asked =>
      rw [append_absorbedBy rfl]
      exact h.idle rfl rfl rfl ⟨rfl, rfl⟩ id
  | advance found moves =>
      rw [append_absorbedBy (absorbedBy_of_moves moves)]
      exact h.change custody found moves
  | absorb found awaits ended =>
      simpa only [absorbedBy, found, Option.toList_some] using h.receive found ended
  | close done =>
      rw [append_absorbedBy rfl]
      exact h.idle rfl rfl rfl ⟨rfl, rfl⟩ id

/-- At each moment of a run every submission stands where the last answer to its batch left it. -/
theorem answered_of_run (run : (Machine.start config cancelled).run? actions = some m) :
    Answered m actions ((Machine.start config cancelled).absorbed actions) := by
  refine run_induction
    (P := fun actions m => Answered m actions ((Machine.start config cancelled).absorbed actions))
    answered_start ?_ run
  intro actions m action m' run ih step
  rw [absorbed_concat action run]
  exact ih.step (custody_of_run run) step

end Machine

end BulkIngest
