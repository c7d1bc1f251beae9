import BulkIngest.Proofs.Retry.Labels
import BulkIngest.Proofs.Run.Conservation

/-!
What it takes for a run to be complete: its source came to an end, and no submission brought a
reason to stop. A submission that gave up because the run was being cancelled brings none, so a run
is complete also when the cancellation came after the end of the source, though documents of it were
not delivered.
-/

namespace BulkIngest

namespace Submission.Stands

variable {policy : RetryPolicy} {stopped : Bool} {s : Submission} {last : Option (Option Answer)}
  {a : Answer}

theorem halt?_eq_none_iff (h : Stands policy stopped s last) (ended : s.isOver = true) :
    s.halt? = none ↔ s.verdict? = some .delivered ∨ s.verdict? = some .abandoned := by
  cases h with
  | queued fresh =>
      rw [fresh] at ended
      contradiction
  | sending stage begun budget => simp [isOver, stage] at ended
  | resting e stage begun budget read again =>
      rcases stage with stage | stage <;> simp [isOver, stage] at ended
  | delivered _ stage _ _ | exhausted _ stage _ _ _ | abandoned _ stage _ _ _ _ _
  | panicked _ stage _ _ => simp [halt?, verdict?, stage]

theorem delivered_iff (h : Stands policy stopped s (some (some a))) (ended : s.isOver = true) :
    s.verdict? = some .delivered ↔ ¬s.batch.Fails a := by
  rw [Batch.fails_iff_reading]
  cases h with
  | resting e stage begun budget read again =>
      rcases stage with stage | stage <;> simp [isOver, stage] at ended
  | delivered _ stage _ read | exhausted _ stage _ read _ | abandoned _ stage _ _ read _ _
  | panicked _ stage _ read => simp [verdict?, stage, read]

/-- A submission gives up only once the others are not retried either. -/
theorem stopped_of_abandoned (h : Stands policy stopped s last)
    (abandoned : s.verdict? = some .abandoned) : stopped = true := by
  cases h with
  | queued fresh =>
      rw [fresh] at abandoned
      contradiction
  | resting e stage begun budget read again =>
      rcases stage with stage | stage <;> simp [verdict?, stage] at abandoned
  | abandoned e stage begun budget read again stopping => exact stopping
  | sending stage _ _ | delivered _ stage _ _ | exhausted _ stage _ _ _ | panicked _ stage _ _ =>
      simp [verdict?, stage] at abandoned

/-- A batch was delivered if the request failed for none of its documents, of which there is one. -/
theorem delivered_iff_outcomes (h : Stands policy stopped s last) (ended : s.isOver = true)
    (filled : s.batch.items ≠ []) :
    s.verdict? = some .delivered ↔ ∀ outcome ∈ s.outcomes, outcome.kind? ≠ some .transport := by
  obtain ⟨a, rfl, outcomes⟩ := h.outcomes_eq ended
  rw [h.delivered_iff ended, outcomes]
  constructor
  · intro answered outcome mem transport
    obtain ⟨i, here⟩ := List.mem_iff_getElem?.mp mem
    exact answered ((Batch.told_outcomesOf here).transport.mp transport)
  · intro clean fails
    have refs := s.batch.refs_outcomesOf a
    cases all : s.batch.outcomesOf (s.batch.reading a) with
    | nil =>
        rw [all, List.map_nil, eq_comm, Batch.refs, List.map_eq_nil_iff] at refs
        exact filled refs
    | cons outcome rest =>
        have told : s.batch.Told a 0 outcome := Batch.told_outcomesOf (by rw [all]; rfl)
        exact clean outcome (by simp [all]) (told.transport.mpr fails)

end Submission.Stands

namespace Machine

variable {config : PipelineConfig} {cancelled : Bool} {m m' : Machine} {action : Action}
  {actions : List Action} {settled : List Submission}

/-- How the pulling came to its end: by the end of the source, before which the run was not
cancelled, or for a reason to stop. -/
structure Concluded (m : Machine) (actions : List Action) (settled : List Submission) : Prop where
  pulling : m.phase = .pulling → .pull .finished ∉ actions
  ended : .pull .finished ∈ actions → ∃ before after,
    actions = before ++ .pull .finished :: after ∧ (m.cancelled = true → .cancel ∈ after)
  stopped : m.phase ≠ .pulling → .pull .finished ∉ actions → m.halt.isSome = true
  blamed : .pull .finished ∈ actions → m.halt.isSome = true →
    ∃ s ∈ settled, s.halt?.isSome = true

theorem concluded_start : Concluded (.start config cancelled) [] [] := by
  constructor <;> simp [start]

theorem mem_concat_iff (other : action ≠ .pull .finished) :
    .pull .finished ∈ actions ++ [action] ↔ .pull .finished ∈ actions := by
  simp [other.symm]

theorem Concluded.ended_concat (h : Concluded m actions settled) (action : Action)
    (tripped : m'.cancelled = true → m.cancelled = true ∨ action = .cancel)
    (ended : .pull .finished ∈ actions) :
    ∃ before after, actions ++ [action] = before ++ .pull .finished :: after ∧
      (m'.cancelled = true → .cancel ∈ after) := by
  obtain ⟨before, after, rfl, later⟩ := h.ended ended
  refine ⟨before, after ++ [action], by simp, fun cancelled => ?_⟩
  rcases tripped cancelled with cancelled | rfl
  · exact List.mem_append_left _ (later cancelled)
  · exact List.mem_append_right _ (List.mem_singleton_self _)

/-- A step that does not end the pulling. -/
theorem Concluded.carry (h : Concluded m actions settled) (other : action ≠ .pull .finished)
    (phase : m'.phase = .pulling ↔ m.phase = .pulling) (halt : m'.halt = m.halt)
    (tripped : m'.cancelled = true → m.cancelled = true ∨ action = .cancel) :
    Concluded m' (actions ++ [action]) settled := by
  constructor
  · rw [mem_concat_iff other, phase]
    exact h.pulling
  · rw [mem_concat_iff other]
    exact h.ended_concat action tripped
  · rw [mem_concat_iff other, ne_eq, phase, halt]
    exact h.stopped
  · rw [mem_concat_iff other, halt]
    exact h.blamed

theorem Concluded.haltWith (h : Concluded m actions settled) (other : action ≠ .pull .finished)
    (room : m.canPull = true) (halt : Halt) :
    Concluded (m.haltWith halt) (actions ++ [action]) settled := by
  have fresh := h.pulling (pulling_of_canPull room)
  constructor
  · exact fun pulling => by contradiction
  · rw [mem_concat_iff other]
    exact fun ended => (fresh ended).elim
  · exact fun _ _ => by simp [Machine.haltWith]
  · rw [mem_concat_iff other]
    exact fun ended => (fresh ended).elim

theorem Concluded.receive (h : Concluded m actions settled) (s : Submission) :
    Concluded (m.receive s) (actions ++ [.absorb s.sequence]) (settled ++ [s]) := by
  have other : Action.absorb s.sequence ≠ .pull .finished := by simp
  constructor
  · rw [mem_concat_iff other]
    intro pulling
    refine h.pulling ?_
    simp only [Machine.receive] at pulling
    split at pulling
    · contradiction
    · exact pulling
  · rw [mem_concat_iff other]
    exact h.ended_concat _ .inl
  · rw [mem_concat_iff other]
    intro idle open_
    by_cases reason : s.halt?.isSome = true
    · simp [Machine.receive, reason]
    · simp only [Machine.receive, reason, Bool.false_eq_true, if_false] at idle
      simp [Machine.receive, h.stopped idle open_]
  · rw [mem_concat_iff other]
    intro ended halted
    simp only [Machine.receive, Option.isSome_or, Bool.or_eq_true] at halted
    rcases halted with halted | halted
    · obtain ⟨blamed, mem, reason⟩ := h.blamed ended halted
      exact ⟨blamed, List.mem_append_left _ mem, reason⟩
    · exact ⟨s, List.mem_append_right _ (List.mem_singleton_self s), halted⟩

theorem Concluded.step (h : Concluded m actions settled) (phased : Phased m settled)
    (step : m.Step action m') :
    Concluded m' (actions ++ [action]) (settled ++ (m.absorbedBy action).toList) := by
  cases step with
  | cancel =>
      rw [append_absorbedBy rfl]
      exact h.carry (by simp) .rfl rfl fun _ => .inr rfl
  | document d room going =>
      rw [append_absorbedBy rfl, dispatch?_eq]
      exact h.carry (by simp) .rfl rfl .inl
  | ended room going =>
      have unhalted := phased.pulling (pulling_of_canPull room)
      rw [append_absorbedBy rfl, dispatch?_eq]
      refine ⟨fun pulling => by contradiction, fun _ => ?_, fun _ open_ => ?_, fun _ halted => ?_⟩
      · exact ⟨actions, [], rfl, fun cancelled => by simp [going] at cancelled⟩
      · exact (open_ (by simp)).elim
      · simp [unhalted] at halted
  | failed reason room going =>
      rw [append_absorbedBy rfl]
      exact h.haltWith (by simp) room _
  | stop room asked =>
      rw [append_absorbedBy rfl]
      exact h.haltWith (by simp) room _
  | advance found moves =>
      rw [append_absorbedBy (absorbedBy_of_moves moves)]
      refine h.carry ?_ .rfl rfl .inl
      rintro rfl
      cases moves
  | absorb found awaits ended =>
      simpa only [absorbedBy, found, Option.toList_some] using h.receive _
  | close done =>
      simp only [canClose, Bool.and_eq_true, decide_eq_true_eq] at done
      rw [append_absorbedBy rfl]
      exact h.carry (by simp) (by simp [closed, done.1]) rfl .inl

theorem concluded_of_run (run : (Machine.start config cancelled).run? actions = some m) :
    Concluded m actions ((Machine.start config cancelled).absorbed actions) := by
  refine run_induction
    (P := fun actions m => Concluded m actions ((Machine.start config cancelled).absorbed actions))
    concluded_start ?_ run
  intro actions m action m' run ih step
  rw [absorbed_concat action run]
  exact ih.step (phased_of_run run) step

theorem completed_iff_halt (m : Machine) :
    m.summary.terminalState = .completed ↔ m.halt = none := by
  cases reason : m.halt with
  | none => simp [summary, reason]
  | some halt => cases halt <;> simp [summary, reason, Halt.verdict]

theorem halt_eq_none_iff (run : (Machine.start config cancelled).run? actions = some m)
    (finished : m.isFinished = true) :
    m.halt = none ↔ .pull .finished ∈ actions ∧
      ∀ s ∈ (Machine.start config cancelled).absorbed actions, s.halt? = none := by
  have concluded := concluded_of_run run
  have phased := phased_of_run run
  have idle : m.phase ≠ .pulling := by
    rw [of_decide_eq_true finished]
    simp
  constructor
  · intro unhalted
    constructor
    · by_contra open_
      have halted := concluded.stopped idle open_
      simp [unhalted] at halted
    · intro s mem
      by_contra reason
      have halted := phased.reasons s mem (Option.isSome_iff_ne_none.mpr reason)
      simp [unhalted] at halted
  · rintro ⟨ended, clean⟩
    by_contra halted
    obtain ⟨s, mem, reason⟩ := concluded.blamed ended (Option.isSome_iff_ne_none.mpr halted)
    simp [clean s mem] at reason

/-- What may have made a run stop: the source failed, somebody asked for it, or a submission brought
the reason. -/
inductive Cause (m : Machine) (actions : List Action) (settled : List Submission) : Halt → Prop
  | source (reason : String) (failed : .pull (.failed reason) ∈ actions) :
      Cause m actions settled (.source (.source reason))
  | cancelled (asked : m.cancelled = true) : Cause m actions settled .cancelled
  | submission (s : Submission) (mem : s ∈ settled) (halt : Halt) (brought : s.halt? = some halt) :
      Cause m actions settled halt

theorem Cause.mono {halt : Halt} (h : Cause m actions settled halt) (action : Action)
    (more : List Submission) (later : m.cancelled = true → m'.cancelled = true) :
    Cause m' (actions ++ [action]) (settled ++ more) halt := by
  cases h with
  | source reason failed => exact .source reason (List.mem_append_left _ failed)
  | cancelled asked => exact .cancelled (later asked)
  | submission s mem halt brought => exact .submission s (List.mem_append_left _ mem) halt brought

/-- The reason to stop that a step brings, if there was none before, has its cause in that step. -/
theorem Step.cause (step : m.Step action m') {halt : Halt} (halted : m'.halt = some halt) :
    m.halt = some halt ∨
      Cause m' (actions ++ [action]) (settled ++ (m.absorbedBy action).toList) halt := by
  cases step with
  | cancel | advance _ _ | close _ => exact .inl halted
  | document d room going | ended room going =>
      rw [dispatch?_eq] at halted
      exact .inl halted
  | failed reason room going =>
      refine (Option.or_eq_some_iff.mp halted).imp_right fun new => ?_
      rw [← Option.some.inj new.2]
      exact .source reason (List.mem_append_right _ (List.mem_singleton_self _))
  | stop room asked =>
      refine (Option.or_eq_some_iff.mp halted).imp_right fun new => ?_
      rw [← Option.some.inj new.2]
      exact .cancelled asked
  | @absorb s found awaits ended =>
      refine (Option.or_eq_some_iff.mp halted).imp_right fun new => ?_
      refine .submission s (List.mem_append_right _ ?_) halt new.2
      simp only [absorbedBy, found, Option.toList_some, List.mem_singleton]

theorem Step.cancelled_of_cancelled (step : m.Step action m') (asked : m.cancelled = true) :
    m'.cancelled = true := by
  cases step with
  | document _ _ going | ended _ going => simp [asked] at going
  | cancel => rfl
  | failed _ _ _ | stop _ _ | advance _ _ | absorb _ _ _ | close _ => exact asked

theorem cause_of_halt (run : (Machine.start config cancelled).run? actions = some m) {halt : Halt}
    (halted : m.halt = some halt) :
    Cause m actions ((Machine.start config cancelled).absorbed actions) halt := by
  refine run_induction (P := fun actions m => ∀ halt, m.halt = some halt →
    Cause m actions ((Machine.start config cancelled).absorbed actions) halt)
    (fun halt impossible => by contradiction) ?_ run halt halted
  intro actions m action m' run ih step halt halted
  rw [absorbed_concat action run]
  rcases step.cause halted with before | cause
  · exact (ih halt before).mono action _ step.cancelled_of_cancelled
  · exact cause

/-- What is recorded in a run that was not stopped comes from submissions. -/
theorem recorded_of_halt (run : (Machine.start config cancelled).run? actions = some m)
    (unhalted : m.halt = none) :
    m.unsent = 0 ∧ m.journal.recorded =
      ((Machine.start config cancelled).absorbed actions).flatMap (·.outcomes) := by
  obtain ⟨unsent, ledger⟩ := ledger_of_run run
  have sent : unsent = [] := by
    by_contra withheld
    simpa [unhalted] using ledger.reason withheld
  have recorded := ledger.recorded
  rw [sent, unsentOutcomesOf_nil, List.append_nil] at recorded
  exact ⟨by rw [ledger.withheld, sent, List.length_nil], recorded⟩

theorem cancelled_of_abandoned (run : (Machine.start config cancelled).run? actions = some m)
    (unhalted : m.halt = none) {s : Submission}
    (mem : s ∈ (Machine.start config cancelled).absorbed actions)
    (abandoned : s.verdict? = some .abandoned) : m.cancelled = true := by
  have stands := (answered_of_run run).stands s (List.mem_append_left _ mem)
  have stopped := stands.stopped_of_abandoned abandoned
  simp only [retriesStopped, Bool.or_eq_true] at stopped
  refine stopped.resolve_right fun lost => ?_
  simpa [unhalted] using (phased_of_run run).lost lost

/-- Outcomes of submissions never have the label of documents that were not sent. -/
theorem clean_iff_of_settled (answered : Answered m actions settled) {outcome : Outcome}
    (mem : outcome ∈ settled.flatMap (·.outcomes)) :
    (outcome.kind? = none ∨ outcome.kind? = some .documentRejected) ↔
      outcome.kind? ≠ some .transport := by
  obtain ⟨s, here, mem⟩ := List.mem_flatMap.mp mem
  obtain ⟨a, -, outcomes⟩ :=
    (answered.stands s (List.mem_append_left _ here)).outcomes_eq (answered.ended s here)
  rw [outcomes] at mem
  obtain ⟨i, at_⟩ := List.mem_iff_getElem?.mp mem
  have sent := (Batch.told_outcomesOf at_).sent
  cases kind : outcome.kind? with
  | none => simp
  | some kind' =>
      rw [Outcome.isUnsent, kind, Option.any_some] at sent
      cases kind' with
      | documentRejected | transport => simp
      | retriesExhausted | source | cancelled => contradiction

theorem delivered_iff_clean (custody : Custody m settled) (answered : Answered m actions settled) :
    (∀ s ∈ settled, s.verdict? = some .delivered) ↔
      ∀ outcome ∈ settled.flatMap (·.outcomes),
        outcome.kind? = none ∨ outcome.kind? = some .documentRejected := by
  have filled : ∀ s ∈ settled, s.batch.items ≠ [] := fun s mem =>
    custody.filled _ (custody.mem_dispatched (List.mem_append_left _ mem))
  have delivered : ∀ s ∈ settled, (s.verdict? = some .delivered ↔
      ∀ outcome ∈ s.outcomes, outcome.kind? ≠ some .transport) := fun s mem =>
    (answered.stands s (List.mem_append_left _ mem)).delivered_iff_outcomes
      (answered.ended s mem) (filled s mem)
  constructor
  · intro all outcome mem
    rw [clean_iff_of_settled answered mem]
    obtain ⟨s, here, mem⟩ := List.mem_flatMap.mp mem
    exact (delivered s here).mp (all s here) outcome mem
  · intro clean s mem
    rw [delivered s mem]
    intro outcome here
    have gathered := List.mem_flatMap_of_mem mem here
    exact (clean_iff_of_settled answered gathered).mp (clean outcome gathered)

/-- A run is complete if its source came to an end and each of its submissions delivered its batch
or gave up. The documents of a complete run are all accepted or refused one by one if and only if
none gave up, and one gives up only if the run is cancelled after the end of the source. -/
theorem completed_delivers_unless_abandoned (config : PipelineConfig) (cancelled : Bool)
    (actions : List Action) (m : Machine)
    (run : (Machine.start config cancelled).run? actions = some m)
    (finished : m.isFinished = true) :
    (m.summary.terminalState = .completed ↔ .pull .finished ∈ actions ∧
      ∀ s ∈ (Machine.start config cancelled).absorbed actions,
        s.verdict? = some .delivered ∨ s.verdict? = some .abandoned) ∧
    (m.summary.terminalState = .completed →
      m.summary.unsent = 0 ∧
      List.Perm (((Machine.start config cancelled).absorbed actions).map (·.batch))
        m.journal.dispatched ∧
      ((∀ s ∈ (Machine.start config cancelled).absorbed actions,
          s.verdict? = some .delivered) ↔
        ∀ outcome ∈ m.journal.recorded,
          outcome.kind? = none ∨ outcome.kind? = some .documentRejected) ∧
      ((∃ s ∈ (Machine.start config cancelled).absorbed actions,
          s.verdict? = some .abandoned) →
        ∃ before after, actions = before ++ .pull .finished :: after ∧ .cancel ∈ after)) := by
  have custody := custody_of_run run
  have answered := answered_of_run run
  have verdicts : ∀ s ∈ (Machine.start config cancelled).absorbed actions,
      (s.halt? = none ↔ s.verdict? = some .delivered ∨ s.verdict? = some .abandoned) :=
    fun s mem => (answered.stands s (List.mem_append_left _ mem)).halt?_eq_none_iff
      (answered.ended s mem)
  rw [completed_iff_halt]
  constructor
  · rw [halt_eq_none_iff run finished]
    exact and_congr_right fun _ => forall₂_congr verdicts
  · intro unhalted
    obtain ⟨unsent, recorded⟩ := recorded_of_halt run unhalted
    obtain ⟨out, -⟩ := (phased_of_run run).finished (of_decide_eq_true finished)
    have held := custody.held
    rw [out, List.append_nil] at held
    refine ⟨unsent, held, ?_, ?_⟩
    · rw [recorded]
      exact delivered_iff_clean custody answered
    · rintro ⟨s, mem, abandoned⟩
      obtain ⟨ended, -⟩ := (halt_eq_none_iff run finished).mp unhalted
      obtain ⟨before, after, split, later⟩ := (concluded_of_run run).ended ended
      exact ⟨before, after, split, later (cancelled_of_abandoned run unhalted mem abandoned)⟩

/-- The only batch fails once, and the run is cancelled while it rests. -/
def forsakenRun : List Action :=
  [.pull (.document [("id", Json.Value.ofNat 0)]), .pull .finished, .send 1,
    .answer 1 (.failed (.connection "connection reset by peer")), .cancel, .abandon 1, .absorb 1,
    .close]

def forsakenConfig : PipelineConfig :=
  { indexTarget := "idx", maxBatchCount := 2, baseDelayMs := 1000, maxDelayMs := 1000 }

theorem forsakenRun_ends :
    ((Machine.start forsakenConfig false).run? forsakenRun).any
      (fun m => m.isFinished && m.summary.terminalState = .completed) = true ∧
    ((Machine.start forsakenConfig false).absorbed forsakenRun).any
      (fun s => s.verdict? = some .abandoned) = true := by
  decide +kernel

theorem completed_delivers_unless_abandoned_forsakenRun :
    ∃ m, (Machine.start forsakenConfig false).run? forsakenRun = some m ∧ m.isFinished = true ∧
      m.summary.terminalState = .completed ∧ m.summary.unsent = 0 ∧
      ∃ before after, forsakenRun = before ++ .pull .finished :: after ∧ .cancel ∈ after := by
  obtain ⟨ends, gave_up⟩ := forsakenRun_ends
  obtain ⟨m, run, ends⟩ := (Option.any_eq_true _ _).mp ends
  simp only [Bool.and_eq_true, decide_eq_true_eq] at ends
  obtain ⟨s, mem, abandoned⟩ := List.any_eq_true.mp gave_up
  have complete := (completed_delivers_unless_abandoned forsakenConfig false forsakenRun m run
    ends.1).2 ends.2
  exact ⟨m, run, ends.1, ends.2, complete.1,
    complete.2.2.2 ⟨s, mem, of_decide_eq_true abandoned⟩⟩

theorem not_all_completed_delivered :
    ¬∀ (config : PipelineConfig) (cancelled : Bool) (actions : List Action) (m : Machine),
      config.complaint? = none → (Machine.start config cancelled).run? actions = some m →
      m.isFinished = true → m.summary.terminalState = .completed →
      ∀ s ∈ (Machine.start config cancelled).absorbed actions, s.verdict? = some .delivered := by
  intro all
  obtain ⟨ends, gave_up⟩ := forsakenRun_ends
  obtain ⟨m, run, ends⟩ := (Option.any_eq_true _ _).mp ends
  simp only [Bool.and_eq_true, decide_eq_true_eq] at ends
  obtain ⟨s, mem, abandoned⟩ := List.any_eq_true.mp gave_up
  have accepted : forsakenConfig.complaint? = none := by decide +kernel
  have delivered := all forsakenConfig false forsakenRun m accepted run ends.1 ends.2 s mem
  rw [of_decide_eq_true abandoned] at delivered
  contradiction

end Machine

end BulkIngest
