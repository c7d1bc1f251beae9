import BulkIngest.Proofs.Run.Calls
import BulkIngest.Proofs.Run.Dispatch
import BulkIngest.Proofs.Run.Reports
import BulkIngest.Proofs.Run.Stopping
import BulkIngest.Proofs.Run.Termination

/-!
The driver always finishes. Whatever the source brings before it ends, whatever the sink does with
each call, and whenever the run is asked to stop, a run takes boundedly many steps and is never
stuck before it has finished: a call that never returns has its deadline, a rest its end, and the
driver waits only while there is a submission to wait for.
-/

namespace BulkIngest

/-- What a run finds around it: what each pull brings, and what the sink does with each call, which
is to answer in some way or other, or never to return. -/
structure Surroundings where
  source : Nat → Pull
  sink : SinkCall → Option Answer

namespace Surroundings

/-- An action that the surroundings let happen after those that have. A run is asked to stop only
once, since asking again changes nothing; a deadline may come before any answer. -/
def Lets (env : Surroundings) (actions : List Action) (m : Machine) : Action → Prop
  | .cancel => m.cancelled = false
  | .pull brought => brought = env.source (pulls actions).length
  | .answer sequence a => ∀ s, m.submission? sequence = some s →
      env.sink ⟨sequence, s.attempts⟩ = some a
  | _ => True

/-- The courses that a run may take in its surroundings. -/
inductive Unfolds (env : Surroundings) (config : PipelineConfig) (cancelled : Bool) :
    List Action → Machine → Prop
  | start : Unfolds env config cancelled [] (.start config cancelled)
  | next {actions : List Action} {m m' : Machine} {action : Action}
      (course : Unfolds env config cancelled actions m) (lets : env.Lets actions m action)
      (step : m.step action = some m') : Unfolds env config cancelled (actions ++ [action]) m'

end Surroundings

theorem pulls_concat (actions : List Action) (action : Action) :
    pulls (actions ++ [action]) = pulls actions ++ action.pull?.toList := by
  cases h : action.pull? <;> simp [pulls, h]

namespace Machine

variable {env : Surroundings} {config : PipelineConfig} {cancelled : Bool} {m m' : Machine}
  {action : Action} {actions : List Action} {settled : List Submission} {s : Submission}

/-- Only documents come before the last pull, and only documents while more are pulled. -/
structure Drawn (m : Machine) (actions : List Action) : Prop where
  before : ∀ brought ∈ (pulls actions).dropLast, brought.document? ≠ none
  pulling : m.phase = .pulling → ∀ brought ∈ pulls actions, brought.document? ≠ none

theorem drawn_start : Drawn (.start config cancelled) [] := by
  constructor <;> simp [pulls]

theorem Drawn.carry (h : Drawn m actions) (quiet : action.pull? = none)
    (phase : m'.phase = .pulling → m.phase = .pulling) : Drawn m' (actions ++ [action]) := by
  have same : pulls (actions ++ [action]) = pulls actions := by
    rw [pulls_concat, quiet, Option.toList_none, List.append_nil]
  exact ⟨same ▸ h.before, fun pulling => same ▸ h.pulling (phase pulling)⟩

theorem Drawn.pull (h : Drawn m actions) (pulling : m.phase = .pulling) (brought : Pull)
    (goes_on : m'.phase = .pulling → brought.document? ≠ none) :
    Drawn m' (actions ++ [.pull brought]) := by
  have more : pulls (actions ++ [.pull brought]) = pulls actions ++ [brought] := pulls_concat _ _
  refine ⟨?_, fun still => ?_⟩
  · rw [more, List.dropLast_concat]
    exact h.pulling pulling
  · rw [more, List.forall_mem_append, List.forall_mem_singleton]
    exact ⟨h.pulling pulling, goes_on still⟩

theorem Drawn.step (h : Drawn m actions) (step : m.Step action m') :
    Drawn m' (actions ++ [action]) := by
  cases step with
  | document d room going =>
      exact h.pull (pulling_of_canPull room) _ fun _ => by simp [Pull.document?]
  | ended room going =>
      refine h.pull (pulling_of_canPull room) _ fun still => ?_
      rw [dispatch?_eq] at still
      contradiction
  | failed reason room going =>
      exact h.pull (pulling_of_canPull room) _ fun still => by contradiction
  | cancel => exact h.carry rfl id
  | stop room asked => exact h.carry rfl fun still => by contradiction
  | close done => exact h.carry rfl fun still => by contradiction
  | advance found moves => exact h.carry (by cases moves <;> rfl) id
  | absorb found awaits ended =>
      refine h.carry rfl fun still => ?_
      simp only [Machine.receive] at still
      split at still
      · contradiction
      · exact still

theorem drawn_of_run (run : (Machine.start config cancelled).run? actions = some m) :
    Drawn m actions :=
  run_induction (P := fun actions m => Drawn m actions) drawn_start
    (fun _ _ _ _ _ ih step => ih.step step) run

/-- Each batch that goes out has a document of its own. -/
theorem length_dispatched_le (run : (Machine.start config cancelled).run? actions = some m) :
    m.journal.dispatched.length ≤ (documents actions).length := by
  obtain ⟨unsent, ledger⟩ := ledger_of_run run
  have filled : ∀ n ∈ m.journal.dispatched.map fun batch => batch.items.length, 1 ≤ n := by
    intro n mem
    obtain ⟨batch, sent, rfl⟩ := List.mem_map.mp mem
    exact List.length_pos_iff.mpr ((custody_of_run run).filled batch sent)
  have sent := List.length_le_sum_of_one_le _ filled
  have items := congrArg List.length ledger.items
  rw [List.length_append, List.length_append, List.length_flatMap,
    PipelineConfig.length_items] at items
  rw [List.length_map] at sent
  omega

theorem mem_calls_iff {call : SinkCall} :
    call ∈ s.calls ↔ call.sequence = s.sequence ∧ 1 ≤ call.attempt ∧ call.attempt ≤ s.attempts := by
  simp only [Submission.calls, List.mem_map, List.mem_range'_1]
  constructor
  · rintro ⟨attempt, bounds, rfl⟩
    exact ⟨rfl, bounds.1, by change attempt ≤ _; omega⟩
  · rintro ⟨same, begun, bound⟩
    exact ⟨call.attempt, ⟨begun, by omega⟩, by rw [← same]⟩

theorem nodup_calls (run : (Machine.start config cancelled).run? actions = some m) :
    m.journal.calls.Nodup := by
  refine (called_of_run run).nodup_iff.mpr (List.nodup_flatMap.mpr ⟨fun s _ => ?_, ?_⟩)
  · exact List.Nodup.map (fun _ _ same => (SinkCall.mk.inj same).2) List.nodup_range'
  · refine (List.pairwise_map.mp (custody_of_run run).distinct).imp fun different => ?_
    intro call here there
    exact different ((mem_calls_iff.mp here).1.symm.trans (mem_calls_iff.mp there).1)

/-- The calls for a batch are its attempts, of which there are so many at most. -/
theorem attempt_le_of_mem_calls (run : (Machine.start config cancelled).run? actions = some m)
    {call : SinkCall} (mem : call ∈ m.journal.calls) :
    1 ≤ call.attempt ∧ call.attempt ≤ config.maxRetries.toNat + 1 := by
  obtain ⟨s, here, mem⟩ := List.mem_flatMap.mp ((called_of_run run).mem_iff.mp mem)
  obtain ⟨-, begun, bound⟩ := mem_calls_iff.mp mem
  exact ⟨begun, bound.trans (attempts_le_of_run run here)⟩

theorem length_calls_le (run : (Machine.start config cancelled).run? actions = some m)
    (sequence : Nat) :
    (m.journal.calls.filter (·.sequence = sequence)).length ≤ config.maxRetries.toNat + 1 := by
  have within : m.journal.calls.filter (·.sequence = sequence) ⊆
      (List.range' 1 (config.maxRetries.toNat + 1)).map (SinkCall.mk sequence) := by
    intro call mem
    obtain ⟨mem, about⟩ := List.mem_filter.mp mem
    obtain ⟨begun, bound⟩ := attempt_le_of_mem_calls run mem
    refine List.mem_map.mpr ⟨call.attempt, List.mem_range'_1.mpr ⟨begun, by omega⟩, ?_⟩
    rw [← of_decide_eq_true about]
  have fewer := (List.subperm_of_subset ((nodup_calls run).filter _) within).length_le
  rwa [List.length_map, List.length_range'] at fewer

/-- The driver never waits for submissions when there are none. -/
theorem inFlight_ne_nil_of_awaits (wide : 0 < m.config.maxInFlight)
    (awaits : m.awaitsSubmission = true) : m.inFlight ≠ [] := by
  intro out
  cases phase : m.phase with
  | pulling =>
      have bound : 0 < m.config.maxInFlight.toNat := wide
      simp [awaitsSubmission, phase, hasRoom, out, bound] at awaits
  | draining | finished => simp [awaitsSubmission, phase, out] at awaits

/-- A submission that is not over can go on, whatever the others do; if its call does not return,
the deadline ends it. -/
theorem exists_move (env : Surroundings) (actions : List Action)
    (found : m.submission? s.sequence = some s) (going : s.isOver = false) :
    ∃ action m', env.Lets actions m action ∧ m.Step action m' ∧
      action.sequence? = some s.sequence := by
  cases stage : s.stage with
  | queued =>
      exact ⟨.send s.sequence, _, True.intro, .advance found (.send (.inl stage)), rfl⟩
  | rested e =>
      exact ⟨.send s.sequence, _, True.intro, .advance found (.send (.inr ⟨e, stage⟩)), rfl⟩
  | sending => exact ⟨.timeOut s.sequence, _, True.intro, .advance found (.timeOut stage), rfl⟩
  | resting e =>
      cases stopping : m.retriesStopped with
      | false =>
          exact ⟨.wake s.sequence, _, True.intro, .advance found (.wake e stage), rfl⟩
      | true =>
          exact ⟨.abandon s.sequence, _, True.intro,
            .advance found (.abandon e (.inl stage) stopping), rfl⟩
  | reported report => simp [Submission.isOver, stage] at going
  | panicked message => simp [Submission.isOver, stage] at going

/-- The driver can pull what the source brings, or notice that it is to stop. -/
theorem exists_pull (env : Surroundings) (actions : List Action) (room : m.canPull = true) :
    ∃ action m', env.Lets actions m action ∧ m.Step action m' ∧ action.isCancel = false := by
  cases asked : m.cancelled with
  | true => exact ⟨.stop, _, True.intro, .stop room asked, rfl⟩
  | false =>
      cases brought : env.source (pulls actions).length with
      | document d => exact ⟨.pull (.document d), _, brought.symm, .document d room asked, rfl⟩
      | finished => exact ⟨.pull .finished, _, brought.symm, .ended room asked, rfl⟩
      | failed reason =>
          exact ⟨.pull (.failed reason), _, brought.symm, .failed reason room asked, rfl⟩

end Machine

namespace Surroundings.Unfolds

open Machine

variable {env : Surroundings} {config : PipelineConfig} {cancelled : Bool} {m m' : Machine}
  {action : Action} {actions : List Action} {s : Submission} {size : Nat}

theorem run (course : env.Unfolds config cancelled actions m) :
    (Machine.start config cancelled).run? actions = some m := by
  induction course with
  | start => rfl
  | next course lets step ih => rw [run?_concat, ih, Option.bind_some, step]

theorem advance (course : env.Unfolds config cancelled actions m) (lets : env.Lets actions m action)
    (step : m.Step action m') : env.Unfolds config cancelled (actions ++ [action]) m' :=
  .next course lets step.step_eq

/-- Each pull brings the next of what the source has. -/
theorem pulled (course : env.Unfolds config cancelled actions m) :
    pulls actions = (List.range (pulls actions).length).map env.source := by
  induction course with
  | start => rfl
  | @next actions m m' action course lets step ih =>
      rw [pulls_concat]
      cases action with
      | pull brought =>
          have brought : brought = env.source (pulls actions).length := lets
          rw [Action.pull?, Option.toList_some, List.length_append, List.length_singleton,
            List.range_succ, List.map_append, ← ih, brought]
          rfl
      | _ => simpa [Action.pull?] using ih

/-- Nothing is pulled after the source has ended. -/
theorem length_pulls_le (course : env.Unfolds config cancelled actions m)
    (closes : (env.source size).document? = none) : (pulls actions).length ≤ size + 1 := by
  by_contra more
  have pulled := course.pulled
  have early : env.source size ∈ (pulls actions).dropLast := by
    rw [pulled, List.dropLast_eq_take, ← List.map_take, List.take_range]
    refine List.mem_map_of_mem (List.mem_range.mpr ?_)
    rw [List.length_map, List.length_range]
    omega
  exact (drawn_of_run course.run).before _ early closes

theorem length_documents_le (course : env.Unfolds config cancelled actions m)
    (closes : (env.source size).document? = none) : (documents actions).length ≤ size := by
  have pulled := course.length_pulls_le closes
  rw [documents_eq]
  rcases Nat.lt_or_eq_of_le pulled with fewer | all
  · exact (List.length_filterMap_le _ _).trans (Nat.le_of_lt_succ fewer)
  · rw [course.pulled, all, List.range_succ, List.map_append, List.filterMap_append,
      List.map_singleton, List.filterMap_cons_none closes, List.filterMap_nil, List.append_nil]
    refine (List.length_filterMap_le _ _).trans (Nat.le_of_eq ?_)
    rw [List.length_map, List.length_range]

theorem countP_isCancel_le (course : env.Unfolds config cancelled actions m) :
    actions.countP (·.isCancel) ≤ 1 := by
  induction course with
  | start => exact Nat.zero_le 1
  | @next actions m m' action course lets step ih =>
      rw [List.countP_append, List.countP_singleton]
      cases action with
      | cancel =>
          have unasked : .cancel ∉ actions := by
            intro asked
            have stopped := (cancelled_iff course.run).mpr (.inr asked)
            exact Bool.false_ne_true (lets.symm.trans stopped)
          have uncancelled : actions.countP (·.isCancel) = 0 := by
            refine List.countP_eq_zero.mpr fun action mem is_cancel => ?_
            cases action with
            | cancel => exact unasked mem
            | _ => contradiction
          rw [uncancelled]
          exact Nat.le_refl 1
      | _ => simpa [Action.isCancel] using ih

/-- A course is no longer than its source and its retries allow. -/
theorem length_le (course : env.Unfolds config cancelled actions m)
    (closes : (env.source size).document? = none) :
    actions.length ≤ (size + 1) * (3 * (config.maxRetries.toNat + 1) + 1) + 2 := by
  have bound := length_of_run course.run
  have cancels := course.countP_isCancel_le
  have documents := Nat.mul_le_mul_right (3 * m.rounds + 1) (course.length_documents_le closes)
  have start : (Machine.start config cancelled).work = 3 * (config.maxRetries.toNat + 1) + 2 := rfl
  have rounds : m.rounds = config.maxRetries.toNat + 1 := by rw [rounds, config_of_run course.run]
  rw [rounds] at bound documents
  rw [Nat.succ_mul]
  omega

/-- A course that has not finished can go on, and not only by a request to stop. -/
theorem goes_on (course : env.Unfolds config cancelled actions m) (wide : 0 < config.maxInFlight)
    (active : m.isFinished = false) :
    ∃ action m', action.isCancel = false ∧
      env.Unfolds config cancelled (actions ++ [action]) m' := by
  have wide : 0 < m.config.maxInFlight := config_of_run course.run ▸ wide
  rcases waits_of_active (custody_of_run course.run) wide (of_decide_eq_false active) with
    room | done | ⟨awaits, s, found⟩
  · obtain ⟨action, m', lets, step, other⟩ := exists_pull env actions room
    exact ⟨action, m', other, course.advance lets step⟩
  · exact ⟨.close, _, rfl, course.advance True.intro (.close done)⟩
  · cases ended : s.isOver with
    | true =>
        exact ⟨.absorb s.sequence, _, rfl, course.advance True.intro (.absorb found awaits ended)⟩
    | false =>
        obtain ⟨action, m', lets, step, about⟩ := exists_move env actions found ended
        refine ⟨action, m', ?_, course.advance lets step⟩
        cases action with
        | cancel => contradiction
        | _ => rfl

/-- Since it cannot go on for ever, a course finishes. -/
theorem finishes (course : env.Unfolds config cancelled actions m) (wide : 0 < config.maxInFlight)
    (closes : (env.source size).document? = none) :
    ∃ more m', env.Unfolds config cancelled (actions ++ more) m' ∧ m'.isFinished = true := by
  -- the induction is on the steps that may still come before the bound on all courses is reached
  generalize left :
    (size + 1) * (3 * (config.maxRetries.toNat + 1) + 1) + 3 - actions.length = steps
  induction steps generalizing actions m with
  | zero =>
      have bound := course.length_le closes
      omega
  | succ steps ih =>
      cases finished : m.isFinished with
      | true => exact ⟨[], m, by rwa [List.append_nil], finished⟩
      | false =>
          obtain ⟨action, m', -, next⟩ := course.goes_on wide finished
          obtain ⟨more, last, course, done⟩ := ih next (by
            rw [List.length_append, List.length_singleton]
            omega)
          exact ⟨action :: more, last, by rwa [List.append_assoc] at course, done⟩

end Surroundings.Unfolds

/-- What holds at each moment of a run in surroundings whose source has ended with its pull number
`size`. -/
structure Surroundings.Bounded (env : Surroundings) (config : PipelineConfig) (cancelled : Bool)
    (size : Nat) (actions : List Action) (m : Machine) : Prop where
  steps : actions.length ≤ (size + 1) * (3 * (config.maxRetries.toNat + 1) + 1) + 2
  /-- Each pull brings the next of what the source has, and the end of the source is the last
  pull. -/
  pulled : pulls actions = (List.range (pulls actions).length).map env.source
  ended : ∀ last, (env.source last).document? = none → (pulls actions).length ≤ last + 1
  batches : m.journal.dispatched.length ≤ (documents actions).length
  calls : ∀ sequence, (m.journal.calls.filter (·.sequence = sequence)).length ≤
    config.maxRetries.toNat + 1
  attempts : ∀ call ∈ m.journal.calls, call.attempt < UInt32.size
  /-- The driver waits for submissions only if there are some. -/
  company : m.awaitsSubmission = true → m.inFlight ≠ []
  deadline : ∀ s ∈ m.inFlight, s.stage = .sending →
    ∃ m', env.Unfolds config cancelled (actions ++ [.timeOut s.sequence]) m'
  progress : ∀ s ∈ m.inFlight, s.isOver = false → ∃ action m', action.sequence? = some s.sequence ∧
    env.Unfolds config cancelled (actions ++ [action]) m'
  arrival : m.awaitsSubmission = true → ∀ s ∈ m.inFlight, s.isOver = true →
    ∃ m', env.Unfolds config cancelled (actions ++ [.absorb s.sequence]) m'
  goes_on : m.isFinished = false → ∃ action m', action.isCancel = false ∧
    env.Unfolds config cancelled (actions ++ [action]) m'
  finishes : ∃ more m', env.Unfolds config cancelled (actions ++ more) m' ∧ m'.isFinished = true

namespace Machine

/-- With settings that are accepted and a source that ends, every course takes boundedly many steps
and goes on until it has finished, whatever the sink does and whenever it is asked to stop. It pulls
each item of the source once at most and nothing beyond its end, sends no more batches than it has
documents and makes no more calls for a batch than its retries allow. -/
theorem driver_finishes (config : PipelineConfig) (accepted : config.complaint? = none)
    (fits : config.maxRetries.toNat + 1 < UInt32.size) (cancelled : Bool) (env : Surroundings)
    (size : Nat) (closes : (env.source size).document? = none) (actions : List Action) (m : Machine)
    (course : env.Unfolds config cancelled actions m) :
    env.Bounded config cancelled size actions m := by
  have run := course.run
  have custody := custody_of_run run
  have wide : 0 < config.maxInFlight := by
    rw [config.complaint?_eq_none_iff] at accepted
    exact UInt64.pos_iff_ne_zero.mpr accepted.2.2.2.1
  exact {
    steps := course.length_le closes
    pulled := course.pulled
    ended := fun last closes => course.length_pulls_le closes
    batches := length_dispatched_le run
    calls := length_calls_le run
    attempts := fun call mem => (attempt_le_of_mem_calls run mem).2.trans_lt fits
    company := inFlight_ne_nil_of_awaits (config_of_run run ▸ wide)
    deadline := fun s mem wire =>
      ⟨_, course.advance True.intro (.advance (submission?_of_mem custody mem) (.timeOut wire))⟩
    progress := fun s mem going => by
      obtain ⟨action, m', lets, step, about⟩ :=
        exists_move env actions (submission?_of_mem custody mem) going
      exact ⟨action, m', about, course.advance lets step⟩
    arrival := fun awaits s mem ended =>
      ⟨_, course.advance True.intro (.absorb (submission?_of_mem custody mem) awaits ended)⟩
    goes_on := course.goes_on wide
    finishes := course.finishes wide closes }

/-- One document, and a sink that never returns. -/
def silentSurroundings : Surroundings where
  source := fun place => if place = 0 then .document [] else .finished
  sink := fun _ => none

def silentConfig : PipelineConfig := { indexTarget := "idx", maxBatchCount := 2, maxRetries := 1 }

/-- The only batch is on the wire. -/
def silentRun : List Action := [.pull (.document []), .pull .finished, .send 1]

theorem silentRun_unfolds : ∃ m, silentSurroundings.Unfolds silentConfig false silentRun m := by
  have first := Surroundings.Unfolds.start.next
    (show silentSurroundings.Lets [] (.start silentConfig false)
      (.pull (.document [])) from rfl) rfl
  have second := first.next (show silentSurroundings.Lets _ _ (.pull .finished) from rfl) rfl
  exact ⟨_, second.next (show silentSurroundings.Lets _ _ (.send 1) from True.intro) rfl⟩

theorem driver_finishes_silentRun :
    silentConfig.complaint? = none ∧ silentConfig.maxRetries.toNat + 1 < UInt32.size ∧
      (silentSurroundings.source 1).document? = none ∧
      ∃ m, silentSurroundings.Unfolds silentConfig false silentRun m ∧
        silentSurroundings.Bounded silentConfig false 1 silentRun m := by
  have accepted : silentConfig.complaint? = none := by decide +kernel
  have fits : silentConfig.maxRetries.toNat + 1 < UInt32.size := by decide
  obtain ⟨m, course⟩ := silentRun_unfolds
  exact ⟨accepted, fits, rfl, m, course, driver_finishes silentConfig accepted fits false
    silentSurroundings 1 rfl silentRun m course⟩

end Machine

end BulkIngest
