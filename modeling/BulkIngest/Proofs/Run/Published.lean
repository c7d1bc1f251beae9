import BulkIngest.Proofs.Run.Conservation
import Mathlib.Data.List.Infix

/-!
What a run publishes. Each time outcomes are recorded a snapshot goes out that counts all outcomes
up to then; so the snapshots are balanced and never go back, and it does not matter for any of them
how the outcomes before it came in groups or in which order. A snapshot never counts a document that
was not pulled.
-/

namespace BulkIngest

/-- No counter of the first snapshot is above that of the second one. -/
instance : LE Snapshot where
  le earlier later := earlier.attempted ≤ later.attempted ∧ earlier.succeeded ≤ later.succeeded ∧
    earlier.failed ≤ later.failed

namespace Snapshot

def Balanced (snapshot : Snapshot) : Prop :=
  snapshot.attempted = snapshot.succeeded + snapshot.failed

theorem le_refl (snapshot : Snapshot) : snapshot ≤ snapshot :=
  ⟨Nat.le_refl _, Nat.le_refl _, Nat.le_refl _⟩

theorem le_trans {first second third : Snapshot} (h : first ≤ second) (h' : second ≤ third) :
    first ≤ third :=
  ⟨Nat.le_trans h.1 h'.1, Nat.le_trans h.2.1 h'.2.1, Nat.le_trans h.2.2 h'.2.2⟩

theorem le_add (snapshot : Snapshot) (outcomes : List Outcome) : snapshot ≤ snapshot.add outcomes :=
  ⟨Nat.le_add_right _ _, Nat.le_add_right _ _, Nat.le_add_right _ _⟩

/-- Neither the order of outcomes nor their groups matter. -/
theorem add_perm (snapshot : Snapshot) {outcomes outcomes' : List Outcome}
    (same : List.Perm outcomes outcomes') : snapshot.add outcomes = snapshot.add outcomes' := by
  simp only [add, same.length_eq, same.countP_eq]

/-- What is counted: all outcomes, the successes and the others. -/
theorem zero_add (outcomes : List Outcome) : zero.add outcomes =
    ⟨outcomes.length, outcomes.countP (·.isSuccess), outcomes.countP (!·.isSuccess)⟩ := by
  have split := List.length_eq_countP_add_countP (·.isSuccess) (l := outcomes)
  simp only [Bool.not_eq_true, ← Bool.not_eq_true', Bool.decide_eq_true] at split
  simp only [add, zero, Nat.zero_add, Snapshot.mk.injEq, true_and]
  omega

theorem Balanced.added {snapshot : Snapshot} (h : snapshot.Balanced) (outcomes : List Outcome) :
    (snapshot.add outcomes).Balanced := by
  have bound := List.countP_le_length (p := (·.isSuccess)) (l := outcomes)
  simp only [Balanced, add] at h ⊢
  omega

end Snapshot

namespace Tracker

variable {tracker : Tracker} {groups : List (List Outcome)}

/-- `groups` are the outcomes as they were recorded since the counters stood at zero. -/
structure Tells (tracker : Tracker) (groups : List (List Outcome)) : Prop where
  counted : tracker.snapshot = Snapshot.zero.add groups.flatten
  latest : tracker.latest = tracker.snapshot
  published : tracker.published.reverse =
    groups.inits.map fun before => Snapshot.zero.add before.flatten
  ordered : tracker.published.Pairwise fun later earlier => earlier ≤ later
  below : ∀ snapshot ∈ tracker.published, snapshot ≤ tracker.snapshot

theorem tells_reset : new.reset.Tells [] :=
  ⟨rfl, rfl, rfl, List.pairwise_singleton _ _, fun snapshot mem => by
    rw [List.mem_singleton.mp mem]
    exact Snapshot.le_refl _⟩

theorem Tells.record (h : tracker.Tells groups) (outcomes : List Outcome) :
    (tracker.record outcomes).Tells (groups ++ [outcomes]) := by
  have grown := tracker.snapshot.le_add outcomes
  have counted : tracker.snapshot.add outcomes =
      Snapshot.zero.add (groups ++ [outcomes]).flatten := by
    rw [h.counted, ← Snapshot.add_append, List.flatten_append, List.flatten_singleton]
  refine ⟨counted, rfl, ?_, ?_, fun snapshot mem => ?_⟩
  · simp only [Tracker.record, publish, List.reverse_cons, h.published, List.inits_append,
      List.map_append, counted]
    rfl
  · exact List.pairwise_cons.mpr
      ⟨fun earlier mem => Snapshot.le_trans (h.below earlier mem) grown, h.ordered⟩
  · rcases List.mem_cons.mp mem with rfl | mem
    · exact Snapshot.le_refl _
    · exact Snapshot.le_trans (h.below snapshot mem) grown

theorem Tells.latest_mem (h : tracker.Tells groups) : tracker.latest ∈ tracker.published := by
  cases published : tracker.published with
  | nil =>
      have length := congrArg List.length h.published
      simp [published] at length
  | cons snapshot earlier => simp [Tracker.latest, published]

theorem Tells.balanced (h : tracker.Tells groups) {snapshot : Snapshot}
    (mem : snapshot ∈ tracker.published) : snapshot.Balanced := by
  rw [← List.mem_reverse, h.published] at mem
  obtain ⟨before, -, rfl⟩ := List.mem_map.mp mem
  have zero : Snapshot.zero.Balanced := rfl
  exact zero.added _

end Tracker

namespace Machine

variable {config : PipelineConfig} {cancelled : Bool} {m m₀ m' : Machine} {action : Action}
  {actions before after : List Action} {groups : List (List Outcome)}

/-- A step records no outcomes and publishes nothing, or it publishes a snapshot for those that it
records. -/
theorem Step.recording (step : m.Step action m') :
    m'.tracker = m.tracker ∧ m'.journal.recorded = m.journal.recorded ∨
      ∃ outcomes, m'.tracker = m.tracker.record outcomes ∧
        m'.journal.recorded = m.journal.recorded ++ outcomes := by
  cases step with
  | cancel | failed _ _ _ | stop _ _ | advance _ _ => exact .inl ⟨rfl, rfl⟩
  | document d room going | ended room going =>
      rw [dispatch?_eq]
      exact .inl ⟨rfl, rfl⟩
  | @absorb s found awaits ended => exact .inr ⟨s.outcomes, rfl, rfl⟩
  | close done =>
      by_cases sent : m.unsentOutcomes = []
      · exact .inl ⟨by simp [closed, sent], by simp [closed, sent]⟩
      · exact .inr ⟨m.unsentOutcomes, by simp [closed, sent], rfl⟩

theorem tells_of_run (run : (Machine.start config cancelled).run? actions = some m) :
    ∃ groups, m.tracker.Tells groups ∧ groups.flatten = m.journal.recorded := by
  refine run_induction
    (P := fun _ m => ∃ groups, m.tracker.Tells groups ∧ groups.flatten = m.journal.recorded)
    ⟨[], Tracker.tells_reset, rfl⟩ ?_ run
  rintro actions m action m' run ⟨groups, tells, recorded⟩ step
  rcases step.recording with ⟨tracker, journal⟩ | ⟨outcomes, tracker, journal⟩
  · exact ⟨groups, tracker ▸ tells, recorded.trans journal.symm⟩
  · refine ⟨groups ++ [outcomes], tracker ▸ tells.record outcomes, ?_⟩
    rw [List.flatten_append, List.flatten_singleton, recorded, journal]

/-- What is published last is what was counted. -/
theorem latest_eq_snapshot (run : (Machine.start config cancelled).run? actions = some m) :
    m.tracker.latest = m.tracker.snapshot := by
  obtain ⟨groups, tells, -⟩ := tells_of_run run
  exact tells.latest

/-- What was published stays published. -/
theorem published_suffix (first : m.run? actions = some m') :
    m.tracker.published <:+ m'.tracker.published := by
  refine run_induction (P := fun _ m' => m.tracker.published <:+ m'.tracker.published)
    (List.suffix_refl _) ?_ first
  intro actions m₁ action m₂ run ih step
  rcases step.recording with ⟨tracker, -⟩ | ⟨outcomes, tracker, -⟩
  · exact tracker ▸ ih
  · exact tracker ▸ ih.trans (List.suffix_cons _ _)

/-- Each snapshot was the latest one at some moment of the run. -/
theorem moment_of_published (run : (Machine.start config cancelled).run? actions = some m)
    {snapshot : Snapshot} (mem : snapshot ∈ m.tracker.published) :
    ∃ before m₀, before <+: actions ∧ (Machine.start config cancelled).run? before = some m₀ ∧
      m₀.tracker.latest = snapshot := by
  refine run_induction (P := fun actions m => snapshot ∈ m.tracker.published →
    ∃ before m₀, before <+: actions ∧ (Machine.start config cancelled).run? before = some m₀ ∧
      m₀.tracker.latest = snapshot) ?_ ?_ run mem
  · intro mem
    exact ⟨[], _, List.nil_prefix, rfl, (List.mem_singleton.mp mem).symm⟩
  · intro actions m action m' run ih step mem
    have earlier : snapshot ∈ m.tracker.published → ∃ before m₀, before <+: actions ++ [action] ∧
        (Machine.start config cancelled).run? before = some m₀ ∧ m₀.tracker.latest = snapshot := by
      intro mem
      obtain ⟨before, m₀, front, moment⟩ := ih mem
      exact ⟨before, m₀, front.trans (List.prefix_append _ _), moment⟩
    rcases step.recording with ⟨tracker, -⟩ | ⟨outcomes, tracker, -⟩
    · exact earlier (tracker ▸ mem)
    · rw [tracker] at mem
      rcases List.mem_cons.mp mem with rfl | mem
      · refine ⟨_, m', List.prefix_refl _, ?_, tracker ▸ rfl⟩
        rw [run?_concat, run, Option.bind_some, step.step_eq]
      · exact earlier mem

/-- Outcomes are of documents that were pulled. -/
theorem length_recorded_le (run : (Machine.start config cancelled).run? actions = some m) :
    m.journal.recorded.length ≤ (documents actions).length := by
  obtain ⟨unsent, ledger⟩ := ledger_of_run run
  have conserved := (positions_conserved run).length_eq
  simp only [List.length_map, List.length_append, List.length_range, accounted] at conserved
  rw [← ledger.position]
  omega

/-- What a subscriber sees never goes back. -/
theorem latest_le (run : (Machine.start config cancelled).run? actions = some m)
    {more : List Action} (further : m.run? more = some m') :
    m.tracker.latest ≤ m'.tracker.latest := by
  have run' : (Machine.start config cancelled).run? (actions ++ more) = some m' := by
    rw [run?_append, run, Option.bind_some, further]
  obtain ⟨groups, tells, -⟩ := tells_of_run run
  obtain ⟨groups', tells', -⟩ := tells_of_run run'
  rw [tells'.latest]
  exact tells'.below _ ((published_suffix further).subset tells.latest_mem)

/-- The snapshots of a run count the outcomes of its first groups, one group more each time: all of
them, the successes and the others. They are balanced, never go back, and count no more documents
than were pulled when they went out. The last one is what the summary says. Two runs that have
recorded the same outcomes, in whatever groups and order, show the same. -/
theorem progress_truthful (config : PipelineConfig) (cancelled : Bool) (actions : List Action)
    (m : Machine) (run : (Machine.start config cancelled).run? actions = some m) :
    (∃ groups : List (List Outcome), groups.flatten = m.journal.recorded ∧
      m.tracker.published.reverse = groups.inits.map fun before =>
        ⟨before.flatten.length, before.flatten.countP (·.isSuccess),
          before.flatten.countP (!·.isSuccess)⟩) ∧
    (∀ snapshot ∈ m.tracker.published, snapshot.Balanced ∧
      ∃ before m₀, before <+: actions ∧ (Machine.start config cancelled).run? before = some m₀ ∧
        m₀.tracker.latest = snapshot ∧ snapshot.attempted ≤ (documents before).length) ∧
    (m.tracker.published.Pairwise fun later earlier => earlier ≤ later) ∧
    (m.tracker.latest = m.tracker.snapshot ∧
      m.tracker.latest = ⟨m.summary.attempted, m.summary.succeeded, m.summary.failed⟩) ∧
    (∀ more m', m.run? more = some m' → m.tracker.published <:+ m'.tracker.published ∧
      m.tracker.latest ≤ m'.tracker.latest) ∧
    ∀ (config' : PipelineConfig) (cancelled' : Bool) (actions' : List Action) (m' : Machine),
      (Machine.start config' cancelled').run? actions' = some m' →
      List.Perm m.journal.recorded m'.journal.recorded → m.tracker.latest = m'.tracker.latest := by
  obtain ⟨groups, tells, recorded⟩ := tells_of_run run
  have counts : m.tracker.published.reverse = groups.inits.map fun before =>
      ⟨before.flatten.length, before.flatten.countP (·.isSuccess),
        before.flatten.countP (!·.isSuccess)⟩ := by
    simp only [tells.published, Snapshot.zero_add]
  refine ⟨⟨groups, recorded, counts⟩, fun snapshot mem => ⟨tells.balanced mem, ?_⟩,
    tells.ordered, ⟨tells.latest, tells.latest⟩, ?_, ?_⟩
  · obtain ⟨before, m₀, front, run₀, moment⟩ := moment_of_published run mem
    refine ⟨before, m₀, front, run₀, moment, ?_⟩
    obtain ⟨groups₀, tells₀, recorded₀⟩ := tells_of_run run₀
    rw [← moment, tells₀.latest, tells₀.counted, recorded₀]
    exact Nat.le_trans (Nat.le_of_eq (Nat.zero_add _)) (length_recorded_le run₀)
  · exact fun more m' further => ⟨published_suffix further, latest_le run further⟩
  · intro config' cancelled' actions' m' run' same
    obtain ⟨groups', tells', recorded'⟩ := tells_of_run run'
    rw [tells.latest, tells'.latest, tells.counted, tells'.counted, recorded, recorded']
    exact Snapshot.add_perm _ same

/-- Two batches at once, of which the second one is refused. The one given first comes in first. -/
def crossingRun (first second : Nat) : List Action :=
  [.pull (.document []), .send 1, .pull (.document []), .send 2,
    .answer 2 (.statuses [.rejected 400 "no"]), .answer 1 (.statuses [.accepted none]),
    .absorb first, .pull .finished, .absorb second, .close]

def crossingConfig : PipelineConfig :=
  { indexTarget := "idx", maxBatchCount := 1, maxInFlight := 2 }

def crossingOutcomes : List Outcome :=
  [.success ⟨0, none⟩, .failed .documentRejected "400: no" ⟨1, none⟩]

theorem crossingRun_records :
    ((Machine.start crossingConfig false).run? (crossingRun 1 2)).map (·.journal.recorded) =
        some crossingOutcomes ∧
      ((Machine.start crossingConfig false).run? (crossingRun 2 1)).map (·.journal.recorded) =
        some crossingOutcomes.reverse := by
  decide +kernel

theorem progress_truthful_crossingRun :
    ∃ m m', (Machine.start crossingConfig false).run? (crossingRun 1 2) = some m ∧
      (Machine.start crossingConfig false).run? (crossingRun 2 1) = some m' ∧
      m.journal.recorded = crossingOutcomes ∧ m'.journal.recorded = crossingOutcomes.reverse ∧
      m.tracker.latest = m'.tracker.latest ∧
      m.tracker.latest = ⟨m.summary.attempted, m.summary.succeeded, m.summary.failed⟩ ∧
      m.tracker.published.Pairwise fun later earlier => earlier ≤ later := by
  obtain ⟨m, run, recorded⟩ := Option.map_eq_some_iff.mp crossingRun_records.1
  obtain ⟨m', run', recorded'⟩ := Option.map_eq_some_iff.mp crossingRun_records.2
  obtain ⟨-, -, ordered, ⟨-, summary⟩, -, same⟩ :=
    progress_truthful crossingConfig false (crossingRun 1 2) m run
  refine ⟨m, m', run, run', recorded, recorded', ?_, summary, ordered⟩
  refine same crossingConfig false (crossingRun 2 1) m' run' ?_
  rw [recorded, recorded']
  exact (List.reverse_perm _).symm

end Machine

end BulkIngest
