import BulkIngest.Proofs.Retry.Delivery
import BulkIngest.Proofs.Run.Batches
import BulkIngest.Proofs.Run.Termination

/-!
Many submissions at once come to the same as one after the other. A run that is not cancelled, with
a source that has a given list of documents and a sink whose reactions depend on batch and attempt
only, ends in the same summary in whatever order its submissions overlap, retry and come in,
provided that each batch can be delivered on its own. The reason is that the batches are settled
beforehand and every submission is on the track of its own delivery, so the totals are sums over one
list.
-/

namespace BulkIngest

/-- What a source with these documents brings at a position. -/
def pullAt (docs : List Document) (position : Nat) : Pull :=
  match docs[position]? with
  | some d => .document d
  | none => .finished

/-- The summary of a run that delivers all batches of its documents. -/
def RunSummary.ofDeliveries (docs : List Document) (batches : List Batch)
    (delivery : Batch → Delivery) : RunSummary where
  attempted := docs.length
  succeeded := (batches.map fun batch => (delivery batch).accepted).sum
  failed := (batches.map fun batch => (delivery batch).rejected).sum
  unsent := 0
  batches := batches.length
  retries := (batches.map fun batch => (delivery batch).attempts - 1).sum
  terminalState := .completed
  error := none

/-- A submission that is over and was on track has been delivered. -/
theorem Submission.OnTrack.ended {delivery : Delivery} {s : Submission} (h : OnTrack delivery s)
    (ended : s.isOver = true) :
    s.outcomes = delivery.outcomes s.batch ∧ s.retries = delivery.attempts - 1 ∧
      s.halt? = none := by
  cases h with
  | delivered delays stage => simp [outcomes, retries, halt?, stage]
  | resting e stage begun due =>
      rcases stage with stage | stage <;> simp [isOver, stage] at ended
  | queued stage _ | sending stage _ _ => simp [isOver, stage] at ended

namespace Machine

variable {config : PipelineConfig} {docs : List Document} {reactions : Reactions}
  {delivery : Batch → Delivery} {m m' : Machine} {action : Action} {actions : List Action}
  {settled : List Submission}

/-- An action that such a source and sink allow, without anyone who cancels. -/
def Allows (m : Machine) (docs : List Document) (reactions : Reactions) : Action → Prop
  | .cancel => False
  | .pull pull => pull = pullAt docs m.position
  | .answer sequence a => ∀ s, m.submission? sequence = some s →
      (reactions sequence s.attempts).answer? m.config.submitTimeout = some a
  | .timeOut sequence => ∀ s, m.submission? sequence = some s →
      (reactions sequence s.attempts).answer? m.config.submitTimeout = none
  | _ => True

/-- The courses that a run may take with such a source and sink. -/
inductive Plays (config : PipelineConfig) (docs : List Document) (reactions : Reactions) :
    List Action → Machine → Prop
  | start : Plays config docs reactions [] (.start config false)
  | next {actions : List Action} {m m' : Machine} {action : Action}
      (play : Plays config docs reactions actions m) (allowed : m.Allows docs reactions action)
      (step : m.step action = some m') : Plays config docs reactions (actions ++ [action]) m'

/-- Every course comes to an end, never stops before it has finished, and finishes with the
summary. -/
structure Settles (config : PipelineConfig) (docs : List Document) (reactions : Reactions)
    (summary : RunSummary) : Prop where
  ends : ∃ bound, ∀ actions m, Plays config docs reactions actions m → actions.length ≤ bound
  goes_on : ∀ actions m, Plays config docs reactions actions m → m.isFinished = false →
    ∃ action m', Plays config docs reactions (actions ++ [action]) m'
  result : ∀ actions m, Plays config docs reactions actions m → m.isFinished = true →
    m.summary = summary

theorem Plays.run (play : Plays config docs reactions actions m) :
    (Machine.start config false).run? actions = some m := by
  induction play with
  | start => rfl
  | next play allowed step ih => rw [run?_concat, ih, Option.bind_some, step]

/-- Where a course is on its way. -/
structure OnPlan (m : Machine) (docs : List Document) (delivery : Batch → Delivery)
    (actions : List Action) (settled : List Submission) : Prop where
  going : m.cancelled = false
  halt : m.halt = none
  pulled : documents actions <+: docs
  ended : .pull .finished ∈ actions → documents actions = docs
  track : ∀ s ∈ settled ++ m.inFlight, s.OnTrack (delivery s.batch)

theorem onPlan_start : OnPlan (.start config false) docs delivery [] [] :=
  ⟨rfl, rfl, List.nil_prefix, fun ended => by simp at ended, fun _ mem => by simp [start] at mem⟩

theorem OnPlan.retriesStopped_eq (h : OnPlan m docs delivery actions settled)
    (phased : Phased m settled) : m.retriesStopped = false := by
  have whole : m.batchLost = false := by
    by_contra lost
    simpa [h.halt] using phased.lost (Bool.not_eq_false _ ▸ lost)
  simp [retriesStopped, h.going, whole]

/-- Every batch that is out is one of those that the documents make. -/
theorem OnPlan.dispatched_subset (h : OnPlan m docs delivery actions settled)
    (cutting : Cutting m actions) : m.journal.dispatched ⊆ m.config.batches docs := by
  by_cases ended : .pull .finished ∈ actions
  · rw [cutting.ended ended, h.ended ended]
    exact List.Subset.refl _
  · obtain ⟨more, rfl⟩ := h.pulled
    exact (cutting.ahead ended more).subset

/-- A step that pulls no document and leaves the submissions as they are. -/
theorem OnPlan.idle (h : OnPlan m docs delivery actions settled) (other : action ≠ .pull .finished)
    (quiet : action.document? = none) (going : m'.cancelled = m.cancelled)
    (halt : m'.halt = m.halt) (track : ∀ s ∈ settled ++ m'.inFlight, s.OnTrack (delivery s.batch)) :
    OnPlan m' docs delivery (actions ++ [action]) settled := by
  have same : documents (actions ++ [action]) = documents actions := by
    rw [documents_concat, quiet, Option.toList_none, List.append_nil]
  refine ⟨going.trans h.going, halt.trans h.halt, ?_, ?_, track⟩
  · rw [same]
    exact h.pulled
  · rw [mem_concat_iff other, same]
    exact h.ended

theorem onTrack_of_batch (batch : Batch) : (Submission.of batch).OnTrack (delivery batch) :=
  .queued rfl rfl

theorem OnPlan.track_dispatch (h : OnPlan m docs delivery actions settled) (batch : Option Batch) :
    ∀ s ∈ settled ++ (m.inFlight ++ batch.toList.map .of), s.OnTrack (delivery s.batch) := by
  intro s mem
  rw [← List.append_assoc] at mem
  rcases List.mem_append.mp mem with mem | mem
  · exact h.track s mem
  · obtain ⟨batch, -, rfl⟩ := List.mem_map.mp mem
    exact onTrack_of_batch batch

theorem OnPlan.document (h : OnPlan m docs delivery actions settled)
    (concluded : Concluded m actions settled) (pulling : m.phase = .pulling)
    (position : m.position = (documents actions).length) {d : Document}
    (next : .document d = pullAt docs m.position) :
    OnPlan ({ m with
      position := m.position + 1
      batcher := (m.batcher.push (m.config.prepare m.position d)).2 }.dispatch?
      (m.batcher.push (m.config.prepare m.position d)).1) docs delivery
      (actions ++ [.pull (.document d)]) settled := by
  have here : docs[m.position]? = some d := by
    simp only [pullAt] at next
    cases found : docs[m.position]? with
    | none => simp [found] at next
    | some d' => simpa [found, eq_comm] using next
  obtain ⟨more, rfl⟩ := h.pulled
  rw [position, List.getElem?_append_right (Nat.le_refl _), Nat.sub_self] at here
  obtain ⟨rest, rfl⟩ := List.head?_eq_some_iff.mp (List.head?_eq_getElem?.trans here)
  rw [dispatch?_eq]
  refine ⟨h.going, h.halt, ?_, ?_, h.track_dispatch _⟩
  · rw [documents_concat]
    exact ⟨rest, by simp [Action.document?]⟩
  · rw [mem_concat_iff (by simp)]
    exact fun ended => (concluded.pulling pulling ended).elim

theorem OnPlan.finish (h : OnPlan m docs delivery actions settled)
    (position : m.position = (documents actions).length)
    (next : .finished = pullAt docs m.position) :
    OnPlan ({ m with phase := .draining, batcher := m.batcher.flush.2 }.dispatch?
      m.batcher.flush.1) docs delivery (actions ++ [.pull .finished]) settled := by
  have all : docs.length ≤ (documents actions).length := by
    simp only [pullAt] at next
    cases found : docs[m.position]? with
    | none => simpa [position] using found
    | some d => simp [found] at next
  have same : documents (actions ++ [.pull .finished]) = documents actions := by
    simp [documents_concat, Action.document?]
  rw [dispatch?_eq]
  refine ⟨h.going, h.halt, ?_, fun _ => ?_, h.track_dispatch _⟩
  · rw [same]
    exact h.pulled
  · rw [same]
    exact h.pulled.eq_of_length_le all

theorem OnPlan.advance (h : OnPlan m docs delivery actions settled) (phased : Phased m settled)
    (custody : Custody m settled) (cutting : Cutting m actions)
    (serves : ∀ batch ∈ m.config.batches docs, (delivery batch).Serves m.config reactions batch)
    {s s' : Submission} (found : m.submission? s.sequence = some s)
    (moves : s.Moves m.config m.retriesStopped action s')
    (allowed : m.Allows docs reactions action) :
    OnPlan (m.change action s') docs delivery (actions ++ [action]) settled := by
  have mem := List.mem_append_right settled (submission?_eq_some found).1
  have out := h.dispatched_subset cutting (custody.mem_dispatched mem)
  have heard : ∀ a, Submission.lastAfter m.config none action = some (some a) →
      a = reactions.result m.config s.sequence s.attempts := by
    intro a last
    cases moves with
    | answer a' wire =>
        simp only [Submission.lastAfter, Option.some.injEq] at last
        simp only [Reactions.result, allowed s found, Option.getD_some, last]
    | timeOut wire =>
        simp only [Submission.lastAfter, Option.some.injEq] at last
        simp only [Reactions.result, allowed s found, Option.getD_none, last]
    | send _ | wake _ _ | abandon _ _ _ => simp [Submission.lastAfter] at last
  have track : s'.OnTrack (delivery s'.batch) := by
    rw [h.retriesStopped_eq phased] at moves
    rw [moves.batch_eq]
    exact (h.track s mem).move (serves _ out) moves heard
  refine h.idle ?_ ?_ rfl rfl ?_
  · rintro rfl
    cases moves
  · cases moves <;> rfl
  · intro other here
    simp only [Machine.change, List.mem_append, List.mem_map] at here
    rcases here with here | ⟨old, here, rfl⟩
    · exact h.track other (List.mem_append_left _ here)
    · split
      · exact track
      · exact h.track old (List.mem_append_right _ here)

theorem OnPlan.receive (h : OnPlan m docs delivery actions settled) {s : Submission}
    (found : m.submission? s.sequence = some s) (ended : s.isOver = true) :
    OnPlan (m.receive s) docs delivery (actions ++ [.absorb s.sequence]) (settled ++ [s]) := by
  have mem := (submission?_eq_some found).1
  have quiet := ((h.track s (List.mem_append_right _ mem)).ended ended).2.2
  have same : documents (actions ++ [.absorb s.sequence]) = documents actions := by
    simp [documents_concat, Action.document?]
  refine ⟨h.going, ?_, ?_, ?_, ?_⟩
  · simp only [Machine.receive, h.halt, quiet, Option.or_none]
  · rw [same]
    exact h.pulled
  · rw [mem_concat_iff (by simp), same]
    exact h.ended
  · intro other here
    simp only [Machine.receive, List.mem_append, List.mem_singleton, List.mem_filter] at here
    rcases here with (here | rfl) | here
    · exact h.track other (List.mem_append_left _ here)
    · exact h.track other (List.mem_append_right _ mem)
    · exact h.track other (List.mem_append_right _ here.1)

theorem OnPlan.step (h : OnPlan m docs delivery actions settled) (phased : Phased m settled)
    (concluded : Concluded m actions settled) (custody : Custody m settled)
    (cutting : Cutting m actions) (position : m.position = (documents actions).length)
    (serves : ∀ batch ∈ m.config.batches docs, (delivery batch).Serves m.config reactions batch)
    (allowed : m.Allows docs reactions action) (step : m.Step action m') :
    OnPlan m' docs delivery (actions ++ [action]) (settled ++ (m.absorbedBy action).toList) := by
  cases step with
  | cancel => exact allowed.elim
  | document d room going =>
      rw [append_absorbedBy rfl]
      exact h.document concluded (pulling_of_canPull room) position allowed
  | ended room going =>
      rw [append_absorbedBy rfl]
      exact h.finish position allowed
  | failed reason room going =>
      simp only [Allows, pullAt] at allowed
      split at allowed <;> contradiction
  | stop room asked => simp [h.going] at asked
  | advance found moves =>
      rw [append_absorbedBy (absorbedBy_of_moves moves)]
      exact h.advance phased custody cutting serves found moves allowed
  | absorb found awaits ended =>
      simpa only [absorbedBy, found, Option.toList_some] using h.receive found ended
  | close done =>
      rw [append_absorbedBy rfl]
      exact h.idle (by simp) rfl rfl rfl h.track

theorem Plays.onPlan
    (serves : ∀ batch ∈ config.batches docs, (delivery batch).Serves config reactions batch)
    (play : Plays config docs reactions actions m) :
    OnPlan m docs delivery actions ((Machine.start config false).absorbed actions) := by
  induction play with
  | start => exact onPlan_start
  | next play allowed step ih =>
      obtain ⟨unsent, ledger⟩ := ledger_of_run play.run
      rw [absorbed_concat _ play.run]
      exact ih.step (phased_of_run play.run) (concluded_of_run play.run)
        (custody_of_run play.run) (cutting_of_run play.run) ledger.position
        (config_of_run play.run ▸ serves) allowed (step_of_step step)

theorem Plays.calm (play : Plays config docs reactions actions m) :
    actions.countP (·.isCancel) = 0 := by
  induction play with
  | start => rfl
  | @next actions m m' action play allowed step ih =>
      have other : action.isCancel = false := by
        cases action with
        | cancel => exact allowed.elim
        | _ => rfl
      simp [ih, other]

theorem Plays.length_le
    (serves : ∀ batch ∈ config.batches docs, (delivery batch).Serves config reactions batch)
    (play : Plays config docs reactions actions m) :
    actions.length ≤ (Machine.start config false).work +
      docs.length * (3 * (config.maxRetries.toNat + 1) + 1) := by
  have bound := length_of_run play.run
  have pulled := Nat.mul_le_mul_right (3 * m.rounds + 1) (play.onPlan serves).pulled.length_le
  rw [play.calm] at bound
  have rounds : m.rounds = config.maxRetries.toNat + 1 := by
    rw [Machine.rounds, config_of_run play.run]
  rw [← rounds]
  omega

/-- A submission that is out and on track has an action that the sink allows, until it is over. -/
theorem OnPlan.exists_step (h : OnPlan m docs delivery actions settled) (phased : Phased m settled)
    (awaits : m.awaitsSubmission = true) {s : Submission}
    (found : m.submission? s.sequence = some s) :
    ∃ action m', m.Allows docs reactions action ∧ m.Step action m' := by
  have going := h.retriesStopped_eq phased
  cases h.track s (List.mem_append_right _ (submission?_eq_some found).1) with
  | queued stage fresh =>
      exact ⟨.send s.sequence, _, True.intro, .advance found (.send (.inl stage))⟩
  | sending stage begun due =>
      have only : ∀ s', m.submission? s.sequence = some s' → s' = s := fun s' here =>
        Option.some.inj (here.symm.trans found)
      cases answer : (reactions s.sequence s.attempts).answer? m.config.submitTimeout with
      | some a =>
          exact ⟨.answer s.sequence a, _, fun s' here => only s' here ▸ answer,
            .advance found (.answer a stage)⟩
      | none =>
          exact ⟨.timeOut s.sequence, _, fun s' here => only s' here ▸ answer,
            .advance found (.timeOut stage)⟩
  | resting e stage begun due =>
      rcases stage with stage | stage
      · exact ⟨.wake s.sequence, _, True.intro, .advance found (.wake e stage)⟩
      · exact ⟨.send s.sequence, _, True.intro, .advance found (.send (.inr ⟨e, stage⟩))⟩
  | delivered delays stage =>
      have ended : s.isOver = true := by simp [Submission.isOver, stage]
      exact ⟨.absorb s.sequence, _, True.intro, .absorb found awaits ended⟩

theorem Plays.goes_on
    (serves : ∀ batch ∈ config.batches docs, (delivery batch).Serves config reactions batch)
    (wide : 0 < config.maxInFlight) (play : Plays config docs reactions actions m)
    (active : m.isFinished = false) :
    ∃ action m', Plays config docs reactions (actions ++ [action]) m' := by
  have plan := play.onPlan serves
  have step : ∃ action m', m.Allows docs reactions action ∧ m.Step action m' := by
    have wide : 0 < m.config.maxInFlight := config_of_run play.run ▸ wide
    rcases waits_of_active (custody_of_run play.run) wide (of_decide_eq_false active) with
      room | done | ⟨awaits, s, found⟩
    · cases here : docs[m.position]? with
      | some d =>
          have next : .document d = pullAt docs m.position := by simp [pullAt, here]
          exact ⟨.pull (.document d), _, next, .document d room plan.going⟩
      | none =>
          have next : .finished = pullAt docs m.position := by simp [pullAt, here]
          exact ⟨.pull .finished, _, next, .ended room plan.going⟩
    · exact ⟨.close, _, True.intro, .close done⟩
    · exact plan.exists_step (phased_of_run play.run) awaits found
  obtain ⟨action, m', allowed, step⟩ := step
  exact ⟨action, m', .next play allowed step.step_eq⟩

/-- A course that has finished has sent all batches of its documents, and delivered each in its own
way. -/
theorem Plays.delivered
    (serves : ∀ batch ∈ config.batches docs, (delivery batch).Serves config reactions batch)
    (play : Plays config docs reactions actions m) (finished : m.isFinished = true) :
    m.journal.dispatched = config.batches docs ∧
      List.Perm (((Machine.start config false).absorbed actions).map (·.batch))
        (config.batches docs) ∧
      ∀ s ∈ (Machine.start config false).absorbed actions,
        s.outcomes = (delivery s.batch).outcomes s.batch ∧
          s.retries = (delivery s.batch).attempts - 1 := by
  have plan := play.onPlan serves
  have run := play.run
  obtain ⟨ended, -⟩ := (halt_eq_none_iff run finished).mp plan.halt
  obtain ⟨out, -⟩ := (phased_of_run run).finished (of_decide_eq_true finished)
  have dispatched : m.journal.dispatched = config.batches docs := by
    rw [(cutting_of_run run).ended ended, plan.ended ended, config_of_run run]
  have held := (custody_of_run run).held
  rw [out, List.append_nil, dispatched] at held
  refine ⟨dispatched, held, fun s mem => ?_⟩
  have done := (answered_of_run run).ended s mem
  have track := (plan.track s (List.mem_append_left _ mem)).ended done
  exact ⟨track.1, track.2.1⟩

/-- A total over the submissions that came in is a total over their batches. -/
theorem sum_settled {batches : List Batch} (held : List.Perm (settled.map (·.batch)) batches)
    {f : Submission → Nat} {g : Batch → Nat} (agree : ∀ s ∈ settled, f s = g s.batch) :
    (settled.map f).sum = (batches.map g).sum := by
  rw [List.map_congr_left agree, ← (held.map g).sum_nat, List.map_map]
  rfl

theorem Plays.summary_eq
    (serves : ∀ batch ∈ config.batches docs, (delivery batch).Serves config reactions batch)
    (play : Plays config docs reactions actions m) (finished : m.isFinished = true) :
    m.summary = .ofDeliveries docs (config.batches docs) delivery := by
  have plan := play.onPlan serves
  have run := play.run
  obtain ⟨unsent, ledger⟩ := ledger_of_run run
  obtain ⟨withheld, recorded⟩ := recorded_of_halt run plan.halt
  obtain ⟨dispatched, held, delivered⟩ := play.delivered serves finished
  obtain ⟨ended, -⟩ := (halt_eq_none_iff run finished).mp plan.halt
  -- How many outcomes are of a kind is the same question to the statuses of the deliveries.
  have judged : ∀ q : Bool → Bool, m.journal.recorded.countP (fun outcome => q outcome.isSuccess) =
      ((config.batches docs).map fun batch =>
        (delivery batch).statuses.countP fun status => q status.isAccepted).sum := by
    intro q
    rw [recorded, List.countP_flatMap]
    refine sum_settled held fun s mem => ?_
    have known := serves _ (held.mem_iff.mp (List.mem_map_of_mem mem))
    rw [Function.comp_apply, (delivered s mem).1, known.countP_outcomes]
  have attempted : m.journal.recorded.length = docs.length := by
    have length := (accounted_of_finished run finished).length_eq
    rwa [accounted, List.length_map, List.length_map, config.length_items,
      plan.ended ended] at length
  have split := List.length_eq_countP_add_countP (·.isSuccess) (l := m.journal.recorded)
  have succeeded := judged id
  have failed := judged not
  simp only [summary, plan.halt, ledger.counted, Snapshot.add, Snapshot.zero, Nat.zero_add,
    Option.map_none, Option.getD_none, RunSummary.ofDeliveries, RunSummary.mk.injEq, and_true]
  refine ⟨attempted, succeeded, ?_, withheld, ?_, ?_⟩
  · simp only [Bool.not_eq_true, Bool.decide_eq_false] at split
    rw [split, Nat.add_sub_cancel_left]
    exact failed
  · rw [(custody_of_run run).batches, dispatched]
  · rw [ledger.retried]
    exact sum_settled held fun s mem => (delivered s mem).2

theorem settles_of_serves (config : PipelineConfig) (wide : 0 < config.maxInFlight)
    (serves : ∀ batch ∈ config.batches docs, (delivery batch).Serves config reactions batch) :
    Settles config docs reactions (.ofDeliveries docs (config.batches docs) delivery) where
  ends := ⟨_, fun _ _ play => play.length_le serves⟩
  goes_on _ _ play active := play.goes_on serves wide active
  result _ _ play finished := play.summary_eq serves finished

/-- If each batch can be delivered on its own, every course of a run with any number of submissions
at once comes to an end, and all of them end in the summary of the run that sends one batch after
the other. -/
theorem concurrent_refines_sequential (config : PipelineConfig) (docs : List Document)
    (reactions : Reactions) (delivery : Batch → Delivery)
    (serves : ∀ batch ∈ config.batches docs, (delivery batch).Serves config reactions batch)
    (width : UInt64) (wide : 0 < width) :
    Settles { config with maxInFlight := width } docs reactions
      (.ofDeliveries docs (config.batches docs) delivery) ∧
    Settles { config with maxInFlight := 1 } docs reactions
      (.ofDeliveries docs (config.batches docs) delivery) ∧
    ∀ actions m actions₁ m₁,
      Plays { config with maxInFlight := width } docs reactions actions m → m.isFinished = true →
      Plays { config with maxInFlight := 1 } docs reactions actions₁ m₁ →
      m₁.isFinished = true → m.summary = m₁.summary := by
  have settles : ∀ width : UInt64, 0 < width →
      Settles { config with maxInFlight := width } docs reactions
        (.ofDeliveries docs (config.batches docs) delivery) := fun width wide =>
    settles_of_serves { config with maxInFlight := width } wide fun batch mem =>
      (serves batch mem).widen width
  have one : (0 : UInt64) < 1 := by decide
  refine ⟨settles width wide, settles 1 one, ?_⟩
  intro actions m actions₁ m₁ play finished play₁ finished₁
  rw [(settles width wide).result actions m play finished,
    (settles 1 one).result actions₁ m₁ play₁ finished₁]

/-- The sink hangs once on each batch, and refuses the documents of every other one. -/
def stubborn : Reactions := fun sequence attempt =>
  ⟨.zero, if attempt = 1 then none
    else some (.statuses [if sequence % 2 = 0 then .rejected 400 "no" else .accepted none])⟩

def stubbornDelivery (batch : Batch) : Delivery :=
  ⟨2, [if batch.sequence % 2 = 0 then .rejected 400 "no" else .accepted none]⟩

theorem stubborn_serves {config : PipelineConfig} (retries : 1 ≤ config.maxRetries.toNat)
    {batch : Batch} (single : batch.size = 1) :
    (stubbornDelivery batch).Serves config stubborn batch := by
  refine ⟨Nat.le_succ 1, Nat.succ_le_succ retries, ?_, ?_, single.symm⟩
  · intro attempt begun early
    obtain rfl : attempt = 1 := Nat.le_antisymm (Nat.le_of_lt_succ early) begun
    have silent : (stubborn batch.sequence 1).answer? config.submitTimeout = none :=
      ite_self none
    refine ⟨.timeout config.submitTimeout, ?_, rfl⟩
    rw [Reactions.result, silent]
    rfl
  · have prompt : (stubborn batch.sequence 2).answer? config.submitTimeout =
        some (.statuses (stubbornDelivery batch).statuses) := if_pos (Nat.zero_le _)
    change ((stubborn batch.sequence 2).answer? config.submitTimeout).getD _ = _
    rw [prompt]
    rfl

def singlesConfig : PipelineConfig := { indexTarget := "idx", maxBatchCount := 1 }

def threeDocuments : List Document := [[], [("_id", .string "b")], []]

theorem concurrent_refines_sequential_stubborn :
    Settles { singlesConfig with maxInFlight := 3 } threeDocuments stubborn
      ⟨3, 2, 1, 0, 3, 3, .completed, none⟩ := by
  have single : ∀ batch ∈ singlesConfig.batches threeDocuments, batch.size = 1 := by
    decide +kernel
  have summary : RunSummary.ofDeliveries threeDocuments (singlesConfig.batches threeDocuments)
      stubbornDelivery = ⟨3, 2, 1, 0, 3, 3, .completed, none⟩ := by
    decide +kernel
  rw [← summary]
  exact (concurrent_refines_sequential singlesConfig threeDocuments stubborn stubbornDelivery
    (fun batch mem => stubborn_serves (by decide) (single batch mem)) 3 (by decide)).1

end Machine

end BulkIngest
