import BulkIngest.Proofs.Run.Conservation
import BulkIngest.Proofs.Run.Dispatch
import BulkIngest.Proofs.Run.Load

/-!
What a stop leaves to be done. No rest begins any more once the run was asked to stop or another
submission has failed, so each batch has at most one call after that: its first one, the one that
was due because its rest was over by then, or the one after a rest that was going on and ended
before the submission had its next turn. Nothing is pulled any more, and what is on the wire is
answered as if nothing had happened.
-/

namespace BulkIngest

namespace Submission

variable {config : PipelineConfig} {policy : RetryPolicy} {stopped : Bool} {s s' : Submission}
  {action : Action}

/-- Whether an attempt is to begin next. -/
def isDue (s : Submission) : Bool :=
  match s.stage with
  | .queued | .rested _ => true
  | _ => false

/-- Whether an attempt may still begin, at once or after the rest that is going on. -/
def isWaiting (s : Submission) : Bool :=
  match s.stage with
  | .queued | .resting _ | .rested _ => true
  | _ => false

theorem isDue_iff : s.isDue = true ↔ s.stage = .queued ∨ ∃ e, s.stage = .rested e := by
  cases stage : s.stage <;> simp [isDue, stage]

theorem isWaiting_of_isDue (due : s.isDue = true) : s.isWaiting = true := by
  rcases isDue_iff.mp due with stage | ⟨e, stage⟩ <;> simp [isWaiting, stage]

theorem not_isWaiting_of_isOver (ended : s.isOver = true) : s.isWaiting = false := by
  cases stage : s.stage with
  | queued | resting _ | rested _ => simp [isOver, stage] at ended
  | sending | reported _ | panicked _ => simp [isWaiting, stage]

/-- An attempt begins only if it is due, and then the submission waits no longer. -/
theorem Moves.callsOf_eq (moves : Moves config stopped s action s') :
    Machine.callsOf s' action = [] ∨
      s.isDue = true ∧ action = .send s.sequence ∧ s'.isWaiting = false ∧
        Machine.callsOf s' action = [⟨s.sequence, s.attempts + 1⟩] := by
  cases moves with
  | send due => exact .inr ⟨isDue_iff.mpr due, rfl, rfl, rfl⟩
  | answer _ _ | timeOut _ | wake _ _ | abandon _ _ _ => exact .inl rfl

/-- What became of a submission that may not rest again and still waits for an attempt, by what has
happened to it. -/
inductive Remains (s : Submission) : List Action → Submission → Prop
  | idle : Remains s [] s
  | woken (e : TransportError) (rest : s.stage = .resting e) :
      Remains s [.wake s.sequence] { s with stage := .rested e }

/-- How a submission that may not rest again comes to another attempt, by what has happened to
it. -/
inductive GoesOn (s : Submission) : List Action → Prop
  | due (due : s.isDue = true) : GoesOn s [.send s.sequence]
  | woken (e : TransportError) (rest : s.stage = .resting e) :
      GoesOn s [.wake s.sequence, .send s.sequence]

variable {turns : List Action} {s₁ s₂ : Submission}

theorem Remains.sequence_eq (h : s.Remains turns s₁) : s₁.sequence = s.sequence := by
  cases h <;> rfl

theorem Remains.attempts_eq (h : s.Remains turns s₁) : s₁.attempts = s.attempts := by
  cases h <;> rfl

theorem Remains.isWaiting (h : s.Remains turns s₁) (waits : s₁.isWaiting = true) :
    s.isWaiting = true := by
  cases h with
  | idle => exact waits
  | woken e rest => simp [Submission.isWaiting, rest]

theorem GoesOn.isWaiting (h : s.GoesOn turns) : s.isWaiting = true := by
  cases h with
  | due due => exact isWaiting_of_isDue due
  | woken e rest => simp [Submission.isWaiting, rest]

theorem Remains.goesOn (h : s.Remains turns s₁) (due : s₁.isDue = true) :
    s.GoesOn (turns ++ [.send s.sequence]) := by
  cases h with
  | idle => exact .due due
  | woken e rest => exact .woken e rest

/-- Of a submission that may not rest again, only the end of a rest leaves one that waits. -/
theorem Moves.remains (moves : Moves config true s₁ action s₂) (waits : s₂.isWaiting = true) :
    s₁.isWaiting = true ∧
      ∀ s turns, Remains s turns s₁ → Remains s (turns ++ [action]) s₂ := by
  cases moves with
  | send due => contradiction
  | answer a wire | timeOut wire =>
      rw [not_isWaiting_of_isOver (isOver_conclude _ _ _)] at waits
      contradiction
  | abandon e rest stopping => contradiction
  | wake e rest =>
      refine ⟨by simp [Submission.isWaiting, rest], fun s turns h => ?_⟩
      cases h with
      | idle => exact .woken e rest
      | woken e' rest' => contradiction

theorem stage_conclude_ne_rested (policy : RetryPolicy) (stopped : Bool) (s : Submission)
    (a : Answer) (e : TransportError) : (s.conclude policy stopped a).stage ≠ .rested e := by
  rw [conclude]
  cases s.batch.reading a with
  | delivered _ | broken _ => simp [report]
  | lost _ =>
      simp only [afterFailure]
      split
      · simp [report]
      · split <;> simp [abandonAfter, report]

/-- Only the end of a rest leaves a submission rested. -/
theorem Moves.wake_of_rested {e : TransportError} (moves : Moves config stopped s action s')
    (rested : s'.stage = .rested e) : action = .wake s.sequence := by
  cases moves with
  | wake _ _ => rfl
  | answer _ _ | timeOut _ => exact (stage_conclude_ne_rested _ _ _ _ _ rested).elim
  | send _ | abandon _ _ _ => contradiction

end Submission

namespace Machine

variable {config : PipelineConfig} {cancelled : Bool} {m m' m₀ : Machine} {action : Action}
  {actions before after : List Action} {settled : List Submission}

theorem cancelled_iff (run : (Machine.start config cancelled).run? actions = some m) :
    m.cancelled = true ↔ cancelled = true ∨ .cancel ∈ actions := by
  refine run_induction (P := fun actions m => m.cancelled = true ↔
    cancelled = true ∨ .cancel ∈ actions) (by simp [start]) ?_ run
  intro actions m action m' run ih step
  rw [List.mem_append, List.mem_singleton]
  cases step with
  | cancel => simp
  | document d room going | ended room going =>
      rw [dispatch?_eq]
      simpa using ih
  | advance found moves =>
      have other : .cancel ≠ action := by
        rintro rfl
        cases moves
      simpa [Machine.change, other] using ih
  | failed _ _ _ | stop _ _ | absorb _ _ _ | close _ =>
      simpa [haltWith, Machine.receive, closed] using ih

theorem batchLost_iff (run : (Machine.start config cancelled).run? actions = some m) :
    m.batchLost = true ↔
      ∃ s ∈ (Machine.start config cancelled).absorbed actions, s.halt?.isSome = true := by
  refine run_induction (P := fun actions m => m.batchLost = true ↔
    ∃ s ∈ (Machine.start config cancelled).absorbed actions, s.halt?.isSome = true)
    (by simp [start, absorbed]) ?_ run
  intro actions m action m' run ih step
  rw [absorbed_concat action run]
  cases step with
  | document d room going | ended room going =>
      rw [append_absorbedBy rfl, dispatch?_eq]
      exact ih
  | advance found moves =>
      rw [append_absorbedBy (absorbedBy_of_moves moves)]
      exact ih
  | @absorb s found awaits ended =>
      simp only [absorbedBy, found, Option.toList_some, List.mem_append, List.mem_singleton,
        or_and_right, exists_or, exists_eq_left, Machine.receive, Bool.or_eq_true, ih]
  | cancel | failed _ _ _ | stop _ _ | close _ =>
      rw [append_absorbedBy rfl]
      exact ih

/-- No submission may rest any more if and only if the run was asked to stop or a submission has
come in that brought a reason to. -/
theorem retriesStopped_iff (run : (Machine.start config cancelled).run? actions = some m) :
    m.retriesStopped = true ↔ cancelled = true ∨ .cancel ∈ actions ∨
      ∃ s ∈ (Machine.start config cancelled).absorbed actions, s.halt?.isSome = true := by
  rw [retriesStopped, Bool.or_eq_true, cancelled_iff run, batchLost_iff run, or_assoc]

/-- What has happened to a batch, in order. -/
def about (sequence : Nat) (actions : List Action) : List Action :=
  actions.filter fun action => action.sequence? = some sequence

theorem about_append (sequence : Nat) (actions more : List Action) :
    about sequence (actions ++ more) = about sequence actions ++ about sequence more :=
  List.filter_append ..

theorem about_concat_of_eq {sequence : Nat} (same : action.sequence? = some sequence) :
    about sequence (actions ++ [action]) = about sequence actions ++ [action] := by
  simp [about, same]

theorem about_concat_of_ne {sequence : Nat} (other : action.sequence? ≠ some sequence) :
    about sequence (actions ++ [action]) = about sequence actions := by
  simp [about, other]

theorem prefix_about_concat {sequence : Nat} {first : List Action}
    (begins : first <+: about sequence actions) : first <+: about sequence (actions ++ [action]) :=
  begins.trans (about_append .. ▸ List.prefix_append _ _)

theorem mem_inFlight_receive {s t : Submission} :
    t ∈ (m.receive s).inFlight ↔
      t ∈ m.inFlight ∧ (Action.absorb s.sequence).sequence? ≠ some t.sequence := by
  rw [Machine.receive, List.mem_filter, decide_eq_true_iff, ne_comm]
  exact and_congr_right fun _ => not_congr Option.some_inj.symm

/-- Whose attempt is due after a rest, for that batch the end of the rest was the last that
happened. -/
def Woken (m : Machine) (actions : List Action) : Prop :=
  ∀ s ∈ m.inFlight, ∀ e, s.stage = .rested e →
    (about s.sequence actions).getLast? = some (.wake s.sequence)

theorem Woken.carry (h : Woken m actions)
    (held : ∀ s ∈ m'.inFlight, s.stage = .queued ∨
      s ∈ m.inFlight ∧ action.sequence? ≠ some s.sequence) : Woken m' (actions ++ [action]) := by
  intro s mem e rested
  rcases held s mem with queued | ⟨here, other⟩
  · simp [queued] at rested
  · rw [about_concat_of_ne other]
    exact h s here e rested

theorem Woken.change (h : Woken m actions) {s s' : Submission}
    (moves : s.Moves m.config m.retriesStopped action s') :
    Woken (m.change action s') (actions ++ [action]) := by
  intro other mem e rested
  obtain ⟨old, here, rfl⟩ := List.mem_map.mp mem
  by_cases same : old.sequence = s'.sequence
  · rw [if_pos same] at rested ⊢
    rw [about_concat_of_eq (moves.sequence_eq ▸ moves.sequence?_eq), List.getLast?_concat,
      moves.wake_of_rested rested, moves.sequence_eq]
  · rw [if_neg same] at rested ⊢
    rw [about_concat_of_ne]
    · exact h old here e rested
    · rw [moves.sequence?_eq, ← moves.sequence_eq, ne_eq, Option.some.injEq]
      exact Ne.symm same

/-- What became of a machine `m` in which no rest may begin any more: `m₁` has made the calls `new`
since, at most one for each batch, and only for submissions that waited in `m` already. -/
structure WindsDown (m m₁ : Machine) (after : List Action) (new : List SinkCall) : Prop where
  stopped : m₁.retriesStopped = true
  asked : m₁.phase = .pulling → m₁.cancelled = true
  dispatched : m₁.journal.dispatched = m.journal.dispatched
  calls : m₁.journal.calls = m.journal.calls ++ new
  once : (new.map (·.sequence)).Nodup
  made : ∀ call ∈ new, ∃ s ∈ m.inFlight, call = ⟨s.sequence, s.attempts + 1⟩ ∧
    ∃ first, s.GoesOn first ∧ first <+: about s.sequence after
  waiting : ∀ s₁ ∈ m₁.inFlight, s₁.isWaiting = true →
    ∃ s ∈ m.inFlight, s.Remains (about s.sequence after) s₁ ∧
      ∀ call ∈ new, call.sequence ≠ s.sequence

variable {m₁ m₂ : Machine} {new : List SinkCall}

theorem WindsDown.made_concat (h : WindsDown m m₁ after new) (action : Action) :
    ∀ call ∈ new, ∃ s ∈ m.inFlight, call = ⟨s.sequence, s.attempts + 1⟩ ∧
      ∃ first, s.GoesOn first ∧ first <+: about s.sequence (after ++ [action]) := by
  intro call made
  obtain ⟨s, mem, eq, first, goesOn, begins⟩ := h.made call made
  exact ⟨s, mem, eq, first, goesOn, prefix_about_concat begins⟩

/-- A step that begins no attempt and lets nothing new go out. -/
theorem WindsDown.carry (h : WindsDown m m₁ after new)
    (stopped : m₁.retriesStopped = true → m₂.retriesStopped = true)
    (asked : m₂.phase = .pulling →
      m₁.phase = .pulling ∧ (m₁.cancelled = true → m₂.cancelled = true))
    (dispatched : m₂.journal.dispatched = m₁.journal.dispatched)
    (calls : m₂.journal.calls = m₁.journal.calls)
    (held : ∀ s ∈ m₂.inFlight, s ∈ m₁.inFlight ∧ action.sequence? ≠ some s.sequence) :
    WindsDown m m₂ (after ++ [action]) new := by
  refine ⟨stopped h.stopped, fun pulling => (asked pulling).2 (h.asked (asked pulling).1),
    dispatched.trans h.dispatched, calls.trans h.calls, h.once, h.made_concat action,
    fun s₁ mem waits => ?_⟩
  obtain ⟨here, other⟩ := held s₁ mem
  obtain ⟨s, mem, remains, unsent⟩ := h.waiting s₁ here waits
  refine ⟨s, mem, ?_, unsent⟩
  rwa [about_concat_of_ne (remains.sequence_eq ▸ other)]

/-- Who waits after a move has just ended its rest, or is another one and waited before. -/
theorem WindsDown.waiting_change (h : WindsDown m m₁ after new) {s s' : Submission}
    (here : s ∈ m₁.inFlight) (moves : s.Moves m₁.config true action s') :
    ∀ s₁ ∈ (m₁.change action s').inFlight, s₁.isWaiting = true →
      (s₁ = s' ∨ s₁.sequence ≠ s.sequence) ∧
      ∃ t ∈ m.inFlight, t.Remains (about t.sequence (after ++ [action])) s₁ ∧
        ∀ call ∈ new, call.sequence ≠ t.sequence := by
  intro s₁ mem waits
  have named : action.sequence? = some s.sequence := moves.sequence?_eq
  have same : s'.sequence = s.sequence := moves.sequence_eq
  obtain ⟨old, oldHere, rfl⟩ := List.mem_map.mp mem
  by_cases own : old.sequence = s'.sequence
  · rw [if_pos own] at waits ⊢
    obtain ⟨waited, onwards⟩ := moves.remains waits
    obtain ⟨t, first, remains, unsent⟩ := h.waiting s here waited
    refine ⟨.inl rfl, t, first, ?_, unsent⟩
    rw [about_concat_of_eq (named.trans (congrArg some remains.sequence_eq))]
    exact onwards t _ remains
  · rw [if_neg own] at waits ⊢
    rw [same] at own
    obtain ⟨t, first, remains, unsent⟩ := h.waiting old oldHere waits
    refine ⟨.inr own, t, first, ?_, unsent⟩
    rwa [about_concat_of_ne]
    rw [named, ← remains.sequence_eq, ne_eq, Option.some.injEq]
    exact Ne.symm own

/-- The attempt that a submission begins when it is due is the first of its batch since `m`. -/
theorem WindsDown.send (h : WindsDown m m₁ after new) {s s' : Submission} (here : s ∈ m₁.inFlight)
    (due : s.isDue = true) (sent : s'.isWaiting = false)
    (moves : s.Moves m₁.config true (.send s.sequence) s')
    (calls : (m₁.change (.send s.sequence) s').journal.calls =
      m.journal.calls ++ (new ++ [⟨s.sequence, s.attempts + 1⟩])) :
    WindsDown m (m₁.change (.send s.sequence) s') (after ++ [.send s.sequence])
      (new ++ [⟨s.sequence, s.attempts + 1⟩]) := by
  obtain ⟨t, first, remains, unsent⟩ := h.waiting s here (Submission.isWaiting_of_isDue due)
  have number : s.sequence = t.sequence := remains.sequence_eq
  refine ⟨h.stopped, h.asked, h.dispatched, calls, ?_, fun call mem => ?_, fun s₁ mem waits => ?_⟩
  · rw [List.map_append, List.map_singleton, List.nodup_append]
    refine ⟨h.once, List.nodup_singleton _, ?_⟩
    simpa [number] using unsent
  · rcases List.mem_append.mp mem with mem | mem
    · exact h.made_concat _ call mem
    · rw [List.mem_singleton, number, remains.attempts_eq] at mem
      have turns : about t.sequence (after ++ [.send s.sequence]) =
          about t.sequence after ++ [.send t.sequence] := by
        rw [number]
        exact about_concat_of_eq rfl
      exact ⟨t, first, mem, _, remains.goesOn due, [], (List.append_nil _).trans turns.symm⟩
  · obtain ⟨other, t₁, first₁, remains₁, unsent₁⟩ := h.waiting_change here moves s₁ mem waits
    refine ⟨t₁, first₁, remains₁, fun call mem => ?_⟩
    rcases List.mem_append.mp mem with mem | mem
    · exact unsent₁ call mem
    · rw [List.mem_singleton] at mem
      rw [mem, ← remains₁.sequence_eq]
      refine (other.resolve_left ?_).symm
      rintro rfl
      rw [sent] at waits
      contradiction

theorem WindsDown.change (h : WindsDown m m₁ after new) {s s' : Submission}
    (found : m₁.submission? s.sequence = some s)
    (moves : s.Moves m₁.config m₁.retriesStopped action s') :
    WindsDown m (m₁.change action s') (after ++ [action]) (new ++ callsOf s' action) := by
  have here := (submission?_eq_some found).1
  rw [h.stopped] at moves
  have calls : (m₁.change action s').journal.calls =
      m.journal.calls ++ (new ++ callsOf s' action) := by
    rw [← List.append_assoc, ← h.calls]
    rfl
  rcases moves.callsOf_eq with quiet | ⟨due, rfl, sent, one⟩
  · rw [quiet, List.append_nil] at calls ⊢
    exact ⟨h.stopped, h.asked, h.dispatched, calls, h.once, h.made_concat action,
      fun s₁ mem waits => (h.waiting_change here moves s₁ mem waits).2⟩
  · rw [one] at calls ⊢
    exact h.send here due sent moves calls

theorem WindsDown.not_pull (h : WindsDown m m₁ after new) (room : m₁.canPull = true)
    (going : m₁.cancelled = false) : False := by
  have asked := h.asked (pulling_of_canPull room)
  rw [going] at asked
  contradiction

theorem WindsDown.step (h : WindsDown m m₁ after new) (step : m₁.Step action m₂) :
    action.pull? = none ∧ ∃ more, WindsDown m m₂ (after ++ [action]) (new ++ more) := by
  cases step with
  | document _ room going | ended room going | failed _ room going =>
      exact (h.not_pull room going).elim
  | advance found moves =>
      refine ⟨?_, _, h.change found moves⟩
      cases moves <;> rfl
  | cancel =>
      refine ⟨rfl, [], ?_⟩
      rw [List.append_nil]
      exact h.carry (fun _ => by simp [retriesStopped]) (fun pulling => ⟨pulling, fun _ => rfl⟩)
        rfl rfl fun _ mem => ⟨mem, by simp [Action.sequence?]⟩
  | stop room asked =>
      refine ⟨rfl, [], ?_⟩
      rw [List.append_nil]
      exact h.carry id (fun pulling => by contradiction) rfl rfl fun _ mem =>
        ⟨mem, by simp [Action.sequence?]⟩
  | @absorb s found awaits ended =>
      refine ⟨rfl, [], ?_⟩
      rw [List.append_nil]
      refine h.carry (fun stopped => ?_) (fun pulling => ?_) rfl rfl fun t mem => ?_
      · simp only [retriesStopped, Machine.receive, Bool.or_eq_true] at stopped ⊢
        exact stopped.imp_right .inl
      · cases reason : s.halt? with
        | none => exact ⟨by simpa [Machine.receive, reason] using pulling, id⟩
        | some _ => simp [Machine.receive, reason] at pulling
      · exact mem_inFlight_receive.mp mem
  | close done =>
      refine ⟨rfl, [], ?_⟩
      rw [List.append_nil]
      exact h.carry id (fun pulling => by contradiction) rfl rfl fun _ mem =>
        ⟨mem, by simp [Action.sequence?]⟩

/-- Nothing happens to a submission that is not over but its own moves. -/
theorem WindsDown.held (h : WindsDown m m₁ after new) {settled₁ : List Submission}
    (custody₁ : Custody m₁ settled₁) {s : Submission} (here : s ∈ m₁.inFlight)
    (going : s.isOver = false) (step : m₁.Step action m₂) :
    s ∈ m₂.inFlight ∧ action.sequence? ≠ some s.sequence ∨
      ∃ s', s.Moves m₁.config true action s' := by
  have only : ∀ t, m₁.submission? t.sequence = some t → t.sequence = s.sequence → t = s :=
    fun t found same => Submission.eq_of_sequence_eq custody₁.distinct_inFlight
      (submission?_eq_some found).1 here same
  cases step with
  | cancel | failed _ _ _ | stop _ _ | close _ =>
      exact .inl ⟨here, by simp [Action.sequence?]⟩
  | document _ room going | ended room going => exact (h.not_pull room going).elim
  | @absorb t found awaits ended =>
      have other : t.sequence ≠ s.sequence := by
        intro same
        rw [only t found same, going] at ended
        contradiction
      have other := fun named => other (Option.some.inj named)
      exact .inl ⟨mem_inFlight_receive.mpr ⟨here, other⟩, other⟩
  | @advance _ t t' found moves =>
      rw [h.stopped] at moves
      by_cases same : t.sequence = s.sequence
      · exact .inr ⟨t', only t found same ▸ moves⟩
      · refine .inl ⟨List.mem_map.mpr ⟨s, here, if_neg ?_⟩, ?_⟩
        · exact moves.sequence_eq ▸ Ne.symm same
        · simpa [moves.sequence?_eq] using same

/-- Where a submission that was resting is afterwards: at its rest, or that has ended first, or the
submission gave up first. -/
def RestsOrMoves (m₁ : Machine) (s : Submission) (turns : List Action) : Prop :=
  s ∈ m₁.inFlight ∧ turns = [] ∨ [.wake s.sequence] <+: turns ∨ [.abandon s.sequence] <+: turns

theorem WindsDown.rests (h : WindsDown m m₁ after new) {settled₁ : List Submission}
    (custody₁ : Custody m₁ settled₁) {s : Submission} {e : TransportError}
    (rest : s.stage = .resting e) (before : RestsOrMoves m₁ s (about s.sequence after))
    (step : m₁.Step action m₂) : RestsOrMoves m₂ s (about s.sequence (after ++ [action])) := by
  rcases before with ⟨here, untouched⟩ | woken | gaveUp
  · have going : s.isOver = false := by simp [Submission.isOver, rest]
    rcases h.held custody₁ here going step with ⟨here, other⟩ | ⟨s', moves⟩
    · exact .inl ⟨here, by rw [about_concat_of_ne other, untouched]⟩
    · right
      rw [about_concat_of_eq moves.sequence?_eq, untouched, List.nil_append]
      cases moves with
      | wake _ _ => exact .inl (List.prefix_refl _)
      | abandon _ _ _ => exact .inr (List.prefix_refl _)
      | send due => simp [rest] at due
      | answer _ wire | timeOut wire => simp [rest] at wire
  · exact .inr (.inl (prefix_about_concat woken))
  · exact .inr (.inr (prefix_about_concat gaveUp))

/-- A call that was on the wire is left there until it is answered. -/
theorem WindsDown.heard (h : WindsDown m m₁ after new) (custody : Custody m settled)
    {settled₁ : List Submission} (custody₁ : Custody m₁ settled₁) {s : Submission}
    (mem : s ∈ m.inFlight) (wire : s.stage = .sending)
    (before : s ∈ m₁.inFlight ∨ ∃ a, lastCall? config s.sequence actions = some (some a))
    (step : m₁.Step action m₂) :
    s ∈ m₂.inFlight ∨ ∃ a, lastCall? config s.sequence (actions ++ [action]) = some (some a) := by
  rcases before with here | answered
  · have going : s.isOver = false := by simp [Submission.isOver, wire]
    rcases h.held custody₁ here going step with ⟨here, -⟩ | ⟨s', moves⟩
    · exact .inl here
    · right
      rw [lastCall?_of_eq actions moves.sequence?_eq]
      cases moves with
      | answer a _ => exact ⟨a, rfl⟩
      | timeOut _ => exact ⟨_, rfl⟩
      | send due => simp [wire] at due
      | wake _ rest | abandon _ rest _ => simp [wire] at rest
  · right
    cases step with
    | cancel | document _ _ _ | ended _ _ | failed _ _ _ | stop _ _ | close _ =>
        rw [lastCall?_of_ne actions (by simp [Action.sequence?])]
        exact answered
    | absorb _ _ _ =>
        rw [lastCall?_absorb]
        exact answered
    | @advance _ t t' found moves =>
        by_cases same : t.sequence = s.sequence
        · rw [lastCall?_of_eq actions (moves.sequence?_eq.trans (congrArg some same))]
          cases moves with
          | answer a _ => exact ⟨a, rfl⟩
          | timeOut _ => exact ⟨_, rfl⟩
          | wake _ _ | abandon _ _ _ => exact answered
          | send due =>
              -- what is due waited in `m` already, where this batch had a call on the wire
              have waits := Submission.isWaiting_of_isDue (Submission.isDue_iff.mpr due)
              obtain ⟨t₀, first, remains, -⟩ := h.waiting t (submission?_eq_some found).1 waits
              have waited := remains.isWaiting waits
              rw [Submission.eq_of_sequence_eq custody.distinct_inFlight first mem
                (remains.sequence_eq.symm.trans same)] at waited
              simp [Submission.isWaiting, wire] at waited
        · rw [lastCall?_of_ne actions (by simp [moves.sequence?_eq, same])]
          exact answered

/-- A call is made for a submission only if that goes on. -/
theorem WindsDown.goesOn (h : WindsDown m m₁ after new) (custody : Custody m settled)
    {s : Submission} (mem : s ∈ m.inFlight) {call : SinkCall} (made : call ∈ new)
    (same : call.sequence = s.sequence) :
    ∃ first, s.GoesOn first ∧ first <+: about s.sequence after := by
  obtain ⟨t, here, rfl, first, goesOn, begins⟩ := h.made call made
  obtain rfl := Submission.eq_of_sequence_eq custody.distinct_inFlight here mem same
  exact ⟨first, goesOn, begins⟩

end Machine

end BulkIngest
