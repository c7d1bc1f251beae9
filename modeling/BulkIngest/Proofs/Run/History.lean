import BulkIngest.Proofs.Run.Step
import Mathlib.Data.List.Induction

/-!
What the actions of a run tell about its past: the documents that were pulled, the last call for
each batch and its answer, the submissions as they came in. A fact about a whole run is proved from
the start and from one step.
-/

namespace BulkIngest

def Action.document? : Action → Option Document
  | .pull (.document d) => some d
  | _ => none

/-- The documents that were pulled, in order. -/
def documents (actions : List Action) : List Document := actions.filterMap Action.document?

/-- The items of documents that were pulled from the first one on. -/
def PipelineConfig.items (config : PipelineConfig) (docs : List Document) : List BulkItem :=
  docs.mapIdx config.prepare

/-- The last call for a batch: `none` if there was none, `some none` while it is on the wire, and
then its answer; a call that runs out of time counts as answered so. -/
def lastCall? (config : PipelineConfig) (sequence : Nat) (actions : List Action) :
    Option (Option Answer) :=
  actions.foldl (fun last action =>
    if action.sequence? = some sequence then Submission.lastAfter config last action else last) none

theorem documents_concat (actions : List Action) (action : Action) :
    documents (actions ++ [action]) = documents actions ++ action.document?.toList := by
  cases h : action.document? <;> simp [documents, h]

theorem PipelineConfig.items_concat (config : PipelineConfig) (docs : List Document)
    (d : Document) :
    config.items (docs ++ [d]) = config.items docs ++ [config.prepare docs.length d] :=
  List.mapIdx_concat

theorem PipelineConfig.length_items (config : PipelineConfig) (docs : List Document) :
    (config.items docs).length = docs.length :=
  List.length_mapIdx

theorem lastCall?_concat (config : PipelineConfig) (sequence : Nat) (actions : List Action)
    (action : Action) :
    lastCall? config sequence (actions ++ [action]) =
      if action.sequence? = some sequence then
        Submission.lastAfter config (lastCall? config sequence actions) action
      else lastCall? config sequence actions := by
  simp only [lastCall?, List.foldl_append, List.foldl_cons, List.foldl_nil]

namespace Machine

/-- The submission that an action takes in. -/
def absorbedBy (m : Machine) : Action → Option Submission
  | .absorb sequence => m.submission? sequence
  | _ => none

/-- The submissions that came in, each as it was then. -/
def absorbed (m : Machine) : List Action → List Submission
  | [] => []
  | action :: actions =>
    (m.absorbedBy action).toList ++
      match m.step action with
      | some m' => m'.absorbed actions
      | none => []

theorem run?_cons (m : Machine) (action : Action) (actions : List Action) :
    m.run? (action :: actions) = (m.step action).bind (·.run? actions) := rfl

theorem run?_append (m : Machine) (first second : List Action) :
    m.run? (first ++ second) = (m.run? first).bind (·.run? second) := by
  simp only [run?, List.foldlM_append]
  rfl

theorem run?_concat (m : Machine) (actions : List Action) (action : Action) :
    m.run? (actions ++ [action]) = (m.run? actions).bind (·.step action) := by
  have last : ∀ m' : Machine, m'.run? [action] = m'.step action := fun m' => by
    simp only [run?, List.foldlM_cons, List.foldlM_nil, bind_pure]
  simp only [run?_append, last]

theorem absorbed_concat {m m' : Machine} {actions : List Action} (action : Action)
    (run : m.run? actions = some m') :
    m.absorbed (actions ++ [action]) = m.absorbed actions ++ (m'.absorbedBy action).toList := by
  induction actions generalizing m with
  | nil =>
      simp only [run?, List.foldlM_nil, Option.pure_def, Option.some.injEq] at run
      subst run
      cases h : m.step action <;> simp [absorbed, h]
  | cons first rest ih =>
      rw [run?_cons, Option.bind_eq_some_iff] at run
      obtain ⟨next, step, run⟩ := run
      simp only [absorbed, List.cons_append, step, ih run, List.append_assoc]

/-- What holds at first and is kept by each step holds after every run. -/
theorem run_induction {m₀ : Machine} {P : List Action → Machine → Prop} (start : P [] m₀)
    (step : ∀ actions m action m', m₀.run? actions = some m → P actions m →
      m.Step action m' → P (actions ++ [action]) m')
    {actions : List Action} {m : Machine} (run : m₀.run? actions = some m) : P actions m := by
  induction actions using List.reverseRecOn generalizing m with
  | nil =>
      cases run
      exact start
  | append_singleton actions action ih =>
      rw [run?_concat, Option.bind_eq_some_iff] at run
      obtain ⟨before, run, last⟩ := run
      exact step actions before action m run (ih run) (step_of_step last)

end Machine

end BulkIngest
