import JolCommerce.Run.Invariant
import Mathlib.Data.List.Forall2

/-! Runs in which only some inputs concern an observer, and the same runs with the others purged. -/

namespace Run

variable {State Input Output : Type}

section Outputs

variable (step : State → Input → State) (output : State → Input → Output)
  (concerns : Input → Prop) [DecidablePred concerns]

/-- What a run puts out for its inputs, in order. -/
def outputs (state : State) : List Input → List Output
  | [] => []
  | input :: rest => output state input :: outputs (step state input) rest

/-- What a run puts out for those of its inputs that concern the observer. -/
def outputsTo (state : State) : List Input → List Output
  | [] => []
  | input :: rest =>
    if concerns input then output state input :: outputsTo (step state input) rest
    else outputsTo (step state input) rest

end Outputs

variable {step : State → Input → State} {output : State → Input → Output}
  {concerns : Input → Prop} [DecidablePred concerns]

/-- What two runs in sequence put out. -/
theorem outputs_append (first second : List Input) (state : State) :
    outputs step output state (first ++ second) =
      outputs step output state first ++ outputs step output (first.foldl step state) second := by
  induction first generalizing state with
  | nil => rfl
  | cons input rest ih => simp only [List.cons_append, outputs, ih, List.foldl_cons]

/-- Steps in pairs that put out what agrees and keep a relation do so over whole runs. -/
theorem outputs_forall₂ {Other Partner Answer : Type} {after : Other → Partner → Other}
    {answer : Other → Partner → Answer} {related : State → Other → Prop}
    {paired : Input → Partner → Prop} {agree : Output → Answer → Prop}
    (each : ∀ state other input partner, related state other → paired input partner →
      agree (output state input) (answer other partner) ∧
        related (step state input) (after other partner))
    {state : State} {other : Other} (start : related state other) {inputs : List Input}
    {partners : List Partner} (pairs : List.Forall₂ paired inputs partners) :
    List.Forall₂ agree (outputs step output state inputs) (outputs after answer other partners) ∧
      related (inputs.foldl step state) (partners.foldl after other) := by
  -- One pair at a time on both sides.
  induction pairs generalizing state other with
  | nil => exact ⟨.nil, start⟩
  | cons pair _ ih =>
    obtain ⟨same, follows⟩ := each state other _ _ start pair
    obtain ⟨later, final⟩ := ih follows
    exact ⟨.cons same later, final⟩

/-- Steps that put out the same and keep a relation do so over whole runs. -/
theorem outputs_eq {Other : Type} {after : Other → Input → Other} {answer : Other → Input → Output}
    {related : State → Other → Prop}
    (each : ∀ state other input, related state other → output state input = answer other input ∧
      related (step state input) (after other input))
    {state : State} {other : Other} (start : related state other) (inputs : List Input) :
    outputs step output state inputs = outputs after answer other inputs ∧
      related (inputs.foldl step state) (inputs.foldl after other) := by
  -- Every input is paired with itself.
  have pairs : List.Forall₂ (· = ·) inputs inputs := List.forall₂_same.mpr fun _ _ => rfl
  obtain ⟨same, final⟩ : List.Forall₂ (· = ·) (outputs step output state inputs)
      (outputs after answer other inputs) ∧
        related (inputs.foldl step state) (inputs.foldl after other) := by
    refine outputs_forall₂ (fun state other input partner here same => ?_) start pairs
    subst same
    exact each state other input here
  exact ⟨List.forall₂_eq_eq_eq ▸ same, final⟩

/--
A relation between a full state and one that only the observer's inputs have reached.

Inputs of the observer are answered alike and keep the relation on both sides.
All other inputs keep it on the full side alone.
-/
structure Unwinds (step : State → Input → State) (output : State → Input → Output)
    (concerns : Input → Prop) (meets : State → Input → Prop) (alike : Output → Output → Prop)
    (related : State → State → Prop) : Prop where
  answered : ∀ full purged input, related full purged → meets full input → concerns input →
    alike (output full input) (output purged input)
  taken : ∀ full purged input, related full purged → meets full input → concerns input →
    related (step full input) (step purged input)
  ignored : ∀ full purged input, related full purged → meets full input → ¬concerns input →
    related (step full input) purged

variable {meets : State → Input → Prop} {alike : Output → Output → Prop}
  {related : State → State → Prop}

/-- Purging the inputs that do not concern the observer leaves his answers as they were. -/
theorem Unwinds.answers (unwinds : Unwinds step output concerns meets alike related)
    {full purged : State} (start : related full purged) {inputs : List Input}
    (all : AllSteps step meets full inputs) :
    List.Forall₂ alike (outputsTo step output concerns full inputs)
      (outputs step output purged (inputs.filter concerns)) := by
  -- The full run takes every input, the purged one only those it keeps.
  induction inputs generalizing full purged with
  | nil => exact .nil
  | cons input rest ih =>
    obtain ⟨here, later⟩ := all
    by_cases concerned : concerns input
    · simp only [outputsTo, concerned, if_true, List.filter_cons, decide_true, outputs]
      exact .cons (unwinds.answered full purged input start here concerned)
        (ih (unwinds.taken full purged input start here concerned) later)
    · simp only [outputsTo, concerned, if_false, List.filter_cons, decide_false,
        Bool.false_eq_true]
      exact ih (unwinds.ignored full purged input start here concerned) later

/-- Both runs end in related states. -/
theorem Unwinds.related_run (unwinds : Unwinds step output concerns meets alike related)
    {full purged : State} (start : related full purged) {inputs : List Input}
    (all : AllSteps step meets full inputs) :
    related (inputs.foldl step full) ((inputs.filter concerns).foldl step purged) := by
  -- The same induction, with the states in place of the answers.
  induction inputs generalizing full purged with
  | nil => exact start
  | cons input rest ih =>
    obtain ⟨here, later⟩ := all
    by_cases concerned : concerns input
    · simp only [List.filter_cons, concerned, decide_true, if_true, List.foldl_cons]
      exact ih (unwinds.taken full purged input start here concerned) later
    · simp only [List.filter_cons, concerned, decide_false, Bool.false_eq_true, if_false,
        List.foldl_cons]
      exact ih (unwinds.ignored full purged input start here concerned) later

end Run
