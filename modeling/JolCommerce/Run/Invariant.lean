import Mathlib.Data.List.Basic

/-! Runs of a state machine over arbitrary states and inputs: conditions on steps, invariants of states. -/

namespace Run

variable {State Input : Type} (step : State → Input → State)

/-- Every step of a run meets a condition on the state it is taken in. -/
def AllSteps (meets : State → Input → Prop) : State → List Input → Prop
  | _, [] => True
  | state, input :: rest => meets state input ∧ AllSteps meets (step state input) rest

/-- A property holds in every state of a run, the first and the last included. -/
def Always (holds : State → Prop) : State → List Input → Prop
  | state, [] => holds state
  | state, input :: rest => holds state ∧ Always holds (step state input) rest

/-- A condition on the inputs alone is met by every step. -/
theorem allSteps_of_forall {meets : Input → Prop} {inputs : List Input}
    (all : ∀ input ∈ inputs, meets input) (state : State) :
    AllSteps step (fun _ input => meets input) state inputs := by
  -- The state does not matter.
  induction inputs generalizing state with
  | nil => trivial
  | cons input rest ih =>
    exact ⟨all input (by simp), ih (fun later member => all later (by simp [member])) _⟩

/-- Steps that all meet a condition on the inputs alone have such inputs. -/
theorem allSteps_iff_forall (meets : Input → Prop) (state : State) (inputs : List Input) :
    AllSteps step (fun _ input => meets input) state inputs ↔ ∀ input ∈ inputs, meets input := by
  constructor
  · intro all
    -- One input at a time, whatever state it is taken in.
    induction inputs generalizing state with
    | nil => simp
    | cons input rest ih => exact List.forall_mem_cons.mpr ⟨all.1, ih _ all.2⟩
  · intro all
    exact allSteps_of_forall step all state

/-- An invariant of the steps that meet a condition holds after every run of such steps. -/
theorem foldl_invariant {meets : State → Input → Prop} {holds : State → Prop}
    (preserved : ∀ state input, holds state → meets state input → holds (step state input))
    {state : State} {inputs : List Input} (initial : holds state)
    (all : AllSteps step meets state inputs) : holds (inputs.foldl step state) := by
  -- One input at a time, with the condition on the state it is taken in.
  induction inputs generalizing state with
  | nil => exact initial
  | cons input rest ih => exact ih (preserved state input initial all.1) all.2

/-- A preorder that every step keeps relates the first state of a run to its last. -/
theorem foldl_related {related : State → State → Prop} (reflexive : ∀ state, related state state)
    (transitive : ∀ first second third, related first second → related second third →
      related first third)
    (each : ∀ state input, related state (step state input)) (state : State) (inputs : List Input) :
    related state (inputs.foldl step state) := by
  -- One step after another, each from where the steps before it led.
  induction inputs generalizing state with
  | nil => exact reflexive state
  | cons input rest ih => exact transitive state _ _ (each state input) (ih (step state input))

/-- Steps that meet a condition give a guarantee in every state an invariant holds in. -/
theorem allSteps_guarantee {meets gives : State → Input → Prop} {holds : State → Prop}
    (guaranteed : ∀ state input, holds state → meets state input →
      gives state input ∧ holds (step state input))
    {state : State} {inputs : List Input} (initial : holds state)
    (all : AllSteps step meets state inputs) : AllSteps step gives state inputs := by
  -- Every step gives its guarantee and hands the invariant on.
  induction inputs generalizing state with
  | nil => trivial
  | cons input rest ih =>
    obtain ⟨here, later⟩ := all
    obtain ⟨given, next⟩ := guaranteed state input initial here
    exact ⟨given, ih next later⟩

/-- Where a step keeps a property exactly under a condition, a run does so throughout exactly when
all its steps meet the condition. -/
theorem always_iff_allSteps {assumed meets : State → Input → Prop} {holds : State → Prop}
    (exact : ∀ state input, holds state → assumed state input →
      (holds (step state input) ↔ meets state input))
    {state : State} {inputs : List Input} (initial : holds state)
    (assumption : AllSteps step assumed state inputs) :
    Always step holds state inputs ↔ AllSteps step meets state inputs := by
  -- Each state is judged by the step that leads to it.
  induction inputs generalizing state with
  | nil => exact iff_of_true initial trivial
  | cons input rest ih =>
    obtain ⟨here, later⟩ := assumption
    have stepwise := exact state input initial here
    constructor
    · intro always
      -- The property holds after this step, since the rest of the run starts there.
      have next : holds (step state input) := by
        cases rest with
        | nil => exact always.2
        | cons second rest => exact always.2.1
      exact ⟨stepwise.mp next, (ih next later).mp always.2⟩
    · intro all
      exact ⟨initial, (ih (stepwise.mpr all.1) later).mpr all.2⟩

end Run
