import Mathlib.Logic.Basic

/-! Parts of the state that code over it never changes, whether it returns or raises. -/

namespace Run

variable {ε σ α β γ : Type}

/-- Whether it returns or raises, the code leaves a view of the state as it was. -/
def Keeps (view : σ → γ) (code : EStateM ε σ α) : Prop :=
  ∀ state, match code.run state with
    | .ok _ after => view after = view state
    | .error _ after => view after = view state

variable {view : σ → γ}

/-- A view that the code keeps is the same after it returned. -/
theorem Keeps.ok {code : EStateM ε σ α} (kept : Keeps view code) {state after : σ} {value : α}
    (returned : code.run state = .ok value after) : view after = view state := by
  have final := kept state
  rw [returned] at final
  exact final

/-- A view that the code keeps is the same after it raised. -/
theorem Keeps.error {code : EStateM ε σ α} (kept : Keeps view code) {state after : σ} {error : ε}
    (raised : code.run state = .error error after) : view after = view state := by
  have final := kept state
  rw [raised] at final
  exact final

/-- Returning changes nothing. -/
theorem keeps_pure (value : α) : Keeps view (pure value : EStateM ε σ α) := fun _ => rfl

/-- Raising changes nothing. -/
theorem keeps_throw (error : ε) : Keeps view (throw error : EStateM ε σ α) := fun _ => rfl

/-- An update that keeps the view in every state keeps it. -/
theorem keeps_modifyGet {update : σ → α × σ} (kept : ∀ state, view (update state).2 = view state) :
    Keeps view (modifyGet update : EStateM ε σ α) := kept

/-- Code in sequence keeps what both parts keep. -/
theorem keeps_bind {first : EStateM ε σ α} {next : α → EStateM ε σ β} (head : Keeps view first)
    (tail : ∀ value, Keeps view (next value)) : Keeps view (first >>= next) := by
  -- Where the first part raises, the second one never runs.
  intro state
  rw [EStateM.run_bind]
  cases ran : first.run state with
  | error error after => exact head.error ran
  | ok value after =>
    have kept := head.ok ran
    simp only
    cases second : (next value).run after with
    | error error final => exact ((tail value).error second).trans kept
    | ok result final => exact ((tail value).ok second).trans kept

/-- Reading the state and going on keeps what the rest keeps. -/
theorem keeps_get_bind {next : σ → EStateM ε σ β} (tail : ∀ state, Keeps view (next state)) :
    Keeps view (get >>= next) :=
  fun state => tail state state

/-- What is read off a view that is kept is kept as well. -/
theorem Keeps.map {δ : Type} {code : EStateM ε σ α} (kept : Keeps view code) (further : γ → δ) :
    Keeps (fun state => further (view state)) code := by
  -- Both ways to end give the same view, so the same part of it.
  intro state
  cases ran : code.run state with
  | ok value after => exact congrArg further (kept.ok ran)
  | error error after => exact congrArg further (kept.error ran)

section Parts

variable {τ : Type} {part : σ → τ} {replace : σ → τ → σ}

/-- Code over a part of a state, run on the whole state. -/
def zoom (part : σ → τ) (replace : σ → τ → σ) (code : EStateM ε τ α) : EStateM ε σ α := fun state =>
  match code.run (part state) with
  | .ok value after => .ok value (replace state after)
  | .error error after => .error error (replace state after)

/-- What the code returns on its part it returns on the whole state. -/
theorem run_zoom_ok {code : EStateM ε τ α} {state : σ} {after : τ} {value : α}
    (returned : code.run (part state) = .ok value after) :
    (zoom part replace code).run state = .ok value (replace state after) := by
  simp only [EStateM.run] at returned
  simp only [zoom, EStateM.run, returned]

/-- What it raises there it raises here. -/
theorem run_zoom_error {code : EStateM ε τ α} {state : σ} {after : τ} {error : ε}
    (raised : code.run (part state) = .error error after) :
    (zoom part replace code).run state = .error error (replace state after) := by
  simp only [EStateM.run] at raised
  simp only [zoom, EStateM.run, raised]

/-- Code over one part keeps every view that does not look at this part. -/
theorem keeps_zoom (apart : ∀ state after, view (replace state after) = view state)
    (code : EStateM ε τ α) : Keeps view (zoom part replace code) := by
  -- Either way to end replaces the part and nothing else.
  intro state
  simp only [zoom, EStateM.run]
  cases code (part state) with
  | ok value after => exact apart state after
  | error error after => exact apart state after

/-- Code over a part returns where it returns on that part, and nothing else is replaced. -/
theorem zoom_eq_ok_iff {code : EStateM ε τ α} {state final : σ} {value : α} :
    (zoom part replace code).run state = .ok value final ↔
      ∃ after, code.run (part state) = .ok value after ∧ final = replace state after := by
  -- The result is the one on the part, put back into the whole state.
  simp only [zoom, EStateM.run]
  cases code (part state) with
  | ok result after =>
    simp only [EStateM.Result.ok.injEq]
    constructor
    · rintro ⟨rfl, rfl⟩
      exact ⟨after, ⟨rfl, rfl⟩, rfl⟩
    · rintro ⟨other, ⟨rfl, rfl⟩, rfl⟩
      exact ⟨rfl, rfl⟩
  | error error after =>
    constructor
    · intro contradiction
      cases contradiction
    · rintro ⟨other, contradiction, -⟩
      cases contradiction

end Parts

end Run
