import Mathlib.Logic.Basic

/-! Pre- and postconditions of code that may raise and whose effects stay when it does. -/

namespace Run

variable {ε σ α β γ : Type}

/-- From a state that meets the precondition, the code returns in one kind of state or raises in another. -/
def Triple (before : σ → Prop) (code : EStateM ε σ α) (returns : α → σ → Prop)
    (raises : σ → Prop) : Prop :=
  ∀ state, before state → match code.run state with
    | .ok value after => returns value after
    | .error _ after => raises after

variable {before : σ → Prop} {raises : σ → Prop}

/-- Code that returned left a state that meets the postcondition. -/
theorem Triple.ok {code : EStateM ε σ α} {returns : α → σ → Prop}
    (triple : Triple before code returns raises) {state after : σ} {value : α}
    (start : before state) (returned : code.run state = .ok value after) : returns value after := by
  have final := triple state start
  rw [returned] at final
  exact final

/-- Code that raised left a state that meets the postcondition of raising. -/
theorem Triple.error {code : EStateM ε σ α} {returns : α → σ → Prop}
    (triple : Triple before code returns raises) {state after : σ} {error : ε}
    (start : before state) (raised : code.run state = .error error after) : raises after := by
  have final := triple state start
  rw [raised] at final
  exact final

/-- A precondition may be strengthened and the postconditions weakened. -/
theorem Triple.imp {code : EStateM ε σ α} {returns : α → σ → Prop}
    (triple : Triple before code returns raises) {before' raises' : σ → Prop}
    {returns' : α → σ → Prop} (pre : ∀ state, before' state → before state)
    (post : ∀ value state, returns value state → returns' value state)
    (raised : ∀ state, raises state → raises' state) : Triple before' code returns' raises' := by
  -- Each of the two ways to end meets its own weaker condition.
  intro state start
  have final := triple state (pre state start)
  split at final
  · exact post _ _ final
  · exact raised _ final

/-- What holds after returning may be weakened alone. -/
theorem Triple.post {code : EStateM ε σ α} {returns returns' : α → σ → Prop}
    (triple : Triple before code returns raises)
    (weaker : ∀ value state, returns value state → returns' value state) :
    Triple before code returns' raises :=
  triple.imp (fun _ start => start) weaker fun _ final => final

/-- A fact in the precondition is known when the code is judged. -/
theorem triple_fact {fact : Prop} {code : EStateM ε σ α} {returns : α → σ → Prop}
    (judged : fact → Triple before code returns raises) :
    Triple (fun state => fact ∧ before state) code returns raises :=
  fun state start => judged start.1 state start.2

/-- So is a witness of it. -/
theorem triple_exists {γ : Type} {start : γ → σ → Prop} {code : EStateM ε σ α}
    {returns : α → σ → Prop} (judged : ∀ witness, Triple (start witness) code returns raises) :
    Triple (fun state => ∃ witness, start witness state) code returns raises :=
  fun state ⟨witness, here⟩ => judged witness state here

/-- Returning meets what the precondition gives. -/
theorem triple_pure {value : α} {returns : α → σ → Prop}
    (post : ∀ state, before state → returns value state) :
    Triple before (pure value : EStateM ε σ α) returns raises := post

/-- Raising meets what the precondition gives. -/
theorem triple_throw {error : ε} {returns : α → σ → Prop}
    (post : ∀ state, before state → raises state) :
    Triple before (throw error : EStateM ε σ α) returns raises := post

/-- An update meets what the precondition gives of the updated state. -/
theorem triple_modifyGet {update : σ → α × σ} {returns : α → σ → Prop}
    (post : ∀ state, before state → returns (update state).1 (update state).2) :
    Triple before (modifyGet update : EStateM ε σ α) returns raises := post

/-- Code in sequence meets in the middle. -/
theorem triple_bind {first : EStateM ε σ α} {next : α → EStateM ε σ β}
    {middle : α → σ → Prop} {returns : β → σ → Prop}
    (head : Triple before first middle raises)
    (tail : ∀ value, Triple (middle value) (next value) returns raises) :
    Triple before (first >>= next) returns raises := by
  -- Where the first part raises, the second one never runs.
  intro state start
  rw [EStateM.run_bind]
  cases ran : first.run state with
  | error error after => exact head.error start ran
  | ok value after => exact tail value after (head.ok start ran)

/-- Code that reads the state may be judged for every state it reads. -/
theorem triple_get_bind {next : σ → EStateM ε σ β} {returns : β → σ → Prop}
    (tail : ∀ state, before state → Triple (· = state) (next state) returns raises) :
    Triple before (get >>= next) returns raises :=
  fun state start => tail state start state rfl

/-- A loop keeps an invariant that may speak of the items that are left. -/
theorem triple_forM {body : γ → EStateM ε σ Unit} {invariant : List γ → σ → Prop}
    (step : ∀ item rest, Triple (invariant (item :: rest)) (body item)
      (fun _ => invariant rest) raises) (items : List γ) :
    Triple (invariant items) (items.forM body) (fun _ => invariant []) raises := by
  -- Each pass of the loop takes one item off those that are left.
  induction items with
  | nil => exact triple_pure fun _ start => start
  | cons item rest ih => exact triple_bind (step item rest) fun _ => ih

/-- A loop with an accumulator keeps an invariant that may speak of it and of the items left. -/
theorem triple_foldlM {body : β → γ → EStateM ε σ β} {invariant : List γ → β → σ → Prop}
    (step : ∀ item rest total, Triple (invariant (item :: rest) total) (body total item)
      (invariant rest) raises) (items : List γ) (total : β) :
    Triple (invariant items total) (items.foldlM body total) (invariant []) raises := by
  -- Each pass takes one item off those that are left and hands its total on.
  induction items generalizing total with
  | nil => exact triple_pure fun _ start => start
  | cons item rest ih =>
    rw [List.foldlM_cons]
    exact triple_bind (step item rest total) fun total => ih total

/-- A loop keeps what every item of its list keeps. -/
theorem triple_forM_of_mem {body : γ → EStateM ε σ Unit} {items : List γ}
    (step : ∀ item ∈ items, Triple before (body item) (fun _ => before) raises) :
    Triple before (items.forM body) (fun _ => before) raises := by
  -- The items are taken off the list, and those left are still items of it.
  induction items with
  | nil => exact triple_pure fun _ start => start
  | cons item rest ih =>
    obtain ⟨here, later⟩ := List.forall_mem_cons.mp step
    exact triple_bind here fun _ => ih later

/-- So does a loop with an accumulator. -/
theorem triple_foldlM_of_mem {body : β → γ → EStateM ε σ β} {items : List γ}
    (step : ∀ item ∈ items, ∀ total, Triple before (body total item) (fun _ => before) raises)
    (total : β) : Triple before (items.foldlM body total) (fun _ => before) raises := by
  -- As before, whatever the total is.
  induction items generalizing total with
  | nil => exact triple_pure fun _ start => start
  | cons item rest ih =>
    obtain ⟨here, later⟩ := List.forall_mem_cons.mp step
    rw [List.foldlM_cons]
    exact triple_bind (here total) fun total => ih later total

/-- Code that is run for every item reaches a state that may speak of the values so far. -/
theorem triple_mapM {body : γ → EStateM ε σ β} {reached : List β → σ → Prop}
    (step : ∀ item values, Triple (reached values) (body item)
      (fun value => reached (values ++ [value])) raises) (items : List γ) (values : List β) :
    Triple (reached values) (items.mapM body) (fun results => reached (values ++ results))
      raises := by
  -- Each item adds its value at the end.
  induction items generalizing values with
  | nil =>
    rw [List.mapM_nil]
    exact triple_pure fun state start => (List.append_nil values).symm ▸ start
  | cons item rest ih =>
    rw [List.mapM_cons]
    refine triple_bind (step item values) fun value => ?_
    refine triple_bind (ih (values ++ [value])) fun results => ?_
    refine triple_pure fun state final => ?_
    rw [List.append_assoc] at final
    exact final

end Run
