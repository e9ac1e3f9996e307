import Mathlib.Data.List.Forall2
import Mathlib.Logic.Basic

/-! Two pieces of code side by side: from related states both return or both raise the same. -/

namespace Run

variable {ε σ τ α β γ δ : Type}

/-- Both pieces of code return, or both raise the same exception, and their states stay related. -/
def Simulates (before : σ → τ → Prop) (first : EStateM ε σ α) (second : EStateM ε τ β)
    (returns : α → β → σ → τ → Prop) (raises : σ → τ → Prop) : Prop :=
  ∀ state other, before state other → match first.run state, second.run other with
    | .ok value after, .ok result final => returns value result after final
    | .error error after, .error fault final => error = fault ∧ raises after final
    | .ok _ _, .error _ _ => False
    | .error _ _, .ok _ _ => False

variable {before : σ → τ → Prop} {raises : σ → τ → Prop}

/-- What is known after returning and after raising may be weakened. -/
theorem Simulates.imp {first : EStateM ε σ α} {second : EStateM ε τ β}
    {returns weaker : α → β → σ → τ → Prop} {raised : σ → τ → Prop}
    (simulates : Simulates before first second returns raises)
    (post : ∀ value result state other, returns value result state other →
      weaker value result state other)
    (fails : ∀ state other, raises state other → raised state other) :
    Simulates before first second weaker raised := by
  -- The four ways the two runs can end are told apart as before.
  intro state other start
  have final := simulates state other start
  split at final
  · exact post _ _ _ _ final
  · exact ⟨final.1, fails _ _ final.2⟩
  · exact final.elim
  · exact final.elim

/-- What must be known before may be strengthened. -/
theorem Simulates.pre {stronger : σ → τ → Prop} {first : EStateM ε σ α} {second : EStateM ε τ β}
    {returns : α → β → σ → τ → Prop} (simulates : Simulates before first second returns raises)
    (pre : ∀ state other, stronger state other → before state other) :
    Simulates stronger first second returns raises :=
  fun state other start => simulates state other (pre state other start)

/-- A fact that is known before does not depend on the states. -/
theorem simulates_fact {fact : Prop} {first : EStateM ε σ α} {second : EStateM ε τ β}
    {returns : α → β → σ → τ → Prop}
    (judged : fact → Simulates before first second returns raises) :
    Simulates (fun state other => fact ∧ before state other) first second returns raises :=
  fun state other start => judged start.1 state other start.2

/-- Returning on both sides. -/
theorem simulates_pure {value : α} {result : β} {returns : α → β → σ → τ → Prop}
    (post : ∀ state other, before state other → returns value result state other) :
    Simulates before (pure value : EStateM ε σ α) (pure result : EStateM ε τ β) returns raises :=
  post

/-- Code in sequence: the second parts start where the first ones returned. -/
theorem simulates_bind {first : EStateM ε σ α} {second : EStateM ε τ β} {next : α → EStateM ε σ γ}
    {further : β → EStateM ε τ δ} {middle : α → β → σ → τ → Prop}
    {returns : γ → δ → σ → τ → Prop} (head : Simulates before first second middle raises)
    (tail : ∀ value result, Simulates (middle value result) (next value) (further result) returns
      raises) : Simulates before (first >>= next) (second >>= further) returns raises := by
  -- Where the first parts raise, neither second part runs.
  intro state other start
  have both := head state other start
  rw [EStateM.run_bind, EStateM.run_bind]
  cases ran : first.run state with
  | ok value after =>
    cases follows : second.run other with
    | ok result final =>
      rw [ran, follows] at both
      exact tail value result after final both
    | error fault final =>
      rw [ran, follows] at both
      exact both.elim
  | error error after =>
    cases follows : second.run other with
    | ok result final =>
      rw [ran, follows] at both
      exact both.elim
    | error fault final =>
      rw [ran, follows] at both
      exact both

/-- An update on both sides, and code after it. -/
theorem simulates_modify_bind {update : σ → σ} {change : τ → τ} {next : PUnit → EStateM ε σ γ}
    {further : PUnit → EStateM ε τ δ} {middle : σ → τ → Prop} {returns : γ → δ → σ → τ → Prop}
    (post : ∀ state other, before state other → middle (update state) (change other))
    (tail : Simulates middle (next ⟨⟩) (further ⟨⟩) returns raises) :
    Simulates before (modify update >>= next) (modify change >>= further) returns raises :=
  fun state other start => tail (update state) (change other) (post state other start)

/-- Code that reads its state may be judged for every pair of states it may read. -/
theorem simulates_get_bind {next : σ → EStateM ε σ γ} {further : τ → EStateM ε τ δ}
    {returns : γ → δ → σ → τ → Prop}
    (tail : ∀ state other, before state other →
      Simulates (fun now there => now = state ∧ there = other) (next state) (further other) returns
        raises) :
    Simulates before (get >>= next) (get >>= further) returns raises :=
  fun state other start => tail state other start state other ⟨rfl, rfl⟩

/-- A branch taken on both sides for the same reason. -/
theorem simulates_ite {condition : Prop} [Decidable condition] {first otherwise : EStateM ε σ α}
    {second alternative : EStateM ε τ β} {returns : α → β → σ → τ → Prop}
    (holds : condition → Simulates before first second returns raises)
    (fails : ¬condition → Simulates before otherwise alternative returns raises) :
    Simulates before (if condition then first else otherwise) (if condition then second else alternative)
      returns raises := by
  by_cases here : condition
  · rw [if_pos here, if_pos here]
    exact holds here
  · rw [if_neg here, if_neg here]
    exact fails here

/-- Code that is run for items in pairs, as long as every pair keeps the states related. -/
theorem simulates_mapM {ι κ : Type} {related : σ → τ → Prop} {paired : ι → κ → Prop}
    {agree : α → β → Prop} {code : ι → EStateM ε σ α} {partner : κ → EStateM ε τ β}
    (each : ∀ item other, paired item other → Simulates related (code item) (partner other)
      (fun value result state there => agree value result ∧ related state there) related)
    {items : List ι} {others : List κ} (pairs : List.Forall₂ paired items others) :
    Simulates related (items.mapM code) (others.mapM partner)
      (fun values results state there => List.Forall₂ agree values results ∧ related state there)
      related := by
  -- One pair at a time; where one raises, both stop there.
  induction pairs with
  | nil =>
    rw [List.mapM_nil, List.mapM_nil]
    exact simulates_pure fun state there start => ⟨.nil, start⟩
  | cons pair _ ih =>
    rw [List.mapM_cons, List.mapM_cons]
    refine simulates_bind (each _ _ pair) fun value result => ?_
    refine simulates_fact fun same => ?_
    refine simulates_bind ih fun values results => ?_
    exact simulates_pure fun state there final => ⟨.cons same final.1, final.2⟩

end Run
