import JolCommerce.Python.DateTime
import JolCommerce.Python.Uuid

/-! Exceptions the services raise, and what the default factories of a record draw. -/

namespace JolCommerce

open Python

/-- The exceptions that reach a caller, told apart as the `except` clauses tell them apart. -/
inductive PyError where
  /-- `ValueError` with its message. -/
  | valueError (message : String)
  /-- `CrossTenantAccessError`, a `PermissionError`. -/
  | crossTenantAccess (message : String)
  /-- `TenantNotFoundError`, a `LookupError`. -/
  | tenantNotFound (message : String)
  /-- `decimal.InvalidOperation`, an `ArithmeticError`. -/
  | invalidOperation
  /-- `OverflowError` of date arithmetic. -/
  | overflowError (message : String)
  /-- Whatever an injected callback raised. -/
  | callbackError (message : String)
  /-- `fastapi.HTTPException`. -/
  | httpException (statusCode : Nat) (detail : String)
  deriving DecidableEq

/-- A member of a text enumeration by its text, as calling the class does. -/
def readMember {α : Type} (name : String) (members : List α) (value : α → String)
    (text : String) : Except PyError α :=
  match members.find? fun member => value member = text with
  | some member => .ok member
  | none => .error (.valueError ("'" ++ text ++ "' is not a valid " ++ name))

/-- The identifier and the clock reading drawn when a record is created with its defaults. -/
structure Stamp where
  uuid : Uuid
  moment : DateTime

/-- A fixed identifier and clock reading for closed instances. -/
def Stamp.sample : Stamp :=
  ⟨⟨1, by decide⟩, ⟨2026, 8, 12, 9, 30, 0, 0, by decide⟩⟩

/-- A step that returned hands its value on. -/
@[simp] theorem ok_bind {ε α β : Type} (value : α) (next : α → Except ε β) :
    (Except.ok value >>= next) = next value := rfl

/-- A step that raised ends the computation. -/
@[simp] theorem error_bind {ε α β : Type} (error : ε) (next : α → Except ε β) :
    ((Except.error error : Except ε α) >>= next) = .error error := rfl

/-- A computation that returned has returned from its first step. -/
theorem bind_eq_ok {ε α β : Type} {first : Except ε α} {next : α → Except ε β} {result : β}
    (returned : (first >>= next) = .ok result) : ∃ value, first = .ok value ∧ next value = .ok result := by
  -- A first step that raised would have ended everything.
  cases first with
  | error error => cases returned
  | ok value => exact ⟨value, rfl, returned⟩

/-- Raising is an error result. -/
@[simp] theorem throw_eq {ε α : Type} (error : ε) : (throw error : Except ε α) = .error error := rfl

/-- Returning is a result. -/
@[simp] theorem pure_eq {ε α : Type} (value : α) : (pure value : Except ε α) = .ok value := rfl

/-- The state an effectful call leaves behind, whether it returned or raised. -/
def stateAfter {ε σ α : Type} (call : EStateM ε σ α) (state : σ) : σ :=
  -- Python keeps no copy to go back to, so effects before a raise stay.
  match call.run state with
  | .ok _ after => after
  | .error _ after => after

/-- Raise what a computation without effects raises. -/
def ofExcept {σ α : Type} (result : Except PyError α) : EStateM PyError σ α :=
  match result with
  | .ok value => pure value
  | .error error => throw error

/-- A result without effects keeps the state. -/
@[simp] theorem run_ofExcept_ok {σ α : Type} (value : α) (state : σ) :
    (ofExcept (.ok value) : EStateM PyError σ α).run state = .ok value state := rfl

/-- So does what it raises. -/
@[simp] theorem run_ofExcept_error {σ α : Type} (error : PyError) (state : σ) :
    (ofExcept (.error error) : EStateM PyError σ α).run state = .error error state := rfl

/-- Raising keeps the state of the moment, at any result type. -/
@[simp] theorem run_raise {ε σ α : Type} (error : ε) (state : σ) :
    EStateM.run (throw error : EStateM ε σ α) state = .error error state := rfl

/-- An update followed by a return. -/
@[simp] theorem run_map_modify {ε σ α : Type} (result : Unit → α) (update : σ → σ) (state : σ) :
    EStateM.run (result <$> (modify update : EStateM ε σ Unit)) state =
      .ok (result ()) (update state) := rfl

/-- A result is turned into another exactly where there is one. -/
theorem run_map_eq_ok_iff {ε σ α β : Type} {respond : α → β} {code : EStateM ε σ α}
    {state after : σ} {response : β} :
    (respond <$> code).run state = .ok response after ↔
      ∃ value, code.run state = .ok value after ∧ respond value = response := by
  -- Only the value is touched; an error and both states stay.
  have mapped : (respond <$> code).run state =
      match code.run state with
      | .ok value after => .ok (respond value) after
      | .error error after => .error error after := rfl
  rw [mapped]
  cases code.run state with
  | ok value after => simp [and_comm]
  | error error after => simp

/-- Code in sequence that returned has returned from its first part. -/
theorem run_bind_eq_ok {ε σ α β : Type} {first : EStateM ε σ α} {next : α → EStateM ε σ β}
    {state final : σ} {result : β} (returned : (first >>= next).run state = .ok result final) :
    ∃ value middle, first.run state = .ok value middle ∧
      (next value).run middle = .ok result final := by
  -- A first part that raised would have ended everything.
  rw [EStateM.run_bind] at returned
  cases ran : first.run state with
  | error error middle =>
    rw [ran] at returned
    cases returned
  | ok value middle =>
    rw [ran] at returned
    exact ⟨value, middle, rfl, returned⟩

/-- A call that returned leaves the state it returned with. -/
theorem stateAfter_ok {ε σ α : Type} {call : EStateM ε σ α} {state after : σ} {value : α}
    (returned : call.run state = .ok value after) : stateAfter call state = after := by
  simp [stateAfter, returned]

/-- A call that raised leaves the state it raised in. -/
theorem stateAfter_error {ε σ α : Type} {call : EStateM ε σ α} {state after : σ} {error : ε}
    (raised : call.run state = .error error after) : stateAfter call state = after := by
  simp [stateAfter, raised]

/-- What a call returned or raised. -/
def resultOf {σ α : Type} (call : EStateM PyError σ α) (state : σ) : Except PyError α :=
  match call.run state with
  | .ok value _ => .ok value
  | .error error _ => .error error

/-- A call that returned has returned its value. -/
theorem resultOf_ok {σ α : Type} {call : EStateM PyError σ α} {state after : σ} {value : α}
    (returned : call.run state = .ok value after) : resultOf call state = .ok value := by
  simp [resultOf, returned]

/-- A call that raised has raised its exception. -/
theorem resultOf_error {σ α : Type} {call : EStateM PyError σ α} {state after : σ}
    {error : PyError} (raised : call.run state = .error error after) :
    resultOf call state = .error error := by
  simp [resultOf, raised]

end JolCommerce
