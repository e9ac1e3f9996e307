import Mathlib.Data.List.Count

/-! A server that performs one effect per idempotency key, over arbitrary keys and effects. -/

namespace Idempotency

/-- The keys a server has seen and the effects it has performed, oldest first. -/
structure Server (κ α : Type) where
  keys : List κ
  effects : List α

namespace Server

variable {κ α : Type} [DecidableEq κ]

/-- A request repeats an earlier one: it carries a key that was seen. -/
def repeats (server : Server κ α) : Option κ → Bool
  | none => false
  | some key => key ∈ server.keys

/-- A request with or without a key: a repetition performs nothing. -/
def handle (server : Server κ α) (key : Option κ) (effect : α) : Server κ α :=
  if server.repeats key then server
  else ⟨server.keys ++ key.toList, server.effects ++ [effect]⟩

/-- How many of the effects satisfy a test. -/
def performed (server : Server κ α) (test : α → Bool) : Nat :=
  server.effects.countP test

variable (server : Server κ α) (key : Option κ) (effect : α) (test : α → Bool)

/-- A key that was handled is repeated by every request that carries it again. -/
theorem repeats_handle (key : κ) : (server.handle (some key) effect).repeats (some key) = true := by
  -- The key was seen before, or it is the last one now.
  unfold handle
  by_cases seen : server.repeats (some key) = true
  · rw [if_pos seen, seen]
  · rw [if_neg seen]
    simp [repeats]

/-- Two requests with one key perform one effect. -/
theorem handle_handle (key : κ) (later : α) :
    (server.handle (some key) effect).handle (some key) later = server.handle (some key) effect :=
  if_pos (server.repeats_handle effect key)

/-- A request adds to a count exactly where it repeats nothing and its effect is counted. -/
theorem performed_handle : (server.handle key effect).performed test =
    server.performed test +
      if server.repeats key = false ∧ test effect = true then 1 else 0 := by
  -- A repetition leaves the effects, any other request adds one of them.
  unfold handle
  by_cases seen : server.repeats key = true
  · simp [seen]
  · by_cases counted : test effect = true
    · simp [seen, counted, performed, List.countP_append]
    · simp [seen, counted, performed, List.countP_append]

/-- An effect that was performed at most once stays so exactly if it is new or the request repeats. -/
theorem performed_handle_le_one_iff (once : server.performed test ≤ 1) :
    (server.handle key effect).performed test ≤ 1 ↔
      (test effect = true → server.repeats key = true ∨ server.performed test = 0) := by
  -- Only a counted effect that is performed can bring the count beyond one.
  rw [performed_handle]
  by_cases seen : server.repeats key = true
  · simp [seen, once]
  · by_cases counted : test effect = true
    · -- The effect is performed once more, so it must have been missing.
      rw [Bool.not_eq_true] at seen
      simp [seen, counted]
    · simp [counted, once]

end Server

end Idempotency
