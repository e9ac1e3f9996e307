import Mathlib.Data.List.Lex
import Mathlib.Order.Lattice

/-! The lexicographic order of lists whose front parts have one length. -/

namespace Lexicographic

variable {α : Type} [LinearOrder α]

/-- Fronts of one length are compared first, and the rest only where they are the same. -/
theorem append_lt_append_iff {first second : List α} (same : first.length = second.length)
    (firstRest secondRest : List α) :
    first ++ firstRest < second ++ secondRest ↔
      first < second ∨ first = second ∧ firstRest < secondRest := by
  induction first generalizing second with
  | nil =>
    -- Both fronts are empty.
    have none : second = [] := List.length_eq_zero_iff.mp same.symm
    subst none
    simp
  | cons head tail ih =>
    cases second with
    | nil => cases same
    | cons other others =>
      have shorter : tail.length = others.length := Nat.succ.inj same
      rw [List.cons_append, List.cons_append, List.cons_lt_cons_iff, List.cons_lt_cons_iff,
        ih shorter, List.cons.injEq]
      tauto

end Lexicographic
