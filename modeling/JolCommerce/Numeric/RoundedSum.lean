import Mathlib.Algebra.Order.BigOperators.Group.List
import Mathlib.Algebra.Order.Round
import Mathlib.Tactic.Linarith
import Mathlib.Tactic.Ring

/-! Sums of numbers that were rounded one by one. -/

namespace RoundedSum

variable {α : Type} [Field α] [LinearOrder α] [IsStrictOrderedRing α]

/-- The errors of the parts of a sum add up at most. -/
theorem abs_sum_sub_le {ι : Type} {rounded exact : ι → α} {bound : α} {parts : List ι}
    (close : ∀ part ∈ parts, |rounded part - exact part| ≤ bound) :
    |(parts.map rounded).sum - (parts.map exact).sum| ≤ parts.length * bound := by
  -- The first error is added to those of the rest.
  induction parts with
  | nil => simp
  | cons part rest ih =>
    obtain ⟨lower, upper⟩ := abs_le.mp (close part List.mem_cons_self)
    obtain ⟨restLower, restUpper⟩ :=
      abs_le.mp (ih fun other member => close other (List.mem_cons_of_mem part member))
    have count : ((part :: rest).length : α) * bound = rest.length * bound + bound := by
      rw [List.length_cons]
      push_cast
      ring
    rw [List.map_cons, List.map_cons, List.sum_cons, List.sum_cons, count, abs_le]
    constructor <;> linarith

/-- A part is no more than the sum of parts that are not negative. -/
theorem le_sum {ι : Type} {number : ι → α} {parts : List ι}
    (nonneg : ∀ part ∈ parts, 0 ≤ number part) {part : ι} (member : part ∈ parts) :
    number part ≤ (parts.map number).sum := by
  -- The other parts can only add to it.
  refine List.single_le_sum ?_ _ (List.mem_map_of_mem member)
  intro value mapped
  obtain ⟨other, otherMember, rfl⟩ := List.mem_map.mp mapped
  exact nonneg other otherMember

variable [FloorRing α]

/-- Rounding does not go below zero. -/
theorem round_nonneg {number : α} (nonneg : 0 ≤ number) : 0 ≤ round number := by
  rw [round_eq]
  exact Int.floor_nonneg.mpr (by linarith)

/-- Below a half it goes to zero, and from there on it adds no more than a half. -/
theorem round_le_two_mul {number : α} (nonneg : 0 ≤ number) : (round number : α) ≤ 2 * number := by
  -- From a half on, half a unit is no more than the number itself.
  by_cases half : number < 1 / 2
  · have floor : round number < 1 := by
      rw [round_eq, Int.floor_lt]
      push_cast
      linarith
    have zero : (round number : α) ≤ 0 := by exact_mod_cast Int.lt_add_one_iff.mp floor
    linarith
  · have added := round_le_add_half number
    linarith

end RoundedSum
