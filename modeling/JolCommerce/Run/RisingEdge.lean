import Mathlib.Data.List.Basic

/-! Series of snapshots in which a property is noticed when it starts to hold. -/

namespace Run

variable {Snapshot : Type} (holds : Snapshot → Prop)

/-- Somewhere in a series, the property holds in a snapshot and not in the one before it. -/
def Rises : Snapshot → List Snapshot → Prop
  | _, [] => False
  | last, next :: rest => (holds next ∧ ¬holds last) ∨ Rises next rest

/-- What does not hold at first is noticed wherever it holds later. -/
theorem rises_iff_exists {last : Snapshot} {snapshots : List Snapshot} (initially : ¬holds last) :
    Rises holds last snapshots ↔ ∃ snapshot ∈ snapshots, holds snapshot := by
  -- The first snapshot with it rises from what came before.
  induction snapshots generalizing last with
  | nil => simp [Rises]
  | cons next rest ih =>
    rw [Rises]
    by_cases present : holds next
    · exact iff_of_true (Or.inl ⟨present, initially⟩) ⟨next, by simp, present⟩
    · rw [ih present]
      simp [present]

/-- What holds at first is noticed only where it has stopped to hold and holds again. -/
theorem rises_iff_sublist {last : Snapshot} {snapshots : List Snapshot} (initially : holds last) :
    Rises holds last snapshots ↔ ∃ absent present,
      [absent, present].Sublist snapshots ∧ ¬holds absent ∧ holds present := by
  induction snapshots generalizing last with
  | nil => simp [Rises]
  | cons next rest ih =>
    -- Nothing rises from a snapshot that has the property.
    have still : Rises holds last (next :: rest) ↔ Rises holds next rest := by
      simp [Rises, initially]
    rw [still]
    by_cases present : holds next
    · -- The snapshot without it comes later.
      rw [ih present]
      constructor
      · intro found
        obtain ⟨absent, again, part, stopped, returned⟩ := found
        exact ⟨absent, again, part.cons next, stopped, returned⟩
      · intro found
        obtain ⟨absent, again, part, stopped, returned⟩ := found
        rcases List.sublist_cons_iff.mp part with later | ⟨tail, same, -⟩
        · exact ⟨absent, again, later, stopped, returned⟩
        · have here : absent = next := (List.cons.inj same).1
          exact absurd (here ▸ present) stopped
    · -- This is a snapshot without it, so any later one with it will do.
      rw [rises_iff_exists holds present]
      constructor
      · intro found
        obtain ⟨again, member, returned⟩ := found
        have part : [next, again].Sublist (next :: rest) :=
          (List.singleton_sublist.mpr member).cons_cons next
        exact ⟨next, again, part, present, returned⟩
      · intro found
        obtain ⟨absent, again, part, -, returned⟩ := found
        have later : [again].Sublist rest := List.Sublist.tail part
        exact ⟨again, List.singleton_sublist.mp later, returned⟩

end Run
