import Mathlib.Algebra.Ring.Nat
import Mathlib.Data.List.Nodup

/-! Insertion-ordered dictionaries with one entry per key. -/

namespace Python

/-- A dictionary: its entries in insertion order, no key twice. -/
structure Dict (κ α : Type) where
  /-- Key and value pairs, oldest key first. -/
  entries : List (κ × α)
  /-- No key occurs twice. -/
  nodup : (entries.map Prod.fst).Nodup

namespace Dict

variable {κ α : Type} [DecidableEq κ]

/-- The dictionary literal without entries. -/
def empty : Dict κ α := ⟨[], List.nodup_nil⟩

/-- `dict.get` without a default. -/
def get? (dict : Dict κ α) (key : κ) : Option α :=
  dict.entries.lookup key

private theorem lookup_cons_if (key first : κ) (value : α) (rest : List (κ × α)) :
    ((first, value) :: rest).lookup key = if key = first then some value else rest.lookup key := by
  -- A lookup compares the first key before it looks further.
  by_cases same : key = first
  · simp [same]
  · have differs : (key == first) = false := by simpa using same
    simp [List.lookup_cons, differs, same]

/-- Entries after an assignment: a present key keeps its place, a new one goes last. -/
def assign (key : κ) (value : α) : List (κ × α) → List (κ × α)
  | [] => [(key, value)]
  | (other, old) :: rest =>
    if other = key then (key, value) :: rest else (other, old) :: assign key value rest

private theorem mem_assign_keys {key other : κ} {value : α} {entries : List (κ × α)}
    (member : other ∈ (assign key value entries).map Prod.fst) :
    other = key ∨ other ∈ entries.map Prod.fst := by
  -- The scan replaces the value of the key in place or appends it.
  induction entries with
  | nil => exact Or.inl (by simpa [assign] using member)
  | cons entry rest ih =>
    rcases entry with ⟨first, old⟩
    simp only [assign] at member
    split at member
    · rename_i same
      subst same
      exact Or.inr (by simpa using member)
    · rcases List.mem_cons.mp member with same | later
      · exact Or.inr (by simp [same])
      · rcases ih later with same | present
        · exact Or.inl same
        · exact Or.inr (by simp [present])

/-- An assignment keeps the keys pairwise different. -/
theorem assign_nodup (key : κ) (value : α) {entries : List (κ × α)}
    (nodup : (entries.map Prod.fst).Nodup) :
    ((assign key value entries).map Prod.fst).Nodup := by
  -- Only a key that the scan did not meet is appended.
  induction entries with
  | nil => simp [assign]
  | cons entry rest ih =>
    rcases entry with ⟨first, old⟩
    simp only [List.map_cons, List.nodup_cons] at nodup
    simp only [assign]
    split
    · rename_i same
      subst same
      simpa using nodup
    · rename_i different
      simp only [List.map_cons, List.nodup_cons]
      refine ⟨fun member => ?_, ih nodup.2⟩
      rcases mem_assign_keys member with same | present
      · exact different same
      · exact nodup.1 present

/-- `dict[key] = value`. -/
def set (dict : Dict κ α) (key : κ) (value : α) : Dict κ α :=
  ⟨assign key value dict.entries, assign_nodup key value dict.nodup⟩

/-- `dict.setdefault`: a present key keeps its value. -/
def setDefault (dict : Dict κ α) (key : κ) (value : α) : Dict κ α :=
  if (dict.get? key).isSome then dict else dict.set key value

/-- Drop the entries that fail a test, keeping the order of the others. -/
def filter (dict : Dict κ α) (keep : κ → α → Bool) : Dict κ α :=
  ⟨dict.entries.filter fun entry => keep entry.1 entry.2,
    dict.nodup.sublist (List.filter_sublist.map Prod.fst)⟩

/-- `dict.values()`, oldest key first. -/
def values (dict : Dict κ α) : List α :=
  dict.entries.map Prod.snd

/-- An empty dictionary has no entry to find. -/
@[simp] theorem get?_empty (key : κ) : (empty : Dict κ α).get? key = none := rfl

/-- Reading after an assignment sees the new value at its key and the old ones elsewhere. -/
theorem get?_set (dict : Dict κ α) (key other : κ) (value : α) :
    (dict.set key value).get? other = if other = key then some value else dict.get? other := by
  -- The scan for the assigned key and the lookup of the other key walk the same entries.
  rcases dict with ⟨entries, nodup⟩
  simp only [set, get?]
  clear nodup
  induction entries with
  | nil => simp [assign, lookup_cons_if]
  | cons entry rest ih =>
    rcases entry with ⟨first, old⟩
    simp only [assign]
    by_cases found : first = key
    · subst found
      by_cases same : other = first <;> simp [lookup_cons_if, same]
    · by_cases same : other = first
      · subst same
        simp [found]
      · simp [found, lookup_cons_if, same, ih]

/-- The assigned key reads back the assigned value. -/
@[simp] theorem get?_set_self (dict : Dict κ α) (key : κ) (value : α) :
    (dict.set key value).get? key = some value := by
  simp [get?_set]

/-- Keys other than the assigned one are not affected. -/
theorem get?_set_of_ne (dict : Dict κ α) {key other : κ} (value : α) (different : other ≠ key) :
    (dict.set key value).get? other = dict.get? other := by
  simp [get?_set, different]

/-- A default is read only where there was nothing. -/
theorem get?_setDefault (dict : Dict κ α) (key other : κ) (value : α) :
    (dict.setDefault key value).get? other =
      if other = key then some ((dict.get? key).getD value) else dict.get? other := by
  unfold setDefault
  cases found : dict.get? key with
  | none => simp [get?_set]
  | some present =>
    by_cases same : other = key
    · simp [same, found]
    · simp [same]

/-- A pair is stored exactly when its key reads back its value. -/
theorem mem_entries_iff (dict : Dict κ α) (key : κ) (value : α) :
    (key, value) ∈ dict.entries ↔ dict.get? key = some value := by
  -- Unique keys make the first entry with a key its only one.
  rcases dict with ⟨entries, nodup⟩
  simp only [get?]
  induction entries with
  | nil => simp
  | cons entry rest ih =>
    rcases entry with ⟨first, old⟩
    simp only [List.map_cons, List.nodup_cons] at nodup
    by_cases same : key = first
    · subst same
      have absent : (key, value) ∉ rest := fun member =>
        nodup.1 (List.mem_map.mpr ⟨_, member, rfl⟩)
      simp [absent, eq_comm]
    · simp [lookup_cons_if, same, ih nodup.2]

/-- Dropping entries hides the values that fail the test and no others. -/
theorem get?_filter (dict : Dict κ α) (keep : κ → α → Bool) (key : κ) :
    (dict.filter keep).get? key = (dict.get? key).filter (keep key) := by
  -- A key has one entry, so what reads back after the filter is that entry or nothing.
  ext value
  rw [← mem_entries_iff, Option.filter_eq_some_iff, ← mem_entries_iff]
  exact List.mem_filter

/-- Listed values are the values some key reads back. -/
theorem mem_values_iff (dict : Dict κ α) (value : α) :
    value ∈ dict.values ↔ ∃ key, dict.get? key = some value := by
  simp [values, ← mem_entries_iff]

/-- Where every value names the key it is stored under, the values' names are the keys. -/
theorem map_values_of_keyed {dict : Dict κ α} {name : α → κ}
    (keyed : ∀ key value, dict.get? key = some value → name value = key) :
    dict.values.map name = dict.entries.map Prod.fst := by
  rw [values, List.map_map]
  apply List.map_congr_left
  intro entry member
  exact keyed entry.1 entry.2 ((dict.mem_entries_iff _ _).mp member)

/-- No name occurs twice among such values. -/
theorem nodup_map_values {dict : Dict κ α} {name : α → κ}
    (keyed : ∀ key value, dict.get? key = some value → name value = key) :
    (dict.values.map name).Nodup := by
  rw [map_values_of_keyed keyed]
  exact dict.nodup

/-- A new key comes last. -/
theorem values_set_of_absent {dict : Dict κ α} {key : κ} (absent : dict.get? key = none) (value : α) :
    (dict.set key value).values = dict.values ++ [value] := by
  -- The scan meets no entry with the key.
  rcases dict with ⟨entries, nodup⟩
  simp only [get?, set, values] at absent ⊢
  clear nodup
  induction entries with
  | nil => rfl
  | cons entry rest ih =>
    rcases entry with ⟨first, old⟩
    rw [lookup_cons_if] at absent
    by_cases same : key = first
    · simp [same] at absent
    · rw [if_neg same] at absent
      simp [assign, Ne.symm same, ih absent]

private theorem assign_sum {entries : List (κ × Nat)} (key : κ) (value : Nat) :
    ((assign key value entries).map Prod.snd).sum + (entries.lookup key).getD 0 =
      (entries.map Prod.snd).sum + value := by
  -- The old value at the key, if any, makes room for the new one.
  induction entries with
  | nil => simp [assign]
  | cons entry rest ih =>
    rcases entry with ⟨first, old⟩
    simp only [assign]
    by_cases found : first = key
    · subst found
      simp
      omega
    · have differs : key ≠ first := Ne.symm found
      simp only [found, ↓reduceIte, lookup_cons_if, differs, List.map_cons, List.sum_cons]
      omega

/-- An assignment replaces a count in the sum of all counts. -/
theorem sum_values_set (dict : Dict κ Nat) (key : κ) (value : Nat) :
    (dict.set key value).values.sum + (dict.get? key).getD 0 = dict.values.sum + value :=
  assign_sum key value

end Dict

end Python
