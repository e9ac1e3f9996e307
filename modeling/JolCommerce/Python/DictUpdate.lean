import JolCommerce.Python.Dict

/-! Many assignments to a dictionary, one after another. -/

namespace Python

namespace Dict

variable {κ α : Type} [DecidableEq κ]

/-- `dict.update(entries)`. -/
def update (dict : Dict κ α) (entries : List (κ × α)) : Dict κ α :=
  entries.foldl (fun dict entry => dict.set entry.1 entry.2) dict

omit [DecidableEq κ] in
/-- Two dictionaries with the same entries are the same. -/
theorem ext_entries {left right : Dict κ α} (same : left.entries = right.entries) : left = right := by
  cases left
  cases right
  cases same
  rfl

/-- Assigning what a key has already changes nothing, not even the order. -/
theorem set_same {dict : Dict κ α} {key : κ} {value : α} (present : dict.get? key = some value) :
    dict.set key value = dict := by
  -- The scan stops at the entry of the key and writes what it finds there.
  have stored := (dict.mem_entries_iff key value).mpr present
  apply ext_entries
  rcases dict with ⟨entries, nodup⟩
  simp only [set] at stored ⊢
  clear present
  induction entries with
  | nil => cases stored
  | cons entry rest ih =>
    rcases entry with ⟨first, old⟩
    simp only [List.map_cons, List.nodup_cons] at nodup
    rcases List.mem_cons.mp stored with here | later
    · obtain ⟨rfl, rfl⟩ := Prod.mk.inj here
      simp [assign]
    · have different : first ≠ key := by
        intro same
        subst same
        exact nodup.1 (List.mem_map.mpr ⟨_, later, rfl⟩)
      simp only [assign, different, if_false, ih nodup.2 later]

/-- Keys that are not assigned keep their values. -/
theorem get?_update_other {entries : List (κ × α)} {key : κ} (absent : key ∉ entries.map Prod.fst)
    (dict : Dict κ α) : (dict.update entries).get? key = dict.get? key := by
  induction entries generalizing dict with
  | nil => rfl
  | cons entry rest ih =>
    rw [List.map_cons, List.mem_cons, not_or] at absent
    rw [update, List.foldl_cons]
    exact (ih absent.2 _).trans (get?_set_of_ne dict entry.2 absent.1)

/-- A key that is assigned once has the value it was assigned. -/
theorem get?_update {entries : List (κ × α)} {key : κ} {value : α} (member : (key, value) ∈ entries)
    (once : (entries.map Prod.fst).Nodup) (dict : Dict κ α) :
    (dict.update entries).get? key = some value := by
  -- No later assignment is to the same key.
  induction entries generalizing dict with
  | nil => cases member
  | cons entry rest ih =>
    rw [List.map_cons, List.nodup_cons] at once
    rw [update, List.foldl_cons]
    rcases List.mem_cons.mp member with rfl | later
    · exact (get?_update_other once.1 _).trans (get?_set_self dict key value)
    · exact ih later once.2 _

/-- What a key has afterwards it was assigned, or had before. -/
theorem of_get?_update {entries : List (κ × α)} {dict : Dict κ α} {key : κ} {value : α}
    (found : (dict.update entries).get? key = some value) :
    (key, value) ∈ entries ∨ dict.get? key = some value := by
  -- The last assignments are undone first.
  induction entries generalizing dict with
  | nil => exact .inr found
  | cons entry rest ih =>
    rcases ih found with later | earlier
    · exact .inl (List.mem_cons_of_mem _ later)
    · rw [get?_set] at earlier
      split at earlier
      · rename_i same
        cases earlier
        exact .inl (List.mem_cons.mpr (.inl (Prod.ext same rfl)))
      · exact .inr earlier

/-- Assigning what is there already changes nothing. -/
theorem update_same {entries : List (κ × α)} {dict : Dict κ α}
    (present : ∀ entry ∈ entries, dict.get? entry.1 = some entry.2) : dict.update entries = dict := by
  induction entries with
  | nil => rfl
  | cons entry rest ih =>
    obtain ⟨here, later⟩ := List.forall_mem_cons.mp present
    rw [update, List.foldl_cons, set_same here]
    exact ih later

/-- Doing the same assignments again changes nothing. -/
theorem update_update {entries : List (κ × α)} (once : (entries.map Prod.fst).Nodup)
    (dict : Dict κ α) : (dict.update entries).update entries = dict.update entries :=
  update_same fun _ member => get?_update member once dict

end Dict

end Python
