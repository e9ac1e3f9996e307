import Mathlib.Data.List.Basic

/-! HTTP header fields: names without regard to case, several values of one name in order. -/

namespace Http

/-- A header name as it is compared. -/
def lower (name : String) : String := String.ofList (name.toList.map Char.toLower)

/-- Header fields in the order in which they are sent, with names in lower case. -/
abbrev Headers := List (String × String)

namespace Headers

/-- The fields once one name has a value: its first field is replaced, further ones are dropped. -/
def place (key value : String) : Headers → Headers
  | [] => [(key, value)]
  | (name, old) :: rest =>
    if name = key then (key, value) :: rest.filter fun field => field.1 ≠ key
    else (name, old) :: place key value rest

/-- `headers[name] = value`. -/
def setItem (headers : Headers) (name value : String) : Headers :=
  headers.place (lower name) value

/-- The values of all fields with a name. -/
def values (headers : Headers) (name : String) : List String :=
  (headers.filter fun field => field.1 = lower name).map Prod.snd

/-- `headers.get(name)` in a browser, which joins several values. -/
def get (headers : Headers) (name : String) : Option String :=
  match headers.values name with
  | [] => none
  | first :: rest => some (", ".intercalate (first :: rest))

/-- Fields as a list, all set one after another. -/
def update (headers : Headers) (fields : List (String × String)) : Headers :=
  fields.foldl (fun headers field => headers.setItem field.1 field.2) headers

private theorem filter_place_self (key value : String) (headers : Headers) :
    ((headers.place key value).filter fun field => field.1 = key) = [(key, value)] := by
  -- What follows the replaced field has other names.
  induction headers with
  | nil => simp [place]
  | cons field rest ih =>
    rcases field with ⟨name, old⟩
    by_cases same : name = key
    · simp [place, same, List.filter_filter]
    · simp [place, same, ih]

private theorem filter_place_other {key other : String} (different : other ≠ key) (value : String)
    (headers : Headers) : ((headers.place key value).filter fun field => field.1 = other) =
      headers.filter fun field => field.1 = other := by
  -- Only fields of the placed name come and go.
  induction headers with
  | nil => simp [place, Ne.symm different]
  | cons field rest ih =>
    rcases field with ⟨name, old⟩
    by_cases same : name = key
    · subst same
      have kept : (rest.filter fun field => field.1 ≠ name).filter (fun field => field.1 = other) =
          rest.filter fun field => field.1 = other := by
        rw [List.filter_filter]
        refine List.filter_congr fun field _ => ?_
        by_cases here : field.1 = other
        · simp [here, different]
        · simp [here]
      simp only [place, if_true, List.filter_cons, Ne.symm different, decide_false,
        Bool.false_eq_true, if_false, kept]
    · simp only [place, same, if_false, List.filter_cons, ih]

/-- A name that was set has one value, and every other name has the values it had. -/
theorem values_setItem (headers : Headers) (name value other : String) :
    (headers.setItem name value).values other =
      if lower other = lower name then [value] else headers.values other := by
  unfold setItem values
  split
  · rename_i same
    rw [same, filter_place_self]
    rfl
  · rename_i different
    rw [filter_place_other different]

/-- Names that are not set keep their values. -/
theorem values_update_other {fields : List (String × String)} {name : String}
    (absent : ∀ field ∈ fields, lower field.1 ≠ lower name) (headers : Headers) :
    (headers.update fields).values name = headers.values name := by
  induction fields generalizing headers with
  | nil => rfl
  | cons field rest ih =>
    obtain ⟨here, later⟩ := List.forall_mem_cons.mp absent
    rw [update, List.foldl_cons]
    refine (ih later _).trans ?_
    rw [values_setItem, if_neg fun same => here same.symm]

/-- A name that is set once has the value it was set to. -/
theorem values_update {fields : List (String × String)} {name value : String}
    (member : (name, value) ∈ fields) (once : (fields.map fun field => lower field.1).Nodup)
    (headers : Headers) : (headers.update fields).values name = [value] := by
  -- After it was set, no later field has its name.
  induction fields generalizing headers with
  | nil => cases member
  | cons field rest ih =>
    rw [List.map_cons, List.nodup_cons] at once
    rw [update, List.foldl_cons]
    rcases List.mem_cons.mp member with rfl | later
    · have absent : ∀ field ∈ rest, lower field.1 ≠ lower name := by
        intro other member same
        exact once.1 (List.mem_map.mpr ⟨other, member, same⟩)
      refine (values_update_other absent _).trans ?_
      rw [values_setItem, if_pos rfl]
    · exact ih later once.2 _

/-- The value is looked up without regard to the case of the name. -/
theorem get_eq_of_values {headers : Headers} {name other value : String}
    (only : headers.values other = [value]) (same : lower name = lower other) :
    headers.get name = some value := by
  have values : headers.values name = [value] := by
    rw [← only]
    unfold Headers.values
    rw [same]
  unfold get
  rw [values]
  rfl

end Headers

end Http
