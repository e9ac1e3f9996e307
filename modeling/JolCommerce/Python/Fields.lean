import Mathlib.Data.List.Basic

/-! Texts as fields between separators, and texts with a fixed ending. -/

namespace Python

variable {α : Type}

/-- What stands before a field: nothing, or a text that ends in the separator. -/
def FieldStart (separator : α) (before : List α) : Prop :=
  before = [] ∨ ∃ front, before = front ++ [separator]

/-- What stands after a field: nothing, or a text that starts with the separator. -/
def FieldEnd (separator : α) (after : List α) : Prop :=
  after = [] ∨ ∃ rest, after = separator :: rest

/-- A start may be put behind a field and its separator. -/
theorem FieldStart.append {separator : α} {before : List α} (start : FieldStart separator before)
    (front : List α) : FieldStart separator (front ++ separator :: before) := by
  rcases start with rfl | ⟨rest, rfl⟩
  · exact Or.inr ⟨front, rfl⟩
  · exact Or.inr ⟨front ++ separator :: rest, by simp⟩

variable [DecidableEq α]

/-- `text.endswith(ending)`. -/
def endsWith (ending text : List α) : Bool := ending.isSuffixOf text

/-- `text.removesuffix(ending)`. -/
def removeSuffix (ending text : List α) : List α :=
  if endsWith ending text then text.take (text.length - ending.length) else text

/-- `text.split(separator)[-1]`. -/
def lastField (separator : α) (text : List α) : List α :=
  (text.splitOn separator).getLast (List.splitOn_ne_nil separator text)

/-- `text.split(separator)[0]`. -/
def firstField (separator : α) (text : List α) : List α :=
  (text.splitOn separator).head (List.splitOn_ne_nil separator text)

/-- A text ends in something exactly when it is something else followed by it. -/
theorem endsWith_iff (ending text : List α) :
    endsWith ending text = true ↔ ∃ front, text = front ++ ending := by
  rw [endsWith, List.isSuffixOf_iff_suffix]
  constructor
  · intro suffix
    obtain ⟨front, same⟩ := suffix
    exact ⟨front, same.symm⟩
  · intro ends
    obtain ⟨front, same⟩ := ends
    exact ⟨front, same.symm⟩

/-- What stands before an ending is left when it is removed. -/
@[simp] theorem removeSuffix_append (front ending : List α) :
    removeSuffix ending (front ++ ending) = front := by
  have ends := (endsWith_iff ending (front ++ ending)).mpr ⟨front, rfl⟩
  rw [removeSuffix, if_pos ends]
  simp

/-- The last field is what stands after the last separator. -/
theorem lastField_eq {separator : α} {before field : List α} (start : FieldStart separator before)
    (whole : separator ∉ field) : lastField separator (before ++ field) = field := by
  -- The separator in front of the field, if any, splits it off.
  unfold lastField
  rcases start with rfl | ⟨front, rfl⟩
  · simp [List.splitOn_eq_singleton whole]
  · simp [List.splitOn_append_cons_self, List.splitOn_eq_singleton whole]

/-- The first field is what stands before the first separator. -/
theorem firstField_eq {separator : α} {field after : List α} (stop : FieldEnd separator after)
    (whole : separator ∉ field) : firstField separator (field ++ after) = field := by
  unfold firstField
  rcases stop with rfl | ⟨rest, rfl⟩
  · simp [List.splitOn_eq_singleton whole]
  · simp [List.splitOn_append_cons_self_of_not_mem whole]

/-- Every text is its first field followed by an end. -/
theorem exists_firstField (separator : α) (text : List α) :
    ∃ after, text = firstField separator text ++ after ∧ FieldEnd separator after ∧
      separator ∉ firstField separator text := by
  by_cases present : separator ∈ text
  · -- Cut at the first separator.
    obtain ⟨field, rest, rfl, whole⟩ := List.eq_append_cons_of_mem present
    have stop : FieldEnd separator (separator :: rest) := Or.inr ⟨rest, rfl⟩
    rw [firstField_eq stop whole]
    exact ⟨separator :: rest, rfl, stop, whole⟩
  · have same : firstField separator text = text := by
      simpa using firstField_eq (Or.inl rfl) present
    rw [same]
    exact ⟨[], (List.append_nil text).symm, Or.inl rfl, present⟩

/-- Every text is its last field with a start in front of it. -/
theorem exists_lastField (separator : α) (text : List α) :
    ∃ before, text = before ++ lastField separator text ∧ FieldStart separator before ∧
      separator ∉ lastField separator text := by
  by_cases present : separator ∈ text
  · -- Cut at the last separator, which is the first one from behind.
    obtain ⟨back, front, reversed, whole⟩ :=
      List.eq_append_cons_of_mem (List.mem_reverse.mpr present)
    have cut : text = (front.reverse ++ [separator]) ++ back.reverse := by
      rw [← List.reverse_reverse text, reversed]
      simp
    have start : FieldStart separator (front.reverse ++ [separator]) := Or.inr ⟨_, rfl⟩
    have absent : separator ∉ back.reverse := by simpa using whole
    rw [cut, lastField_eq start absent]
    exact ⟨_, rfl, start, absent⟩
  · have same : lastField separator text = text := by
      simpa using lastField_eq (Or.inl rfl) present
    rw [same]
    exact ⟨[], rfl, Or.inl rfl, present⟩

/-- The fields of a text are its parts between two separators or an end of the text. -/
theorem mem_splitOn_iff (separator : α) (text field : List α) :
    field ∈ text.splitOn separator ↔ ∃ before after, text = before ++ field ++ after ∧
      FieldStart separator before ∧ FieldEnd separator after ∧ separator ∉ field := by
  constructor
  · intro member
    -- Induction on the length of the text, from which the first field is cut off.
    induction length : text.length using Nat.strongRecOn generalizing text with
    | ind size ih =>
      by_cases present : separator ∈ text
      · obtain ⟨first, rest, rfl, whole⟩ := List.eq_append_cons_of_mem present
        rw [List.splitOn_append_cons_self_of_not_mem whole, List.mem_cons] at member
        rcases member with rfl | later
        · exact ⟨[], separator :: rest, rfl, Or.inl rfl, Or.inr ⟨rest, rfl⟩, whole⟩
        · have shorter : rest.length < size := by
            rw [← length, List.length_append, List.length_cons]
            omega
          obtain ⟨before, after, rfl, start, stop, absent⟩ := ih rest.length shorter rest later rfl
          exact ⟨first ++ separator :: before, after, by simp, start.append first, stop, absent⟩
      · rw [List.splitOn_eq_singleton present, List.mem_singleton] at member
        subst member
        exact ⟨[], [], by simp, Or.inl rfl, Or.inl rfl, present⟩
  · intro part
    obtain ⟨before, after, rfl, start, stop, whole⟩ := part
    rcases start with rfl | ⟨front, rfl⟩
    · rcases stop with rfl | ⟨rest, rfl⟩
      · simp [List.splitOn_eq_singleton whole]
      · simp [List.splitOn_append_cons_self_of_not_mem whole]
    · rcases stop with rfl | ⟨rest, rfl⟩
      · simp [List.splitOn_append_cons_self, List.splitOn_eq_singleton whole]
      · simp [List.splitOn_append_cons_self, List.splitOn_append_cons_self_of_not_mem whole]

end Python
