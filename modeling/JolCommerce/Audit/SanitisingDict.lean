import JolCommerce.Audit.Sanitising

/-! Which texts of a nested dictionary are redacted, and that its shape is kept. -/

namespace JolCommerce

namespace LogValue

variable {α : Type}

mutual

/-- All texts in the values of a dictionary. -/
def entryTexts : List (String × LogValue α) → List String
  | [] => []
  | (_, value) :: entries => value.texts ++ entryTexts entries

/-- All texts in a list. -/
def itemTexts : List (LogValue α) → List String
  | [] => []
  | item :: items => item.texts ++ itemTexts items

/-- All texts inside a value. -/
def texts : LogValue α → List String
  | .str text => [text]
  | .leaf _ => []
  | .list items => itemTexts items
  | .dict entries => entryTexts entries

end

mutual

/-- Texts in the values of a dictionary that lie in a list which is an item of a list. -/
def entriesHidden : List (String × LogValue α) → List String
  | [] => []
  | (_, value) :: entries => value.hidden ++ entriesHidden entries

/-- Such texts in a list: everything in the lists among its items. -/
def itemsHidden : List (LogValue α) → List String
  | [] => []
  | .list inner :: items => itemTexts inner ++ itemsHidden items
  | .dict entries :: items => entriesHidden entries ++ itemsHidden items
  | .str _ :: items => itemsHidden items
  | .leaf _ :: items => itemsHidden items

/-- Such texts in the value of a key. -/
def hidden : LogValue α → List String
  | .str _ => []
  | .leaf _ => []
  | .list items => itemsHidden items
  | .dict entries => entriesHidden entries

end

mutual

/-- A dictionary with every text blanked out: its keys, its containers and its other leaves. -/
def entriesShape : List (String × LogValue α) → List (String × LogValue α)
  | [] => []
  | (key, value) :: entries => (key, value.shape) :: entriesShape entries

/-- A list with every text blanked out. -/
def itemsShape : List (LogValue α) → List (LogValue α)
  | [] => []
  | item :: items => item.shape :: itemsShape items

/-- A value with every text blanked out. -/
def shape : LogValue α → LogValue α
  | .str _ => .str ""
  | .leaf value => .leaf value
  | .list items => .list (itemsShape items)
  | .dict entries => .dict (entriesShape entries)

end

variable (letter : Char → Bool)

mutual

/-- Redacting a dictionary keeps its shape. -/
theorem sanitizeDict_shape (entries : List (String × LogValue α)) :
    entriesShape (sanitizeDict letter entries) = entriesShape entries := by
  cases entries with
  | nil => rfl
  | cons entry entries =>
    obtain ⟨key, value⟩ := entry
    simp only [sanitizeDict, entriesShape, sanitizeEntry_shape value, sanitizeDict_shape entries]

/-- So does redacting the value of a key. -/
theorem sanitizeEntry_shape (value : LogValue α) :
    (value.sanitizeEntry letter).shape = value.shape := by
  cases value with
  | str text => rfl
  | leaf value => rfl
  | list items => simp only [sanitizeEntry, shape, sanitizeItems_shape items]
  | dict entries => simp only [sanitizeEntry, shape, sanitizeDict_shape entries]

/-- And redacting the items of a list. -/
theorem sanitizeItems_shape (items : List (LogValue α)) :
    itemsShape (sanitizeItems letter items) = itemsShape items := by
  -- An item keeps its shape whichever branch of the comprehension it takes.
  cases items with
  | nil => rfl
  | cons item items =>
    have first : (item.sanitizeItem letter).shape = item.shape := by
      cases item with
      | str text => rfl
      | leaf value => rfl
      | list inner => rfl
      | dict entries => simp only [sanitizeItem, shape, sanitizeDict_shape entries]
    simp only [sanitizeItems, itemsShape, first, sanitizeItems_shape items]

end

/-- What is found is redacted but for hidden texts, and those are all found. -/
structure Covered (hiddenTexts found : List String) : Prop where
  redacted : ∀ text ∈ found, text ∈ hiddenTexts ∨ Redacted letter text
  kept : ∀ text ∈ hiddenTexts, text ∈ found

variable {letter}

/-- Nothing found, nothing hidden. -/
theorem Covered.nil : Covered letter [] [] := ⟨by simp, by simp⟩

/-- A redacted text. -/
theorem Covered.sanitized (text : String) : Covered letter [] [sanitizeValue letter text] :=
  ⟨by simp [redacted_sanitizeValue], by simp⟩

/-- Texts that are left as they were are hidden ones. -/
theorem Covered.refl (found : List String) : Covered letter found found :=
  ⟨fun _ member => Or.inl member, fun _ member => member⟩

/-- What is covered in two parts is covered in the whole. -/
theorem Covered.append {firstHidden firstFound secondHidden secondFound : List String}
    (first : Covered letter firstHidden firstFound)
    (second : Covered letter secondHidden secondFound) :
    Covered letter (firstHidden ++ secondHidden) (firstFound ++ secondFound) := by
  -- Each text of the whole belongs to one of the two parts.
  constructor
  · intro text member
    rcases List.mem_append.mp member with inFirst | inSecond
    · exact (first.redacted text inFirst).imp_left (List.mem_append_left _)
    · exact (second.redacted text inSecond).imp_left (List.mem_append_right _)
  · intro text member
    rcases List.mem_append.mp member with inFirst | inSecond
    · exact List.mem_append_left _ (first.kept text inFirst)
    · exact List.mem_append_right _ (second.kept text inSecond)

mutual

/-- Redacting a dictionary misses the hidden texts only. -/
theorem sanitizeDict_covered (entries : List (String × LogValue α)) :
    Covered letter (entriesHidden entries) (entryTexts (sanitizeDict letter entries)) := by
  cases entries with
  | nil => exact .nil
  | cons entry entries =>
    exact .append (sanitizeEntry_covered entry.2) (sanitizeDict_covered entries)

/-- So does redacting the value of a key. -/
theorem sanitizeEntry_covered (value : LogValue α) :
    Covered letter value.hidden (value.sanitizeEntry letter).texts := by
  cases value with
  | str text => exact .sanitized text
  | leaf value => exact .nil
  | list items => exact sanitizeItems_covered items
  | dict entries => exact sanitizeDict_covered entries

/-- And redacting the items of a list, where the lists among them are passed on. -/
theorem sanitizeItems_covered (items : List (LogValue α)) :
    Covered letter (itemsHidden items) (itemTexts (sanitizeItems letter items)) := by
  -- Only an inner list goes through as it is, and its texts are the hidden ones.
  cases items with
  | nil => exact .nil
  | cons item items =>
    have rest := sanitizeItems_covered items
    cases item with
    | str text => exact .append (.sanitized text) rest
    | leaf value => exact .append .nil rest
    | list inner => exact .append (.refl (itemTexts inner)) rest
    | dict entries => exact .append (sanitizeDict_covered entries) rest

end

variable (letter)

/-- Every text is redacted, and the shape is kept. -/
def FullySanitized (entries : List (String × LogValue α)) : Prop :=
  (∀ text ∈ entryTexts (sanitizeDict letter entries), Redacted letter text) ∧
    entriesShape (sanitizeDict letter entries) = entriesShape entries

/-- A dictionary is redacted in full exactly when its lists within lists had nothing to redact. -/
theorem fullySanitized_iff (entries : List (String × LogValue α)) :
    FullySanitized letter entries ↔ ∀ text ∈ entriesHidden entries, Redacted letter text := by
  -- The hidden texts are all in the result, and everything else there is redacted.
  have covered : Covered letter (entriesHidden entries) (entryTexts (sanitizeDict letter entries)) :=
    sanitizeDict_covered entries
  constructor
  · intro sanitized text member
    exact sanitized.1 text (covered.kept text member)
  · intro harmless
    refine ⟨fun text member => ?_, sanitizeDict_shape letter entries⟩
    rcases covered.redacted text member with isHidden | redacted
    · exact harmless text isHidden
    · exact redacted

/-- A card number in a list within a list gets through. -/
theorem nested_list_not_sanitized :
    ¬FullySanitized (fun _ => false)
      [("cards", (.list [.list [.str "4111111111111111"]] : LogValue Nat))] := by
  rintro ⟨redacted, -⟩
  -- The detector still reports it.
  have clean := (redacted "4111111111111111" (by decide)).containsPan_eq
  exact absurd clean (by decide +kernel)

end LogValue

end JolCommerce
