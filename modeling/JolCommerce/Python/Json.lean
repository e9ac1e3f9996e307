import JolCommerce.Python.Text
import Mathlib.Order.Lattice

/-! JSON values as Python dictionaries compare and serialise them: objects ignore key order. -/

namespace Python

/-- A JSON document, its objects still written as lists of fields. -/
inductive Json where
  | null
  | bool (value : Bool)
  | int (value : Int)
  | str (value : String)
  | arr (items : List Json)
  | obj (fields : List (String × Json))

/-- Fields listed in strictly ascending key order: the one listing of a dictionary. -/
structure SortedMap (α : Type) where
  /-- Keys and values, smallest key first. -/
  fields : List (String × α)
  /-- Keys ascend strictly, so none occurs twice. -/
  sorted : (fields.map Prod.fst).Pairwise (· < ·)

namespace SortedMap

variable {α : Type}

/-- The empty dictionary. -/
def empty : SortedMap α := ⟨[], List.Pairwise.nil⟩

/-- Put a key in its place, replacing the value it had. -/
def place (key : String) (value : α) : List (String × α) → List (String × α)
  | [] => [(key, value)]
  | (other, old) :: rest =>
    if key < other then (key, value) :: (other, old) :: rest
    else if key = other then (key, value) :: rest
    else (other, old) :: place key value rest

private theorem mem_place_keys {key other : String} {value : α} {fields : List (String × α)}
    (member : other ∈ (place key value fields).map Prod.fst) :
    other = key ∨ other ∈ fields.map Prod.fst := by
  -- Each branch keeps the keys already listed.
  induction fields with
  | nil => exact Or.inl (by simpa [place] using member)
  | cons field rest ih =>
    rcases field with ⟨first, old⟩
    simp only [place] at member
    split at member
    · simpa using member
    · split at member
      · rename_i _ same
        subst same
        exact Or.inr (by simpa using member)
      · rcases List.mem_cons.mp member with same | later
        · exact Or.inr (by simp [same])
        · rcases ih later with same | present
          · exact Or.inl same
          · exact Or.inr (by simp [present])

/-- Placing a key keeps the listing ascending. -/
theorem place_sorted (key : String) (value : α) {fields : List (String × α)}
    (sorted : (fields.map Prod.fst).Pairwise (· < ·)) :
    ((place key value fields).map Prod.fst).Pairwise (· < ·) := by
  -- The scan stops at the first key that is not smaller.
  induction fields with
  | nil => simp [place]
  | cons field rest ih =>
    rcases field with ⟨first, old⟩
    simp only [List.map_cons, List.pairwise_cons] at sorted
    simp only [place]
    split
    · rename_i smaller
      simp only [List.map_cons, List.pairwise_cons, List.mem_cons]
      refine ⟨?_, sorted⟩
      rintro other (rfl | later)
      · exact smaller
      · exact smaller.trans (sorted.1 other later)
    · rename_i notSmaller
      split
      · rename_i same
        subst same
        simpa using sorted
      · rename_i different
        have larger : first < key := lt_of_le_of_ne (not_lt.mp notSmaller) (Ne.symm different)
        simp only [List.map_cons, List.pairwise_cons]
        refine ⟨fun other member => ?_, ih sorted.2⟩
        rcases mem_place_keys member with rfl | present
        · exact larger
        · exact sorted.1 other present

/-- `dict[key] = value`. -/
def set (map : SortedMap α) (key : String) (value : α) : SortedMap α :=
  ⟨place key value map.fields, place_sorted key value map.sorted⟩

/-- A dictionary literal: later keys replace earlier ones. -/
def ofList (fields : List (String × α)) : SortedMap α :=
  fields.foldl (fun map field => map.set field.1 field.2) empty

/-- `dict.get` without a default. -/
def get? (map : SortedMap α) (key : String) : Option α :=
  map.fields.lookup key

/-- Python's truth value of a dictionary: whether it has an entry. -/
def isEmpty (map : SortedMap α) : Bool := map.fields.isEmpty

/-- The assigned key reads back the assigned value. -/
@[simp] theorem get?_set_self (map : SortedMap α) (key : String) (value : α) :
    (map.set key value).get? key = some value := by
  -- Keys before the place of the new one are all different from it.
  rcases map with ⟨fields, sorted⟩
  simp only [set, get?]
  clear sorted
  induction fields with
  | nil => simp [place]
  | cons field rest ih =>
    rcases field with ⟨first, old⟩
    simp only [place]
    split
    · simp
    · split
      · simp
      · rename_i _ different
        have differs : (key == first) = false := by simpa using different
        simp [List.lookup_cons, differs, ih]

/-- Other keys keep the value they had. -/
theorem get?_set_of_ne (map : SortedMap α) {key other : String} (value : α)
    (different : other ≠ key) : (map.set key value).get? other = map.get? other := by
  -- The new field never answers for another key.
  have differs : (other == key) = false := by simpa using different
  rcases map with ⟨fields, sorted⟩
  simp only [set, get?]
  clear sorted
  induction fields with
  | nil => simp [place, List.lookup_cons, differs]
  | cons field rest ih =>
    rcases field with ⟨first, old⟩
    simp only [place]
    split
    · simp [List.lookup_cons, differs]
    · split
      · rename_i _ same
        subst same
        simp [List.lookup_cons, differs]
      · simp [List.lookup_cons, ih]

/-- Dictionaries with the same fields are the same dictionary. -/
theorem ext {left right : SortedMap α} (same : left.fields = right.fields) : left = right := by
  cases left
  cases right
  simpa using same

end SortedMap

mutual
/-- Every object inside lists its fields in ascending key order. -/
def Json.Canonical : Json → Prop
  | .null | .bool _ | .int _ | .str _ => True
  | .arr items => canonicalItems items
  | .obj fields => (fields.map Prod.fst).Pairwise (· < ·) ∧ canonicalFields fields

/-- Every item of an array is canonical. -/
def canonicalItems : List Json → Prop
  | [] => True
  | item :: rest => item.Canonical ∧ canonicalItems rest

/-- Every field of an object holds a canonical value. -/
def canonicalFields : List (String × Json) → Prop
  | [] => True
  | (_, value) :: rest => value.Canonical ∧ canonicalFields rest
end

/-- A JSON value in its canonical listing: equality is Python's equality. -/
structure JsonValue where
  /-- The document. -/
  json : Json
  /-- Nested objects are listed in key order. -/
  canonical : json.Canonical

namespace JsonValue

/-- Python's `None`. -/
def null : JsonValue := ⟨.null, trivial⟩

/-- A Boolean value. -/
def bool (value : Bool) : JsonValue := ⟨.bool value, trivial⟩

/-- An integer value. -/
def int (value : Int) : JsonValue := ⟨.int value, trivial⟩

/-- A text value. -/
def str (value : String) : JsonValue := ⟨.str value, trivial⟩

/-- Values with the same document are the same value. -/
theorem ext {left right : JsonValue} (same : left.json = right.json) : left = right := by
  cases left
  cases right
  simpa using same

end JsonValue

/-- A dictionary with text keys and JSON values. -/
abbrev JsonObject := SortedMap JsonValue

namespace JsonObject

/-- The document of a dictionary. -/
def toJson (object : JsonObject) : Json :=
  .obj (object.fields.map fun field => (field.1, field.2.json))

/-- Different dictionaries have different documents. -/
theorem toJson_injective : Function.Injective toJson := by
  -- The document keeps every key and every value in its place.
  intro left right same
  simp only [toJson, Json.obj.injEq] at same
  refine SortedMap.ext (List.map_injective_iff.mpr ?_ same)
  rintro ⟨leftKey, leftValue⟩ ⟨rightKey, rightValue⟩ equal
  simp only [Prod.mk.injEq] at equal
  rw [Prod.mk.injEq]
  exact ⟨equal.1, JsonValue.ext equal.2⟩

end JsonObject

/-- One character of a string literal, non-ASCII written as UTF-16 escapes. -/
def escapeChar (char : Char) : List Char :=
  let code := char.toNat
  if code = 34 then ['\\', '"']
  else if code = 92 then ['\\', '\\']
  else if code = 10 then ['\\', 'n']
  else if code = 13 then ['\\', 'r']
  else if code = 9 then ['\\', 't']
  else if code = 12 then ['\\', 'f']
  else if code = 8 then ['\\', 'b']
  else if 32 ≤ code ∧ code ≤ 126 then [char]
  else if code < 0x10000 then '\\' :: 'u' :: hexText 4 code
  else
    -- Characters beyond the basic plane take a surrogate pair.
    ('\\' :: 'u' :: hexText 4 (0xD800 + (code - 0x10000) / 0x400)) ++
      ('\\' :: 'u' :: hexText 4 (0xDC00 + (code - 0x10000) % 0x400))

/-- A string literal with its quotes. -/
def quote (text : String) : List Char :=
  '"' :: (text.toList.flatMap escapeChar ++ ['"'])

mutual
/-- `json.dumps` of a value whose objects are listed in key order. -/
def Json.dumps : Json → List Char
  | .null => ['n', 'u', 'l', 'l']
  | .bool true => ['t', 'r', 'u', 'e']
  | .bool false => ['f', 'a', 'l', 's', 'e']
  | .int value => intText value
  | .str text => quote text
  | .arr [] => ['[', ']']
  | .arr (item :: rest) => '[' :: (item.dumps ++ dumpsItems rest)
  | .obj [] => ['\x7b', '\x7d']
  | .obj ((key, value) :: rest) =>
    '\x7b' :: (quote key ++ (':' :: ' ' :: (value.dumps ++ dumpsFields rest)))

/-- The items after the first, each behind its separator, and the closing bracket. -/
def dumpsItems : List Json → List Char
  | [] => [']']
  | item :: rest => ',' :: ' ' :: (item.dumps ++ dumpsItems rest)

/-- The fields after the first, each behind its separator, and the closing brace. -/
def dumpsFields : List (String × Json) → List Char
  | [] => ['\x7d']
  | (key, value) :: rest =>
    ',' :: ' ' :: (quote key ++ (':' :: ' ' :: (value.dumps ++ dumpsFields rest)))
end

end Python
