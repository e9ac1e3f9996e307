import JolCommerce.Python.JsonLaws
import Mathlib.Data.List.Induction

/-! `json.loads` on documents without fractions, and that it reads back what `json.dumps` writes. -/

namespace Python

namespace JsonValue

private theorem canonicalItems_map (items : List JsonValue) : canonicalItems (items.map json) := by
  induction items with
  | nil => trivial
  | cons item rest ih => exact ⟨item.canonical, ih⟩

private theorem canonicalFields_map (fields : List (String × JsonValue)) :
    canonicalFields (fields.map fun field => (field.1, field.2.json)) := by
  induction fields with
  | nil => trivial
  | cons field rest ih => exact ⟨field.2.canonical, ih⟩

/-- A list of values. -/
def arr (items : List JsonValue) : JsonValue :=
  ⟨.arr (items.map json), canonicalItems_map items⟩

/-- A dictionary as a value. -/
def obj (object : JsonObject) : JsonValue where
  json := object.toJson
  canonical := by
    refine ⟨?_, canonicalFields_map object.fields⟩
    rw [List.map_map]
    exact object.sorted

/-- The fields of a document that is an object, each with its value. -/
def fieldValues : (fields : List (String × Json)) → canonicalFields fields → List (String × JsonValue)
  | [], _ => []
  | (key, value) :: rest, canonical => (key, ⟨value, canonical.1⟩) :: fieldValues rest canonical.2

/-- They hold what the document holds. -/
theorem fieldValues_map : ∀ (fields : List (String × Json)) (canonical : canonicalFields fields),
    (fieldValues fields canonical).map (fun field => (field.1, field.2.json)) = fields
  | [], _ => rfl
  | (key, value) :: rest, canonical => congrArg ((key, value) :: ·) (fieldValues_map rest canonical.2)

/-- A value as a dictionary, where it is one. -/
def asObject? : JsonValue → Option JsonObject
  | ⟨.obj fields, canonical⟩ => some
    { fields := fieldValues fields canonical.2
      sorted := by
        have keys := congrArg (List.map Prod.fst) (fieldValues_map fields canonical.2)
        rw [List.map_map] at keys
        have same : (fieldValues fields canonical.2).map Prod.fst = fields.map Prod.fst := keys
        rw [same]
        exact canonical.1 }
  | _ => none

/-- A dictionary is the dictionary it is. -/
@[simp] theorem asObject?_obj (object : JsonObject) : (obj object).asObject? = some object := by
  -- Both have the same document.
  refine congrArg some (JsonObject.toJson_injective ?_)
  exact congrArg Json.obj (fieldValues_map _ _)

end JsonValue

/-- The value of an ASCII hexadecimal digit. -/
def hexDigit? (char : Char) : Option Nat :=
  if '0' ≤ char ∧ char ≤ '9' then some (char.toNat - '0'.toNat)
  else if 'a' ≤ char ∧ char ≤ 'f' then some (char.toNat - 'a'.toNat + 10)
  else if 'A' ≤ char ∧ char ≤ 'F' then some (char.toNat - 'A'.toNat + 10)
  else none

/-- `_decode_uXXXX`: the code unit of four hexadecimal digits, and what follows them. -/
def decodeUnit? : List Char → Option (Nat × List Char)
  | first :: second :: third :: fourth :: rest =>
    match hexDigit? first, hexDigit? second, hexDigit? third, hexDigit? fourth with
    | some a, some b, some c, some d => some (((a * 16 + b) * 16 + c) * 16 + d, rest)
    | _, _, _, _ => none
  | _ => none

/-- The character of an escape, read after `\u`: a lone surrogate is no character. -/
def scanUnicode? (text : List Char) : Option (Char × List Char) :=
  match decodeUnit? text with
  | none => none
  | some (unit, rest) =>
    if 0xD800 ≤ unit ∧ unit ≤ 0xDBFF then
      match rest with
      | '\\' :: 'u' :: low =>
        match decodeUnit? low with
        | some (second, tail) =>
          if 0xDC00 ≤ second ∧ second ≤ 0xDFFF then
            some (Char.ofNat (0x10000 + (unit - 0xD800) * 0x400 + (second - 0xDC00)), tail)
          else none
        | none => none
      | _ => none
    else if 0xDC00 ≤ unit ∧ unit ≤ 0xDFFF then none
    else some (Char.ofNat unit, rest)

/-- One character of a string literal; strictly, so no control characters. -/
def scanChar? : List Char → Option (Char × List Char)
  | '\\' :: '"' :: rest => some ('"', rest)
  | '\\' :: '\\' :: rest => some ('\\', rest)
  | '\\' :: '/' :: rest => some ('/', rest)
  | '\\' :: 'b' :: rest => some (Char.ofNat 8, rest)
  | '\\' :: 'f' :: rest => some (Char.ofNat 12, rest)
  | '\\' :: 'n' :: rest => some ('\n', rest)
  | '\\' :: 'r' :: rest => some ('\r', rest)
  | '\\' :: 't' :: rest => some ('\t', rest)
  | '\\' :: 'u' :: rest => scanUnicode? rest
  | char :: rest => if char = '\\' ∨ char.toNat < 32 then none else some (char, rest)
  | [] => none

/-- `scanstring` behind the opening quote, for at most so many characters. -/
def scanString? : Nat → List Char → Option (List Char × List Char)
  | 0, _ => none
  | _ + 1, '"' :: rest => some ([], rest)
  | fuel + 1, text =>
    match scanChar? text with
    | none => none
    | some (char, rest) => (scanString? fuel rest).map fun (chars, tail) => (char :: chars, tail)

/-- The white space of a document. -/
def isJsonSpace (char : Char) : Bool :=
  char = ' ' || char = '\t' || char = '\n' || char = '\r'

/-- What follows white space. -/
def skipSpace (text : List Char) : List Char := text.dropWhile isJsonSpace

/-- A number without a fraction or an exponent, and what follows it. -/
def readInt? (text : List Char) : Option (Int × List Char) :=
  let body := if text.head? = some '-' then text.tail else text
  let digits := body.takeWhile Char.isDigit
  let rest := body.dropWhile Char.isDigit
  -- A leading zero stands alone; a fraction or an exponent would make it a float.
  if digits = [] ∨ (digits.head? = some '0' ∧ digits.length ≠ 1) ∨
      rest.head? = some '.' ∨ rest.head? = some 'e' ∨ rest.head? = some 'E' then none
  else
    let value : Int := Nat.ofDigitChars 10 digits 0
    some (if text.head? = some '-' then -value else value, rest)

mutual
/-- The value at the front of a text, and what follows it. -/
def readValue? : Nat → List Char → Option (JsonValue × List Char)
  | 0, _ => none
  | fuel + 1, text =>
    match text with
    | '"' :: rest =>
      (scanString? (rest.length + 1) rest).map fun (chars, tail) => (.str (String.ofList chars), tail)
    | '\x7b' :: rest =>
      match skipSpace rest with
      | '\x7d' :: tail => some (.obj SortedMap.empty, tail)
      | fields => (readFields? fuel fields).map fun (fields, tail) => (.obj (SortedMap.ofList fields), tail)
    | '[' :: rest =>
      match skipSpace rest with
      | ']' :: tail => some (.arr [], tail)
      | items => (readItems? fuel items).map fun (items, tail) => (.arr items, tail)
    | 'n' :: 'u' :: 'l' :: 'l' :: rest => some (.null, rest)
    | 't' :: 'r' :: 'u' :: 'e' :: rest => some (.bool true, rest)
    | 'f' :: 'a' :: 'l' :: 's' :: 'e' :: rest => some (.bool false, rest)
    | text => (readInt? text).map fun (value, rest) => (.int value, rest)

/-- The items of an array up to its closing bracket. -/
def readItems? : Nat → List Char → Option (List JsonValue × List Char)
  | 0, _ => none
  | fuel + 1, text =>
    match readValue? fuel text with
    | none => none
    | some (item, rest) =>
      match skipSpace rest with
      | ']' :: tail => some ([item], tail)
      | ',' :: more => (readItems? fuel (skipSpace more)).map fun (items, tail) => (item :: items, tail)
      | _ => none

/-- The fields of an object up to its closing brace. -/
def readFields? : Nat → List Char → Option (List (String × JsonValue) × List Char)
  | 0, _ => none
  | fuel + 1, '"' :: text =>
    match scanString? (text.length + 1) text with
    | none => none
    | some (chars, named) =>
      match skipSpace named with
      | ':' :: body =>
        match readValue? fuel (skipSpace body) with
        | none => none
        | some (value, rest) =>
          match skipSpace rest with
          | '\x7d' :: tail => some ([(String.ofList chars, value)], tail)
          | ',' :: more => (readFields? fuel (skipSpace more)).map fun (fields, tail) =>
              ((String.ofList chars, value) :: fields, tail)
          | _ => none
      | _ => none
  | _ + 1, _ => none
end

/-- `json.loads`: the only value of a text; nothing for a text that is not valid, or has floats. -/
def loads (text : List Char) : Option JsonValue :=
  match readValue? (text.length + 1) (skipSpace text) with
  | none => none
  | some (value, rest) => if skipSpace rest = [] then some value else none

private theorem hexDigit_digitChar {value : Nat} (small : value < 16) :
    hexDigit? (Nat.digitChar value) = some value := by
  have table : ∀ digit < 16, hexDigit? (Nat.digitChar digit) = some digit := by decide
  exact table value small

/-- A written code unit is decoded. -/
private theorem decodeUnit_hexText {unit : Nat} (small : unit < 0x10000) (rest : List Char) :
    decodeUnit? (hexText 4 unit ++ rest) = some (unit, rest) := by
  -- Each digit is one remainder modulo sixteen.
  simp only [hexText, List.nil_append, List.cons_append, decodeUnit?,
    hexDigit_digitChar (Nat.mod_lt _ (by decide : 0 < 16)), Option.some.injEq, Prod.mk.injEq, and_true]
  omega

/-- A written code unit outside the surrogates is its character. -/
private theorem scan_unit {unit : Nat} (small : unit < 0x10000) (plain : ¬(0xD800 ≤ unit ∧ unit ≤ 0xDFFF))
    (rest : List Char) :
    scanChar? ('\\' :: 'u' :: (hexText 4 unit ++ rest)) = some (Char.ofNat unit, rest) := by
  have high : ¬(0xD800 ≤ unit ∧ unit ≤ 0xDBFF) := fun inside => plain ⟨inside.1, by omega⟩
  have low : ¬(0xDC00 ≤ unit ∧ unit ≤ 0xDFFF) := fun inside => plain ⟨by omega, inside.2⟩
  simp only [scanChar?, scanUnicode?, decodeUnit_hexText small, if_neg high, if_neg low]

/-- A written surrogate pair is the character it stands for. -/
private theorem scan_pair {high low : Nat} (highSmall : high < 0x400) (lowSmall : low < 0x400)
    (rest : List Char) :
    scanChar? ('\\' :: 'u' :: (hexText 4 (0xD800 + high) ++
      ('\\' :: 'u' :: (hexText 4 (0xDC00 + low) ++ rest)))) =
      some (Char.ofNat (0x10000 + high * 0x400 + low), rest) := by
  -- The first unit asks for a second one, and the two make one character.
  have first : 0xD800 ≤ 0xD800 + high ∧ 0xD800 + high ≤ 0xDBFF := by omega
  have second : 0xDC00 ≤ 0xDC00 + low ∧ 0xDC00 + low ≤ 0xDFFF := by omega
  simp only [scanChar?, scanUnicode?, decodeUnit_hexText (show 0xD800 + high < 0x10000 by omega),
    decodeUnit_hexText (show 0xDC00 + low < 0x10000 by omega), if_pos first, if_pos second]
  simp

/-- A printable character other than a backslash stands for itself. -/
private theorem scan_plain {char : Char} (visible : 32 ≤ char.toNat) (notBackslash : char ≠ '\\')
    (rest : List Char) : scanChar? (char :: rest) = some (char, rest) := by
  have large : ¬char.toNat < 32 := by omega
  simp [scanChar?, notBackslash, large]

/-- The literal form of a character is scanned as that character. -/
theorem scan_escape (char : Char) (rest : List Char) :
    scanChar? (escapeChar char ++ rest) = some (char, rest) := by
  -- The cases are those of the writer: short escapes, plain ASCII, one unit, a surrogate pair.
  have rebuilt : Char.ofNat char.toNat = char := Char.ofNat_toNat char
  have short : ∀ code : Nat, char.toNat = code → char = Char.ofNat code := fun code equal => by
    rw [← equal, rebuilt]
  have range : char.toNat < 0xD800 ∨ 0xDFFF < char.toNat ∧ char.toNat < 0x110000 := char.valid
  simp only [escapeChar]
  split_ifs with quoteMark backslash newline carriage tab feed back plain basic
  · rw [short 34 quoteMark]; rfl
  · rw [short 92 backslash]; rfl
  · rw [short 10 newline]; rfl
  · rw [short 13 carriage]; rfl
  · rw [short 9 tab]; rfl
  · rw [short 12 feed]; rfl
  · rw [short 8 back]; rfl
  · exact scan_plain plain.1 (fun equal => backslash (by rw [equal]; rfl)) rest
  · simp only [List.cons_append]
    rw [scan_unit basic (by omega), rebuilt]
  · have value : 0x10000 + (char.toNat - 0x10000) / 0x400 * 0x400 +
        (char.toNat - 0x10000) % 0x400 = char.toNat := by omega
    simp only [List.cons_append, List.append_assoc]
    rw [scan_pair (by omega) (by omega), value, rebuilt]

/-- A written string body is scanned up to its closing quote. -/
theorem scanString_escaped (chars : List Char) (rest : List Char) {fuel : Nat}
    (enough : (chars.flatMap escapeChar).length < fuel) :
    scanString? fuel (chars.flatMap escapeChar ++ '"' :: rest) = some (chars, rest) := by
  -- One character at a time, each in its literal form.
  induction chars generalizing fuel with
  | nil =>
    obtain ⟨fuel, rfl⟩ := Nat.exists_eq_succ_of_ne_zero (Nat.ne_of_gt (Nat.zero_lt_of_lt enough))
    rfl
  | cons char chars ih =>
    obtain ⟨fuel, rfl⟩ := Nat.exists_eq_succ_of_ne_zero (Nat.ne_of_gt (Nat.zero_lt_of_lt enough))
    have written : 0 < (escapeChar char).length := by
      simp only [escapeChar]
      split_ifs <;> simp
    rw [List.flatMap_cons, List.length_append] at enough
    have later := @ih fuel (by omega)
    have open_ := escapeChar_head char (chars.flatMap escapeChar ++ '"' :: rest)
    have scanned := scan_escape char (chars.flatMap escapeChar ++ '"' :: rest)
    rw [List.flatMap_cons, List.append_assoc]
    generalize escapeChar char ++ (chars.flatMap escapeChar ++ '"' :: rest) = text at open_ scanned ⊢
    simp [scanString?, scanned, later]

/-- What follows a value in a document never continues it as a number. -/
def NoNumber (rest : List Char) : Prop :=
  ∀ char, rest.head? = some char → char.isDigit = false ∧ char ≠ '.' ∧ char ≠ 'e' ∧ char ≠ 'E'

/-- The digits of a number do not begin with a zero, unless it is the only one. -/
theorem natText_head {value : Nat} (zero : (natText value).head? = some '0') :
    (natText value).length = 1 := by
  -- All digits but the last are those of the quotient by ten, which is not zero.
  induction value using Nat.strongRecOn with
  | _ value ih =>
    unfold natText at zero ⊢
    by_cases small : value < 10
    · rw [Nat.toDigits_of_lt_base small]
      rfl
    · have split := Nat.toDigits_of_base_le (by decide : 1 < 10) (by omega : 10 ≤ value)
      have front : (natText (value / 10)).head? = some '0' := by
        rw [split] at zero
        cases digits : natText (value / 10) with
        | nil => exact absurd digits (natText_ne_nil _)
        | cons first others =>
          have same : Nat.toDigits 10 (value / 10) = first :: others := digits
          rw [same] at zero
          exact zero
      have alone := ih (value / 10) (by omega) front
      obtain ⟨digit, digits⟩ := List.length_eq_one_iff.mp alone
      rw [digits] at front
      obtain rfl : digit = '0' := by simpa using front
      have read := congrArg (Nat.ofDigitChars 10 · 0) digits
      simp only [natText, Nat.ofDigitChars_ten_toDigits] at read
      have none : value / 10 = 0 := read.trans rfl
      omega

/-- Digits end where something else follows. -/
private theorem takeWhile_digits {digits rest : List Char} (all : ∀ char ∈ digits, char.isDigit = true)
    (stop : ∀ char, rest.head? = some char → char.isDigit = false) :
    (digits ++ rest).takeWhile Char.isDigit = digits ∧ (digits ++ rest).dropWhile Char.isDigit = rest := by
  rw [List.takeWhile_append_of_pos all, List.dropWhile_append_of_pos all]
  cases rest with
  | nil => simp
  | cons char rest => simp [stop char rfl]

/-- A written integer is read back, with what follows it. -/
theorem readInt_intText (value : Int) {rest : List Char} (stop : NoNumber rest) :
    readInt? (intText value ++ rest) = some (value, rest) := by
  -- What follows is neither a digit nor a sign of a fraction or an exponent.
  have follows : ¬(rest.head? = some '.' ∨ rest.head? = some 'e' ∨ rest.head? = some 'E') := by
    rintro (dot | small | large)
    · exact (stop _ dot).2.1 rfl
    · exact (stop _ small).2.2.1 rfl
    · exact (stop _ large).2.2.2 rfl
  have split : ∀ number, (natText number ++ rest).takeWhile Char.isDigit = natText number ∧
      (natText number ++ rest).dropWhile Char.isDigit = rest := fun number =>
    takeWhile_digits (fun _ member => natText_isDigit member) fun char head => (stop char head).1
  -- The digits are there, and zero is their first one only alone.
  have valid : ∀ number, ¬(natText number = [] ∨
      ((natText number).head? = some '0' ∧ (natText number).length ≠ 1) ∨
      rest.head? = some '.' ∨ rest.head? = some 'e' ∨ rest.head? = some 'E') := by
    rintro number (none | ⟨zero, more⟩ | other)
    · exact natText_ne_nil number none
    · exact more (natText_head zero)
    · exact follows other
  have unsigned : ∀ number, (natText number ++ rest).head? ≠ some '-' := by
    intro number sign
    cases digits : natText number with
    | nil => exact natText_ne_nil number digits
    | cons first others =>
      rw [digits] at sign
      have digit := @natText_isDigit number first (by simp [digits])
      obtain rfl : first = '-' := by simpa using sign
      exact absurd digit (by decide)
  -- The sign is read apart, and the digits give the number back.
  cases value with
  | ofNat number =>
    simp only [intText, readInt?, unsigned number, if_false, split number, valid number]
    simp [natText]
  | negSucc number =>
    simp only [intText, readInt?, List.cons_append, List.head?_cons, if_true, List.tail_cons,
      split (number + 1), valid (number + 1), if_false]
    simp [natText, Int.negSucc_eq]

namespace SortedMap

variable {α : Type}

/-- A key beyond all others is placed last. -/
theorem place_last {key : String} {value : α} {fields : List (String × α)}
    (last : ∀ other ∈ fields.map Prod.fst, other < key) :
    place key value fields = fields ++ [(key, value)] := by
  -- Every key on the way is smaller, so the scan gets to the end.
  induction fields with
  | nil => rfl
  | cons field rest ih =>
    obtain ⟨first, old⟩ := field
    obtain ⟨here, later⟩ := List.forall_mem_cons.mp last
    simp only [place, if_neg (not_lt.mpr here.le), if_neg here.ne', ih later, List.cons_append]

/-- A dictionary literal with ascending keys has its fields as written. -/
theorem ofList_fields {fields : List (String × α)}
    (sorted : (fields.map Prod.fst).Pairwise (· < ·)) : (ofList fields).fields = fields := by
  -- The last field is placed behind those before it.
  unfold ofList
  induction fields using List.reverseRecOn with
  | nil => rfl
  | append_singleton front field ih =>
    rw [List.map_append, List.pairwise_append] at sorted
    rw [List.foldl_append, List.foldl_cons, List.foldl_nil]
    have earlier := ih sorted.1
    have last : ∀ other ∈ front.map Prod.fst, other < field.1 := fun other member =>
      sorted.2.2 other member field.1 (by simp)
    change place field.1 field.2 (front.foldl (fun map field => map.set field.1 field.2) empty).fields = _
    rw [earlier]
    exact place_last last

end SortedMap

private theorem noNumber_items (items : List Json) (rest : List Char) : NoNumber (dumpsItems items ++ rest) := by
  intro char head
  cases items <;> simp [dumpsItems] at head <;> subst head <;> decide

private theorem noNumber_fields (fields : List (String × Json)) (rest : List Char) :
    NoNumber (dumpsFields fields ++ rest) := by
  intro char head
  cases fields <;> simp [dumpsFields] at head <;> subst head <;> decide

/-- No document begins with white space. -/
theorem skipSpace_dumps (json : Json) (rest : List Char) :
    skipSpace (json.dumps ++ rest) = json.dumps ++ rest := by
  -- The first character tells the kind of the value, and none of the kinds starts with a space.
  have lead := dumps_lead json rest
  cases text : json.dumps ++ rest with
  | nil => rfl
  | cons char tail =>
    rw [text] at lead
    have visible : isJsonSpace char = false := by
      by_contra space
      simp only [isJsonSpace, Bool.or_eq_false_iff, decide_eq_false_iff_not, not_and_or, not_not] at space
      rcases space with ((rfl | rfl) | rfl) | rfl <;> cases json <;> simp [leadKind, Json.kind] at lead
    simp [skipSpace, visible]

/-- A written string is read back. -/
theorem scanString_quote (text : String) (rest : List Char) :
    scanString? ((text.toList.flatMap escapeChar ++ '"' :: rest).length + 1)
      (text.toList.flatMap escapeChar ++ '"' :: rest) = some (text.toList, rest) := by
  refine scanString_escaped _ _ ?_
  simp only [List.length_append]
  omega

/-- A text that announces a number is read as one. -/
theorem readValue_int {text : List Char} (lead : text.head?.map leadKind = some 2) (fuel : Nat) :
    readValue? (fuel + 1) text = (readInt? text).map fun (value, rest) => (.int value, rest) := by
  -- The first character is none of those that other documents begin with.
  cases text with
  | nil => cases lead
  | cons char rest =>
    have other : char ≠ '"' ∧ char ≠ '\x7b' ∧ char ≠ '[' ∧ char ≠ 'n' ∧ char ≠ 't' ∧ char ≠ 'f' := by
      refine ⟨?_, ?_, ?_, ?_, ?_, ?_⟩ <;> rintro rfl <;> simp [leadKind] at lead
    obtain ⟨quoteMark, brace, bracket, null, yes, no⟩ := other
    simp [readValue?, quoteMark, brace, bracket, null, yes, no]

private theorem skipSpace_comma (text : List Char) : skipSpace (',' :: text) = ',' :: text := rfl

private theorem skipSpace_colon (text : List Char) : skipSpace (':' :: text) = ':' :: text := rfl

private theorem skipSpace_brace (text : List Char) : skipSpace ('\x7d' :: text) = '\x7d' :: text := rfl

private theorem skipSpace_space (text : List Char) : skipSpace (' ' :: text) = skipSpace text := rfl

/-- No key begins with white space. -/
theorem skipSpace_quote (key : String) (rest : List Char) :
    skipSpace (quote key ++ rest) = quote key ++ rest := rfl

mutual
/-- A written document is read back, with what follows it. -/
theorem readValue_dumps : ∀ (json : Json) (rest : List Char) (fuel : Nat), json.Canonical →
    NoNumber rest → json.dumps.length < fuel →
    ∃ value, readValue? fuel (json.dumps ++ rest) = some (value, rest) ∧ value.json = json
  | json, rest, 0, _, _, enough => absurd enough (Nat.not_lt_zero _)
  | .null, rest, fuel + 1, _, _, _ => by
    refine ⟨.null, ?_, rfl⟩
    simp [Json.dumps, readValue?]
  | .bool true, rest, fuel + 1, _, _, _ => by
    refine ⟨.bool true, ?_, rfl⟩
    simp [Json.dumps, readValue?]
  | .bool false, rest, fuel + 1, _, _, _ => by
    refine ⟨.bool false, ?_, rfl⟩
    simp [Json.dumps, readValue?]
  | .int value, rest, fuel + 1, _, stop, _ => by
    refine ⟨.int value, ?_, rfl⟩
    have lead := dumps_lead (.int value) rest
    simp only [Json.dumps] at lead ⊢
    -- The first character is none of the others' marks, so a number is read.
    rw [readValue_int lead, readInt_intText value stop]
    rfl
  | .str text, rest, fuel + 1, _, _, _ => by
    refine ⟨.str text, ?_, rfl⟩
    simp only [Json.dumps, quote, List.cons_append, List.append_assoc, List.nil_append, readValue?,
      scanString_quote, Option.map_some, String.ofList_toList]
  | .arr [], rest, fuel + 1, _, _, _ => by
    refine ⟨.arr [], ?_, rfl⟩
    simp [Json.dumps, readValue?, skipSpace, isJsonSpace]
  | .arr (item :: items), rest, fuel + 1, canonical, _, enough => by
    simp only [Json.dumps, List.length_cons, List.length_append] at enough
    obtain ⟨values, read, same⟩ := readItems_dumps item items rest fuel canonical (by omega)
    refine ⟨.arr values, ?_, by simp only [JsonValue.arr, same]⟩
    have skip := skipSpace_dumps item (dumpsItems items ++ rest)
    have opens := dumps_not_closing item (dumpsItems items ++ rest)
    simp only [Json.dumps, List.cons_append, List.append_assoc]
    -- The bracket is followed by an item and not by the closing bracket.
    generalize item.dumps ++ (dumpsItems items ++ rest) = text at read skip opens ⊢
    simp [readValue?, skip, read]
  | .obj [], rest, fuel + 1, _, _, _ => by
    refine ⟨.obj SortedMap.empty, ?_, rfl⟩
    simp [Json.dumps, readValue?, skipSpace, isJsonSpace]
  | .obj ((key, value) :: fields), rest, fuel + 1, canonical, _, enough => by
    simp only [Json.dumps, List.length_cons, List.length_append] at enough
    obtain ⟨values, read, same⟩ := readFields_dumps key value fields rest fuel canonical.2 (by omega)
    refine ⟨.obj (.ofList values), ?_, ?_⟩
    · have skip := skipSpace_quote key
        (':' :: ' ' :: (value.dumps ++ (dumpsFields fields ++ rest)))
      have opens : ∀ tail, quote key ++ (':' :: ' ' :: (value.dumps ++ (dumpsFields fields ++ rest))) ≠
          '\x7d' :: tail := by
        intro tail starts
        simp [quote] at starts
      simp only [Json.dumps, List.cons_append, List.append_assoc]
      -- So is the brace, by the quote of a key.
      generalize quote key ++ (':' :: ' ' :: (value.dumps ++ (dumpsFields fields ++ rest))) = text
        at read skip opens ⊢
      simp [readValue?, skip, read]
    · -- The keys were written in ascending order, so the dictionary has the fields as read.
      have keys : values.map Prod.fst = ((key, value) :: fields).map Prod.fst := by
        rw [← same, List.map_map]
        rfl
      have sorted : (values.map Prod.fst).Pairwise (· < ·) := keys ▸ canonical.1
      simp only [JsonValue.obj, JsonObject.toJson, SortedMap.ofList_fields sorted, same]

/-- Written items are read back. -/
theorem readItems_dumps : ∀ (item : Json) (items : List Json) (rest : List Char) (fuel : Nat),
    canonicalItems (item :: items) → item.dumps.length + (dumpsItems items).length < fuel →
    ∃ values, readItems? fuel (item.dumps ++ (dumpsItems items ++ rest)) = some (values, rest) ∧
      values.map JsonValue.json = item :: items
  | item, items, rest, 0, _, enough => absurd enough (Nat.not_lt_zero _)
  | item, [], rest, fuel + 1, canonical, enough => by
    simp only [dumpsItems, List.length_cons, List.length_nil] at enough
    obtain ⟨value, read, same⟩ := readValue_dumps item (dumpsItems [] ++ rest) fuel canonical.1
      (noNumber_items [] rest) (by omega)
    refine ⟨[value], ?_, by simp [same]⟩
    simp only [readItems?, read]
    rfl
  | item, second :: items, rest, fuel + 1, canonical, enough => by
    simp only [dumpsItems, List.length_cons, List.length_append] at enough
    obtain ⟨value, read, same⟩ := readValue_dumps item (dumpsItems (second :: items) ++ rest) fuel
      canonical.1 (noNumber_items _ rest) (by omega)
    obtain ⟨values, later, others⟩ := readItems_dumps second items rest fuel canonical.2 (by omega)
    refine ⟨value :: values, ?_, by simp [same, others]⟩
    simp only [dumpsItems, List.cons_append, List.append_assoc] at read ⊢
    simp only [readItems?, read, skipSpace_comma, skipSpace_space, skipSpace_dumps, later,
      Option.map_some]

/-- Written fields are read back. -/
theorem readFields_dumps : ∀ (key : String) (value : Json) (fields : List (String × Json))
    (rest : List Char) (fuel : Nat), canonicalFields ((key, value) :: fields) →
    value.dumps.length + (dumpsFields fields).length < fuel →
    ∃ values, readFields? fuel (quote key ++ (':' :: ' ' :: (value.dumps ++ (dumpsFields fields ++ rest)))) =
        some (values, rest) ∧
      values.map (fun field => (field.1, field.2.json)) = (key, value) :: fields
  | key, value, fields, rest, 0, _, enough => absurd enough (Nat.not_lt_zero _)
  | key, value, [], rest, fuel + 1, canonical, enough => by
    simp only [dumpsFields, List.length_cons, List.length_nil] at enough
    obtain ⟨first, read, same⟩ := readValue_dumps value (dumpsFields [] ++ rest) fuel canonical.1
      (noNumber_fields [] rest) (by omega)
    refine ⟨[(key, first)], ?_, by simp [same]⟩
    simp only [dumpsFields, List.cons_append, List.nil_append] at read ⊢
    simp only [quote, List.cons_append, List.append_assoc, List.nil_append, readFields?,
      scanString_quote, skipSpace_colon, skipSpace_space, skipSpace_dumps, read, skipSpace_brace,
      String.ofList_toList]
  | key, value, (second, other) :: fields, rest, fuel + 1, canonical, enough => by
    simp only [dumpsFields, List.length_cons, List.length_append] at enough
    obtain ⟨first, read, same⟩ := readValue_dumps value (dumpsFields ((second, other) :: fields) ++ rest)
      fuel canonical.1 (noNumber_fields _ rest) (by omega)
    obtain ⟨values, later, others⟩ := readFields_dumps second other fields rest fuel canonical.2 (by omega)
    refine ⟨(key, first) :: values, ?_, by simp [same, others]⟩
    simp only [dumpsFields, List.cons_append, List.append_assoc] at read ⊢
    rw [quote, List.cons_append]
    simp only [List.append_assoc, List.cons_append, List.nil_append, readFields?,
      scanString_quote, skipSpace_colon, skipSpace_space, skipSpace_dumps, read, skipSpace_comma,
      skipSpace_quote, later, Option.map_some, String.ofList_toList]
end

/-- `json.loads` inverts `json.dumps` on values. -/
theorem loads_dumps (value : JsonValue) : loads value.json.dumps = some value := by
  -- The text is long enough for its own reading, and nothing is left of it.
  have stop : NoNumber [] := fun _ contradiction => by cases contradiction
  obtain ⟨read, returned, same⟩ := readValue_dumps value.json [] (value.json.dumps.length + 1)
    value.canonical stop (Nat.lt_succ_self _)
  have skip := skipSpace_dumps value.json []
  rw [List.append_nil] at returned skip
  rw [loads, skip, returned, JsonValue.ext same]
  rfl

end Python
