import JolCommerce.Python.Json

/-! The JSON writer is injective: the text of a document determines the document. -/

namespace Python

/-- What follows a value in a document never continues a number. -/
def NoDigit (rest : List Char) : Prop :=
  ∀ char, rest.head? = some char → char.isDigit = false

private theorem digits_split {left right leftRest rightRest : List Char}
    (leftDigits : ∀ char ∈ left, char.isDigit = true)
    (rightDigits : ∀ char ∈ right, char.isDigit = true)
    (leftStop : NoDigit leftRest) (rightStop : NoDigit rightRest)
    (same : left ++ leftRest = right ++ rightRest) : left = right ∧ leftRest = rightRest := by
  -- A digit on one side cannot face the non-digit that ends the run on the other.
  induction left generalizing right with
  | nil =>
    cases right with
    | nil => exact ⟨rfl, same⟩
    | cons char right =>
      have stop := leftStop char (by rw [List.nil_append] at same; simp [same])
      have digit := rightDigits char (by simp)
      simp [digit] at stop
  | cons char left ih =>
    cases right with
    | nil =>
      have stop := rightStop char (by rw [List.nil_append] at same; simp [← same])
      have digit := leftDigits char (by simp)
      simp [digit] at stop
    | cons other right =>
      simp only [List.cons_append, List.cons.injEq] at same
      obtain ⟨front, back⟩ := ih (fun c member => leftDigits c (by simp [member]))
        (fun c member => rightDigits c (by simp [member])) same.2
      exact ⟨by rw [same.1, front], back⟩

/-- The four hexadecimal digits of a code unit. -/
def hexQuad? (first second third fourth : Char) : Option Nat :=
  -- Most significant digit first.
  match alphanumericDigit? first, alphanumericDigit? second,
      alphanumericDigit? third, alphanumericDigit? fourth with
  | some a, some b, some c, some d => some (((a * 16 + b) * 16 + c) * 16 + d)
  | _, _, _, _ => none

/-- Read what follows a backslash in a string literal. -/
def unescapeRest? : List Char → Option (Char × List Char)
  | 'u' :: a :: b :: c :: d :: rest =>
    match hexQuad? a b c d with
    | none => none
    | some unit =>
      if 0xD800 ≤ unit ∧ unit < 0xDC00 then
        -- A high surrogate is followed by its low half.
        match rest with
        | '\\' :: 'u' :: e :: f :: g :: h :: tail =>
          (hexQuad? e f g h).map fun low =>
            (Char.ofNat (0x10000 + (unit - 0xD800) * 0x400 + (low - 0xDC00)), tail)
        | _ => none
      else some (Char.ofNat unit, rest)
  | 'n' :: rest => some ('\n', rest)
  | 'r' :: rest => some ('\r', rest)
  | 't' :: rest => some ('\t', rest)
  | 'f' :: rest => some (Char.ofNat 12, rest)
  | 'b' :: rest => some (Char.ofNat 8, rest)
  | char :: rest => some (char, rest)
  | [] => none

/-- Read one character of a string literal back. -/
def unescapeChar? : List Char → Option (Char × List Char)
  | [] => none
  | char :: rest => if char = '\\' then unescapeRest? rest else some (char, rest)

private theorem alphanumericDigit_digitChar {value : Nat} (small : value < 16) :
    alphanumericDigit? (Nat.digitChar value) = some value := by
  -- A hexadecimal digit reads back as its value.
  have table : ∀ digit < 16, alphanumericDigit? (Nat.digitChar digit) = some digit := by decide
  exact table value small

private theorem hexQuad_hexText {unit : Nat} (small : unit < 0x10000) :
    ∃ a b c d, hexText 4 unit = [a, b, c, d] ∧ hexQuad? a b c d = some unit := by
  -- Each digit is one remainder modulo sixteen.
  refine ⟨_, _, _, _, rfl, ?_⟩
  simp only [hexQuad?, alphanumericDigit_digitChar (Nat.mod_lt _ (by decide : 0 < 16)),
    Option.some.injEq]
  omega

private theorem unescape_unit {unit : Nat} (small : unit < 0x10000)
    (plain : ¬(0xD800 ≤ unit ∧ unit < 0xDC00)) (rest : List Char) :
    unescapeChar? ('\\' :: 'u' :: (hexText 4 unit ++ rest)) = some (Char.ofNat unit, rest) := by
  -- A written code unit outside the high surrogates reads back as its character.
  obtain ⟨a, b, c, d, written, read⟩ := hexQuad_hexText small
  simp [written, unescapeChar?, unescapeRest?, read, plain]

private theorem unescape_pair {high low : Nat} (highSmall : high < 0x400) (lowSmall : low < 0x400)
    (rest : List Char) :
    unescapeChar? ('\\' :: 'u' :: (hexText 4 (0xD800 + high) ++
      ('\\' :: 'u' :: (hexText 4 (0xDC00 + low) ++ rest)))) =
      some (Char.ofNat (0x10000 + high * 0x400 + low), rest) := by
  -- A written surrogate pair reads back as the character it stands for.
  obtain ⟨a, b, c, d, highWritten, highRead⟩ :=
    hexQuad_hexText (show 0xD800 + high < 0x10000 by omega)
  obtain ⟨e, f, g, h, lowWritten, lowRead⟩ :=
    hexQuad_hexText (show 0xDC00 + low < 0x10000 by omega)
  have surrogate : 0xD800 ≤ 0xD800 + high ∧ 0xD800 + high < 0xDC00 := by omega
  simp only [highWritten, lowWritten, List.cons_append, List.nil_append, unescapeChar?, if_true,
    unescapeRest?, highRead, if_pos surrogate, lowRead, Option.map_some]
  simp

/-- Reading the literal form of a character gives the character back. -/
theorem unescape_escape (char : Char) (rest : List Char) :
    unescapeChar? (escapeChar char ++ rest) = some (char, rest) := by
  -- The cases are those of the writer: short escapes, plain ASCII, one unit, a surrogate pair.
  have rebuilt : Char.ofNat char.toNat = char := Char.ofNat_toNat char
  have short : ∀ code : Nat, char.toNat = code → char = Char.ofNat code := fun code equal => by
    rw [← equal, rebuilt]
  simp only [escapeChar]
  split_ifs with quoteMark backslash newline carriage tab feed back plain basic
  · rw [short 34 quoteMark]; rfl
  · rw [short 92 backslash]; rfl
  · rw [short 10 newline]; rfl
  · rw [short 13 carriage]; rfl
  · rw [short 9 tab]; rfl
  · rw [short 12 feed]; rfl
  · rw [short 8 back]; rfl
  · have notBackslash : char ≠ '\\' := fun equal => backslash (by rw [equal]; rfl)
    simp [unescapeChar?, notBackslash]
  · -- A character is never a surrogate code point.
    have valid := char.valid
    have outside : ¬(0xD800 ≤ char.toNat ∧ char.toNat < 0xDC00) := by
      rcases valid with low | high
      · have : char.toNat < 0xD800 := low
        omega
      · have : 0xDFFF < char.toNat := high.1
        omega
    simp only [List.cons_append]
    rw [unescape_unit basic outside, rebuilt]
  -- Beyond the basic plane the two surrogates carry ten bits each.
  · have bound : char.toNat < 0x110000 := by
      rcases char.valid with low | high
      · have : char.toNat < 0xD800 := low
        omega
      · exact high.2
    have value : 0x10000 + (char.toNat - 0x10000) / 0x400 * 0x400 +
        (char.toNat - 0x10000) % 0x400 = char.toNat := by omega
    simp only [List.cons_append, List.append_assoc]
    rw [unescape_pair (by omega) (by omega), value, rebuilt]

/-- No literal form of a character begins with a bare quote. -/
theorem escapeChar_head (char : Char) (rest tail : List Char) :
    escapeChar char ++ rest ≠ '"' :: tail := by
  -- A bare quote would read back as a quote, whose written form starts with a backslash.
  intro starts
  have read := unescape_escape char rest
  rw [starts] at read
  have isQuote : '"' = char ∧ tail = rest := by simpa [unescapeChar?] using read
  rw [← isQuote.1] at starts
  simp [escapeChar] at starts

/-- Literal bodies that end at their closing quotes agree with their continuations. -/
theorem escaped_split {left right leftRest rightRest : List Char}
    (same : left.flatMap escapeChar ++ '"' :: leftRest =
      right.flatMap escapeChar ++ '"' :: rightRest) : left = right ∧ leftRest = rightRest := by
  -- Characters are read back one at a time from both sides.
  induction left generalizing right with
  | nil =>
    cases right with
    | nil => exact ⟨rfl, by simpa using same⟩
    | cons char right =>
      simp only [List.flatMap_nil, List.nil_append, List.flatMap_cons, List.append_assoc] at same
      exact absurd same.symm (escapeChar_head char _ _)
  | cons char left ih =>
    cases right with
    | nil =>
      simp only [List.flatMap_nil, List.nil_append, List.flatMap_cons, List.append_assoc] at same
      exact absurd same (escapeChar_head char _ _)
    | cons other right =>
      simp only [List.flatMap_cons, List.append_assoc] at same
      have read := unescape_escape char (left.flatMap escapeChar ++ '"' :: leftRest)
      rw [same, unescape_escape, Option.some.injEq, Prod.mk.injEq] at read
      obtain ⟨front, back⟩ := ih read.2.symm
      exact ⟨by rw [read.1, front], back⟩

/-- Quoted strings agree with their continuations. -/
theorem quote_split {left right : String} {leftRest rightRest : List Char}
    (same : quote left ++ leftRest = quote right ++ rightRest) :
    left = right ∧ leftRest = rightRest := by
  simp only [quote, List.cons_append, List.append_assoc, List.nil_append, List.cons.injEq,
    true_and] at same
  -- Past the opening quote the bodies are read character by character.
  obtain ⟨body, rest⟩ := escaped_split same
  exact ⟨String.toList_injective body, rest⟩

/-- Integers agree with their continuations when no digit follows them. -/
theorem intText_split {left right : Int} {leftRest rightRest : List Char}
    (leftStop : NoDigit leftRest) (rightStop : NoDigit rightRest)
    (same : intText left ++ leftRest = intText right ++ rightRest) :
    left = right ∧ leftRest = rightRest := by
  -- A minus sign is not a digit, so signs agree before the digits are compared.
  have digits {value : Nat} : ∀ char ∈ natText value, char.isDigit = true :=
    fun _ member => natText_isDigit member
  have unsigned {value : Nat} {rest tail : List Char} : natText value ++ rest ≠ '-' :: tail := by
    intro starts
    cases written : natText value with
    | nil => exact natText_ne_nil value written
    | cons char front =>
      rw [written, List.cons_append, List.cons.injEq] at starts
      have digit := digits char (by rw [written]; simp)
      rw [starts.1] at digit
      exact absurd digit (by decide)
  -- Four combinations of signs, two of which cannot write the same text.
  cases left with
  | ofNat left =>
    cases right with
    | ofNat right =>
      obtain ⟨front, back⟩ := digits_split digits digits leftStop rightStop same
      exact ⟨congrArg Int.ofNat (natText_injective front), back⟩
    | negSucc right => exact absurd same unsigned
  | negSucc left =>
    cases right with
    | ofNat right => exact absurd same.symm unsigned
    | negSucc right =>
      simp only [intText, List.cons_append, List.cons.injEq, true_and] at same
      obtain ⟨front, back⟩ := digits_split digits digits leftStop rightStop same
      have values := natText_injective front
      exact ⟨by rw [show left = right by omega], back⟩

/-- The constructor of a document. -/
def Json.kind : Json → Nat
  | .null => 0
  | .bool _ => 1
  | .int _ => 2
  | .str _ => 3
  | .arr _ => 4
  | .obj _ => 5

/-- The constructor that a first character announces. -/
def leadKind (char : Char) : Nat :=
  if char = 'n' then 0
  else if char = 't' ∨ char = 'f' then 1
  else if char = '"' then 3
  else if char = '[' then 4
  else if char = '\x7b' then 5
  else if char.isDigit ∨ char = '-' then 2
  else 6

private theorem intText_lead (value : Int) (rest : List Char) :
    (intText value ++ rest).head?.map leadKind = some 2 := by
  -- An integer starts with a digit or a sign, which no other document does.
  have digitKind : ∀ char : Char, char.isDigit = true → leadKind char = 2 := by
    intro char digit
    simp only [leadKind]
    split_ifs with first second third fourth fifth
    · subst first; exact absurd digit (by decide)
    · rcases second with equal | equal <;> subst equal <;> exact absurd digit (by decide)
    · subst third; exact absurd digit (by decide)
    · subst fourth; exact absurd digit (by decide)
    · subst fifth; exact absurd digit (by decide)
    · rfl
    · rename_i neither
      exact absurd (Or.inl digit) neither
  -- The first character is the sign or the leading digit.
  cases value with
  | ofNat value =>
    cases written : natText value with
    | nil => exact absurd written (natText_ne_nil value)
    | cons char front =>
      have digit := @natText_isDigit value char (by rw [written]; simp)
      simp [intText, written, digitKind char digit]
  | negSucc value =>
    simp only [intText, List.cons_append, List.head?_cons, Option.map_some]
    decide

/-- The first character of a document announces its constructor. -/
theorem dumps_lead (json : Json) (rest : List Char) :
    (json.dumps ++ rest).head?.map leadKind = some json.kind := by
  -- Only integers have a variable first character.
  match json with
  | .null => simp only [Json.dumps]; rfl
  | .bool true => simp only [Json.dumps]; rfl
  | .bool false => simp only [Json.dumps]; rfl
  | .int value =>
    simp only [Json.dumps]
    exact intText_lead value rest
  | .str text => simp only [Json.dumps, quote]; rfl
  | .arr [] => simp only [Json.dumps]; rfl
  | .arr (item :: items) => simp only [Json.dumps]; rfl
  | .obj [] => simp only [Json.dumps]; rfl
  | .obj ((key, value) :: fields) => simp only [Json.dumps]; rfl

/-- No document starts with a closing bracket. -/
theorem dumps_not_closing (json : Json) (rest tail : List Char) : json.dumps ++ rest ≠ ']' :: tail := by
  -- The bracket announces nothing.
  intro starts
  have lead := dumps_lead json rest
  rw [starts] at lead
  cases json <;> simp [leadKind, Json.kind] at lead

private theorem noDigit_items (items : List Json) (rest : List Char) : NoDigit (dumpsItems items ++ rest) := by
  -- The text after an item never continues a number.
  intro char head
  cases items <;> simp [dumpsItems] at head <;> subst head <;> decide

private theorem noDigit_fields (fields : List (String × Json)) (rest : List Char) :
    NoDigit (dumpsFields fields ++ rest) := by
  -- The text after a field never continues a number.
  intro char head
  cases fields <;> simp [dumpsFields] at head <;> subst head <;> decide

mutual
/-- Documents agree with their continuations when no digit follows them. -/
theorem dumps_split : ∀ (left right : Json) {leftRest rightRest : List Char},
    NoDigit leftRest → NoDigit rightRest →
    left.dumps ++ leftRest = right.dumps ++ rightRest → left = right ∧ leftRest = rightRest
  | left, right, leftRest, rightRest, leftStop, rightStop, same => by
    -- Equal first characters announce equal constructors.
    have kinds : left.kind = right.kind := by
      have leads := congrArg (fun text => text.head?.map leadKind) same
      simpa only [dumps_lead, Option.some.injEq] using leads
    match left, right with
    | .null, .null => exact ⟨rfl, by simpa [Json.dumps] using same⟩
    | .bool true, .bool true => exact ⟨rfl, by simpa [Json.dumps] using same⟩
    | .bool true, .bool false => simp [Json.dumps] at same
    | .bool false, .bool true => simp [Json.dumps] at same
    | .bool false, .bool false => exact ⟨rfl, by simpa [Json.dumps] using same⟩
    | .int left, .int right =>
      obtain ⟨value, rest⟩ := intText_split leftStop rightStop (by simpa [Json.dumps] using same)
      exact ⟨by rw [value], rest⟩
    | .str left, .str right =>
      obtain ⟨text, rest⟩ := quote_split (by simpa [Json.dumps] using same)
      exact ⟨by rw [text], rest⟩
    | .arr [], .arr [] => exact ⟨rfl, by simpa [Json.dumps] using same⟩
    -- An item does not start with the bracket that closes the other list.
    | .arr [], .arr (item :: items) =>
      simp only [Json.dumps, List.cons_append, List.append_assoc, List.nil_append, List.cons.injEq,
        true_and] at same
      exact absurd same.symm (dumps_not_closing item _ _)
    | .arr (item :: items), .arr [] =>
      simp only [Json.dumps, List.cons_append, List.append_assoc, List.nil_append, List.cons.injEq,
        true_and] at same
      exact absurd same (dumps_not_closing item _ _)
    | .arr (item :: items), .arr (other :: others) =>
      simp only [Json.dumps, List.cons_append, List.append_assoc, List.cons.injEq, true_and] at same
      obtain ⟨first, rest⟩ := dumps_split item other (noDigit_items items leftRest)
        (noDigit_items others rightRest) same
      obtain ⟨later, rest⟩ := dumpsItems_split items others rest
      exact ⟨by rw [first, later], rest⟩
    | .obj [], .obj [] => exact ⟨rfl, by simpa [Json.dumps] using same⟩
    | .obj [], .obj ((key, value) :: fields) => simp [Json.dumps, quote] at same
    | .obj ((key, value) :: fields), .obj [] => simp [Json.dumps, quote] at same
    | .obj ((key, value) :: fields), .obj ((otherKey, otherValue) :: others) =>
      simp only [Json.dumps, List.cons_append, List.append_assoc, List.cons.injEq, true_and] at same
      obtain ⟨name, rest⟩ := quote_split same
      simp only [List.cons.injEq, true_and] at rest
      obtain ⟨first, rest⟩ := dumps_split value otherValue (noDigit_fields fields leftRest)
        (noDigit_fields others rightRest) rest
      obtain ⟨later, rest⟩ := dumpsFields_split fields others rest
      exact ⟨by rw [name, first, later], rest⟩
    -- Two different kinds start with different characters.
    | .null, .bool _ | .null, .int _ | .null, .str _ | .null, .arr _ | .null, .obj _
    | .bool _, .null | .bool _, .int _ | .bool _, .str _ | .bool _, .arr _ | .bool _, .obj _
    | .int _, .null | .int _, .bool _ | .int _, .str _ | .int _, .arr _ | .int _, .obj _
    | .str _, .null | .str _, .bool _ | .str _, .int _ | .str _, .arr _ | .str _, .obj _
    | .arr _, .null | .arr _, .bool _ | .arr _, .int _ | .arr _, .str _ | .arr _, .obj _
    | .obj _, .null | .obj _, .bool _ | .obj _, .int _ | .obj _, .str _ | .obj _, .arr _ =>
      simp [Json.kind] at kinds

/-- The remaining items agree with their continuations. -/
theorem dumpsItems_split : ∀ (left right : List Json) {leftRest rightRest : List Char},
    dumpsItems left ++ leftRest = dumpsItems right ++ rightRest →
    left = right ∧ leftRest = rightRest
  | [], [], _, _, same => ⟨rfl, by simpa [dumpsItems] using same⟩
  | [], _ :: _, _, _, same => by simp [dumpsItems] at same
  | _ :: _, [], _, _, same => by simp [dumpsItems] at same
  | item :: left, other :: right, leftRest, rightRest, same => by
    simp only [dumpsItems, List.cons_append, List.append_assoc, List.cons.injEq, true_and] at same
    obtain ⟨first, rest⟩ := dumps_split item other (noDigit_items left leftRest)
      (noDigit_items right rightRest) same
    obtain ⟨items, rest⟩ := dumpsItems_split left right rest
    exact ⟨by rw [first, items], rest⟩

/-- The remaining fields agree with their continuations. -/
theorem dumpsFields_split : ∀ (left right : List (String × Json)) {leftRest rightRest : List Char},
    dumpsFields left ++ leftRest = dumpsFields right ++ rightRest →
    left = right ∧ leftRest = rightRest
  | [], [], _, _, same => ⟨rfl, by simpa [dumpsFields] using same⟩
  | [], (_, _) :: _, _, _, same => by simp [dumpsFields] at same
  | (_, _) :: _, [], _, _, same => by simp [dumpsFields] at same
  | (key, value) :: left, (otherKey, otherValue) :: right, leftRest, rightRest, same => by
    simp only [dumpsFields, List.cons_append, List.append_assoc, List.cons.injEq, true_and] at same
    obtain ⟨name, rest⟩ := quote_split same
    simp only [List.cons.injEq, true_and] at rest
    obtain ⟨first, rest⟩ := dumps_split value otherValue (noDigit_fields left leftRest)
      (noDigit_fields right rightRest) rest
    obtain ⟨fields, rest⟩ := dumpsFields_split left right rest
    exact ⟨by rw [name, first, fields], rest⟩
end

/-- Documents with the same text are the same document. -/
theorem dumps_injective : Function.Injective Json.dumps := by
  intro left right same
  -- A whole document is followed by nothing, so by no digit.
  have stop : NoDigit [] := by simp [NoDigit]
  exact (dumps_split left right stop stop (by rw [same])).1

end Python
