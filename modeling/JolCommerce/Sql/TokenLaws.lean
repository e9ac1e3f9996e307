import JolCommerce.Sql.Tokens

/-! Literals and numeric constants are read as the tokens they were written for, and no others are. -/

namespace Sql

/-- What holds of all characters of a text holds of the first one and of the others. -/
theorem of_all_cons {test : Char → Bool} {char : Char} {rest : List Char}
    (all : (char :: rest).all test = true) : test char = true ∧ rest.all test = true := by
  simpa using all

/-- Content with every quote doubled, as it is written between quotes. -/
def doubled (quote : Char) (content : List Char) : List Char :=
  content.flatMap fun char => if char = quote then [quote, quote] else [char]

/-- Doubling keeps every character. -/
theorem mem_doubled {quote char : Char} {content : List Char} :
    char ∈ doubled quote content ↔ char ∈ content := by
  -- Each character is written as itself, once or twice.
  have written : ∀ other : Char, char ∈ (if other = quote then [quote, quote] else [other]) ↔
      char = other := by
    intro other
    split <;> simp [*]
  simp [doubled, written]

/-- Between quotes the doubled content reads as the content, up to a quote that nothing continues. -/
theorem quotedFrom_doubled (content : List Char) {rest : List Char} (single : rest.head? ≠ some '\'')
    (final : gapFrom false false rest = none) :
    quotedFrom '\'' false 0 (doubled '\'' content ++ '\'' :: rest) =
      some (content, (doubled '\'' content).length + 1) := by
  -- One character of the content is read at a time, a quote as the two it was doubled to.
  induction content with
  | nil => simp [doubled, quotedFrom, single, final]
  | cons char content ih =>
    by_cases quote : char = '\''
    · subst quote
      have written : doubled '\'' ('\'' :: content) = '\'' :: '\'' :: doubled '\'' content := rfl
      simp [written, quotedFrom, ih]
    · have written : doubled '\'' (char :: content) = char :: doubled '\'' content := by
        simp [doubled, quote]
      simp [written, quotedFrom, quote, ih]

/-- The characters of a token already recognised are skipped. -/
theorem tokensFrom_skip (read : List Token) (front rest : List Char) :
    tokensFrom read front.length (front ++ rest) = tokensFrom read 0 rest := by
  induction front with
  | nil => rfl
  | cons char front ih => exact ih

/-- A token that a text begins with is the next one read. -/
theorem tokensFrom_lexeme (read : List Token) {char : Char} {text rest : List Char}
    {token : Option Token} (begins : lexeme? char (text ++ rest) = some (token, text.length + 1)) :
    tokensFrom read 0 (char :: (text ++ rest)) = tokensFrom (token.toList ++ read) 0 rest := by
  rw [tokensFrom, begins]
  exact tokensFrom_skip (token.toList ++ read) text rest

/-- A literal is read as one token, whatever it says. -/
theorem tokensFrom_literal (read : List Token) (content : List Char) {rest : List Char}
    (single : rest.head? ≠ some '\'') (final : gapFrom false false rest = none) :
    tokensFrom read 0 ('\'' :: doubled '\'' content ++ '\'' :: rest) =
      tokensFrom (.literal content :: read) 0 rest := by
  have begins : lexeme? '\'' ((doubled '\'' content ++ ['\'']) ++ rest) =
      some (some (.literal content), (doubled '\'' content ++ ['\'']).length + 1) := by
    simp [lexeme?, beginsNumber, isBlank, mark?, quotedLexeme?, quotedToken,
      quotedFrom_doubled content single final]
  simpa using tokensFrom_lexeme read begins

/-- Characters that end a number when they follow it. -/
def endsNumber (char : Char) : Bool := !char.isDigit && char != '.' && !beginsWord char

/-- Blanks do. -/
theorem endsNumber_of_isBlank {char : Char} (blank : isBlank char = true) : endsNumber char = true := by
  have listed : char ∈ [' ', '\t', '\n', '\r', '\x0c'] := by simpa [isBlank, or_assoc] using blank
  have ends : [' ', '\t', '\n', '\r', '\x0c'].all endsNumber = true := by decide
  exact List.all_eq_true.mp ends char listed

/-- Blanks are no tokens. -/
theorem tokensFrom_blanks (read : List Token) {blanks : List Char} (blank : blanks.all isBlank = true)
    (rest : List Char) : tokensFrom read 0 (blanks ++ rest) = tokensFrom read 0 rest := by
  -- Each blank is read on its own and adds no token.
  induction blanks with
  | nil => rfl
  | cons char blanks ih =>
    obtain ⟨here, later⟩ := of_all_cons blank
    have noNumber : ∀ rest, beginsNumber char rest = false := by
      intro rest
      have ends := endsNumber_of_isBlank here
      simp only [endsNumber, Bool.and_eq_true, Bool.not_eq_true', bne_iff_ne] at ends
      simp [beginsNumber, ends]
    have begins : lexeme? char ([] ++ (blanks ++ rest)) = some (none, 0 + 1) := by
      simp [lexeme?, noNumber, here]
    exact (tokensFrom_lexeme read begins).trans (ih later)

/-- A fraction, with or without digits behind its point, or none. -/
def IsFraction (text : List Char) : Prop :=
  text = [] ∨ ∃ value, text = '.' :: value ∧ value.all Char.isDigit = true

/-- An exponent with its mark, sign and digits, or none. -/
def IsExponent (text : List Char) : Prop :=
  text = [] ∨ ∃ mark sign power, text = mark :: sign ++ power ∧ (mark = 'e' ∨ mark = 'E') ∧
    (sign = [] ∨ sign = ['+'] ∨ sign = ['-']) ∧ power ≠ [] ∧ power.all Char.isDigit = true

/-- A numeric constant: digits with at most one point among them, and perhaps an exponent. -/
def IsNumeral (text : List Char) : Prop :=
  ∃ whole point power, text = whole ++ point ++ power ∧ whole.all Char.isDigit = true ∧
    IsFraction point ∧ IsExponent power ∧ (whole ++ point).any Char.isDigit = true


/-- The digits read from the front are digits. -/
theorem digits_isDigit (text : List Char) : (digits text).all Char.isDigit = true := by
  simp [digits]

/-- Digits are read up to the first other character. -/
theorem digits_append {value : List Char} (numeric : value.all Char.isDigit = true) {rest : List Char}
    (stops : rest.head?.all (fun char => !char.isDigit) = true) : digits (value ++ rest) = value := by
  have ended : rest.takeWhile Char.isDigit = [] := by
    cases rest with
    | nil => rfl
    | cons char rest =>
      have other : char.isDigit = false := by simpa using stops
      simp [other]
  rw [digits, List.takeWhile_append_of_pos (by simpa using numeric), ended, List.append_nil]

/-- What is read as a fraction is one. -/
theorem isFraction_fraction (text : List Char) : IsFraction (fraction text) := by
  unfold fraction
  split
  · exact .inl rfl
  · exact .inr ⟨_, rfl, digits_isDigit _⟩
  · exact .inl rfl

/-- What is read as an exponent is one. -/
theorem isExponent_exponent {text power : List Char} (read : exponent? text = some power) :
    IsExponent power := by
  cases text with
  | nil =>
    cases read
    exact .inl rfl
  | cons mark rest =>
    simp only [exponent?] at read
    split at read
    · rename_i marked
      split at read
      · cases read
      · rename_i given
        cases read
        -- At most one sign is read.
        have sign : ∀ text : List Char, (text.take 1).takeWhile isSign = [] ∨
            (text.take 1).takeWhile isSign = ['+'] ∨ (text.take 1).takeWhile isSign = ['-'] := by
          intro text
          cases text with
          | nil => exact .inl rfl
          | cons char text =>
            by_cases plus : char = '+'
            · exact .inr (.inl (by simp [isSign, plus]))
            · by_cases minus : char = '-'
              · exact .inr (.inr (by simp [isSign, minus]))
              · exact .inl (by simp [isSign, plus, minus])
        exact .inr ⟨mark, _, _, rfl, marked, sign rest, given, digits_isDigit _⟩
    · cases read
      exact .inl rfl

/-- What is read as a number is a numeric constant. -/
theorem isNumeral_number {char : Char} {rest number : List Char}
    (begins : beginsNumber char rest = true) (read : number? (char :: rest) = some number) :
    IsNumeral number := by
  simp only [number?] at read
  split at read
  · cases read
  · rename_i power powered
    split at read
    · cases read
    · cases read
      refine ⟨_, _, power, rfl, digits_isDigit _, isFraction_fraction _,
        isExponent_exponent powered, ?_⟩
      -- The first character is a digit, or the one behind it is.
      by_cases digit : char.isDigit = true
      · simp [digits, digit]
      · simp only [beginsNumber, digit, Bool.false_or, Bool.and_eq_true, decide_eq_true_eq] at begins
        obtain ⟨rfl, behind⟩ := begins
        cases rest with
        | nil => cases behind
        | cons next rest =>
          have other : next ≠ '.' := by
            rintro rfl
            cases behind
          have numeric : next.isDigit = true := behind
          simp [digits, fraction, numeric, other]

/-- A fraction is read up to what is neither a digit nor a point. -/
theorem fraction_append {point : List Char} (pointed : IsFraction point) {rest : List Char}
    (stops : rest.head?.all (fun char => !char.isDigit && char != '.') = true) :
    fraction (point ++ rest) = point := by
  -- No second point follows the first one.
  have noDigit : rest.head?.all (fun char => !char.isDigit) = true := by
    cases rest <;> simp_all
  have notPoint : ∀ more, rest ≠ '.' :: more := by
    rintro more rfl
    simp at stops
  rcases pointed with rfl | ⟨value, rfl, numeric⟩
  · cases rest with
    | nil => rfl
    | cons char rest =>
      have other : char ≠ '.' := fun point => notPoint rest (congrArg (· :: rest) point)
      simp [fraction, other]
  · rw [List.cons_append]
    unfold fraction
    split
    · rename_i more same
      cases value with
      | nil => exact absurd (List.cons.inj same).2 (notPoint _)
      | cons digit value =>
        obtain ⟨rfl, -⟩ := List.cons.inj (List.cons.inj same).2
        cases (of_all_cons numeric).1
    · rename_i more other same
      cases (List.cons.inj same).2
      rw [digits_append numeric noDigit]
    · rename_i other
      exact absurd rfl (other _)

/-- An exponent is read up to what begins no word and is no digit. -/
theorem exponent_append {power : List Char} (powered : IsExponent power) {rest : List Char}
    (ended : rest.head?.all endsNumber = true) : exponent? (power ++ rest) = some power := by
  have noDigit : rest.head?.all (fun char => !char.isDigit) = true := by
    cases rest <;> simp_all [endsNumber]
  rcases powered with rfl | ⟨mark, sign, value, rfl, marked, signed, given, numeric⟩
  · cases rest with
    | nil => rfl
    | cons char rest =>
      -- A mark would begin a word.
      have unmarked : ¬(char = 'e' ∨ char = 'E') := by
        rintro (rfl | rfl) <;> cases ended
      simp [exponent?, unmarked]
  · have signRead : ((sign ++ (value ++ rest)).take 1).takeWhile isSign = sign := by
      rcases signed with rfl | rfl | rfl
      · obtain ⟨digit, value, rfl⟩ := List.exists_cons_of_ne_nil given
        have plain : isSign digit = false := by
          have isDigit : digit.isDigit = true :=
            (of_all_cons numeric).1
          have notPlus : digit ≠ '+' := by rintro rfl; cases isDigit
          have notMinus : digit ≠ '-' := by rintro rfl; cases isDigit
          simp [isSign, notPlus, notMinus]
        simp [plain]
      · rfl
      · rfl
    have valueRead : digits ((sign ++ (value ++ rest)).drop sign.length) = value := by
      rw [List.drop_left]
      exact digits_append numeric noDigit
    simp only [List.cons_append, List.append_assoc, exponent?, if_pos marked, signRead, valueRead,
      if_neg given]

/-- A numeric constant is read as one number when what follows it ends it. -/
theorem number_numeral {number : List Char} (numeral : IsNumeral number) {rest : List Char}
    (ended : rest.head?.all endsNumber = true) : number? (number ++ rest) = some number := by
  -- Its three parts are read one after the other, each up to the next.
  obtain ⟨whole, point, power, rfl, wholeDigits, pointed, powered, -⟩ := numeral
  have powerStops : (power ++ rest).head?.all (fun char => !char.isDigit && char != '.') = true := by
    rcases powered with rfl | ⟨mark, sign, value, rfl, rfl | rfl, -⟩
    · cases rest <;> simp_all [endsNumber]
    · rfl
    · rfl
  have pointStops : (point ++ (power ++ rest)).head?.all (fun char => !char.isDigit) = true := by
    rcases pointed with rfl | ⟨value, rfl, -⟩
    · rw [List.nil_append]
      revert powerStops
      cases (power ++ rest).head? <;> simp +contextual
    · rfl
  have wholeRead : digits (whole ++ (point ++ (power ++ rest))) = whole :=
    digits_append wholeDigits pointStops
  have unjoined : rest.head?.any beginsWord = false := by
    cases rest <;> simp_all [endsNumber]
  have pointRead := fraction_append pointed powerStops
  have powerRead := exponent_append powered ended
  have behindWhole : (whole ++ (point ++ (power ++ rest))).drop whole.length =
      point ++ (power ++ rest) := List.drop_left
  have behindPoint : (whole ++ (point ++ (power ++ rest))).drop (whole ++ point).length =
      power ++ rest := by
    rw [← List.append_assoc]
    exact List.drop_left
  have behindPower : (whole ++ (point ++ (power ++ rest))).drop (whole ++ point ++ power).length =
      rest := by
    rw [← List.append_assoc, ← List.append_assoc]
    exact List.drop_left
  rw [List.append_assoc, List.append_assoc]
  simp only [number?, wholeRead, behindWhole, pointRead, behindPoint, powerRead, behindPower, unjoined]
  rfl

/-- A numeric constant begins a number, whatever follows it. -/
theorem IsNumeral.begins {number : List Char} (numeral : IsNumeral number) (rest : List Char) :
    ∃ char text, number = char :: text ∧ beginsNumber char (text ++ rest) = true := by
  -- It begins with a digit, or with a point and a digit.
  obtain ⟨whole, point, power, rfl, wholeDigits, pointed, -, counted⟩ := numeral
  cases whole with
  | cons digit whole =>
    have numeric := (of_all_cons wholeDigits).1
    exact ⟨digit, whole ++ point ++ power, rfl, by simp [beginsNumber, numeric]⟩
  | nil =>
    rcases pointed with rfl | ⟨value, rfl, valueDigits⟩
    · cases counted
    · cases value with
      | nil => cases counted
      | cons digit value =>
        have numeric := (of_all_cons valueDigits).1
        exact ⟨'.', digit :: value ++ power, rfl, by simp [beginsNumber, numeric]⟩

/-- A numeric constant is read as one token when what follows it ends it. -/
theorem tokensFrom_number (read : List Token) {number : List Char} (numeral : IsNumeral number)
    {rest : List Char} (ended : rest.head?.all endsNumber = true) :
    tokensFrom read 0 (number ++ rest) = tokensFrom (.number number :: read) 0 rest := by
  obtain ⟨char, text, rfl, begins⟩ := numeral.begins rest
  have next : lexeme? char (text ++ rest) =
      some (some (.number (char :: text)), text.length + 1) := by
    rw [lexeme?, if_pos begins, ← List.cons_append, number_numeral numeral ended]
    rfl
  exact tokensFrom_lexeme read next

/-- A sign before a number is a token of its own. -/
theorem tokensFrom_sign (read : List Token) {sign : Char} (signed : isSign sign = true)
    {char : Char} {rest : List Char} (begins : beginsNumber char rest = true) :
    tokensFrom read 0 (sign :: char :: rest) = tokensFrom (.symbol [sign] :: read) 0 (char :: rest) := by
  -- Numbers begin with no character that goes on with an operator or begins a comment.
  have numeric : char.isDigit = true ∨ char = '.' := by
    simp only [beginsNumber, Bool.or_eq_true, Bool.and_eq_true, decide_eq_true_eq] at begins
    exact begins.imp id And.left
  have apart : (standardOperators ++ furtherOperators).all
      (fun other => !other.isDigit && other != '.') = true := by
    decide
  have noOperator : isOperator char = false := by
    by_contra operates
    have listed : char ∈ standardOperators ++ furtherOperators := by
      rw [Bool.not_eq_false, isOperator, Bool.or_eq_true] at operates
      exact List.mem_append.mpr (operates.imp List.contains_iff_mem.mp List.contains_iff_mem.mp)
    have neither := List.all_eq_true.mp apart char listed
    rcases numeric with digit | rfl
    · simp [digit] at neither
    · cases neither
  have noDash : char ≠ '-' := by
    rintro rfl
    cases noOperator
  have run : ∀ first, operator (first :: (char :: rest).takeWhile isOperator) = operator [first] := by
    simp [noOperator]
  have next : lexeme? sign ([] ++ (char :: rest)) = some (some (.symbol [sign]), 0 + 1) := by
    have either : sign = '+' ∨ sign = '-' := by simpa [isSign] using signed
    rcases either with rfl | rfl
    · have read : symbol '+' (char :: rest) = ['+'] := run '+'
      simp [lexeme?, read, mark?, beginsNumber, isBlank, beginsWord]
    · have read : symbol '-' (char :: rest) = ['-'] := run '-'
      simp [lexeme?, read, mark?, beginsNumber, isBlank, beginsWord, noDash]
  exact tokensFrom_lexeme read next

/-- Tokens in quotes are no numbers. -/
theorem quotedLexeme_ne_number (mark text number : List Char) (length : Nat) :
    quotedLexeme? mark text ≠ some (.number number, length) := by
  -- The token is made from the mark and the quote, none of which makes a number.
  intro read
  unfold quotedLexeme? at read
  split at read
  · cases read
  · obtain ⟨⟨content, _⟩, -, same⟩ := Option.map_eq_some_iff.mp read
    have token := (Prod.ext_iff.mp same).1
    simp only [quotedToken] at token
    split_ifs at token

/-- Nor is what a `$` begins. -/
theorem dollarLexeme_ne_number (rest number : List Char) (length : Nat) :
    dollarLexeme? rest ≠ some (.number number, length) := by
  intro read
  unfold dollarLexeme? at read
  split at read
  · cases read
  · obtain ⟨⟨content, _⟩, -, same⟩ := Option.map_eq_some_iff.mp read
    cases (Prod.ext_iff.mp same).1
  · split at read <;> cases read

/-- What is read as the token of a number is a numeric constant. -/
theorem isNumeral_lexeme {char : Char} {rest number : List Char} {length : Nat}
    (read : lexeme? char rest = some (some (.number number), length)) : IsNumeral number := by
  -- Only where a number begins is one read.
  have inQuotes : ∀ mark, (quotedLexeme? mark (char :: rest)).map (fun part =>
      (some part.1, part.2)) ≠ some (some (.number number), length) := by
    intro mark quoted
    obtain ⟨⟨token, _⟩, spelled, same⟩ := Option.map_eq_some_iff.mp quoted
    cases same
    exact quotedLexeme_ne_number _ _ _ _ spelled
  unfold lexeme? at read
  split at read
  · rename_i begins
    obtain ⟨text, spelled, same⟩ := Option.map_eq_some_iff.mp read
    cases same
    exact isNumeral_number begins spelled
  · split_ifs at read
    · cases read
    · cases read
    · obtain ⟨_, -, same⟩ := Option.map_eq_some_iff.mp read
      cases same
    · obtain ⟨⟨token, _⟩, spelled, same⟩ := Option.map_eq_some_iff.mp read
      cases same
      exact absurd spelled (dollarLexeme_ne_number _ _ _)
    · split at read
      · exact absurd read (inQuotes _)
      · cases read
    · split at read
      · exact absurd read (inQuotes _)
      · cases read

/-- The numbers among the tokens of a text are numeric constants. -/
theorem isNumeral_of_mem_tokens {text number : List Char} {listed : List Token}
    (read : tokens text = some listed) (member : .number number ∈ listed) : IsNumeral number := by
  -- Every token of the list was read where it begins.
  have from_ : ∀ (text : List Char) (before : List Token) (skip : Nat),
      (∀ number, .number number ∈ before → IsNumeral number) →
      tokensFrom before skip text = some listed → IsNumeral number := by
    intro text
    induction text with
    | nil =>
      intro before skip known ended
      have same : before.reverse = listed := by
        cases skip <;> exact Option.some.inj ended
      subst same
      exact known number (List.mem_reverse.mp member)
    | cons char rest ih =>
      intro before skip known readOn
      cases skip with
      | succ skip => exact ih before skip known readOn
      | zero =>
        rw [tokensFrom] at readOn
        split at readOn
        · cases readOn
        · rename_i token length begins
          refine ih _ _ (fun number listed => ?_) readOn
          rcases List.mem_append.mp listed with new | old
          · cases token with
            | none => cases new
            | some token =>
              cases List.mem_singleton.mp new
              exact isNumeral_lexeme begins
          · exact known number old
  rw [tokens] at read
  split at read
  · cases read
  · exact from_ text [] 0 (by simp) read

/-- A text that is a value with blanks around it. -/
def Padded (text value : List Char) : Prop :=
  ∃ front back, text = front ++ value ++ back ∧ front.all isBlank = true ∧ back.all isBlank = true

/-- No sign, or one. -/
def IsSignPart (sign : List Char) : Prop := sign = [] ∨ ∃ char, sign = [char] ∧ isSign char = true

/-- A signed numeric constant is read as its sign and its number, whatever blanks are around it. -/
theorem tokensFrom_constant (read : List Token) {text sign number : List Char}
    (padded : Padded text (sign ++ number)) (signed : IsSignPart sign) (numeral : IsNumeral number)
    {rest : List Char} (ended : rest.head?.all endsNumber = true) :
    tokensFrom read 0 (text ++ rest) =
      tokensFrom (.number number :: sign.map (fun char => .symbol [char]) ++ read) 0 rest := by
  -- The blanks are skipped on both sides, and those behind the number end it.
  obtain ⟨front, back, rfl, frontBlank, backBlank⟩ := padded
  have behind : (back ++ rest).head?.all endsNumber = true := by
    cases back with
    | nil => exact ended
    | cons char back =>
      exact endsNumber_of_isBlank (of_all_cons backBlank).1
  have constant : ∀ before, tokensFrom before 0 (number ++ (back ++ rest)) =
      tokensFrom (.number number :: before) 0 rest := by
    intro before
    rw [tokensFrom_number before numeral behind, tokensFrom_blanks _ backBlank]
  have split : front ++ (sign ++ number) ++ back ++ rest =
      front ++ (sign ++ (number ++ (back ++ rest))) := by simp
  rw [split, tokensFrom_blanks read frontBlank]
  rcases signed with rfl | ⟨char, rfl, signed⟩
  · exact constant read
  · obtain ⟨first, more, rfl, begins⟩ := numeral.begins (back ++ rest)
    calc tokensFrom read 0 (char :: first :: (more ++ (back ++ rest)))
        = tokensFrom (.symbol [char] :: read) 0 (first :: (more ++ (back ++ rest))) :=
          tokensFrom_sign read signed begins
      _ = tokensFrom (.number (first :: more) :: .symbol [char] :: read) 0 rest := constant _

/-- The character zero is in no numeric constant. -/
theorem IsNumeral.zero_notMem {number : List Char} (numeral : IsNumeral number) : '\x00' ∉ number := by
  -- It is no digit, no point, no mark of an exponent and no sign.
  obtain ⟨whole, point, power, rfl, wholeDigits, pointed, powered, -⟩ := numeral
  have digitsOnly : ∀ value : List Char, value.all Char.isDigit = true → '\x00' ∉ value := by
    intro value numeric member
    cases List.all_eq_true.mp numeric _ member
  have noPoint : '\x00' ∉ point := by
    rcases pointed with rfl | ⟨value, rfl, numeric⟩
    · simp
    · simpa using digitsOnly value numeric
  have noPower : '\x00' ∉ power := by
    rcases powered with rfl | ⟨mark, sign, value, rfl, rfl | rfl, rfl | rfl | rfl, -, numeric⟩ <;>
      simp_all
  simp [digitsOnly whole wholeDigits, noPoint, noPower]

/-- Nor is it in one with a sign and blanks. -/
theorem zero_notMem_constant {text sign number : List Char} (padded : Padded text (sign ++ number))
    (signed : IsSignPart sign) (numeral : IsNumeral number) : '\x00' ∉ text := by
  -- Neither the blanks nor a sign are that character.
  obtain ⟨front, back, rfl, frontBlank, backBlank⟩ := padded
  have blanksOnly : ∀ blanks : List Char, blanks.all isBlank = true → '\x00' ∉ blanks := by
    intro blanks blank member
    cases List.all_eq_true.mp blank _ member
  have noSign : '\x00' ∉ sign := by
    rcases signed with rfl | ⟨char, rfl, signed⟩
    · simp
    · intro member
      cases List.mem_singleton.mp member
      cases signed
  simp [blanksOnly front frontBlank, blanksOnly back backBlank, noSign, numeral.zero_notMem]

end Sql
