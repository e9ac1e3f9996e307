import JolCommerce.Sql.Lexical

/-! The tokens of an SQL text, as PostgreSQL 15 reads them where strings conform to the standard. -/

namespace Sql

/-- A token with its text, or with what stands between its quotes. -/
inductive Token where
  /-- A keyword or a name. -/
  | word (text : List Char)
  /-- A name in double quotes. -/
  | quoted (content : List Char)
  /-- A literal in single quotes. -/
  | literal (content : List Char)
  /-- A literal or a name with a prefix such as `E` or `U&`, its escapes as they are written. -/
  | prefixed (mark content : List Char)
  /-- A literal between two equal delimiters `$tag$`. -/
  | body (delimiter content : List Char)
  | number (text : List Char)
  /-- A parameter `$1`. -/
  | parameter (text : List Char)
  /-- An operator or a mark of punctuation. -/
  | symbol (text : List Char)
  deriving DecidableEq

/-- Characters between tokens. -/
def isBlank (char : Char) : Bool :=
  char = ' ' || char = '\t' || char = '\n' || char = '\r' || char = '\x0c'

/-- Characters that end a line. -/
def isNewline (char : Char) : Bool := char = '\n' || char = '\r'

/-- The length of the gap after which a literal goes on, with the quote that opens it again. -/
def gapFrom (newline comment : Bool) : List Char → Option Nat
  -- Only blanks and line comments may stand between the parts, and a line must end among them.
  | [] => none
  | char :: rest =>
    if isNewline char then (gapFrom true false rest).map (· + 1)
    else if comment then (gapFrom newline true rest).map (· + 1)
    else if char = '\'' ∧ newline then some 1
    else if char = '-' ∧ rest.head? = some '-' then (gapFrom newline true rest).map (· + 1)
    else if isBlank char then (gapFrom newline false rest).map (· + 1)
    else none

/-- What stands between quotes, behind the first one, and the length of that with the last one. -/
def quotedFrom (quote : Char) (escapes : Bool) : Nat → List Char → Option (List Char × Nat)
  | _, [] => none
  | skip + 1, _ :: rest =>
    (quotedFrom quote escapes skip rest).map fun (content, length) => (content, length + 1)
  | 0, char :: rest =>
    if char = quote then
      -- A doubled quote stands for one and ends nothing.
      if rest.head? = some quote then
        (quotedFrom quote escapes 1 rest).map fun (content, length) => (quote :: content, length + 1)
      else
        match if quote = '\'' then gapFrom false false rest else none with
        | some gap =>
          (quotedFrom quote escapes gap rest).map fun (content, length) => (content, length + 1)
        | none => some ([], 1)
    else if char = '\\' ∧ escapes then
      (quotedFrom quote escapes 1 rest).map fun (content, length) =>
        (char :: rest.take 1 ++ content, length + 1)
    else
      (quotedFrom quote escapes 0 rest).map fun (content, length) => (char :: content, length + 1)

/-- What stands before the next occurrence of a delimiter, and the length of both. -/
def bodyFrom (delimiter : List Char) : List Char → Option (List Char × Nat)
  | [] => none
  | char :: rest =>
    if delimiter.isPrefixOf (char :: rest) then some ([], delimiter.length)
    else (bodyFrom delimiter rest).map fun (content, length) => (char :: content, length + 1)

/-- The length of a block comment behind its first two characters. -/
def commentFrom (depth : Nat) : Nat → List Char → Option Nat
  | _, [] => none
  | skip + 1, _ :: rest => (commentFrom depth skip rest).map (· + 1)
  | 0, char :: rest =>
    -- Comments nest, so that each end closes the innermost one.
    if char = '*' ∧ rest.head? = some '/' then
      match depth with
      | 0 => some 2
      | depth + 1 => (commentFrom depth 1 rest).map (· + 1)
    else if char = '/' ∧ rest.head? = some '*' then (commentFrom (depth + 1) 1 rest).map (· + 1)
    else (commentFrom depth 0 rest).map (· + 1)

/-- The digits that a text begins with. -/
def digits (text : List Char) : List Char := text.takeWhile Char.isDigit

/-- The point and the digits behind it that a text begins with; two points begin no fraction. -/
def fraction : List Char → List Char
  | '.' :: '.' :: _ => []
  | '.' :: rest => '.' :: digits rest
  | _ => []

/-- Signs of an exponent, and of the numbers before which they stand. -/
def isSign (char : Char) : Bool := char = '+' || char = '-'

/-- The exponent that a text begins with, or nothing where one begins that has no digits. -/
def exponent? : List Char → Option (List Char)
  | [] => some []
  | mark :: rest =>
    if mark = 'e' ∨ mark = 'E' then
      let sign := (rest.take 1).takeWhile isSign
      let power := digits (rest.drop sign.length)
      if power = [] then none else some (mark :: sign ++ power)
    else some []

/-- The number that a text begins with, or nothing where letters follow that belong to none. -/
def number? (text : List Char) : Option (List Char) :=
  let whole := digits text
  let point := fraction (text.drop whole.length)
  match exponent? (text.drop (whole ++ point).length) with
  | none => none
  | some power =>
    let number := whole ++ point ++ power
    if (text.drop number.length).head?.any beginsWord then none else some number

/-- Characters that operators of the standard are made of. -/
def standardOperators : List Char := ['+', '-', '*', '/', '<', '>', '=']

/-- Those that other operators have among them, the backquote last. -/
def furtherOperators : List Char := ['~', '!', '@', '#', '^', '&', '|', '?', '%', Char.ofNat 0x60]

/-- Characters that operators are made of. -/
def isOperator (char : Char) : Bool := standardOperators.contains char || furtherOperators.contains char

/-- The part of a run of operator characters before a comment. -/
def beforeComment : List Char → List Char
  | [] => []
  | char :: rest =>
    if (char = '-' ∧ rest.head? = some '-') ∨ (char = '/' ∧ rest.head? = some '*') then []
    else char :: beforeComment rest

/-- The operator that a run of such characters begins with. -/
def operator (run : List Char) : List Char :=
  -- A standard operator of several characters does not end in a sign.
  match beforeComment run with
  | [] => []
  | char :: rest =>
    if (char :: rest).any furtherOperators.contains then char :: rest
    else char :: (rest.reverse.dropWhile isSign).reverse

/-- Whether a number begins with a character, in front of what follows it. -/
def beginsNumber (char : Char) (rest : List Char) : Bool :=
  char.isDigit || (char = '.' && rest.head?.any Char.isDigit)

/-- What a token in quotes has before its first quote, or nothing where none begins. -/
def mark? (char : Char) (rest : List Char) : Option (List Char) :=
  if char = '\'' ∨ char = '"' then some []
  else if ['E', 'e', 'B', 'b', 'X', 'x', 'N', 'n'].contains char ∧ rest.head? = some '\'' then some [char]
  else if (char = 'U' ∨ char = 'u') ∧ rest.head? = some '&' ∧
      (rest.tail.head? = some '\'' ∨ rest.tail.head? = some '"') then some [char, '&']
  else none

/-- The token that a content in quotes is, with what stands before them. -/
def quotedToken (mark : List Char) (quote : Char) (content : List Char) : Token :=
  if mark ≠ [] then .prefixed (mark ++ [quote]) content
  else if quote = '\'' then .literal content
  else .quoted content

/-- The token in quotes that a text begins with behind a mark, and its length. -/
def quotedLexeme? (mark text : List Char) : Option (Token × Nat) :=
  match text.drop mark.length with
  | [] => none
  | quote :: rest =>
    (quotedFrom quote (mark = ['E'] || mark = ['e']) 0 rest).map fun (content, length) =>
      (quotedToken mark quote content, mark.length + length + 1)

/-- The token that a `$` begins, in front of what follows it, and its length. -/
def dollarLexeme? (rest : List Char) : Option (Token × Nat) :=
  match digits rest, delimiter? rest with
  | [], none => some (.symbol ['$'], 1)
  | [], some delimiter =>
    (bodyFrom delimiter (rest.drop (delimiter.length - 1))).map fun (content, length) =>
      (.body delimiter content, delimiter.length + length)
  | value, _ =>
    if (rest.drop value.length).head?.any beginsWord then none
    else some (.parameter ('$' :: value), value.length + 1)

/-- The operator or mark of punctuation that a nonempty text begins with. -/
def symbol (char : Char) (rest : List Char) : List Char :=
  if isOperator char then operator (char :: rest.takeWhile isOperator)
  else if [[':', ':'], ['.', '.'], [':', '=']].contains (char :: rest.take 1) then char :: rest.take 1
  else [char]

/-- The token that a nonempty text begins with, none for blanks and comments, and its length. -/
def lexeme? (char : Char) (rest : List Char) : Option (Option Token × Nat) :=
  if beginsNumber char rest then
    (number? (char :: rest)).map fun text => (some (.number text), text.length)
  else if isBlank char then some (none, 1)
  else if char = '-' ∧ rest.head? = some '-' then
    some (none, (rest.takeWhile fun char => !isNewline char).length + 1)
  else if char = '/' ∧ rest.head? = some '*' then
    (commentFrom 0 1 rest).map fun length => (none, length + 1)
  else if char = '$' then (dollarLexeme? rest).map fun (token, length) => (some token, length)
  else
    match mark? char rest with
    | some mark => (quotedLexeme? mark (char :: rest)).map fun (token, length) => (some token, length)
    | none =>
      if beginsWord char then
        let text := char :: rest.takeWhile continuesWord
        some (some (.word text), text.length)
      else some (some (.symbol (symbol char rest)), (symbol char rest).length)

/-- The tokens of a text behind those already read, nothing where a part of it is no token. -/
def tokensFrom (read : List Token) : Nat → List Char → Option (List Token)
  -- The tokens read so far are kept with the last one first.
  | _, [] => some read.reverse
  | skip + 1, _ :: rest => tokensFrom read skip rest
  | 0, char :: rest =>
    match lexeme? char rest with
    | none => none
    | some (token, length) => tokensFrom (token.toList ++ read) (length - 1) rest

/-- The tokens of a whole text. -/
def tokens (text : List Char) : Option (List Token) :=
  -- The character zero can stand nowhere in a text.
  if text.contains '\x00' then none else tokensFrom [] 0 text

example : tokens "f('it''s', -.5e3) -- x".toList = some [.word ['f'], .symbol ['('],
    .literal "it's".toList, .symbol [','], .symbol ['-'], .number ".5e3".toList, .symbol [')']] := by
  decide +kernel

end Sql
