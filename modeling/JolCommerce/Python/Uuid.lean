import JolCommerce.Python.Text

/-! UUIDs: the texts that `uuid.UUID` accepts, and the hexadecimal and canonical forms it writes. -/

namespace Python

/-- Drop every occurrence of a nonempty pattern, scanning from the left. -/
def removeFrom (pattern : List Char) : Nat → List Char → List Char
  -- The counter is what is left to skip of the occurrence just found.
  | _, [] => []
  | skip + 1, _ :: rest => removeFrom pattern skip rest
  | 0, char :: rest =>
    if pattern.isPrefixOf (char :: rest) then removeFrom pattern (pattern.length - 1) rest
    else char :: removeFrom pattern 0 rest

/-- `text.replace(pattern, "")`. -/
def removeText (pattern : String) (text : List Char) : List Char :=
  removeFrom pattern.toList 0 text

/-- White space around a numeral: `int` drops ASCII blanks and non-ASCII spaces. -/
def isNumeralSpace (char : Char) : Bool :=
  (9 ≤ char.toNat && char.toNat ≤ 13) || char == ' ' || (127 < char.toNat && isSpace char)

/-- Digits of a base, most significant first, with single underscores between them. -/
def readDigits? (base : Nat) (text : List Char) : Option Nat :=
  let groups := text.splitOn '_'
  -- An underscore at either end or next to another one leaves an empty group.
  if groups.any List.isEmpty then none
  else groups.flatten.foldlM (fun value char =>
    match alphanumericDigit? char with
    | some digit => if digit < base then some (value * base + digit) else none
    | none => none) 0

/-- `int(text, 16)`: blanks, a sign, an optional `0x` and hexadecimal digits. -/
def readHex? (text : List Char) : Option Int :=
  let body := stripWith isNumeralSpace text
  -- A sign may precede the prefix, as in every integer literal.
  let (negative, body) := match body with
    | '-' :: rest => (true, rest)
    | '+' :: rest => (false, rest)
    | rest => (false, rest)
  let body := match body with
    | '0' :: 'x' :: '_' :: rest | '0' :: 'X' :: '_' :: rest => rest
    | '0' :: 'x' :: rest | '0' :: 'X' :: rest => rest
    | rest => rest
  (readDigits? 16 body).map fun value => if negative then -(value : Int) else value

/-- A UUID is its 128-bit number. -/
structure Uuid where
  value : Nat
  bounded : value < 2 ^ 128

namespace Uuid

/-- `uuid.UUID(text)`, or nothing where it raises `ValueError`. -/
def parse? (text : String) : Option Uuid :=
  let plain := removeText "uuid:" (removeText "urn:" text.toList)
  let digits := (stripWith (fun char => char == '\x7b' || char == '\x7d') plain).filter (· ≠ '-')
  -- The length is checked before the digits are, and signs and prefixes count as characters.
  if digits.length = 32 then
    match readHex? digits with
    | some (.ofNat value) => if bounded : value < 2 ^ 128 then some ⟨value, bounded⟩ else none
    | _ => none
  else none

/-- `UUID.hex`: thirty-two lowercase hexadecimal digits. -/
def hex (uuid : Uuid) : String := String.ofList (hexText 32 uuid.value)

/-- `str(uuid)`: the digits in groups of eight, four, four, four and twelve. -/
def toStr (uuid : Uuid) : String :=
  let digits := hexText 32 uuid.value
  String.ofList (digits.take 8 ++ '-' :: (digits.drop 8).take 4 ++ '-' :: (digits.drop 12).take 4 ++
    '-' :: (digits.drop 16).take 4 ++ '-' :: digits.drop 20)

/-- Different numbers have different hexadecimal forms. -/
theorem hex_injective : Function.Injective hex := by
  -- Thirty-two hexadecimal digits hold exactly 128 bits.
  intro left right same
  have digits : hexText 32 left.value = hexText 32 right.value := String.ofList_injective same
  have width : 16 ^ 32 = 2 ^ 128 := by decide
  have values := hexText_injective (width ▸ left.bounded) (width ▸ right.bounded) digits
  cases left
  cases right
  simpa using values

end Uuid

end Python
