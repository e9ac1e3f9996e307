import JolCommerce.Numeric.Significant
import JolCommerce.Python.Text

/-! Decimal numbers under the default context: twenty-eight significant digits, half to even. -/

namespace Python

/-- The value of a `Decimal` object. -/
inductive Decimal where
  | finite (negative : Bool) (coefficient : Nat) (exponent : Int)
  | infinity (negative : Bool)
  /-- A quiet or signaling NaN with its diagnostic digits, zero for none. -/
  | nan (negative signaling : Bool) (payload : Nat)
  deriving DecidableEq

/-- What decimal code raises under the traps of the default context. -/
inductive DecimalError where
  | invalidOperation
  | valueError (message : String)
  | overflowError (message : String)
  deriving DecidableEq

namespace Decimal

/-- A character with its digit in any script replaced by the ASCII digit. -/
def asciiDigit (char : Char) : Char :=
  -- Only the value of a digit counts, not the script it is written in.
  match decimalDigit? char with
  | some digit => Nat.digitChar digit
  | none => char

/-- A sign in front of a numeral. -/
def splitSign : List Char → Bool × List Char
  | '-' :: rest => (true, rest)
  | '+' :: rest => (false, rest)
  | rest => (false, rest)

/-- The exponent part of a numeral, zero where there is none. -/
def readExponent? : List Char → Option Int
  | [] => some 0
  | marker :: rest =>
    let (negative, digits) := splitSign rest
    -- A marker without digits is no exponent, and the whole text is refused.
    if (marker = 'e' ∨ marker = 'E') ∧ digits ≠ [] ∧ digits.all Char.isDigit then
      let magnitude : Int := Nat.ofDigitChars 10 digits 0
      some (if negative then -magnitude else magnitude)
    else none

/-- Digits after an optional point, and what follows them. -/
def splitFraction : List Char → List Char × List Char
  | '.' :: rest => (rest.takeWhile Char.isDigit, rest.dropWhile Char.isDigit)
  | rest => ([], rest)

/-- A number: digits with an optional point and an optional exponent. -/
def readNumber? (negative : Bool) (text : List Char) : Option Decimal :=
  let (fraction, rest) := splitFraction (text.dropWhile Char.isDigit)
  let digits := text.takeWhile Char.isDigit ++ fraction
  -- At least one digit stands before or after the point.
  if digits = [] then none
  -- The digits after the point count against the exponent.
  else (readExponent? rest).map fun exponent =>
    .finite negative (Nat.ofDigitChars 10 digits 0) (exponent - fraction.length)

/-- The infinities and NaNs, in any case of letters. -/
def readSpecial? (negative : Bool) (text : List Char) : Option Decimal :=
  -- Diagnostic digits may follow a NaN but not an infinity.
  match text.map Char.toLower with
  | ['i', 'n', 'f'] | ['i', 'n', 'f', 'i', 'n', 'i', 't', 'y'] => some (.infinity negative)
  | 'n' :: 'a' :: 'n' :: payload =>
    if payload.all Char.isDigit then some (.nan negative false (Nat.ofDigitChars 10 payload 0))
    else none
  | 's' :: 'n' :: 'a' :: 'n' :: payload =>
    if payload.all Char.isDigit then some (.nan negative true (Nat.ofDigitChars 10 payload 0))
    else none
  | _ => none

/-- `Decimal(text)`, or nothing where it raises `InvalidOperation`; the conversion is exact. -/
def parse? (text : String) : Option Decimal :=
  -- Blanks around the text and underscores anywhere in it are dropped.
  let plain := ((strip text.toList).filter (· ≠ '_')).map asciiDigit
  let (negative, body) := splitSign plain
  (readNumber? negative body).orElse fun _ => readSpecial? negative body

/-- `Decimal(integer)`. -/
def ofInt (integer : Int) : Decimal := .finite (integer < 0) integer.natAbs 0

/-- A coefficient with its sign, in units of a smaller power of ten. -/
def aligned (negative : Bool) (coefficient : Nat) (exponent unit : Int) : Int :=
  -- The exponent is never below the common unit.
  let magnitude : Int := coefficient * 10 ^ (exponent - unit).toNat
  if negative then -magnitude else magnitude

/-- `left < right`; an ordering with a NaN is an invalid operation. -/
def lt : Decimal → Decimal → Except DecimalError Bool
  | .nan .., _ | _, .nan .. => .error .invalidOperation
  -- Of two infinities only the negative one is below the positive one.
  | .infinity left, .infinity right => .ok (left && !right)
  | .infinity left, .finite .. => .ok left
  | .finite .., .infinity right => .ok !right
  | .finite leftNegative leftCoefficient leftExponent,
    .finite rightNegative rightCoefficient rightExponent =>
    -- Both coefficients are counted in units of the smaller exponent, so they stay integers.
    let unit := min leftExponent rightExponent
    .ok (aligned leftNegative leftCoefficient leftExponent unit <
      aligned rightNegative rightCoefficient rightExponent unit)

/-- `left * right`, rounded to the precision of the context. -/
def mul : Decimal → Decimal → Except DecimalError Decimal
  | .nan _ true _, _ | _, .nan _ true _ => .error .invalidOperation
  -- The first NaN is the result, its diagnostic digits cut to the precision.
  | .nan negative false payload, _ => .ok (.nan negative false (payload % 10 ^ 28))
  | _, .nan negative false payload => .ok (.nan negative false (payload % 10 ^ 28))
  | .infinity left, .infinity right => .ok (.infinity (left ^^ right))
  | .infinity left, .finite right coefficient _ =>
    -- Zero times infinity has no value.
    if coefficient = 0 then .error .invalidOperation else .ok (.infinity (left ^^ right))
  | .finite left coefficient _, .infinity right =>
    if coefficient = 0 then .error .invalidOperation else .ok (.infinity (left ^^ right))
  | .finite leftNegative leftCoefficient leftExponent,
    .finite rightNegative rightCoefficient rightExponent =>
    let rounded := Significant.round 28 (leftCoefficient * rightCoefficient)
      (leftExponent + rightExponent)
    .ok (.finite (leftNegative ^^ rightNegative) rounded.1 rounded.2)

/-- `to_integral_value(rounding=ROUND_DOWN)`. -/
def toIntegralDown : Decimal → Except DecimalError Decimal
  | .nan _ true _ => .error .invalidOperation
  | .finite negative coefficient exponent =>
    -- Without decimal places the number is kept as it is written.
    if 0 ≤ exponent then .ok (.finite negative coefficient exponent)
    else .ok (.finite negative (Significant.whole (coefficient, exponent)) 0)
  | special => .ok special

/-- `int(decimal)`: the part before the point. -/
def toInt : Decimal → Except DecimalError Int
  | .nan .. => .error (.valueError "cannot convert NaN to integer")
  | .infinity _ => .error (.overflowError "cannot convert Infinity to integer")
  | .finite negative coefficient exponent =>
    -- The sign is put back after the decimals are dropped, so rounding goes towards zero.
    let magnitude : Int := Significant.whole (coefficient, exponent)
    .ok (if negative then -magnitude else magnitude)

/-- The digits of a coefficient with the point after the given number of them. -/
def pointText (digits : List Char) (place : Int) : List Char :=
  -- Zeros fill the gap between the point and the digits on either side.
  if place ≤ 0 then '0' :: '.' :: (List.replicate (-place).toNat '0' ++ digits)
  else if place ≥ digits.length then digits ++ List.replicate (place - digits.length).toNat '0'
  else digits.take place.toNat ++ '.' :: digits.drop place.toNat

/-- An exponent with its sign, as `%+d` writes it. -/
def exponentText (exponent : Int) : List Char :=
  if exponent < 0 then 'E' :: intText exponent else 'E' :: '+' :: intText exponent

/-- `str(decimal)`. -/
def toStr : Decimal → String
  | .infinity negative => if negative then "-Infinity" else "Infinity"
  | .nan negative signaling payload =>
    String.ofList ((if negative then ['-'] else []) ++ (if signaling then ['s'] else []) ++
      ['N', 'a', 'N'] ++ (if payload = 0 then [] else natText payload))
  | .finite negative coefficient exponent =>
    let digits := natText coefficient
    let left := exponent + digits.length
    -- Scientific notation for positive exponents and for numbers below a millionth.
    let place := if exponent ≤ 0 ∧ -6 < left then left else 1
    String.ofList ((if negative then ['-'] else []) ++ pointText digits place ++
      (if left = place then [] else exponentText (left - place)))

end Decimal

end Python
