import JolCommerce.Common
import JolCommerce.Python.DecimalLaws

/-! The commission engine: fee splits and their proportional reversal, rounded down on integer cents. -/

namespace JolCommerce

open Python

/-- The exception a decimal operation raises. -/
def PyError.ofDecimal : DecimalError → PyError
  | .invalidOperation => .invalidOperation
  | .valueError message => .valueError message
  | .overflowError message => .overflowError message

/-- Result of a commission calculation, in cents. -/
structure CommissionSplit where
  rate : Decimal
  grossAmountCents : Int
  platformFeeCents : Int
  tenantSettlementCents : Int

/-- The `rate_str` property. -/
def CommissionSplit.rateStr (split : CommissionSplit) : String := split.rate.toStr

/-- `Decimal(text)`. -/
def readDecimal (text : String) : Except PyError Decimal :=
  match Decimal.parse? text with
  | some number => .ok number
  | none => .error .invalidOperation

/-- `left < right` on decimals. -/
def decimalLt (left right : Decimal) : Except PyError Bool :=
  (left.lt right).mapError .ofDecimal

/-- `_validate_rate(rate)`. -/
def validateRate (rate : Decimal) : Except PyError Unit := do
  -- `or` looks at the upper bound only when the lower one holds.
  let outside ← if ← decimalLt rate (.ofInt 0) then pure true else decimalLt (.ofInt 1) rate
  if outside then
    throw (.valueError ("Commission rate must be within [0, 1]: " ++ rate.toStr))

/-- `int((Decimal(amount) * factor).to_integral_value(rounding=ROUND_DOWN))`. -/
def productDown (amount : Int) (factor : Decimal) : Except PyError Int :=
  Except.mapError .ofDecimal do
    -- The context rounds the product to twenty-eight digits before its decimals are dropped.
    let product ← (Decimal.ofInt amount).mul factor
    let integral ← product.toIntegralDown
    integral.toInt

/-- An engine with its default rate, which the constructor has validated. -/
structure CommissionEngine where
  defaultRate : Decimal
  validated : validateRate defaultRate = .ok ()

namespace CommissionEngine

/-- The constructor. -/
def new (defaultRate : Decimal) : Except PyError CommissionEngine :=
  match validated : validateRate defaultRate with
  | .ok () => .ok ⟨defaultRate, validated⟩
  | .error error => .error error

/-- The engine `CommissionEngine()` builds, at ten percent. -/
def standard : CommissionEngine := ⟨.finite false 10 (-2), by decide +kernel⟩

/-- The rate a calculation uses: the tenant's where there is one, else the default. -/
def rateFor (engine : CommissionEngine) (tenantRate : Option String) : Except PyError Decimal :=
  match tenantRate with
  | some text => readDecimal text
  | none => .ok engine.defaultRate

/-- `calculate(gross_amount_cents, tenant_rate)`. -/
def calculate (engine : CommissionEngine) (grossAmountCents : Int) (tenantRate : Option String) :
    Except PyError CommissionSplit := do
  if grossAmountCents < 0 then throw (.valueError "gross_amount_cents must be non-negative")
  let rate ← engine.rateFor tenantRate
  validateRate rate
  let platformFeeCents ← productDown grossAmountCents rate
  -- The fee is what was rounded down, the settlement is the rest.
  return ⟨rate, grossAmountCents, platformFeeCents, grossAmountCents - platformFeeCents⟩

/-- The range check `frac <= 0 or frac > 1`. -/
def fractionOutside (frac : Decimal) : Except PyError Bool := do
  -- `frac <= 0` is the negation of `0 < frac`, since a NaN raises in either form.
  let positive ← decimalLt (.ofInt 0) frac
  if positive then decimalLt (.ofInt 1) frac else return true

/-- `reverse(split, fraction)`: positive amounts, which the caller negates. -/
def reverse (split : CommissionSplit) (fraction : String) : Except PyError CommissionSplit := do
  let frac ← readDecimal fraction
  let outside ← fractionOutside frac
  if outside then
    throw (.valueError ("Reversal fraction must be within (0, 1]: " ++ fraction))
  else
    -- Gross amount and fee are rounded separately; the settlement gets the difference.
    let grossReversed ← productDown split.grossAmountCents frac
    let feeReversed ← productDown split.platformFeeCents frac
    return ⟨split.rate, grossReversed, feeReversed, grossReversed - feeReversed⟩

end CommissionEngine

end JolCommerce
