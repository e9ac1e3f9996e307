import JolCommerce.Common
import JolCommerce.Python.DecimalArithmetic
import JolCommerce.Tax.CountryRates

/-! VAT computed on top of a net amount and out of a gross amount. -/

namespace JolCommerce

open Python

/-- Result of a VAT calculation. -/
structure VatCalculation where
  netAmount : Decimal
  vatAmount : Decimal
  grossAmount : Decimal
  vatRate : Decimal
  countryCode : String
  transactionDate : Date

/-- What a division raises. -/
def VatError.ofDivision : DivisionError → VatError
  | .invalidOperation => .decimal .invalidOperation
  | .divisionByZero => .divisionByZero

/-- `Decimal("0.01")`. -/
def oneCent : Decimal := .finite false 1 (-2)

namespace VatCalculator

/-- Add VAT to a net amount. -/
def calculateFromNet (upper : String → String) (today : Date) (netAmount : Decimal)
    (countryCode : String) (transactionDate : Option Date) : Except VatError VatCalculation := do
  let transactionDate := transactionDate.getD today
  let vatRate ← getVatRate upper today countryCode (some transactionDate)
  let product ← (netAmount.mul vatRate).mapError .decimal
  let vatAmount ← (product.quantizeHalfUp oneCent).mapError .decimal
  let grossAmount ← (netAmount.add vatAmount).mapError .decimal
  return { netAmount, vatAmount, grossAmount, vatRate, countryCode, transactionDate }

/-- Take VAT out of a gross amount. -/
def calculateFromGross (upper : String → String) (today : Date) (grossAmount : Decimal)
    (countryCode : String) (transactionDate : Option Date) : Except VatError VatCalculation := do
  let transactionDate := transactionDate.getD today
  let vatRate ← getVatRate upper today countryCode (some transactionDate)
  let base ← ((Decimal.ofInt 1).add vatRate).mapError .decimal
  let quotient ← (grossAmount.div base).mapError .ofDivision
  let netAmount ← (quotient.quantizeHalfUp oneCent).mapError .decimal
  let vatAmount ← (grossAmount.sub netAmount).mapError .decimal
  return { netAmount, vatAmount, grossAmount, vatRate, countryCode, transactionDate }

end VatCalculator

end JolCommerce
