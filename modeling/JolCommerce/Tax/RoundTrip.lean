import JolCommerce.Commissions.EngineLaws
import JolCommerce.Numeric.RoundedSum
import JolCommerce.Numeric.Share
import JolCommerce.Tax.VatCalculator

/-! Net to gross and back is exact; gross to net and back is exact to the cent. -/

namespace JolCommerce

open Python

/-- A sum of denoted numbers that fits. -/
theorem Denotes.add {left right : Decimal} {first second : ℚ} (leftDenotes : Denotes left first)
    (rightDenotes : Denotes right second) (fits : Decimal.Fits (first + second)) :
    ∃ sum, left.add right = .ok sum ∧ Denotes sum (first + second) := by
  obtain ⟨_, _, _, rfl, rfl⟩ := leftDenotes
  obtain ⟨_, _, _, rfl, rfl⟩ := rightDenotes
  obtain ⟨_, _, _, returned, exact⟩ := Decimal.add_finite fits
  exact ⟨_, returned, _, _, _, rfl, exact⟩

/-- A difference. -/
theorem Denotes.sub {left right : Decimal} {first second : ℚ} (leftDenotes : Denotes left first)
    (rightDenotes : Denotes right second) (fits : Decimal.Fits (first - second)) :
    ∃ difference, left.sub right = .ok difference ∧ Denotes difference (first - second) := by
  obtain ⟨_, _, _, rfl, rfl⟩ := leftDenotes
  obtain ⟨_, _, _, rfl, rfl⟩ := rightDenotes
  obtain ⟨_, _, _, returned, exact⟩ := Decimal.sub_finite fits
  exact ⟨_, returned, _, _, _, rfl, exact⟩

/-- A product. -/
theorem Denotes.mul {left right : Decimal} {first second : ℚ} (leftDenotes : Denotes left first)
    (rightDenotes : Denotes right second) (fits : Decimal.Fits (first * second)) :
    ∃ product, left.mul right = .ok product ∧ Denotes product (first * second) := by
  obtain ⟨_, _, _, rfl, rfl⟩ := leftDenotes
  obtain ⟨_, _, _, rfl, rfl⟩ := rightDenotes
  obtain ⟨_, _, _, returned, exact⟩ := Decimal.mul_finite fits
  exact ⟨_, returned, _, _, _, rfl, exact⟩

/-- A quotient, which is only close to the exact one. -/
theorem Denotes.div {left right : Decimal} {first second : ℚ} (leftDenotes : Denotes left first)
    (rightDenotes : Denotes right second) (nonzero : second ≠ 0) :
    ∃ quotient number, left.div right = .ok quotient ∧ Denotes quotient number ∧
      |number - first / second| ≤ |first / second| / 10 ^ 27 := by
  obtain ⟨_, _, _, rfl, rfl⟩ := leftDenotes
  obtain ⟨_, _, _, rfl, rfl⟩ := rightDenotes
  obtain ⟨_, _, _, returned, close⟩ := Decimal.div_finite nonzero
  exact ⟨_, _, returned, ⟨_, _, _, rfl, rfl⟩, close⟩

/-- A number of cents, rounded half up. -/
theorem Denotes.quantize {decimal : Decimal} {cents : ℚ} (denotes : Denotes decimal (cents / 100))
    (nonneg : 0 ≤ cents) (fits : round cents < 10 ^ 28) :
    ∃ quantized, decimal.quantizeHalfUp oneCent = .ok quantized ∧
      Denotes quantized (round cents / 100) := by
  -- A cent is the unit of the second decimal place.
  obtain ⟨_, _, _, rfl, number⟩ := denotes
  have place : cents / 100 / 10 ^ (-2 : ℤ) = cents := by
    norm_num [zpow_neg]
    field_simp
  have bound : (0 : ℚ) ≤ cents / 100 := by positivity
  rw [← number] at bound place
  rw [← place] at fits
  obtain ⟨_, _, returned, exact⟩ := Decimal.quantizeHalfUp_finite bound fits
  refine ⟨_, returned, _, _, _, rfl, ?_⟩
  rw [exact, place]
  norm_num [zpow_neg, div_eq_mul_inv]

/-- Whole numbers of a decimal unit fit as long as the digits suffice for their count. -/
theorem fits_of_units {units : ℤ} (places : Nat) (small : |units| < 10 ^ 28) :
    Decimal.Fits (units / 10 ^ places) := by
  -- The count is the coefficient, and the places are the exponent.
  have digits : units.natAbs < 10 ^ 28 := by
    rw [Int.abs_eq_natAbs] at small
    exact_mod_cast small
  refine ⟨units.natAbs, -places, digits, ?_⟩
  rw [abs_div, Significant.value, zpow_neg, zpow_natCast, ← div_eq_mul_inv, Nat.cast_natAbs,
    Int.cast_abs]
  congr 1
  exact abs_of_pos (by positivity)

/-- A valid rate denotes a number of thousandths. -/
theorem IsVatRate.denotes {rate : Decimal} (valid : IsVatRate rate) :
    ∃ thousandths : ℕ, Denotes rate (thousandths / 1000) ∧ 170 ≤ thousandths ∧
      thousandths ≤ 270 := by
  -- A percent is ten thousandths.
  unfold IsVatRate at valid
  split at valid
  · rename_i coefficient
    refine ⟨coefficient * 10, ⟨_, _, _, rfl, ?_⟩, by omega, by omega⟩
    norm_num [Decimal.value, Significant.value, zpow_neg]
    ring
  · refine ⟨_, ⟨_, _, _, rfl, ?_⟩, valid.1, valid.2⟩
    norm_num [Decimal.value, Significant.value, zpow_neg]
    ring
  · exact valid.elim

namespace VatCalculator

open Share

/-- What is computed on top of a number of cents at a rate. -/
structure NetSpec (rate : ℚ) (cents : ℤ) (calculation : VatCalculation) : Prop where
  net : Denotes calculation.netAmount (cents / 100)
  vat : Denotes calculation.vatAmount ((withShare rate cents - cents : ℤ) / 100)
  gross : Denotes calculation.grossAmount (withShare rate cents / 100)

/-- What is computed out of a number of cents at a rate. -/
structure GrossSpec (rate : ℚ) (cents : ℤ) (quotient : ℚ) (calculation : VatCalculation) :
    Prop where
  close : CloseQuotient rate cents quotient
  nonneg : 0 ≤ round quotient
  below : round quotient ≤ cents + 1
  net : Denotes calculation.netAmount (round quotient / 100)
  vat : Denotes calculation.vatAmount ((cents - round quotient : ℤ) / 100)

/-- A rate that a supported country has on a date, and the number it denotes. -/
structure RateSpec (upper : String → String) (today : Date) (countryCode : String)
    (transactionDate : Date) (rate : Decimal) (thousandths : ℕ) : Prop where
  inForce : getVatRate upper today countryCode (some transactionDate) = .ok rate
  denotes : Denotes rate (thousandths / 1000)
  atLeast : 170 ≤ thousandths
  atMost : thousandths ≤ 270

variable {upper : String → String} {today : Date} {countryCode : String}
  {transactionDate : Option Date} {rate : Decimal} {thousandths : ℕ}

private theorem rounded_bounds {number : ℚ} {bound : ℤ} (nonneg : 0 ≤ number)
    (below : number < bound) : 0 ≤ round number ∧ round number ≤ bound := by
  refine ⟨RoundedSum.round_nonneg nonneg, ?_⟩
  -- Rounding adds no more than a half, and the bound is a whole number.
  have higher := round_le_add_half number
  have higherInt : (round number : ℚ) < bound + 1 := by linarith
  have step : round number < bound + 1 := by exact_mod_cast higherInt
  omega

private theorem share_bounds (higher : thousandths ≤ 270) {cents bound : ℤ} (nonneg : 0 ≤ cents)
    (below : cents < bound) :
    (0 : ℚ) ≤ cents * (thousandths / 1000) ∧
      0 ≤ round ((cents : ℚ) * (thousandths / 1000)) ∧
      round ((cents : ℚ) * (thousandths / 1000)) ≤ bound := by
  -- A share is at most the amount.
  have centsNonneg : (0 : ℚ) ≤ cents := by exact_mod_cast nonneg
  have rateBelow : (thousandths : ℚ) / 1000 ≤ 1 := by
    have cast : (thousandths : ℚ) ≤ 270 := by exact_mod_cast higher
    linarith
  have shareNonneg : (0 : ℚ) ≤ cents * (thousandths / 1000) := by positivity
  have shareBelow : (cents : ℚ) * (thousandths / 1000) < bound := by
    calc (cents : ℚ) * (thousandths / 1000) ≤ cents := mul_le_of_le_one_right centsNonneg rateBelow
      _ < bound := by exact_mod_cast below
  exact ⟨shareNonneg, rounded_bounds shareNonneg shareBelow⟩

/-- What is computed on top of an amount at a rate: the share in whole cents, and the total. -/
structure AmountSpec (rate amount : ℚ) (calculation : VatCalculation) : Prop where
  net : Denotes calculation.netAmount amount
  vat : Denotes calculation.vatAmount (round (amount * rate * 100) / 100)
  gross : Denotes calculation.grossAmount (amount + round (amount * rate * 100) / 100)

/-- Adding VAT to an amount of four decimals is exact but for the one rounding to cents. -/
theorem calculateFromNet_amount
    (spec : RateSpec upper today countryCode (transactionDate.getD today) rate thousandths)
    {amount : Decimal} {units : ℤ} (denotes : Denotes amount (units / 10 ^ 4)) (nonneg : 0 ≤ units)
    (below : units < 10 ^ 25) :
    ∃ calculation, calculateFromNet upper today amount countryCode transactionDate =
      .ok calculation ∧ calculation.vatRate = rate ∧
      AmountSpec (thousandths / 1000) (units / 10 ^ 4) calculation := by
  have higher := spec.atMost
  -- The product is a whole number of ten-millionths.
  have product : (units : ℚ) / 10 ^ 4 * (thousandths / 1000) =
      (units * thousandths : ℤ) / 10 ^ 7 := by
    push_cast
    ring
  have large : units * thousandths ≤ 10 ^ 25 * 270 :=
    mul_le_mul below.le (by exact_mod_cast higher) (by positivity) (by norm_num)
  have productNonneg : 0 ≤ units * thousandths := by positivity
  have productFits : |units * thousandths| < 10 ^ 28 := by
    rw [abs_of_nonneg productNonneg]
    omega
  obtain ⟨multiplied, multiplies, multipliedDenotes⟩ :=
    denotes.mul spec.denotes (product ▸ fits_of_units 7 productFits)
  -- Its cents are rounded, which is the share on top.
  have inCents : (units : ℚ) / 10 ^ 4 * (thousandths / 1000) =
      units / 10 ^ 4 * (thousandths / 1000) * 100 / 100 := by
    ring
  rw [inCents] at multipliedDenotes
  have shareNonneg : (0 : ℚ) ≤ units / 10 ^ 4 * (thousandths / 1000) * 100 := by
    rw [product]
    have cast : (0 : ℚ) ≤ (units * thousandths : ℤ) := by exact_mod_cast productNonneg
    positivity
  have shareBelow : (units : ℚ) / 10 ^ 4 * (thousandths / 1000) * 100 < (10 ^ 23 : ℤ) := by
    rw [product]
    have cast : ((units * thousandths : ℤ) : ℚ) ≤ (10 ^ 25 * 270 : ℤ) := by exact_mod_cast large
    push_cast at cast ⊢
    linarith
  obtain ⟨shareLower, shareUpper⟩ := rounded_bounds shareNonneg shareBelow
  obtain ⟨vat, quantizes, vatDenotes⟩ :=
    multipliedDenotes.quantize shareNonneg (shareUpper.trans_lt (by norm_num))
  generalize rounded : round ((units : ℚ) / 10 ^ 4 * (thousandths / 1000) * 100) = share at *
  -- The sum is a number of four decimals again.
  have sum : (units : ℚ) / 10 ^ 4 + share / 100 = (units + share * 100 : ℤ) / 10 ^ 4 := by
    push_cast
    ring
  have sumFits : |units + share * 100| < 10 ^ 28 := by
    rw [abs_lt]
    omega
  obtain ⟨gross, adds, grossDenotes⟩ := denotes.add vatDenotes (sum ▸ fits_of_units 4 sumFits)
  refine ⟨⟨amount, vat, gross, rate, countryCode, transactionDate.getD today⟩, ?_, rfl, denotes, ?_, ?_⟩
  · simp [calculateFromNet, spec.inForce, multiplies, quantizes, adds, Except.mapError]
  · rw [rounded]
    exact vatDenotes
  · rw [rounded]
    exact grossDenotes

/-- So it is for a number of cents. -/
theorem calculateFromNet_spec
    (spec : RateSpec upper today countryCode (transactionDate.getD today) rate thousandths)
    {amount : Decimal} {cents : ℤ} (denotes : Denotes amount (cents / 100)) (nonneg : 0 ≤ cents)
    (below : cents < 10 ^ 23) :
    ∃ calculation, calculateFromNet upper today amount countryCode transactionDate =
      .ok calculation ∧ NetSpec (thousandths / 1000) cents calculation := by
  -- A cent is a hundred ten-thousandths.
  have inUnits : (cents : ℚ) / 100 = (cents * 100 : ℤ) / 10 ^ 4 := by
    push_cast
    ring
  obtain ⟨calculation, calculates, -, amounts⟩ :=
    calculateFromNet_amount spec (inUnits ▸ denotes) (by omega) (by omega)
  rw [← inUnits] at amounts
  have share : (cents : ℚ) / 100 * (thousandths / 1000) * 100 = cents * (thousandths / 1000) := by
    ring
  obtain ⟨net, vat, gross⟩ := amounts
  rw [share] at vat gross
  refine ⟨calculation, calculates, net, ?_, ?_⟩
  · simpa [withShare] using vat
  · unfold withShare
    push_cast
    rw [add_div]
    exact gross

/-- In cents the error of a division is far below the margin that the rate leaves. -/
private theorem divided_bounds (atLeast : 170 ≤ thousandths) (atMost : thousandths ≤ 270)
    {cents : ℤ} (nonneg : 0 ≤ cents) (below : cents < 10 ^ 23) {number : ℚ}
    (close : |number - cents / 100 / (1 + thousandths / 1000)| ≤
      |(cents : ℚ) / 100 / (1 + thousandths / 1000)| / 10 ^ 27) :
    CloseQuotient ((thousandths : ℚ) / 1000) cents (number * 100) ∧ 0 ≤ number * 100 ∧
      number * 100 < (cents + 1 : ℤ) := by
  have lower : (170 : ℚ) ≤ thousandths := by exact_mod_cast atLeast
  have higher : (thousandths : ℚ) ≤ 270 := by exact_mod_cast atMost
  have centsNonneg : (0 : ℚ) ≤ cents := by exact_mod_cast nonneg
  have centsBelow : (cents : ℚ) < 10 ^ 23 := by exact_mod_cast below
  have base : (1 : ℚ) < 1 + thousandths / 1000 := by linarith
  -- The exact quotient is at most the amount, so a share of 10^-27 of it is next to nothing.
  set exact : ℚ := cents / (1 + thousandths / 1000) with exactDef
  have exactNonneg : 0 ≤ exact := div_nonneg centsNonneg (by linarith)
  have exactLe : exact ≤ cents := div_le_self centsNonneg base.le
  have inEuros : (cents : ℚ) / 100 / (1 + thousandths / 1000) = exact / 100 := by
    rw [exactDef]
    ring
  have quotientNonneg : 0 ≤ exact / 100 := div_nonneg exactNonneg (by norm_num)
  rw [inEuros, abs_of_nonneg quotientNonneg] at close
  obtain ⟨leftBound, rightBound⟩ := abs_le.mp close
  have error : |number * 100 - exact| ≤ 1 / 10 ^ 4 := by
    rw [abs_le]
    constructor <;> linarith
  -- The margin is about seven hundredths of a cent at the lowest rate.
  have margin : (1 : ℚ) / 10 ^ 4 < thousandths / 1000 / (2 * (1 + thousandths / 1000)) := by
    rw [lt_div_iff₀ (by linarith)]
    linarith
  refine ⟨error.trans_lt margin, by linarith, ?_⟩
  have step := (abs_le.mp error).2
  push_cast
  linarith

/-- Taking VAT out divides by the rate, closely enough for the rounding to cents. -/
theorem calculateFromGross_spec
    (spec : RateSpec upper today countryCode (transactionDate.getD today) rate thousandths)
    {amount : Decimal} {cents : ℤ} (denotes : Denotes amount (cents / 100)) (nonneg : 0 ≤ cents)
    (below : cents < 10 ^ 23) :
    ∃ quotient calculation, calculateFromGross upper today amount countryCode transactionDate =
      .ok calculation ∧ GrossSpec (thousandths / 1000) cents quotient calculation := by
  -- One plus the rate is a whole number of thousandths.
  obtain ⟨form, one⟩ := Decimal.ofInt_eq 1
  have oneDenotes : Denotes (.ofInt 1) 1 := ⟨_, _, _, form, by exact_mod_cast one⟩
  have base : (1 : ℚ) + thousandths / 1000 = (1000 + thousandths : ℤ) / 10 ^ 3 := by
    push_cast
    ring
  have baseFits : |(1000 + thousandths : ℤ)| < 10 ^ 28 := by
    have cap := spec.atMost
    rw [abs_lt]
    omega
  obtain ⟨divisor, adds, divisorDenotes⟩ :=
    oneDenotes.add spec.denotes (base ▸ fits_of_units 3 baseFits)
  have positive : (0 : ℚ) < 1 + thousandths / 1000 := by positivity
  obtain ⟨divided, number, divides, dividedDenotes, close⟩ :=
    denotes.div divisorDenotes positive.ne'
  obtain ⟨closeQuotient, numberNonneg, numberBelow⟩ :=
    divided_bounds spec.atLeast spec.atMost nonneg below close
  have bounds := rounded_bounds numberNonneg numberBelow
  have scaled : number = number * 100 / 100 := by ring
  rw [scaled] at dividedDenotes
  obtain ⟨net, quantizes, netDenotes⟩ :=
    dividedDenotes.quantize numberNonneg (by omega)
  -- What is left of the amount is a whole number of cents.
  have rest : (cents : ℚ) / 100 - round (number * 100) / 100 =
      (cents - round (number * 100) : ℤ) / 10 ^ 2 := by
    push_cast
    ring
  have restFits : |cents - round (number * 100)| < 10 ^ 28 := by
    rw [abs_lt]
    omega
  obtain ⟨vat, subtracts, vatDenotes⟩ := denotes.sub netDenotes (rest ▸ fits_of_units 2 restFits)
  refine ⟨number * 100,
    ⟨net, vat, amount, rate, countryCode, transactionDate.getD today⟩, ?_, closeQuotient,
    bounds.1, bounds.2, netDenotes, ?_⟩
  · simp [calculateFromGross, spec.inForce, adds, divides, quantizes, subtracts, Except.mapError]
  · rw [rest] at vatDenotes
    norm_num at vatDenotes ⊢
    exact vatDenotes

/-- Both decimals denote one number. -/
def SameNumber (left right : Decimal) : Prop :=
  ∃ number, Denotes left number ∧ Denotes right number

/-- The decimals denote numbers that are at most a cent apart. -/
def WithinCent (left right : Decimal) : Prop :=
  ∃ first second, Denotes left first ∧ Denotes right second ∧ |first - second| ≤ 1 / 100

private theorem withinCent_of_units {left right : Decimal} {first second : ℤ}
    (leftDenotes : Denotes left (first / 100)) (rightDenotes : Denotes right (second / 100))
    (close : |first - second| ≤ 1) : WithinCent left right := by
  refine ⟨_, _, leftDenotes, rightDenotes, ?_⟩
  -- A difference of whole cents.
  have cast : |(first : ℚ) - second| ≤ 1 := by exact_mod_cast close
  have hundredth : (first : ℚ) / 100 - second / 100 = (first - second) / 100 := by ring
  rw [hundredth, abs_div, abs_of_pos (by norm_num : (0 : ℚ) < 100)]
  linarith

/-- A supported country has a rate on every date. -/
theorem rateSpec_of_supported (supported : Supported upper countryCode) (today : Date)
    (transactionDate : Date) :
    ∃ rate thousandths, RateSpec upper today countryCode transactionDate rate thousandths := by
  obtain ⟨rate, inForce, valid⟩ := getVatRate_supported supported today (some transactionDate)
  obtain ⟨thousandths, denotes, lower, higher⟩ := valid.denotes
  exact ⟨rate, thousandths, inForce, denotes, lower, higher⟩

/--
Net amounts come back from their gross amounts, and gross amounts from their net amounts up to a cent.

This holds for every supported country on every date, and for every amount of whole cents below
10^20. The VAT amounts agree in the same way.
-/
theorem vat_round_trip (today : Date) (supported : Supported upper countryCode)
    (transactionDate : Option Date) {amount : Decimal} {cents : ℕ}
    (denotes : Denotes amount (cents / 100)) (below : (cents : ℚ) / 100 < 10 ^ 20) :
    (∃ added taken,
      calculateFromNet upper today amount countryCode transactionDate = .ok added ∧
      calculateFromGross upper today added.grossAmount countryCode transactionDate = .ok taken ∧
      SameNumber taken.netAmount amount ∧ SameNumber taken.vatAmount added.vatAmount) ∧
    ∃ taken added,
      calculateFromGross upper today amount countryCode transactionDate = .ok taken ∧
      calculateFromNet upper today taken.netAmount countryCode transactionDate = .ok added ∧
      WithinCent added.grossAmount amount ∧ WithinCent added.vatAmount taken.vatAmount := by
  obtain ⟨rate, thousandths, spec⟩ :=
    rateSpec_of_supported supported today (transactionDate.getD today)
  have lower : (170 : ℚ) ≤ thousandths := by exact_mod_cast spec.atLeast
  have higher : (thousandths : ℚ) ≤ 270 := by exact_mod_cast spec.atMost
  have positive : (0 : ℚ) < thousandths / 1000 := by linarith
  have small : (thousandths : ℚ) / 1000 < 1 := by linarith
  have centsNonneg : (0 : ℤ) ≤ cents := Int.natCast_nonneg cents
  have centsBelow : (cents : ℤ) < 10 ^ 22 := by
    have step : (cents : ℚ) < 10 ^ 22 := by linarith
    exact_mod_cast step
  have denotesInt : Denotes amount ((cents : ℤ) / 100) := by
    rw [Int.cast_natCast]
    exact denotes
  constructor
  · obtain ⟨added, adds, net⟩ := calculateFromNet_spec spec denotesInt centsNonneg (by omega)
    -- The gross amount is a number of cents to which the other direction applies.
    obtain ⟨-, shareBounds⟩ := share_bounds spec.atMost centsNonneg centsBelow
    have grossNonneg : 0 ≤ withShare ((thousandths : ℚ) / 1000) cents := by
      unfold withShare
      omega
    have grossBelow : withShare ((thousandths : ℚ) / 1000) cents < 10 ^ 23 := by
      unfold withShare
      omega
    obtain ⟨quotient, taken, takes, gross⟩ :=
      calculateFromGross_spec spec net.gross grossNonneg grossBelow
    have found : round quotient = cents := round_quotient positive gross.close
    have netDenotes := gross.net
    have vatDenotes := gross.vat
    rw [found] at netDenotes vatDenotes
    exact ⟨added, taken, adds, takes, ⟨_, netDenotes, denotesInt⟩, ⟨_, vatDenotes, net.vat⟩⟩
  · obtain ⟨quotient, taken, takes, gross⟩ :=
      calculateFromGross_spec spec denotesInt centsNonneg (by omega)
    have netBelow := gross.below
    obtain ⟨added, adds, net⟩ := calculateFromNet_spec spec gross.net gross.nonneg (by omega)
    -- Both differences are the one between the total found and the amount.
    have apart : |withShare ((thousandths : ℚ) / 1000) (round quotient) - cents| ≤ 1 :=
      withShare_round_quotient positive small gross.close
    refine ⟨taken, added, takes, adds, withinCent_of_units net.gross denotesInt apart,
      withinCent_of_units net.vat gross.vat ?_⟩
    have same : withShare ((thousandths : ℚ) / 1000) (round quotient) - round quotient -
        (cents - round quotient) =
        withShare ((thousandths : ℚ) / 1000) (round quotient) - cents := by ring
    rw [same]
    exact apart

/-- A hundred euros in Lithuania. -/
theorem vat_round_trip_lithuania :
    (∃ added taken,
      calculateFromNet asciiUpper ⟨2026, 8, 12, by decide⟩ (.finite false 10000 (-2)) "lt" none =
        .ok added ∧
      calculateFromGross asciiUpper ⟨2026, 8, 12, by decide⟩ added.grossAmount "lt" none =
        .ok taken ∧
      SameNumber taken.netAmount (.finite false 10000 (-2)) ∧
      SameNumber taken.vatAmount added.vatAmount) ∧
    ∃ taken added,
      calculateFromGross asciiUpper ⟨2026, 8, 12, by decide⟩ (.finite false 10000 (-2)) "lt" none =
        .ok taken ∧
      calculateFromNet asciiUpper ⟨2026, 8, 12, by decide⟩ taken.netAmount "lt" none =
        .ok added ∧
      WithinCent added.grossAmount (.finite false 10000 (-2)) ∧
      WithinCent added.vatAmount taken.vatAmount := by
  -- The rate is found under the upper-case code on any date.
  have supported : Supported asciiUpper "lt" := by
    unfold Supported
    decide +kernel
  have denotes : Denotes (.finite false 10000 (-2)) ((10000 : ℕ) / 100) := by
    refine ⟨_, _, _, rfl, ?_⟩
    norm_num [Decimal.value, Significant.value, zpow_neg]
  exact vat_round_trip ⟨2026, 8, 12, by decide⟩ supported none denotes (by norm_num)

end VatCalculator

end JolCommerce
