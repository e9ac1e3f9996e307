import JolCommerce.Numeric.RoundedSum
import JolCommerce.Tax.InvoiceGenerator
import JolCommerce.Tax.RoundTrip

/-! The totals of an invoice agree with its lines, the VAT up to half a cent for each line. -/

namespace JolCommerce

open Python RoundedSum

/-- The number a decimal denotes, zero for infinities and NaNs. -/
def decimalNumber : Decimal → ℚ
  | .finite negative coefficient exponent => Decimal.value negative coefficient exponent
  | _ => 0

/-- It is the denoted number where there is one. -/
theorem Denotes.number_eq {decimal : Decimal} {number : ℚ} (denotes : Denotes decimal number) :
    decimalNumber decimal = number := by
  obtain ⟨_, _, _, rfl, same⟩ := denotes
  exact same

/-- Numbers from zero with at most four decimals. -/
def FourDecimals (number : ℚ) : Prop := ∃ units : ℕ, number = units / 10 ^ 4

/-- Zero needs no decimals. -/
theorem fourDecimals_zero : FourDecimals 0 := ⟨0, by simp⟩

/-- A sum has no more decimals than its parts. -/
theorem FourDecimals.add {first second : ℚ} (left : FourDecimals first)
    (right : FourDecimals second) : FourDecimals (first + second) := by
  obtain ⟨leftUnits, rfl⟩ := left
  obtain ⟨rightUnits, rfl⟩ := right
  refine ⟨leftUnits + rightUnits, ?_⟩
  push_cast
  ring

/-- Such a number is not negative. -/
theorem FourDecimals.nonneg {number : ℚ} (decimals : FourDecimals number) : 0 ≤ number := by
  obtain ⟨units, rfl⟩ := decimals
  positivity

/-- Below 10^24 the digits of the context suffice for it. -/
theorem FourDecimals.fits {number : ℚ} (decimals : FourDecimals number) (small : number < 10 ^ 24) :
    Decimal.Fits number := by
  obtain ⟨units, rfl⟩ := decimals
  have count : (units : ℚ) < 10 ^ 28 := by
    rw [div_lt_iff₀ (by norm_num)] at small
    linarith
  have whole : (units : ℚ) = ((units : ℤ) : ℚ) := (Int.cast_natCast units).symm
  rw [whole]
  apply fits_of_units
  rw [abs_of_nonneg (Int.natCast_nonneg units)]
  exact_mod_cast count

namespace InvoiceLineItem

/-- The net amount of a line: its quantity times its price. -/
def net (item : InvoiceLineItem) : ℚ := item.quantity * decimalNumber item.unitPriceNet

/-- The rate in force for a line. -/
def rate (upper : String → String) (item : InvoiceLineItem) : ℚ :=
  match eu27Rates.get? (upper item.countryCode) with
  | some history => decimalNumber (rateOn history item.transactionDate)
  | none => 0

/-- The VAT of a line, rounded half up to cents. -/
def vat (upper : String → String) (item : InvoiceLineItem) : ℚ :=
  round (item.net * item.rate upper * 100) / 100

/-- A line that can be billed: a price with at most four decimals, some number of times, in the EU. -/
structure Billable (upper : String → String) (item : InvoiceLineItem) : Prop where
  price : ∃ units : ℕ, Denotes item.unitPriceNet (units / 10 ^ 4)
  quantity : 0 ≤ item.quantity
  supported : Supported upper item.countryCode

variable {upper : String → String} {item : InvoiceLineItem}

/-- The net amount of such a line has four decimals at most. -/
theorem Billable.fourDecimals_net (billable : Billable upper item) : FourDecimals item.net := by
  -- A multiple of a price has the units of the price.
  obtain ⟨units, denotes⟩ := billable.price
  obtain ⟨count, counted⟩ := Int.eq_ofNat_of_zero_le billable.quantity
  refine ⟨count * units, ?_⟩
  rw [net, denotes.number_eq, counted]
  push_cast
  ring

/-- Its rate is a number of thousandths. -/
theorem Billable.rateSpec (billable : Billable upper item) (today : Date) :
    ∃ decimal thousandths, VatCalculator.RateSpec upper today item.countryCode item.transactionDate
      decimal thousandths ∧ item.rate upper = thousandths / 1000 := by
  obtain ⟨decimal, thousandths, spec⟩ :=
    VatCalculator.rateSpec_of_supported billable.supported today item.transactionDate
  refine ⟨decimal, thousandths, spec, ?_⟩
  -- The calculation looks the rate up in the same table.
  have found := spec.inForce
  unfold getVatRate at found
  unfold rate
  cases history : eu27Rates.get? (upper item.countryCode) with
  | none => simp [history] at found
  | some rates =>
    simp only [history, Option.getD_some, Except.ok.injEq] at found
    simp only [found]
    exact spec.denotes.number_eq

/-- The calculation of a line gives its amounts. -/
structure Calculated (upper : String → String) (item : InvoiceLineItem)
    (calculation : VatCalculation) : Prop where
  net : Denotes calculation.netAmount item.net
  rate : Denotes calculation.vatRate (item.rate upper)
  vat : Denotes calculation.vatAmount (item.vat upper)
  gross : Denotes calculation.grossAmount (item.net + item.vat upper)

/-- A line below 10^20 is calculated without loss but for the rounding of its VAT. -/
theorem Billable.vatCalculation (billable : Billable upper item) (small : item.net < 10 ^ 20)
    (today : Date) : ∃ calculation, item.vatCalculation upper today = .ok calculation ∧
      Calculated upper item calculation := by
  obtain ⟨decimal, thousandths, spec, rated⟩ := billable.rateSpec today
  obtain ⟨units, counts⟩ := billable.fourDecimals_net
  obtain ⟨priceUnits, price⟩ := billable.price
  obtain ⟨form, quantity⟩ := Decimal.ofInt_eq item.quantity
  have quantityDenotes : Denotes (.ofInt item.quantity) item.quantity :=
    ⟨_, _, _, form, quantity⟩
  -- Price and quantity are multiplied exactly.
  have product : (priceUnits : ℚ) / 10 ^ 4 * item.quantity = item.net := by
    rw [InvoiceLineItem.net, price.number_eq]
    ring
  have productFits := billable.fourDecimals_net.fits (small.trans (by norm_num))
  obtain ⟨totalNet, multiplies, netDenotes⟩ :=
    price.mul quantityDenotes (product ▸ productFits)
  rw [product, counts, ← Int.cast_natCast] at netDenotes
  have below : (units : ℤ) < 10 ^ 25 := by
    rw [counts, div_lt_iff₀ (by norm_num)] at small
    have step : (units : ℚ) < 10 ^ 25 := small.trans (by norm_num)
    exact_mod_cast step
  have dated : VatCalculator.RateSpec upper today item.countryCode
      ((some item.transactionDate).getD today) decimal thousandths := spec
  obtain ⟨calculation, calculates, rate, amounts⟩ :=
    VatCalculator.calculateFromNet_amount dated netDenotes (Int.natCast_nonneg units) below
  rw [Int.cast_natCast, ← counts, ← rated] at amounts
  refine ⟨calculation, ?_, amounts.net, ?_, amounts.vat, amounts.gross⟩
  · simp [InvoiceLineItem.vatCalculation, multiplies, Except.mapError, calculates]
  · rw [rate, rated]
    exact spec.denotes

/-- Half a cent is the most that rounding changes. -/
theorem abs_vat_sub_le (upper : String → String) (item : InvoiceLineItem) :
    |item.vat upper - item.net * item.rate upper| ≤ 1 / 200 := by
  -- The rounding is to whole cents, so half a cent is half of the unit.
  have rounding := abs_sub_round (item.net * item.rate upper * 100)
  rw [abs_le] at rounding ⊢
  unfold vat
  constructor <;> linarith [rounding.1, rounding.2]

/-- The VAT of a line that can be billed is a number of cents, and no more than its net amount. -/
theorem Billable.vat_bounds (billable : Billable upper item) :
    FourDecimals (item.vat upper) ∧ item.vat upper ≤ item.net := by
  -- The date on which the rate is looked up is the one of the line.
  obtain ⟨_, thousandths, spec, rated⟩ := billable.rateSpec item.transactionDate
  have atMost : (thousandths : ℚ) ≤ 270 := by exact_mod_cast spec.atMost
  have netNonneg := billable.fourDecimals_net.nonneg
  -- No rate is above 27 percent, and rounding at most doubles the share.
  have share : item.net * item.rate upper ≤ item.net * (270 / 1000) := by
    rw [rated]
    exact mul_le_mul_of_nonneg_left (by linarith) netNonneg
  have nonneg : 0 ≤ item.net * item.rate upper * 100 := by
    rw [rated]
    positivity
  obtain ⟨cents, counted⟩ := Int.eq_ofNat_of_zero_le (round_nonneg nonneg)
  have rounded := round_le_two_mul nonneg
  unfold vat
  rw [counted] at rounded ⊢
  rw [Int.cast_natCast] at rounded ⊢
  refine ⟨⟨cents * 100, ?_⟩, ?_⟩
  · push_cast
    ring
  · linarith

end InvoiceLineItem

namespace Invoice

variable {upper : String → String} {today : Date}

/-- A sum over lines denotes the sum of their numbers, as long as it stays small. -/
theorem sumOf_denotes {amount : VatCalculation → Decimal} {number : InvoiceLineItem → ℚ}
    {lineItems : List InvoiceLineItem}
    (each : ∀ item ∈ lineItems, ∃ calculation, item.vatCalculation upper today = .ok calculation ∧
      Denotes (amount calculation) (number item) ∧ FourDecimals (number item))
    (small : (lineItems.map number).sum < 10 ^ 24) :
    FourDecimals (lineItems.map number).sum ∧
      ∃ total, sumOf upper today amount lineItems = .ok total ∧
        Denotes total (lineItems.map number).sum := by
  -- The last line is added to the sum of the lines before it.
  induction lineItems using List.reverseRecOn with
  | nil =>
    obtain ⟨form, zero⟩ := Decimal.ofInt_eq 0
    exact ⟨fourDecimals_zero, .ofInt 0, rfl, _, _, _, form, by simpa using zero⟩
  | append_singleton before item ih =>
    obtain ⟨calculation, calculates, amountDenotes, amountDecimals⟩ := each item (by simp)
    have earlier := fun other member => each other (List.mem_append_left [item] member)
    rw [List.map_append, List.sum_append, List.map_singleton, List.sum_singleton] at small ⊢
    have amountNonneg := amountDecimals.nonneg
    obtain ⟨sumDecimals, sum, sums, sumDenotes⟩ := ih earlier (by linarith)
    -- What is added up so far has four decimals, so this addition is exact.
    have decimals := sumDecimals.add amountDecimals
    obtain ⟨total, adds, totalDenotes⟩ := sumDenotes.add amountDenotes (decimals.fits small)
    refine ⟨decimals, total, ?_, totalDenotes⟩
    unfold sumOf at sums ⊢
    rw [List.foldlM_append, sums]
    simp [calculates, adds, Except.mapError]

/-- Every line is calculated. -/
theorem mapM_vatCalculation (today : Date) {lineItems : List InvoiceLineItem}
    (billable : ∀ item ∈ lineItems, item.Billable upper)
    (small : ∀ item ∈ lineItems, item.net < 10 ^ 20) :
    ∃ calculations, lineItems.mapM (InvoiceLineItem.vatCalculation upper today) = .ok calculations ∧
      List.Forall₂ (InvoiceLineItem.Calculated upper) lineItems calculations := by
  -- The property of every line stands alone.
  induction lineItems with
  | nil => exact ⟨[], rfl, .nil⟩
  | cons item rest ih =>
    have first := billable item List.mem_cons_self
    obtain ⟨calculation, calculates, amounts⟩ :=
      first.vatCalculation (small item List.mem_cons_self) today
    obtain ⟨calculations, others, related⟩ :=
      ih (fun other member => billable other (List.mem_cons_of_mem item member))
        fun other member => small other (List.mem_cons_of_mem item member)
    refine ⟨calculation :: calculations, ?_, .cons amounts related⟩
    simp [List.mapM_cons, calculates, others]

/-- The sum of something over the calculations is a sum over the lines. -/
theorem sum_calculations {lineItems : List InvoiceLineItem} {calculations : List VatCalculation}
    (related : List.Forall₂ (InvoiceLineItem.Calculated upper) lineItems calculations)
    {reported : VatCalculation → ℚ} {number : InvoiceLineItem → ℚ}
    (agree : ∀ item calculation, InvoiceLineItem.Calculated upper item calculation →
      reported calculation = number item) :
    (calculations.map reported).sum = (lineItems.map number).sum := by
  induction related with
  | nil => rfl
  | cons amounts _ ih =>
    rw [List.map_cons, List.map_cons, List.sum_cons, List.sum_cons, ih, agree _ _ amounts]

/-- The sum of the VAT of all lines is a number of cents. -/
theorem sum_vat_cents (upper : String → String) (lineItems : List InvoiceLineItem) :
    ∃ cents : ℤ, (lineItems.map (InvoiceLineItem.vat upper)).sum = cents / 100 := by
  induction lineItems with
  | nil => exact ⟨0, by simp⟩
  | cons item rest ih =>
    obtain ⟨cents, sum⟩ := ih
    -- Every line adds the cents it was rounded to.
    refine ⟨round (item.net * item.rate upper * 100) + cents, ?_⟩
    rw [List.map_cons, List.sum_cons, sum, InvoiceLineItem.vat]
    push_cast
    ring

/-- The totals of an invoice, by the numbers of its lines. -/
structure Totals (upper : String → String) (today : Date) (invoice : Invoice)
    (net vat gross : Decimal) : Prop where
  totalNet : invoice.totalNet upper today = .ok net
  totalVat : invoice.totalVat upper today = .ok vat
  totalGross : invoice.totalGross upper today = .ok gross
  net : Denotes net (invoice.lineItems.map InvoiceLineItem.net).sum
  vat : Denotes vat (invoice.lineItems.map (InvoiceLineItem.vat upper)).sum
  gross : Denotes gross ((invoice.lineItems.map InvoiceLineItem.net).sum +
    (invoice.lineItems.map (InvoiceLineItem.vat upper)).sum)

/-- No line has a net amount above the sum. -/
theorem net_lt {lineItems : List InvoiceLineItem}
    (billable : ∀ item ∈ lineItems, item.Billable upper)
    (small : (lineItems.map InvoiceLineItem.net).sum < 10 ^ 20) {item : InvoiceLineItem}
    (member : item ∈ lineItems) : item.net < 10 ^ 20 := by
  have nonneg := fun other otherMember => (billable other otherMember).fourDecimals_net.nonneg
  exact (le_sum nonneg member).trans_lt small

/-- The totals are found, and denote the sums over the lines. -/
theorem exists_totals {invoice : Invoice} (today : Date)
    (billable : ∀ item ∈ invoice.lineItems, item.Billable upper)
    (small : (invoice.lineItems.map InvoiceLineItem.net).sum < 10 ^ 20) :
    ∃ net vat gross, Totals upper today invoice net vat gross := by
  -- Since no line is above the sum, all are calculated.
  have calculated := fun item member =>
    (billable item member).vatCalculation (net_lt billable small member) today
  -- The VAT is no more than the net amount, line by line.
  have vatSmall : (invoice.lineItems.map (InvoiceLineItem.vat upper)).sum ≤
      (invoice.lineItems.map InvoiceLineItem.net).sum :=
    List.sum_le_sum fun item member => (billable item member).vat_bounds.2
  obtain ⟨netDecimals, net, nets, netDenotes⟩ :
      FourDecimals (invoice.lineItems.map InvoiceLineItem.net).sum ∧ ∃ net,
        invoice.totalNet upper today = .ok net ∧
        Denotes net (invoice.lineItems.map InvoiceLineItem.net).sum := by
    refine sumOf_denotes (fun item member => ?_) (by linarith)
    obtain ⟨calculation, calculates, amounts⟩ := calculated item member
    exact ⟨calculation, calculates, amounts.net, (billable item member).fourDecimals_net⟩
  obtain ⟨vatDecimals, vat, vats, vatDenotes⟩ :
      FourDecimals (invoice.lineItems.map (InvoiceLineItem.vat upper)).sum ∧ ∃ vat,
        invoice.totalVat upper today = .ok vat ∧
        Denotes vat (invoice.lineItems.map (InvoiceLineItem.vat upper)).sum := by
    refine sumOf_denotes (fun item member => ?_) (by linarith)
    obtain ⟨calculation, calculates, amounts⟩ := calculated item member
    exact ⟨calculation, calculates, amounts.vat, (billable item member).vat_bounds.1⟩
  obtain ⟨gross, adds, grossDenotes⟩ :=
    netDenotes.add vatDenotes ((netDecimals.add vatDecimals).fits (by linarith))
  refine ⟨net, vat, gross, nets, vats, ?_, netDenotes, vatDenotes, grossDenotes⟩
  unfold totalGross
  simp [nets, vats, adds, Except.mapError]

/-- The order of the lines does not matter for the numbers. -/
theorem Totals.same_of_perm {first second : Invoice} {net vat gross net' vat' gross' : Decimal}
    (left : Totals upper today first net vat gross)
    (right : Totals upper today second net' vat' gross')
    (reordered : first.lineItems.Perm second.lineItems) :
    VatCalculator.SameNumber net net' ∧ VatCalculator.SameNumber vat vat' ∧
      VatCalculator.SameNumber gross gross' := by
  -- Both invoices denote the same three sums.
  have netSum := (reordered.map InvoiceLineItem.net).sum_eq
  have vatSum := (reordered.map (InvoiceLineItem.vat upper)).sum_eq
  have net := left.net
  have vat := left.vat
  have gross := left.gross
  rw [netSum] at net gross
  rw [vatSum] at vat gross
  exact ⟨⟨_, net, right.net⟩, ⟨_, vat, right.vat⟩, ⟨_, gross, right.gross⟩⟩

/--
The totals of an invoice agree with its lines.

This holds for any number of lines that can be billed, at the rates of their countries and dates,
whose net amounts stay below 10^20 together.
-/
theorem totals_agree (today : Date) {invoice : Invoice}
    (billable : ∀ item ∈ invoice.lineItems, item.Billable upper)
    (small : (invoice.lineItems.map InvoiceLineItem.net).sum < 10 ^ 20) :
    ∃ calculations net vat gross,
      invoice.lineItems.mapM (InvoiceLineItem.vatCalculation upper today) = .ok calculations ∧
      List.Forall₂ (InvoiceLineItem.Calculated upper) invoice.lineItems calculations ∧
      invoice.totalNet upper today = .ok net ∧
      invoice.totalVat upper today = .ok vat ∧
      invoice.totalGross upper today = .ok gross ∧
      Denotes gross (calculations.map fun calculation => decimalNumber calculation.grossAmount).sum ∧
      Denotes net (invoice.lineItems.map InvoiceLineItem.net).sum ∧
      (∃ cents : ℤ, Denotes vat (cents / 100) ∧
        |(cents : ℚ) / 100 - (calculations.map fun calculation =>
          decimalNumber calculation.netAmount * decimalNumber calculation.vatRate).sum| ≤
          invoice.lineItems.length * (1 / 200)) ∧
      ∀ reordered : Invoice, reordered.lineItems.Perm invoice.lineItems →
        ∃ net' vat' gross',
          reordered.totalNet upper today = .ok net' ∧
          reordered.totalVat upper today = .ok vat' ∧
          reordered.totalGross upper today = .ok gross' ∧
          VatCalculator.SameNumber net' net ∧ VatCalculator.SameNumber vat' vat ∧
          VatCalculator.SameNumber gross' gross := by
  obtain ⟨calculations, calculates, related⟩ :=
    mapM_vatCalculation today billable fun item member => net_lt billable small member
  obtain ⟨net, vat, gross, totals⟩ := exists_totals today billable small
  refine ⟨calculations, net, vat, gross, calculates, related, totals.totalNet, totals.totalVat,
    totals.totalGross, ?_, totals.net, ?_, ?_⟩
  · -- Both ways to the gross total add up net amounts and VAT.
    rw [sum_calculations related fun item calculation amounts => amounts.gross.number_eq,
      List.sum_map_add]
    exact totals.gross
  · obtain ⟨cents, sum⟩ := sum_vat_cents upper invoice.lineItems
    refine ⟨cents, sum ▸ totals.vat, ?_⟩
    rw [sum_calculations related fun item calculation amounts => by
      rw [amounts.net.number_eq, amounts.rate.number_eq], ← sum]
    exact abs_sum_sub_le fun item _ => item.abs_vat_sub_le upper
  · intro reordered permuted
    have billable' : ∀ item ∈ reordered.lineItems, item.Billable upper :=
      fun item member => billable item (permuted.mem_iff.mp member)
    -- The bound is on the sum, which stays the same.
    have small' : (reordered.lineItems.map InvoiceLineItem.net).sum < 10 ^ 20 := by
      rw [(permuted.map InvoiceLineItem.net).sum_eq]
      exact small
    obtain ⟨net', vat', gross', totals'⟩ := exists_totals today billable' small'
    exact ⟨net', vat', gross', totals'.totalNet, totals'.totalVat, totals'.totalGross,
      totals'.same_of_perm totals permuted⟩

/-- Three candles for Lithuania and a book for Germany, on one invoice. -/
def candlesAndBook : Invoice where
  invoiceNumber := "JOL-202609-000001"
  invoiceDate := ⟨2026, 9, 7, by decide⟩
  sellerName := "Journey of Life"
  sellerVatNumber := "LT100001234567"
  buyerName := "Jonas"
  buyerCountry := "LT"
  lineItems := [
    ⟨"Candle", 3, .finite false 19995 (-3), "lt", ⟨2026, 9, 7, by decide⟩⟩,
    ⟨"Book", 1, .finite false 1234 (-2), "DE", ⟨2026, 9, 7, by decide⟩⟩]

/-- The first of them has a net amount with half a cent, and the rates differ. -/
theorem totals_agree_candlesAndBook :
    ∃ calculations net vat gross,
      candlesAndBook.lineItems.mapM
        (InvoiceLineItem.vatCalculation asciiUpper ⟨2026, 9, 7, by decide⟩) = .ok calculations ∧
      List.Forall₂ (InvoiceLineItem.Calculated asciiUpper) candlesAndBook.lineItems calculations ∧
      candlesAndBook.totalNet asciiUpper ⟨2026, 9, 7, by decide⟩ = .ok net ∧
      candlesAndBook.totalVat asciiUpper ⟨2026, 9, 7, by decide⟩ = .ok vat ∧
      candlesAndBook.totalGross asciiUpper ⟨2026, 9, 7, by decide⟩ = .ok gross ∧
      Denotes gross (calculations.map fun calculation => decimalNumber calculation.grossAmount).sum ∧
      Denotes net (candlesAndBook.lineItems.map InvoiceLineItem.net).sum ∧
      (∃ cents : ℤ, Denotes vat (cents / 100) ∧
        |(cents : ℚ) / 100 - (calculations.map fun calculation =>
          decimalNumber calculation.netAmount * decimalNumber calculation.vatRate).sum| ≤
          candlesAndBook.lineItems.length * (1 / 200)) ∧
      ∀ reordered : Invoice, reordered.lineItems.Perm candlesAndBook.lineItems →
        ∃ net' vat' gross',
          reordered.totalNet asciiUpper ⟨2026, 9, 7, by decide⟩ = .ok net' ∧
          reordered.totalVat asciiUpper ⟨2026, 9, 7, by decide⟩ = .ok vat' ∧
          reordered.totalGross asciiUpper ⟨2026, 9, 7, by decide⟩ = .ok gross' ∧
          VatCalculator.SameNumber net' net ∧ VatCalculator.SameNumber vat' vat ∧
          VatCalculator.SameNumber gross' gross := by
  have lithuania : Supported asciiUpper "lt" := by
    unfold Supported
    decide +kernel
  have germany : Supported asciiUpper "DE" := by
    unfold Supported
    decide +kernel
  have candle : Denotes (.finite false 19995 (-3)) ((199950 : ℕ) / 10 ^ 4) := by
    refine ⟨_, _, _, rfl, ?_⟩
    norm_num [Decimal.value, Significant.value, zpow_neg]
  have book : Denotes (.finite false 1234 (-2)) ((123400 : ℕ) / 10 ^ 4) := by
    refine ⟨_, _, _, rfl, ?_⟩
    norm_num [Decimal.value, Significant.value, zpow_neg]
  refine totals_agree ⟨2026, 9, 7, by decide⟩ ?_ ?_
  · intro item member
    rcases List.mem_cons.mp member with rfl | member
    · exact ⟨⟨_, candle⟩, by decide, lithuania⟩
    · rw [List.mem_singleton.mp member]
      exact ⟨⟨_, book⟩, by decide, germany⟩
  · simp only [candlesAndBook, List.map_cons, List.map_nil, List.sum_cons, List.sum_nil,
      InvoiceLineItem.net, candle.number_eq, book.number_eq]
    norm_num

end Invoice

end JolCommerce
