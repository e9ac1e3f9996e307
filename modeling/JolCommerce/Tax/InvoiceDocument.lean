import JolCommerce.Python.DateTime
import JolCommerce.Tax.InvoiceTotals

/-! The dictionary of an invoice, whose texts alone tell all of its amounts. -/

namespace JolCommerce

open Python

/-- The dictionary of a line. -/
structure InvoiceLineDict where
  description : String
  quantity : Int
  unitPriceNet : String
  netTotal : String
  vatAmount : String
  vatRate : String
  grossTotal : String

/-- The dictionary under `seller`. -/
structure SellerDict where
  name : String
  vatNumber : String

/-- The dictionary under `buyer`. -/
structure BuyerDict where
  name : String
  country : String

/-- The dictionary under `totals`. -/
structure TotalsDict where
  net : String
  vat : String
  gross : String
  currency : String

/-- The dictionary of an invoice. -/
structure InvoiceDict where
  invoiceNumber : String
  invoiceDate : String
  seller : SellerDict
  buyer : BuyerDict
  lineItems : List InvoiceLineDict
  totals : TotalsDict
  generatedAt : String

/-- The dictionary of a line, whose VAT is calculated anew for each of its amounts. -/
def InvoiceLineItem.toDict (upper : String → String) (today : Date) (item : InvoiceLineItem) :
    Except VatError InvoiceLineDict := do
  let calculation ← item.vatCalculation upper today
  return {
    description := item.description
    quantity := item.quantity
    unitPriceNet := item.unitPriceNet.toStr
    netTotal := calculation.netAmount.toStr
    vatAmount := calculation.vatAmount.toStr
    vatRate := calculation.vatRate.toStr
    grossTotal := calculation.grossAmount.toStr }

/-- `to_dict()`, at a clock reading. -/
def Invoice.toDict (upper : String → String) (today : Date) (now : DateTime) (invoice : Invoice) :
    Except VatError InvoiceDict := do
  let lineItems ← invoice.lineItems.mapM (InvoiceLineItem.toDict upper today)
  let net ← invoice.totalNet upper today
  let vat ← invoice.totalVat upper today
  let gross ← invoice.totalGross upper today
  return {
    invoiceNumber := invoice.invoiceNumber
    invoiceDate := invoice.invoiceDate.isoformat
    seller := ⟨invoice.sellerName, invoice.sellerVatNumber⟩
    buyer := ⟨invoice.buyerName, invoice.buyerCountry⟩
    lineItems
    totals := ⟨net.toStr, vat.toStr, gross.toStr, invoice.currency⟩
    generatedAt := now.isoformat }

/-- The number that a text denotes as a decimal, if it denotes any. -/
def readAmount? (text : String) : Option ℚ :=
  match Decimal.parse? text with
  | some (.finite negative coefficient exponent) =>
    some (Decimal.value negative coefficient exponent)
  | some (.infinity _) => none
  | some (.nan _ _ _) => none
  | none => none

/-- The text of a decimal tells the number it denotes. -/
theorem Denotes.readAmount {decimal : Decimal} {number : ℚ} (denotes : Denotes decimal number) :
    readAmount? decimal.toStr = some number := by
  obtain ⟨negative, coefficient, exponent, rfl, same⟩ := denotes
  rw [readAmount?, Decimal.parse_toStr, ← same]

/-- The amounts of a line. -/
structure LineAmounts where
  quantity : Int
  price : ℚ
  net : ℚ
  vat : ℚ
  rate : ℚ
  gross : ℚ
  deriving DecidableEq

/-- The amounts of an invoice. -/
structure InvoiceAmounts where
  lines : List LineAmounts
  net : ℚ
  vat : ℚ
  gross : ℚ
  deriving DecidableEq

/-- The amounts that the dictionary of a line tells. -/
def InvoiceLineDict.amounts? (line : InvoiceLineDict) : Option LineAmounts := do
  let price ← readAmount? line.unitPriceNet
  let net ← readAmount? line.netTotal
  let vat ← readAmount? line.vatAmount
  let rate ← readAmount? line.vatRate
  let gross ← readAmount? line.grossTotal
  return ⟨line.quantity, price, net, vat, rate, gross⟩

/-- The amounts that the dictionary of an invoice tells. -/
def InvoiceDict.amounts? (document : InvoiceDict) : Option InvoiceAmounts := do
  let lines ← document.lineItems.mapM InvoiceLineDict.amounts?
  let net ← readAmount? document.totals.net
  let vat ← readAmount? document.totals.vat
  let gross ← readAmount? document.totals.gross
  return ⟨lines, net, vat, gross⟩

/-- A line adds up: quantity times price, VAT at its rate to the nearest cent, and both together. -/
def LineAmounts.AddsUp (line : LineAmounts) : Prop :=
  line.net = line.quantity * line.price ∧
    line.vat = round (line.net * line.rate * 100) / 100 ∧
    line.gross = line.net + line.vat

/-- So does an invoice, whose totals are the sums over its lines. -/
structure InvoiceAmounts.AddsUp (amounts : InvoiceAmounts) : Prop where
  lines : ∀ line ∈ amounts.lines, line.AddsUp
  net : amounts.net = (amounts.lines.map LineAmounts.net).sum
  vat : amounts.vat = (amounts.lines.map LineAmounts.vat).sum
  gross : amounts.gross = (amounts.lines.map LineAmounts.gross).sum
  total : amounts.gross = amounts.net + amounts.vat

namespace InvoiceLineItem

variable {upper : String → String} {item : InvoiceLineItem}

/-- The amounts of a line as numbers. -/
def amounts (upper : String → String) (item : InvoiceLineItem) : LineAmounts :=
  ⟨item.quantity, decimalNumber item.unitPriceNet, item.net, item.vat upper, item.rate upper,
    item.net + item.vat upper⟩

/-- The dictionary of a line that can be billed tells these amounts. -/
theorem Billable.toDict (billable : Billable upper item) (small : item.net < 10 ^ 20)
    (today : Date) :
    ∃ line, item.toDict upper today = .ok line ∧ line.amounts? = some (item.amounts upper) := by
  obtain ⟨calculation, calculates, calculated⟩ := billable.vatCalculation small today
  obtain ⟨units, price⟩ := billable.price
  -- Each of the five texts is one of a finite decimal.
  refine ⟨_, by rw [InvoiceLineItem.toDict, calculates, ok_bind]; rfl, ?_⟩
  simp [InvoiceLineDict.amounts?, price.readAmount, calculated.net.readAmount,
    calculated.vat.readAmount, calculated.rate.readAmount, calculated.gross.readAmount, amounts,
    price.number_eq]

end InvoiceLineItem

namespace Invoice

variable {upper : String → String}

/-- The dictionaries of the lines tell the amounts of the lines. -/
theorem mapM_toDict (today : Date) {lineItems : List InvoiceLineItem}
    (billable : ∀ item ∈ lineItems, item.Billable upper)
    (small : ∀ item ∈ lineItems, item.net < 10 ^ 20) :
    ∃ lines, lineItems.mapM (InvoiceLineItem.toDict upper today) = .ok lines ∧
      lines.mapM InvoiceLineDict.amounts? =
        some (lineItems.map (InvoiceLineItem.amounts upper)) := by
  -- One line at a time, on the way out and on the way back.
  induction lineItems with
  | nil => exact ⟨[], rfl, rfl⟩
  | cons item rest ih =>
    have first := billable item List.mem_cons_self
    obtain ⟨line, written, read⟩ := first.toDict (small item List.mem_cons_self) today
    obtain ⟨lines, others, reads⟩ :=
      ih (fun other member => billable other (List.mem_cons_of_mem item member))
        fun other member => small other (List.mem_cons_of_mem item member)
    refine ⟨line :: lines, ?_, ?_⟩
    · simp [List.mapM_cons, written, others]
    · simp [List.mapM_cons, read, reads]

/-- What the texts of an invoice should tell. -/
def amounts (upper : String → String) (invoice : Invoice) : InvoiceAmounts :=
  let net := (invoice.lineItems.map InvoiceLineItem.net).sum
  let vat := (invoice.lineItems.map (InvoiceLineItem.vat upper)).sum
  ⟨invoice.lineItems.map (InvoiceLineItem.amounts upper), net, vat, net + vat⟩

/-- These amounts add up. -/
theorem amounts_addsUp (upper : String → String) (invoice : Invoice) :
    (invoice.amounts upper).AddsUp where
  lines line member := by
    obtain ⟨item, _, rfl⟩ := List.mem_map.mp member
    exact ⟨rfl, rfl, rfl⟩
  net := by
    simp only [amounts, List.map_map]
    rfl
  vat := by
    simp only [amounts, List.map_map]
    rfl
  gross := by
    -- The gross amounts of the lines are summed in two parts.
    simp only [amounts, List.map_map]
    rw [← List.sum_map_add]
    rfl
  total := rfl

/--
The dictionary of an invoice tells its amounts, and they add up.

Whoever reads the texts finds the prices, net amounts, rates and VAT of the lines as they are
calculated, and the totals that these lines have, with nothing lost in writing.
-/
theorem toDict_tells (today : Date) (now : DateTime) {invoice : Invoice}
    (billable : ∀ item ∈ invoice.lineItems, item.Billable upper)
    (small : (invoice.lineItems.map InvoiceLineItem.net).sum < 10 ^ 20) :
    ∃ document, invoice.toDict upper today now = .ok document ∧
      document.amounts? = some (invoice.amounts upper) ∧ (invoice.amounts upper).AddsUp := by
  obtain ⟨lines, written, read⟩ :=
    mapM_toDict today billable fun item member => net_lt billable small member
  obtain ⟨net, vat, gross, totals⟩ := exists_totals today billable small
  -- Nothing raises, so the dictionary is written, and each of its amounts reads back.
  obtain ⟨document, writes, lineItems, texts⟩ : ∃ document,
      invoice.toDict upper today now = .ok document ∧ document.lineItems = lines ∧
        document.totals = ⟨net.toStr, vat.toStr, gross.toStr, invoice.currency⟩ := by
    rw [toDict, written, ok_bind, totals.totalNet, ok_bind, totals.totalVat, ok_bind,
      totals.totalGross, ok_bind]
    exact ⟨_, rfl, rfl, rfl⟩
  refine ⟨document, writes, ?_, invoice.amounts_addsUp upper⟩
  simp [InvoiceDict.amounts?, lineItems, texts, read, totals.net.readAmount,
    totals.vat.readAmount, totals.gross.readAmount, amounts]

/-- The candles alone, whose net amount has half a cent. -/
def candles : Invoice :=
  { candlesAndBook with
    lineItems := [⟨"Candle", 3, .finite false 19995 (-3), "lt", candlesAndBook.invoiceDate⟩] }

/-- They can be billed, so that their invoice tells what they cost. -/
theorem toDict_tells_candles :
    ∃ document, candles.toDict asciiUpper candles.invoiceDate Stamp.sample.moment = .ok document ∧
      document.amounts? = some (candles.amounts asciiUpper) ∧
      (candles.amounts asciiUpper).AddsUp := by
  have lithuania : Supported asciiUpper "lt" := by
    unfold Supported
    decide +kernel
  have price : Denotes (.finite false 19995 (-3)) ((199950 : ℕ) / 10 ^ 4) := by
    refine ⟨_, _, _, rfl, ?_⟩
    norm_num [Decimal.value, Significant.value, zpow_neg]
  refine toDict_tells candles.invoiceDate Stamp.sample.moment ?_ ?_
  · intro item member
    rw [List.mem_singleton.mp member]
    exact ⟨⟨_, price⟩, by decide, lithuania⟩
  · simp only [candles, List.map_cons, List.map_nil, List.sum_cons, List.sum_nil,
      InvoiceLineItem.net, price.number_eq]
    norm_num

end Invoice

end JolCommerce
