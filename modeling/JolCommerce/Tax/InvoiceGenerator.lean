import JolCommerce.Tax.VatCalculator

/-! Invoices with a VAT breakdown, and the generator that numbers them. -/

namespace JolCommerce

open Python

/-- A line of an invoice; without a date it is dated on the day it is made. -/
structure InvoiceLineItem where
  description : String
  quantity : Int
  unitPriceNet : Decimal
  countryCode : String
  transactionDate : Date

/-- The `vat_calculation` property. -/
def InvoiceLineItem.vatCalculation (upper : String → String) (today : Date)
    (item : InvoiceLineItem) : Except VatError VatCalculation := do
  let totalNet ← (item.unitPriceNet.mul (.ofInt item.quantity)).mapError .decimal
  VatCalculator.calculateFromNet upper today totalNet item.countryCode (some item.transactionDate)

/-- A generated invoice. -/
structure Invoice where
  invoiceNumber : String
  invoiceDate : Date
  sellerName : String
  sellerVatNumber : String
  buyerName : String
  buyerCountry : String
  lineItems : List InvoiceLineItem
  currency : String := "EUR"

namespace Invoice

variable (upper : String → String) (today : Date)

/-- Common body of the sums: an amount of every line's calculation, added up from zero. -/
def sumOf (amount : VatCalculation → Decimal) (lineItems : List InvoiceLineItem) :
    Except VatError Decimal :=
  lineItems.foldlM (fun total item => do
    -- Each sum calculates the VAT of every line anew.
    let calculation ← item.vatCalculation upper today
    (total.add (amount calculation)).mapError .decimal) (Decimal.ofInt 0)

/-- The `total_net` property. -/
def totalNet (invoice : Invoice) : Except VatError Decimal :=
  sumOf upper today VatCalculation.netAmount invoice.lineItems

/-- The `total_vat` property. -/
def totalVat (invoice : Invoice) : Except VatError Decimal :=
  sumOf upper today VatCalculation.vatAmount invoice.lineItems

/-- The `total_gross` property: it adds the other two totals. -/
def totalGross (invoice : Invoice) : Except VatError Decimal := do
  let net ← invoice.totalNet upper today
  let vat ← invoice.totalVat upper today
  (net.add vat).mapError .decimal

end Invoice

/-- `date.strftime('%Y%m')`. -/
def yearMonth (date : Date) : List Char := zeroPad 4 date.year ++ zeroPad 2 date.month

/-- The arguments of `generate`. -/
structure InvoiceArguments where
  sellerName : String
  sellerVatNumber : String
  buyerName : String
  buyerCountry : String
  lineItems : List InvoiceLineItem
  currency : String := "EUR"

/-- The state `generate` works on: its counter, and how often the clock was read. -/
structure InvoiceGenerator where
  counter : Nat
  readings : Nat

namespace InvoiceGenerator

/-- The state before the first invoice of a process. -/
def new : InvoiceGenerator := ⟨0, 0⟩

/-- `date.today()`, on a clock that gives a date for every reading. -/
def today (clock : Nat → Date) : StateM InvoiceGenerator Date := do
  let generator ← get
  set { generator with readings := generator.readings + 1 }
  return clock generator.readings

/-- `generate(...)`, which reads the clock once for the number and once for the date. -/
def generate (clock : Nat → Date) (arguments : InvoiceArguments) :
    StateM InvoiceGenerator Invoice := do
  -- The counter is process-wide and counts calls, not invoices of a month.
  modify fun generator => { generator with counter := generator.counter + 1 }
  let numbered ← today clock
  let counter := (← get).counter
  let invoiceNumber := String.ofList
    ("JOL-".toList ++ yearMonth numbered ++ '-' :: zeroPad 6 counter)
  let invoiceDate ← today clock
  return {
    invoiceNumber
    invoiceDate
    sellerName := arguments.sellerName
    sellerVatNumber := arguments.sellerVatNumber
    buyerName := arguments.buyerName
    buyerCountry := arguments.buyerCountry
    lineItems := arguments.lineItems
    currency := arguments.currency }

/-- The invoices of calls one after another. -/
def generateAll (clock : Nat → Date) (calls : List InvoiceArguments) :
    StateM InvoiceGenerator (List Invoice) :=
  calls.mapM (generate clock)

end InvoiceGenerator

end JolCommerce
