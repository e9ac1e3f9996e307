import JolCommerce.Python.Calendar
import JolCommerce.Python.Decimal
import JolCommerce.Python.Dict

/-! VAT records with their retention dates, and the store that reports on them. -/

namespace JolCommerce

open Python

/-- A stored VAT calculation record. -/
structure TaxRecord where
  recordId : String
  orderId : String
  countryCode : String
  netAmount : Decimal
  vatAmount : Decimal
  grossAmount : Decimal
  vatRate : Decimal
  transactionDate : Date
  invoiceNumber : Option String := none
  createdAt : String := ""
  retentionUntil : Option Date := none
  /-- Seven years are what accounting law asks for at least. -/
  retentionYears : Int := 7

/-- `__post_init__`: fill in the creation time and the retention date that were not given. -/
def TaxRecord.postInit (now : DateTime) (record : TaxRecord) : Except PyError TaxRecord := do
  let createdAt := if record.createdAt = "" then now.isoformat else record.createdAt
  let retentionUntil ←
    match record.retentionUntil with
    | some date => pure date
    | none =>
      let date := record.transactionDate
      Date.new (date.year + record.retentionYears) date.month date.day
  return { record with createdAt, retentionUntil := some retentionUntil }

/-- A record of a sale in a country on a date, for closed instances. -/
def sampleRecord (countryCode : String) (transactionDate : Date) : TaxRecord :=
  { recordId := "R-1", orderId := "ORD-1", countryCode
    netAmount := .finite false 10000 (-2), vatAmount := .finite false 2100 (-2)
    grossAmount := .finite false 12100 (-2), vatRate := .finite false 21 (-2), transactionDate }

/-- The store: the records in the order of their arrival. -/
structure TaxRecordStore where
  records : List TaxRecord

namespace TaxRecordStore

/-- A new store. -/
def empty : TaxRecordStore := ⟨[]⟩

/-- Store a record. -/
def store (taxRecords : TaxRecordStore) (record : TaxRecord) : TaxRecordStore :=
  ⟨taxRecords.records ++ [record]⟩

/-- Records of a country, within the bounds that are given. -/
def getByCountry (taxRecords : TaxRecordStore) (countryCode : String)
    (fromDate toDate : Option Date) : List TaxRecord :=
  let results := taxRecords.records.filter fun record => record.countryCode = countryCode
  let results := match fromDate with
    | some fromDate => results.filter fun record => fromDate.le record.transactionDate
    | none => results
  match toDate with
  | some toDate => results.filter fun record => record.transactionDate.le toDate
  | none => results

/-- `str` of a year. -/
def yearText (year : Nat) : String := String.ofList (natText year)

/-- One more record in a report. -/
def countRecord (report : Dict String Nat) (record : TaxRecord) : Dict String Nat :=
  match record.retentionUntil with
  | some date =>
    let year := yearText date.year
    report.set year ((report.get? year).getD 0 + 1)
  | none => report

/-- Counts of records by the year their retention ends. -/
def getRetentionReport (taxRecords : TaxRecordStore) : Dict String Nat :=
  taxRecords.records.foldl countRecord Dict.empty

end TaxRecordStore

end JolCommerce
