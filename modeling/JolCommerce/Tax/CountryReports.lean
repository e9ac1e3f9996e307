import JolCommerce.Tax.TaxRecordStore
import JolCommerce.Tax.VatCalculator

/-! Which calculations the country reports find again, and how a date range is split. -/

namespace JolCommerce

open Python

/-- The country codes of the rate table. -/
def euCountries : List String := eu27Rates.entries.map Prod.fst

/-- An `upper` that is the usual one on ASCII text. -/
def UppersAscii (upper : String → String) : Prop :=
  ∀ text : String, text.toList.all (fun char => char.toNat < 128) = true → upper text = asciiUpper text

/-- The country codes of the table are in upper case. -/
theorem upper_euCountry {upper : String → String} (ascii : UppersAscii upper) {countryCode : String}
    (listed : countryCode ∈ euCountries) : upper countryCode = countryCode := by
  -- All of them are ASCII letters.
  have table : ∀ code ∈ euCountries,
      code.toList.all (fun char => char.toNat < 128) = true ∧ asciiUpper code = code := by
    decide +kernel
  obtain ⟨inAscii, fixed⟩ := table countryCode listed
  rw [ascii _ inAscii, fixed]

namespace VatCalculator

/-- A calculation that the calculator returned, whatever it was asked for. -/
inductive Returned (upper : String → String) : VatCalculation → Prop where
  /-- From a net amount. -/
  | fromNet {today : Date} {amount : Decimal} {countryCode : String} {date : Option Date}
      {calculation : VatCalculation} :
      calculateFromNet upper today amount countryCode date = .ok calculation →
        Returned upper calculation
  /-- From a gross amount. -/
  | fromGross {today : Date} {amount : Decimal} {countryCode : String} {date : Option Date}
      {calculation : VatCalculation} :
      calculateFromGross upper today amount countryCode date = .ok calculation →
        Returned upper calculation

/-- A returned calculation is for a country of the table, under the code that was given. -/
theorem Returned.supported {upper : String → String} {calculation : VatCalculation}
    (returned : Returned upper calculation) : Supported upper calculation.countryCode := by
  -- The rate was found under the code in upper case, and the code itself was passed on.
  cases returned with
  | fromNet returned =>
    unfold calculateFromNet at returned
    obtain ⟨rate, found, returned⟩ := bind_eq_ok returned
    obtain ⟨product, -, returned⟩ := bind_eq_ok returned
    obtain ⟨vat, -, returned⟩ := bind_eq_ok returned
    obtain ⟨gross, -, returned⟩ := bind_eq_ok returned
    cases returned
    exact (getVatRate_ok_iff upper _ _ _).mp ⟨rate, found⟩
  | fromGross returned =>
    unfold calculateFromGross at returned
    obtain ⟨rate, found, returned⟩ := bind_eq_ok returned
    obtain ⟨base, -, returned⟩ := bind_eq_ok returned
    obtain ⟨quotient, -, returned⟩ := bind_eq_ok returned
    obtain ⟨net, -, returned⟩ := bind_eq_ok returned
    obtain ⟨vat, -, returned⟩ := bind_eq_ok returned
    cases returned
    exact (getVatRate_ok_iff upper _ _ _).mp ⟨rate, found⟩

end VatCalculator

/-- A record of a calculation. -/
structure TaxRecord.Carries (calculation : VatCalculation) (record : TaxRecord) : Prop where
  countryCode : record.countryCode = calculation.countryCode
  transactionDate : record.transactionDate = calculation.transactionDate

namespace TaxRecordStore

/-- Records stored one after the other in a new store. -/
def storeAll (records : List TaxRecord) : TaxRecordStore :=
  records.foldl store empty

/-- They are what the store holds. -/
theorem records_storeAll (records : List TaxRecord) : (storeAll records).records = records := by
  -- Every record goes to the end, whatever is there already.
  have appended : ∀ taxRecords : TaxRecordStore,
      (records.foldl store taxRecords).records = taxRecords.records ++ records := by
    induction records with
    | nil => simp
    | cons record rest ih => simp [ih, store]
  rw [storeAll, appended]
  rfl

/-- A record that a report asks for. -/
def asked (countryCode : String) (fromDate toDate : Option Date) (record : TaxRecord) : Bool :=
  record.countryCode = countryCode && fromDate.all (fun day => day.le record.transactionDate) &&
    toDate.all (fun day => record.transactionDate.le day)

/-- A report holds the records it asks for. -/
theorem getByCountry_eq (taxRecords : TaxRecordStore) (countryCode : String)
    (fromDate toDate : Option Date) :
    taxRecords.getByCountry countryCode fromDate toDate =
      taxRecords.records.filter (asked countryCode fromDate toDate) := by
  -- Filtering in turn is filtering by the conjunction.
  unfold getByCountry asked
  cases fromDate <;> cases toDate <;>
    simp [List.filter_filter, Bool.and_comm]

/-- Without bounds a report holds the records of its country. -/
theorem mem_getByCountry {taxRecords : TaxRecordStore} {countryCode : String} {record : TaxRecord} :
    record ∈ taxRecords.getByCountry countryCode none none ↔
      record ∈ taxRecords.records ∧ record.countryCode = countryCode := by
  simp [getByCountry_eq, asked]

/-- A record of a range lies on one side of a day within it or on the other. -/
theorem asked_split {fromDate toDate : Option Date} {day next : Date}
    (following : day.next? = some next) (after : ∀ first ∈ fromDate, first.le day = true)
    (before : ∀ last ∈ toDate, day.le last = true) (countryCode : String) (record : TaxRecord) :
    asked countryCode fromDate (some day) record =
        (record.transactionDate.le day && asked countryCode fromDate toDate record) ∧
      asked countryCode (some next) toDate record =
        (!record.transactionDate.le day && asked countryCode fromDate toDate record) := by
  have other := Date.next_le_iff following record.transactionDate
  by_cases upTo : record.transactionDate.le day = true
  · -- Up to the day the upper bound holds anyway.
    have bound : toDate.all (fun last => record.transactionDate.le last) = true := by
      rw [Option.all_eq_true]
      exact fun last given => Date.le_trans upTo (before last given)
    have earlier : next.le record.transactionDate = false := by simpa [upTo] using other
    simp [asked, upTo, bound, earlier]
  · -- After it the lower bound does.
    have bound : fromDate.all (fun first => first.le record.transactionDate) = true := by
      rw [Option.all_eq_true]
      exact fun first given => Date.le_trans (after first given) (Date.le_of_not_le upTo)
    have later := other.mpr upTo
    simp only [Bool.not_eq_true] at upTo
    simp [asked, upTo, bound, later]

/-- A date range is what lies up to a day in it and what lies from the next day on. -/
theorem getByCountry_split (taxRecords : TaxRecordStore) (countryCode : String)
    {fromDate toDate : Option Date} {day next : Date} (following : day.next? = some next)
    (after : ∀ first ∈ fromDate, first.le day = true)
    (before : ∀ last ∈ toDate, day.le last = true) :
    (taxRecords.getByCountry countryCode fromDate (some day) ++
      taxRecords.getByCountry countryCode (some next) toDate).Perm
      (taxRecords.getByCountry countryCode fromDate toDate) := by
  -- The two parts are the records of the range that pass a test and those that fail it.
  have parts := List.filter_append_perm (fun record => record.transactionDate.le day)
    (taxRecords.records.filter (asked countryCode fromDate toDate))
  rw [List.filter_filter, List.filter_filter] at parts
  rw [getByCountry_eq, getByCountry_eq, getByCountry_eq]
  have left := fun record => (asked_split following after before countryCode record).1
  have right := fun record => (asked_split following after before countryCode record).2
  rw [funext left, funext right]
  exact parts

/-- Every record is in the report of exactly one country, and reports can be split at any day. -/
def NoneMissing (taxRecords : TaxRecordStore) : Prop :=
  (∀ record ∈ taxRecords.records, ∃! countryCode, countryCode ∈ euCountries ∧
    record ∈ taxRecords.getByCountry countryCode none none) ∧
  ∀ (countryCode : String) (fromDate toDate : Option Date) (day next : Date),
    day.next? = some next → (∀ first ∈ fromDate, first.le day = true) →
    (∀ last ∈ toDate, day.le last = true) →
    (taxRecords.getByCountry countryCode fromDate (some day) ++
      taxRecords.getByCountry countryCode (some next) toDate).Perm
      (taxRecords.getByCountry countryCode fromDate toDate)

/-- Nothing is missing exactly when every record is under a code of the table. -/
theorem noneMissing_iff (taxRecords : TaxRecordStore) :
    taxRecords.NoneMissing ↔ ∀ record ∈ taxRecords.records, record.countryCode ∈ euCountries := by
  -- A report is filtered by the code as it stands, so it can only be the report for that code.
  constructor
  · rintro ⟨reported, -⟩ record stored
    obtain ⟨countryCode, ⟨listed, found⟩, -⟩ := reported record stored
    rw [(mem_getByCountry.mp found).2]
    exact listed
  · intro listed
    refine ⟨fun record stored => ⟨record.countryCode, ⟨listed record stored, ?_⟩, ?_⟩, ?_⟩
    · exact mem_getByCountry.mpr ⟨stored, rfl⟩
    · rintro countryCode ⟨-, found⟩
      exact (mem_getByCountry.mp found).2.symm
    · intro countryCode fromDate toDate day next following after before
      exact taxRecords.getByCountry_split countryCode following after before

/-- The country codes of records are those of their calculations. -/
theorem forall_countryCode {holds : String → Prop} {calculations : List VatCalculation}
    {records : List TaxRecord} (carried : List.Forall₂ TaxRecord.Carries calculations records) :
    (∀ record ∈ records, holds record.countryCode) ↔
      ∀ calculation ∈ calculations, holds calculation.countryCode := by
  induction carried with
  | nil => simp
  | cons first _ ih => simp [ih, first.countryCode]

/-- Calculations are all reported exactly when their country codes were given in upper case. -/
theorem none_missing_iff_upper {upper : String → String} (ascii : UppersAscii upper)
    {calculations : List VatCalculation}
    (returned : ∀ calculation ∈ calculations, VatCalculator.Returned upper calculation)
    {records : List TaxRecord} (carried : List.Forall₂ TaxRecord.Carries calculations records) :
    (storeAll records).NoneMissing ↔
      ∀ calculation ∈ calculations, upper calculation.countryCode = calculation.countryCode := by
  rw [noneMissing_iff, records_storeAll, forall_countryCode carried]
  -- The code in upper case is in the table, and there only codes in upper case are.
  refine forall₂_congr fun calculation member => ⟨upper_euCountry ascii, fun fixed => ?_⟩
  have supported := (returned calculation member).supported
  unfold Supported at supported
  rwa [fixed] at supported

/-- `str.upper` on ASCII text is one. -/
theorem uppersAscii_asciiUpper : UppersAscii asciiUpper :=
  fun _ _ => rfl

/-- A hundred euros net in a country. -/
def sampleCalculation (countryCode : String) : VatCalculation :=
  { netAmount := .finite false 10000 (-2), vatAmount := .finite false 2100 (-2)
    grossAmount := .finite false 12100 (-2), vatRate := .finite false 21 (-2), countryCode
    transactionDate := ⟨2026, 8, 12, by decide⟩ }

/-- It is what the calculator returns for Lithuania, in either spelling. -/
theorem sampleCalculation_returned :
    VatCalculator.Returned asciiUpper (sampleCalculation "LT") ∧
      VatCalculator.Returned asciiUpper (sampleCalculation "lt") := by
  have upperCode : VatCalculator.calculateFromNet asciiUpper ⟨2026, 8, 12, by decide⟩
      (.finite false 10000 (-2)) "LT" none = .ok (sampleCalculation "LT") := rfl
  have lowerCode : VatCalculator.calculateFromNet asciiUpper ⟨2026, 8, 12, by decide⟩
      (.finite false 10000 (-2)) "lt" none = .ok (sampleCalculation "lt") := rfl
  exact ⟨.fromNet upperCode, .fromNet lowerCode⟩

/-- With the code in upper case it is reported. -/
theorem none_missing_upper_code :
    (storeAll [sampleRecord "LT" ⟨2026, 8, 12, by decide⟩]).NoneMissing := by
  -- The one calculation was asked for in upper case.
  have returned : ∀ calculation ∈ [sampleCalculation "LT"],
      VatCalculator.Returned asciiUpper calculation := by
    simpa using sampleCalculation_returned.1
  have carried : List.Forall₂ TaxRecord.Carries [sampleCalculation "LT"]
      [sampleRecord "LT" ⟨2026, 8, 12, by decide⟩] :=
    .cons ⟨rfl, rfl⟩ .nil
  refine (none_missing_iff_upper uppersAscii_asciiUpper returned carried).mpr ?_
  simp only [List.forall_mem_singleton]
  decide +kernel

/-- With the code in lower case it is in no report. -/
theorem lower_code_missing :
    VatCalculator.Returned asciiUpper (sampleCalculation "lt") ∧
      (sampleRecord "lt" ⟨2026, 8, 12, by decide⟩).Carries (sampleCalculation "lt") ∧
      ¬(storeAll [sampleRecord "lt" ⟨2026, 8, 12, by decide⟩]).NoneMissing := by
  refine ⟨sampleCalculation_returned.2, ⟨rfl, rfl⟩, fun complete => ?_⟩
  rw [noneMissing_iff, records_storeAll, List.forall_mem_singleton] at complete
  exact absurd complete (by decide +kernel)

end TaxRecordStore

end JolCommerce
