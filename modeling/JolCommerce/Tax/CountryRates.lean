import JolCommerce.Python.DateTime
import JolCommerce.Python.Decimal
import JolCommerce.Python.Dict

/-! The VAT rates of the EU countries with the dates they are in force from, and their lookup. -/

namespace JolCommerce

open Python

/-- A VAT rate with the date it is in force from. -/
structure VatRate where
  rate : Decimal
  effectiveFrom : Date
  countryCode : String
  countryName : String
  source : String

/-- The rates of one country, newest first; no country is listed without one. -/
abbrev RateHistory := { rates : List VatRate // rates ≠ [] }

/-- Rates of the Baltic states. -/
def balticRates : List (String × RateHistory) :=
  [("LT", ⟨[⟨.finite false 21 (-2), ⟨2011, 7, 1, by decide⟩, "LT", "Lithuania",
      "EY Baltic Tax Card 2025"⟩], by simp⟩),
    ("LV", ⟨[⟨.finite false 21 (-2), ⟨2013, 1, 1, by decide⟩, "LV", "Latvia",
      "EY Baltic Tax Card 2025"⟩], by simp⟩),
    ("EE", ⟨[⟨.finite false 24 (-2), ⟨2025, 7, 1, by decide⟩, "EE", "Estonia",
        "AWS EMEA VAT Tables (confirmed July 2026)"⟩,
      ⟨.finite false 22 (-2), ⟨2024, 1, 1, by decide⟩, "EE", "Estonia",
        "AWS EMEA VAT Tables (historical — superseded 2025-07-01)"⟩], by simp⟩)]

/-- A country with one rate and no source noted. -/
def singleRate (rate : Decimal) (effectiveFrom : Date) (code name : String) :
    String × RateHistory :=
  (code, ⟨[⟨rate, effectiveFrom, code, name, ""⟩], by simp⟩)

/-- Rates of the other countries. -/
def otherRates : List (String × RateHistory) :=
  [singleRate (.finite false 20 (-2)) ⟨2011, 1, 1, by decide⟩ "AT" "Austria",
    singleRate (.finite false 21 (-2)) ⟨2010, 1, 1, by decide⟩ "BE" "Belgium",
    singleRate (.finite false 20 (-2)) ⟨2007, 1, 1, by decide⟩ "BG" "Bulgaria",
    singleRate (.finite false 25 (-2)) ⟨2013, 7, 1, by decide⟩ "HR" "Croatia",
    singleRate (.finite false 19 (-2)) ⟨2014, 1, 1, by decide⟩ "CY" "Cyprus",
    singleRate (.finite false 21 (-2)) ⟨2013, 1, 1, by decide⟩ "CZ" "Czech Republic",
    singleRate (.finite false 25 (-2)) ⟨1992, 1, 1, by decide⟩ "DK" "Denmark",
    singleRate (.finite false 255 (-3)) ⟨2024, 9, 1, by decide⟩ "FI" "Finland",
    singleRate (.finite false 20 (-2)) ⟨2014, 1, 1, by decide⟩ "FR" "France",
    singleRate (.finite false 19 (-2)) ⟨2021, 1, 1, by decide⟩ "DE" "Germany",
    singleRate (.finite false 24 (-2)) ⟨2016, 6, 1, by decide⟩ "GR" "Greece",
    singleRate (.finite false 27 (-2)) ⟨2012, 1, 1, by decide⟩ "HU" "Hungary",
    singleRate (.finite false 23 (-2)) ⟨2021, 3, 1, by decide⟩ "IE" "Ireland",
    singleRate (.finite false 22 (-2)) ⟨2013, 10, 1, by decide⟩ "IT" "Italy",
    singleRate (.finite false 17 (-2)) ⟨2015, 1, 1, by decide⟩ "LU" "Luxembourg",
    singleRate (.finite false 18 (-2)) ⟨2010, 1, 1, by decide⟩ "MT" "Malta",
    singleRate (.finite false 21 (-2)) ⟨2012, 10, 1, by decide⟩ "NL" "Netherlands",
    singleRate (.finite false 23 (-2)) ⟨2011, 1, 1, by decide⟩ "PL" "Poland",
    singleRate (.finite false 23 (-2)) ⟨2011, 1, 1, by decide⟩ "PT" "Portugal",
    singleRate (.finite false 19 (-2)) ⟨2017, 1, 1, by decide⟩ "RO" "Romania",
    singleRate (.finite false 20 (-2)) ⟨2011, 1, 1, by decide⟩ "SK" "Slovakia",
    singleRate (.finite false 22 (-2)) ⟨2013, 7, 1, by decide⟩ "SI" "Slovenia",
    singleRate (.finite false 21 (-2)) ⟨2012, 9, 1, by decide⟩ "ES" "Spain",
    singleRate (.finite false 25 (-2)) ⟨1992, 1, 1, by decide⟩ "SE" "Sweden"]

/-- Rates of the twenty-seven countries, the Baltic states first. -/
def eu27Rates : Dict String RateHistory :=
  ⟨balticRates ++ otherRates, by decide⟩

/-- What a VAT calculation raises. -/
inductive VatError where
  /-- `ValueError` with its message. -/
  | valueError (message : String)
  /-- What decimal code raises. -/
  | decimal (error : DecimalError)
  /-- `decimal.DivisionByZero`, an `ArithmeticError`. -/
  | divisionByZero
  deriving DecidableEq

/-- A list of country codes, as it is written into a message. -/
def codesText (codes : List String) : String :=
  "[" ++ ", ".intercalate (codes.map fun code => "'" ++ code ++ "'") ++ "]"

/-- The rate in force on a date, the oldest one on dates before all of them. -/
def rateOn (history : RateHistory) (transactionDate : Date) : Decimal :=
  match history.val.find? fun vatRate => vatRate.effectiveFrom.le transactionDate with
  | some vatRate => vatRate.rate
  | none => (history.val.getLast history.property).rate

/-- The VAT rate of a country on a date, today's where none is given. -/
def getVatRate (upper : String → String) (today : Date) (countryCode : String)
    (transactionDate : Option Date) : Except VatError Decimal :=
  -- `upper` is the `str.upper` of the Unicode tables that the interpreter has.
  match eu27Rates.get? (upper countryCode) with
  | none =>
    let supported := (eu27Rates.entries.map Prod.fst).mergeSort fun left right => left ≤ right
    .error (.valueError ("Unknown EU country code: " ++ upper countryCode ++ ". Supported: " ++
      codesText supported))
  | some history => .ok (rateOn history (transactionDate.getD today))

/-- A rate from seventeen to twenty-seven percent, in percent or in tenths of a percent. -/
def IsVatRate : Decimal → Prop
  | .finite false coefficient (-2) => 17 ≤ coefficient ∧ coefficient ≤ 27
  | .finite false coefficient (-3) => 170 ≤ coefficient ∧ coefficient ≤ 270
  | _ => False

instance (rate : Decimal) : Decidable (IsVatRate rate) := by
  unfold IsVatRate
  split <;> infer_instance

/-- Every rate of the table is one. -/
theorem eu27Rates_valid :
    ∀ entry ∈ eu27Rates.entries, ∀ vatRate ∈ entry.2.val, IsVatRate vatRate.rate := by
  decide

/-- The rate on a date is one of the history. -/
theorem rateOn_mem (history : RateHistory) (transactionDate : Date) :
    ∃ vatRate ∈ history.val, rateOn history transactionDate = vatRate.rate := by
  -- Either a rate is found on the way, or the last one is taken.
  unfold rateOn
  split
  · rename_i vatRate found
    exact ⟨vatRate, List.mem_of_find?_eq_some found, rfl⟩
  · exact ⟨_, List.getLast_mem history.property, rfl⟩

/-- `str.upper` on ASCII text, for closed instances. -/
def asciiUpper (text : String) : String := String.ofList (text.toList.map Char.toUpper)

/-- A country of the table. -/
def Supported (upper : String → String) (countryCode : String) : Prop :=
  upper countryCode ∈ eu27Rates.entries.map Prod.fst

/-- A supported country has a valid rate on every date. -/
theorem getVatRate_supported {upper : String → String} {countryCode : String}
    (supported : Supported upper countryCode) (today : Date) (transactionDate : Option Date) :
    ∃ rate, getVatRate upper today countryCode transactionDate = .ok rate ∧ IsVatRate rate := by
  -- The table has a history under the code, and all its rates are valid.
  obtain ⟨⟨code, history⟩, member, same⟩ := List.mem_map.mp supported
  cases same
  have found := (eu27Rates.mem_entries_iff _ _).mp member
  obtain ⟨vatRate, listed, rate⟩ := rateOn_mem history (transactionDate.getD today)
  refine ⟨rateOn history (transactionDate.getD today), by simp only [getVatRate, found], ?_⟩
  rw [rate]
  exact eu27Rates_valid _ member _ listed

/-- Any other country is refused. -/
theorem getVatRate_ok_iff (upper : String → String) (today : Date) (countryCode : String)
    (transactionDate : Option Date) :
    (∃ rate, getVatRate upper today countryCode transactionDate = .ok rate) ↔
      Supported upper countryCode := by
  -- A lookup without a result is the only way to raise.
  constructor
  · rintro ⟨rate, returned⟩
    unfold getVatRate at returned
    split at returned
    · cases returned
    · rename_i history found
      exact List.mem_map.mpr ⟨_, (eu27Rates.mem_entries_iff _ _).mpr found, rfl⟩
  · intro supported
    obtain ⟨rate, returned, -⟩ := getVatRate_supported supported today transactionDate
    exact ⟨rate, returned⟩

end JolCommerce
