import JolCommerce.Tax.TaxRecordStore

/-! Every transaction can be retained, but for those of a leap day. -/

namespace JolCommerce

open Python

/-- A record that is constructed from the default retention of a transaction. -/
structure TaxRecord.Fresh (record : TaxRecord) : Prop where
  noDate : record.retentionUntil = none
  years : record.retentionYears = 7
  inRange : record.transactionDate.year ≤ 9992

/-- A transaction of 29 February. -/
def TaxRecord.OnLeapDay (record : TaxRecord) : Prop :=
  record.transactionDate.month = 2 ∧ record.transactionDate.day = 29

/-- What a record is stored as: itself with a date at least seven years on. -/
def TaxRecord.RetainedAs (given stored : TaxRecord) : Prop :=
  ∃ date createdAt, stored = { given with createdAt, retentionUntil := some date } ∧
    Date.YearsApart 7 given.transactionDate date

/-- A year seven after a leap year has no leap day. -/
theorem isLeap_add_seven {year : Nat} (leap : isLeap year = true) : isLeap (year + 7) = false := by
  -- Leap years are multiples of four.
  simp only [isLeap, Bool.and_eq_true, beq_iff_eq] at leap
  have remainder : (year + 7) % 4 = 3 := by omega
  simp [isLeap, remainder]

/-- A fresh record gets the same day seven years on, or the refusal of that day. -/
theorem TaxRecord.postInit_fresh (now : DateTime) {record : TaxRecord} (fresh : record.Fresh) :
    (record.OnLeapDay ∧ record.postInit now =
        .error (.valueError "day is out of range for month")) ∨
      ¬record.OnLeapDay ∧ ∃ stored, record.postInit now = .ok stored ∧ record.RetainedAs stored := by
  obtain ⟨inYears, inMonths, positive, fits⟩ := record.transactionDate.valid
  have range := fresh.inRange
  have later : 1 ≤ record.transactionDate.year + 7 ∧ record.transactionDate.year + 7 ≤ 9999 := by
    omega
  have constructed := Date.new_natCast later inMonths positive
  push_cast at constructed
  rw [← fresh.years] at constructed
  simp only [postInit, fresh.noDate, constructed]
  by_cases leapDay : record.OnLeapDay
  · -- Seven years after a leap year February has 28 days.
    have common := isLeap_add_seven (Date.isLeap_of_day _ leapDay.1 leapDay.2)
    have tooShort : ¬record.transactionDate.day ≤
        daysInMonth (record.transactionDate.year + 7) record.transactionDate.month := by
      simp [leapDay.1, leapDay.2, daysInMonth, common]
    refine Or.inl ⟨leapDay, ?_⟩
    rw [dif_neg tooShort, error_bind]
  · have dayFits := Date.day_fits leapDay (record.transactionDate.year + 7)
    rw [dif_pos dayFits, ok_bind]
    exact Or.inr ⟨leapDay, _, rfl, _, _, rfl, Or.inr ⟨rfl, Or.inr ⟨rfl, le_refl _⟩⟩⟩

namespace TaxRecordStore

/-- Construct and store a list of records, each at its clock reading. -/
def retainAll (taxRecords : TaxRecordStore) :
    List (DateTime × TaxRecord) → Except PyError TaxRecordStore
  | [] => .ok taxRecords
  | (now, given) :: rest => do
    let record ← given.postInit now
    (taxRecords.store record).retainAll rest

/-- What is stored of a list of fresh records, and that a leap day among them ends the run. -/
theorem retainAll_fresh (taxRecords : TaxRecordStore) {given : List (DateTime × TaxRecord)}
    (fresh : ∀ entry ∈ given, entry.2.Fresh) :
    ((∃ entry ∈ given, entry.2.OnLeapDay) ∧
        taxRecords.retainAll given = .error (.valueError "day is out of range for month")) ∨
      (¬∃ entry ∈ given, entry.2.OnLeapDay) ∧ ∃ stored,
        taxRecords.retainAll given = .ok ⟨taxRecords.records ++ stored⟩ ∧
        List.Forall₂ TaxRecord.RetainedAs (given.map Prod.snd) stored := by
  -- By induction on the list: the first record is refused or stored, then the rest decides.
  induction given generalizing taxRecords with
  | nil => exact Or.inr ⟨by simp, [], by simp [retainAll], List.Forall₂.nil⟩
  | cons entry rest ih =>
    obtain ⟨now, record⟩ := entry
    simp only [List.forall_mem_cons] at fresh
    simp only [List.exists_mem_cons_iff]
    rcases TaxRecord.postInit_fresh now fresh.1 with ⟨leapDay, refused⟩ | ⟨usual, stored, returned, kept⟩
    · exact Or.inl ⟨Or.inl leapDay, by simp [retainAll, refused]⟩
    · rcases ih (taxRecords.store stored) fresh.2 with ⟨leapDay, refused⟩ | ⟨none, others, rest, all⟩
      · exact Or.inl ⟨Or.inr leapDay, by simp [retainAll, returned, refused]⟩
      · refine Or.inr ⟨by simp [usual, none], stored :: others, ?_, List.Forall₂.cons kept all⟩
        rw [retainAll, returned, ok_bind, rest]
        simp [store]

/-- A record whose retention ends in a year. -/
def expiresIn (year : Nat) (record : TaxRecord) : Bool :=
  record.retentionUntil.any fun date => date.year = year

/-- Different years have different keys. -/
theorem yearText_injective {first second : Nat} (same : yearText first = yearText second) :
    first = second :=
  natText_injective (String.ofList_injective same)

/-- A record with a retention date adds one to the report. -/
theorem countRecord_sum (report : Dict String Nat) {record : TaxRecord}
    (dated : record.retentionUntil.isSome = true) :
    (countRecord report record).values.sum = report.values.sum + 1 := by
  obtain ⟨date, found⟩ := Option.isSome_iff_exists.mp dated
  -- The assigned count is one more than the one it replaces.
  have assigned := report.sum_values_set (yearText date.year)
    ((report.get? (yearText date.year)).getD 0 + 1)
  simp only [countRecord, found]
  omega

/-- It adds that one to the year it expires in and to no other. -/
theorem countRecord_year (report : Dict String Nat) (record : TaxRecord) (year : Nat) :
    ((countRecord report record).get? (yearText year)).getD 0 =
      (report.get? (yearText year)).getD 0 + if expiresIn year record then 1 else 0 := by
  -- Only the counter of the record's own year goes up.
  cases found : record.retentionUntil with
  | none => simp [countRecord, expiresIn, found]
  | some date =>
    simp only [countRecord, found, expiresIn, Option.any_some, decide_eq_true_eq, Dict.get?_set]
    by_cases same : date.year = year
    · simp [same]
    · have other : yearText year ≠ yearText date.year := fun texts =>
        same (yearText_injective texts).symm
      simp [same, other]

private theorem foldl_countRecord_sum {records : List TaxRecord}
    (dated : ∀ record ∈ records, record.retentionUntil.isSome = true) (report : Dict String Nat) :
    (records.foldl countRecord report).values.sum = report.values.sum + records.length := by
  -- The report grows by one with each record, so it stays quantified over.
  induction records generalizing report with
  | nil => rfl
  | cons record rest ih =>
    simp only [List.forall_mem_cons] at dated
    rw [List.foldl_cons, ih dated.2, countRecord_sum report dated.1, List.length_cons]
    omega

private theorem foldl_countRecord_year (records : List TaxRecord) (report : Dict String Nat)
    (year : Nat) :
    ((records.foldl countRecord report).get? (yearText year)).getD 0 =
      (report.get? (yearText year)).getD 0 + records.countP (expiresIn year) := by
  induction records generalizing report with
  | nil => rfl
  | cons record rest ih =>
    rw [List.foldl_cons, ih, countRecord_year, List.countP_cons]
    omega

/-- The report counts every record that has a retention date exactly once. -/
theorem getRetentionReport_sum {taxRecords : TaxRecordStore}
    (dated : ∀ record ∈ taxRecords.records, record.retentionUntil.isSome = true) :
    taxRecords.getRetentionReport.values.sum = taxRecords.records.length := by
  rw [getRetentionReport, foldl_countRecord_sum dated]
  simp [Dict.values, Dict.empty]

/-- Its count for a year is the number of records that expire in it. -/
theorem getRetentionReport_year (taxRecords : TaxRecordStore) (year : Nat) :
    (taxRecords.getRetentionReport.get? (yearText year)).getD 0 =
      taxRecords.records.countP (expiresIn year) := by
  rw [getRetentionReport, foldl_countRecord_year]
  simp

/-- All records are constructed, stored with a retention of seven years, and counted once. -/
def RetainedInFull (given : List (DateTime × TaxRecord)) : Prop :=
  ∃ taxRecords, retainAll empty given = .ok taxRecords ∧
    List.Forall₂ TaxRecord.RetainedAs (given.map Prod.snd) taxRecords.records ∧
    taxRecords.getRetentionReport.values.sum = given.length ∧
    ∀ year, (taxRecords.getRetentionReport.get? (yearText year)).getD 0 =
      taxRecords.records.countP (expiresIn year)

/-- What was stored of records with a retention date has one. -/
theorem dated_of_retainedAs {given stored : List TaxRecord}
    (all : List.Forall₂ TaxRecord.RetainedAs given stored) :
    ∀ record ∈ stored, record.retentionUntil.isSome = true := by
  induction all with
  | nil => simp
  | cons first _ ih =>
    obtain ⟨date, createdAt, rfl, -⟩ := first
    simpa using ih

/-- Fresh records are retained in full exactly when none of them is of a leap day. -/
theorem retained_in_full_iff {given : List (DateTime × TaxRecord)}
    (fresh : ∀ entry ∈ given, entry.2.Fresh) :
    RetainedInFull given ↔ ∀ entry ∈ given, ¬entry.2.OnLeapDay := by
  rcases retainAll_fresh empty fresh with ⟨leapDay, refused⟩ | ⟨usual, stored, returned, all⟩
  · -- The run ends with the first leap day, so nothing is reported.
    obtain ⟨entry, member, onLeapDay⟩ := leapDay
    refine iff_of_false ?_ fun usual => usual entry member onLeapDay
    rintro ⟨taxRecords, returned, -⟩
    rw [refused] at returned
    cases returned
  · have returned : empty.retainAll given = .ok ⟨stored⟩ := returned
    refine iff_of_true ⟨_, returned, all, ?_, getRetentionReport_year _⟩ ?_
    · rw [getRetentionReport_sum (dated_of_retainedAs all)]
      simpa using all.length_eq.symm
    · intro entry member onLeapDay
      exact usual ⟨entry, member, onLeapDay⟩

/-- The last day of February 2023 is retained. -/
theorem retained_in_full_february :
    RetainedInFull [(Stamp.sample.moment, sampleRecord "LT" ⟨2023, 2, 28, by decide⟩)] := by
  have fresh : ∀ entry ∈ [(Stamp.sample.moment, sampleRecord "LT" ⟨2023, 2, 28, by decide⟩)],
      entry.2.Fresh := by
    simp only [List.forall_mem_singleton]
    exact ⟨rfl, rfl, by decide⟩
  refine (retained_in_full_iff fresh).mpr ?_
  simp only [List.forall_mem_singleton]
  exact fun leapDay => absurd leapDay.2 (by decide)

/-- The leap day of 2024 is not. -/
theorem leap_day_not_retained :
    (sampleRecord "LT" ⟨2024, 2, 29, by decide⟩).Fresh ∧
      ¬RetainedInFull [(Stamp.sample.moment, sampleRecord "LT" ⟨2024, 2, 29, by decide⟩)] := by
  have fresh : (sampleRecord "LT" ⟨2024, 2, 29, by decide⟩).Fresh := ⟨rfl, rfl, by decide⟩
  refine ⟨fresh, ?_⟩
  rintro ⟨taxRecords, returned, -⟩
  -- The constructor refuses 29 February 2031.
  rcases TaxRecord.postInit_fresh Stamp.sample.moment fresh with ⟨-, refused⟩ | ⟨usual, -⟩
  · simp [retainAll, refused] at returned
  · exact usual ⟨rfl, rfl⟩

end TaxRecordStore

end JolCommerce
