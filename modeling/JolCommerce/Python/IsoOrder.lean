import JolCommerce.Python.DateTime
import JolCommerce.Python.Numerals

/-! Comparing the ISO texts of two UTC date-times is comparing the instants. -/

namespace Python

/-- A month begins where the one before it ends. -/
theorem daysBeforeMonth_succ (year : Nat) {month : Nat} (positive : 1 ≤ month) :
    daysBeforeMonth year (month + 1) = daysBeforeMonth year month + daysInMonth year month := by
  obtain ⟨earlier, rfl⟩ : ∃ earlier, month = earlier + 1 := ⟨month - 1, by omega⟩
  rfl

/-- No month has more than 31 days. -/
theorem daysInMonth_le (year month : Nat) : daysInMonth year month ≤ 31 := by
  unfold daysInMonth
  split
  · split <;> omega
  all_goals omega

/-- A later month begins no earlier than a month ends. -/
theorem daysBeforeMonth_le (year : Nat) {month later : Nat} (positive : 1 ≤ month)
    (after : month < later) :
    daysBeforeMonth year month + daysInMonth year month ≤ daysBeforeMonth year later := by
  -- Month after month adds days.
  induction later, after using Nat.le_induction with
  | base => rw [daysBeforeMonth_succ year positive]
  | succ later further ih =>
    rw [daysBeforeMonth_succ year (by omega)]
    omega

/-- A year has 365 days, a leap year one more. -/
theorem daysBeforeMonth_thirteen (year : Nat) :
    daysBeforeMonth year 13 = if isLeap year then 366 else 365 := by
  simp only [daysBeforeMonth, daysInMonth]
  split <;> rfl

/-- Every fourth year is a leap year, but of the centuries only every fourth one. -/
theorem isLeap_iff (year : Nat) :
    isLeap year = true ↔ year % 4 = 0 ∧ (year % 100 ≠ 0 ∨ year % 400 = 0) := by
  simp [isLeap]

/-- A year begins where the one before it ends. -/
theorem daysBeforeYear_succ {year : Nat} (positive : 1 ≤ year) :
    daysBeforeYear (year + 1) = daysBeforeYear year + daysBeforeMonth year 13 := by
  obtain ⟨past, rfl⟩ : ∃ past, year = past + 1 := ⟨year - 1, by omega⟩
  -- Each quotient grows exactly at the multiples of its divisor.
  have four : (past + 1) / 4 = past / 4 + if (past + 1) % 4 = 0 then 1 else 0 := by
    split <;> omega
  have hundred : (past + 1) / 100 = past / 100 + if (past + 1) % 100 = 0 then 1 else 0 := by
    split <;> omega
  have fourHundred : (past + 1) / 400 = past / 400 + if (past + 1) % 400 = 0 then 1 else 0 := by
    split <;> omega
  have fewer : past / 100 ≤ past / 4 := Nat.div_le_div_left (by decide) (by decide)
  have centuries : (past + 1) % 100 = 0 → (past + 1) % 4 = 0 := by omega
  have fourCenturies : (past + 1) % 400 = 0 → (past + 1) % 100 = 0 := by omega
  rw [daysBeforeMonth_thirteen]
  simp only [daysBeforeYear, Nat.add_sub_cancel, isLeap_iff, four, hundred, fourHundred]
  generalize past / 4 = fours at *
  generalize past / 100 = hundreds at *
  generalize past / 400 = fourHundreds at *
  clear four hundred fourHundred
  split_ifs <;> omega

/-- A later year begins no earlier than a year ends. -/
theorem daysBeforeYear_le {year later : Nat} (positive : 1 ≤ year) (after : year < later) :
    daysBeforeYear year + daysBeforeMonth year 13 ≤ daysBeforeYear later := by
  -- Year after year adds days.
  induction later, after using Nat.le_induction with
  | base => rw [daysBeforeYear_succ positive]
  | succ later further ih =>
    rw [daysBeforeYear_succ (by omega)]
    omega

namespace DateTime

/-- The order of the fields, from the year down to the microsecond. -/
def FieldsBefore (left right : DateTime) : Prop :=
  left.year < right.year ∨ left.year = right.year ∧ (
  left.month < right.month ∨ left.month = right.month ∧ (
  left.day < right.day ∨ left.day = right.day ∧ (
  left.hour < right.hour ∨ left.hour = right.hour ∧ (
  left.minute < right.minute ∨ left.minute = right.minute ∧ (
  left.second < right.second ∨ left.second = right.second ∧
  left.microsecond < right.microsecond)))))

/-- Days since the first day of year 1. -/
def dayNumber (moment : DateTime) : Nat :=
  daysBeforeYear moment.year + daysBeforeMonth moment.year moment.month + (moment.day - 1)

/-- An earlier date has a smaller day number. -/
theorem dayNumber_lt {left right : DateTime} (before : left.year < right.year ∨
    left.year = right.year ∧ (left.month < right.month ∨ left.month = right.month ∧
      left.day < right.day)) : left.dayNumber < right.dayNumber := by
  have leftValid := left.valid
  have rightValid := right.valid
  unfold dayNumber
  rcases before with earlierYear | ⟨year, earlierMonth | ⟨month, earlierDay⟩⟩
  · -- The day lies within its year, which ends before the other one begins.
    have year := daysBeforeYear_le leftValid.1.1 earlierYear
    have month := daysBeforeMonth_le left.year leftValid.2.1.1
      (show left.month < 13 by omega)
    omega
  · have month := daysBeforeMonth_le left.year leftValid.2.1.1 earlierMonth
    rw [← year]
    omega
  · rw [← year, ← month]
    omega

/-- Instants follow the order of the fields. -/
theorem toMicros_lt_of_fieldsBefore {left right : DateTime} (before : FieldsBefore left right) :
    left.toMicros < right.toMicros := by
  have leftValid := left.valid
  have rightValid := right.valid
  show (((left.dayNumber * 24 + left.hour) * 60 + left.minute) * 60 + left.second) * 1000000 +
      left.microsecond < (((right.dayNumber * 24 + right.hour) * 60 + right.minute) * 60 +
      right.second) * 1000000 + right.microsecond
  unfold FieldsBefore at before
  -- Either the dates differ, or the times of one day do.
  by_cases sameDate : left.year = right.year ∧ left.month = right.month ∧ left.day = right.day
  · obtain ⟨year, month, day⟩ := sameDate
    have sameDay : left.dayNumber = right.dayNumber := by
      unfold dayNumber
      rw [year, month, day]
    omega
  · have earlier : left.dayNumber < right.dayNumber := by
      apply dayNumber_lt
      omega
    omega

/-- One of two instants is the earlier one exactly when its fields are. -/
theorem fieldsBefore_iff (left right : DateTime) :
    FieldsBefore left right ↔ left.toMicros < right.toMicros := by
  constructor
  · exact toMicros_lt_of_fieldsBefore
  · intro earlier
    by_contra notBefore
    -- Otherwise the fields are the same, or those of the other one come first.
    by_cases after : FieldsBefore right left
    · have later := toMicros_lt_of_fieldsBefore after
      omega
    · have same : left.toMicros = right.toMicros := by
        unfold FieldsBefore at notBefore after
        have year : left.year = right.year := by omega
        have month : left.month = right.month := by omega
        have day : left.day = right.day := by omega
        have hour : left.hour = right.hour := by omega
        have minute : left.minute = right.minute := by omega
        have second : left.second = right.second := by omega
        have microsecond : left.microsecond = right.microsecond := by omega
        unfold toMicros
        rw [year, month, day, hour, minute, second, microsecond]
      omega

/-- The fraction of a second with the offset behind it, the fraction left out when it is zero. -/
def fractionText (microsecond : Nat) : List Char :=
  (if microsecond = 0 then [] else '.' :: zeroPad 6 microsecond) ++ ['+', '0', '0', ':', '0', '0']

/-- Fractions are ordered as texts, the missing one first: the plus sign comes before the point. -/
theorem fractionText_lt_iff {left right : Nat} (leftFits : left < 1000000)
    (rightFits : right < 1000000) : fractionText left < fractionText right ↔ left < right := by
  have plusFirst : '+' < '.' := by decide
  have pointLast : ¬ '.' < '+' := by decide
  unfold fractionText
  by_cases leftZero : left = 0
  · by_cases rightZero : right = 0
    · simp [leftZero, rightZero]
    · simp only [leftZero, rightZero, if_true, if_false, List.nil_append, List.cons_append,
        List.cons_lt_cons_iff, plusFirst, true_or, true_iff]
      omega
  · by_cases rightZero : right = 0
    · simp [leftZero, rightZero, List.cons_lt_cons_iff, pointLast]
    · simp only [leftZero, rightZero, if_false, List.cons_append, List.cons_lt_cons_iff, lt_self_iff_false,
        false_or, true_and]
      rw [zeroPad_append_lt_iff (by decide) leftFits rightFits]
      simp

/-- The text of a date-time, its fraction with the offset last. -/
theorem toList_isoformat (moment : DateTime) : moment.isoformat.toList =
    zeroPad 4 moment.year ++ '-' :: (zeroPad 2 moment.month ++ '-' :: (zeroPad 2 moment.day ++
      'T' :: (zeroPad 2 moment.hour ++ ':' :: (zeroPad 2 moment.minute ++
      ':' :: (zeroPad 2 moment.second ++ fractionText moment.microsecond))))) := by
  simp [isoformat, fractionText]

/-- The texts of two date-times are ordered as the instants are. -/
theorem isoformat_lt_iff (left right : DateTime) :
    left.isoformat < right.isoformat ↔ left.toMicros < right.toMicros := by
  have leftValid := left.valid
  have rightValid := right.valid
  have leftDay := daysInMonth_le left.year left.month
  have rightDay := daysInMonth_le right.year right.month
  rw [← fieldsBefore_iff, String.lt_iff_toList_lt, toList_isoformat, toList_isoformat]
  -- One field after the other, each of its own width; the characters between them are the same.
  rw [zeroPad_append_lt_iff (by decide) (by omega) (by omega), List.cons_lt_cons_self,
    zeroPad_append_lt_iff (by decide) (by omega) (by omega), List.cons_lt_cons_self,
    zeroPad_append_lt_iff (by decide) (by omega) (by omega), List.cons_lt_cons_self,
    zeroPad_append_lt_iff (by decide) (by omega) (by omega), List.cons_lt_cons_self,
    zeroPad_append_lt_iff (by decide) (by omega) (by omega), List.cons_lt_cons_self,
    zeroPad_append_lt_iff (by decide) (by omega) (by omega),
    fractionText_lt_iff (by omega) (by omega), FieldsBefore]

end DateTime

end Python
