import JolCommerce.Common

/-! Dates as the constructor checks them, their order and the day after. -/

namespace Python

open JolCommerce

/-- An argument that the interpreter passes on as a C `int`. -/
def cInt (value : Int) : Except PyError Int :=
  if value < -2 ^ 63 ∨ 2 ^ 63 ≤ value then
    .error (.overflowError "Python int too large to convert to C long")
  else if 2 ^ 31 ≤ value then .error (.overflowError "signed integer is greater than maximum")
  else if value < -2 ^ 31 then .error (.overflowError "signed integer is less than minimum")
  else .ok value

namespace Date

/-- `date(year, month, day)`, month and day being those of some other date. -/
def new (year : Int) (month day : Nat) : Except PyError Date := do
  let year ← cInt year
  if inYears : 1 ≤ year.toNat ∧ year.toNat ≤ 9999 then
    if inMonths : 1 ≤ month ∧ month ≤ 12 then
      if inDays : 1 ≤ day ∧ day ≤ daysInMonth year.toNat month then
        return ⟨year.toNat, month, day, inYears, inMonths, inDays⟩
      else throw (.valueError "day is out of range for month")
    else throw (.valueError "month must be in 1..12")
  else throw (.valueError ("year " ++ String.ofList (intText year) ++ " is out of range"))

/-- A year with its month and day is constructed exactly when the month is long enough. -/
theorem new_natCast {year month day : Nat} (inYears : 1 ≤ year ∧ year ≤ 9999)
    (inMonths : 1 ≤ month ∧ month ≤ 12) (positive : 1 ≤ day) :
    new year month day =
      if fits : day ≤ daysInMonth year month then .ok ⟨year, month, day, inYears, inMonths, positive, fits⟩
      else .error (.valueError "day is out of range for month") := by
  -- Such a year fits a C integer, so only the day can be refused.
  have small : cInt year = .ok (year : Int) := by
    unfold cInt
    rw [if_neg (by omega), if_neg (by omega), if_neg (by omega)]
  simp only [new, small, ok_bind, Int.toNat_natCast, inYears, inMonths, positive, and_self,
    true_and, dite_true]
  rfl

/-- Only February has a length that depends on the year. -/
theorem daysInMonth_eq {month : Nat} (notFebruary : month ≠ 2) (first second : Nat) :
    daysInMonth first month = daysInMonth second month := by
  unfold daysInMonth
  split <;> simp_all

/-- A day other than 29 February is a day of its month in every year. -/
theorem day_fits {date : Date} (usual : ¬(date.month = 2 ∧ date.day = 29)) (year : Nat) :
    date.day ≤ daysInMonth year date.month := by
  have fits := date.valid.2.2.2
  by_cases february : date.month = 2
  · -- Any February has the 28 days that are left.
    rw [february] at fits ⊢
    simp only [daysInMonth] at fits ⊢
    split at fits <;> split <;> omega
  · rw [daysInMonth_eq february year date.year]
    exact fits

/-- A year that has a leap day. -/
theorem isLeap_of_day (date : Date) (february : date.month = 2) (leapDay : date.day = 29) :
    isLeap date.year = true := by
  -- A common February is a day too short.
  have fits := date.valid.2.2.2
  by_contra common
  simp [february, leapDay, daysInMonth, common] at fits

/-- Every month has a first day. -/
theorem daysInMonth_pos (year month : Nat) : 1 ≤ daysInMonth year month := by
  -- February has two cases, and the other months have one each.
  unfold daysInMonth
  split
  · split <;> omega
  · omega
  · omega
  · omega
  · omega
  · omega

/-- The day after a date, which the last date has none of. -/
def next? (date : Date) : Option Date :=
  -- A month that is not over goes on, then the year does, then the next year begins.
  if within : date.day < daysInMonth date.year date.month then
    some ⟨date.year, date.month, date.day + 1, date.valid.1, date.valid.2.1,
      Nat.le_add_left 1 _, within⟩
  else if months : date.month < 12 then
    some ⟨date.year, date.month + 1, 1, date.valid.1, ⟨Nat.le_add_left 1 _, months⟩, le_refl 1,
      daysInMonth_pos _ _⟩
  else if years : date.year < 9999 then
    some ⟨date.year + 1, 1, 1, ⟨Nat.le_add_left 1 _, years⟩, by decide, le_refl 1,
      daysInMonth_pos _ _⟩
  else none

/-- The order of dates, field by field. -/
theorem le_iff (left right : Date) :
    left.le right = true ↔ left.year < right.year ∨ left.year = right.year ∧
      (left.month < right.month ∨ left.month = right.month ∧ left.day ≤ right.day) := by
  simp [le]

/-- Dates are ordered transitively. -/
theorem le_trans {first second third : Date} (left : first.le second = true)
    (right : second.le third = true) : first.le third = true := by
  rw [le_iff] at left right ⊢
  omega

/-- Any two dates are ordered one way or the other. -/
theorem le_of_not_le {first second : Date} (not : ¬first.le second = true) :
    second.le first = true := by
  rw [le_iff] at not ⊢
  omega

/-- No date lies between a date and the day after it. -/
theorem next_le_iff {date next : Date} (following : date.next? = some next) (other : Date) :
    next.le other = true ↔ ¬other.le date = true := by
  have days := other.valid.2.2.2
  have months := other.valid.2.1
  have dateMonths := date.valid.2.1
  have positive := other.valid.2.2.1
  rw [le_iff, le_iff]
  unfold next? at following
  split at following
  · cases following
    dsimp only
    omega
  · rename_i full
    -- The last day of a month bounds the days of the others in that month.
    have last : other.year = date.year → other.month = date.month → other.day ≤ date.day := by
      intro sameYear sameMonth
      rw [sameYear, sameMonth] at days
      omega
    split at following
    · cases following
      dsimp only
      omega
    · split at following
      · cases following
        dsimp only
        omega
      · cases following

/-- At least a number of calendar years lie between two dates. -/
def YearsApart (years : Nat) (earlier later : Date) : Prop :=
  earlier.year + years < later.year ∨ earlier.year + years = later.year ∧
    (earlier.month < later.month ∨ earlier.month = later.month ∧ earlier.day ≤ later.day)

end Date

end Python
