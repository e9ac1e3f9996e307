import JolCommerce.Python.Numerals
import JolCommerce.Tax.InvoiceGenerator

/-! Invoice numbers are never given twice; when their month is the month of the invoice date. -/

namespace JolCommerce

open Python

namespace InvoiceGenerator

/-- The invoice made with a counter and two readings of the clock. -/
def invoiceOf (arguments : InvoiceArguments) (counter : Nat) (numbered dated : Date) : Invoice where
  invoiceNumber := String.ofList ("JOL-".toList ++ yearMonth numbered ++ '-' :: zeroPad 6 counter)
  invoiceDate := dated
  sellerName := arguments.sellerName
  sellerVatNumber := arguments.sellerVatNumber
  buyerName := arguments.buyerName
  buyerCountry := arguments.buyerCountry
  lineItems := arguments.lineItems
  currency := arguments.currency

/-- The number is made of the month of the first reading and the counter. -/
theorem toList_invoiceNumber (arguments : InvoiceArguments) (counter : Nat) (numbered dated : Date) :
    (invoiceOf arguments counter numbered dated).invoiceNumber.toList =
      "JOL-".toList ++ (yearMonth numbered ++ '-' :: zeroPad 6 counter) := by
  rw [← List.append_assoc]
  exact String.toList_ofList

/-- A call counts once and reads the clock twice. -/
theorem run_generate (clock : Nat → Date) (arguments : InvoiceArguments)
    (generator : InvoiceGenerator) :
    (generate clock arguments).run generator =
      (invoiceOf arguments (generator.counter + 1) (clock generator.readings)
          (clock (generator.readings + 1)),
        ⟨generator.counter + 1, generator.readings + 2⟩) := rfl

/-- Calls in a row hand the counter and the clock on. -/
theorem run_generateAll_cons (clock : Nat → Date) (arguments : InvoiceArguments)
    (rest : List InvoiceArguments) (generator : InvoiceGenerator) :
    ((generateAll clock (arguments :: rest)).run generator).1 =
      invoiceOf arguments (generator.counter + 1) (clock generator.readings)
          (clock (generator.readings + 1)) ::
        ((generateAll clock rest).run ⟨generator.counter + 1, generator.readings + 2⟩).1 := by
  -- The first call leaves the state that the others start with.
  simp only [generateAll, List.mapM_cons, StateT.run_bind, run_generate]
  rfl

/-- The year and the month take six digits. -/
theorem yearMonth_length (date : Date) : (yearMonth date).length = 6 := by
  have valid := date.valid
  rw [yearMonth, List.length_append, zeroPad_length_of_lt (by decide) (by omega),
    zeroPad_length_of_lt (by decide) (by omega)]

/-- The six digits tell the year and the month. -/
theorem yearMonth_eq_iff (left right : Date) :
    yearMonth left = yearMonth right ↔ left.year = right.year ∧ left.month = right.month := by
  constructor
  · intro same
    have leftValid := left.valid
    have rightValid := right.valid
    have widths : (zeroPad 4 left.year).length = (zeroPad 4 right.year).length := by
      rw [zeroPad_length_of_lt (by decide) (by omega), zeroPad_length_of_lt (by decide) (by omega)]
    -- Of two numerals in a row, the first has the same width in both texts.
    obtain ⟨years, months⟩ := List.append_inj same widths
    exact ⟨zeroPad_injective years, zeroPad_injective months⟩
  · intro same
    obtain ⟨year, month⟩ := same
    rw [yearMonth, yearMonth, year, month]

/-- The number of an invoice names the month of its date. -/
def NamesItsMonth (invoice : Invoice) : Prop :=
  ∃ rest, invoice.invoiceNumber.toList =
    "JOL-".toList ++ yearMonth invoice.invoiceDate ++ '-' :: rest

/-- An invoice names its month exactly when both readings lie in one month. -/
theorem namesItsMonth_invoiceOf (arguments : InvoiceArguments) (counter : Nat)
    (numbered dated : Date) : NamesItsMonth (invoiceOf arguments counter numbered dated) ↔
      numbered.year = dated.year ∧ numbered.month = dated.month := by
  rw [← yearMonth_eq_iff]
  constructor
  · intro names
    obtain ⟨rest, text⟩ := names
    rw [toList_invoiceNumber, List.append_assoc] at text
    -- The six digits stand at one place in both texts.
    have digits := List.append_cancel_left text
    exact (List.append_inj digits (by rw [yearMonth_length, yearMonth_length])).1
  · intro same
    refine ⟨zeroPad 6 counter, ?_⟩
    rw [toList_invoiceNumber, same, List.append_assoc]
    rfl

/-- Equal numbers come from equal counters, however many digits these have. -/
theorem invoiceOf_counter_eq {first second : InvoiceArguments} {left right : Nat}
    {leftNumbered leftDated rightNumbered rightDated : Date}
    (same : (invoiceOf first left leftNumbered leftDated).invoiceNumber =
      (invoiceOf second right rightNumbered rightDated).invoiceNumber) : left = right := by
  have text := congrArg String.toList same
  rw [toList_invoiceNumber, toList_invoiceNumber] at text
  have digits := List.append_cancel_left text
  -- The counter starts behind a prefix of one length.
  have counters := (List.append_inj digits (by rw [yearMonth_length, yearMonth_length])).2
  exact zeroPad_injective (List.cons.inj counters).2

/-- Every invoice of a run has a counter above the one the run starts with. -/
theorem counter_of_mem (clock : Nat → Date) {calls : List InvoiceArguments}
    {generator : InvoiceGenerator} {invoice : Invoice}
    (member : invoice ∈ ((generateAll clock calls).run generator).1) :
    ∃ arguments counter numbered dated, generator.counter < counter ∧
      invoice = invoiceOf arguments counter numbered dated := by
  -- One call after the other, each of which counts up.
  induction calls generalizing generator with
  | nil => cases member
  | cons arguments rest ih =>
    rw [run_generateAll_cons, List.mem_cons] at member
    rcases member with rfl | later
    · exact ⟨arguments, generator.counter + 1, _, _, Nat.lt_succ_self _, rfl⟩
    · obtain ⟨others, counter, numbered, dated, above, same⟩ := ih later
      exact ⟨others, counter, numbered, dated, Nat.lt_of_succ_lt above, same⟩

/-- No number is given twice in a run. -/
theorem numbers_nodup (clock : Nat → Date) (calls : List InvoiceArguments)
    (generator : InvoiceGenerator) :
    (((generateAll clock calls).run generator).1.map Invoice.invoiceNumber).Nodup := by
  induction calls generalizing generator with
  | nil => exact List.nodup_nil
  | cons arguments rest ih =>
    rw [run_generateAll_cons, List.map_cons, List.nodup_cons]
    refine ⟨?_, ih _⟩
    intro member
    obtain ⟨invoice, later, same⟩ := List.mem_map.mp member
    -- Later invoices have higher counters.
    obtain ⟨others, counter, numbered, dated, above, rfl⟩ := counter_of_mem clock later
    have equal := invoiceOf_counter_eq same
    have larger : generator.counter + 1 < counter := above
    omega

/-- Invoices of one run are numbered as they should be. -/
structure NumberedCorrectly (invoices : List Invoice) : Prop where
  distinct : (invoices.map Invoice.invoiceNumber).Nodup
  months : ∀ invoice ∈ invoices, NamesItsMonth invoice

/-- The two readings of every call lie in one month. -/
def ReadInOneMonth (clock : Nat → Date) (first count : Nat) : Prop :=
  ∀ index < count, (clock (first + 2 * index)).year = (clock (first + 2 * index + 1)).year ∧
    (clock (first + 2 * index)).month = (clock (first + 2 * index + 1)).month

/-- The first call apart from the others. -/
theorem readInOneMonth_succ (clock : Nat → Date) (first count : Nat) :
    ReadInOneMonth clock first (count + 1) ↔
      ((clock first).year = (clock (first + 1)).year ∧
        (clock first).month = (clock (first + 1)).month) ∧
      ReadInOneMonth clock (first + 2) count := by
  unfold ReadInOneMonth
  constructor
  · intro all
    refine ⟨all 0 (Nat.succ_pos count), ?_⟩
    intro index within
    have later := all (index + 1) (Nat.succ_lt_succ within)
    have place : first + 2 * (index + 1) = first + 2 + 2 * index := by omega
    rw [place] at later
    exact later
  · intro both index within
    cases index with
    | zero => exact both.1
    | succ index =>
      have place : first + 2 * (index + 1) = first + 2 + 2 * index := by omega
      rw [place]
      exact both.2 index (Nat.lt_of_succ_lt_succ within)

/-- The months of a run are right exactly when every call reads both times in one month. -/
theorem months_iff (clock : Nat → Date) (calls : List InvoiceArguments)
    (generator : InvoiceGenerator) :
    (∀ invoice ∈ ((generateAll clock calls).run generator).1, NamesItsMonth invoice) ↔
      ReadInOneMonth clock generator.readings calls.length := by
  induction calls generalizing generator with
  | nil =>
    constructor
    · intro _ index within
      cases within
    · intro _ invoice member
      cases member
  | cons arguments rest ih =>
    -- The first call makes the readings at its start, the others those from two later on.
    rw [run_generateAll_cons, List.forall_mem_cons, namesItsMonth_invoiceOf, ih, List.length_cons,
      readInOneMonth_succ]

/--
The invoices of a process are numbered as they should be exactly when each call reads the clock
twice in one month.

No number is given twice in any case, and the number of invoices has no bound.
-/
theorem numbered_correctly_iff (clock : Nat → Date) (calls : List InvoiceArguments) :
    NumberedCorrectly ((generateAll clock calls).run new).1 ↔
      ReadInOneMonth clock 0 calls.length := by
  have months := months_iff clock calls new
  constructor
  · exact fun correct => months.mp correct.months
  · exact fun read => ⟨numbers_nodup clock calls new, months.mpr read⟩

/-- A clock that passes midnight at the end of July after its first reading. -/
def midnightClock (reading : Nat) : Date :=
  if reading = 0 then ⟨2026, 7, 31, by decide⟩ else ⟨2026, 8, 1, by decide⟩

/-- An invoice without lines. -/
def sampleArguments : InvoiceArguments where
  sellerName := "Parish"
  sellerVatNumber := "LT100001738313"
  buyerName := "Visitor"
  buyerCountry := "LT"
  lineItems := []

/-- The clock does not go back, and yet the invoice of August is numbered for July. -/
theorem july_number_in_august :
    (∀ earlier later, earlier ≤ later →
      (midnightClock earlier).le (midnightClock later) = true) ∧
    ¬NumberedCorrectly ((generateAll midnightClock [sampleArguments]).run new).1 := by
  constructor
  · intro earlier later order
    -- Once the clock has passed midnight it stays there.
    unfold midnightClock
    by_cases first : earlier = 0
    · rw [if_pos first]
      split <;> decide
    · have passed : later ≠ 0 := by omega
      rw [if_neg first, if_neg passed]
      decide
  · intro correct
    -- The number is `JOL-202607-000001`, and the date is the first of August.
    have names := correct.months
      (invoiceOf sampleArguments 1 (midnightClock 0) (midnightClock 1)) (List.mem_singleton.mpr rfl)
    have months := ((namesItsMonth_invoiceOf _ _ _ _).mp names).2
    exact absurd months (by decide)

end InvoiceGenerator

end JolCommerce
