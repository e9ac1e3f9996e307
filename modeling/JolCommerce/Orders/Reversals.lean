import JolCommerce.Orders.Books

/-! Sequences of reversals of one settlement: how much they take back in total. -/

namespace JolCommerce

open Python

namespace CommissionEngine

/-- The number a fraction's text denotes, zero for a text that is no finite decimal. -/
def fractionValue (fraction : String) : ℚ :=
  match Decimal.parse? fraction with
  | some (.finite negative coefficient exponent) => Decimal.value negative coefficient exponent
  | _ => 0

/-- An accepted fraction denotes the number it was accepted for. -/
theorem AcceptedFraction.value_eq {fraction : String} {number : ℚ}
    (accepted : AcceptedFraction fraction number) : fractionValue fraction = number := by
  -- The text denotes one decimal, and the decimal one number.
  obtain ⟨frac, parsed, ⟨negative, coefficient, exponent, rfl, value⟩, -⟩ := accepted
  simp [fractionValue, parsed, value]

end CommissionEngine

open CommissionEngine

/-- An entry takes back a fraction of a split. -/
structure Reverses (split : CommissionSplit) (fraction : String) (entry : LedgerEntry) : Prop where
  accepted : AcceptedFraction fraction (fractionValue fraction)
  gross : ProductSpec split.grossAmountCents (fractionValue fraction) (-entry.grossAmountCents)
  fee : ProductSpec split.platformFeeCents (fractionValue fraction) (-entry.platformFeeCents)

/-- The negated amounts of a reversal make an entry that takes back its fraction. -/
theorem reverses_of_reverse {split reversal : CommissionSplit} {fraction : String}
    (reversed : CommissionEngine.reverse split fraction = .ok reversal)
    (gross : 0 ≤ split.grossAmountCents) (fee : 0 ≤ split.platformFeeCents) {order : Order}
    {snapshot : CommissionSnapshot} {entry : LedgerEntry}
    (fields : entry.fields = OrderService.reversalFields order snapshot reversal) :
    Reverses split fraction entry := by
  obtain ⟨number, accepted⟩ := reverse_accepted reversed
  -- The reversal that returned is the one the specification speaks of.
  obtain ⟨result, returned, -, grossSpec, feeSpec, -⟩ := reverse_ok accepted gross fee
  rw [reversed] at returned
  cases returned
  have grossField : -entry.grossAmountCents = reversal.grossAmountCents := by
    have field : entry.grossAmountCents = -reversal.grossAmountCents :=
      congrArg LedgerArguments.grossAmountCents fields
    omega
  have feeField : -entry.platformFeeCents = reversal.platformFeeCents := by
    have field : entry.platformFeeCents = -reversal.platformFeeCents :=
      congrArg LedgerArguments.platformFeeCents fields
    omega
  refine ⟨?_, ?_, ?_⟩
  · rw [accepted.value_eq]
    exact accepted
  · rw [accepted.value_eq, grossField]
    exact grossSpec
  · rw [accepted.value_eq, feeField]
    exact feeSpec

/-- Products with several factors add up to at most the product with their sum, but for rounding. -/
theorem products_sum_le {amount : Int} {field : LedgerEntry → Int} {fractions : List String}
    {entries : List LedgerEntry}
    (products : List.Forall₂ (fun fraction entry =>
      ProductSpec amount (fractionValue fraction) (-field entry)) fractions entries) :
    ((-(entries.map field).sum : Int) : ℚ) ≤
      amount * (fractions.map fractionValue).sum * (1 + 5 / 10 ^ 28) := by
  -- Each product exceeds its exact value by at most the relative rounding error.
  induction products with
  | nil => simp
  | cons head tail ih =>
    have upper := head.upper
    simp only [List.map_cons, List.sum_cons]
    push_cast at upper ih ⊢
    linarith

/-- Fractions of at most one in total take back no more than an amount that fits the precision. -/
theorem products_sum_le_amount {amount : Int} {field : LedgerEntry → Int}
    {fractions : List String} {entries : List LedgerEntry} (nonneg : 0 ≤ amount)
    (small : amount < 2 * 10 ^ 27)
    (products : List.Forall₂ (fun fraction entry =>
      ProductSpec amount (fractionValue fraction) (-field entry)) fractions entries)
    (total : (fractions.map fractionValue).sum ≤ 1) : -(entries.map field).sum ≤ amount := by
  have bound := products_sum_le products
  have amountNonneg : (0 : ℚ) ≤ amount := by exact_mod_cast nonneg
  have amountSmall : (amount : ℚ) < 2 * 10 ^ 27 := by exact_mod_cast small
  have scaled : (amount : ℚ) * (fractions.map fractionValue).sum ≤ amount :=
    mul_le_of_le_one_right amountNonneg total
  -- The rounding of all products together stays below one cent.
  have below : ((-(entries.map field).sum : Int) : ℚ) < amount + 1 := by
    calc ((-(entries.map field).sum : Int) : ℚ)
        ≤ amount * (fractions.map fractionValue).sum * (1 + 5 / 10 ^ 28) := bound
      _ ≤ amount * (1 + 5 / 10 ^ 28) := mul_le_mul_of_nonneg_right scaled (by norm_num)
      _ < amount + 1 := by linarith
  have whole : -(entries.map field).sum < amount + 1 := by exact_mod_cast below
  omega

/-- The books of an order of which something was settled once, or nothing was. -/
inductive Reversible (books : OrderBooks) : Prop where
  | unsettled (uncaptured : books.order.commissionSnapshot = none) (entries : books.entries = [])
    (fractions : books.fractions = [])
  | settled (split : CommissionSplit) (settlement : LedgerEntry) (reversals : List LedgerEntry)
    (completed : books.order.status = .completed)
    (captured : books.order.commissionSnapshot = some (OrderService.snapshotOf split))
    (gross : split.grossAmountCents = books.order.totalAmountCents)
    (grossNonneg : 0 ≤ split.grossAmountCents) (feeNonneg : 0 ≤ split.platformFeeCents)
    (balanced : split.platformFeeCents + split.tenantSettlementCents = split.grossAmountCents)
    (entries : books.entries = settlement :: reversals)
    (settles : settlement.grossAmountCents = split.grossAmountCents)
    (reverses : List.Forall₂ (Reverses split) books.fractions reversals)

namespace OrderService

/-- Binding captures nothing. -/
@[simp] theorem bindTenant_commissionSnapshot (tenant : Option TenantContext) (order : Order) :
    (bindTenant tenant order).commissionSnapshot = order.commissionSnapshot := by
  unfold bindTenant
  split
  · rfl
  · cases tenant <;> rfl

/-- Binding changes no amount. -/
@[simp] theorem bindTenant_totalAmountCents (tenant : Option TenantContext) (order : Order) :
    (bindTenant tenant order).totalAmountCents = order.totalAmountCents := by
  unfold bindTenant
  split
  · rfl
  · cases tenant <;> rfl

/-- A snapshot stands for the split it was captured from, but for the rate. -/
theorem settledSplit_snapshotOf {split : CommissionSplit}
    (balanced : split.platformFeeCents + split.tenantSettlementCents = split.grossAmountCents)
    (rate : Decimal) : settledSplit rate (snapshotOf split) = { split with rate := rate } := by
  simp [settledSplit, snapshotOf, balanced]

/-- What a snapshot says of the rate can be read back. -/
theorem readDecimal_rateStr {split : CommissionSplit} (isRate : IsRate split.rate) :
    readDecimal split.rateStr = .ok split.rate := by
  obtain ⟨_, ⟨negative, coefficient, exponent, form, -⟩, -⟩ := isRate
  unfold readDecimal CommissionSplit.rateStr
  rw [form, Decimal.parse_toStr]

/-- A reversal of an accepted fraction of a captured split returns. -/
theorem recordCommissionReversal_captured (service : OrderService) {split : CommissionSplit}
    (isRate : IsRate split.rate) (gross : 0 ≤ split.grossAmountCents)
    (fee : 0 ≤ split.platformFeeCents)
    (balanced : split.platformFeeCents + split.tenantSettlementCents = split.grossAmountCents)
    {world : World} {ref : OrderRef}
    (captured : (world.orders ref).commissionSnapshot = some (snapshotOf split)) (actor reason : String)
    {fraction : String} {number : ℚ} (accepted : AcceptedFraction fraction number)
    (entryStamp auditStamp : Stamp) :
    ∃ reversal entry, CommissionEngine.reverse split fraction = .ok reversal ∧
      entry.fields = reversalFields (world.orders ref) (snapshotOf split) reversal ∧
      (service.recordCommissionReversal ref actor fraction reason entryStamp auditStamp).run world =
        .ok entry (service.afterReversal ref actor reason world fraction auditStamp reversal entry) := by
  -- The rate is read back from its text, the fraction is accepted and the entry balances.
  obtain ⟨reversal, reversed, -⟩ := reverse_ok accepted gross fee
  have same : settledSplit split.rate (snapshotOf split) = split :=
    settledSplit_snapshotOf balanced split.rate
  obtain ⟨entry, built⟩ := reversal_entry reversed (world.orders ref) (snapshotOf split) entryStamp
  refine ⟨reversal, entry, reversed, LedgerEntry.new_fields built, ?_⟩
  exact recordCommissionReversal_ok service ref actor reason world fraction entryStamp auditStamp
    captured (readDecimal_rateStr isRate) (by rw [same]; exact reversed) built

/-- One request keeps the books of an order in order. -/
theorem BooksStep.reversible {service : OrderService} {request : Request} {before after : OrderBooks}
    (taken : BooksStep service request before after) (books : Reversible before) :
    Reversible after := by
  -- A settled order is completed, which is terminal: it is neither moved nor settled again.
  cases taken with
  | idle => exact books
  | bound actor stamp registers =>
    cases books with
    | unsettled uncaptured entries fractions => exact .unsettled (by simpa using uncaptured) entries fractions
    | settled split settlement reversals completed captured gross grossNonneg feeNonneg balanced
        entries settles reverses =>
      exact .settled split settlement reversals (by simpa using completed) (by simpa using captured)
        (by simpa using gross) grossNonneg feeNonneg balanced entries settles reverses
  | moved change valid unsettled =>
    cases books with
    | unsettled uncaptured entries fractions => exact .unsettled uncaptured entries fractions
    | settled split settlement reversals completed =>
      exact absurd completed (validTransitions_terminal valid).1
  | settled change completed valid allowed split calculated entry fields =>
    cases books with
    | unsettled uncaptured entries fractions =>
      -- The first entry is the settlement, and its split is what the snapshot captures.
      have spec := calculate_spec calculated
      obtain ⟨number, denotes, -⟩ := spec.isRate
      refine .settled split entry [] completed rfl spec.gross_eq (spec.gross_eq ▸ spec.nonneg)
        (spec.fee number denotes).nonneg (spec.gross_eq ▸ spec.balanced) (by simp [entries])
        (congrArg LedgerArguments.grossAmountCents fields) ?_
      simp only [fractions]
      exact .nil
    | settled _ _ _ already => exact absurd already (validTransitions_terminal valid).1
  | reversed snapshot present rate fraction reversal reversed entry fields =>
    cases books with
    | unsettled uncaptured entries fractions =>
      rw [uncaptured] at present
      cases present
    | settled split settlement reversals completed captured gross grossNonneg feeNonneg balanced
        entries settles reverses =>
      rw [captured] at present
      cases present
      -- The reversal is computed from the snapshot, which gives the settled amounts back.
      rw [settledSplit_snapshotOf balanced] at reversed
      have taken : Reverses { split with rate := rate } fraction entry :=
        reverses_of_reverse reversed grossNonneg feeNonneg fields
      refine .settled split settlement (reversals ++ [entry]) completed captured gross grossNonneg
        feeNonneg balanced (by simp [entries]) settles ?_
      exact List.rel_append reverses (.cons ⟨taken.accepted, taken.gross, taken.fee⟩ .nil)

/-- A run keeps the books of an order in order that shares its id with no other. -/
theorem run_reversible (service : OrderService) {journal : Journal} {ref : OrderRef}
    (sole : journal.world.SoleId ref) (books : Reversible (journal.books ref))
    (requests : List Request) :
    Reversible ((requests.foldl service.journalStep journal).books ref) := by
  -- That no other order carries the id is carried along, since no request changes an id.
  induction requests generalizing journal with
  | nil => exact books
  | cons request rest ih =>
    have taken := journalStep_books service journal request fun different same =>
      different (sole request.ref same)
    refine ih ?_ (taken.reversible books)
    intro other same
    apply sole other
    rw [← step_orderId service journal.world request other,
      ← step_orderId service journal.world request ref]
    exact same

/--
Whatever a run does with an order, the gross amounts its reversals take back add up to at most the
settled amount times the sum of their fractions, but for the rounding to twenty-eight digits. They
never exceed the settled amount when the fractions sum to at most one and the amount fits.
-/
theorem reversed_gross_bounded (service : OrderService) (orders : OrderRef → Order)
    (nextRef ref : OrderRef) (sole : (World.fresh orders nextRef).SoleId ref)
    (uncaptured : (orders ref).commissionSnapshot = none) (requests : List Request) :
    let books := (requests.foldl service.journalStep ⟨World.fresh orders nextRef, []⟩).books ref
    (books.entries = [] ∧ books.fractions = []) ∨
      ∃ settlement reversals, books.entries = settlement :: reversals ∧
        settlement.grossAmountCents = books.order.totalAmountCents ∧
        reversals.length = books.fractions.length ∧
        ((-(Balance.of reversals).grossCents : Int) : ℚ) ≤ settlement.grossAmountCents *
          (books.fractions.map fractionValue).sum * (1 + 5 / 10 ^ 28) ∧
        ((books.fractions.map fractionValue).sum ≤ 1 → settlement.grossAmountCents < 2 * 10 ^ 27 →
          -(Balance.of reversals).grossCents ≤ settlement.grossAmountCents) := by
  -- The run keeps the books in order; the bounds are sums over the reversal entries.
  intro books
  have initial : Reversible (Journal.books ⟨World.fresh orders nextRef, []⟩ ref) :=
    .unsettled uncaptured rfl rfl
  have reached : Reversible books := run_reversible service sole initial requests
  generalize books = books at reached
  cases reached with
  | unsettled _ entries fractions => exact Or.inl ⟨entries, fractions⟩
  | settled split settlement reversals _ _ gross grossNonneg _ _ entries settles reverses =>
    have products : List.Forall₂ (fun fraction entry => ProductSpec settlement.grossAmountCents
        (fractionValue fraction) (-entry.grossAmountCents)) books.fractions reversals := by
      rw [settles]
      exact reverses.imp fun _ _ reversed => reversed.gross
    refine Or.inr ⟨settlement, reversals, entries, settles.trans gross, reverses.length_eq.symm,
      products_sum_le products, ?_⟩
    intro total small
    exact products_sum_le_amount (settles ▸ grossNonneg) small products total

/-- Draft orders of a thousand cents each. -/
def pricedOrders (ref : OrderRef) : Order := { draftOrders ref with totalAmountCents := 1000 }

/-- The reversal of a fraction of an order, without a bound tenant. -/
def reversalRequest (ref : OrderRef) (fraction : String) : Request :=
  ⟨none, ref, .reverse "clerk" fraction "" Stamp.sample Stamp.sample⟩

/-- The requests that register an order and bring it to completion. -/
def completion (ref : OrderRef) : List Request :=
  [registration ref, lifecycleRequest ref (.transition .reserved),
    lifecycleRequest ref (.transition .confirmed), lifecycleRequest ref (.transition .inProgress),
    lifecycleRequest ref .complete]

/-- Two halves of a completed order take back what was settled, and no more. -/
theorem reversed_gross_halves :
    let books := ((completion 0 ++ [reversalRequest 0 "0.5", reversalRequest 0 "0.5"]).foldl
      sampleService.journalStep ⟨World.fresh pricedOrders 1, []⟩).books 0
    books.fractions = ["0.5", "0.5"] ∧ ∃ settlement reversals,
      books.entries = settlement :: reversals ∧
        -(Balance.of reversals).grossCents ≤ settlement.grossAmountCents := by
  -- Two halves add up to no more than the whole amount, which is small.
  have sole : (World.fresh pricedOrders 1).SoleId 0 := by
    intro other same
    exact natText_injective (String.ofList_injective same)
  have bounded := reversed_gross_bounded sampleService pricedOrders 1 0 sole rfl
    (completion 0 ++ [reversalRequest 0 "0.5", reversalRequest 0 "0.5"])
  intro books
  have recorded : books.fractions = ["0.5", "0.5"] := by decide +kernel
  have total : (books.fractions.map fractionValue).sum ≤ 1 := by
    rw [recorded]
    decide +kernel
  have small : books.order.totalAmountCents < 2 * 10 ^ 27 := by decide +kernel
  refine ⟨recorded, ?_⟩
  rcases bounded with ⟨-, none⟩ | ⟨settlement, reversals, entries, gross, -, -, capped⟩
  · rw [recorded] at none
    cases none
  · exact ⟨settlement, reversals, entries, capped total (gross ▸ small)⟩

/-- Two full reversals of a completed order of a thousand cents take back two thousand. -/
theorem reversed_gross_doubled :
    let books := ((completion 0 ++ [reversalRequest 0 "1", reversalRequest 0 "1"]).foldl
      sampleService.journalStep ⟨World.fresh pricedOrders 1, []⟩).books 0
    (∀ ref, (World.fresh pricedOrders 1).SoleId ref) ∧ books.order.status = .completed ∧
      books.fractions = ["1", "1"] ∧
      ∃ settlement reversals, books.entries = settlement :: reversals ∧
        settlement.grossAmountCents = 1000 ∧ -(Balance.of reversals).grossCents = 2000 ∧
        ¬-(Balance.of reversals).grossCents ≤ settlement.grossAmountCents := by
  intro books
  have amounts : books.entries.map LedgerEntry.grossAmountCents = [1000, -1000, -1000] := by
    decide +kernel
  refine ⟨?_, by decide +kernel, by decide +kernel, ?_⟩
  · intro ref other same
    exact natText_injective (String.ofList_injective same)
  · generalize books.entries = entries at amounts
    cases entries with
    | nil => cases amounts
    | cons settlement reversals =>
      simp only [List.map_cons, List.cons.injEq] at amounts
      refine ⟨settlement, reversals, rfl, amounts.1, ?_⟩
      simp [Balance.of, amounts.1, amounts.2]

end OrderService

end JolCommerce
