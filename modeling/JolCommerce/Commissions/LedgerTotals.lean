import JolCommerce.Commissions.Ledger
import Mathlib.Algebra.BigOperators.Group.Finset.Piecewise
import Mathlib.Algebra.BigOperators.Group.List.Basic

/-! Ledger totals by tenant: they partition the global ones, but for entries without a tenant. -/

namespace JolCommerce

/-- Sums by key add up to the whole sum, when the keys cover all items. -/
theorem sum_fiberwise {α κ : Type} [DecidableEq κ] {key : α → κ} {keys : Finset κ} {items : List α}
    (field : α → Int) (covered : ∀ item ∈ items, key item ∈ keys) :
    ∑ value ∈ keys, ((items.filter fun item => key item = value).map field).sum =
      (items.map field).sum := by
  induction items with
  | nil => simp
  | cons item rest ih =>
    obtain ⟨own, others⟩ := List.forall_mem_cons.mp covered
    -- The first item counts for its key, and the sums by key of the rest are known.
    have first : ∀ value, (((item :: rest).filter fun item => key item = value).map field).sum =
        (if key item = value then field item else 0) +
          ((rest.filter fun item => key item = value).map field).sum := by
      intro value
      by_cases same : key item = value <;> simp [same]
    simp only [first, Finset.sum_add_distrib, ih others, Finset.sum_ite_eq, own, if_true,
      List.map_cons, List.sum_cons]

/-- The amounts of a balance add up. -/
def Balance.Balanced (balance : Balance) : Prop :=
  balance.platformFeeCents + balance.tenantSettlementCents = balance.grossCents

/-- Balanced entries have balanced totals. -/
theorem Balance.of_balanced (entries : List LedgerEntry) : (Balance.of entries).Balanced := by
  -- Each entry adds its own balanced amounts.
  unfold Balance.Balanced
  induction entries with
  | nil => rfl
  | cons entry rest ih =>
    have own := entry.balanced
    simp only [Balance.of, List.map_cons, List.sum_cons] at ih ⊢
    omega

/-- Totals of all entries are those of the entries with a property and of the others. -/
theorem Balance.of_filter (keep : LedgerEntry → Prop) [DecidablePred keep]
    (entries : List LedgerEntry) : Balance.of entries =
      ⟨(Balance.of (entries.filter keep)).grossCents +
          (Balance.of (entries.filter fun entry => ¬keep entry)).grossCents,
        (Balance.of (entries.filter keep)).platformFeeCents +
          (Balance.of (entries.filter fun entry => ¬keep entry)).platformFeeCents,
        (Balance.of (entries.filter keep)).tenantSettlementCents +
          (Balance.of (entries.filter fun entry => ¬keep entry)).tenantSettlementCents⟩ := by
  simp only [Balance.of, List.sum_map_filter_add_sum_map_filter_not]

namespace CommissionLedger

/-- The tenant ids that occur in a ledger. -/
def tenantIds (ledger : CommissionLedger) : Finset String :=
  (ledger.entries.map LedgerEntry.tenantId).toFinset

/-- A total is the sum over the tenants of their own totals. -/
theorem sum_by_tenant (ledger : CommissionLedger) (field : LedgerEntry → Int) :
    ∑ tenantId ∈ ledger.tenantIds, ((ledger.entriesForTenant tenantId).map field).sum =
      (ledger.entries.map field).sum := by
  -- Each entry is counted under its own tenant and under no other.
  refine sum_fiberwise field fun entry member => ?_
  exact List.mem_toFinset.mpr (List.mem_map_of_mem member)

/-- The entries that belong to some tenant. -/
def ownedEntries (ledger : CommissionLedger) : List LedgerEntry :=
  ledger.entries.filter fun entry => entry.tenantId ≠ ""

/-- The totals of each tenant are its own, they add up to the global ones, and all are balanced. -/
structure Partitioned (ledger : CommissionLedger) : Prop where
  own : ∀ tenantId ∈ ledger.tenantIds,
    ledger.dailyReconciliationBalance (some tenantId) =
      .of (ledger.entries.filter fun entry => entry.tenantId = tenantId) ∧
    ledger.platformFeeTotal (some tenantId) =
      ((ledger.entries.filter fun entry => entry.tenantId = tenantId).map
        LedgerEntry.platformFeeCents).sum
  gross : ∑ tenantId ∈ ledger.tenantIds,
    (ledger.dailyReconciliationBalance (some tenantId)).grossCents =
      (ledger.dailyReconciliationBalance none).grossCents
  fee : ∑ tenantId ∈ ledger.tenantIds,
    (ledger.dailyReconciliationBalance (some tenantId)).platformFeeCents =
      (ledger.dailyReconciliationBalance none).platformFeeCents
  settlement : ∑ tenantId ∈ ledger.tenantIds,
    (ledger.dailyReconciliationBalance (some tenantId)).tenantSettlementCents =
      (ledger.dailyReconciliationBalance none).tenantSettlementCents
  feeTotal : ∑ tenantId ∈ ledger.tenantIds, ledger.platformFeeTotal (some tenantId) =
    ledger.platformFeeTotal none
  balanced : ∀ tenantId, (ledger.dailyReconciliationBalance tenantId).Balanced

/-- Whether a query for a scope looks at the entries of a tenant. -/
def InScope (scope : Option String) (tenantId : String) : Prop :=
  ∀ asked, scope = some asked → asked = "" ∨ tenantId = asked

instance (scope : Option String) (tenantId : String) : Decidable (InScope scope tenantId) :=
  match scope with
  | none => isTrue nofun
  | some asked => decidable_of_iff (asked = "" ∨ tenantId = asked) (by simp [InScope])

/-- A query looks at the entries of the tenants in its scope. -/
theorem entriesInScope_eq (ledger : CommissionLedger) (scope : Option String) :
    ledger.entriesInScope scope = ledger.entries.filter fun entry => InScope scope entry.tenantId := by
  -- The empty identifier is taken for none.
  cases scope with
  | none => simp [entriesInScope, InScope]
  | some asked =>
    by_cases unowned : asked = ""
    · simp [entriesInScope, InScope, unowned]
    · simp [entriesInScope, entriesForTenant, InScope, unowned]

/-- The sum of a field over the entries in a scope. -/
def total (field : LedgerEntry → Int) (entries : List LedgerEntry) (scope : Option String) : Int :=
  ((entries.filter fun entry => InScope scope entry.tenantId).map field).sum

/-- Two entries of one tenant with opposite amounts leave no trace in a total. -/
theorem total_cancels {field : LedgerEntry → Int} {first second : LedgerEntry}
    (same : second.tenantId = first.tenantId) (opposite : field second = -field first)
    (before between after : List LedgerEntry) (scope : Option String) :
    total field (before ++ first :: (between ++ second :: after)) scope =
      total field (before ++ (between ++ after)) scope := by
  -- A query looks at both of them or at neither.
  unfold total
  by_cases looked : InScope scope first.tenantId
  · simp only [List.filter_append, List.filter_cons, same, looked, decide_true, if_true,
      List.map_append, List.map_cons, List.sum_append, List.sum_cons, opposite]
    omega
  · simp only [List.filter_append, List.filter_cons, same, looked, decide_false,
      Bool.false_eq_true, if_false]

/-- A tenant with an id is answered from its own entries. -/
theorem entriesInScope_owned (ledger : CommissionLedger) {tenantId : String} (owned : tenantId ≠ "") :
    ledger.entriesInScope (some tenantId) = ledger.entriesForTenant tenantId :=
  if_neg owned

/-- Entries without a tenant have the global totals exactly when all others add up to nothing. -/
theorem unowned_total_iff (ledger : CommissionLedger) :
    Balance.of ledger.entries = .of (ledger.entriesForTenant "") ↔
      Balance.of ledger.ownedEntries = ⟨0, 0, 0⟩ := by
  -- The global totals are those of the entries without a tenant and of the others.
  rw [Balance.of_filter (fun entry => entry.tenantId = "") ledger.entries]
  unfold entriesForTenant ownedEntries
  generalize Balance.of (ledger.entries.filter fun entry => entry.tenantId = "") = unowned
  simp only [ne_eq, decide_not, Balance.ext_iff]
  constructor
  · rintro ⟨gross, fee, settlement⟩
    exact ⟨by omega, by omega, by omega⟩
  · rintro ⟨gross, fee, settlement⟩
    exact ⟨by omega, by omega, by omega⟩

/--
The ledger's totals partition by tenant exactly when it has no entry without a tenant, or the
entries of all tenants together add up to nothing.

A query for the empty id is answered from all entries, as if no id had been given.
-/
theorem ledger_partitioned_iff (appended : List LedgerEntry) :
    let ledger := appended.foldl append new
    ledger.Partitioned ↔
      ("" ∈ ledger.tenantIds → Balance.of ledger.ownedEntries = ⟨0, 0, 0⟩) := by
  intro ledger
  clear_value ledger
  constructor
  · intro partitioned unowned
    rw [← unowned_total_iff]
    exact (partitioned.own "" unowned).1
  · intro cancels
    -- Then a query for the empty id has the totals of the entries without a tenant.
    have own : ∀ tenantId ∈ ledger.tenantIds, ledger.dailyReconciliationBalance (some tenantId) =
        .of (ledger.entriesForTenant tenantId) := by
      intro tenantId occurs
      by_cases unowned : tenantId = ""
      · subst unowned
        exact (unowned_total_iff ledger).mpr (cancels occurs)
      · rw [dailyReconciliationBalance, entriesInScope_owned ledger unowned]
    -- Summed over the ids, each entry is counted once.
    have sums : ∀ field : Balance → Int, ∑ tenantId ∈ ledger.tenantIds,
        field (ledger.dailyReconciliationBalance (some tenantId)) =
          ∑ tenantId ∈ ledger.tenantIds, field (.of (ledger.entriesForTenant tenantId)) :=
      fun field => Finset.sum_congr rfl fun tenantId occurs => congrArg field (own tenantId occurs)
    refine ⟨fun tenantId occurs => ⟨own tenantId occurs, ?_⟩, ?_, ?_, ?_, ?_, ?_⟩
    · exact congrArg Balance.platformFeeCents (own tenantId occurs)
    · rw [sums Balance.grossCents]
      exact ledger.sum_by_tenant LedgerEntry.grossAmountCents
    · rw [sums Balance.platformFeeCents]
      exact ledger.sum_by_tenant LedgerEntry.platformFeeCents
    · rw [sums Balance.tenantSettlementCents]
      exact ledger.sum_by_tenant LedgerEntry.tenantSettlementCents
    · have fees := sums Balance.platformFeeCents
      exact fees.trans (ledger.sum_by_tenant LedgerEntry.platformFeeCents)
    · exact fun tenantId => Balance.of_balanced _

/-- A settlement of a thousand cents at ten percent. -/
def settledFor (tenantId : String) : LedgerEntry where
  tenantId := tenantId
  orderId := "ORD-1"
  currency := "EUR"
  grossAmountCents := 1000
  platformFeeCents := 100
  tenantSettlementCents := 900
  rate := "0.10"
  entryId := "00000000-0000-4000-8000-000000000001"
  settledAt := "2026-08-12T09:30:00+00:00"
  balanced := rfl

/-- An order without a tenant is charged with the totals of a tenant's order as well. -/
theorem unowned_totals_mixed :
    ([settledFor "", settledFor "t-1"].foldl append new).dailyReconciliationBalance (some "") =
        ⟨2000, 200, 1800⟩ ∧
      ¬([settledFor "", settledFor "t-1"].foldl append new).Partitioned := by
  refine ⟨by decide, fun partitioned => ?_⟩
  have own := (partitioned.own "" (by decide)).1
  revert own
  decide

end CommissionLedger

end JolCommerce
