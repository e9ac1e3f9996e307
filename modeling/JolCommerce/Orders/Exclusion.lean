import JolCommerce.Orders.History

/-! Settled and refunded exclude each other: an order enters one terminal state, and only once. -/

namespace JolCommerce

open Python

namespace OrderStatus

/-- How many transitions lead to a state from the draft, at most. -/
def rank : OrderStatus → Nat
  | draft => 0
  | reserved => 1
  | confirmed => 2
  | inProgress => 3
  | paymentPending => 4
  | completed => 5
  | cancelled => 5

/-- The states without a way out. -/
def IsTerminal (status : OrderStatus) : Prop := status = completed ∨ status = cancelled

instance : DecidablePred IsTerminal := fun _ => inferInstanceAs (Decidable (_ ∨ _))

/-- Every valid transition leads to a higher rank. -/
theorem rank_lt {source target : OrderStatus} (valid : target ∈ validTransitions source) :
    source.rank < target.rank := by
  -- The table has no cycle, so its rows may be compared one by one.
  cases source <;> cases target <;> first | decide | exact absurd valid (by decide)

/-- No state ranks above the terminal ones. -/
theorem rank_le (status : OrderStatus) : status.rank ≤ 5 := by
  cases status <;> decide

end OrderStatus

/-- Valid transitions, each from the state that the one before it led to. -/
inductive Path (source : OrderStatus) : List OrderStateChange → OrderStatus → Prop where
  | start : Path source [] source
  | append (history : List OrderStateChange) (change : OrderStateChange)
    (path : Path source history change.fromStatus)
    (valid : change.toStatus ∈ validTransitions change.fromStatus) :
    Path source (history ++ [change]) change.toStatus

/-- A path is no longer than its rise in rank. -/
theorem Path.length_le {source target : OrderStatus} {history : List OrderStateChange}
    (path : Path source history target) : source.rank + history.length ≤ target.rank := by
  -- Each transition adds one entry and at least one rank.
  induction path with
  | start => simp
  | append history change path valid ih =>
    have rise := OrderStatus.rank_lt valid
    simp only [List.length_append, List.length_singleton]
    omega

namespace OrderService

/-- The order for which a request appended a settlement to the ledger. -/
def settledBy (before after : World) (request : Request) : Option OrderRef :=
  -- A reversal appends to the ledger as well, and settles nothing.
  match request.operation with
  | .lifecycle _ _ _ _ =>
    if after.ledger.entries.length = before.ledger.entries.length then none else some request.ref
  | _ => none

/-- What a request does to its order, with what it settles and refunds. -/
inductive Accounted (before after : World) (ref : OrderRef) : Option OrderRef → Prop where
  | still (still : World.Still before after) (calls : after.refundCalls = before.refundCalls) :
    Accounted before after ref none
  | moved (change : OrderStateChange) (moves : World.Moves before after ref change)
    (calls : after.refundCalls = before.refundCalls) : Accounted before after ref none
  | settled (change : OrderStateChange) (moves : World.Moves before after ref change)
    (completed : change.toStatus = .completed) (calls : after.refundCalls = before.refundCalls) :
    Accounted before after ref (some ref)
  | refunded (change : OrderStateChange) (moves : World.Moves before after ref change)
    (cancelled : change.toStatus = .cancelled)
    (calls : after.refundCalls = before.refundCalls ++ [ref]) : Accounted before after ref none

/-- The refund workflow moves its order to the cancelled state, and may call back once. -/
theorem afterRefund_accounted (service : OrderService) (ref : OrderRef) (actor reason : String)
    (readings : LifecycleReadings) (world : World)
    (valid : .cancelled ∈ validTransitions (world.orders ref).status) :
    Accounted world (service.afterRefund ref actor reason readings world) ref none := by
  have moves := service.afterRefund_moves ref actor reason readings world valid
  by_cases configured : service.refundsConfigured = true
  · exact .refunded _ moves rfl (by simp [afterRefund, configured, afterChange, afterMove])
  · exact .moved _ moves (by simp [afterRefund, configured, afterChange, afterMove])

/-- A request that leaves the ledger alone settles nothing. -/
theorem accounted_of_same_ledger {before after : World} {request : Request}
    (same : after.ledger = before.ledger) (accounted : Accounted before after request.ref none) :
    Accounted before after request.ref (settledBy before after request) := by
  have nothing : settledBy before after request = none := by
    unfold settledBy
    split
    · rw [if_pos (by rw [same])]
    · rfl
  rw [nothing]
  exact accounted

/-- The refund workflow does not touch the ledger. -/
theorem afterRefund_ledger (service : OrderService) (ref : OrderRef) (actor reason : String)
    (readings : LifecycleReadings) (world : World) :
    (service.afterRefund ref actor reason readings world).ledger = world.ledger := by
  unfold afterRefund
  split <;> rfl

/-- Every effect of a request is accounted for. -/
theorem accounted_of_effect {service : OrderService} {world after : World} {request : Request}
    (effect : Effect service world request after) :
    Accounted world after request.ref (settledBy world after request) := by
  -- All but a settlement leave the ledger alone, or are no lifecycle call.
  cases effect with
  | none _ idle =>
    exact accounted_of_same_ledger rfl (.still (.of_orders rfl) rfl)
  | registered tenant ref actor stamp allowed =>
    exact .still (service.afterRegister_still tenant ref actor world stamp) rfl
  | denied tenant ref call actor reason readings valid foreign =>
    have moves := afterMove_moves ref call.target actor reason readings world valid
    exact accounted_of_same_ledger rfl (.moved _ moves rfl)
  | changed tenant ref call actor reason readings valid allowed noRefund noSettlement =>
    have moves := service.afterChange_moves ref call.target actor reason readings world valid
    exact accounted_of_same_ledger rfl (.moved _ moves rfl)
  | settled tenant ref call actor reason readings valid allowed completed split calculated entry built =>
    -- The ledger grew by the entry of this order.
    have grown : settledBy world
        (service.afterSettlement ref .completed actor reason readings world split entry)
        ⟨tenant, ref, .lifecycle call actor reason readings⟩ = some ref := by
      simp [settledBy, afterSettlement, afterChange, afterMove, CommissionLedger.append]
    rw [grown]
    exact .settled _ (service.afterSettlement_moves ref .completed actor reason readings world valid
      split entry) rfl rfl
  | unrefunded tenant ref actor reason readings valid allowed configured error raised =>
    exact accounted_of_same_ledger (service.afterRefund_ledger ref actor reason readings world)
      (service.afterRefund_accounted ref actor reason readings world valid)
  | cancelled tenant ref actor reason readings valid allowed refundRef =>
    have same : (service.afterCancel ref actor reason readings world refundRef).ledger = world.ledger :=
      service.afterRefund_ledger ref actor reason readings world
    refine accounted_of_same_ledger same ?_
    -- The log entry of the cancellation is all that comes after the refund workflow.
    have refunded := service.afterRefund_accounted ref actor reason readings world valid
    have logged : World.Still (service.afterRefund ref actor reason readings world)
        (service.afterCancel ref actor reason readings world refundRef) := .of_orders rfl
    cases refunded with
    | still still calls =>
      exact .still (fun other => (logged other).trans (still other)) calls
    | moved change moves calls => exact .moved change (moves.still logged) calls
    | refunded change moves cancelled calls =>
      exact .refunded change (moves.still logged) cancelled calls
  | reversed tenant ref actor fraction reason entryStamp auditStamp snapshot captured rate reversal
      reversed entry built =>
    exact .still (.of_orders rfl) rfl

end OrderService

namespace Shop

/-- The shop, and the orders for which a settlement was appended to the ledger so far. -/
structure Observed where
  shop : Shop
  settlements : List OrderRef

/-- The order for which a request to either service appended a settlement. -/
def settledBy (before after : Shop) : ShopRequest → Option OrderRef
  | .service request => OrderService.settledBy before.world after.world request
  | .fulfillment _ _ => none

/-- The shop after a request, whether it returned or raised, with what it settled. -/
def observe (service : OrderService) (observed : Observed) (request : ShopRequest) : Observed where
  shop := step service observed.shop request
  settlements := observed.settlements ++
    (settledBy observed.shop (step service observed.shop request) request).toList

/-- A request to either service is accounted for. -/
theorem step_accounted (service : OrderService) (shop : Shop) (request : ShopRequest) :
    OrderService.Accounted shop.world (step service shop request).world request.ref
      (settledBy shop (step service shop request) request) := by
  have effect := step_effect service shop request
  generalize step service shop request = after at effect
  cases effect with
  | service request world effect => exact OrderService.accounted_of_effect effect
  | refused ref call => exact .still (.of_orders rfl) rfl
  | advanced ref call change event valid source =>
    exact .moved change (World.moves_withOrder _ valid source) rfl

/-- How often an order was settled and refunded, both together. -/
def Observed.closings (observed : Observed) (ref : OrderRef) : Nat :=
  observed.settlements.count ref + observed.shop.world.refundCalls.count ref

/-- The history of an order leads from the draft to its status, and it was closed at most once, and
not before it reached a terminal state. -/
structure Orderly (observed : Observed) (ref : OrderRef) : Prop where
  path : Path .draft (observed.shop.world.orders ref).history (observed.shop.world.orders ref).status
  closings : observed.closings ref ≤
    if (observed.shop.world.orders ref).status.IsTerminal then 1 else 0

variable {service : OrderService} {observed : Observed}

/-- An order that was not moved stays orderly, whatever was settled or refunded for others. -/
private theorem Orderly.kept {after : Observed} {ref : OrderRef} (orderly : Orderly observed ref)
    (same : (after.shop.world.orders ref).standing = (observed.shop.world.orders ref).standing)
    (closings : after.closings ref = observed.closings ref) : Orderly after ref := by
  have status := Order.status_eq same
  have history := Order.history_eq same
  refine ⟨?_, ?_⟩
  · rw [status, history]
    exact orderly.path
  · rw [status, closings]
    exact orderly.closings

/-- An order that was moved stays orderly where it is closed, if at all, by reaching a terminal state. -/
private theorem Orderly.moved {after : Observed} {ref : OrderRef} {change : OrderStateChange}
    (orderly : Orderly observed ref)
    (moves : World.Moves observed.shop.world after.shop.world ref change)
    (closings : after.closings ref ≤ observed.closings ref +
      if change.toStatus.IsTerminal then 1 else 0) : Orderly after ref := by
  have status : (after.shop.world.orders ref).status = change.toStatus :=
    Order.status_eq moves.moved
  have history : (after.shop.world.orders ref).history =
      (observed.shop.world.orders ref).history ++ [change] :=
    Order.history_eq moves.moved
  refine ⟨?_, ?_⟩
  · rw [status, history]
    refine .append _ change ?_ ?_
    · rw [moves.source]
      exact orderly.path
    · rw [moves.source]
      exact moves.valid
  · -- An order that can still be moved was not in a terminal state, so it was not closed.
    have open_ : ¬(observed.shop.world.orders ref).status.IsTerminal := by
      rintro (completed | cancelled)
      · exact (validTransitions_terminal moves.valid).1 completed
      · exact (validTransitions_terminal moves.valid).2 cancelled
    have before := orderly.closings
    rw [if_neg open_] at before
    rw [status]
    omega

/-- A request keeps every order orderly, whether it returned or raised. -/
theorem Orderly.observe {ref : OrderRef} (orderly : Orderly observed ref) (request : ShopRequest) :
    Orderly (Shop.observe service observed request) ref := by
  have accounted := step_accounted service observed.shop request
  unfold Shop.observe
  generalize settledBy observed.shop (step service observed.shop request) request = settled
    at accounted ⊢
  generalize step service observed.shop request = after at accounted ⊢
  by_cases own : request.ref = ref
  · rw [own] at accounted
    -- A settlement and a refund each close the order, and each is counted once.
    cases accounted with
    | still still calls => exact orderly.kept (still ref) (by simp [Observed.closings, calls])
    | moved change moves calls => exact orderly.moved moves (by simp [Observed.closings, calls])
    | settled change moves completed calls =>
      refine orderly.moved moves ?_
      simp only [Observed.closings, calls, Option.toList_some, List.count_append,
        List.count_singleton_self, completed, OrderStatus.IsTerminal, true_or, if_true]
      omega
    | refunded change moves cancelled calls =>
      refine orderly.moved moves ?_
      simp only [Observed.closings, calls, Option.toList_none, List.append_nil, List.count_append,
        List.count_singleton_self, cancelled, OrderStatus.IsTerminal, or_true, if_true]
      omega
  · -- The request is about another order, which is not counted here.
    have apart : [request.ref].count ref = 0 := by simp [own]
    cases accounted with
    | still still calls => exact orderly.kept (still ref) (by simp [Observed.closings, calls])
    | moved change moves calls =>
      exact orderly.kept (moves.others ref (Ne.symm own)) (by simp [Observed.closings, calls])
    | settled change moves completed calls =>
      refine orderly.kept (moves.others ref (Ne.symm own)) ?_
      simp only [Observed.closings, calls, Option.toList_some, List.count_append, apart, Nat.add_zero]
    | refunded change moves cancelled calls =>
      refine orderly.kept (moves.others ref (Ne.symm own)) ?_
      simp only [Observed.closings, calls, Option.toList_none, List.append_nil, List.count_append,
        apart, Nat.add_zero]

/-- A run of requests keeps an order orderly. -/
theorem Orderly.run {ref : OrderRef} (orderly : Orderly observed ref) (requests : List ShopRequest) :
    Orderly (requests.foldl (Shop.observe service) observed) ref := by
  -- Request by request, each in the state that the one before it left.
  induction requests generalizing observed with
  | nil => exact orderly
  | cons request rest ih => exact ih (orderly.observe request)

end Shop

end JolCommerce
