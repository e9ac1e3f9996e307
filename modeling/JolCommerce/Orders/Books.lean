import JolCommerce.Orders.Cancellation

/-! The books of one order: what a run of requests looks like to its ledger entries and its snapshot. -/

namespace JolCommerce

open Python

/-- A world with the reversals that returned so far: the order and the fraction of each. -/
structure Journal where
  world : World
  reversals : List (OrderRef × String)

/-- What the ledger, the order object and the journal say about one order. -/
structure OrderBooks where
  order : Order
  /-- The ledger entries under the order's id, oldest first. -/
  entries : List LedgerEntry
  /-- The fractions of its recorded reversals, oldest first. -/
  fractions : List String

namespace Journal

/-- The fractions recorded for an order. -/
def fractions (journal : Journal) (ref : OrderRef) : List String :=
  (journal.reversals.filter fun reversal => reversal.1 = ref).map Prod.snd

/-- The books of an order. -/
def books (journal : Journal) (ref : OrderRef) : OrderBooks where
  order := journal.world.orders ref
  entries := journal.world.ledger.forOrder (journal.world.orders ref).orderId
  fractions := journal.fractions ref

end Journal

/-- An entry shows up under its own order id only. -/
theorem CommissionLedger.forOrder_append (ledger : CommissionLedger) (entry : LedgerEntry)
    (orderId : String) : (ledger.append entry).forOrder orderId =
      ledger.forOrder orderId ++ if entry.orderId = orderId then [entry] else [] := by
  by_cases same : entry.orderId = orderId
  · simp [forOrder, append, same]
  · simp [forOrder, append, same]

namespace OrderService

/-- The reversal a request records: a reversal call that returns. -/
def recordedReversal (service : OrderService) (world : World) (request : Request) :
    Option (OrderRef × String) :=
  -- Whether the call returned is all that is asked here; `step` has its effect.
  match request.operation with
  | .reverse actor fraction reason entryStamp auditStamp =>
    match (service.recordCommissionReversal request.ref actor fraction reason entryStamp
      auditStamp).run world with
    | .ok _ _ => some (request.ref, fraction)
    | .error _ _ => none
  | _ => none

/-- A request with the reversal it records. -/
def journalStep (service : OrderService) (journal : Journal) (request : Request) : Journal where
  world := service.step journal.world request
  reversals := journal.reversals ++ (service.recordedReversal journal.world request).toList

/-- The world of a journal is the world of the run. -/
theorem foldl_journalStep_world (service : OrderService) (journal : Journal)
    (requests : List Request) :
    (requests.foldl service.journalStep journal).world = service.run journal.world requests := by
  -- Writing reversals down has no influence on the world.
  induction requests generalizing journal with
  | nil => rfl
  | cons request rest ih => exact ih _

/-- All that a request can do to the books of one order. -/
inductive BooksStep (service : OrderService) (request : Request) (books : OrderBooks) :
    OrderBooks → Prop where
  | idle : BooksStep service request books books
  /-- A registration binds an unowned order. -/
  | bound (actor : String) (stamp : Stamp) (registers : request.operation = .register actor stamp) :
    BooksStep service request books
      { books with order := bindTenant request.tenant books.order }
  /-- The order is moved and nothing is settled. -/
  | moved (change : OrderStateChange)
    (valid : change.toStatus ∈ validTransitions books.order.status)
    (unsettled : change.toStatus = .completed → Allows request.tenant books.order.tenantId →
      ∃ error, service.commissionEngine.calculate books.order.totalAmountCents
        (boundRate request.tenant) = .error error) :
    BooksStep service request books { books with order := books.order.moved change }
  | settled (change : OrderStateChange) (completed : change.toStatus = .completed)
    (valid : .completed ∈ validTransitions books.order.status)
    (allowed : Allows request.tenant books.order.tenantId) (split : CommissionSplit)
    (calculated : service.commissionEngine.calculate books.order.totalAmountCents
      (boundRate request.tenant) = .ok split)
    (entry : LedgerEntry) (fields : entry.fields = settlementFields books.order split) :
    BooksStep service request books
      { books with
        order := { books.order.moved change with commissionSnapshot := some (snapshotOf split) }
        entries := books.entries ++ [entry] }
  | reversed (snapshot : CommissionSnapshot)
    (captured : books.order.commissionSnapshot = some snapshot) (rate : Decimal) (fraction : String)
    (reversal : CommissionSplit)
    (reversed : CommissionEngine.reverse (settledSplit rate snapshot) fraction = .ok reversal)
    (entry : LedgerEntry) (fields : entry.fields = reversalFields books.order snapshot reversal) :
    BooksStep service request books
      { books with
        entries := books.entries ++ [entry]
        fractions := books.fractions ++ [fraction] }

/-- One order object is written and perhaps stored, and ledger entries are appended under its id. -/
structure OrderWrite (ref : OrderRef) (before after : World) (order : Order)
    (appended : List LedgerEntry) : Prop where
  orders : after.orders = Function.update before.orders ref order
  orderId : order.orderId = (before.orders ref).orderId
  nextRef : after.nextRef = before.nextRef
  repository : after.repository = before.repository ∨
    after.repository = before.repository.set (before.orders ref).orderId ref
  ledger : after.ledger.entries = before.ledger.entries ++ appended
  owned : ∀ entry ∈ appended, entry.orderId = (before.orders ref).orderId

section Writes

variable {ref : OrderRef} {journal : Journal} {after : World} {order : Order}
  {appended : List LedgerEntry} {recorded : Option (OrderRef × String)}

/-- The entries of the written order grow by what was appended. -/
theorem OrderWrite.entries {before : World} (write : OrderWrite ref before after order appended) :
    after.ledger.forOrder (before.orders ref).orderId =
      before.ledger.forOrder (before.orders ref).orderId ++ appended := by
  -- Every appended entry carries this order's id, so the filter by id keeps all of them.
  have kept : appended.filter (fun entry => entry.orderId = (before.orders ref).orderId) =
      appended := by
    rw [List.filter_eq_self]
    intro entry member
    simp [write.owned entry member]
  simp only [CommissionLedger.forOrder, write.ledger, List.filter_append, kept]

/-- The books of the written order grow by what was appended and recorded. -/
theorem OrderWrite.books_self (write : OrderWrite ref journal.world after order appended)
    (own : ∀ reversal ∈ recorded, reversal.1 = ref) :
    (Journal.mk after (journal.reversals ++ recorded.toList)).books ref =
      ⟨order, (journal.books ref).entries ++ appended,
        (journal.books ref).fractions ++ recorded.toList.map Prod.snd⟩ := by
  -- The recorded reversal is one of this order, so the filter by reference keeps it.
  have reversals : recorded.toList.filter (fun reversal => reversal.1 = ref) = recorded.toList := by
    rw [List.filter_eq_self]
    intro reversal member
    simp [own reversal (by simpa using member)]
  simp only [Journal.books, Journal.fractions, write.orders, Function.update_self, write.orderId,
    write.entries, List.filter_append, List.map_append, reversals]

/-- The books of an order with another id are untouched. -/
theorem OrderWrite.books_other (write : OrderWrite ref journal.world after order appended)
    (own : ∀ reversal ∈ recorded, reversal.1 = ref) {other : OrderRef} (different : other ≠ ref)
    (distinct : (journal.world.orders ref).orderId ≠ (journal.world.orders other).orderId) :
    (Journal.mk after (journal.reversals ++ recorded.toList)).books other = journal.books other := by
  -- The filters by the other id and the other reference keep nothing of what was added.
  have entries : appended.filter (fun entry =>
      entry.orderId = (journal.world.orders other).orderId) = [] := by
    rw [List.filter_eq_nil_iff]
    intro entry member
    simpa [write.owned entry member] using distinct
  have reversals : recorded.toList.filter (fun reversal => reversal.1 = other) = [] := by
    rw [List.filter_eq_nil_iff]
    intro reversal member
    simpa [own reversal (by simpa using member)] using different.symm
  simp only [Journal.books, Journal.fractions, CommissionLedger.forOrder, write.orders, write.ledger,
    Function.update_of_ne different, List.filter_append, entries, reversals, List.append_nil]

end Writes

section Effects

variable (service : OrderService) (ref : OrderRef) (newStatus : OrderStatus)
  (actor reason : String) (readings : LifecycleReadings) (world : World)

/-- Moving an order writes no ledger entry. -/
theorem afterMove_write : OrderWrite ref world (afterMove ref newStatus actor reason readings world)
    ((world.orders ref).moved (requested ref newStatus actor reason readings world)) [] where
  orders := rfl
  orderId := rfl
  nextRef := rfl
  repository := Or.inl rfl
  ledger := (List.append_nil _).symm
  owned := by simp

/-- Neither does storing and logging the change. -/
theorem afterChange_write :
    OrderWrite ref world (service.afterChange ref newStatus actor reason readings world)
      ((world.orders ref).moved (requested ref newStatus actor reason readings world)) [] where
  orders := rfl
  orderId := rfl
  nextRef := rfl
  repository := Or.inr (service.afterChange_stores ref newStatus actor reason readings world).repository
  ledger := (List.append_nil _).symm
  owned := by simp

/-- Nor the refund workflow. -/
theorem afterRefund_write :
    OrderWrite ref world (service.afterRefund ref actor reason readings world)
      ((world.orders ref).moved (requested ref .cancelled actor reason readings world)) [] := by
  have changed := service.afterChange_write ref .cancelled actor reason readings world
  unfold afterRefund
  split
  · exact ⟨changed.orders, changed.orderId, changed.nextRef, changed.repository, changed.ledger,
      changed.owned⟩
  · exact changed

/-- A settlement appends its entry and captures the snapshot. -/
theorem afterSettlement_write {split : CommissionSplit} {entry : LedgerEntry}
    (fields : entry.fields = settlementFields (world.orders ref) split) :
    OrderWrite ref world
      (service.afterSettlement ref newStatus actor reason readings world split entry)
      { (world.orders ref).moved (requested ref newStatus actor reason readings world) with
        commissionSnapshot := some (snapshotOf split) } [entry] where
  orders := by
    -- The second write to the object covers the first.
    simp [afterSettlement, World.withOrder, afterChange, afterMove]
  orderId := rfl
  nextRef := rfl
  repository := Or.inr (service.afterSettlement_stores ref newStatus actor reason readings world
    split entry).repository
  ledger := rfl
  owned := by
    intro written member
    rw [List.mem_singleton.mp member]
    exact congrArg LedgerArguments.orderId fields

/-- A registration binds the order. -/
theorem afterRegister_write (tenant : Option TenantContext) (stamp : Stamp) :
    OrderWrite ref world (service.afterRegister tenant ref actor world stamp)
      (bindTenant tenant (world.orders ref)) [] where
  orders := rfl
  orderId := bindTenant_orderId tenant _
  nextRef := rfl
  repository := by
    right
    simp [afterRegister]
  ledger := (List.append_nil _).symm
  owned := by simp

/-- A reversal appends its entry and leaves the order alone. -/
theorem afterReversal_write (fraction : String) (auditStamp : Stamp) (reversal : CommissionSplit)
    {snapshot : CommissionSnapshot} {entry : LedgerEntry}
    (fields : entry.fields = reversalFields (world.orders ref) snapshot reversal) :
    OrderWrite ref world
      (service.afterReversal ref actor reason world fraction auditStamp reversal entry)
      (world.orders ref) [entry] where
  orders := (Function.update_eq_self ref world.orders).symm
  orderId := rfl
  nextRef := rfl
  repository := Or.inl rfl
  ledger := rfl
  owned := by
    intro written member
    rw [List.mem_singleton.mp member]
    exact congrArg LedgerArguments.orderId fields

end Effects

/-- A request writes the order it is called on, as a step of that order's books. -/
theorem journalStep_write (service : OrderService) (journal : Journal) (request : Request) :
    ∃ order appended,
      OrderWrite request.ref journal.world (service.step journal.world request) order appended ∧
      (∀ reversal ∈ service.recordedReversal journal.world request, reversal.1 = request.ref) ∧
      BooksStep service request (journal.books request.ref)
        ⟨order, (journal.books request.ref).entries ++ appended,
          (journal.books request.ref).fractions ++
            (service.recordedReversal journal.world request).toList.map Prod.snd⟩ := by
  -- A request that changed nothing wrote the order back as it was.
  have untouched : OrderWrite request.ref journal.world journal.world
      (journal.world.orders request.ref) [] :=
    ⟨(Function.update_eq_self _ _).symm, rfl, rfl, Or.inl rfl, (List.append_nil _).symm, by simp⟩
  have unmoved : BooksStep service request (journal.books request.ref)
      ⟨journal.world.orders request.ref, (journal.books request.ref).entries ++ [],
        (journal.books request.ref).fractions ++ []⟩ := by
    simp only [List.append_nil]
    exact .idle
  rcases request with ⟨tenant, ref, operation⟩
  cases operation with
  -- One operation at a time, with the write of its outcome and the books after it.
  | register actor stamp =>
    have effect := step_effect service journal.world ⟨tenant, ref, .register actor stamp⟩
    have silent : service.recordedReversal journal.world ⟨tenant, ref, .register actor stamp⟩ = none :=
      rfl
    rw [silent]
    generalize service.step journal.world ⟨tenant, ref, .register actor stamp⟩ = after at effect
    cases effect with
    | none _ _ => exact ⟨_, _, untouched, by simp, unmoved⟩
    | registered _ _ _ _ allowed =>
      refine ⟨_, _, service.afterRegister_write ref actor journal.world tenant stamp, by simp, ?_⟩
      simp only [List.append_nil, Option.toList_none, List.map_nil]
      exact .bound actor stamp rfl
  | lifecycle call actor reason readings =>
    have effect := step_effect service journal.world
      ⟨tenant, ref, .lifecycle call actor reason readings⟩
    have silent : service.recordedReversal journal.world
      ⟨tenant, ref, .lifecycle call actor reason readings⟩ = none := rfl
    rw [silent]
    generalize service.step journal.world ⟨tenant, ref, .lifecycle call actor reason readings⟩ = after
      at effect
    simp only [Option.toList_none, List.map_nil, List.append_nil] at unmoved ⊢
    cases effect with
    | none _ _ => exact ⟨_, _, untouched, by simp, by simpa using unmoved⟩
    -- The status moved before the save was refused.
    | denied _ _ _ _ _ _ valid foreign =>
      refine ⟨_, _, afterMove_write ref call.target actor reason readings journal.world, by simp, ?_⟩
      simp only [List.append_nil]
      exact .moved _ valid fun _ allowed => absurd allowed foreign
    | changed _ _ _ _ _ _ valid allowed noRefund noSettlement =>
      refine ⟨_, _, service.afterChange_write ref call.target actor reason readings journal.world,
        by simp, ?_⟩
      simp only [List.append_nil]
      exact .moved _ valid fun completed _ => noSettlement completed
    -- The entry and the snapshot come from one split.
    | settled _ _ _ _ _ _ valid allowed completed split calculated entry built =>
      have fields := LedgerEntry.new_fields built
      exact ⟨_, _, service.afterSettlement_write ref .completed actor reason readings journal.world
        fields, by simp, .settled _ rfl valid allowed split calculated entry fields⟩
    | unrefunded _ _ _ _ _ valid allowed configured error raised =>
      refine ⟨_, _, service.afterRefund_write ref actor reason readings journal.world, by simp, ?_⟩
      simp only [List.append_nil]
      exact .moved _ valid fun completed => by cases completed
    | cancelled _ _ _ _ _ valid allowed refundRef =>
      have refunded := service.afterRefund_write ref actor reason readings journal.world
      refine ⟨_, _, ⟨refunded.orders, refunded.orderId, refunded.nextRef, refunded.repository,
        refunded.ledger, refunded.owned⟩, by simp, ?_⟩
      simp only [List.append_nil]
      exact .moved _ valid fun completed => by cases completed
  | reverse actor fraction reason entryStamp auditStamp =>
    -- Whether the reversal is recorded and whether it wrote an entry is one and the same.
    have outcome := reversal_outcome service ref actor reason journal.world fraction entryStamp
      auditStamp
    simp only [step, stateAfter, recordedReversal]
    generalize (service.recordCommissionReversal ref actor fraction reason entryStamp
      auditStamp).run journal.world = result at outcome
    cases outcome with
    | refused error => exact ⟨_, _, untouched, by simp, unmoved⟩
    | recorded snapshot captured rate reversal reversed entry built =>
      have fields := LedgerEntry.new_fields built
      exact ⟨_, _, service.afterReversal_write ref actor reason journal.world fraction auditStamp
        reversal fields, by simp, .reversed snapshot captured rate fraction reversal reversed entry
        fields⟩

/-- Every request is a step of the books of every order, an idle one where the order has another id
than the one the request is made on. -/
theorem journalStep_books (service : OrderService) (journal : Journal) (request : Request)
    {ref : OrderRef} (distinct : request.ref ≠ ref →
      (journal.world.orders request.ref).orderId ≠ (journal.world.orders ref).orderId) :
    BooksStep service request (journal.books ref)
      ((service.journalStep journal request).books ref) := by
  obtain ⟨order, appended, write, own, taken⟩ := journalStep_write service journal request
  unfold journalStep
  -- Only the order of the request has its books changed.
  by_cases same : request.ref = ref
  · subst same
    rw [write.books_self own]
    exact taken
  · rw [write.books_other own (Ne.symm same) (distinct same)]
    exact .idle

/-- No request changes the id of an order. -/
theorem step_orderId (service : OrderService) (world : World) (request : Request) (ref : OrderRef) :
    ((service.step world request).orders ref).orderId = (world.orders ref).orderId := by
  -- The object that is written keeps its id, and no other object is written.
  obtain ⟨order, appended, write, -, -⟩ := journalStep_write service ⟨world, []⟩ request
  rw [write.orders]
  by_cases same : ref = request.ref
  · subst same
    rw [Function.update_self]
    exact write.orderId
  · rw [Function.update_of_ne same]

end OrderService

end JolCommerce
