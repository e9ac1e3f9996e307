import JolCommerce.Orders.Runs
import JolCommerce.Run.Simulation

/-! One tenant's orders in two worlds: a call made on an order does the same in both. -/

namespace JolCommerce

open Python

namespace World

/-- The contents of the order stored under an id. -/
def storedOrder (world : World) (orderId : String) : Option Order :=
  (world.repository.get? orderId).map world.orders

/-- A written object shows wherever it is stored. -/
theorem storedOrder_withOrder (world : World) (ref : OrderRef) (order : Order) (orderId : String) :
    (world.withOrder ref order).storedOrder orderId =
      if world.repository.get? orderId = some ref then some order else world.storedOrder orderId := by
  unfold storedOrder
  rw [withOrder_repository]
  cases place : world.repository.get? orderId with
  | none => simp
  | some found =>
    by_cases written : found = ref
    · simp [written]
    · simp [written, withOrder_other world order written]

/-- A stored object shows under its id. -/
theorem storedOrder_stored (world : World) (ref : OrderRef) (orderId : String) :
    (world.stored ref).storedOrder orderId =
      if orderId = (world.orders ref).orderId then some (world.orders ref)
      else world.storedOrder orderId := by
  unfold storedOrder
  rw [stored_repository, stored_orders, Dict.get?_set]
  split <;> rfl

/-- Stored orders are stored under their own ids, exist and have an owner. -/
structure Filed (world : World) : Prop where
  named : ∀ orderId ref, world.repository.get? orderId = some ref →
    (world.orders ref).orderId = orderId
  existing : ∀ orderId ref, world.repository.get? orderId = some ref → ref < world.nextRef
  owned : ∀ orderId ref, world.repository.get? orderId = some ref →
    (world.orders ref).tenantId ≠ ""

/-- Nothing is stored at first. -/
theorem filed_fresh (orders : OrderRef → Order) (nextRef : OrderRef) :
    (World.fresh orders nextRef).Filed := by
  constructor <;> intro orderId ref found <;> cases found

/-- Writing an object without renaming it or changing its owner keeps the filing. -/
theorem Filed.withOrder {world : World} (filed : world.Filed) {ref : OrderRef} {order : Order}
    (named : order.orderId = (world.orders ref).orderId)
    (owner : order.tenantId = (world.orders ref).tenantId) : (world.withOrder ref order).Filed := by
  -- Every object has the id and the owner it had.
  have same : ∀ found, ((world.withOrder ref order).orders found).orderId =
      (world.orders found).orderId ∧
      ((world.withOrder ref order).orders found).tenantId = (world.orders found).tenantId := by
    intro found
    by_cases written : found = ref
    · subst written
      rw [withOrder_self]
      exact ⟨named, owner⟩
    · rw [withOrder_other world order written]
      exact ⟨rfl, rfl⟩
  refine ⟨?_, filed.existing, ?_⟩
  · intro orderId found place
    rw [(same found).1]
    exact filed.named orderId found place
  · intro orderId found place
    rw [(same found).2]
    exact filed.owned orderId found place

/-- Storing an owned object that exists keeps the filing. -/
theorem Filed.stored {world : World} (filed : world.Filed) {ref : OrderRef}
    (existing : ref < world.nextRef) (owned : (world.orders ref).tenantId ≠ "") :
    (world.stored ref).Filed := by
  -- A lookup gives the object stored now under its id, or what it gave before.
  have lookups : ∀ orderId found, (world.stored ref).repository.get? orderId = some found →
      (orderId = (world.orders ref).orderId ∧ found = ref) ∨
        world.repository.get? orderId = some found := by
    intro orderId found place
    rw [stored_repository, Dict.get?_set] at place
    split at place
    · rename_i same
      exact Or.inl ⟨same, (Option.some.inj place).symm⟩
    · exact Or.inr place
  constructor
  · intro orderId found place
    rcases lookups orderId found place with ⟨rfl, rfl⟩ | old
    · rfl
    · exact filed.named orderId found old
  · intro orderId found place
    rcases lookups orderId found place with ⟨rfl, rfl⟩ | old
    · exact existing
    · exact filed.existing orderId found old
  · intro orderId found place
    rcases lookups orderId found place with ⟨rfl, rfl⟩ | old
    · exact owned
    · exact filed.owned orderId found old

end World

/--
What a tenant has in a world shared by all tenants and in a world of its own.

The own world holds the tenant's orders and ledger entries and nobody else's.
-/
structure Alike (tenantId : String) (shared own : World) : Prop where
  sharedFiled : shared.Filed
  ownFiled : own.Filed
  orders : ∀ orderId, own.storedOrder orderId =
    (shared.storedOrder orderId).filter fun order => order.tenantId = tenantId
  ledger : own.ledger.entries =
    shared.ledger.entries.filter fun entry => entry.tenantId = tenantId

/-- An order object of the tenant in each of the two worlds, with one contents and one place. -/
structure Paired (tenantId : String) (ref twin : OrderRef) (shared own : World) : Prop
    extends Alike tenantId shared own where
  same : own.orders twin = shared.orders ref
  owner : (shared.orders ref).tenantId = tenantId
  existing : ref < shared.nextRef ∧ twin < own.nextRef
  place : ∀ orderId, shared.repository.get? orderId = some ref ↔
    own.repository.get? orderId = some twin

section Pairs

variable {tenantId : String} {ref twin : OrderRef} {shared own : World}

/-- Writing the same contents into both objects keeps them paired. -/
theorem Paired.withOrder (paired : Paired tenantId ref twin shared own) {order : Order}
    (named : order.orderId = (shared.orders ref).orderId)
    (owner : order.tenantId = (shared.orders ref).tenantId) :
    Paired tenantId ref twin (shared.withOrder ref order) (own.withOrder twin order) where
  sharedFiled := paired.sharedFiled.withOrder named owner
  ownFiled := paired.ownFiled.withOrder (by rw [paired.same, named]) (by rw [paired.same, owner])
  orders := by
    -- Both objects are found at the same places, and the written order is the tenant's.
    intro orderId
    rw [World.storedOrder_withOrder, World.storedOrder_withOrder]
    by_cases here : shared.repository.get? orderId = some ref
    · rw [if_pos here, if_pos ((paired.place orderId).mp here)]
      rw [Option.filter_some, if_pos (decide_eq_true (owner.trans paired.owner))]
    · rw [if_neg here, if_neg fun there => here ((paired.place orderId).mpr there)]
      exact paired.orders orderId
  ledger := paired.ledger
  same := by rw [World.withOrder_self, World.withOrder_self]
  owner := by rw [World.withOrder_self, owner, paired.owner]
  existing := paired.existing
  place := paired.place

/-- Storing both objects keeps them paired. -/
theorem Paired.stored (paired : Paired tenantId ref twin shared own) (named : tenantId ≠ "") :
    Paired tenantId ref twin (shared.stored ref) (own.stored twin) where
  sharedFiled := paired.sharedFiled.stored paired.existing.1 (by rw [paired.owner]; exact named)
  ownFiled := paired.ownFiled.stored paired.existing.2 (by
    rw [paired.same, paired.owner]
    exact named)
  orders := by
    -- They have one id, and so they are stored at one place.
    intro orderId
    rw [World.storedOrder_stored, World.storedOrder_stored, paired.same]
    split
    · rw [Option.filter_some, if_pos (decide_eq_true paired.owner)]
    · exact paired.orders orderId
  ledger := paired.ledger
  same := paired.same
  owner := paired.owner
  existing := paired.existing
  place := by
    intro orderId
    simp only [World.stored_repository, Dict.get?_set, paired.same]
    split
    · simp
    · exact paired.place orderId

/-- Whatever only logs or counts keeps a pair. -/
theorem Paired.of_fields (paired : Paired tenantId ref twin shared own) {shared' own' : World}
    (sharedFields : shared'.orders = shared.orders ∧ shared'.nextRef = shared.nextRef ∧
      shared'.repository = shared.repository ∧ shared'.ledger = shared.ledger)
    (ownFields : own'.orders = own.orders ∧ own'.nextRef = own.nextRef ∧
      own'.repository = own.repository ∧ own'.ledger = own.ledger) :
    Paired tenantId ref twin shared' own' := by
  -- A pair does not look at the other two fields.
  rcases shared' with ⟨orders, nextRef, repository, ledger, audit, refundCalls⟩
  rcases own' with ⟨orders', nextRef', repository', ledger', audit', refundCalls'⟩
  obtain ⟨rfl, rfl, rfl, rfl⟩ := sharedFields
  obtain ⟨rfl, rfl, rfl, rfl⟩ := ownFields
  exact ⟨⟨⟨paired.sharedFiled.named, paired.sharedFiled.existing, paired.sharedFiled.owned⟩,
    ⟨paired.ownFiled.named, paired.ownFiled.existing, paired.ownFiled.owned⟩, paired.orders,
    paired.ledger⟩, paired.same, paired.owner, paired.existing, paired.place⟩

/-- Logging in both worlds keeps a pair, whatever is logged. -/
theorem Paired.logged (paired : Paired tenantId ref twin shared own) (sha256 : String → String)
    (stamp : Stamp) (call other : LogCall JsonObject) :
    Paired tenantId ref twin (shared.logged sha256 stamp call) (own.logged sha256 stamp other) :=
  paired.of_fields ⟨rfl, rfl, rfl, rfl⟩ ⟨rfl, rfl, rfl, rfl⟩

/-- So does appending an entry of the tenant to both ledgers. -/
theorem Paired.appended (paired : Paired tenantId ref twin shared own) {entry : LedgerEntry}
    (owner : entry.tenantId = tenantId) :
    Paired tenantId ref twin { shared with ledger := shared.ledger.append entry }
      { own with ledger := own.ledger.append entry } where
  sharedFiled := ⟨paired.sharedFiled.named, paired.sharedFiled.existing, paired.sharedFiled.owned⟩
  ownFiled := ⟨paired.ownFiled.named, paired.ownFiled.existing, paired.ownFiled.owned⟩
  orders := paired.orders
  ledger := by
    show own.ledger.entries ++ [entry] = (shared.ledger.entries ++ [entry]).filter _
    rw [List.filter_append, paired.ledger]
    simp [owner]
  same := paired.same
  owner := paired.owner
  existing := paired.existing
  place := paired.place

end Pairs

end JolCommerce
