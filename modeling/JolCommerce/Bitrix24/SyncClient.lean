import JolCommerce.Audit.AuditLog
import JolCommerce.Bitrix24.PiiScrubber
import JolCommerce.Orders.Lifecycle

/-! The one-way sync of orders: what is posted to the dispatch system and what is logged. -/

namespace JolCommerce

open Python

/-- A value of the payload that is built from an order. -/
inductive OrderField where
  | text (text : String)
  | cents (amount : Int)

instance : PayloadValue OrderField where
  isInt
    | .text _ => false
    | .cents _ => true
  str
    | .text text => text
    | .cents amount => String.ofList (intText amount)
  truthy
    | .text text => text ≠ ""
    | .cents amount => amount ≠ 0

/-- Outcome of one sync. -/
structure SyncResult where
  orderId : String
  externalId : String
  dealRef : String
  scrubbedPayload : Dict String (SentValue OrderField)

/-- What the client has done so far: the payloads it posted and the audit log. -/
structure SyncState where
  posted : List (Dict String (SentValue OrderField))
  audit : AuditLogger

namespace Bitrix24SyncClient

/-- The fields of an order that are offered to the scrubber. -/
def rawPayload (order : Order) : Dict String OrderField :=
  ⟨[("order_id", .text order.orderId), ("status", .text order.status.value),
    ("amount_cents", .cents order.totalAmountCents), ("currency", .text order.currency),
    ("branch_id", .text order.branchId), ("service_type", .text order.serviceType)], by simp⟩

/-- The audit record of a sync. -/
def syncedCall (order : Order) (dealRef : String) : LogCall JsonObject where
  actor := "bitrix24_sync"
  eventType := "bitrix24.synced"
  outcome := "success"
  transactionRef := order.externalId
  details := some (.ofList [("tenant_id", .str order.tenantId), ("deal_ref", .str dealRef),
    ("direction", .str "outbound_only")])

/-- `sync_order(order)`, given what the transport answers and the stamp of the audit entry. -/
def syncOrder (letter : Char → Bool) (sha256 : String → String) (scrubber : PiiScrubber)
    (reply : Except PyError String) (stamp : Stamp) (order : Order) :
    EStateM PyError SyncState SyncResult := do
  let scrubbed ← ofExcept (scrubber.scrubOrderPayload letter sha256 (rawPayload order) order.externalId)
  modify fun state => { state with posted := state.posted ++ [scrubbed] }
  let dealRef ← ofExcept reply
  modify fun state => { state with audit := state.audit.log sha256 stamp (syncedCall order dealRef) }
  return { orderId := order.orderId, externalId := order.externalId, dealRef
           scrubbedPayload := scrubbed }

end Bitrix24SyncClient

end JolCommerce
