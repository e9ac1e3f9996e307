import JolCommerce.Common
import JolCommerce.Python.Json

/-! Orders and their state machine; every order object owns its history list. -/

namespace JolCommerce

open Python

/-- Order lifecycle states. -/
inductive OrderStatus where
  | draft
  | reserved
  | confirmed
  | inProgress
  | paymentPending
  | completed
  | cancelled
  deriving DecidableEq

namespace OrderStatus

/-- The text of a status. -/
def value : OrderStatus → String
  | draft => "draft"
  | reserved => "reserved"
  | confirmed => "confirmed"
  | inProgress => "in_progress"
  | paymentPending => "payment_pending"
  | completed => "completed"
  | cancelled => "cancelled"

/-- All states, in the order of the enumeration. -/
def all : List OrderStatus :=
  [draft, reserved, confirmed, inProgress, paymentPending, completed, cancelled]

/-- `OrderStatus(text)`, or nothing where it raises `ValueError`. -/
def parse? (text : String) : Option OrderStatus := all.find? fun status => status.value = text

end OrderStatus

/-- Supported payment modalities. -/
inductive PaymentMode where
  | onlinePrepay
  | postService
  | inPerson
  | mixed
  deriving DecidableEq

namespace PaymentMode

/-- The text of a payment mode. -/
def value : PaymentMode → String
  | onlinePrepay => "online_prepay"
  | postService => "post_service"
  | inPerson => "in_person"
  | mixed => "mixed"

/-- All modes, in the order of the enumeration. -/
def all : List PaymentMode := [onlinePrepay, postService, inPerson, mixed]

/-- `PaymentMode(text)`, or nothing where it raises `ValueError`. -/
def parse? (text : String) : Option PaymentMode := all.find? fun mode => mode.value = text

end PaymentMode

/-- `VALID_TRANSITIONS`. -/
def validTransitions : OrderStatus → List OrderStatus
  | .draft => [.reserved, .cancelled]
  | .reserved => [.confirmed, .cancelled]
  | .confirmed => [.inProgress, .cancelled]
  | .inProgress => [.completed, .paymentPending, .cancelled]
  | .paymentPending => [.completed, .cancelled]
  | .completed => []
  | .cancelled => []

/-- Commission split captured when an order completes. -/
structure CommissionSnapshot where
  rate : String
  platformFeeCents : Int
  tenantSettlementCents : Int

/-- Record of an order state transition. -/
structure OrderStateChange where
  orderId : String
  fromStatus : OrderStatus
  toStatus : OrderStatus
  changedAt : String
  changedBy : String
  reason : String := ""

/-- The contents of an order object. -/
structure Order where
  orderId : String
  tenantId : String := ""
  status : OrderStatus := .draft
  paymentMode : PaymentMode := .onlinePrepay
  customerId : String := ""
  items : List JsonObject := []
  totalAmountCents : Int := 0
  currency : String := "EUR"
  countryCode : String := ""
  branchId : String := ""
  serviceType : String := ""
  /-- Drawn from `uuid4` unless it is given. -/
  externalId : String
  commissionSnapshot : Option CommissionSnapshot := none
  /-- The time of creation unless it is given. -/
  createdAt : String
  updatedAt : String := ""
  history : List OrderStateChange := []

namespace Order

/-- The record of moving an order to another status. -/
def change (order : Order) (newStatus : OrderStatus) (changedBy reason : String)
    (moment : DateTime) : OrderStateChange where
  orderId := order.orderId
  fromStatus := order.status
  toStatus := newStatus
  changedAt := moment.isoformat
  changedBy := changedBy
  reason := reason

/-- The order once that record is applied. -/
def moved (order : Order) (change : OrderStateChange) : Order where
  __ := order
  status := change.toStatus
  updatedAt := change.changedAt
  history := order.history ++ [change]

/-- The message of a refused transition; Python lists the allowed set in an order of its own. -/
def invalidTransition (order : Order) (newStatus : OrderStatus) : String :=
  "Invalid transition: " ++ order.status.value ++ " → " ++ newStatus.value ++ ". Allowed: [" ++
    ", ".intercalate ((validTransitions order.status).map fun status => "'" ++ status.value ++ "'") ++
    "]"

/-- `transition_to(new_status, changed_by, reason)`: the record and the changed order. -/
def transitionTo (order : Order) (newStatus : OrderStatus) (changedBy reason : String)
    (moment : DateTime) : Except PyError (OrderStateChange × Order) :=
  if newStatus ∈ validTransitions order.status then
    -- The record is taken before the order is changed, so that it names the old status.
    let change := order.change newStatus changedBy reason moment
    .ok (change, order.moved change)
  else .error (.valueError (order.invalidTransition newStatus))

end Order

/-- Completed and cancelled orders admit no transition. -/
theorem validTransitions_terminal {source target : OrderStatus}
    (valid : target ∈ validTransitions source) : source ≠ .completed ∧ source ≠ .cancelled := by
  -- The table lists no target for either of them.
  constructor
  · intro terminal
    simp [terminal, validTransitions] at valid
  · intro terminal
    simp [terminal, validTransitions] at valid

end JolCommerce
