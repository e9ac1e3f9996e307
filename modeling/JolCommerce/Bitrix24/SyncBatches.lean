import JolCommerce.Audit.Export
import JolCommerce.Bitrix24.Noninterference
import JolCommerce.Run.Purge
import JolCommerce.Run.Simulation
import JolCommerce.Run.Triple

/-! Batches of orders synced to a dispatch system that may answer as it likes. -/

namespace JolCommerce

open Python

/-- What is posted for an order. -/
abbrev DealPayload := Dict String (SentValue OrderField)

/-- The dispatch system: what it answers once it has received these payloads, the last one just now. -/
abbrev Dispatch := List DealPayload → Except PyError String

namespace Bitrix24SyncClient

section Batches

variable (letter : Char → Bool) (sha256 : String → String) (scrubber : PiiScrubber)
  (dispatch : Dispatch)

/-- What the dispatch system answers when an order is posted after the others. -/
def replyTo (posted : List DealPayload) (order : Order) : Except PyError String :=
  match scrubber.scrubOrderPayload letter sha256 (rawPayload order) order.externalId with
  | .ok scrubbed => dispatch (posted ++ [scrubbed])
  | .error error => .error error

/-- `sync_order(order)` with the dispatch system at the other end. -/
def syncThrough (item : Stamp × Order) : EStateM PyError SyncState SyncResult := do
  let state ← get
  syncOrder letter sha256 scrubber (replyTo letter sha256 scrubber dispatch state.posted item.2) item.1
    item.2

/-- `sync_orders(orders)`: the first order that raises ends the batch. -/
def syncOrders (batch : List (Stamp × Order)) : EStateM PyError SyncState (List SyncResult) :=
  batch.mapM (syncThrough letter sha256 scrubber dispatch)

/-- The client after a batch, whether it returned or raised. -/
def afterBatch (state : SyncState) (batch : List (Stamp × Order)) : SyncState :=
  stateAfter (syncOrders letter sha256 scrubber dispatch batch) state

/-- What a batch returned or raised. -/
def batchResult (state : SyncState) (batch : List (Stamp × Order)) :
    Except PyError (List SyncResult) :=
  resultOf (syncOrders letter sha256 scrubber dispatch batch) state

/-- A client that has synced nothing so far. -/
def newClient : SyncState := ⟨[], AuditLoggerOf.new⟩

/-- A sync raises before or after the order is posted, or logs what it was answered. -/
theorem run_syncThrough (state : SyncState) (stamp : Stamp) (order : Order) :
    (syncThrough letter sha256 scrubber dispatch (stamp, order)).run state =
      match scrubber.scrubOrderPayload letter sha256 (rawPayload order) order.externalId with
      | .error error => .error error state
      | .ok payload =>
        match dispatch (state.posted ++ [payload]) with
        | .error error => .error error { state with posted := state.posted ++ [payload] }
        | .ok dealRef => .ok ⟨order.orderId, order.externalId, dealRef, payload⟩
            ⟨state.posted ++ [payload], state.audit.log sha256 stamp (syncedCall order dealRef)⟩ := by
  -- In the order of the body: the scrubber, the post, the log.
  cases scrubbed : scrubber.scrubOrderPayload letter sha256 (rawPayload order) order.externalId with
  | error error => simp [syncThrough, syncOrder, scrubbed]
  | ok payload =>
    cases reply : dispatch (state.posted ++ [payload]) with
    | error error => simp [syncThrough, syncOrder, replyTo, scrubbed, reply]
    | ok dealRef => simp [syncThrough, syncOrder, replyTo, scrubbed, reply]

end Batches

section Noninterference

variable (letter : Char → Bool) (sha256 : String → String) (scrubber : PiiScrubber)
  (dispatch : Dispatch)

/-- Results that differ in nothing but the internal id of the order. -/
structure SameDeal (first second : SyncResult) : Prop where
  externalId : first.externalId = second.externalId
  dealRef : first.dealRef = second.dealRef
  scrubbedPayload : first.scrubbedPayload = second.scrubbedPayload

/-- Batches that both return the same deals or both raise the same. -/
def SameDeals : Except PyError (List SyncResult) → Except PyError (List SyncResult) → Prop
  | .ok first, .ok second => List.Forall₂ SameDeal first second
  | .error first, .error second => first = second
  | .ok _, .error _ => False
  | .error _, .ok _ => False

/-- Items whose orders agree in what the dispatch system is told of them. -/
def SameItem (first second : Stamp × Order) : Prop := SameForDispatch first.2 second.2

/-- The dispatch system has received the same from both clients. -/
def SamePosted (first second : SyncState) : Prop := first.posted = second.posted

/-- Orders that agree for the dispatch system are synced alike where it has received the same. -/
theorem syncThrough_simulates {first second : Stamp × Order} (same : SameItem first second) :
    Run.Simulates SamePosted (syncThrough letter sha256 scrubber dispatch first)
      (syncThrough letter sha256 scrubber dispatch second)
      (fun result other state there => SameDeal result other ∧ SamePosted state there)
      SamePosted := by
  -- Both orders are scrubbed to one payload, so the dispatch system gives both one answer.
  intro state there posted
  have received : state.posted = there.posted := posted
  have agree : scrubber.scrubOrderPayload letter sha256 (rawPayload first.2) first.2.externalId =
      scrubber.scrubOrderPayload letter sha256 (rawPayload second.2) second.2.externalId :=
    SameForDispatch.scrubbed same
  rw [run_syncThrough, run_syncThrough, agree, received]
  cases scrubber.scrubOrderPayload letter sha256 (rawPayload second.2) second.2.externalId with
  | error error => exact ⟨rfl, posted⟩
  | ok payload =>
    dsimp only
    cases dispatch (there.posted ++ [payload]) with
    | error error => exact ⟨rfl, rfl⟩
    | ok dealRef => exact ⟨⟨same.externalId, rfl, rfl⟩, rfl⟩

/-- Batches of such orders are synced alike. -/
theorem afterBatch_same {state there : SyncState} {first second : List (Stamp × Order)}
    (posted : SamePosted state there) (same : List.Forall₂ SameItem first second) :
    SameDeals (batchResult letter sha256 scrubber dispatch state first)
        (batchResult letter sha256 scrubber dispatch there second) ∧
      SamePosted (afterBatch letter sha256 scrubber dispatch state first)
        (afterBatch letter sha256 scrubber dispatch there second) := by
  have both := Run.simulates_mapM
    (fun _ _ pair => syncThrough_simulates letter sha256 scrubber dispatch pair) same state there posted
  unfold batchResult afterBatch syncOrders resultOf stateAfter
  split at both <;> simp_all [SameDeals]

end Noninterference

/--
A dispatch system learns nothing of an order but what it is told, however it answers.

Two clients whose batches agree order by order in what is dispatched post the same payloads to it, and
each of their batches returns the same deals or raises the same, for every dispatch system: none tells
the customers, items, tenants and histories of the orders apart.
-/
theorem dispatch_learns_nothing (letter : Char → Bool) (sha256 : String → String)
    (scrubber : PiiScrubber) (dispatch : Dispatch) {batches others : List (List (Stamp × Order))}
    (same : List.Forall₂ (List.Forall₂ SameItem) batches others) :
    (batches.foldl (afterBatch letter sha256 scrubber dispatch) newClient).posted =
        (others.foldl (afterBatch letter sha256 scrubber dispatch) newClient).posted ∧
      List.Forall₂ SameDeals
        (Run.outputs (afterBatch letter sha256 scrubber dispatch)
          (batchResult letter sha256 scrubber dispatch) newClient batches)
        (Run.outputs (afterBatch letter sha256 scrubber dispatch)
          (batchResult letter sha256 scrubber dispatch) newClient others) := by
  have start : SamePosted newClient newClient := rfl
  obtain ⟨results, posted⟩ := Run.outputs_forall₂ (fun _ _ _ _ =>
    afterBatch_same letter sha256 scrubber dispatch) start same
  exact ⟨posted, results⟩

end Bitrix24SyncClient

end JolCommerce
