import JolCommerce.Common
import JolCommerce.Notifications.Classification

/-! The notification queue: pending, delivered and dead-letter lists, and its three operations. -/

namespace JolCommerce

/-- `MAX_DELIVERY_ATTEMPTS`. -/
def maxDeliveryAttempts : Int := 3

/-- A queued notification. -/
structure Notification where
  tenantId : String
  channel : Channel
  classification : Classification
  notificationId : String
  recipientRef : String
  encryptedPayload : String
  queuedAt : String
  attempts : Int
  deriving DecidableEq

/-- The constructor where only the fields without a default are given. -/
def Notification.new (stamp : Stamp) (tenantId : String) (channel : Channel)
    (classification : Classification) : Notification :=
  ⟨tenantId, channel, classification, stamp.uuid.toStr, "", "", stamp.moment.isoformat, 0⟩

/-- The three lists of the queue. -/
structure NotificationQueue where
  pending : List Notification
  delivered : List Notification
  deadLetter : List Notification

namespace NotificationQueue

/-- The constructor. -/
def new : NotificationQueue := ⟨[], [], []⟩

/-- Code that works on the queue. -/
abbrev QueueM := EStateM NotificationError NotificationQueue

/-- The confidential classes, whose content is stored encrypted. -/
def isSensitive (classification : Classification) : Bool :=
  classification = .confidential || classification = .restricted

/-- `enqueue`: queue a notification after validating the channel matrix. -/
def enqueue (notification : Notification) : QueueM Notification := do
  match assertChannelAllowed notification.classification notification.channel with
  | .error error => throw error
  | .ok () => pure ()
  if isSensitive notification.classification && notification.encryptedPayload.isEmpty then
    throw (.valueError (notification.classification.value ++ " notifications require " ++
      "an encrypted_payload (Blueprint §3.3)"))
  modify fun queue => { queue with pending := queue.pending ++ [notification] }
  return notification

/-- The first notification with an id, and the list without it. -/
def popFirst (notificationId : String) :
    List Notification → Option (Notification × List Notification)
  | [] => none
  | notification :: rest =>
    if notification.notificationId = notificationId then some (notification, rest)
    else (popFirst notificationId rest).map fun (found, left) => (found, notification :: left)

/-- `_pop_pending`: take the first pending notification with an id off the list. -/
def popPending (notificationId : String) : QueueM Notification := do
  let queue ← get
  match popFirst notificationId queue.pending with
  | some (notification, left) =>
    set { queue with pending := left }
    return notification
  | none => throw (.lookupError ("Notification not in pending queue: " ++ notificationId))

/-- `mark_delivered`: move a notification from pending to delivered. -/
def markDelivered (notificationId : String) : QueueM Unit := do
  let notification ← popPending notificationId
  modify fun queue => { queue with delivered := queue.delivered ++ [notification] }

/-- The copy `mark_failed` creates: every field as it was, one attempt more. -/
def retry (notification : Notification) : Notification where
  tenantId := notification.tenantId
  channel := notification.channel
  classification := notification.classification
  notificationId := notification.notificationId
  recipientRef := notification.recipientRef
  encryptedPayload := notification.encryptedPayload
  queuedAt := notification.queuedAt
  attempts := notification.attempts + 1

/-- `mark_failed`: requeue a notification with one attempt more, or give it up. -/
def markFailed (notificationId : String) : QueueM Notification := do
  let notification ← popPending notificationId
  let retried := retry notification
  if maxDeliveryAttempts ≤ retried.attempts then
    modify fun queue => { queue with deadLetter := queue.deadLetter ++ [retried] }
  else
    modify fun queue => { queue with pending := queue.pending ++ [retried] }
  return retried

/-- `task_payload`: the id alone travels in task arguments. -/
def taskPayload (notification : Notification) : List (String × String) :=
  [("notification_id", notification.notificationId)]

end NotificationQueue

/-- One call on the queue. -/
inductive QueueCall where
  | enqueue (notification : Notification)
  | markDelivered (notificationId : String)
  | markFailed (notificationId : String)
  deriving DecidableEq

/-- What a call runs; the caller may drop what it returns. -/
def QueueCall.code : QueueCall → NotificationQueue.QueueM Unit
  | .enqueue notification => NotificationQueue.enqueue notification >>= fun _ => pure ()
  | .markDelivered notificationId => NotificationQueue.markDelivered notificationId
  | .markFailed notificationId => NotificationQueue.markFailed notificationId >>= fun _ => pure ()

namespace NotificationQueue

/-- What the matrix and the encryption rule ask of a notification. -/
structure Permitted (notification : Notification) : Prop where
  channel : notification.channel ∈ channelMatrix notification.classification
  payload : notification.classification = .confidential ∨ notification.classification = .restricted →
    notification.encryptedPayload ≠ ""

/-- One attempt more leaves what the policy looks at. -/
theorem Permitted.retry {notification : Notification} (permitted : Permitted notification) :
    Permitted (retry notification) :=
  ⟨permitted.channel, permitted.payload⟩

/-- What is popped is the first with its id, and the rest stays in order. -/
theorem popFirst_some {notificationId : String} {pending left : List Notification}
    {notification : Notification} (popped : popFirst notificationId pending = some (notification, left)) :
    notification.notificationId = notificationId ∧ ∃ front back,
      pending = front ++ notification :: back ∧ left = front ++ back := by
  -- Notifications with other ids are passed over and kept.
  induction pending generalizing left with
  | nil => simp [popFirst] at popped
  | cons first rest ih =>
    simp only [popFirst] at popped
    split at popped
    · rename_i named
      cases popped
      exact ⟨named, [], rest, rfl, rfl⟩
    · obtain ⟨⟨found, others⟩, deeper, same⟩ := Option.map_eq_some_iff.mp popped
      cases same
      obtain ⟨named, front, back, rfl, rfl⟩ := ih deeper
      exact ⟨named, first :: front, back, rfl, rfl⟩

/-- Where the id is pending, popping takes the notification off the list. -/
theorem run_popPending_some {queue : NotificationQueue} {notificationId : String}
    {notification : Notification} {left : List Notification}
    (popped : popFirst notificationId queue.pending = some (notification, left)) :
    (popPending notificationId).run queue = .ok notification { queue with pending := left } := by
  simp only [popPending, EStateM.run_bind, EStateM.run_get, popped]
  rfl

/-- Where it is not, popping raises and changes nothing. -/
theorem run_popPending_none {queue : NotificationQueue} {notificationId : String}
    (absent : popFirst notificationId queue.pending = none) :
    (popPending notificationId).run queue =
      .error (.lookupError ("Notification not in pending queue: " ++ notificationId)) queue := by
  simp [popPending, EStateM.run_bind, absent]

/-- A failure of a pending notification puts its copy on one of two lists. -/
theorem run_markFailed_some {queue : NotificationQueue} {notificationId : String}
    {notification : Notification} {left : List Notification}
    (popped : popFirst notificationId queue.pending = some (notification, left)) :
    (markFailed notificationId).run queue =
      .ok (retry notification)
        (if maxDeliveryAttempts ≤ notification.attempts + 1 then
          { queue with pending := left, deadLetter := queue.deadLetter ++ [retry notification] }
        else { queue with pending := left ++ [retry notification] }) := by
  -- The attempt just counted decides which queue takes the notification.
  simp only [markFailed, EStateM.run_bind, run_popPending_some popped]
  have attempts : (retry notification).attempts = notification.attempts + 1 := rfl
  rw [attempts]
  split
  · rfl
  · rfl

/-- Every way a call returns or raises. -/
inductive CallOutcome (queue : NotificationQueue) :
    QueueCall → EStateM.Result NotificationError NotificationQueue Unit → Prop where
  | accepted {notification : Notification} (permitted : Permitted notification) :
    CallOutcome queue (.enqueue notification)
      (.ok () { queue with pending := queue.pending ++ [notification] })
  | delivered {notification : Notification} {front back : List Notification}
    (pending : queue.pending = front ++ notification :: back) :
    CallOutcome queue (.markDelivered notification.notificationId)
      (.ok () { queue with pending := front ++ back, delivered := queue.delivered ++ [notification] })
  | requeued {notification : Notification} {front back : List Notification}
    (pending : queue.pending = front ++ notification :: back)
    (early : notification.attempts + 1 < maxDeliveryAttempts) :
    CallOutcome queue (.markFailed notification.notificationId)
      (.ok () { queue with pending := front ++ back ++ [retry notification] })
  | givenUp {notification : Notification} {front back : List Notification}
    (pending : queue.pending = front ++ notification :: back)
    (late : maxDeliveryAttempts ≤ notification.attempts + 1) :
    CallOutcome queue (.markFailed notification.notificationId)
      (.ok () { queue with
        pending := front ++ back, deadLetter := queue.deadLetter ++ [retry notification] })
  | raised (call : QueueCall) (error : NotificationError) : CallOutcome queue call (.error error queue)

/-- A call has exactly these outcomes. -/
theorem code_outcome (queue : NotificationQueue) (call : QueueCall) :
    CallOutcome queue call (call.code.run queue) := by
  cases call with
  | enqueue notification =>
    simp only [QueueCall.code, enqueue]
    -- The matrix is looked at first, then the payload.
    cases allowed : assertChannelAllowed notification.classification notification.channel with
    | error error => exact .raised _ _
    | ok =>
      by_cases bare : (isSensitive notification.classification &&
          notification.encryptedPayload.isEmpty) = true
      · simp only [bare, if_true]
        exact .raised _ _
      · simp only [bare]
        refine .accepted ⟨assertChannelAllowed_ok_iff.mp allowed, fun sensitive empty => bare ?_⟩
        simpa [isSensitive, empty] using sensitive
  | markDelivered notificationId =>
    simp only [QueueCall.code, markDelivered, EStateM.run_bind]
    cases popped : popFirst notificationId queue.pending with
    | none =>
      rw [run_popPending_none popped]
      exact .raised _ _
    | some pair =>
      obtain ⟨notification, left⟩ := pair
      -- The first one with the id is taken out, wherever it stands.
      obtain ⟨rfl, front, back, pending, rfl⟩ := popFirst_some popped
      rw [run_popPending_some popped]
      exact .delivered pending
  | markFailed notificationId =>
    simp only [QueueCall.code, EStateM.run_bind]
    cases popped : popFirst notificationId queue.pending with
    | none =>
      simp only [markFailed, EStateM.run_bind, run_popPending_none popped]
      exact .raised _ _
    | some pair =>
      obtain ⟨notification, left⟩ := pair
      obtain ⟨rfl, front, back, pending, rfl⟩ := popFirst_some popped
      rw [run_markFailed_some popped]
      -- The number of attempts decides between another try and the dead-letter list.
      by_cases late : maxDeliveryAttempts ≤ notification.attempts + 1
      · simp only [late, if_true]
        exact .givenUp pending late
      · simp only [late, if_false]
        exact .requeued pending (not_le.mp late)

end NotificationQueue

end JolCommerce
