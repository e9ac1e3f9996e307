import JolCommerce.Common
import JolCommerce.Python.Dict

/-! The deduplication table of webhook event ids, purged after its retention window. -/

namespace JolCommerce

open Python

/-- `MINIMUM_RETENTION`: twenty-four hours, in microseconds. -/
def minimumRetention : Int := 24 * 60 * 60 * 1000000

/-- One processed event. -/
structure ProcessedEvent where
  eventId : String
  processedAt : DateTime

/-- The table of processed events with its retention, never below the minimum. -/
structure WebhookEventStore where
  /-- How long an id is remembered, in microseconds. -/
  retention : Int
  processed : Dict String ProcessedEvent
  /-- The bound the constructor checks. -/
  admissible : minimumRetention ≤ retention

namespace WebhookEventStore

/-- The constructor: an empty table, or `ValueError` for a retention below the minimum. -/
def new (retention : Int) : Except PyError WebhookEventStore :=
  if admissible : minimumRetention ≤ retention then .ok ⟨retention, Dict.empty, admissible⟩
  else .error (.valueError ("Dedup retention must be at least 1 day, 0:00:00 " ++
    "(replay window requirement, gap 4.4)"))

/-- `purge_expired(now)`: drop the entries claimed before the retention window. -/
def purgeExpired (store : WebhookEventStore) (moment : DateTime) :
    Except PyError WebhookEventStore :=
  let cutoff := (moment.toMicros : Int) - store.retention
  -- A cutoff before year 1 is no date.
  if cutoff < 0 then .error (.overflowError "date value out of range")
  else .ok { store with
    processed := store.processed.filter fun _ record =>
      !decide ((record.processedAt.toMicros : Int) < cutoff) }

/-- `claim(event_id, now)`: whether the caller must process the event, and the table after it. -/
def claim (store : WebhookEventStore) (eventId : String) (moment : DateTime) :
    Except PyError (Bool × WebhookEventStore) := do
  let purged ← store.purgeExpired moment
  -- An event without an id can never be told from a replay, so it is refused like one.
  if eventId = "" ∨ (purged.processed.get? eventId).isSome then return (false, purged)
  return (true, { purged with
    processed := purged.processed.set eventId ⟨eventId, moment⟩ })

section Claims

variable (store : WebhookEventStore) (eventId : String) (moment : DateTime)

/-- The record of an event that is still within the retention window at an instant. -/
def recent (eventId : String) : Option ProcessedEvent :=
  (store.processed.get? eventId).filter fun record =>
    !decide ((record.processedAt.toMicros : Int) < (moment.toMicros : Int) - store.retention)

/-- Every way a claim returns or raises. -/
inductive ClaimOutcome : Except PyError (Bool × WebhookEventStore) → Prop where
  /-- The window would begin before year 1, so the table was not looked at. -/
  | overflow (early : (moment.toMicros : Int) < store.retention) (error : PyError) :
    ClaimOutcome (.error error)
  | replayed (inRange : store.retention ≤ moment.toMicros) (after : WebhookEventStore)
    (window : after.retention = store.retention)
    (seen : eventId = "" ∨ (store.recent moment eventId).isSome = true)
    (kept : ∀ key, after.processed.get? key = store.recent moment key) :
    ClaimOutcome (.ok (false, after))
  | claimed (inRange : store.retention ≤ moment.toMicros) (after : WebhookEventStore)
    (window : after.retention = store.retention) (named : eventId ≠ "")
    (unseen : store.recent moment eventId = none)
    (kept : ∀ key, after.processed.get? key =
      if key = eventId then some ⟨eventId, moment⟩ else store.recent moment key) :
    ClaimOutcome (.ok (true, after))

/-- A claim has exactly these outcomes. -/
theorem claim_outcome : ClaimOutcome store eventId moment (store.claim eventId moment) := by
  -- The purge decides on the range; only then is the id looked up, in what the purge left.
  by_cases early : (moment.toMicros : Int) - store.retention < 0
  · simp only [claim, purgeExpired, early, if_true, error_bind]
    exact .overflow (by omega) _
  · have inRange : store.retention ≤ moment.toMicros := by omega
    have left : ∀ key, (store.processed.filter fun _ record =>
        !decide ((record.processedAt.toMicros : Int) <
          (moment.toMicros : Int) - store.retention)).get? key = store.recent moment key :=
      fun key => Dict.get?_filter _ _ key
    simp only [claim, purgeExpired, early, if_false, ok_bind, left]
    split
    · rename_i seen
      exact .replayed inRange _ rfl seen left
    · rename_i unseen
      rw [not_or, Bool.not_eq_true, Option.isSome_eq_false_iff, Option.isNone_iff_eq_none] at unseen
      refine .claimed inRange _ rfl unseen.1 unseen.2 ?_
      intro key
      rw [Dict.get?_set, left]

end Claims

end WebhookEventStore

end JolCommerce
