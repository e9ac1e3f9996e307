import JolCommerce.Notifications.NotificationQueue
import JolCommerce.Run.Invariant

/-! Runs of queue calls lose and duplicate no notification, keep the policy and count failures. -/

namespace JolCommerce

/-- A notification apart from its number of attempts. -/
def Notification.content (notification : Notification) : Notification :=
  { notification with attempts := 0 }

/-- The notification a call offers to the queue. -/
def QueueCall.offered : QueueCall → Option Notification
  | .enqueue notification => some notification
  | .markDelivered _ => none
  | .markFailed _ => none

namespace NotificationQueue

/-- All notifications the queue holds. -/
def all (queue : NotificationQueue) : List Notification :=
  queue.pending ++ queue.delivered ++ queue.deadLetter

/-- The copy of a failed notification has its content. -/
@[simp] theorem content_retry (notification : Notification) :
    (retry notification).content = notification.content := rfl

/-- A call that raises changes nothing. -/
theorem code_raised {queue after : NotificationQueue} {call : QueueCall} {error : NotificationError}
    (raised : call.code.run queue = .error error after) : after = queue := by
  -- Every other outcome returns.
  have outcome := code_outcome queue call
  rw [raised] at outcome
  cases outcome with
  | raised => rfl

/-- A call that returns moves notifications between the lists and adds what it offers. -/
theorem code_contents {queue after : NotificationQueue} {call : QueueCall}
    (returned : call.code.run queue = .ok () after) :
    (after.all.map Notification.content).Perm
      (queue.all.map Notification.content ++ call.offered.toList.map Notification.content) := by
  have outcome := code_outcome queue call
  rw [returned] at outcome
  unfold all
  -- What was popped from the pending ones turns up at the end of one of the lists.
  cases outcome with
  | accepted allowed => grind [QueueCall.offered]
  | delivered pending => grind [QueueCall.offered]
  | requeued pending early => grind [QueueCall.offered, content_retry]
  | givenUp pending late => grind [QueueCall.offered, content_retry]

/-- A call that returns keeps the policy. -/
theorem code_permitted {queue after : NotificationQueue} {call : QueueCall}
    (returned : call.code.run queue = .ok () after)
    (permitted : ∀ notification ∈ queue.all, Permitted notification) :
    ∀ notification ∈ after.all, Permitted notification := by
  have outcome := code_outcome queue call
  rw [returned] at outcome
  unfold all at permitted ⊢
  -- Only an offer is checked; everything else was in a list before.
  cases outcome with
  | accepted allowed => grind
  | delivered pending => grind
  | requeued pending early => grind [Permitted.retry]
  | givenUp pending late => grind [Permitted.retry]

end NotificationQueue

/-- A queue and the calls that returned on the way to it. -/
structure QueueHistory where
  queue : NotificationQueue
  returned : List QueueCall

namespace QueueHistory

open NotificationQueue

/-- An empty queue before any call. -/
def start : QueueHistory := ⟨.new, []⟩

/-- The queue after a call, which is recorded if it returned. -/
def step (history : QueueHistory) (call : QueueCall) : QueueHistory :=
  match call.code.run history.queue with
  | .ok _ after => ⟨after, history.returned ++ [call]⟩
  | .error _ after => ⟨after, history.returned⟩

/-- Calls one after another on an empty queue. -/
def run (calls : List QueueCall) : QueueHistory :=
  calls.foldl step start

/-- The notifications that `enqueue` returned. -/
def accepted (history : QueueHistory) : List Notification :=
  history.returned.filterMap QueueCall.offered

/-- How many failures of an id were recorded. -/
def failures (history : QueueHistory) (notificationId : String) : Nat :=
  history.returned.count (.markFailed notificationId)

/-- Everything accepted is in exactly one list, and permitted there. -/
structure Conserved (history : QueueHistory) : Prop where
  contents : (history.accepted.map Notification.content).Perm
    (history.queue.all.map Notification.content)
  permitted : ∀ notification ∈ history.queue.all, Permitted notification

/-- Everything accepted came without attempts and under an id of its own. -/
structure Fresh (history : QueueHistory) : Prop where
  attempts : ∀ notification ∈ history.accepted, notification.attempts = 0
  ids : (history.accepted.map Notification.notificationId).Nodup

/-- Attempts are the recorded failures, and three of them are the end. -/
structure Counted (history : QueueHistory) : Prop where
  tried : ∀ notification ∈ history.queue.pending ++ history.queue.delivered,
    notification.attempts < 3 ∧ notification.attempts = history.failures notification.notificationId
  givenUp : ∀ notification ∈ history.queue.deadLetter, notification.attempts = 3
  known : ∀ notificationId, .markFailed notificationId ∈ history.returned →
    notificationId ∈ history.accepted.map Notification.notificationId

/-- A call is recorded with the queue it returned, or nothing changed. -/
theorem step_cases (history : QueueHistory) (call : QueueCall) :
    (∃ after, call.code.run history.queue = .ok () after ∧
      history.step call = ⟨after, history.returned ++ [call]⟩) ∨ history.step call = history := by
  unfold step
  cases ran : call.code.run history.queue with
  | ok value after => exact .inl ⟨after, rfl, rfl⟩
  | error error after => exact .inr (by rw [code_raised ran])

/-- Another recorded call is one more notification accepted where it offers one. -/
theorem accepted_snoc (queue : NotificationQueue) (returned : List QueueCall) (call : QueueCall) :
    accepted ⟨queue, returned ++ [call]⟩ =
      returned.filterMap QueueCall.offered ++ call.offered.toList := by
  simp only [accepted, List.filterMap_append, List.filterMap_cons, List.filterMap_nil]
  cases call.offered with
  | none => rfl
  | some notification => rfl

/-- Another recorded call is one more failure where it is one, of the same id. -/
theorem failures_snoc (queue : NotificationQueue) (returned : List QueueCall) (call : QueueCall)
    (notificationId : String) :
    failures ⟨queue, returned ++ [call]⟩ notificationId =
      returned.count (.markFailed notificationId) +
        if call = .markFailed notificationId then 1 else 0 := by
  simp [failures, List.count_append, List.count_singleton]

/-- One call keeps what was accepted, and the policy. -/
theorem Conserved.step {history : QueueHistory} (conserved : Conserved history) (call : QueueCall) :
    Conserved (history.step call) := by
  -- A call that raised changes nothing; one that returned moves contents between the queues.
  rcases history.step_cases call with ⟨after, returned, stepped⟩ | stepped
  · rw [stepped]
    refine ⟨?_, code_permitted returned conserved.permitted⟩
    rw [accepted_snoc, List.map_append]
    exact (conserved.contents.append_right _).trans (code_contents returned).symm
  · rwa [stepped]

/-- The ids in the lists are those that were accepted. -/
theorem Conserved.ids {history : QueueHistory} (conserved : Conserved history) :
    (history.accepted.map Notification.notificationId).Perm
      (history.queue.all.map Notification.notificationId) := by
  -- The id is part of the content.
  have ids := conserved.contents.map Notification.notificationId
  rw [List.map_map, List.map_map] at ids
  exact ids

/-- What was accepted before a call was accepted on the same terms. -/
theorem Fresh.of_step {history : QueueHistory} {call : QueueCall}
    (fresh : Fresh (history.step call)) : Fresh history := by
  -- The notifications accepted before are among those accepted now.
  rcases history.step_cases call with ⟨after, returned, stepped⟩ | stepped
  · rw [stepped] at fresh
    obtain ⟨attempts, ids⟩ := fresh
    rw [accepted_snoc] at attempts ids
    rw [List.map_append] at ids
    exact ⟨fun notification member => attempts notification (List.mem_append_left _ member),
      ids.of_append_left⟩
  · rwa [stepped] at fresh

/-- The count after a call that was recorded, from what the call did to the lists. -/
theorem Counted.recorded {history : QueueHistory} (counted : Counted history)
    {after : NotificationQueue} {call : QueueCall}
    (returned : call.code.run history.queue = .ok () after)
    (own : (history.queue.all.map Notification.notificationId).Nodup)
    (listed : ∀ notification ∈ history.queue.all,
      notification.notificationId ∈ history.accepted.map Notification.notificationId)
    (fresh : Fresh ⟨after, history.returned ++ [call]⟩) :
    Counted ⟨after, history.returned ++ [call]⟩ := by
  obtain ⟨queue, calls⟩ := history
  obtain ⟨tried, givenUp, known⟩ := counted
  obtain ⟨attempts, ids⟩ := fresh
  rw [accepted_snoc] at attempts ids
  simp only [accepted, failures, all] at tried known own listed returned
  have outcome := code_outcome queue call
  rw [returned] at outcome
  cases outcome with
  | accepted allowed =>
    rename_i notification
    -- Its id was not accepted before, so no failure of it was recorded.
    have unknown : notification.notificationId ∉
        (calls.filterMap QueueCall.offered).map Notification.notificationId := by
      simp only [QueueCall.offered, Option.toList_some, List.map_append] at ids
      grind
    have untried : calls.count (.markFailed notification.notificationId) = 0 :=
      List.count_eq_zero.mpr fun failed => unknown (known _ failed)
    refine ⟨?_, givenUp, ?_⟩
    · simp only [failures_snoc]
      grind [QueueCall.offered]
    · simp only [accepted_snoc]
      grind
  -- A delivery moves a notification without another attempt.
  | delivered pending =>
    refine ⟨?_, givenUp, ?_⟩
    · simp only [failures_snoc]
      grind
    · simp only [accepted_snoc]
      grind
  | requeued pending early =>
    rename_i notification front back
    -- One more failure is one more attempt, and all the others have other ids.
    have others : ∀ other ∈ front ++ back ++ queue.delivered,
        other.notificationId ≠ notification.notificationId := by
      grind
    refine ⟨?_, givenUp, ?_⟩
    · simp only [failures_snoc]
      grind [retry, maxDeliveryAttempts]
    · simp only [accepted_snoc]
      grind
  | givenUp pending late =>
    rename_i notification front back
    have others : ∀ other ∈ front ++ back ++ queue.delivered,
        other.notificationId ≠ notification.notificationId := by
      grind
    -- It had fewer than three attempts, so this failure is its third.
    have third : (retry notification).attempts = 3 := by
      have fewer := (tried notification (by simp [pending])).1
      simp only [retry, maxDeliveryAttempts] at late ⊢
      omega
    refine ⟨?_, ?_, ?_⟩
    · simp only [failures_snoc]
      grind
    · grind
    · simp only [accepted_snoc]
      grind

/-- One call keeps the count, as long as ids stay distinct. -/
theorem Counted.step {history : QueueHistory} (counted : Counted history)
    (conserved : Conserved history) {call : QueueCall} (fresh : Fresh (history.step call)) :
    Counted (history.step call) := by
  -- Identifiers are those of accepted notifications, so none of them occurs twice.
  rcases history.step_cases call with ⟨after, returned, stepped⟩ | stepped
  · have own := conserved.ids.nodup_iff.mp fresh.of_step.ids
    have listed : ∀ notification ∈ history.queue.all,
        notification.notificationId ∈ history.accepted.map Notification.notificationId :=
      fun notification member => conserved.ids.mem_iff.mpr (List.mem_map_of_mem member)
    rw [stepped] at fresh ⊢
    exact counted.recorded returned own listed fresh
  · rwa [stepped]

/-- Every run conserves what it accepted, and counts failures where ids are distinct. -/
theorem run_invariant (calls : List QueueCall) :
    Conserved (run calls) ∧ (Fresh (run calls) → Counted (run calls)) := by
  -- One call at a time; what is fresh after a call was fresh before it.
  refine @Run.foldl_invariant _ _ step (fun _ _ => True)
    (fun history => Conserved history ∧ (Fresh history → Counted history)) ?_ start calls ?_
    (@Run.allSteps_of_forall _ _ step (fun _ => True) calls (fun _ _ => trivial) start)
  · rintro history call ⟨conserved, counted⟩ -
    exact ⟨conserved.step call, fun fresh => (counted fresh.of_step).step conserved fresh⟩
  · exact ⟨⟨.nil, by simp [start, new, all]⟩,
      fun _ => ⟨by simp [start, new], by simp [start, new], by simp [start]⟩⟩

end QueueHistory

open QueueHistory

/--
Whatever is called on an empty queue, accepted notifications are exactly those in the three lists.

Apart from their attempts: these are the recorded failures, as long as every notification came
without any and under an id of its own.
-/
theorem notifications_conserved (calls : List QueueCall) :
    let history := run calls
    let queue := history.queue
    let held := queue.pending ++ queue.delivered ++ queue.deadLetter
    (history.accepted.map Notification.content).Perm (held.map Notification.content) ∧
      (∀ (call : QueueCall) error after, call.code.run queue = .error error after → after = queue) ∧
      (∀ notification ∈ held,
        notification.channel ∈ channelMatrix notification.classification ∧
          (notification.classification = .confidential ∨
            notification.classification = .restricted → notification.encryptedPayload ≠ "")) ∧
      ((∀ notification ∈ history.accepted, notification.attempts = 0) →
        (history.accepted.map Notification.notificationId).Nodup →
          (∀ notification ∈ queue.pending ++ queue.delivered, notification.attempts < 3 ∧
            notification.attempts = history.failures notification.notificationId) ∧
          ∀ notification ∈ queue.deadLetter, notification.attempts = 3) := by
  -- The two invariants of a run are read off one by one.
  obtain ⟨conserved, counted⟩ := run_invariant calls
  refine ⟨conserved.contents, fun call error after => NotificationQueue.code_raised, ?_, ?_⟩
  · intro notification member
    have permitted := conserved.permitted notification member
    exact ⟨permitted.channel, permitted.payload⟩
  · intro attempts ids
    have count := counted ⟨attempts, ids⟩
    exact ⟨count.tried, count.givenUp⟩

/-- A public notice that fails three times, next to a payment failure without its payload. -/
def sampleCalls : List QueueCall :=
  let notice := Notification.new Stamp.sample "t-1" .sms .isPublic
  let secret := Notification.new Stamp.sample "t-1" .encryptedEmail .confidential
  let failed := QueueCall.markFailed notice.notificationId
  [.enqueue notice, .enqueue secret, failed, failed, .markDelivered "unknown", failed]

/-- The notice ends up given up after three attempts, and one more failure of it is refused. -/
theorem notifications_conserved_sample :
    (∃ notification ∈ (run sampleCalls).queue.deadLetter, notification.attempts = 3) ∧
      ∃ error after, (QueueCall.markFailed Stamp.sample.uuid.toStr).code.run
        (run sampleCalls).queue = .error error after ∧ after = (run sampleCalls).queue := by
  -- The run gives one notification up, and a further failure of it is refused.
  obtain ⟨-, raised, -, counted⟩ := notifications_conserved sampleCalls
  obtain ⟨-, givenUp⟩ := counted (by decide +kernel) (by decide +kernel)
  refine ⟨?_, ?_⟩
  · obtain ⟨notification, member⟩ : ∃ notification, notification ∈ (run sampleCalls).queue.deadLetter :=
      List.exists_mem_of_ne_nil _ (by decide +kernel)
    exact ⟨notification, member, givenUp notification member⟩
  · have refused : (match (QueueCall.markFailed Stamp.sample.uuid.toStr).code.run
        (run sampleCalls).queue with
        | .ok _ _ => false
        | .error _ _ => true) = true := by decide +kernel
    cases ran : (QueueCall.markFailed Stamp.sample.uuid.toStr).code.run (run sampleCalls).queue with
    | ok value after => simp [ran] at refused
    | error error after => exact ⟨error, after, rfl, raised _ _ _ ran⟩

end JolCommerce
