import JolCommerce.Bitrix24.SyncClient

/-! What the scrubber sends is a function of the fields that are meant to be sent. -/

namespace JolCommerce

open Python PayloadValue

namespace PiiScrubber

variable {ν : Type} [PayloadValue ν] {letter : Char → Bool} {sha256 : String → String}
  {scrubber : PiiScrubber} {externalId : String}

/-- The field from which a key of the sent payload is written. -/
def source (key : String) : String :=
  if key = "title" then "customer_name" else if key = "phone_hash" then "phone" else key

/-- The fields that have a rule other than removal. -/
theorem fieldAction_cases (key : String) :
    (fieldAction key = .allow ∧ key ≠ "title" ∧ key ≠ "phone_hash" ∧ key ≠ "order_id") ∨
      (fieldAction key = .replaceWithOrderRef ∧ key = "customer_name") ∨
      (fieldAction key = .hashOrRemove ∧ key = "phone") ∨ fieldAction key = .remove ∨
      fieldAction key = .mapToExternalId := by
  -- A key with a rule is one of the thirteen of the table.
  cases found : piiFieldRules.get? key with
  | none =>
    have removed : fieldAction key = .remove := by simp [fieldAction, found, defaultAction]
    simp [removed]
  | some action =>
    have entry := (piiFieldRules.mem_entries_iff key action).mpr found
    have action_eq : fieldAction key = action := by simp [fieldAction, found]
    rw [action_eq]
    simp only [piiFieldRules, List.mem_cons, Prod.mk.injEq, List.not_mem_nil, or_false] at entry
    rcases entry with ⟨rfl, rfl⟩ | ⟨rfl, rfl⟩ | ⟨rfl, rfl⟩ | ⟨rfl, rfl⟩ | ⟨rfl, rfl⟩ | ⟨rfl, rfl⟩ |
      ⟨rfl, rfl⟩ | ⟨rfl, rfl⟩ | ⟨rfl, rfl⟩ | ⟨rfl, rfl⟩ | ⟨rfl, rfl⟩ | ⟨rfl, rfl⟩ | ⟨rfl, rfl⟩
    all_goals decide

/-- The keys that can leave the core. -/
def Exported (key : String) : Prop :=
  fieldAction key = .allow ∨ key ∈ ["external_id", "title", "phone_hash", "status"]

/-- A key is written from its source only, and is one of those that can leave. -/
theorem source_of_written {key target : String} {value : ν} {sent : SentValue ν}
    (wrote : scrubber.written letter sha256 externalId key value = some (target, sent)) :
    source target = key ∧ Exported target := by
  -- The rule for a field decides under which key it is written, if under any.
  rcases fieldAction_cases key with ⟨allowed, noTitle, noHash, noId⟩ | ⟨replaced, rfl⟩ | ⟨hashed, rfl⟩ |
    removed | mapped
  · simp only [written, allowed, noId, ne_eq, not_false_eq_true, and_self, ↓reduceIte,
      Option.some.injEq, Prod.mk.injEq] at wrote
    obtain ⟨rfl, -⟩ := wrote
    exact ⟨by simp [source, noTitle, noHash], Or.inl allowed⟩
  · simp [written, replaced] at wrote
    obtain ⟨rfl, -⟩ := wrote
    exact ⟨rfl, Or.inr (by simp)⟩
  · simp [written, hashed] at wrote
    obtain ⟨-, rfl, -⟩ := wrote
    exact ⟨rfl, Or.inr (by simp)⟩
  · simp [written, removed] at wrote
  · simp [written, mapped] at wrote

/-- What a source field contributes to a key of the sent payload. -/
def sentUnder (letter : Char → Bool) (sha256 : String → String) (scrubber : PiiScrubber)
    (externalId target : String) (value : ν) : Option (SentValue ν) :=
  match scrubber.written letter sha256 externalId (source target) value with
  | some (key, sent) => if key = target then some sent else none
  | none => none

/-- One round of the loop changes a key only when it meets the source of that key. -/
theorem get?_scrubField (scrubbed : Dict String (SentValue ν)) (key : String) (value : ν)
    (target : String) :
    (scrubber.scrubField letter sha256 externalId scrubbed (key, value)).get? target =
      if source target = key then
        (scrubber.sentUnder letter sha256 externalId target value).or (scrubbed.get? target)
      else scrubbed.get? target := by
  -- A field other than the source of the key writes under another key or not at all.
  unfold scrubField sentUnder
  by_cases same : source target = key
  · subst same
    rw [if_pos rfl]
    cases scrubber.written letter sha256 externalId (source target) value with
    | none => rfl
    | some sent =>
      by_cases hit : sent.1 = target
      · simp [hit]
      · simp [hit, Dict.get?_set, Ne.symm hit]
  · rw [if_neg same]
    dsimp only
    cases wrote : scrubber.written letter sha256 externalId key value with
    | none => rfl
    | some sent =>
      have other : target ≠ sent.1 := by
        rintro rfl
        exact same (source_of_written wrote).1
      exact scrubbed.get?_set_of_ne sent.2 other

/-- After the loop a key holds what its source contributed, or what it held before. -/
theorem get?_foldl_scrubField {fields : List (String × ν)} (nodup : (fields.map Prod.fst).Nodup)
    (scrubbed : Dict String (SentValue ν)) (target : String) :
    (fields.foldl (scrubber.scrubField letter sha256 externalId) scrubbed).get? target =
      ((fields.lookup (source target)).bind
        (scrubber.sentUnder letter sha256 externalId target)).or (scrubbed.get? target) := by
  -- The source occurs once, so no later round touches the key again.
  induction fields generalizing scrubbed with
  | nil => rfl
  | cons field rest ih =>
    obtain ⟨key, value⟩ := field
    simp only [List.map_cons, List.nodup_cons] at nodup
    rw [List.foldl_cons, ih nodup.2, get?_scrubField]
    by_cases same : source target = key
    · subst same
      have absent : rest.lookup (source target) = none := by
        rw [List.lookup_eq_none_iff]
        intro entry member
        simp only [bne_iff_ne, ne_eq]
        intro again
        exact nodup.1 (List.mem_map.mpr ⟨entry, member, again.symm⟩)
      simp [absent]
    · have differs : (source target == key) = false := by simpa using same
      simp [List.lookup_cons, differs, same]

/-- Payloads that agree in what is meant to be sent. -/
structure Agree (scrubber : PiiScrubber) (first second : Dict String ν) : Prop where
  allowed : ∀ key, fieldAction key = .allow → first.get? key = second.get? key
  customerName : (first.get? "customer_name").isSome = (second.get? "customer_name").isSome
  phone : scrubber.hashPhone = true → first.get? "phone" = second.get? "phone"

/-- Every key gets the same contribution from both. -/
theorem Agree.contribution {first second : Dict String ν} (agree : scrubber.Agree first second)
    (target : String) :
    (first.get? (source target)).bind (scrubber.sentUnder letter sha256 externalId target) =
      (second.get? (source target)).bind (scrubber.sentUnder letter sha256 externalId target) := by
  -- A source that contributes nothing may differ.
  have ignored : (∀ value : ν, scrubber.sentUnder letter sha256 externalId target value = none) →
      (first.get? (source target)).bind (scrubber.sentUnder letter sha256 externalId target) =
        (second.get? (source target)).bind
          (scrubber.sentUnder letter sha256 externalId target) := by
    intro nothing
    rw [Option.bind_eq_none_iff.mpr fun value _ => nothing value,
      Option.bind_eq_none_iff.mpr fun value _ => nothing value]
  rcases fieldAction_cases (source target) with ⟨allowed, -⟩ | ⟨replaced, name⟩ | ⟨hashed, phone⟩ |
    removed | mapped
  · rw [agree.allowed _ allowed]
  · -- The reference does not depend on the name, only on whether there is one.
    have present := agree.customerName
    rw [← name] at present
    have constant : ∀ value other : ν, scrubber.sentUnder letter sha256 externalId target value =
        scrubber.sentUnder letter sha256 externalId target other := by
      simp [sentUnder, written, replaced]
    cases given : first.get? (source target) with
    | none =>
      rw [given, Option.isSome_none, eq_comm, Option.isSome_eq_false_iff,
        Option.isNone_iff_eq_none] at present
      rw [present]
    | some value =>
      rw [given, Option.isSome_some, eq_comm] at present
      obtain ⟨other, found⟩ := Option.isSome_iff_exists.mp present
      rw [found]
      exact constant value other
  · cases setting : scrubber.hashPhone with
    | true => rw [phone, agree.phone setting]
    | false => exact ignored fun value => by simp [sentUnder, written, hashed, setting]
  · exact ignored fun value => by simp [sentUnder, written, removed]
  · exact ignored fun value => by simp [sentUnder, written, mapped]

/-- What the status is sent as when the loop has not written one. -/
def statusText (payload : Dict String ν) : String :=
  match payload.get? "status" with
  | some value => str value
  | none => ""

/-- What the loop leaves under a key. -/
def looped (letter : Char → Bool) (sha256 : String → String) (scrubber : PiiScrubber)
    (externalId : String) (payload : Dict String ν) (target : String) : Option (SentValue ν) :=
  ((payload.get? (source target)).bind (scrubber.sentUnder letter sha256 externalId target)).or
    (if target = "external_id" then some (.text externalId) else none)

variable (letter sha256 scrubber) in
/-- The sent payload, key by key. -/
theorem scrubOrderPayload_spec (payload : Dict String ν) (given : externalId ≠ "") :
    ∃ result, scrubber.scrubOrderPayload letter sha256 payload externalId = .ok result ∧
      ∀ target, result.get? target =
        if target = "status" then
          some ((scrubber.looped letter sha256 externalId payload "status").getD
            (.text (statusText payload)))
        else scrubber.looped letter sha256 externalId payload target := by
  -- The default for the status comes after the loop and concerns no other key.
  refine ⟨_, by rw [scrubOrderPayload, if_neg given], fun target => ?_⟩
  have fold : ∀ key, (payload.entries.foldl (scrubber.scrubField letter sha256 externalId)
      (Dict.empty.set "external_id" (.text externalId))).get? key =
      scrubber.looped letter sha256 externalId payload key := by
    intro key
    rw [get?_foldl_scrubField payload.nodup, Dict.get?_set]
    rfl
  rw [Dict.get?_setDefault, fold target, fold "status"]
  rfl

/-- Calls that raise the same error or return equal dictionaries. -/
def SameOutcome : Except PyError (Dict String (SentValue ν)) →
    Except PyError (Dict String (SentValue ν)) → Prop
  | .ok first, .ok second => ∀ key, first.get? key = second.get? key
  | .error first, .error second => first = second
  | _, _ => False

/-- Payloads that agree in what is meant to be sent are sent as the same. -/
theorem Agree.sameOutcome {first second : Dict String ν} (agree : scrubber.Agree first second)
    (externalId : String) :
    SameOutcome (scrubber.scrubOrderPayload letter sha256 first externalId)
      (scrubber.scrubOrderPayload letter sha256 second externalId) := by
  -- Both outcomes are known key by key, and the keys agree.
  by_cases given : externalId = ""
  · simp [scrubOrderPayload, given, SameOutcome]
  · obtain ⟨firstResult, firstReturned, firstKeys⟩ :=
      scrubOrderPayload_spec letter sha256 scrubber first given
    obtain ⟨secondResult, secondReturned, secondKeys⟩ :=
      scrubOrderPayload_spec letter sha256 scrubber second given
    have sameLoop : ∀ key, scrubber.looped letter sha256 externalId first key =
        scrubber.looped letter sha256 externalId second key := by
      intro key
      rw [looped, looped, agree.contribution key]
    have sameStatus : statusText first = statusText second := by
      rw [statusText, statusText, agree.allowed "status" (by decide)]
    rw [firstReturned, secondReturned]
    intro key
    rw [firstKeys, secondKeys, sameLoop, sameLoop, sameStatus]

/-- Only keys that can leave the core are sent. -/
theorem exported_of_sent {payload : Dict String ν} {result : Dict String (SentValue ν)}
    (returned : scrubber.scrubOrderPayload letter sha256 payload externalId = .ok result)
    {key : String} {value : SentValue ν} (sent : (key, value) ∈ result.entries) : Exported key := by
  by_cases given : externalId = ""
  · simp [scrubOrderPayload, given] at returned
  · obtain ⟨other, otherReturned, keys⟩ :=
      scrubOrderPayload_spec letter sha256 scrubber payload given
    rw [returned, Except.ok.injEq] at otherReturned
    subst otherReturned
    rw [Dict.mem_entries_iff, keys] at sent
    split at sent
    · rename_i status
      exact Or.inr (by simp [status])
    · -- It was there from the start or was written by the loop.
      rw [looped, Option.or_eq_some_iff] at sent
      rcases sent with contributed | ⟨-, initial⟩
      · obtain ⟨original, -, wrote⟩ := Option.bind_eq_some_iff.mp contributed
        unfold sentUnder at wrote
        split at wrote
        · rename_i target inner written
          split at wrote
          · rename_i same
            subst same
            exact (source_of_written written).2
          · cases wrote
        · cases wrote
      · split at initial
        · rename_i same
          exact Or.inr (by simp [same])
        · cases initial

end PiiScrubber

namespace Bitrix24SyncClient

/-- Orders that agree in what the dispatch system is told of them. -/
structure SameForDispatch (first second : Order) : Prop where
  externalId : first.externalId = second.externalId
  status : first.status = second.status
  total : first.totalAmountCents = second.totalAmountCents
  currency : first.currency = second.currency
  branchId : first.branchId = second.branchId
  serviceType : first.serviceType = second.serviceType

variable {letter : Char → Bool} {sha256 : String → String} {scrubber : PiiScrubber}

/-- What a sync has posted, whatever became of it afterwards. -/
theorem posted_syncOrder (reply : Except PyError String) (stamp : Stamp) (order : Order)
    (state : SyncState) :
    (stateAfter (syncOrder letter sha256 scrubber reply stamp order) state).posted =
      match scrubber.scrubOrderPayload letter sha256 (rawPayload order) order.externalId with
      | .ok scrubbed => state.posted ++ [scrubbed]
      | .error _ => state.posted := by
  cases scrubbed : scrubber.scrubOrderPayload letter sha256 (rawPayload order) order.externalId with
  | error error => simp [stateAfter, syncOrder, scrubbed]
  | ok payload =>
    cases reply with
    | error error => simp [stateAfter, syncOrder, scrubbed]
    | ok dealRef => simp [stateAfter, syncOrder, scrubbed]

/-- The internal identifier of an order is never written. -/
theorem scrubField_orderId (externalId : String) (scrubbed : Dict String (SentValue OrderField))
    (value : OrderField) :
    scrubber.scrubField letter sha256 externalId scrubbed ("order_id", value) = scrubbed := by
  have mapped : fieldAction "order_id" = .mapToExternalId := by decide
  simp [PiiScrubber.scrubField, PiiScrubber.written, mapped]

/-- Such orders are scrubbed to one payload. -/
theorem SameForDispatch.scrubbed {first second : Order} (same : SameForDispatch first second) :
    scrubber.scrubOrderPayload letter sha256 (rawPayload first) first.externalId =
      scrubber.scrubOrderPayload letter sha256 (rawPayload second) second.externalId := by
  -- Behind the identifier the two listings are the same.
  have status : (rawPayload first).get? "status" = (rawPayload second).get? "status" := by
    simp [rawPayload, Dict.get?, List.lookup_cons, same.status]
  simp only [PiiScrubber.scrubOrderPayload, status, same.externalId]
  simp only [rawPayload, List.foldl_cons, scrubField_orderId, same.status, same.total, same.currency,
    same.branchId, same.serviceType]

end Bitrix24SyncClient

/--
What is removed has no influence on what leaves the core.

Payloads that agree in the allowed fields, in whether there is a name, and in the number where it is hashed
are sent as equal dictionaries under known keys, and so are orders that agree in what is dispatched.
-/
theorem removed_fields_have_no_influence (letter : Char → Bool) (sha256 : String → String)
    (scrubber : PiiScrubber) :
    (∀ {ν : Type} [PayloadValue ν] {first second : Dict String ν}, scrubber.Agree first second →
      ∀ externalId : String,
        PiiScrubber.SameOutcome (scrubber.scrubOrderPayload letter sha256 first externalId)
          (scrubber.scrubOrderPayload letter sha256 second externalId) ∧
        ∀ result, scrubber.scrubOrderPayload letter sha256 first externalId = .ok result →
          ∀ key value, (key, value) ∈ result.entries → PiiScrubber.Exported key) ∧
    ∀ {first second : Order}, Bitrix24SyncClient.SameForDispatch first second →
      ∀ (reply otherReply : Except PyError String) (stamp otherStamp : Stamp)
        (state other : SyncState), state.posted = other.posted →
        (stateAfter (Bitrix24SyncClient.syncOrder letter sha256 scrubber reply stamp first)
          state).posted =
        (stateAfter (Bitrix24SyncClient.syncOrder letter sha256 scrubber otherReply otherStamp second)
          other).posted := by
  constructor
  · intro ν _ first second agree externalId
    refine ⟨agree.sameOutcome externalId, fun result returned key value sent => ?_⟩
    exact PiiScrubber.exported_of_sent returned sent
  · intro first second same reply otherReply stamp otherStamp state other posted
    rw [Bitrix24SyncClient.posted_syncOrder, Bitrix24SyncClient.posted_syncOrder, same.scrubbed, posted]

/-- An address in the payload, and another customer of the order. -/
theorem removed_fields_example :
    PiiScrubber.SameOutcome
        (PiiScrubber.scrubOrderPayload (fun _ => false) id { hashPhone := true }
          (⟨[("status", .text "paid")], by simp⟩ : Dict String OrderField) "EXT-1")
        (PiiScrubber.scrubOrderPayload (fun _ => false) id { hashPhone := true }
          ⟨[("email", .text "ona@example.lt"), ("status", .text "paid")], by simp⟩ "EXT-1") ∧
      (stateAfter (Bitrix24SyncClient.syncOrder (fun _ => false) id { hashPhone := true } (.ok "D-1")
        Stamp.sample { orderId := "ORD-1", customerId := "C-1", externalId := "EXT-1", createdAt := "" })
        ⟨[], AuditLoggerOf.new⟩).posted =
      (stateAfter (Bitrix24SyncClient.syncOrder (fun _ => false) id { hashPhone := true } (.ok "D-2")
        Stamp.sample { orderId := "ORD-2", customerId := "C-2", externalId := "EXT-1", createdAt := "" })
        ⟨[], AuditLoggerOf.new⟩).posted := by
  obtain ⟨scrubs, syncs⟩ :=
    removed_fields_have_no_influence (fun _ => false) id { hashPhone := true }
  have agree : PiiScrubber.Agree { hashPhone := true }
      (⟨[("status", .text "paid")], by simp⟩ : Dict String OrderField)
      ⟨[("email", .text "ona@example.lt"), ("status", .text "paid")], by simp⟩ := by
    refine ⟨fun key allowed => ?_, rfl, fun _ => rfl⟩
    -- An address is not allowed, so the key is another one.
    have other : (key == "email") = false := by
      rw [beq_eq_false_iff_ne]
      rintro rfl
      exact absurd allowed (by decide)
    simp [Dict.get?, List.lookup_cons, other]
  refine ⟨(scrubs agree "EXT-1").1, syncs ?_ _ _ _ _ _ _ rfl⟩
  exact ⟨rfl, rfl, rfl, rfl, rfl, rfl⟩

end JolCommerce
