import JolCommerce.Common
import JolCommerce.Python.JsonLaws

/-! The audit logger: hash-chained entries whose details dictionary is kept as it was passed. -/

namespace JolCommerce

open Python

/-- An audit entry whose details are held as `δ`: a dictionary, or a reference to one. -/
structure AuditEntryOf (δ : Type) where
  entryId : String
  timestamp : String
  actor : String
  eventType : String
  outcome : String
  transactionRef : String
  correlationId : String
  entityType : String
  entityId : String
  ipAddress : String
  userAgent : String
  details : δ
  previousHash : String

/-- An entry together with the contents of its details dictionary. -/
abbrev AuditEntry := AuditEntryOf JsonObject

/-- The same entry with its details read. -/
def AuditEntryOf.read {δ ε : Type} (lookup : δ → ε) (entry : AuditEntryOf δ) : AuditEntryOf ε :=
  { entry with details := lookup entry.details }

namespace AuditEntry

/-- `asdict(entry)` with its keys in the order of `sort_keys`. -/
def asdict (entry : AuditEntry) : Json :=
  -- The thirteen fields of the dataclass.
  .obj [("actor", .str entry.actor), ("correlation_id", .str entry.correlationId),
    ("details", entry.details.toJson), ("entity_id", .str entry.entityId),
    ("entity_type", .str entry.entityType), ("entry_id", .str entry.entryId),
    ("event_type", .str entry.eventType), ("ip_address", .str entry.ipAddress),
    ("outcome", .str entry.outcome), ("previous_hash", .str entry.previousHash),
    ("timestamp", .str entry.timestamp), ("transaction_ref", .str entry.transactionRef),
    ("user_agent", .str entry.userAgent)]

/-- `compute_hash`: the digest of the serialised entry. -/
def computeHash (sha256 : String → String) (entry : AuditEntry) : String :=
  sha256 (String.ofList entry.asdict.dumps)

/-- Different entries have different dictionaries. -/
theorem asdict_injective : Function.Injective asdict := by
  -- Every field of an entry stands in its dictionary.
  rintro ⟨⟩ ⟨⟩ same
  simp only [asdict, Json.obj.injEq, List.cons.injEq, Prod.mk.injEq, Json.str.injEq, true_and,
    and_true] at same
  obtain ⟨rfl, rfl, details, rfl, rfl, rfl, rfl, rfl, rfl, rfl, rfl, rfl, rfl⟩ := same
  rw [JsonObject.toJson_injective details]

/-- Serialisation loses nothing, so entries collide only where the digest does. -/
theorem computeHash_injective {sha256 : String → String} (injective : Function.Injective sha256) :
    Function.Injective (computeHash sha256) := by
  -- Digest, text, document and entry determine each other, in this order.
  intro left right same
  exact asdict_injective (dumps_injective (String.ofList_injective (injective same)))

end AuditEntry

/-- The arguments of one `log` call. -/
structure LogCall (δ : Type) where
  actor : String
  eventType : String
  outcome : String
  transactionRef : String := ""
  correlationId : String := ""
  details : Option δ := none

/-- The logger's append-only list and the hash recorded last. -/
structure AuditLoggerOf (δ : Type) where
  entries : List (AuditEntryOf δ)
  lastHash : String

/-- A logger whose details nobody writes to after the call. -/
abbrev AuditLogger := AuditLoggerOf JsonObject

namespace AuditLoggerOf

variable {δ : Type}

/-- A fresh logger. -/
def new : AuditLoggerOf δ := ⟨[], ""⟩

/-- The entry a call creates, with the details it stores. -/
def entryFor (logger : AuditLoggerOf δ) (stamp : Stamp) (call : LogCall δ) (details : δ) :
    AuditEntryOf δ where
  entryId := stamp.uuid.toStr
  timestamp := stamp.moment.isoformat
  actor := call.actor
  eventType := call.eventType
  outcome := call.outcome
  transactionRef := call.transactionRef
  correlationId := call.correlationId
  entityType := ""
  entityId := ""
  ipAddress := ""
  userAgent := ""
  details := details
  previousHash := logger.lastHash

/-- Append an entry and record the hash of what its details hold now. -/
def append (sha256 : String → String) (lookup : δ → JsonObject) (logger : AuditLoggerOf δ)
    (entry : AuditEntryOf δ) : AuditLoggerOf δ where
  entries := logger.entries ++ [entry]
  lastHash := AuditEntry.computeHash sha256 (entry.read lookup)

end AuditLoggerOf

namespace AuditLogger

/-- `AuditLogger.log` where the details are a dictionary literal nobody keeps. -/
def log (sha256 : String → String) (logger : AuditLogger) (stamp : Stamp)
    (call : LogCall JsonObject) : AuditLogger :=
  -- `details or {}`: an empty dictionary is replaced by another empty one.
  logger.append sha256 id (logger.entryFor stamp call (call.details.getD SortedMap.empty))

/-- What the entries tell of is added to by what the new one tells of. -/
theorem filterMap_log {α : Type} (tell : AuditEntry → Option α) (sha256 : String → String)
    (logger : AuditLogger) (stamp : Stamp) (call : LogCall JsonObject) :
    (logger.log sha256 stamp call).entries.filterMap tell = logger.entries.filterMap tell ++
      (tell (logger.entryFor stamp call (call.details.getD SortedMap.empty))).toList := by
  rw [log, AuditLoggerOf.append, List.filterMap_append]
  congr 1

/-- One call after another, each with what the clock and the UUID generator gave it. -/
def run (sha256 : String → String) (logger : AuditLogger)
    (calls : List (Stamp × LogCall JsonObject)) : AuditLogger :=
  calls.foldl (fun logger call => logger.log sha256 call.1 call.2) logger

/-- The loop of `verify_chain_integrity`, from the hash expected next. -/
def linksFrom (sha256 : String → String) (previousHash : String) : List AuditEntry → Bool
  | [] => true
  | entry :: rest =>
    if entry.previousHash ≠ previousHash then false
    else linksFrom sha256 (entry.computeHash sha256) rest

/-- `verify_chain_integrity()` over what the entries hold now. -/
def verifyChainIntegrity (sha256 : String → String) (entries : List AuditEntry) : Bool :=
  linksFrom sha256 "" entries

end AuditLogger

end JolCommerce
