import JolCommerce.Audit.ChainVerifier
import JolCommerce.Python.Lines

/-! The audit export: one line of JSON for each entry, and how the verifier command reads it back. -/

namespace JolCommerce

open Python

namespace AuditEntry

/-- The names of the fields, as the constructor takes them. -/
def fieldNames : List String :=
  ["entry_id", "timestamp", "actor", "event_type", "outcome", "transaction_ref", "correlation_id",
    "entity_type", "entity_id", "ip_address", "user_agent", "details", "previous_hash"]

/-- The text given for a field, or its default; an entry holds nothing else there. -/
def textField? (fields : JsonObject) (name default : String) : Option String :=
  match (fields.get? name).map JsonValue.json with
  | none => some default
  | some (.str text) => some text
  | some _ => none

/-- The dictionary given for the details, or an empty one. -/
def detailsField? (fields : JsonObject) : Option JsonObject :=
  match fields.get? "details" with
  | none => some SortedMap.empty
  | some value => value.asObject?

/-- `AuditEntry(**obj)`: unknown names are refused, missing ones have their defaults. -/
def ofFields? (stamp : Stamp) (fields : JsonObject) : Option AuditEntry := do
  if fields.fields.all fun field => field.1 ∈ fieldNames then
    let entryId ← textField? fields "entry_id" stamp.uuid.toStr
    let timestamp ← textField? fields "timestamp" stamp.moment.isoformat
    let actor ← textField? fields "actor" ""
    let eventType ← textField? fields "event_type" ""
    let outcome ← textField? fields "outcome" ""
    let transactionRef ← textField? fields "transaction_ref" ""
    let correlationId ← textField? fields "correlation_id" ""
    let entityType ← textField? fields "entity_type" ""
    let entityId ← textField? fields "entity_id" ""
    let ipAddress ← textField? fields "ip_address" ""
    let userAgent ← textField? fields "user_agent" ""
    let details ← detailsField? fields
    let previousHash ← textField? fields "previous_hash" ""
    return ⟨entryId, timestamp, actor, eventType, outcome, transactionRef, correlationId, entityType,
      entityId, ipAddress, userAgent, details, previousHash⟩
  else none

/-- The dictionary of an entry. -/
def fields (entry : AuditEntry) : JsonObject where
  fields := [("actor", .str entry.actor), ("correlation_id", .str entry.correlationId),
    ("details", .obj entry.details), ("entity_id", .str entry.entityId),
    ("entity_type", .str entry.entityType), ("entry_id", .str entry.entryId),
    ("event_type", .str entry.eventType), ("ip_address", .str entry.ipAddress),
    ("outcome", .str entry.outcome), ("previous_hash", .str entry.previousHash),
    ("timestamp", .str entry.timestamp), ("transaction_ref", .str entry.transactionRef),
    ("user_agent", .str entry.userAgent)]
  sorted := by
    simp only [List.map_cons, List.map_nil]
    decide

/-- An entry is rebuilt from its dictionary. -/
theorem ofFields_fields (stamp : Stamp) (entry : AuditEntry) :
    ofFields? stamp entry.fields = some entry := by
  -- Every field is there under its own name, so no default is used.
  have known : (entry.fields.fields.all fun field => field.1 ∈ fieldNames) = true := by
    simp [fields, fieldNames]
  rw [ofFields?, if_pos known]
  simp [textField?, detailsField?, SortedMap.get?, fields, List.lookup_cons, JsonValue.str]

end AuditEntry

/-- The text that details hold under a name. -/
def detailText? (details : JsonObject) (name : String) : Option String :=
  match (details.get? name).map JsonValue.json with
  | some (.str text) => some text
  | _ => none

/-- The number that details hold under a name. -/
def detailInt? (details : JsonObject) (name : String) : Option Int :=
  match (details.get? name).map JsonValue.json with
  | some (.int value) => some value
  | _ => none

/-- `export_entries_jsonl(entries)`. -/
def exportEntriesJsonl (entries : List AuditEntry) : List Char :=
  List.intercalate ['\n'] (entries.map fun entry => entry.asdict.dumps) ++ ['\n']

/-- `AuditEntry(**json.loads(line))`. -/
def readLine? (stamp : Stamp) (line : List Char) : Option AuditEntry := do
  let value ← loads line
  let fields ← value.asObject?
  AuditEntry.ofFields? stamp fields

/-- The entries of an export, read as `_audit_verify` reads them: blank lines are skipped. -/
def readExport? (stamps : Nat → Stamp) (text : List Char) : Option (List AuditEntry) :=
  ((splitlines text).filter fun line => strip line ≠ []).zipIdx.mapM fun (line, index) =>
    readLine? (stamps index) line

/-- What `_audit_verify` prints about a report, and its exit code. -/
def verifyOutput (report : ChainVerificationReport) : String × Nat :=
  let verified := String.ofList (natText report.verifiedCount)
  if report.isIntact then ("audit chain intact — " ++ verified ++ " entries verified\n", 0)
  else ("TAMPERING DETECTED at entry index " ++ String.ofList (intText report.firstBrokenIndex) ++ " " ++
    "(id=" ++ report.firstBrokenEntryId ++ "): " ++ report.reason ++ "; " ++
    verified ++ " entries verified before the break\n", 2)

/-- `_audit_verify` on the text of an export. -/
def auditVerify (sha256 : String → String) (stamps : Nat → Stamp) (text : List Char)
    (headHash : String) : Option (String × Nat) :=
  (readExport? stamps text).map fun entries => verifyOutput (verifyChain sha256 entries headHash)

/-- A written entry is read back. -/
theorem readLine_dumps (stamp : Stamp) (entry : AuditEntry) :
    readLine? stamp entry.asdict.dumps = some entry := by
  have read : loads entry.asdict.dumps = some (.obj entry.fields) := loads_dumps (.obj entry.fields)
  simp [readLine?, read, AuditEntry.ofFields_fields]

/-- Lines joined by newlines, with another one behind the last. -/
theorem intercalate_newline {lines : List (List Char)} (some : lines ≠ []) :
    List.intercalate ['\n'] lines ++ ['\n'] = lines.flatMap fun line => line ++ ['\n'] := by
  -- A separator after each line but the last, and one more at the end.
  induction lines with
  | nil => exact absurd rfl some
  | cons line rest ih =>
    cases rest with
    | nil => simp
    | cons second rest =>
      rw [List.intercalate_cons_of_ne_nil (by simp), List.flatMap_cons, ← ih (by simp)]
      simp

/-- No written entry is blank: it begins with a brace. -/
theorem strip_dumps_ne_nil (entry : AuditEntry) : strip entry.asdict.dumps ≠ [] := by
  have brace : '\x7b' ∈ entry.asdict.dumps := by simp [AuditEntry.asdict, Json.dumps]
  exact List.ne_nil_of_mem ((mem_strip (by decide)).mpr brace)

/-- The lines of an export are the written entries, if there are any. -/
theorem splitlines_export (entries : List AuditEntry) :
    (splitlines (exportEntriesJsonl entries)).filter (fun line => strip line ≠ []) =
      entries.map fun entry => entry.asdict.dumps := by
  -- An export of no entries is one blank line.
  by_cases none : entries = []
  · subst none
    rfl
  · have some : (entries.map fun entry => entry.asdict.dumps) ≠ [] := by simpa using none
    have unbroken : ∀ line ∈ entries.map fun entry => entry.asdict.dumps,
        ∀ char ∈ line, isLineBreak char = false := by
      intro line member
      obtain ⟨entry, _, rfl⟩ := List.mem_map.mp member
      exact (printable_dumps entry.asdict).unbroken
    rw [exportEntriesJsonl, intercalate_newline some, splitlines_lines unbroken, List.filter_eq_self]
    intro line member
    obtain ⟨entry, _, rfl⟩ := List.mem_map.mp member
    simpa using strip_dumps_ne_nil entry

/-- Written entries are read back one by one. -/
theorem mapM_readLine (stamps : Nat → Stamp) (entries : List AuditEntry) (start : Nat) :
    ((entries.map fun entry => entry.asdict.dumps).zipIdx start).mapM
      (fun (line, index) => readLine? (stamps index) line) = some entries := by
  -- Whatever the position of the line, since no default is drawn.
  induction entries generalizing start with
  | nil => rfl
  | cons entry rest ih =>
    simp [List.zipIdx_cons, readLine_dumps, ih]

/-- An export is read back as the entries it was made of. -/
theorem readExport_export (stamps : Nat → Stamp) (entries : List AuditEntry) :
    readExport? stamps (exportEntriesJsonl entries) = some entries := by
  rw [readExport?, splitlines_export]
  exact mapM_readLine stamps entries 0

/--
An export is read back as the entries it was made of, so the command reports on it what the verifier
reports on them, under every checkpoint.

An entry is written in printable ASCII, so no line ends inside it.
-/
theorem export_round_trip (sha256 : String → String) (stamps : Nat → Stamp)
    (entries : List AuditEntry) :
    readExport? stamps (exportEntriesJsonl entries) = some entries ∧
      ∀ headHash,
        (readExport? stamps (exportEntriesJsonl entries)).map (verifyChain sha256 · headHash) =
          some (verifyChain sha256 entries headHash) ∧
        auditVerify sha256 stamps (exportEntriesJsonl entries) headHash =
          some (verifyOutput (verifyChain sha256 entries headHash)) := by
  -- The lines of the file are the texts of the entries, and each reads back alone.
  have read : readExport? stamps (exportEntriesJsonl entries) = some entries := by
    rw [readExport?, splitlines_export]
    exact mapM_readLine stamps entries 0
  refine ⟨read, fun headHash => ⟨?_, ?_⟩⟩
  · rw [read, Option.map_some]
  · rw [auditVerify, read, Option.map_some]

end JolCommerce
