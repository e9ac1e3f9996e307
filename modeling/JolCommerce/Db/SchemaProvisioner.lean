import Mathlib.Data.List.Sort
import JolCommerce.Python.Dict
import JolCommerce.Tenancy.Tenant

/-! The tenant schema provisioner: statements that an injected executor may refuse, one at a time. -/

namespace JolCommerce

open Python

/-- What a call of the provisioner raises. -/
inductive ProvisionerError where
  /-- `ProvisioningError` with its message. -/
  | provisioning (message : String)
  /-- What reading the tenant's schema name raised. -/
  | tenant (error : PyError)
  /-- What the injected loader raised. -/
  | loader (message : String)

/-- One ordered schema change with an explicit rollback artifact. -/
structure Revision where
  revisionId : String
  upSql : String
  downSql : String := ""
  deriving DecidableEq

/-- `_statements(sql)`. -/
def statements (sql : String) : List String :=
  (((sql.toList.splitOn ';').map strip).filter (· ≠ [])).map String.ofList

/-- A statement as the provisioner issues it. -/
inductive Statement where
  | createSchema (schema : String)
  | template (text : String)
  | createMeta (schema : String)
  /-- The statement of a revision's up artifact at a position. -/
  | up (revision : Revision) (position : Nat) (text : String)
  | insertMeta (schema revisionId : String)
  | down (text : String)
  | deleteMeta (schema revisionId : String)
  deriving DecidableEq

/-- The text that the executor receives. -/
def Statement.text : Statement → String
  | .createSchema schema => "CREATE SCHEMA IF NOT EXISTS " ++ schema
  | .template text => text
  | .createMeta schema => "CREATE TABLE IF NOT EXISTS " ++ schema ++ ".jol_schema_meta (" ++
    "revision TEXT PRIMARY KEY, applied_at TIMESTAMPTZ NOT NULL DEFAULT now())"
  | .up _ _ text => text
  | .insertMeta schema revisionId => "INSERT INTO " ++ schema ++ ".jol_schema_meta (revision) " ++
    "VALUES ('" ++ revisionId ++ "')"
  | .down text => text
  | .deleteMeta schema revisionId => "DELETE FROM " ++ schema ++ ".jol_schema_meta " ++
    "WHERE revision = '" ++ revisionId ++ "'"

/-- The statements of a revision's up artifact. -/
def Revision.ups (revision : Revision) : List Statement :=
  (statements revision.upSql).zipIdx.map fun (text, position) => .up revision position text

/-- The statements of a revision's down artifact. -/
def Revision.downs (revision : Revision) : List Statement :=
  (statements revision.downSql).map .down

/-- The revision id under which the template is recorded. -/
def templateId : String := "000_template"

/-- A statement that was handed to the executor, and whether it was carried out. -/
structure Execution where
  activeSchema : String
  statement : Statement
  succeeded : Bool
  deriving DecidableEq

/-- The fields of the provisioner that its calls never change. -/
structure SchemaProvisioner (δ : Type) where
  templateSql : String
  /-- The executor, which sees the active schema and raises with a message. -/
  executor : String → String → EStateM String δ Unit
  revisions : List Revision
  loadApplied : Option (δ → String → Except String (List String)) := none

/-- The fields that change, the database behind the executor, and all executions so far. -/
structure ProvisionerState (δ : Type) where
  activeSchema : String
  applied : Dict String (List String)
  database : δ
  executions : List Execution

namespace ProvisionerState

variable {δ : Type}

/-- The state of a provisioner just constructed over a database. -/
def new (database : δ) : ProvisionerState δ := ⟨"", Dict.empty, database, []⟩

/-- `self._applied.get(schema, [])`. -/
def recorded (state : ProvisionerState δ) (schema : String) : List String :=
  (state.applied.get? schema).getD []

/-- The state after the executor was handed a statement. -/
def executed (state : ProvisionerState δ) (statement : Statement) (succeeded : Bool)
    (database : δ) : ProvisionerState δ :=
  { state with
    database
    executions := state.executions ++ [⟨state.activeSchema, statement, succeeded⟩] }

/-- `self._applied.setdefault(schema, []).append(revision_id)`. -/
def noted (state : ProvisionerState δ) (schema revisionId : String) : ProvisionerState δ :=
  { state with applied := state.applied.set schema (state.recorded schema ++ [revisionId]) }

/-- `recorded.remove(revision_id)`, where the schema has a list that holds it. -/
def erased (state : ProvisionerState δ) (schema revisionId : String) : ProvisionerState δ :=
  match state.applied.get? schema with
  | some revisions => { state with applied := state.applied.set schema (revisions.erase revisionId) }
  | none => state

end ProvisionerState

/-- Lowercase hexadecimal digits. -/
def isLowerHex (char : Char) : Bool := ('0' ≤ char ∧ char ≤ '9') ∨ ('a' ≤ char ∧ char ≤ 'f')

/-- `_SCHEMA_NAME_RE.fullmatch`: `tenant_` and thirty-two lowercase hexadecimal digits. -/
def isSchemaName (schema : String) : Bool :=
  "tenant_".toList.isPrefixOf schema.toList && (schema.toList.drop 7).length == 32 &&
    (schema.toList.drop 7).all isLowerHex

/-- `repr` of a text that needs no escapes. -/
def quoted (text : String) : String := "'" ++ text ++ "'"

namespace SchemaProvisioner

variable {δ : Type}

/-- Code that may raise and leaves its effects on the provisioner and the database behind. -/
abbrev ProvisionerM (δ : Type) := EStateM ProvisionerError (ProvisionerState δ)

/-- `_validated_schema(tenant)`. -/
def validatedSchema (tenant : Tenant) : ProvisionerM δ String :=
  match tenant.schemaName with
  | .error error => throw (.tenant error)
  | .ok schema =>
    if isSchemaName schema then pure schema
    else throw (.provisioning ("Refusing to provision unsafe schema name: " ++ quoted schema))

/-- `self.active_schema = schema`. -/
def activate (schema : String) : ProvisionerM δ Unit :=
  modify fun state => { state with activeSchema := schema }

variable (provisioner : SchemaProvisioner δ)

/-- `_execute(statement)`. -/
def execute (statement : Statement) : ProvisionerM δ Unit := do
  let state ← get
  match (provisioner.executor state.activeSchema statement.text).run state.database with
  | .ok _ database => set (state.executed statement true database)
  | .error message database =>
    set (state.executed statement false database)
    throw (.provisioning ("Provisioning failed: " ++ message))

/-- `_applied_revisions(schema)`. -/
def appliedRevisions (schema : String) : ProvisionerM δ (List String) := do
  let state ← get
  match provisioner.loadApplied with
  | none => return state.recorded schema
  | some load =>
    match load state.database schema with
    | .ok applied => return applied
    | .error message => throw (.loader message)

/-- The revisions that a list of applied ones leaves pending. -/
def missing (applied : List String) : List Revision :=
  provisioner.revisions.filter fun revision => revision.revisionId ∉ applied

/-- `_pending(schema)`. -/
def pending (schema : String) : ProvisionerM δ (List Revision) := do
  let applied ← provisioner.appliedRevisions schema
  return provisioner.missing applied

/-- `_record(schema, revision_id)`: in memory first, then in the schema's own table. -/
def record (schema revisionId : String) : ProvisionerM δ Unit := do
  modify fun state => state.noted schema revisionId
  if revisionId = templateId then pure ()
  else provisioner.execute (.insertMeta schema revisionId)

/-- `create_tenant_schema(tenant)`. -/
def createTenantSchema (tenant : Tenant) : ProvisionerM δ String := do
  let schema ← validatedSchema tenant
  if provisioner.templateSql = "" then throw (.provisioning "No DDL template configured")
  else
    activate schema
    provisioner.execute (.createSchema schema)
    ((statements provisioner.templateSql).map Statement.template).forM provisioner.execute
    provisioner.record schema templateId
    return schema

/-- One pending revision, and the number of applications with it. -/
def applyRevision (schema : String) (appliedCount : Nat) (revision : Revision) :
    ProvisionerM δ Nat := do
  revision.ups.forM provisioner.execute
  provisioner.record schema revision.revisionId
  return appliedCount + 1

/-- One tenant of `migrate_all`. -/
def migrateTenant (appliedCount : Nat) (tenant : Tenant) : ProvisionerM δ Nat := do
  let schema ← validatedSchema tenant
  let pending ← provisioner.pending schema
  if pending = [] then return appliedCount
  else
    activate schema
    provisioner.execute (.createMeta schema)
    pending.foldlM (provisioner.applyRevision schema) appliedCount

/-- `migrate_all(tenants)`: the number of revision applications. -/
def migrateAll (tenants : List Tenant) : ProvisionerM δ Nat :=
  tenants.foldlM provisioner.migrateTenant 0

/-- `by_id.get(revision_id)`: of several revisions with an id the last one counts. -/
def byId? (revisionId : String) : Option Revision :=
  (provisioner.revisions.filter fun revision => revision.revisionId = revisionId).getLast?

/-- One revision of a rollback, and the number undone with it. -/
def undoRevision (schema : String) (undone : Nat) (revisionId : String) : ProvisionerM δ Nat :=
  match (provisioner.byId? revisionId).filter fun revision => revision.downSql ≠ "" with
  | none => throw (.provisioning ("No down artifact for revision " ++ quoted revisionId ++
      "; refusing to roll back without an explicit rollback"))
  | some revision => do
    revision.downs.forM provisioner.execute
    provisioner.execute (.deleteMeta schema revisionId)
    modify fun state => state.erased schema revisionId
    return undone + 1

/-- `downgrade(tenant, target_revision)`: the number of revisions undone, newest first. -/
def downgrade (tenant : Tenant) (targetRevision : String) : ProvisionerM δ Nat := do
  let schema ← validatedSchema tenant
  let applied ← provisioner.appliedRevisions schema
  if targetRevision ∉ applied ++ [""] then
    throw (.provisioning ("Target revision " ++ quoted targetRevision ++ " is not applied to " ++
      schema))
  else
    activate schema
    (applied.reverse.filter fun revisionId => targetRevision < revisionId).foldlM
      (provisioner.undoRevision schema) 0

/-- The calls that change tenant schemas. -/
inductive Call where
  | createTenantSchema (tenant : Tenant)
  | migrateAll (tenants : List Tenant)
  | downgrade (tenant : Tenant) (targetRevision : String)

/-- The provisioner and the database after a call, whether it returned or raised. -/
def perform (state : ProvisionerState δ) : Call → ProvisionerState δ
  | .createTenantSchema tenant => stateAfter (provisioner.createTenantSchema tenant) state
  | .migrateAll tenants => stateAfter (provisioner.migrateAll tenants) state
  | .downgrade tenant targetRevision =>
    stateAfter (provisioner.downgrade tenant targetRevision) state

/-- The part of a file name before a suffix, where it ends in it. -/
def stem? (suffix name : String) : Option String :=
  if suffix.toList.isSuffixOf name.toList then
    some (String.ofList (name.toList.take (name.toList.length - suffix.toList.length)))
  else none

/-- The files of a directory that end in a suffix, by stem. -/
def artifacts (suffix : String) (directory : Dict String String) : List (String × String) :=
  directory.entries.filterMap fun file => (stem? suffix file.1).map fun stem => (stem, file.2)

/-- `from_artifacts_dir(artifacts_dir, executor)` on the names and texts of a directory's files. -/
def fromArtifactsDir (directory : Dict String String)
    (executor : String → String → EStateM String δ Unit) : SchemaProvisioner δ where
  templateSql := ""
  executor := executor
  revisions := ((artifacts ".up.sql" directory).insertionSort fun left right => left.1 ≤ right.1).map
    fun (stem, text) => ⟨stem, text, ((artifacts ".down.sql" directory).lookup stem).getD ""⟩

end SchemaProvisioner

end JolCommerce
