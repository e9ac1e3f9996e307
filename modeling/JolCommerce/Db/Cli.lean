import JolCommerce.Audit.Export
import JolCommerce.Catalog.Catalog

/-! The command line tool: each command in a process of its own, over one database. -/

namespace JolCommerce

open Python

/-- The arguments that name the tenant of `create` and `downgrade`. -/
structure TenantArgs where
  tenantId : String
  slug : String
  name : String
  vertical : String

/-- A command with its parsed arguments, and what `uuid4` draws for it. -/
inductive CliCommand where
  | tenantCreate (args : TenantCreateArgs) (uuid : Uuid)
  | migrate
  | create (args : TenantArgs)
  | downgrade (args : TenantArgs) (target : String)
  /-- The text of the export is read from a file. -/
  | auditVerify (dump : List Char) (headHash : String)

/-- An exception that `main` does not catch. -/
inductive CliError where
  | uncaught (error : OnboardingError)
  /-- A line of the export that is no audit entry. -/
  | unreadable

/-- What the tool finds in its environment. -/
structure Cli (δ : Type) where
  /-- `JOL_DATABASE_URL`. -/
  databaseUrl : String
  /-- Executes one statement with `search_path` pinned to a schema; the statement comes first. -/
  execute : String → String → EStateM String δ Unit
  /-- The names and texts of the files in the artifacts directory. -/
  artifacts : Dict String String
  /-- `repr` of a text. -/
  repr : String → String
  sha256 : String → String
  stamps : Nat → Stamp

namespace Cli

variable {δ : Type} (cli : Cli δ)

/-- The schema that a statement is executed in: creating a schema runs unscoped. -/
def searchPath (activeSchema statement : String) : String :=
  if "CREATE SCHEMA".toList.isPrefixOf statement.toList then "public" else activeSchema

/-- `scoped(statement)`, which reads the active schema of the provisioner. -/
def scopedExecute (activeSchema statement : String) : EStateM String δ Unit :=
  cli.execute statement (searchPath activeSchema statement)

/-- The template, or nothing where the file does not exist. -/
def template : String := (cli.artifacts.get? "002_tenant_schema_template.sql").getD ""

/-- The provisioner that `_provisioner()` builds. -/
def provisioner : SchemaProvisioner δ where
  templateSql := cli.template
  executor := cli.scopedExecute
  revisions := (SchemaProvisioner.fromArtifactsDir cli.artifacts cli.scopedExecute).revisions

/-- Raise a `ProvisioningError`. -/
def refuse {α : Type} (message : String) : EStateM OnboardingError (ProvisionerState δ) α :=
  throw (.provisioner (.provisioning message))

/-- The check of `_build_executor()`. -/
def requireDatabase : EStateM OnboardingError (ProvisionerState δ) Unit :=
  if cli.databaseUrl = "" then refuse "JOL_DATABASE_URL is not set — refusing to provision"
  else pure ()

/-- `TenantVertical(value)`. -/
def readVertical (value : String) : EStateM OnboardingError (ProvisionerState δ) TenantVertical :=
  match TenantVertical.parse? value with
  | some vertical => pure vertical
  | none =>
    throw (.provisioner (.tenant (.valueError (cli.repr value ++ " is not a valid TenantVertical"))))

/-- The tenant that is named by arguments. -/
def namedTenant (args : TenantArgs) : EStateM OnboardingError (ProvisionerState δ) Tenant := do
  let vertical ← cli.readVertical args.vertical
  return ⟨args.tenantId, args.slug, args.name, vertical, "0.10", "", true⟩

/-- `seed_default_catalog(CatalogRepository(vertical), tenant_id)`: the catalog is not kept. -/
def seedCatalog (vertical : TenantVertical) (tenantId : String) :
    EStateM OnboardingError (ProvisionerState δ) Nat :=
  match (seedDefaultCatalog tenantId "EUR").run (CatalogRepository.new vertical) with
  | .ok seeded _ => pure seeded
  | .error error _ => throw (.provisioner (.tenant error))

/-- The line that is printed for a tenant that was onboarded. -/
def onboardedLine (uuid : Uuid) (schema : String) (seeded : Nat) : String :=
  "created tenant " ++ uuid.toStr ++ " (" ++ schema ++ ") — registry row, DDL template, " ++
    String.ofList (natText seeded) ++ " starter catalog items\n"

/-- `_tenant_create(args)` with the line that it prints. -/
def onboard (args : TenantCreateArgs) (uuid : Uuid) :
    EStateM OnboardingError (ProvisionerState δ) String := do
  let schema ← tenantCreate cli.repr cli.databaseUrl cli.execute cli.provisioner args uuid
  let vertical ← cli.readVertical args.vertical
  let seeded ← seedCatalog vertical uuid.toStr
  return onboardedLine uuid schema seeded

/-- The command `create`. -/
def createSchema (args : TenantArgs) : EStateM OnboardingError (ProvisionerState δ) String := do
  cli.requireDatabase
  let tenant ← cli.namedTenant args
  let schema ← (cli.provisioner.createTenantSchema tenant).adaptExcept .provisioner
  return "created " ++ schema ++ "\n"

/-- `tenant.schema_name`. -/
def schemaNameOf (tenant : Tenant) : EStateM OnboardingError (ProvisionerState δ) String :=
  match tenant.schemaName with
  | .ok schema => pure schema
  | .error error => throw (.provisioner (.tenant error))

/-- The line that is printed for a rollback. -/
def rolledBackLine (undone : Nat) (schema : String) : String :=
  "rolled back " ++ String.ofList (natText undone) ++ " revision(s) for " ++ schema ++ "\n"

/-- The command `downgrade`. -/
def rollBack (args : TenantArgs) (target : String) :
    EStateM OnboardingError (ProvisionerState δ) String := do
  cli.requireDatabase
  let tenant ← cli.namedTenant args
  let undone ← (cli.provisioner.downgrade tenant target).adaptExcept .provisioner
  let schema ← schemaNameOf tenant
  return rolledBackLine undone schema

/-- What a command of the provisioning tool does, and the line that it prints. -/
def provisioned : CliCommand → EStateM OnboardingError (ProvisionerState δ) String
  | .tenantCreate args uuid => cli.onboard args uuid
  | .migrate => do
    cli.requireDatabase
    return "migrate: tenant discovery requires the public registry; " ++
      "wire to public.tenants before first production use\n"
  | .create args => cli.createSchema args
  | .downgrade args target => cli.rollBack args target
  | .auditVerify _ _ => return ""

/-- `except ProvisioningError`: what is printed, the exit code, and the database left behind. -/
def reported (result : EStateM.Result OnboardingError (ProvisionerState δ) String) :
    EStateM.Result CliError δ (String × Nat) :=
  match result with
  | .ok line state => .ok (line, 0) state.database
  | .error (.provisioner (.provisioning message)) state =>
    .ok ("provisioning error: " ++ message ++ "\n", 1) state.database
  | .error error state => .error (.uncaught error) state.database

/-- `_audit_verify(args)` on the text of the export, which raises where that is no export. -/
def verifyAudit (dump : List Char) (headHash : String) : EStateM CliError δ (String × Nat) :=
  match auditVerify cli.sha256 cli.stamps dump headHash with
  | some result => pure result
  | none => throw .unreadable

/-- `main(argv)`: the memory of the provisioner begins and ends with the command. -/
def main : CliCommand → EStateM CliError δ (String × Nat)
  | .auditVerify dump headHash => cli.verifyAudit dump headHash
  | command => fun database =>
    reported ((cli.provisioned command).run (ProvisionerState.new database))

end Cli

end JolCommerce
