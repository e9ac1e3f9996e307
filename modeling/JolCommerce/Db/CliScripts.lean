import JolCommerce.Catalog.Governance
import JolCommerce.Db.Cli
import JolCommerce.Db.Rollback
import JolCommerce.Python.UuidLaws

/-! Every command of the tool executes a fixed script of statements, up to the first that fails. -/

namespace JolCommerce

open Python

/-- The schema of a tenant whose id was drawn as a UUID. -/
theorem schemaName_toStr {tenant : Tenant} {uuid : Uuid} (drawn : tenant.tenantId = uuid.toStr) :
    tenant.schemaName = .ok ("tenant_" ++ uuid.hex) := by
  rw [Tenant.schemaName, drawn, Uuid.parse_toStr]

namespace Cli

variable {δ : Type} (cli : Cli δ)

/-- Statements, each in its schema, are executed up to the first that fails. -/
def runScript (script : List (String × String)) : EStateM String δ Unit :=
  script.forM fun (path, statement) => cli.execute statement path

/-- The statements that create a schema and apply the template. -/
def schemaScript (schema : String) : List (String × String) :=
  (("CREATE SCHEMA IF NOT EXISTS " ++ schema) :: statements cli.template).map fun statement =>
    (searchPath schema statement, statement)

/-- The statements of a schema, where there is a template. -/
def createScript (schema : String) : List (String × String) :=
  if cli.template = "" then [] else cli.schemaScript schema

/-- What a command executes: nothing where it is refused beforehand. -/
def script : CliCommand → List (String × String)
  | .tenantCreate args uuid =>
    match isSlug args.slug, TenantVertical.parse? args.vertical with
    | true, some vertical =>
      if cli.databaseUrl = "" then []
      -- The registry row comes before it is known whether there is a template.
      else ("public", registryRow uuid.toStr args vertical) ::
        cli.createScript ("tenant_" ++ uuid.hex)
    | _, _ => []
  | .create args =>
    match TenantVertical.parse? args.vertical, Uuid.parse? args.tenantId with
    | some _, some uuid =>
      if cli.databaseUrl = "" then [] else cli.createScript ("tenant_" ++ uuid.hex)
    | _, _ => []
  | .migrate => []
  | .downgrade _ _ => []
  | .auditVerify _ _ => []

variable {cli} {ε α : Type}

/-- A script that begins with a statement goes on where the statement was carried out. -/
theorem runScript_cons (path statement : String) (rest : List (String × String)) :
    cli.runScript ((path, statement) :: rest) =
      (cli.execute statement path >>= fun _ => cli.runScript rest) := rfl

/-- Code leaves the database that a script leaves, and returns exactly where the script ends well. -/
def CarriesOut (script : List (String × String)) (database : δ) (value : α)
    (result : EStateM.Result ε (ProvisionerState δ) α) : Prop :=
  match (cli.runScript script).run database with
  | .ok _ database => ∃ after, result = .ok value after ∧ after.database = database
  | .error _ database => ∃ error after, result = .error error after ∧ after.database = database

/-- Code that goes on without the database, and returns, carries out the same script. -/
theorem CarriesOut.bind {β : Type} {script : List (String × String)} {state : ProvisionerState δ}
    {first : EStateM ε (ProvisionerState δ) α} {next : α → EStateM ε (ProvisionerState δ) β}
    {value : α} {result : β} (carried : cli.CarriesOut script state.database value (first.run state))
    (returns : ∀ middle, ∃ after, (next value).run middle = .ok result after ∧
      after.database = middle.database) :
    cli.CarriesOut script state.database result ((first >>= next).run state) := by
  unfold CarriesOut at carried ⊢
  rw [EStateM.run_bind]
  split at carried
  · obtain ⟨middle, ran, same⟩ := carried
    obtain ⟨after, ended, kept⟩ := returns middle
    rw [ran]
    exact ⟨after, ended, kept.trans same⟩
  · obtain ⟨error, middle, raised, same⟩ := carried
    rw [raised]
    exact ⟨error, middle, rfl, same⟩

/-- So does code whose exceptions are wrapped. -/
theorem CarriesOut.adaptExcept {ε' : Type} {script : List (String × String)}
    {state : ProvisionerState δ} {code : EStateM ε (ProvisionerState δ) α} {value : α}
    (carried : cli.CarriesOut script state.database value (code.run state)) (wrap : ε → ε') :
    cli.CarriesOut script state.database value ((code.adaptExcept wrap).run state) := by
  unfold CarriesOut at carried ⊢
  simp only [EStateM.adaptExcept, EStateM.run] at carried ⊢
  split at carried
  · obtain ⟨after, ran, same⟩ := carried
    rw [ran]
    exact ⟨after, rfl, same⟩
  · obtain ⟨error, after, raised, same⟩ := carried
    rw [raised]
    exact ⟨wrap error, after, rfl, same⟩

/-- Statements that are issued while a schema is active are executed in the order of the list. -/
theorem carriesOut_forM (issued : List Statement) {schema : String} {state : ProvisionerState δ}
    (active : state.activeSchema = schema) :
    cli.CarriesOut (issued.map fun statement => (searchPath schema statement.text, statement.text))
      state.database () ((issued.forM cli.provisioner.execute).run state) := by
  -- Each statement is judged by the database that those before it left.
  induction issued generalizing state with
  | nil => exact ⟨state, rfl, rfl⟩
  | cons statement rest ih =>
    have loop : (statement :: rest).forM cli.provisioner.execute =
        (cli.provisioner.execute statement >>= fun _ => rest.forM cli.provisioner.execute) := rfl
    rw [CarriesOut, List.map_cons, runScript_cons, EStateM.run_bind, loop, EStateM.run_bind]
    have asked : cli.provisioner.executor state.activeSchema statement.text =
        cli.execute statement.text (searchPath schema statement.text) := by
      rw [active]
      rfl
    cases ran : (cli.execute statement.text (searchPath schema statement.text)).run
        state.database with
    | ok _ database =>
      rw [← asked] at ran
      rw [SchemaProvisioner.run_execute_accepted ran]
      exact @ih (state.executed statement true database) active
    | error message database =>
      rw [← asked] at ran
      obtain ⟨reason, raised⟩ := SchemaProvisioner.run_execute_refused ⟨message, ran⟩
      rw [raised]
      exact ⟨_, _, rfl, rfl⟩

variable (cli) in
/-- The statements of a creation, in the order in which they are issued. -/
def creation (schema : String) : List Statement :=
  .createSchema schema :: (statements cli.template).map Statement.template

/-- They are the statements of the script. -/
theorem creation_script (schema : String) :
    (cli.creation schema).map (fun statement => (searchPath schema statement.text, statement.text)) =
      cli.schemaScript schema := by
  simp only [creation, schemaScript, List.map_cons, List.map_map]
  rfl

/-- A creation issues its statements while the schema is active, and then records the template. -/
theorem run_createTenantSchema {tenant : Tenant} {schema : String}
    (named : tenant.schemaName = .ok schema) (configured : cli.template ≠ "")
    (state : ProvisionerState δ) :
    (cli.provisioner.createTenantSchema tenant).run state =
      ((cli.creation schema).forM cli.provisioner.execute >>= fun _ =>
        cli.provisioner.record schema templateId >>= fun _ =>
          pure schema).run (state.activated schema) := by
  have unset : ¬cli.provisioner.templateSql = "" := configured
  have loop : (cli.creation schema).forM cli.provisioner.execute =
      (cli.provisioner.execute (.createSchema schema) >>= fun _ =>
        ((statements cli.template).map Statement.template).forM cli.provisioner.execute) := rfl
  rw [SchemaProvisioner.createTenantSchema, EStateM.run_bind,
    SchemaProvisioner.run_validatedSchema named, loop, bind_assoc]
  simp only [if_neg unset]
  rfl

/-- The creation of a tenant's schema executes its script. -/
theorem carriesOut_createTenantSchema {tenant : Tenant} {schema : String}
    (named : tenant.schemaName = .ok schema) (configured : cli.template ≠ "")
    (state : ProvisionerState δ) :
    cli.CarriesOut (cli.schemaScript schema) state.database schema
      ((cli.provisioner.createTenantSchema tenant).run state) := by
  have all := @carriesOut_forM δ cli (cli.creation schema) schema (state.activated schema) rfl
  rw [creation_script] at all
  rw [run_createTenantSchema named configured]
  -- Recording the template executes nothing.
  exact all.bind fun middle => ⟨middle.noted schema templateId, rfl, rfl⟩

/-- Without a template a creation is refused before it executes anything. -/
theorem createTenantSchema_refused (tenant : Tenant) (unset : cli.template = "")
    (state : ProvisionerState δ) :
    ∃ error, (cli.provisioner.createTenantSchema tenant).run state = .error error state := by
  have missing : cli.provisioner.templateSql = "" := unset
  cases named : tenant.schemaName with
  | error error =>
    refine ⟨.tenant error, ?_⟩
    simp [SchemaProvisioner.createTenantSchema, SchemaProvisioner.validatedSchema, named]
  | ok schema =>
    refine ⟨.provisioning "No DDL template configured", ?_⟩
    rw [SchemaProvisioner.createTenantSchema, EStateM.run_bind,
      SchemaProvisioner.run_validatedSchema named]
    simp [missing]

/-- The number of items in the starter catalog of a vertical. -/
def seededItems (vertical : TenantVertical) : Nat :=
  (verticalServiceTypes vertical).length + (verticalProductKinds vertical).length

/-- The starter catalog is always seeded. -/
theorem seedCatalog_eq (vertical : TenantVertical) (tenantId : String) :
    (seedCatalog vertical tenantId : EStateM OnboardingError (ProvisionerState δ) Nat) =
      pure (seededItems vertical) := by
  have ran := CatalogRepository.run_seedDefaultCatalog tenantId "EUR" (CatalogRepository.new vertical)
  rw [seedCatalog, ran]
  rfl

/--
What code leaves behind is what a script leaves, and where it returns the script ended well.

Code that is ready returns wherever its script ends well.
-/
structure Leaves (cli : Cli δ) (ready : Prop) (script : List (String × String)) (database : δ)
    (result : EStateM.Result ε (ProvisionerState δ) α) : Prop where
  returned : ∀ value after, result = .ok value after →
    (cli.runScript script).run database = .ok () after.database
  raised : ∀ error after, result = .error error after →
    stateAfter (cli.runScript script) database = after.database
  complete : ready → ∀ after, (cli.runScript script).run database = .ok () after →
    ∃ value final, result = .ok value final

/-- Code that carries a script out leaves what it leaves. -/
theorem CarriesOut.leaves {script : List (String × String)} {database : δ} {value : α}
    {result : EStateM.Result ε (ProvisionerState δ) α}
    (carried : cli.CarriesOut script database value result) (ready : Prop) :
    cli.Leaves ready script database result := by
  unfold CarriesOut at carried
  split at carried
  · rename_i ran
    obtain ⟨after, rfl, rfl⟩ := carried
    refine ⟨fun _ _ same => ?_, (fun _ _ same => nomatch same), fun _ _ _ => ⟨value, after, rfl⟩⟩
    cases same
    exact ran
  · rename_i failed
    obtain ⟨error, after, rfl, rfl⟩ := carried
    refine ⟨(fun _ _ same => nomatch same), fun _ _ same => ?_, fun _ _ ended => ?_⟩
    · cases same
      exact stateAfter_error failed
    · rw [failed] at ended
      cases ended

/-- A refusal leaves the database as it is, which is what the empty script does. -/
theorem leaves_refused {ready : Prop} (unready : ¬ready) {database : δ} {error : ε}
    {after : ProvisionerState δ} {result : EStateM.Result ε (ProvisionerState δ) α}
    (refused : result = .error error after) (kept : after.database = database) :
    cli.Leaves ready [] database result := by
  rw [refused]
  refine ⟨(fun _ _ same => nomatch same), fun _ _ same => ?_, fun here => absurd here unready⟩
  cases same
  exact kept.symm

/-- A statement that is carried out may stand in front of a script. -/
theorem Leaves.cons {path statement : String} {rest : List (String × String)} {database middle : δ}
    {result : EStateM.Result ε (ProvisionerState δ) α}
    (carried : (cli.execute statement path).run database = .ok () middle)
    {ready : Prop} (leaves : cli.Leaves ready rest middle result) :
    cli.Leaves ready ((path, statement) :: rest) database result := by
  have whole : (cli.runScript ((path, statement) :: rest)).run database =
      (cli.runScript rest).run middle := by
    rw [runScript_cons, EStateM.run_bind, carried]
  refine ⟨fun value after same => ?_, fun error after same => ?_, fun here after ended => ?_⟩
  · rw [whole]
    exact leaves.returned value after same
  · have rest := leaves.raised error after same
    unfold stateAfter at rest ⊢
    rwa [whole]
  · rw [whole] at ended
    exact leaves.complete here after ended

/-- Where code raised, what goes on with its result is raised as well. -/
theorem run_bind_error {β σ : Type} {first : EStateM ε σ α} {next : α → EStateM ε σ β}
    {state after : σ} {error : ε} (raised : first.run state = .error error after) :
    (first >>= next).run state = .error error after := by
  rw [EStateM.run_bind, raised]

/-- An exception that is wrapped is raised where it was. -/
theorem run_adaptExcept_error {ε' σ : Type} {code : EStateM ε σ α} {state after : σ} {error : ε}
    (raised : code.run state = .error error after) (wrap : ε → ε') :
    (code.adaptExcept wrap).run state = .error (wrap error) after := by
  simp only [EStateM.run] at raised
  simp only [EStateM.adaptExcept, EStateM.run, raised]

/-- What is returned is returned with exceptions wrapped as well. -/
theorem run_adaptExcept_ok {ε' σ : Type} {code : EStateM ε σ α} {state after : σ} {value : α}
    (returned : code.run state = .ok value after) (wrap : ε → ε') :
    (code.adaptExcept wrap).run state = .ok value after := by
  simp only [EStateM.run] at returned
  simp only [EStateM.adaptExcept, EStateM.run, returned]

/-- The creation of a schema, and a line printed after it, leave what the script leaves. -/
theorem leaves_creation {tenant : Tenant} {schema : String} (named : tenant.schemaName = .ok schema)
    (line : String → String) (state : ProvisionerState δ) :
    cli.Leaves (cli.template ≠ "") (cli.createScript schema) state.database
      (((cli.provisioner.createTenantSchema tenant).adaptExcept OnboardingError.provisioner >>=
        fun schema => pure (line schema)).run state) := by
  unfold createScript
  split
  · rename_i unset
    obtain ⟨error, refused⟩ := createTenantSchema_refused tenant unset state
    have wrapped := run_adaptExcept_error refused OnboardingError.provisioner
    exact leaves_refused (fun configured => configured unset) (run_bind_error wrapped) rfl
  · rename_i configured
    have carried := (carriesOut_createTenantSchema named configured state).adaptExcept
      OnboardingError.provisioner
    have printed : cli.CarriesOut (cli.schemaScript schema) state.database (line schema)
        (((cli.provisioner.createTenantSchema tenant).adaptExcept OnboardingError.provisioner >>=
          fun schema => pure (line schema)).run state) :=
      carried.bind fun middle => ⟨middle, rfl, rfl⟩
    exact printed.leaves _

/-- The tenant that an onboarding creates a schema for. -/
def onboardedTenant (args : TenantCreateArgs) (uuid : Uuid) (vertical : TenantVertical) : Tenant :=
  ⟨uuid.toStr, args.slug, args.name, vertical, args.commissionRate, args.branchId, true⟩

section Onboarding

variable {args : TenantCreateArgs} {uuid : Uuid} {vertical : TenantVertical}
  (known : TenantVertical.parse? args.vertical = some vertical)

include known

/-- What an onboarding does once its row is there. -/
theorem run_onboard {database middle : δ}
    (created : (tenantCreate cli.repr cli.databaseUrl cli.execute cli.provisioner args uuid).run
      (ProvisionerState.new database) =
        ((cli.provisioner.createTenantSchema (onboardedTenant args uuid vertical)).adaptExcept
          OnboardingError.provisioner).run (ProvisionerState.new middle)) :
    (cli.onboard args uuid).run (ProvisionerState.new database) =
      ((cli.provisioner.createTenantSchema (onboardedTenant args uuid vertical)).adaptExcept
        OnboardingError.provisioner >>= fun schema =>
          pure (onboardedLine uuid schema (seededItems vertical))).run
            (ProvisionerState.new middle) := by
  have read : cli.readVertical args.vertical = (pure vertical :
      EStateM OnboardingError (ProvisionerState δ) TenantVertical) := by
    rw [readVertical, known]
  rw [onboard, EStateM.run_bind, created, EStateM.run_bind, read]
  simp only [pure_bind, seedCatalog_eq]

/-- An onboarding that passes the checks executes the row, and then creates the schema. -/
theorem leaves_onboard (accepted : isSlug args.slug = true) (configured : cli.databaseUrl ≠ "")
    (database : δ) :
    cli.Leaves (cli.template ≠ "") (("public", registryRow uuid.toStr args vertical) ::
      cli.createScript ("tenant_" ++ uuid.hex)) database
      ((cli.onboard args uuid).run (ProvisionerState.new database)) := by
  have onboarded := @run_tenantCreate δ cli.repr cli.databaseUrl cli.execute cli.provisioner args uuid
    vertical (ProvisionerState.new database) accepted known configured
  cases ran : (cli.execute (registryRow uuid.toStr args vertical) "public").run database with
  | error message middle =>
    -- The row was refused, so the schema is not begun.
    have refused : (cli.onboard args uuid).run (ProvisionerState.new database) =
        .error (.executor message) (ProvisionerState.new middle) :=
      run_bind_error (onboarded.trans (by simp only [ProvisionerState.new, ran]))
    have stopped : (cli.runScript (("public", registryRow uuid.toStr args vertical) ::
        cli.createScript ("tenant_" ++ uuid.hex))).run database = .error message middle := by
      rw [runScript_cons]
      exact run_bind_error ran
    rw [refused]
    refine ⟨(fun _ _ same => nomatch same), fun _ _ same => ?_, fun _ _ ended => ?_⟩
    · cases same
      exact stateAfter_error stopped
    · rw [stopped] at ended
      cases ended
  | ok _ middle =>
    refine Leaves.cons ran ?_
    have created : (tenantCreate cli.repr cli.databaseUrl cli.execute cli.provisioner args
        uuid).run (ProvisionerState.new database) =
          ((cli.provisioner.createTenantSchema (onboardedTenant args uuid vertical)).adaptExcept
            OnboardingError.provisioner).run (ProvisionerState.new middle) := by
      rw [onboarded]
      simp only [ProvisionerState.new, ran]
      rfl
    have named : (onboardedTenant args uuid vertical).schemaName = .ok ("tenant_" ++ uuid.hex) :=
      schemaName_toStr rfl
    rw [run_onboard known created]
    exact leaves_creation named (fun schema => onboardedLine uuid schema (seededItems vertical))
      (ProvisionerState.new middle)

end Onboarding

section Commands

variable (cli) (database : δ)

/-- A command that is refused has an empty script. -/
def Ready (command : CliCommand) : Prop := cli.template ≠ "" ∧ cli.script command ≠ []

variable {cli database} in
/-- A command with an empty script that raises at once leaves the database as it is. -/
theorem leaves_idle {command : CliCommand}
    {result : EStateM.Result ε (ProvisionerState δ) α} (empty : cli.script command = [])
    (raises : ∃ error, result = .error error (ProvisionerState.new database)) :
    cli.Leaves (cli.Ready command) (cli.script command) database result := by
  obtain ⟨error, raised⟩ := raises
  have unready : ¬cli.Ready command := fun ready => ready.2 empty
  rw [empty]
  exact leaves_refused unready raised rfl

/-- An onboarding leaves what its script leaves. -/
theorem leaves_tenantCreate (args : TenantCreateArgs) (uuid : Uuid) :
    cli.Leaves (cli.Ready (.tenantCreate args uuid)) (cli.script (.tenantCreate args uuid)) database
      ((cli.onboard args uuid).run (ProvisionerState.new database)) := by
  have refused : (∃ error, (tenantCreate cli.repr cli.databaseUrl cli.execute cli.provisioner args
        uuid).run (ProvisionerState.new database) = .error error (ProvisionerState.new database)) →
      ∃ error, (cli.onboard args uuid).run (ProvisionerState.new database) =
        .error error (ProvisionerState.new database) := by
    intro raises
    obtain ⟨error, raised⟩ := raises
    exact ⟨error, run_bind_error raised⟩
  -- The three checks, in the order in which they are made.
  cases accepted : isSlug args.slug with
  | false =>
    have raised : ∃ error, (tenantCreate cli.repr cli.databaseUrl cli.execute cli.provisioner args
        uuid).run (ProvisionerState.new database) = .error error (ProvisionerState.new database) := by
      rw [tenantCreate, if_pos accepted]
      exact ⟨_, rfl⟩
    exact leaves_idle (by simp [script, accepted]) (refused raised)
  | true =>
    cases known : TenantVertical.parse? args.vertical with
    | none =>
      have raised : ∃ error, (tenantCreate cli.repr cli.databaseUrl cli.execute cli.provisioner args
          uuid).run (ProvisionerState.new database) = .error error (ProvisionerState.new database) := by
        rw [tenantCreate, if_neg (by simp [accepted]), known]
        exact ⟨_, rfl⟩
      exact leaves_idle (by simp [script, accepted, known]) (refused raised)
    | some vertical =>
      by_cases configured : cli.databaseUrl = ""
      · have raised : ∃ error, (tenantCreate cli.repr cli.databaseUrl cli.execute cli.provisioner args
            uuid).run (ProvisionerState.new database) =
              .error error (ProvisionerState.new database) := by
          rw [tenantCreate, if_neg (by simp [accepted]), known]
          simp only [if_pos configured]
          exact ⟨_, rfl⟩
        exact leaves_idle (by simp [script, accepted, known, configured]) (refused raised)
      · have whole : cli.script (.tenantCreate args uuid) =
            ("public", registryRow uuid.toStr args vertical) ::
              cli.createScript ("tenant_" ++ uuid.hex) := by
          simp [script, accepted, known, configured]
        have leaves := @leaves_onboard δ cli args uuid vertical known accepted configured database
        rw [whole]
        exact ⟨leaves.returned, leaves.raised, fun ready => leaves.complete ready.1⟩

/-- The creation of a schema leaves what its script leaves. -/
theorem leaves_createSchema (args : TenantArgs) :
    cli.Leaves (cli.Ready (.create args)) (cli.script (.create args)) database
      ((cli.createSchema args).run (ProvisionerState.new database)) := by
  by_cases configured : cli.databaseUrl = ""
  · have empty : cli.script (.create args) = [] := by
      simp only [script, if_pos configured]
      split <;> rfl
    refine leaves_idle empty ?_
    rw [createSchema, requireDatabase, if_pos configured]
    exact ⟨_, rfl⟩
  cases known : TenantVertical.parse? args.vertical with
  | none =>
    refine leaves_idle (by simp [script, known]) ?_
    rw [createSchema, requireDatabase, if_neg configured, namedTenant, readVertical, known]
    exact ⟨_, rfl⟩
  | some vertical =>
    let tenant : Tenant := ⟨args.tenantId, args.slug, args.name, vertical, "0.10", "", true⟩
    have body : (cli.createSchema args).run (ProvisionerState.new database) =
        ((cli.provisioner.createTenantSchema tenant).adaptExcept OnboardingError.provisioner >>=
          fun schema => pure ("created " ++ schema ++ "\n")).run (ProvisionerState.new database) := by
      rw [createSchema, requireDatabase, if_neg configured, namedTenant, readVertical, known]
      simp only [pure_bind]
      rfl
    cases denoted : Uuid.parse? args.tenantId with
    | none =>
      have unnamed : tenant.schemaName =
          .error (.valueError "badly formed hexadecimal UUID string") := by
        simp [tenant, Tenant.schemaName, denoted]
      refine leaves_idle (by simp [script, known, denoted]) ?_
      have refused : (cli.provisioner.createTenantSchema tenant).run (ProvisionerState.new database) =
          .error (.tenant (.valueError "badly formed hexadecimal UUID string"))
            (ProvisionerState.new database) := by
        simp [SchemaProvisioner.createTenantSchema, SchemaProvisioner.validatedSchema, unnamed]
      exact ⟨_, body.trans (run_bind_error (run_adaptExcept_error refused _))⟩
    | some uuid =>
      have named : tenant.schemaName = .ok ("tenant_" ++ uuid.hex) := by
        simp [tenant, Tenant.schemaName, denoted]
      have whole : cli.script (.create args) = cli.createScript ("tenant_" ++ uuid.hex) := by
        simp [script, known, denoted, configured]
      have leaves := @leaves_creation δ cli tenant ("tenant_" ++ uuid.hex) named
        (fun schema => "created " ++ schema ++ "\n") (ProvisionerState.new database)
      rw [whole, body]
      exact ⟨leaves.returned, leaves.raised, fun ready => leaves.complete ready.1⟩

/-- A rollback finds nothing to undo: its process has applied nothing, and it asks no table. -/
theorem downgrade_new (tenant : Tenant) (target : String) :
    (∃ after, (cli.provisioner.downgrade tenant target).run (ProvisionerState.new database) =
      .ok 0 after ∧ after.database = database) ∨
    ∃ error, (cli.provisioner.downgrade tenant target).run (ProvisionerState.new database) =
      .error error (ProvisionerState.new database) := by
  cases named : tenant.schemaName with
  | error error =>
    right
    refine ⟨.tenant error, ?_⟩
    simp [SchemaProvisioner.downgrade, SchemaProvisioner.validatedSchema, named]
  | ok schema =>
    have validated := SchemaProvisioner.run_validatedSchema named
      (ProvisionerState.new database : ProvisionerState δ)
    have nothing : (cli.provisioner.appliedRevisions schema).run (ProvisionerState.new database) =
        .ok [] (ProvisionerState.new database) := rfl
    by_cases listed : target ∈ ([] ++ [""] : List String)
    · left
      refine ⟨(ProvisionerState.new database).activated schema, ?_, rfl⟩
      simp only [SchemaProvisioner.downgrade, EStateM.run_bind, validated, nothing, listed,
        not_true, if_false]
      rfl
    · right
      refine ⟨.provisioning ("Target revision " ++ quoted target ++ " is not applied to " ++ schema),
        ?_⟩
      simp only [SchemaProvisioner.downgrade, EStateM.run_bind, validated, nothing, listed,
        not_false_iff, if_true]
      rfl

/-- So a rollback from the command line leaves the database as it is. -/
theorem leaves_rollBack (args : TenantArgs) (target : String) :
    cli.Leaves (cli.Ready (.downgrade args target)) (cli.script (.downgrade args target)) database
      ((cli.rollBack args target).run (ProvisionerState.new database)) := by
  by_cases configured : cli.databaseUrl = ""
  · refine leaves_idle rfl ?_
    rw [rollBack, requireDatabase, if_pos configured]
    exact ⟨_, rfl⟩
  cases known : TenantVertical.parse? args.vertical with
  | none =>
    refine leaves_idle rfl ?_
    rw [rollBack, requireDatabase, if_neg configured, namedTenant, readVertical, known]
    exact ⟨_, rfl⟩
  | some vertical =>
    let tenant : Tenant := ⟨args.tenantId, args.slug, args.name, vertical, "0.10", "", true⟩
    have body : (cli.rollBack args target).run (ProvisionerState.new database) =
        ((cli.provisioner.downgrade tenant target).adaptExcept OnboardingError.provisioner >>=
          fun undone => schemaNameOf tenant >>= fun schema =>
            pure (rolledBackLine undone schema)).run (ProvisionerState.new database) := by
      rw [rollBack, requireDatabase, if_neg configured, namedTenant, readVertical, known]
      simp only [pure_bind]
      rfl
    have unready : ¬cli.Ready (.downgrade args target) := fun ready => ready.2 rfl
    rw [body]
    rcases cli.downgrade_new database tenant target with ⟨after, ran, kept⟩ | ⟨error, raised⟩
    · have wrapped := run_adaptExcept_ok ran OnboardingError.provisioner
      rw [EStateM.run_bind, wrapped]
      simp only [schemaNameOf]
      split
      · refine ⟨fun _ _ same => ?_, (fun _ _ same => nomatch same), fun ready => absurd ready unready⟩
        cases same
        rw [kept]
        rfl
      · exact leaves_refused unready rfl kept
    · exact leaves_refused unready (run_bind_error (run_adaptExcept_error raised _)) rfl

/-- Every command of the provisioning tool leaves what its script leaves. -/
theorem leaves_provisioned (command : CliCommand) :
    cli.Leaves (cli.Ready command) (cli.script command) database
      ((cli.provisioned command).run (ProvisionerState.new database)) := by
  cases command with
  | tenantCreate args uuid => exact cli.leaves_tenantCreate database args uuid
  | create args => exact cli.leaves_createSchema database args
  | downgrade args target => exact cli.leaves_rollBack database args target
  | migrate =>
    by_cases configured : cli.databaseUrl = ""
    · refine leaves_idle rfl ?_
      rw [provisioned, requireDatabase, if_pos configured]
      exact ⟨_, rfl⟩
    · rw [provisioned, requireDatabase, if_neg configured]
      refine ⟨fun _ _ same => ?_, (fun _ _ same => nomatch same), fun ready => absurd rfl ready.2⟩
      cases same
      rfl
  | auditVerify dump headHash =>
    refine ⟨fun _ _ same => ?_, (fun _ _ same => nomatch same), fun ready => absurd rfl ready.2⟩
    cases same
    rfl

end Commands

/-- What is reported of a command keeps the database, and the exit code tells whether it returned. -/
theorem main_eq_reported {command : CliCommand} (provisions : ∀ dump headHash,
    command ≠ .auditVerify dump headHash) (database : δ) :
    (cli.main command).run database =
      reported ((cli.provisioned command).run (ProvisionerState.new database)) := by
  cases command with
  | auditVerify dump headHash => exact absurd rfl (provisions dump headHash)
  | tenantCreate args uuid => rfl
  | migrate => rfl
  | create args => rfl
  | downgrade args target => rfl

/-- A verification asks the database nothing. -/
theorem verifyAudit_idle (dump : List Char) (headHash : String) (database : δ) :
    stateAfter (cli.verifyAudit dump headHash) database = database ∧
      ∀ line after, (cli.verifyAudit dump headHash).run database = .ok (line, 0) after →
        after = database := by
  unfold verifyAudit
  cases auditVerify cli.sha256 cli.stamps dump headHash with
  | none => exact ⟨rfl, fun line after ran => nomatch ran⟩
  | some result =>
    refine ⟨rfl, fun line after ran => ?_⟩
    cases ran
    rfl

/--
Every command executes its script: statements in a fixed order, each in its schema, up to the first
that fails.

It leaves the database exactly as the script does. Exit code zero means that the whole script was
carried out, and a command that is not refused beforehand exits with zero whenever it is. The scripts
of a migration, a rollback and a verification are empty.
-/
theorem main_script (cli : Cli δ) (command : CliCommand) (database : δ) :
    stateAfter (cli.main command) database = stateAfter (cli.runScript (cli.script command)) database ∧
      (∀ line after, (cli.main command).run database = .ok (line, 0) after →
        (cli.runScript (cli.script command)).run database = .ok () after) ∧
      (cli.template ≠ "" → cli.script command ≠ [] → ∀ after,
        (cli.runScript (cli.script command)).run database = .ok () after →
          ∃ line, (cli.main command).run database = .ok (line, 0) after) := by
  by_cases audits : ∃ dump headHash, command = .auditVerify dump headHash
  · obtain ⟨dump, headHash, rfl⟩ := audits
    have nothing : cli.script (.auditVerify dump headHash) = [] := rfl
    have untouched : (cli.runScript []).run database = .ok () database := rfl
    obtain ⟨kept, idle⟩ := @verifyAudit_idle δ cli dump headHash database
    rw [nothing, untouched, stateAfter_ok untouched]
    refine ⟨kept, fun line after ran => ?_, fun _ some => absurd rfl some⟩
    rw [idle line after ran]
  · have provisions : ∀ dump headHash, command ≠ .auditVerify dump headHash :=
      fun dump headHash same => audits ⟨dump, headHash, same⟩
    have leaves := cli.leaves_provisioned database command
    have whole := cli.main_eq_reported provisions database
    unfold stateAfter
    rw [whole]
    cases ended : (cli.provisioned command).run (ProvisionerState.new database) with
    | ok line after =>
      have ran := leaves.returned line after ended
      refine ⟨?_, fun _ _ same => ?_, fun _ _ final same => ?_⟩
      · simp only [ran, reported]
      · cases same
        exact ran
      · rw [ran] at same
        cases same
        exact ⟨line, rfl⟩
    | error error after =>
      have left := leaves.raised error after ended
      unfold stateAfter at left
      have code : ∀ line final, reported (.error error after) ≠
          (.ok (line, 0) final : EStateM.Result CliError δ (String × Nat)) := by
        intro line final same
        cases error with
        | executor message => cases same
        | provisioner error =>
          cases error <;> cases same
      refine ⟨?_, fun line final same => absurd same (code line final), fun template some final same => ?_⟩
      · rw [left]
        cases error with
        | executor message => rfl
        | provisioner error => cases error <;> rfl
      · obtain ⟨value, other, returned⟩ := leaves.complete ⟨template, some⟩ final same
        rw [ended] at returned
        cases returned

end Cli

end JolCommerce
