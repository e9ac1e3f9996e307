import JolCommerce.Db.ProvisionerLaws
import JolCommerce.Run.Invariant

/-! Migrations that are run again, after a failure or by a new provisioner, and what they repeat. -/

namespace JolCommerce

open Python

/-- The schema, the revision and the position of an up statement that was carried out. -/
def Execution.carriedUp (execution : Execution) : Option (String × Revision × Nat) :=
  match execution.statement, execution.succeeded with
  | .up revision position _, true => some (execution.activeSchema, revision, position)
  | _, _ => none

/-- The up statements that were carried out, oldest first. -/
def carriedUps (executions : List Execution) : List (String × Revision × Nat) :=
  executions.filterMap Execution.carriedUp

/-- The next execution adds what it carried out. -/
theorem carriedUps_append (executions : List Execution) (execution : Execution) :
    carriedUps (executions ++ [execution]) = carriedUps executions ++ execution.carriedUp.toList := by
  cases carried : execution.carriedUp <;> simp [carriedUps, carried]

/-- A statement handed to the executor adds what it carries out in the active schema. -/
theorem carriedUps_executed {δ : Type} (state : ProvisionerState δ) (statement : Statement)
    (succeeded : Bool) (database : δ) :
    carriedUps (state.executed statement succeeded database).executions =
      carriedUps state.executions ++
        (Execution.carriedUp ⟨state.activeSchema, statement, succeeded⟩).toList := by
  rw [ProvisionerState.executed_executions, carriedUps_append]

/-- A statement of no up artifact carries out no up statement. -/
theorem carriedUp_of_row {active schema revisionId : String} {succeeded : Bool} :
    Execution.carriedUp ⟨active, .insertMeta schema revisionId, succeeded⟩ = none := by
  cases succeeded <;> rfl

namespace SchemaProvisioner

variable {δ : Type}

/-- `scoped(statement)`, the executor of the command line: `CREATE SCHEMA` runs unscoped, all else in the active schema. -/
def scopedExecutor (execute : String → String → EStateM String δ Unit) (active statement : String) :
    EStateM String δ Unit :=
  execute statement
    (if "CREATE SCHEMA".toList.isPrefixOf statement.toList then "public" else active)

/-- `_provisioner()`: the template and the revisions from the artifacts, and no loader. -/
def cliProvisioner (template : String) (directory : Dict String String)
    (execute : String → String → EStateM String δ Unit) : SchemaProvisioner δ :=
  { fromArtifactsDir directory (scopedExecutor execute) with templateSql := template }

/-- One run of `migrate_all`, by the provisioner of the run before or by a new one. -/
structure Migration where
  fresh : Bool
  tenants : List Tenant

/-- The state a run starts with: a new provisioner has no record, and the database stays. -/
def Migration.begin (migration : Migration) (state : ProvisionerState δ) : ProvisionerState δ :=
  if migration.fresh then { state with activeSchema := "", applied := Dict.empty } else state

/-- The provisioner of the run before keeps its record. -/
theorem Migration.begin_same (tenants : List Tenant) (state : ProvisionerState δ) :
    Migration.begin ⟨false, tenants⟩ state = state := rfl

/-- The state after one run, whether it returned or raised. -/
def rerun (provisioner : SchemaProvisioner δ) (state : ProvisionerState δ) (migration : Migration) :
    ProvisionerState δ :=
  stateAfter (provisioner.migrateAll migration.tenants) (migration.begin state)

/-- No up statement was carried out twice in a schema. -/
def UpsOnce (state : ProvisionerState δ) : Prop := (carriedUps state.executions).Nodup

/-- The record in memory has every revision of which a statement was carried out for the tenants. -/
def KnowsUps (tenants : List Tenant) (state : ProvisionerState δ) : Prop :=
  ∀ tenant ∈ tenants, ∀ schema, tenant.schemaName = .ok schema → ∀ revision position,
    (schema, revision, position) ∈ carriedUps state.executions →
      revision.revisionId ∈ state.recorded schema

/-- A run starts with a record of all that was begun in the schemas of its tenants. -/
def StartsInformed (state : ProvisionerState δ) (migration : Migration) : Prop :=
  KnowsUps migration.tenants (migration.begin state)

variable {provisioner : SchemaProvisioner δ} {tenants : List Tenant} {schema : String}
  {revision : Revision} {pending : List Revision} {state : ProvisionerState δ}

/-- Between two revisions of a schema: none of those pending was begun. -/
structure BetweenRevisions (tenants : List Tenant) (schema : String) (pending : List Revision)
    (state : ProvisionerState δ) : Prop where
  once : UpsOnce state
  knows : KnowsUps tenants state
  active : state.activeSchema = schema
  distinct : pending.Nodup
  untouched : ∀ revision ∈ pending, ∀ position,
    (schema, revision, position) ∉ carriedUps state.executions

/-- Within a revision of a schema: the statements still to come were not carried out. -/
structure WithinRevision (tenants : List Tenant) (schema : String) (revision : Revision)
    (pending : List Revision) (ups : List Statement) (state : ProvisionerState δ) : Prop where
  own : ∀ statement ∈ ups, ∃ position text, statement = .up revision position text
  once : (carriedUps state.executions ++ carriedUps (ups.map fun statement =>
    ⟨schema, statement, true⟩)).Nodup
  knows : ∀ tenant ∈ tenants, ∀ name, tenant.schemaName = .ok name → ∀ other position,
    (name, other, position) ∈ carriedUps state.executions →
      other.revisionId ∈ state.recorded name ∨ (name = schema ∧ other = revision)
  active : state.activeSchema = schema
  distinct : (revision :: pending).Nodup
  untouched : ∀ other ∈ pending, ∀ position, (schema, other, position) ∉ carriedUps state.executions

/-- What a revision's statements carry out: one key for each position. -/
theorem carriedUps_ups (schema : String) (revision : Revision) :
    carriedUps (revision.ups.map fun statement => ⟨schema, statement, true⟩) =
      (List.range (statements revision.upSql).length).map fun position =>
        (schema, revision, position) := by
  -- Statements of one revision are told apart by their positions alone.
  have positions : (statements revision.upSql).zipIdx.map Prod.snd =
      List.range (statements revision.upSql).length := by
    rw [List.zipIdx_map_snd, List.range_eq_range']
  rw [← positions, List.map_map, carriedUps, Revision.ups, List.map_map, List.filterMap_map]
  exact List.filterMap_eq_map_iff_forall_eq_some.mpr fun _ _ => rfl

/-- A revision is begun with all of its statements to come. -/
theorem BetweenRevisions.enters
    (between : BetweenRevisions tenants schema (revision :: pending) state) :
    WithinRevision tenants schema revision pending revision.ups state := by
  refine ⟨?_, ?_, ?_, between.active, between.distinct, ?_⟩
  · intro statement member
    obtain ⟨⟨text, position⟩, _, rfl⟩ := List.mem_map.mp member
    exact ⟨position, text, rfl⟩
  · -- The positions are different, and none of them was reached before.
    rw [carriedUps_ups, List.nodup_append]
    refine ⟨between.once, List.nodup_range.map fun _ _ same => by simpa using same, ?_⟩
    rintro key carried _ listed rfl
    obtain ⟨position, _, rfl⟩ := List.mem_map.mp listed
    exact between.untouched revision (by simp) position carried
  · intro tenant member name named other position carried
    exact Or.inl (between.knows tenant member name named other position carried)
  · intro other member position
    exact between.untouched other (by simp [member]) position

/-- A statement that is carried out is not to come again. -/
theorem WithinRevision.accepts {statement : Statement} {ups : List Statement} (database : δ)
    (within : WithinRevision tenants schema revision pending (statement :: ups) state) :
    WithinRevision tenants schema revision pending ups (state.executed statement true database) := by
  -- The key of the statement moves from those to come to those carried out.
  obtain ⟨position, text, rfl⟩ := within.own statement (by simp)
  have carried : carriedUps (state.executed (.up revision position text) true database).executions =
      carriedUps state.executions ++ [(schema, revision, position)] := by
    rw [carriedUps_executed, within.active]
    rfl
  refine ⟨fun later member => within.own later (by simp [member]), ?_, ?_, within.active,
    within.distinct, ?_⟩
  · rw [carried, List.append_assoc]
    exact within.once
  · intro tenant member name named other place reached
    rw [carried, List.mem_append, List.mem_singleton, Prod.mk.injEq, Prod.mk.injEq] at reached
    rcases reached with before | ⟨same, own, -⟩
    · exact within.knows tenant member name named other place before
    · exact Or.inr ⟨same, own⟩
  · -- The other revisions pending are not this one.
    intro other member place reached
    rw [carried, List.mem_append, List.mem_singleton, Prod.mk.injEq, Prod.mk.injEq] at reached
    rcases reached with before | ⟨-, own, -⟩
    · exact within.untouched other member place before
    · exact (List.nodup_cons.mp within.distinct).1 (own ▸ member)

/-- A statement that is refused is not carried out. -/
theorem WithinRevision.refuses {statement : Statement} {ups : List Statement} (database : δ)
    (within : WithinRevision tenants schema revision pending (statement :: ups) state) :
    UpsOnce (state.executed statement false database) := by
  -- The executions gain a failure, and what was carried out is as before.
  obtain ⟨position, text, rfl⟩ := within.own statement (by simp)
  have carried : carriedUps (state.executed (.up revision position text) false database).executions =
      carriedUps state.executions := by
    rw [carriedUps_executed]
    exact List.append_nil _
  rw [UpsOnce, carried]
  exact (List.nodup_append.mp within.once).1

/-- A revision whose statements were all carried out is left by recording it. -/
theorem WithinRevision.leaves
    (within : WithinRevision tenants schema revision pending [] state) :
    BetweenRevisions tenants schema pending (state.noted schema revision.revisionId) := by
  -- Once recorded, the revision is known, so that the exception made for it is gone.
  refine ⟨(List.nodup_append.mp within.once).1, ?_, within.active,
    (List.nodup_cons.mp within.distinct).2, within.untouched⟩
  intro tenant member name named other position carried
  rw [ProvisionerState.noted_recorded]
  rcases within.knows tenant member name named other position carried with known | ⟨rfl, rfl⟩
  · split
    · rename_i same
      exact List.mem_append_left _ (same ▸ known)
    · exact known
  · simp

/-- A statement that is no up statement leaves the state between two revisions. -/
theorem BetweenRevisions.executed (between : BetweenRevisions tenants schema pending state)
    {statement : Statement} {succeeded : Bool} {database : δ}
    (other : Execution.carriedUp ⟨state.activeSchema, statement, succeeded⟩ = none) :
    BetweenRevisions tenants schema pending (state.executed statement succeeded database) := by
  -- Nothing the invariant speaks of looks at other statements.
  have carried : carriedUps (state.executed statement succeeded database).executions =
      carriedUps state.executions := by
    rw [carriedUps_executed, other]
    exact List.append_nil _
  refine ⟨?_, ?_, between.active, between.distinct, ?_⟩
  · rw [UpsOnce, carried]
    exact between.once
  · intro tenant member name named revision position reached
    rw [carried] at reached
    exact between.knows tenant member name named revision position reached
  · intro revision member position reached
    rw [carried] at reached
    exact between.untouched revision member position reached

private theorem triple_applyRevision_between {appliedCount : Nat} :
    Run.Triple (BetweenRevisions tenants schema (revision :: pending))
      (provisioner.applyRevision schema appliedCount revision)
      (fun _ => BetweenRevisions tenants schema pending) UpsOnce := by
  -- A revision is entered, its statements are carried out one by one, and recording it leaves it.
  have steps := @triple_applyRevision _ provisioner UpsOnce schema revision appliedCount
    (fun _ => BetweenRevisions tenants schema pending)
    (WithinRevision tenants schema revision pending) ?_ ?_
  · exact steps.imp (fun _ between => between.enters) (fun _ _ final => final) fun _ final => final
  · intro statement ups
    exact triple_execute (fun _ database within _ => within.accepts database)
      fun _ database within _ => within.refuses database
  · refine triple_record ?_ ?_ ?_
    · exact fun _ within _ => within.leaves
    · exact fun _ database within _ _ => within.leaves.executed carriedUp_of_row
    · exact fun _ database within _ _ => (within.leaves.executed carriedUp_of_row).once

section Runs

variable (unloaded : provisioner.loadApplied = none) (distinct : provisioner.revisions.Nodup)

include unloaded distinct

private theorem triple_migrateTenant_between {tenant : Tenant} (member : tenant ∈ tenants)
    {appliedCount : Nat} :
    Run.Triple (fun state => UpsOnce state ∧ KnowsUps tenants state)
      (provisioner.migrateTenant appliedCount tenant)
      (fun _ state => UpsOnce state ∧ KnowsUps tenants state) UpsOnce := by
  -- A tenant of the run is one whose schema the record in memory knows.
  have enters : ∀ schema (state : ProvisionerState δ), tenant.schemaName = .ok schema →
      UpsOnce state ∧ KnowsUps tenants state →
      BetweenRevisions tenants schema (provisioner.missing (state.recorded schema))
        (state.activated schema) := by
    -- A pending revision is not recorded, so nothing of it was carried out.
    intro schema state named start
    refine ⟨start.1, start.2, rfl, distinct.sublist List.filter_sublist, ?_⟩
    intro revision waiting position carried
    have known := start.2 tenant member schema named revision position carried
    simpa [known] using (List.mem_filter.mp waiting).2
  refine triple_migrateTenant unloaded (fun schema pending _ => BetweenRevisions tenants schema pending)
    ?_ ?_ ?_ ?_ ?_ ?_
  · exact fun _ _ start => start.1
  · exact fun _ _ _ start _ => start
  · exact fun schema state _ named start _ _ => (enters schema state named start).executed rfl
  · exact fun schema state _ named start _ _ => ((enters schema state named start).executed rfl).once
  · exact fun _ _ _ _ _ => triple_applyRevision_between
  · exact fun _ _ _ _ between => ⟨between.once, between.knows⟩

/-- A run that starts informed carries out no up statement again. -/
theorem UpsOnce.rerun (once : UpsOnce state) {migration : Migration}
    (informed : StartsInformed state migration) : UpsOnce (provisioner.rerun state migration) := by
  -- Starting a run executes nothing, and each of its tenants keeps the invariant.
  have begun : UpsOnce (migration.begin state) := by
    unfold Migration.begin
    split
    · exact once
    · exact once
  have loop : Run.Triple (fun state => UpsOnce state ∧ KnowsUps migration.tenants state)
      (provisioner.migrateAll migration.tenants)
      (fun _ state => UpsOnce state ∧ KnowsUps migration.tenants state) UpsOnce :=
    Run.triple_foldlM_of_mem (fun tenant member total =>
      triple_migrateTenant_between unloaded distinct member) 0
  exact holds_stateAfter (loop.post fun _ _ final => final.1) ⟨begun, informed⟩

/--
Over any runs of a migration against one database, by one provisioner or by new ones in between, no up
statement is carried out twice in a schema, provided that no revision is listed twice and that each
run starts with a record of every revision begun in the schemas of its tenants.

A run that fails between two statements of a revision leaves no record of it, and a new provisioner
starts with no record at all: the run after it then repeats what was carried out.
-/
theorem ups_carried_out_once (unused : state.executions = []) {migrations : List Migration}
    (informed : Run.AllSteps provisioner.rerun StartsInformed state migrations) :
    Run.Always provisioner.rerun UpsOnce state migrations := by
  -- Every run starts from what the one before left, with nothing carried out twice.
  have initial : UpsOnce state := by
    rw [UpsOnce, unused]
    exact List.nodup_nil
  clear unused
  induction migrations generalizing state with
  | nil => exact initial
  | cons migration rest ih =>
    obtain ⟨here, later⟩ := informed
    exact ⟨initial, ih later (initial.rerun unloaded distinct here)⟩

end Runs

/-- The provisioner of the command line over a directory with one revision of two statements. -/
def sampleCli (refused : Nat) : SchemaProvisioner Nat :=
  cliProvisioner "CREATE TABLE orders(id UUID)"
    ⟨[("001_init.up.sql", "CREATE TABLE t1(id); CREATE INDEX i1 ON t1(id)")], by decide⟩
    (sampleExecutor refused)

/-- A migration whose bookkeeping row is refused is run again by the same provisioner. -/
theorem ups_carried_out_once_after_refused_row :
    let tenant := sampleTenant "6f1c9f0a-53c4-4d8e-9a57-0c2b7f1e8d3a"
    Run.Always (sampleCli 3).rerun UpsOnce (.new 0) [⟨true, [tenant]⟩, ⟨false, [tenant]⟩] := by
  intro tenant
  refine ups_carried_out_once rfl (by decide) rfl ⟨?_, ?_, trivial⟩
  · rintro _ _ _ _ _ _ carried
    cases carried
  · rw [StartsInformed, Migration.begin_same]
    intro other member schema named revision position carried
    obtain rfl := List.mem_singleton.mp member
    have own : tenant.schemaName = .ok "tenant_6f1c9f0a53c44d8e9a570c2b7f1e8d3a" := by decide +kernel
    obtain rfl := Except.ok.inj (named.symm.trans own)
    -- Both statements were carried out and the revision was recorded before its row was refused.
    have known : ∀ key ∈ carriedUps ((sampleCli 3).rerun (.new 0) ⟨true, [tenant]⟩).executions,
        key.2.1.revisionId ∈ ((sampleCli 3).rerun (.new 0) ⟨true, [tenant]⟩).recorded
          "tenant_6f1c9f0a53c44d8e9a570c2b7f1e8d3a" := by
      decide +kernel
    exact known (_, revision, position) carried

/-- A revision broken off at its second statement, or migrated again by a new provisioner, repeats
its first statement. -/
theorem ups_carried_out_twice :
    let tenant := sampleTenant "6f1c9f0a-53c4-4d8e-9a57-0c2b7f1e8d3a"
    ¬Run.Always (sampleCli 2).rerun UpsOnce (.new 0) [⟨true, [tenant]⟩, ⟨false, [tenant]⟩] ∧
      ¬Run.Always (sampleCli 9).rerun UpsOnce (.new 0) [⟨true, [tenant]⟩, ⟨true, [tenant]⟩] := by
  -- Both runs are evaluated: the list of what was carried out has a repetition.
  intro tenant
  refine ⟨fun always => ?_, fun always => ?_⟩
  · have once : UpsOnce _ := always.2.2
    revert once
    unfold UpsOnce
    decide +kernel
  · have once : UpsOnce _ := always.2.2
    revert once
    unfold UpsOnce
    decide +kernel

end SchemaProvisioner

end JolCommerce
