import JolCommerce.Db.ProvisionerLaws

/-! A migration that fails in one schema leaves the tenants after it unmigrated. -/

namespace JolCommerce

open Python

namespace SchemaProvisioner

variable {δ : Type} (provisioner : SchemaProvisioner δ)

/-- A schema has no pending revision. -/
def NothingPending (state : ProvisionerState δ) (schema : String) : Prop :=
  (provisioner.pending schema).run state = .ok [] state

/-- The statements that record a revision: none for the template. -/
def rows (schema revisionId : String) : List Statement :=
  if revisionId = templateId then [] else [.insertMeta schema revisionId]

/-- Statements that are issued while a schema is active. -/
def issuedIn (schema : String) (statements : List Statement) : List (String × Statement) :=
  statements.map fun statement => (schema, statement)

/-- The statements that apply and record a revision. -/
def revisionPlan (schema : String) (revision : Revision) : List (String × Statement) :=
  issuedIn schema (revision.ups ++ rows schema revision.revisionId)

/-- The statements that bring a schema with some applied revisions up to date. -/
def schemaPlan (schema : String) (applied : List String) : List (String × Statement) :=
  if provisioner.missing applied = [] then []
  else (schema, .createMeta schema) ::
    (provisioner.missing applied).flatMap (revisionPlan schema)

/-- The statements that bring several schemas up to date. -/
def plan (state : ProvisionerState δ) (schemas : List String) : List (String × Statement) :=
  schemas.flatMap fun schema => provisioner.schemaPlan schema (state.recorded schema)

/-- The database after the executor carried out all of some statements, none where it refuses one. -/
def carryOut (database : δ) (issued : List (String × Statement)) : Option δ :=
  issued.foldlM (fun database (schema, statement) =>
    match (provisioner.executor schema statement.text).run database with
    | .ok _ after => some after
    | .error _ _ => none) database

/-- From an origin a part of the statements was carried out, and the rest is still to come. -/
def Tracks (origin : δ) (whole rest : List (String × Statement)) (state : ProvisionerState δ) : Prop :=
  ∃ carried, whole = carried ++ rest ∧ provisioner.carryOut origin carried = some state.database

variable {provisioner} {origin database : δ} {whole rest : List (String × Statement)}
  {state : ProvisionerState δ} {schema : String} {statement : Statement}

/-- Without a loader the pending revisions are those that the memory misses. -/
theorem nothingPending_iff (unloaded : provisioner.loadApplied = none) :
    provisioner.NothingPending state schema ↔
      provisioner.missing (state.recorded schema) = [] := by
  rw [NothingPending, pending_run unloaded]
  simp

/-- What stands behind the only occurrence of a schema. -/
private theorem tail_dropWhile_ne {done later : List String} (absent : schema ∉ done) :
    ((done ++ schema :: later).dropWhile (· ≠ schema)).tail = later := by
  have skipped : ∀ other ∈ done, decide (other ≠ schema) = true := by
    intro other member
    simpa using ne_of_mem_of_not_mem member absent
  rw [List.dropWhile_append_of_pos skipped]
  simp

/-- The plan of several schemas begins with that of the first one. -/
theorem plan_cons (schema : String) (left : List String) : provisioner.plan state (schema :: left) =
    provisioner.schemaPlan schema (state.recorded schema) ++ provisioner.plan state left := rfl

/-- A statement that is carried out comes off the rest. -/
theorem Tracks.accepts (tracks : provisioner.Tracks origin whole ((schema, statement) :: rest) state)
    (active : state.activeSchema = schema) (accepts : provisioner.Accepts state statement database) :
    provisioner.Tracks origin whole rest (state.executed statement true database) := by
  -- The statement moves from the rest to what was carried out.
  obtain ⟨carried, split, reached⟩ := tracks
  refine ⟨carried ++ [(schema, statement)], by simp [split], ?_⟩
  unfold Accepts at accepts
  unfold carryOut at reached ⊢
  rw [List.foldlM_append, reached]
  simp [← active, accepts]

/-- Once a statement is refused, the whole is not carried out. -/
theorem Tracks.refuses (tracks : provisioner.Tracks origin whole ((schema, statement) :: rest) state)
    (active : state.activeSchema = schema) (refuses : provisioner.Refuses state statement database) :
    provisioner.carryOut origin whole = none := by
  -- The whole is what was carried out and then the refused statement, so it stops there.
  obtain ⟨carried, split, reached⟩ := tracks
  obtain ⟨message, raised⟩ := refuses
  unfold carryOut at reached ⊢
  rw [split, List.foldlM_append, reached]
  simp [← active, raised]

variable (provisioner)

/-- Between two tenants: those before are up to date, those to come are as they were. -/
structure AtTenant (start : ProvisionerState δ) (schemas left : List String)
    (state : ProvisionerState δ) : Prop where
  split : ∃ done, schemas = done ++ left ∧ ∀ schema ∈ done, provisioner.missing (state.recorded schema) = []
  kept : ∀ schema ∈ left, state.recorded schema = start.recorded schema
  tracks : provisioner.Tracks start.database (provisioner.plan start schemas)
    (provisioner.plan start left) state

/-- Within a tenant: some statements of its schema are still to be issued. -/
structure WithinTenant (start : ProvisionerState δ) (schemas left : List String) (schema : String)
    (pending : List Revision) (issued : List (String × Statement)) (state : ProvisionerState δ) :
    Prop where
  split : ∃ done, schemas = done ++ schema :: left ∧
    ∀ schema ∈ done, provisioner.missing (state.recorded schema) = []
  kept : ∀ schema ∈ left, state.recorded schema = start.recorded schema
  active : state.activeSchema = schema
  covered : ∀ revision ∈ provisioner.revisions,
    revision.revisionId ∈ state.recorded schema ∨ revision ∈ pending
  tracks : provisioner.Tracks start.database (provisioner.plan start schemas)
    (issued ++ provisioner.plan start left) state

/-- A migration that stopped at a schema. -/
structure StoppedAt (failing : String) (start : ProvisionerState δ) (schemas : List String)
    (state : ProvisionerState δ) : Prop where
  refused : provisioner.carryOut start.database (provisioner.plan start schemas) = none
  split : ∃ done later, schemas = done ++ failing :: later ∧
    (∀ schema ∈ done, provisioner.missing (state.recorded schema) = []) ∧
    ∀ schema ∈ later, state.recorded schema = start.recorded schema

/-- The executor raises only while one schema is active. -/
def FailsOnlyIn (failing : String) : Prop :=
  ∀ active text database message after,
    (provisioner.executor active text).run database = .error message after → active = failing

variable {provisioner} {failing : String} {start : ProvisionerState δ} {schemas left : List String}
  {pending : List Revision}

/-- A refused statement stops the migration at the schema that is active. -/
theorem WithinTenant.refuses
    (within : provisioner.WithinTenant start schemas left schema pending
      ((schema, statement) :: rest) state)
    (only : provisioner.FailsOnlyIn failing) (refuses : provisioner.Refuses state statement database) :
    provisioner.StoppedAt failing start schemas (state.executed statement false database) := by
  -- The executor raises in one schema only, so the active one is that schema.
  have refused := within.tracks.refuses within.active refuses
  obtain ⟨message, raised⟩ := refuses
  obtain ⟨done, whole, upToDate⟩ := within.split
  have here : schema = failing := within.active ▸ only _ _ _ _ _ raised
  exact ⟨refused, done, left, here ▸ whole, upToDate, within.kept⟩

/-- A statement that is carried out is no longer to be issued. -/
theorem WithinTenant.accepts
    (within : provisioner.WithinTenant start schemas left schema pending
      ((schema, statement) :: rest) state)
    (accepts : provisioner.Accepts state statement database) :
    provisioner.WithinTenant start schemas left schema pending rest
      (state.executed statement true database) :=
  ⟨within.split, within.kept, within.active, within.covered,
    within.tracks.accepts within.active accepts⟩

/-- A revision that is recorded is no longer pending. -/
theorem WithinTenant.noted {revision : Revision}
    (within : provisioner.WithinTenant start schemas left schema (revision :: pending) rest state)
    (distinct : schemas.Nodup) :
    provisioner.WithinTenant start schemas left schema pending rest
      (state.noted schema revision.revisionId) := by
  obtain ⟨done, whole, upToDate⟩ := within.split
  -- No other schema of the list has this name.
  have apart : schema ∉ done ∧ schema ∉ left := by
    rw [whole, List.nodup_append] at distinct
    refine ⟨fun member => distinct.2.2 schema member schema (by simp) rfl, ?_⟩
    exact (List.nodup_cons.mp distinct.2.1).1
  have other : ∀ {name}, name ≠ schema →
      (state.noted schema revision.revisionId).recorded name = state.recorded name := by
    intro name different
    rw [ProvisionerState.noted_recorded, if_neg different]
  refine ⟨⟨done, whole, fun name member => ?_⟩, fun name member => ?_, within.active, ?_,
    within.tracks⟩
  · rw [other fun same => apart.1 (same ▸ member)]
    exact upToDate name member
  · rw [other fun same => apart.2 (same ▸ member)]
    exact within.kept name member
  · intro candidate member
    rw [ProvisionerState.noted_recorded, if_pos rfl]
    rcases within.covered candidate member with recorded | waiting
    · exact Or.inl (List.mem_append_left _ recorded)
    · rcases List.mem_cons.mp waiting with rfl | later
      · exact Or.inl (by simp)
      · exact Or.inr later

/-- A tenant with pending revisions has its own plan issued next. -/
theorem AtTenant.enters (atTenant : provisioner.AtTenant start schemas (schema :: left) state)
    (some : provisioner.missing (state.recorded schema) ≠ []) :
    provisioner.WithinTenant start schemas left schema (provisioner.missing (state.recorded schema))
      ((schema, .createMeta schema) ::
        (provisioner.missing (state.recorded schema)).flatMap (revisionPlan schema))
      (state.activated schema) := by
  -- The schema is recorded as it was at the start, so that its plan is the one it had there.
  refine ⟨atTenant.split, fun name member => atTenant.kept name (by simp [member]), rfl, ?_, ?_⟩
  · intro revision member
    by_cases recorded : revision.revisionId ∈ state.recorded schema
    · exact Or.inl recorded
    · exact Or.inr (List.mem_filter.mpr ⟨member, by simpa using recorded⟩)
  · have tracks := atTenant.tracks
    have same := atTenant.kept schema (by simp)
    rw [same] at some ⊢
    rw [plan_cons, schemaPlan, if_neg some] at tracks
    exact tracks

/-- A tenant without pending revisions has no plan. -/
theorem AtTenant.passes (atTenant : provisioner.AtTenant start schemas (schema :: left) state)
    (empty : provisioner.missing (state.recorded schema) = []) :
    provisioner.AtTenant start schemas left state := by
  -- The tenant joins those done, and its empty plan leaves the rest as it is.
  obtain ⟨done, whole, upToDate⟩ := atTenant.split
  refine ⟨⟨done ++ [schema], by simp [whole], ?_⟩, fun name member => atTenant.kept name (by simp [member]), ?_⟩
  · simpa [or_imp, forall_and] using ⟨upToDate, empty⟩
  · have tracks := atTenant.tracks
    rw [atTenant.kept schema (by simp)] at empty
    rw [plan_cons, schemaPlan, if_pos empty, List.nil_append] at tracks
    exact tracks

/-- A tenant whose plan is carried out is up to date. -/
theorem WithinTenant.leaves
    (within : provisioner.WithinTenant start schemas left schema [] [] state) :
    provisioner.AtTenant start schemas left state := by
  -- Every revision is recorded when none is pending any more.
  obtain ⟨done, whole, upToDate⟩ := within.split
  have here : provisioner.missing (state.recorded schema) = [] := by
    rw [missing, List.filter_eq_nil_iff]
    intro revision member
    rcases within.covered revision member with recorded | waiting
    · simpa using recorded
    · cases waiting
  refine ⟨⟨done ++ [schema], by simp [whole], ?_⟩, within.kept, within.tracks⟩
  simpa [or_imp, forall_and] using ⟨upToDate, here⟩

section Migration

variable (only : provisioner.FailsOnlyIn failing) (distinct : schemas.Nodup)

include only distinct

private theorem triple_applyRevision_within {revision : Revision} {appliedCount : Nat} :
    Run.Triple (provisioner.WithinTenant start schemas left schema (revision :: pending)
        ((revision :: pending).flatMap (revisionPlan schema)))
      (provisioner.applyRevision schema appliedCount revision)
      (fun _ => provisioner.WithinTenant start schemas left schema pending
        (pending.flatMap (revisionPlan schema)))
      (provisioner.StoppedAt failing start schemas) := by
  -- First the up statements, then the row, then the plans of the revisions after it.
  have steps := @triple_applyRevision _ provisioner (provisioner.StoppedAt failing start schemas)
    schema revision appliedCount (fun _ => provisioner.WithinTenant start schemas left schema pending
        (pending.flatMap (revisionPlan schema)))
    (fun ups => provisioner.WithinTenant start schemas left schema (revision :: pending)
      (issuedIn schema (ups ++ rows schema revision.revisionId) ++
        pending.flatMap (revisionPlan schema))) ?_ ?_
  · simpa only [List.flatMap_cons, revisionPlan] using steps
  · intro statement ups
    exact triple_execute (fun _ _ within accepts => within.accepts accepts)
      fun _ _ within refuses => within.refuses only refuses
  · refine triple_record ?_ ?_ ?_
    · intro state within template
      have noted := within.noted distinct
      simpa only [rows, template, if_true, List.append_nil, issuedIn, List.map_nil,
        List.nil_append] using noted
    · intro state database within proper accepts
      have noted := within.noted distinct
      simp only [rows, proper, if_false, List.nil_append, issuedIn, List.map_cons, List.map_nil,
        List.cons_append] at noted
      exact noted.accepts accepts
    · intro state database within proper refuses
      have noted := within.noted distinct
      simp only [rows, proper, if_false, List.nil_append, issuedIn, List.map_cons, List.map_nil,
        List.cons_append] at noted
      exact noted.refuses only refuses

/-- A tenant is passed over, or migrated, or the migration stops at it. -/
theorem triple_migrateTenant_atTenant (unloaded : provisioner.loadApplied = none) {tenant : Tenant}
    (named : tenant.schemaName = .ok schema) {appliedCount : Nat} :
    Run.Triple (provisioner.AtTenant start schemas (schema :: left))
      (provisioner.migrateTenant appliedCount tenant)
      (fun _ => provisioner.AtTenant start schemas left)
      (provisioner.StoppedAt failing start schemas) := by
  -- The rule asks for the invariant at each point of one turn, for the name the tenant has.
  have own : ∀ {name}, tenant.schemaName = .ok name → name = schema := by
    intro name same
    rw [named] at same
    exact (Except.ok.inj same).symm
  refine triple_migrateTenant unloaded (fun schema pending _ =>
    provisioner.WithinTenant start schemas left schema pending
      (pending.flatMap (revisionPlan schema))) ?_ ?_ ?_ ?_ ?_ ?_
  · exact fun state unnamed _ => absurd named (unnamed schema)
  · intro name state same atTenant empty
    obtain rfl := own same
    exact atTenant.passes empty
  · intro name state database same atTenant some accepts
    obtain rfl := own same
    exact (atTenant.enters some).accepts accepts
  · intro name state database same atTenant some refuses
    obtain rfl := own same
    exact (atTenant.enters some).refuses only refuses
  · intro name revision rest count same
    exact triple_applyRevision_within only distinct
  · intro name count state same within
    exact within.leaves

/-- A migration brings all tenants up to date, or stops at the schema where the executor raised. -/
theorem triple_migrateAll_stopped (unloaded : provisioner.loadApplied = none) {tenants : List Tenant}
    (named : tenants.map Tenant.schemaName = schemas.map .ok) :
    Run.Triple (· = start) (provisioner.migrateAll tenants)
      (fun _ => provisioner.AtTenant start schemas [])
      (provisioner.StoppedAt failing start schemas) := by
  have loop := @Run.triple_foldlM _ _ _ _ (provisioner.StoppedAt failing start schemas)
    provisioner.migrateTenant (fun rest _ state => ∃ left,
      rest.map Tenant.schemaName = left.map .ok ∧ provisioner.AtTenant start schemas left state)
    ?_ tenants 0
  · refine loop.imp ?_ ?_ fun _ final => final
    · rintro _ rfl
      exact ⟨schemas, named, ⟨[], rfl, by simp⟩, fun _ _ => rfl, [], rfl, rfl⟩
    · rintro _ state ⟨left, none, atTenant⟩
      have nil : left = [] := by simpa using none
      exact nil ▸ atTenant
  · intro tenant rest total
    refine Run.triple_exists fun left => Run.triple_fact fun names => ?_
    -- The tenant has the first of the schemas that are left.
    cases left with
    | nil => cases names
    | cons schema left =>
      obtain ⟨own, later⟩ := List.cons.inj names
      have next : Run.Triple (provisioner.AtTenant start schemas (schema :: left))
          (provisioner.migrateTenant total tenant)
          (fun _ => provisioner.AtTenant start schemas left)
          (provisioner.StoppedAt failing start schemas) :=
        triple_migrateTenant_atTenant only distinct unloaded own
      exact next.post fun _ _ atTenant => ⟨left, later, atTenant⟩

/--
After a migration over different schemas, with an executor that raises in one of them only, the other
schemas have nothing pending exactly when those listed after it had nothing pending before, or the
executor carries out every statement the migration has to issue.

The first refused statement ends the whole loop over the tenants, not only the turn of its tenant.
-/
theorem migrate_isolates_failure_iff (unloaded : provisioner.loadApplied = none)
    {tenants : List Tenant} (named : tenants.map Tenant.schemaName = schemas.map .ok)
    (state : ProvisionerState δ) :
    (∀ schema ∈ schemas, schema ≠ failing →
      provisioner.NothingPending (stateAfter (provisioner.migrateAll tenants) state) schema) ↔
      (∀ schema ∈ (schemas.dropWhile (· ≠ failing)).tail, provisioner.NothingPending state schema) ∨
        (provisioner.carryOut state.database (provisioner.plan state schemas)).isSome := by
  have migration := @triple_migrateAll_stopped _ _ _ state _ only distinct unloaded tenants named
  simp only [nothingPending_iff unloaded]
  cases ran : (provisioner.migrateAll tenants).run state with
  | ok count after =>
    rw [stateAfter_ok ran]
    have final := migration.ok rfl ran
    obtain ⟨done, whole, upToDate⟩ := final.split
    obtain ⟨carried, all, reached⟩ := final.tracks
    apply iff_of_true
    · intro schema member _
      exact upToDate schema (by simpa [whole] using member)
    · right
      rw [all, show provisioner.plan state [] = [] from rfl, List.append_nil, reached]
      rfl
  | error error after =>
    rw [stateAfter_error ran]
    have final := migration.error rfl ran
    obtain ⟨done, later, whole, upToDate, kept⟩ := final.split
    -- The schemas after the failing one are those behind its only occurrence.
    have apart := distinct
    rw [whole, List.nodup_append, List.nodup_cons] at apart
    have behind : (schemas.dropWhile (· ≠ failing)).tail = later := by
      rw [whole, tail_dropWhile_ne fun member => apart.2.2 _ member _ (by simp) rfl]
    have refused : ¬(provisioner.carryOut state.database
        (provisioner.plan state schemas)).isSome = true := by
      simp [final.refused]
    rw [behind, or_iff_left refused]
    constructor
    · intro all schema member
      rw [← kept schema member]
      refine all schema (by simp [whole, member]) ?_
      rintro rfl
      exact apart.2.1.1 member
    · intro waiting schema member different
      rw [whole, List.mem_append, List.mem_cons] at member
      rcases member with earlier | rfl | behind
      · exact upToDate schema earlier
      · exact absurd rfl different
      · rw [kept schema behind]
        exact waiting schema behind

end Migration

/-- A provisioner with one revision, whose executor raises while one schema is active. -/
def brokenProvisioner (failing : String) : SchemaProvisioner Unit where
  templateSql := ""
  executor := fun active _ => if active = failing then throw "disk full" else pure ()
  revisions := [⟨"001_init", "CREATE TABLE t1(id)", "DROP TABLE t1"⟩]

private theorem brokenProvisioner_failsOnlyIn (failing : String) :
    (brokenProvisioner failing).FailsOnlyIn failing := by
  -- While another schema is active the executor does nothing.
  intro active text database message after raised
  by_contra different
  simp [brokenProvisioner, different] at raised

private theorem sampleTenant_schemas :
    [sampleTenant "6f1c9f0a-53c4-4d8e-9a57-0c2b7f1e8d3a",
      sampleTenant "0b7e4d52-9d1f-4c0a-8f6e-2a5d3c1b7e90"].map Tenant.schemaName =
      ["tenant_6f1c9f0a53c44d8e9a570c2b7f1e8d3a", "tenant_0b7e4d529d1f4c0a8f6e2a5d3c1b7e90"].map
        Except.ok := by
  decide +kernel

/-- A tenant that fails after all others leaves them up to date. -/
theorem migrate_isolates_failure_last :
    let provisioner := brokenProvisioner "tenant_0b7e4d529d1f4c0a8f6e2a5d3c1b7e90"
    provisioner.NothingPending (stateAfter (provisioner.migrateAll
      [sampleTenant "6f1c9f0a-53c4-4d8e-9a57-0c2b7f1e8d3a",
        sampleTenant "0b7e4d52-9d1f-4c0a-8f6e-2a5d3c1b7e90"]) (.new ()))
      "tenant_6f1c9f0a53c44d8e9a570c2b7f1e8d3a" := by
  -- No tenant is listed after the one that fails.
  intro provisioner
  refine (migrate_isolates_failure_iff (brokenProvisioner_failsOnlyIn _) (by decide) rfl
    sampleTenant_schemas (.new ())).mpr (Or.inl ?_) _ (by simp) (by decide)
  intro schema member
  have none : (["tenant_6f1c9f0a53c44d8e9a570c2b7f1e8d3a",
      "tenant_0b7e4d529d1f4c0a8f6e2a5d3c1b7e90"].dropWhile
        (· ≠ "tenant_0b7e4d529d1f4c0a8f6e2a5d3c1b7e90")).tail = [] := by decide
  rw [none] at member
  cases member

/-- A tenant that fails before another one leaves that one unmigrated. -/
theorem migrate_blocks_later_tenant :
    let tenants := [sampleTenant "6f1c9f0a-53c4-4d8e-9a57-0c2b7f1e8d3a",
      sampleTenant "0b7e4d52-9d1f-4c0a-8f6e-2a5d3c1b7e90"]
    let schemas := ["tenant_6f1c9f0a53c44d8e9a570c2b7f1e8d3a",
      "tenant_0b7e4d529d1f4c0a8f6e2a5d3c1b7e90"]
    let failing := "tenant_6f1c9f0a53c44d8e9a570c2b7f1e8d3a"
    (brokenProvisioner failing).FailsOnlyIn failing ∧
      tenants.map Tenant.schemaName = schemas.map .ok ∧ schemas.Nodup ∧
      ¬∀ schema ∈ schemas, schema ≠ failing → (brokenProvisioner failing).NothingPending
        (stateAfter ((brokenProvisioner failing).migrateAll tenants) (.new ())) schema := by
  -- The tenant listed after the failing one still has its revision pending.
  intro tenants schemas failing
  refine ⟨brokenProvisioner_failsOnlyIn _, sampleTenant_schemas, by decide, fun isolated => ?_⟩
  have none := isolated "tenant_0b7e4d529d1f4c0a8f6e2a5d3c1b7e90" (by simp [schemas]) (by decide)
  rw [nothingPending_iff rfl] at none
  revert none
  decide +kernel

end SchemaProvisioner

end JolCommerce
