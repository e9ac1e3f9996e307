import JolCommerce.Db.ProvisionerLaws
import JolCommerce.Run.Frame
import JolCommerce.Run.Invariant

/-! Calls for some tenants touch no other tenant's schema, whatever the executor refuses. -/

namespace JolCommerce

namespace SchemaProvisioner

variable {δ : Type} (provisioner : SchemaProvisioner δ)

/-- What may be executed while a schema is active: a text of the artifacts or one that names it. -/
inductive IssuedFor (schema : String) : Statement → Prop
  | createSchema : IssuedFor schema (.createSchema schema)
  | template {text : String} (part : text ∈ statements provisioner.templateSql) :
    IssuedFor schema (.template text)
  | createMeta : IssuedFor schema (.createMeta schema)
  | up {revision : Revision} {statement : Statement} (known : revision ∈ provisioner.revisions)
    (part : statement ∈ revision.ups) : IssuedFor schema statement
  | insertMeta {revision : Revision} (known : revision ∈ provisioner.revisions) :
    IssuedFor schema (.insertMeta schema revision.revisionId)
  | down {revision : Revision} {statement : Statement} (known : revision ∈ provisioner.revisions)
    (part : statement ∈ revision.downs) : IssuedFor schema statement
  | deleteMeta {revision : Revision} (known : revision ∈ provisioner.revisions) :
    IssuedFor schema (.deleteMeta schema revision.revisionId)

/-- What is executed while other schemas are active leaves a view of the database as it was. -/
def KeptForOthers (schema : String) {γ : Type} (view : δ → γ) : Prop :=
  ∀ other statement, other ≠ schema → provisioner.IssuedFor other statement →
    Run.Keeps view (provisioner.executor other statement.text)

/-- Between two states nothing has happened outside of some schemas. -/
structure Confined (named : String → Prop) (start state : ProvisionerState δ) : Prop where
  executions : ∃ issued, state.executions = start.executions ++ issued ∧
    ∀ execution ∈ issued, named execution.activeSchema ∧
      provisioner.IssuedFor execution.activeSchema execution.statement
  recorded : ∀ schema, ¬named schema → state.recorded schema = start.recorded schema
  database : ∀ schema, ¬named schema → ∀ {γ : Type} (view : δ → γ),
    provisioner.KeptForOthers schema view → view state.database = view start.database

variable {provisioner} {named : String → Prop} {start state : ProvisionerState δ}

namespace Confined

/-- At first nothing has happened at all. -/
theorem refl (start : ProvisionerState δ) : provisioner.Confined named start start := by
  refine ⟨⟨[], (List.append_nil _).symm, ?_⟩, fun _ _ => rfl, fun _ _ _ _ _ => rfl⟩
  intro execution member
  cases member

/-- Another schema becomes active. -/
theorem activated (confined : provisioner.Confined named start state) (schema : String) :
    provisioner.Confined named start (state.activated schema) :=
  ⟨confined.executions, confined.recorded, confined.database⟩

/-- A statement is executed for one of the schemas, and the database goes where it leads. -/
theorem executed (confined : provisioner.Confined named start state) {statement : Statement}
    (active : named state.activeSchema)
    (issued : provisioner.IssuedFor state.activeSchema statement) (succeeded : Bool) {database : δ}
    (left : ∀ {γ : Type} (view : δ → γ),
      Run.Keeps view (provisioner.executor state.activeSchema statement.text) →
        view database = view state.database) :
    provisioner.Confined named start (state.executed statement succeeded database) := by
  refine ⟨?_, confined.recorded, ?_⟩
  · -- It comes last, under the schema that is active.
    obtain ⟨before, appended, each⟩ := confined.executions
    refine ⟨before ++ [⟨state.activeSchema, statement, succeeded⟩], ?_, ?_⟩
    · rw [ProvisionerState.executed_executions, appended, List.append_assoc]
    · intro execution member
      rcases List.mem_append.mp member with earlier | last
      · exact each execution earlier
      · obtain rfl := List.mem_singleton.mp last
        exact ⟨active, issued⟩
  · -- A schema without a name here is not the active one.
    intro schema unnamed γ view kept
    have apart : state.activeSchema ≠ schema := fun same => unnamed (same ▸ active)
    have same := left view (kept _ statement apart issued)
    exact same.trans (confined.database schema unnamed view kept)

/-- A revision is recorded for one of the schemas. -/
theorem noted (confined : provisioner.Confined named start state) {schema : String}
    (name : named schema) (revisionId : String) :
    provisioner.Confined named start (state.noted schema revisionId) := by
  refine ⟨confined.executions, fun other unnamed => ?_, confined.database⟩
  have apart : other ≠ schema := fun same => unnamed (same ▸ name)
  rw [ProvisionerState.noted_recorded, if_neg apart]
  exact confined.recorded other unnamed

/-- A revision of one of the schemas is forgotten. -/
theorem erased (confined : provisioner.Confined named start state) {schema : String}
    (name : named schema) (revisionId : String) :
    provisioner.Confined named start (state.erased schema revisionId) := by
  refine ⟨?_, fun other unnamed => ?_, ?_⟩
  · rw [ProvisionerState.erased_executions]
    exact confined.executions
  · have apart : other ≠ schema := fun same => unnamed (same ▸ name)
    rw [ProvisionerState.erased_recorded, if_neg apart]
    exact confined.recorded other unnamed
  · rw [ProvisionerState.erased_database]
    exact confined.database

end Confined

variable (provisioner named start) in
/-- While a schema is active, nothing has happened outside of the named ones. -/
def ConfinedAt (schema : String) (state : ProvisionerState δ) : Prop :=
  provisioner.Confined named start state ∧ state.activeSchema = schema

/-- What is found under an id is a known revision with it. -/
theorem of_byId? {revisionId : String} {revision : Revision}
    (found : provisioner.byId? revisionId = some revision) :
    revision ∈ provisioner.revisions ∧ revision.revisionId = revisionId := by
  have member := List.mem_filter.mp (List.mem_of_getLast? found)
  exact ⟨member.1, by simpa using member.2⟩

section Calls

variable {schema : String}

/-- Executing what may be issued keeps to the active schema. -/
theorem confined_execute (name : named schema) {statement : Statement}
    (issued : provisioner.IssuedFor schema statement) :
    Run.Triple (provisioner.ConfinedAt named start schema) (provisioner.execute statement)
      (fun _ => provisioner.ConfinedAt named start schema)
      (provisioner.Confined named start) := by
  -- Carried out or not, a view that the executor keeps is as it was.
  refine triple_execute ?_ ?_
  · intro state database before carried
    obtain ⟨confined, rfl⟩ := before
    exact ⟨confined.executed name issued true fun view kept => kept.ok carried, rfl⟩
  · intro state database before raised
    obtain ⟨confined, rfl⟩ := before
    obtain ⟨message, raised⟩ := raised
    exact confined.executed name issued false fun view kept => kept.error raised

/-- So does executing several such statements. -/
theorem confined_forM (name : named schema) {issued : List Statement}
    (each : ∀ statement ∈ issued, provisioner.IssuedFor schema statement) :
    Run.Triple (provisioner.ConfinedAt named start schema) (issued.forM provisioner.execute)
      (fun _ => provisioner.ConfinedAt named start schema)
      (provisioner.Confined named start) := by
  -- The loop may also raise where nothing has been issued, and is confined there as well.
  exact Run.triple_forM_of_mem fun statement member => confined_execute name (each statement member)

/-- Recording the template or a known revision keeps to the schema it is recorded for. -/
theorem confined_record (name : named schema) {revisionId : String}
    (known : revisionId = templateId ∨
      ∃ revision ∈ provisioner.revisions, revision.revisionId = revisionId) :
    Run.Triple (provisioner.ConfinedAt named start schema) (provisioner.record schema revisionId)
      (fun _ => provisioner.ConfinedAt named start schema)
      (provisioner.Confined named start) := by
  have row : revisionId ≠ templateId →
      provisioner.IssuedFor schema (.insertMeta schema revisionId) := by
    intro proper
    obtain ⟨revision, member, rfl⟩ := known.resolve_left proper
    exact .insertMeta member
  -- The row is written while the schema in memory already lists the revision.
  refine triple_record ?_ ?_ ?_
  · intro state before _
    exact ⟨before.1.noted name revisionId, before.2⟩
  · intro state database before proper carried
    obtain ⟨confined, rfl⟩ := before
    exact ⟨(confined.noted name revisionId).executed name (row proper) true
      fun view kept => kept.ok carried, rfl⟩
  · intro state database before proper raised
    obtain ⟨confined, rfl⟩ := before
    obtain ⟨message, raised⟩ := raised
    exact (confined.noted name revisionId).executed name (row proper) false
      fun view kept => kept.error raised

/-- Making the schema active is confined. -/
theorem confined_activate (schema : String) :
    Run.Triple (provisioner.Confined named start) (activate schema)
      (fun _ => provisioner.ConfinedAt named start schema)
      (provisioner.Confined named start) :=
  Run.triple_modifyGet fun _ before => ⟨before.activated schema, rfl⟩

/-- One pending revision is applied. -/
theorem confined_applyRevision (name : named schema) {revision : Revision}
    (known : revision ∈ provisioner.revisions) (appliedCount : Nat) :
    Run.Triple (provisioner.ConfinedAt named start schema)
      (provisioner.applyRevision schema appliedCount revision)
      (fun _ => provisioner.ConfinedAt named start schema)
      (provisioner.Confined named start) := by
  refine Run.triple_bind (confined_forM name fun statement part => .up known part) fun _ => ?_
  refine Run.triple_bind (confined_record name (.inr ⟨revision, known, rfl⟩)) fun _ => ?_
  exact Run.triple_pure fun _ before => before

/-- One revision is undone, or the rollback is refused before any of its statements. -/
theorem confined_undoRevision (name : named schema) (revisionId : String) (undone : Nat) :
    Run.Triple (provisioner.ConfinedAt named start schema)
      (provisioner.undoRevision schema undone revisionId)
      (fun _ => provisioner.ConfinedAt named start schema)
      (provisioner.Confined named start) := by
  unfold undoRevision
  split
  · exact Run.triple_throw fun _ before => before.1
  · rename_i revision found
    obtain ⟨known, rfl⟩ := of_byId? (Option.filter_eq_some_iff.mp found).1
    refine Run.triple_bind (confined_forM name fun statement part => .down known part) fun _ => ?_
    refine Run.triple_bind (confined_execute name (.deleteMeta known)) fun _ => ?_
    have erasure : Run.Triple (provisioner.ConfinedAt named start schema)
        (modify fun state => state.erased schema revision.revisionId : ProvisionerM δ Unit)
        (fun _ => provisioner.ConfinedAt named start schema)
        (provisioner.Confined named start) := by
      refine Run.triple_modifyGet fun state before => ⟨before.1.erased name _, ?_⟩
      exact (state.erased_activeSchema schema revision.revisionId).trans before.2
    refine Run.triple_bind erasure fun _ => ?_
    exact Run.triple_pure fun _ before => before

end Calls

/-- What is read as applied, from memory or by the loader, changes nothing. -/
theorem confined_appliedRevisions (schema : String) :
    Run.Triple (provisioner.Confined named start) (provisioner.appliedRevisions schema)
      (fun _ => provisioner.Confined named start) (provisioner.Confined named start) := by
  refine Run.triple_get_bind fun state before => ?_
  split
  · exact Run.triple_pure fun _ same => same ▸ before
  · split
    · exact Run.triple_pure fun _ same => same ▸ before
    · exact Run.triple_throw fun _ same => same ▸ before

section Tenants

variable {tenant : Tenant} (names : ∀ schema, tenant.schemaName = .ok schema → named schema)

include names

/-- The schema of a tenant is created. -/
theorem confined_createTenantSchema :
    Run.Triple (provisioner.Confined named start) (provisioner.createTenantSchema tenant)
      (fun _ => provisioner.Confined named start) (provisioner.Confined named start) := by
  refine Run.triple_bind (triple_validatedSchema fun _ _ before => before) fun schema => ?_
  refine Run.triple_fact fun own => ?_
  have name := names schema own
  split
  · exact Run.triple_throw fun _ before => before
  · refine Run.triple_bind (confined_activate schema) fun _ => ?_
    refine Run.triple_bind (confined_execute name .createSchema) fun _ => ?_
    refine Run.triple_bind (confined_forM name fun statement member => ?_) fun _ => ?_
    · obtain ⟨text, part, rfl⟩ := List.mem_map.mp member
      exact .template part
    · refine Run.triple_bind (confined_record name (.inl rfl)) fun _ => ?_
      exact Run.triple_pure fun _ before => before.1

/-- The pending revisions of a tenant are applied. -/
theorem confined_migrateTenant (appliedCount : Nat) :
    Run.Triple (provisioner.Confined named start) (provisioner.migrateTenant appliedCount tenant)
      (fun _ => provisioner.Confined named start) (provisioner.Confined named start) := by
  refine Run.triple_bind (triple_validatedSchema fun _ _ before => before) fun schema => ?_
  refine Run.triple_fact fun own => ?_
  have name := names schema own
  have pending : Run.Triple (provisioner.Confined named start) (provisioner.pending schema)
      (fun pending state => (∀ revision ∈ pending, revision ∈ provisioner.revisions) ∧
        provisioner.Confined named start state) (provisioner.Confined named start) := by
    refine Run.triple_bind (confined_appliedRevisions schema) fun applied => ?_
    exact Run.triple_pure fun _ before =>
      ⟨fun _ member => List.mem_of_mem_filter member, before⟩
  refine Run.triple_bind pending fun revisions => ?_
  refine Run.triple_fact fun known => ?_
  split
  · exact Run.triple_pure fun _ before => before
  · refine Run.triple_bind (confined_activate schema) fun _ => ?_
    refine Run.triple_bind (confined_execute name .createMeta) fun _ => ?_
    have loop := Run.triple_foldlM_of_mem (fun revision member appliedCount =>
      @confined_applyRevision δ provisioner named start schema name revision (known revision member)
        appliedCount) appliedCount
    exact loop.post fun _ _ before => before.1

/-- The revisions of a tenant after a target are undone. -/
theorem confined_downgrade (targetRevision : String) :
    Run.Triple (provisioner.Confined named start) (provisioner.downgrade tenant targetRevision)
      (fun _ => provisioner.Confined named start) (provisioner.Confined named start) := by
  refine Run.triple_bind (triple_validatedSchema fun _ _ before => before) fun schema => ?_
  refine Run.triple_fact fun own => ?_
  have name := names schema own
  refine Run.triple_bind (confined_appliedRevisions schema) fun applied => ?_
  split
  · exact Run.triple_throw fun _ before => before
  · refine Run.triple_bind (confined_activate schema) fun _ => ?_
    have loop := Run.triple_foldlM_of_mem (fun revisionId (_ : revisionId ∈ applied.reverse.filter
      fun revisionId => targetRevision < revisionId) undone =>
        @confined_undoRevision δ provisioner named start schema name revisionId undone) 0
    exact loop.post fun _ _ before => before.1

end Tenants

/-- The schemas that a call is for: those of its tenants. -/
def Call.Names (schema : String) : Call → Prop
  | .createTenantSchema tenant => tenant.schemaName = .ok schema
  | .migrateAll tenants => ∃ tenant ∈ tenants, tenant.schemaName = .ok schema
  | .downgrade tenant _ => tenant.schemaName = .ok schema

/-- A call for some of the named schemas, whether it returns or raises. -/
theorem confined_perform {call : Call} (names : ∀ schema, call.Names schema → named schema)
    (confined : provisioner.Confined named start state) :
    provisioner.Confined named start (provisioner.perform state call) := by
  cases call with
  | createTenantSchema tenant => exact holds_stateAfter (confined_createTenantSchema names) confined
  | migrateAll tenants =>
    refine holds_stateAfter (Run.triple_foldlM_of_mem (fun tenant member count => ?_) 0) confined
    exact confined_migrateTenant (fun schema own => names schema ⟨tenant, member, own⟩) count
  | downgrade tenant targetRevision =>
    exact holds_stateAfter (confined_downgrade names targetRevision) confined

/--
No run of calls does anything outside of the schemas of its tenants.

Everything is executed while one of these schemas is active, and is a text of the artifacts or names
that very schema. What is recorded for any other schema stays as it was, and so does every view of
the database that statements for schemas other than that one leave alone.
-/
theorem run_confined (provisioner : SchemaProvisioner δ) (start : ProvisionerState δ)
    (calls : List Call) :
    provisioner.Confined (fun schema => ∃ call ∈ calls, call.Names schema) start
      (calls.foldl provisioner.perform start) := by
  -- Every call of the run is for some of them.
  have among : Run.AllSteps provisioner.perform (fun _ call => call ∈ calls) start calls :=
    Run.allSteps_of_forall provisioner.perform (fun _ member => member) start
  refine Run.foldl_invariant provisioner.perform ?_ (Confined.refl start) among
  intro state call confined member
  exact confined_perform (fun schema names => ⟨call, member, names⟩) confined

end SchemaProvisioner

end JolCommerce
