import JolCommerce.Db.SchemaProvisioner
import JolCommerce.Run.Triple

/-! What each call of the provisioner does, as rules for the claims about whole runs of it. -/

namespace JolCommerce

open Python

/-- The statements that write the rows of the bookkeeping table. -/
def Statement.IsRow : Statement → Prop
  | .insertMeta _ _ => True
  | .deleteMeta _ _ => True
  | _ => False

namespace ProvisionerState

variable {δ : Type} (state : ProvisionerState δ)

/-- The state while another schema is active. -/
def activated (schema : String) : ProvisionerState δ := { state with activeSchema := schema }

@[simp] theorem executed_recorded (statement : Statement) (succeeded : Bool) (database : δ) :
    (state.executed statement succeeded database).recorded = state.recorded := rfl

@[simp] theorem executed_executions (statement : Statement) (succeeded : Bool) (database : δ) :
    (state.executed statement succeeded database).executions =
      state.executions ++ [⟨state.activeSchema, statement, succeeded⟩] := rfl

@[simp] theorem executed_activeSchema (statement : Statement) (succeeded : Bool) (database : δ) :
    (state.executed statement succeeded database).activeSchema = state.activeSchema := rfl

@[simp] theorem executed_database (statement : Statement) (succeeded : Bool) (database : δ) :
    (state.executed statement succeeded database).database = database := rfl

@[simp] theorem activated_recorded (schema : String) :
    (state.activated schema).recorded = state.recorded := rfl

@[simp] theorem activated_executions (schema : String) :
    (state.activated schema).executions = state.executions := rfl

@[simp] theorem activated_activeSchema (schema : String) :
    (state.activated schema).activeSchema = schema := rfl

@[simp] theorem activated_database (schema : String) :
    (state.activated schema).database = state.database := rfl

@[simp] theorem noted_executions (schema revisionId : String) :
    (state.noted schema revisionId).executions = state.executions := rfl

@[simp] theorem noted_activeSchema (schema revisionId : String) :
    (state.noted schema revisionId).activeSchema = state.activeSchema := rfl

@[simp] theorem noted_database (schema revisionId : String) :
    (state.noted schema revisionId).database = state.database := rfl

/-- A noted revision comes last in the list of its schema, and no other list changes. -/
theorem noted_recorded (schema revisionId other : String) :
    (state.noted schema revisionId).recorded other =
      if other = schema then state.recorded schema ++ [revisionId] else state.recorded other := by
  -- The list of the schema is created where there is none, so both cases read alike.
  unfold recorded noted
  rw [Dict.get?_set]
  split <;> rfl

/-- An erased revision leaves the list of its schema, and no other list changes. -/
theorem erased_recorded (schema revisionId other : String) :
    (state.erased schema revisionId).recorded other =
      if other = schema then (state.recorded schema).erase revisionId else state.recorded other := by
  unfold recorded erased
  cases listed : state.applied.get? schema with
  | none =>
    -- A schema without a list has nothing to erase.
    by_cases same : other = schema
    · simp [same, listed]
    · simp [same]
  | some revisions =>
    simp only [Dict.get?_set]
    split <;> rfl

@[simp] theorem erased_executions (schema revisionId : String) :
    (state.erased schema revisionId).executions = state.executions := by
  unfold erased
  split <;> rfl

@[simp] theorem erased_activeSchema (schema revisionId : String) :
    (state.erased schema revisionId).activeSchema = state.activeSchema := by
  unfold erased
  split <;> rfl

@[simp] theorem erased_database (schema revisionId : String) :
    (state.erased schema revisionId).database = state.database := by
  unfold erased
  split <;> rfl

end ProvisionerState

private theorem digitChar_isLowerHex : ∀ digit < 16, isLowerHex (Nat.digitChar digit) = true := by
  decide

private theorem hexText_isLowerHex (width value : Nat) : (hexText width value).all isLowerHex = true := by
  -- One digit at a time, the last one written last.
  induction width generalizing value with
  | zero => rfl
  | succ width ih =>
    simp [hexText, ih, digitChar_isLowerHex (value % 16) (Nat.mod_lt value (by decide))]

/-- A schema name is always one that the provisioner accepts. -/
theorem Tenant.schemaName_safe {tenant : Tenant} {schema : String}
    (named : tenant.schemaName = .ok schema) : isSchemaName schema = true := by
  -- A name is made from a UUID, whose text in hexadecimal has thirty-two digits.
  unfold schemaName at named
  split at named
  · rename_i uuid _
    obtain rfl := Except.ok.inj named
    simp [isSchemaName, Uuid.hex, hexText_isLowerHex]
  · cases named

namespace SchemaProvisioner

variable {δ : Type} {provisioner : SchemaProvisioner δ} {before raises : ProvisionerState δ → Prop}

/-- The executor carries a statement out while a schema is active, and leaves a database. -/
def Accepts (provisioner : SchemaProvisioner δ) (state : ProvisionerState δ) (statement : Statement)
    (database : δ) : Prop :=
  (provisioner.executor state.activeSchema statement.text).run state.database = .ok () database

/-- The executor raises on a statement, and leaves a database. -/
def Refuses (provisioner : SchemaProvisioner δ) (state : ProvisionerState δ) (statement : Statement)
    (database : δ) : Prop :=
  ∃ message, (provisioner.executor state.activeSchema statement.text).run state.database =
    .error message database

/-- What holds after returning and after raising holds after a call. -/
theorem holds_stateAfter {α : Type} {code : ProvisionerM δ α} {holds : ProvisionerState δ → Prop}
    (triple : Run.Triple before code (fun _ => holds) holds) {state : ProvisionerState δ}
    (start : before state) : holds (stateAfter code state) := by
  -- Both postconditions are the property, whichever way the call ended.
  have final := triple state start
  unfold stateAfter
  split at final
  · rename_i returned
    simpa only [returned] using final
  · rename_i raised
    simpa only [raised] using final

/-- Only a tenant without a schema name is refused, and validation changes nothing. -/
theorem triple_validatedSchema {tenant : Tenant}
    (unnamed : ∀ state, (∀ schema, tenant.schemaName ≠ .ok schema) → before state → raises state) :
    Run.Triple before (validatedSchema tenant)
      (fun schema state => tenant.schemaName = .ok schema ∧ before state) raises := by
  -- A name that there is passes the pattern, so that the second refusal never happens.
  unfold validatedSchema
  split
  · rename_i error absent
    refine Run.triple_throw fun state start => unnamed state (fun schema named => ?_) start
    rw [absent] at named
    cases named
  · rename_i schema named
    rw [if_pos (Tenant.schemaName_safe named)]
    exact Run.triple_pure fun _ start => ⟨named, start⟩

/-- A statement is carried out or refused, and executed either way. -/
theorem triple_execute {statement : Statement} {returns : Unit → ProvisionerState δ → Prop}
    (accepted : ∀ state database, before state → provisioner.Accepts state statement database →
      returns () (state.executed statement true database))
    (refused : ∀ state database, before state → provisioner.Refuses state statement database →
      raises (state.executed statement false database)) :
    Run.Triple before (provisioner.execute statement) returns raises := by
  -- The executor decides, on the state that was read before it ran.
  refine Run.triple_get_bind fun state start => ?_
  split
  · rename_i database carried
    rintro _ rfl
    exact accepted _ database start carried
  · rename_i message database raised
    rintro _ rfl
    exact refused _ database start ⟨message, raised⟩

/-- Without a loader the applied revisions are those recorded. -/
theorem triple_appliedRevisions (unloaded : provisioner.loadApplied = none) {schema : String} :
    Run.Triple before (provisioner.appliedRevisions schema)
      (fun applied state => before state ∧ applied = state.recorded schema) raises := by
  -- Reading gives the state itself, and there is no loader to ask.
  refine Run.triple_get_bind fun state start => ?_
  rw [unloaded]
  refine Run.triple_pure ?_
  rintro _ rfl
  exact ⟨start, rfl⟩

/-- Without a loader the pending revisions are those not recorded. -/
theorem triple_pending (unloaded : provisioner.loadApplied = none) {schema : String} :
    Run.Triple before (provisioner.pending schema)
      (fun pending state => before state ∧ pending = provisioner.missing (state.recorded schema))
      raises := by
  refine Run.triple_bind (triple_appliedRevisions unloaded) fun applied => ?_
  refine Run.triple_pure fun state start => ⟨start.1, ?_⟩
  rw [start.2]

/-- Without a loader `pending` reads the record in memory and changes nothing. -/
theorem pending_run (unloaded : provisioner.loadApplied = none) (schema : String)
    (state : ProvisionerState δ) : (provisioner.pending schema).run state =
      .ok (provisioner.missing (state.recorded schema)) state := by
  simp only [pending, appliedRevisions, unloaded]
  rfl

/-- A revision is recorded in memory, and then, unless it is the template, in its table. -/
theorem triple_record {schema revisionId : String} {returns : Unit → ProvisionerState δ → Prop}
    (unlisted : ∀ state, before state → revisionId = templateId →
      returns () (state.noted schema revisionId))
    (accepted : ∀ state database, before state → revisionId ≠ templateId →
      provisioner.Accepts state (.insertMeta schema revisionId) database →
      returns () ((state.noted schema revisionId).executed (.insertMeta schema revisionId) true database))
    (refused : ∀ state database, before state → revisionId ≠ templateId →
      provisioner.Refuses state (.insertMeta schema revisionId) database →
      raises ((state.noted schema revisionId).executed (.insertMeta schema revisionId) false database)) :
    Run.Triple before (provisioner.record schema revisionId) returns raises := by
  -- The record in memory is written first, and the row only for a proper revision.
  have noted : Run.Triple before
      (modify fun state => state.noted schema revisionId : ProvisionerM δ Unit)
      (fun _ after => ∃ state, before state ∧ after = state.noted schema revisionId) raises :=
    Run.triple_modifyGet fun state start => ⟨state, start, rfl⟩
  refine Run.triple_bind noted fun _ => ?_
  split
  · rename_i template
    refine Run.triple_pure ?_
    rintro _ ⟨state, start, rfl⟩
    exact unlisted state start template
  · rename_i proper
    refine triple_execute ?_ ?_
    · rintro _ database ⟨state, start, rfl⟩ carried
      exact accepted state database start proper carried
    · rintro _ database ⟨state, start, rfl⟩ raised
      exact refused state database start proper raised

/-- A revision is applied statement by statement and then recorded. -/
theorem triple_applyRevision {schema : String} {revision : Revision} {appliedCount : Nat}
    {returns : Nat → ProvisionerState δ → Prop} (ups : List Statement → ProvisionerState δ → Prop)
    (statement : ∀ statement rest, Run.Triple (ups (statement :: rest))
      (provisioner.execute statement) (fun _ => ups rest) raises)
    (record : Run.Triple (ups []) (provisioner.record schema revision.revisionId)
      (fun _ => returns (appliedCount + 1)) raises) :
    Run.Triple (ups revision.ups) (provisioner.applyRevision schema appliedCount revision) returns
      raises := by
  -- The loop over the statements ends where the recording begins.
  refine Run.triple_bind (Run.triple_forM statement revision.ups) fun _ => ?_
  refine Run.triple_bind record fun _ => ?_
  exact Run.triple_pure fun _ start => start

/-- A tenant without pending revisions is left alone, any other one enters the loop over them. -/
theorem triple_migrateTenant (unloaded : provisioner.loadApplied = none) {tenant : Tenant}
    {appliedCount : Nat} {returns : Nat → ProvisionerState δ → Prop}
    (loop : String → List Revision → Nat → ProvisionerState δ → Prop)
    (unnamed : ∀ state, (∀ schema, tenant.schemaName ≠ .ok schema) → before state → raises state)
    (idle : ∀ schema state, tenant.schemaName = .ok schema → before state →
      provisioner.missing (state.recorded schema) = [] → returns appliedCount state)
    (enter : ∀ schema state database, tenant.schemaName = .ok schema → before state →
      provisioner.missing (state.recorded schema) ≠ [] →
      provisioner.Accepts (state.activated schema) (.createMeta schema) database →
      loop schema (provisioner.missing (state.recorded schema)) appliedCount
        ((state.activated schema).executed (.createMeta schema) true database))
    (blocked : ∀ schema state database, tenant.schemaName = .ok schema → before state →
      provisioner.missing (state.recorded schema) ≠ [] →
      provisioner.Refuses (state.activated schema) (.createMeta schema) database →
      raises ((state.activated schema).executed (.createMeta schema) false database))
    (revision : ∀ schema revision rest appliedCount, tenant.schemaName = .ok schema →
      Run.Triple (loop schema (revision :: rest) appliedCount)
        (provisioner.applyRevision schema appliedCount revision) (loop schema rest) raises)
    (leave : ∀ schema appliedCount state, tenant.schemaName = .ok schema →
      loop schema [] appliedCount state → returns appliedCount state) :
    Run.Triple before (provisioner.migrateTenant appliedCount tenant) returns raises := by
  -- In the order of the body: the name, what is pending, the table, the loop over the revisions.
  refine Run.triple_bind (triple_validatedSchema unnamed) fun schema => ?_
  refine Run.triple_bind (triple_pending unloaded) fun pending => ?_
  split
  · rename_i none
    refine Run.triple_pure ?_
    rintro state ⟨⟨named, start⟩, rfl⟩
    exact idle schema state named start none
  · rename_i some
    -- Inside the loop every state was entered with these pending revisions.
    have active : Run.Triple (fun state => (tenant.schemaName = .ok schema ∧ before state) ∧
        pending = provisioner.missing (state.recorded schema))
        (activate schema) (fun _ after => ∃ state, tenant.schemaName = .ok schema ∧ before state ∧
          pending = provisioner.missing (state.recorded schema) ∧ after = state.activated schema)
        raises :=
      Run.triple_modifyGet fun state start => ⟨state, start.1.1, start.1.2, start.2, rfl⟩
    have table : Run.Triple (fun after => ∃ state, tenant.schemaName = .ok schema ∧ before state ∧
          pending = provisioner.missing (state.recorded schema) ∧ after = state.activated schema)
        (provisioner.execute (.createMeta schema))
        (fun _ after => tenant.schemaName = .ok schema ∧ loop schema pending appliedCount after)
        raises := by
      refine triple_execute ?_ ?_
      · rintro _ database ⟨state, named, start, rfl, rfl⟩ carried
        exact ⟨named, enter schema state database named start some carried⟩
      · rintro _ database ⟨state, named, start, rfl, rfl⟩ raised
        exact blocked schema state database named start some raised
    refine Run.triple_bind active fun _ => Run.triple_bind table fun _ => ?_
    refine Run.triple_fact fun named => ?_
    have revisions := Run.triple_foldlM (fun item rest total => revision schema item rest total named)
      pending appliedCount
    exact revisions.post fun count after final => leave schema count after named final

/-- A rollback goes through the recorded revisions above its target, newest first. -/
theorem triple_downgrade (unloaded : provisioner.loadApplied = none) {tenant : Tenant}
    {targetRevision : String} {returns : Nat → ProvisionerState δ → Prop}
    (loop : String → List String → Nat → ProvisionerState δ → Prop)
    (refused : ∀ state, before state → raises state)
    (enter : ∀ schema state, tenant.schemaName = .ok schema → before state →
      loop schema ((state.recorded schema).reverse.filter fun revisionId =>
        targetRevision < revisionId) 0 (state.activated schema))
    (undo : ∀ schema revisionId rest undone, Run.Triple (loop schema (revisionId :: rest) undone)
      (provisioner.undoRevision schema undone revisionId) (loop schema rest) raises)
    (leave : ∀ schema undone state, loop schema [] undone state → returns undone state) :
    Run.Triple before (provisioner.downgrade tenant targetRevision) returns raises := by
  -- In the order of the body: the name, what was applied, the target, the loop over the rest.
  refine Run.triple_bind (triple_validatedSchema fun state _ => refused state) fun schema => ?_
  refine Run.triple_bind (triple_appliedRevisions unloaded) fun applied => ?_
  split
  · exact Run.triple_throw fun state start => refused state start.1.2
  · have active : Run.Triple (fun state => (tenant.schemaName = .ok schema ∧ before state) ∧
        applied = state.recorded schema) (activate schema)
        (fun _ => loop schema (applied.reverse.filter fun revisionId =>
          targetRevision < revisionId) 0) raises := by
      refine Run.triple_modifyGet ?_
      rintro state ⟨⟨named, start⟩, rfl⟩
      exact enter schema state named start
    refine Run.triple_bind active fun _ => ?_
    exact (Run.triple_foldlM (undo schema) _ 0).post fun undone after final =>
      leave schema undone after final

/-- A property that only the bookkeeping can change. -/
structure Stable (holds : ProvisionerState δ → Prop) : Prop where
  activated : ∀ state schema, holds state → holds (state.activated schema)
  executed : ∀ state statement succeeded database, ¬statement.IsRow → holds state →
    holds (state.executed statement succeeded database)

namespace Stable

variable {holds : ProvisionerState δ → Prop}

/-- A statement that is no bookkeeping keeps the property, carried out or not. -/
theorem execute (stable : Stable holds) {statement : Statement} (plain : ¬statement.IsRow) :
    Run.Triple holds (provisioner.execute statement) (fun _ => holds) holds :=
  triple_execute (fun state database start _ => stable.executed state statement true database plain start)
    fun state database start _ => stable.executed state statement false database plain start

/-- So do several of them. -/
theorem forM (stable : Stable holds) {items : List Statement}
    (plain : ∀ statement ∈ items, ¬statement.IsRow) :
    Run.Triple holds (items.forM provisioner.execute) (fun _ => holds) holds := by
  exact Run.triple_forM_of_mem fun statement member => stable.execute (plain statement member)

/-- The creation of a schema records the template and issues no other bookkeeping. -/
theorem createTenantSchema (stable : Stable holds)
    (noted : ∀ state schema, holds state → holds (state.noted schema templateId)) {tenant : Tenant} :
    Run.Triple holds (provisioner.createTenantSchema tenant) (fun _ => holds) holds := by
  -- Of what it executes only the last call of `record` could be bookkeeping, and it writes no row.
  refine Run.triple_bind (triple_validatedSchema fun _ _ start => start) fun schema => ?_
  split
  · exact Run.triple_throw fun state start => start.2
  · have active : Run.Triple (fun state => tenant.schemaName = .ok schema ∧ holds state)
        (activate schema) (fun _ => holds) holds :=
      Run.triple_modifyGet fun state start => stable.activated state schema start.2
    refine Run.triple_bind active fun _ => ?_
    refine Run.triple_bind (stable.execute id) fun _ => ?_
    refine Run.triple_bind (stable.forM ?_) fun _ => ?_
    · intro statement member
      obtain ⟨text, _, rfl⟩ := List.mem_map.mp member
      exact id
    · refine Run.triple_bind (triple_record ?_ ?_ ?_) fun _ => Run.triple_pure fun _ start => start
      · exact fun state start _ => noted state schema start
      · exact fun _ _ _ proper => absurd rfl proper
      · exact fun _ _ _ proper => absurd rfl proper

/-- A revision is undone statement by statement and then forgotten. -/
theorem undoRevision (stable : Stable holds) {schema revisionId : String} {undone : Nat}
    {returns : Nat → ProvisionerState δ → Prop} (refused : ∀ state, holds state → raises state)
    (deleted : ∀ state database, holds state →
      revisionId ∈ provisioner.revisions.map Revision.revisionId →
      returns (undone + 1)
        ((state.executed (.deleteMeta schema revisionId) true database).erased schema revisionId))
    (undeleted : ∀ state database, holds state →
      raises (state.executed (.deleteMeta schema revisionId) false database)) :
    Run.Triple holds (provisioner.undoRevision schema undone revisionId) returns raises := by
  -- The record in memory is erased last, when the row has been deleted.
  unfold SchemaProvisioner.undoRevision
  split
  · exact Run.triple_throw refused
  · rename_i revision found
    have known : revisionId ∈ provisioner.revisions.map Revision.revisionId := by
      -- What the lookup finds is a revision with that id.
      have listed := (Option.filter_eq_some_iff.mp found).1
      have member := List.mem_filter.mp (List.mem_of_getLast? listed)
      exact List.mem_map.mpr ⟨revision, member.1, by simpa using member.2⟩
    have downs : Run.Triple holds (revision.downs.forM provisioner.execute) (fun _ => holds) raises := by
      refine (stable.forM ?_).imp (fun _ start => start) (fun _ _ final => final) refused
      intro statement member
      obtain ⟨text, _, rfl⟩ := List.mem_map.mp member
      exact id
    refine Run.triple_bind downs fun _ => ?_
    have deletion : Run.Triple holds (provisioner.execute (.deleteMeta schema revisionId))
        (fun _ after => returns (undone + 1) (after.erased schema revisionId)) raises :=
      triple_execute (fun state database start _ => deleted state database start known)
        fun state database start _ => undeleted state database start
    have erasure : Run.Triple (fun state => returns (undone + 1) (state.erased schema revisionId))
        (modify fun state => state.erased schema revisionId : ProvisionerM δ Unit)
        (fun _ => returns (undone + 1)) raises :=
      Run.triple_modifyGet fun _ start => start
    refine Run.triple_bind deletion fun _ => Run.triple_bind erasure fun _ => ?_
    exact Run.triple_pure fun _ start => start

end Stable

/-- A property that no update of the state changes. -/
structure Lasting (holds : ProvisionerState δ → Prop) : Prop where
  activated : ∀ state schema, holds state → holds (state.activated schema)
  executed : ∀ state statement succeeded database, holds state →
    holds (state.executed statement succeeded database)
  noted : ∀ state schema revisionId, holds state → holds (state.noted schema revisionId)
  erased : ∀ state schema revisionId, holds state → holds (state.erased schema revisionId)

/-- Such a property holds after every call. -/
theorem Lasting.perform (unloaded : provisioner.loadApplied = none)
    {holds : ProvisionerState δ → Prop} (lasting : Lasting holds) {state : ProvisionerState δ}
    (start : holds state) (call : Call) : holds (provisioner.perform state call) := by
  -- Each rule asks for the property after one kind of update, and all of them keep it.
  have stable : Stable holds :=
    ⟨lasting.activated, fun state statement succeeded database _ =>
      lasting.executed state statement succeeded database⟩
  -- A statement changes the state in the same way whether it succeeds or fails.
  have execute : ∀ statement, Run.Triple holds (provisioner.execute statement) (fun _ => holds) holds :=
    fun statement => triple_execute
      (fun state database start _ => lasting.executed state statement true database start)
      fun state database start _ => lasting.executed state statement false database start
  cases call with
  | createTenantSchema tenant =>
    exact holds_stateAfter
      (stable.createTenantSchema fun state schema => lasting.noted state schema _) start
  | migrateAll tenants =>
    refine holds_stateAfter (Run.triple_foldlM_of_mem ?_ 0) start
    intro tenant _ total
    refine triple_migrateTenant unloaded (fun _ _ _ => holds) ?_ ?_ ?_ ?_ ?_ ?_
    · exact fun _ _ start => start
    · exact fun _ _ _ start _ => start
    · exact fun schema state database _ start _ _ =>
        lasting.executed _ _ true database (lasting.activated state schema start)
    · exact fun schema state database _ start _ _ =>
        lasting.executed _ _ false database (lasting.activated state schema start)
    · intro schema revision rest appliedCount _
      refine triple_applyRevision (fun _ => holds) (fun statement _ => execute statement) ?_
      -- The row is written after the revision was noted, so a failure there has noted it.
      refine triple_record ?_ ?_ ?_
      · exact fun state start _ => lasting.noted state _ _ start
      · exact fun state database start _ _ =>
          lasting.executed _ _ true database (lasting.noted state _ _ start)
      · exact fun state database start _ _ =>
          lasting.executed _ _ false database (lasting.noted state _ _ start)
    · exact fun _ _ _ _ start => start
  | downgrade tenant targetRevision =>
    refine holds_stateAfter (triple_downgrade unloaded (fun _ _ _ => holds) ?_ ?_ ?_ ?_) start
    · exact fun _ start => start
    · exact fun schema state _ start => lasting.activated state schema start
    · intro schema revisionId rest undone
      refine stable.undoRevision (fun _ start => start) ?_ ?_
      · exact fun state database start _ =>
          lasting.erased _ _ _ (lasting.executed state _ true database start)
      · exact fun state database start => lasting.executed state _ false database start
    · exact fun _ _ _ start => start

/-- An executor that counts its statements and refuses one of them. -/
def sampleExecutor (refused : Nat) (_active _text : String) : EStateM String Nat Unit := do
  let count ← get
  set (count + 1)
  if count = refused then throw "connection reset"

/-- A tenant whose id is a UUID. -/
def sampleTenant (tenantId : String) : Tenant where
  tenantId := tenantId
  slug := "st-anna"
  name := "Parish"
  vertical := .faithCommunity

end SchemaProvisioner

end JolCommerce
