import JolCommerce.Db.ProvisionerLaws
import JolCommerce.Run.Invariant

/-! The record in memory and the rows of `jol_schema_meta`: one refused row parts them. -/

namespace JolCommerce

open Python

/-- Whether a row is present after an execution. -/
def rowAfter (schema revisionId : String) (present : Bool) (execution : Execution) : Bool :=
  -- A statement that was refused changes no row.
  if execution.succeeded then
    if execution.statement = .insertMeta schema revisionId then true
    else if execution.statement = .deleteMeta schema revisionId then false
    else present
  else present

/-- A revision is in the table of a schema: its last successful row statement was an insertion. -/
def inMeta (executions : List Execution) (schema revisionId : String) : Bool :=
  executions.foldl (rowAfter schema revisionId) false

/-- The insertion of a row that the executor refused. -/
def Execution.IsRefusedInsert (execution : Execution) : Prop :=
  execution.succeeded = false ∧
    ∃ schema revisionId, execution.statement = .insertMeta schema revisionId

/-- The next execution decides on the rows as they were. -/
theorem inMeta_append (executions : List Execution) (execution : Execution)
    (schema revisionId : String) :
    inMeta (executions ++ [execution]) schema revisionId =
      rowAfter schema revisionId (inMeta executions schema revisionId) execution := by
  simp [inMeta]

/-- A statement about no row leaves all rows. -/
theorem rowAfter_of_not_isRow {execution : Execution} (plain : ¬execution.statement.IsRow)
    (schema revisionId : String) (present : Bool) :
    rowAfter schema revisionId present execution = present := by
  -- Only the two kinds of row statements are looked for.
  unfold rowAfter
  split
  · split
    · rename_i inserted
      exact absurd (inserted ▸ trivial) plain
    · split
      · rename_i deleted
        exact absurd (deleted ▸ trivial) plain
      · rfl
  · rfl

/-- A row that was inserted is present, and the others are as they were. -/
theorem rowAfter_insert (active schema revisionId other candidate : String) (present : Bool) :
    rowAfter other candidate present ⟨active, .insertMeta schema revisionId, true⟩ =
      if other = schema ∧ candidate = revisionId then true else present := by
  simp [rowAfter, eq_comm]

/-- A row that was deleted is gone, and the others are as they were. -/
theorem rowAfter_delete (active schema revisionId other candidate : String) (present : Bool) :
    rowAfter other candidate present ⟨active, .deleteMeta schema revisionId, true⟩ =
      if other = schema ∧ candidate = revisionId then false else present := by
  simp [rowAfter, eq_comm]

namespace ProvisionerState

variable {δ : Type} (state : ProvisionerState δ) (schema revisionId other candidate : String)

/-- A noted revision is recorded once more in its schema. -/
theorem count_noted : ((state.noted schema revisionId).recorded other).count candidate =
    (state.recorded other).count candidate +
      if other = schema ∧ candidate = revisionId then 1 else 0 := by
  -- Only the list of this schema grows, and only by this revision.
  rw [noted_recorded]
  by_cases here : other = schema
  · by_cases same : candidate = revisionId
    · simp [here, same]
    · simp [here, same, List.count_append, Ne.symm same]
  · simp [here]

/-- An erased revision is recorded once less in its schema. -/
theorem count_erased : ((state.erased schema revisionId).recorded other).count candidate =
    (state.recorded other).count candidate -
      if other = schema ∧ candidate = revisionId then 1 else 0 := by
  -- Only the list of this schema shrinks, by one occurrence of this revision where there is one.
  rw [erased_recorded]
  by_cases here : other = schema
  · by_cases same : candidate = revisionId
    · simp [here, same]
    · simp [here, same, List.count_erase_of_ne same]
  · simp [here]

end ProvisionerState

namespace SchemaProvisioner

variable {δ : Type}

/-- The record in memory and the rows name the same revisions, the template apart. -/
def Agrees (state : ProvisionerState δ) : Prop :=
  ∀ schema revisionId, revisionId ≠ templateId →
    (revisionId ∈ state.recorded schema ↔ inMeta state.executions schema revisionId = true)

/-- No insertion of a row was refused so far. -/
def AllInserted (state : ProvisionerState δ) : Prop :=
  ∀ execution ∈ state.executions, ¬execution.IsRefusedInsert

/-- Both records agree, no revision is recorded twice, and no insertion was refused. -/
structure Books (state : ProvisionerState δ) : Prop where
  agrees : Agrees state
  once : ∀ schema revisionId, revisionId ≠ templateId →
    (state.recorded schema).count revisionId ≤ 1
  inserted : AllInserted state

/-- Both records part with the first insertion that is refused. -/
def Parted (state : ProvisionerState δ) : Prop := ¬Agrees state ∧ ¬AllInserted state

variable {state : ProvisionerState δ} {schema revisionId : String}

private theorem AllInserted.executed (inserted : AllInserted state) {statement : Statement}
    {succeeded : Bool} {database : δ}
    (fine : succeeded = true ∨ ∀ schema revisionId, statement ≠ .insertMeta schema revisionId) :
    AllInserted (state.executed statement succeeded database) := by
  -- The last execution either succeeded or was no insertion.
  intro execution member
  rw [ProvisionerState.executed_executions, List.mem_append, List.mem_singleton] at member
  rcases member with old | rfl
  · exact inserted execution old
  · rintro ⟨refused, schema, revisionId, row⟩
    rcases fine with carried | other
    · simp [carried] at refused
    · exact other schema revisionId row

private theorem stable_books : Stable (Books : ProvisionerState δ → Prop) where
  activated _ _ books := ⟨books.agrees, books.once, books.inserted⟩
  executed state statement succeeded database plain books := by
    -- A statement that is no row statement changes neither record.
    refine ⟨fun schema revisionId proper => ?_, books.once, books.inserted.executed (Or.inr ?_)⟩
    · rw [ProvisionerState.executed_executions, inMeta_append, rowAfter_of_not_isRow plain]
      exact books.agrees schema revisionId proper
    · rintro schema revisionId rfl
      exact plain trivial

/-- Recording the template is no matter of the books. -/
theorem Books.noted_template (books : Books state) (schema : String) :
    Books (state.noted schema templateId) := by
  -- It adds nothing to the count of any other revision.
  have same : ∀ other revisionId, revisionId ≠ templateId →
      ((state.noted schema templateId).recorded other).count revisionId =
        (state.recorded other).count revisionId := by
    intro other revisionId proper
    rw [ProvisionerState.count_noted]
    simp [proper]
  refine ⟨fun other revisionId proper => ?_, fun other revisionId proper => ?_, books.inserted⟩
  · rw [← List.count_pos_iff, same other revisionId proper, List.count_pos_iff]
    exact books.agrees other revisionId proper
  · rw [same other revisionId proper]
    exact books.once other revisionId proper

/-- A new revision whose row is inserted is on both records. -/
theorem Books.recorded (books : Books state) (new : revisionId ∉ state.recorded schema)
    (database : δ) :
    Books ((state.noted schema revisionId).executed (.insertMeta schema revisionId) true database) := by
  -- Both records gain this revision of this schema, and it was on neither.
  refine ⟨fun other candidate proper => ?_, fun other candidate proper => ?_,
    @AllInserted.executed _ (state.noted schema revisionId) books.inserted _ _ _ (Or.inl rfl)⟩
  · -- Only this revision of this schema enters the two records.
    have before := books.agrees other candidate proper
    rw [ProvisionerState.executed_recorded, ← List.count_pos_iff, ProvisionerState.count_noted,
      ProvisionerState.executed_executions, inMeta_append, rowAfter_insert]
    split
    · simp
    · rw [Nat.add_zero, List.count_pos_iff]
      exact before
  · rw [ProvisionerState.executed_recorded, ProvisionerState.count_noted]
    split
    · rename_i here
      rw [here.1, here.2, List.count_eq_zero_of_not_mem new]
    · exact books.once other candidate proper

/-- A new revision whose row is refused is on one record only. -/
theorem Books.refused (books : Books state) (proper : revisionId ≠ templateId)
    (new : revisionId ∉ state.recorded schema) (database : δ) :
    Parted ((state.noted schema revisionId).executed (.insertMeta schema revisionId) false database) := by
  -- The memory gains the revision and the table does not, for good as far as the list of
  -- executions goes.
  refine ⟨fun agrees => ?_, fun inserted => ?_⟩
  · have noted : revisionId ∈ ((state.noted schema revisionId).executed
        (.insertMeta schema revisionId) false database).recorded schema := by
      rw [ProvisionerState.executed_recorded, ProvisionerState.noted_recorded]
      simp
    have row := (agrees schema revisionId proper).mp noted
    -- The refused statement left the rows alone, and the revision was on neither record.
    rw [ProvisionerState.executed_executions, inMeta_append] at row
    exact new ((books.agrees schema revisionId proper).mpr row)
  · refine inserted ⟨state.activeSchema, .insertMeta schema revisionId, false⟩ ?_
      ⟨rfl, schema, revisionId, rfl⟩
    simp

/-- A revision whose row is deleted and that is then erased is on neither record. -/
theorem Books.erased (books : Books state) (schema revisionId : String) (database : δ) :
    Books ((state.executed (.deleteMeta schema revisionId) true database).erased schema revisionId) := by
  -- The row goes first and the record in memory after it.
  refine ⟨fun other candidate proper => ?_, fun other candidate proper => ?_, ?_⟩
  · have before := books.agrees other candidate proper
    have once := books.once other candidate proper
    rw [← List.count_pos_iff, ProvisionerState.count_erased, ProvisionerState.executed_recorded,
      ProvisionerState.erased_executions, ProvisionerState.executed_executions, inMeta_append,
      rowAfter_delete]
    split
    · -- It was recorded once, so that erasing one occurrence leaves none.
      simp only [Bool.false_eq_true, iff_false]
      omega
    · rw [Nat.sub_zero, List.count_pos_iff]
      exact before
  · have once := books.once other candidate proper
    rw [ProvisionerState.count_erased, ProvisionerState.executed_recorded]
    omega
  · intro execution member
    rw [ProvisionerState.erased_executions] at member
    exact books.inserted.executed (Or.inl rfl) execution member

/-- A refused deletion changes neither record. -/
theorem Books.undeleted (books : Books state) (schema revisionId : String) (database : δ) :
    Books (state.executed (.deleteMeta schema revisionId) false database) := by
  -- The row stays, and memory is not reached.
  refine ⟨fun other candidate proper => ?_, books.once, books.inserted.executed (Or.inr ?_)⟩
  · rw [ProvisionerState.executed_executions, inMeta_append]
    exact books.agrees other candidate proper
  · intro _ _ row
    cases row

variable {provisioner : SchemaProvisioner δ}

/-- The books while different revisions of a schema wait to be recorded. -/
structure Waiting (schema : String) (pending : List Revision) (state : ProvisionerState δ) : Prop where
  books : Books state
  new : ∀ revision ∈ pending, revision.revisionId ∉ state.recorded schema
  distinct : (pending.map Revision.revisionId).Nodup

/-- What is raised with: the books in order, or just parted. -/
def Settled (state : ProvisionerState δ) : Prop := Books state ∨ Parted state

private theorem stable_waiting {pending : List Revision} :
    Stable (Waiting schema pending : ProvisionerState δ → Prop) where
  activated state name waiting :=
    ⟨stable_books.activated state name waiting.books, waiting.new, waiting.distinct⟩
  executed state statement succeeded database plain waiting :=
    ⟨stable_books.executed state statement succeeded database plain waiting.books, waiting.new,
      waiting.distinct⟩

private theorem Waiting.noted {revision : Revision} {pending : List Revision}
    (waiting : Waiting schema (revision :: pending) state) :
    (∀ other ∈ pending, other.revisionId ∉
      (state.noted schema revision.revisionId).recorded schema) ∧
      (pending.map Revision.revisionId).Nodup := by
  -- The revisions still waiting differ from the one just recorded.
  obtain ⟨apart, distinct⟩ := List.nodup_cons.mp waiting.distinct
  refine ⟨fun other member => ?_, distinct⟩
  rw [ProvisionerState.noted_recorded, if_pos rfl, List.mem_append, List.mem_singleton, not_or]
  refine ⟨waiting.new other (by simp [member]), fun same => apart ?_⟩
  exact List.mem_map.mpr ⟨other, member, same⟩

private theorem triple_applyRevision_waiting {revision : Revision} {pending : List Revision}
    {appliedCount : Nat} :
    Run.Triple (Waiting schema (revision :: pending))
      (provisioner.applyRevision schema appliedCount revision)
      (fun _ => Waiting schema pending) Settled := by
  -- The up statements touch no row; the books can part only where the row is inserted.
  have plain : ∀ statement ∈ revision.ups, ¬statement.IsRow := by
    intro statement member
    obtain ⟨_, _, rfl⟩ := List.mem_map.mp member
    exact id
  have steps := @triple_applyRevision _ provisioner Settled schema revision appliedCount
    (fun _ => Waiting schema pending) (fun ups state => (∀ statement ∈ ups, ¬statement.IsRow) ∧
      Waiting schema (revision :: pending) state) ?_ ?_
  · exact steps.imp (fun _ waiting => ⟨plain, waiting⟩) (fun _ _ final => final) fun _ final => final
  · intro statement rest
    refine triple_execute ?_ ?_
    · rintro state database ⟨rows, waiting⟩ _
      refine ⟨fun later member => rows later (by simp [member]), ?_⟩
      exact stable_waiting.executed state statement true database (rows statement (by simp)) waiting
    · rintro state database ⟨rows, waiting⟩ _
      exact Or.inl (stable_books.executed state statement false database (rows statement (by simp))
        waiting.books)
  · refine triple_record ?_ ?_ ?_
    · rintro state ⟨-, waiting⟩ template
      obtain ⟨new, distinct⟩ := waiting.noted
      exact ⟨template ▸ waiting.books.noted_template schema, new, distinct⟩
    · rintro state database ⟨-, waiting⟩ proper _
      obtain ⟨new, distinct⟩ := waiting.noted
      exact ⟨waiting.books.recorded (waiting.new revision (by simp)) database, new, distinct⟩
    · rintro state database ⟨-, waiting⟩ proper _
      exact Or.inr (waiting.books.refused proper (waiting.new revision (by simp)) database)

section Runs

variable (unloaded : provisioner.loadApplied = none)
  (distinct : (provisioner.revisions.map Revision.revisionId).Nodup)

include unloaded distinct

/-- A call keeps the books in order, or parts them by a refused insertion. -/
theorem Books.perform (books : Books state) (call : Call) :
    Settled (provisioner.perform state call) := by
  -- Only a migration inserts rows. The other calls keep the books in order wherever they stop.
  cases call with
  | createTenantSchema tenant =>
    exact Or.inl (holds_stateAfter (stable_books.createTenantSchema fun state schema books =>
      books.noted_template schema) books)
  | migrateAll tenants =>
    have loop : Run.Triple Books (provisioner.migrateAll tenants) (fun _ => Books) Settled :=
      Run.triple_foldlM_of_mem ?_ 0
    · exact holds_stateAfter (loop.post fun _ _ final => Or.inl final) books
    · intro tenant _ total
      refine triple_migrateTenant unloaded (fun schema pending _ => Waiting schema pending)
        ?_ ?_ ?_ ?_ ?_ ?_
      · exact fun _ _ books => Or.inl books
      · exact fun _ _ _ books _ => books
      · intro schema state database _ books _ _
        -- What is pending is not recorded, and all ids are different.
        refine ⟨stable_books.executed _ _ true database id (stable_books.activated state schema books),
          fun revision member => ?_, distinct.sublist (List.filter_sublist.map _)⟩
        simpa using (List.mem_filter.mp member).2
      · exact fun schema state database _ books _ _ => Or.inl
          (stable_books.executed _ _ false database id (stable_books.activated state schema books))
      · exact fun _ _ _ _ _ => triple_applyRevision_waiting
      · exact fun _ _ _ _ waiting => waiting.books
  | downgrade tenant targetRevision =>
    have rollback := @triple_downgrade _ provisioner Books Settled unloaded tenant targetRevision
      (fun _ => Books) (fun _ _ _ => Books) (fun _ books => Or.inl books)
      (fun schema state _ books => stable_books.activated state schema books) ?_
      (fun _ _ _ books => books)
    · exact holds_stateAfter (rollback.post fun _ _ final => Or.inl final) books
    · intro schema revisionId rest undone
      refine stable_books.undoRevision (fun _ books => Or.inl books) ?_ ?_
      · exact fun state database books _ => books.erased schema revisionId database
      · exact fun state database books => Or.inl (books.undeleted schema revisionId database)

omit unloaded distinct in
private theorem lasting_refusal : Lasting fun state : ProvisionerState δ => ¬AllInserted state where
  activated _ _ refused := refused
  executed _ _ _ _ refused inserted :=
    refused fun execution member => inserted execution (List.mem_append_left _ member)
  noted _ _ _ refused := refused
  erased state schema revisionId refused inserted := by
    -- Erasing from the record in memory executes nothing.
    apply refused
    intro execution member
    exact inserted execution (by rw [ProvisionerState.erased_executions]; exact member)

omit distinct in
/-- What was once refused stays on the list of executions. -/
theorem not_allInserted_run (refused : ¬AllInserted state) (calls : List Call) :
    ¬AllInserted (calls.foldl provisioner.perform state) := by
  -- Executions are only ever added.
  induction calls generalizing state with
  | nil => exact refused
  | cons call rest ih => exact ih (lasting_refusal.perform unloaded refused call)

/-- From books in order, both records agree in all of a run exactly when no insertion is refused. -/
theorem always_agrees_iff (books : Books state) (calls : List Call) :
    Run.Always provisioner.perform Agrees state calls ↔
      AllInserted (calls.foldl provisioner.perform state) := by
  -- Call by call: the books stay in order, or both sides fail for good.
  induction calls generalizing state with
  | nil => exact iff_of_true books.agrees books.inserted
  | cons call rest ih =>
    rcases books.perform unloaded distinct call with kept | parted
    · rw [Run.Always, and_iff_right books.agrees]
      exact ih kept
    · apply iff_of_false
      · rintro ⟨-, later⟩
        apply parted.1
        cases rest with
        | nil => exact later
        | cons second rest => exact later.1
      · exact not_allInserted_run unloaded parted.2 rest

/--
In every run of a new provisioner whose revisions have different ids, the record in memory names the
revisions in `jol_schema_meta`, after every call, exactly when no insertion of a row is refused.

The record is extended before the row is inserted, so a refused insertion leaves a revision on it that
the table does not have; a rollback deletes the row first and has no such state.
-/
theorem bookkeeping_agrees_iff (database : δ) (calls : List Call) :
    Run.Always provisioner.perform Agrees (.new database) calls ↔
      AllInserted (calls.foldl provisioner.perform (.new database)) := by
  -- A new provisioner has nothing on either record.
  refine always_agrees_iff unloaded distinct ⟨?_, ?_, ?_⟩ calls
  · intro schema revisionId _
    simp [ProvisionerState.recorded, ProvisionerState.new, inMeta]
  · intro schema revisionId _
    simp [ProvisionerState.recorded, ProvisionerState.new]
  · intro execution member
    cases member

end Runs

/-- A provisioner with one revision, whose executor raises on one text. -/
def refusingProvisioner (refused : String) : SchemaProvisioner Unit where
  templateSql := ""
  executor := fun _ text => if text = refused then throw "deadlock detected" else pure ()
  revisions := [⟨"001_init", "CREATE TABLE t1(id)", "DROP TABLE t1"⟩]

/-- After a rollback whose down artifact fails both records still agree. -/
theorem bookkeeping_agrees_after_rollback :
    let tenant := sampleTenant "6f1c9f0a-53c4-4d8e-9a57-0c2b7f1e8d3a"
    Run.Always (refusingProvisioner "DROP TABLE t1").perform Agrees (.new ())
      [.migrateAll [tenant], .downgrade tenant ""] := by
  -- The whole run as the executor saw it; what was refused is a down statement.
  intro tenant
  refine (bookkeeping_agrees_iff rfl (by decide) () _).mpr ?_
  have ran : ([.migrateAll [tenant], .downgrade tenant ""].foldl
      (refusingProvisioner "DROP TABLE t1").perform (.new ())).executions.map
        (fun execution => (execution.statement, execution.succeeded)) =
      [(.createMeta "tenant_6f1c9f0a53c44d8e9a570c2b7f1e8d3a", true),
        (.up ⟨"001_init", "CREATE TABLE t1(id)", "DROP TABLE t1"⟩ 0 "CREATE TABLE t1(id)", true),
        (.insertMeta "tenant_6f1c9f0a53c44d8e9a570c2b7f1e8d3a" "001_init", true),
        (.down "DROP TABLE t1", false)] := by
    decide +kernel
  intro execution member
  have listed := ran ▸ List.mem_map_of_mem (f := fun execution : Execution =>
    (execution.statement, execution.succeeded)) member
  rintro ⟨refused, schema, revisionId, row⟩
  simp [refused, row] at listed

/-- After a refused insertion the record in memory has a revision that the table has not. -/
theorem bookkeeping_parted_by_refused_insert :
    let tenant := sampleTenant "6f1c9f0a-53c4-4d8e-9a57-0c2b7f1e8d3a"
    ¬Run.Always (refusingProvisioner (Statement.insertMeta
        "tenant_6f1c9f0a53c44d8e9a570c2b7f1e8d3a" "001_init").text).perform Agrees (.new ())
      [.migrateAll [tenant]] := by
  -- Memory names the revision, the table does not.
  rintro tenant ⟨-, agrees⟩
  have both := agrees "tenant_6f1c9f0a53c44d8e9a570c2b7f1e8d3a" "001_init" (by decide)
  revert both
  decide +kernel

end SchemaProvisioner

end JolCommerce
