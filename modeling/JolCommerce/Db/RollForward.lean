import JolCommerce.Db.RevisionPrefix
import JolCommerce.Db.Rollback

/-! A rollback undoes exactly the revisions after its target, and a migration applies them again. -/

namespace JolCommerce

open Python

namespace ProvisionerState

variable {δ : Type} (state : ProvisionerState δ)

/-- Statements and the record in memory do not see each other. -/
theorem noted_issued (schema revisionId : String) (statements : List Statement) (database : δ) :
    (state.noted schema revisionId).issued statements database =
      (state.issued statements database).noted schema revisionId := rfl

end ProvisionerState

namespace SchemaProvisioner

variable {δ : Type} {provisioner : SchemaProvisioner δ} {schema : String}
  {state : ProvisionerState δ} {database : δ}

/-- Noting revisions in memory is seen by no statement. -/
theorem noting_noted (schema : String) :
    Noting fun (state : ProvisionerState δ) revisionId => state.noted schema revisionId where
  active _ _ := rfl
  database _ _ := rfl
  issued _ _ _ _ := rfl

/-- The statements that apply and record a revision. -/
def applyStatements (schema : String) (revision : Revision) : List Statement :=
  revision.ups ++ rows schema revision.revisionId

/-- A revision is recorded in memory, and in its table where its row is carried out. -/
theorem run_record_carried {revisionId : String} (active : state.activeSchema = schema)
    (carried : provisioner.carryOut state.database (issuedIn schema (rows schema revisionId)) =
      some database) :
    (provisioner.record schema revisionId).run state =
      .ok () ((state.noted schema revisionId).issued (rows schema revisionId) database) := by
  subst active
  -- The template has no row.
  unfold rows at carried ⊢
  unfold record
  by_cases template : revisionId = templateId
  · simp only [template, if_true] at carried ⊢
    obtain rfl : state.database = database := by simpa [issuedIn, SchemaProvisioner.carryOut] using carried
    simp [ProvisionerState.issued, ProvisionerState.noted]
  · simp only [template, if_false] at carried ⊢
    have ran := @run_forM_carried _ provisioner (state.noted state.activeSchema revisionId) database
      [.insertMeta state.activeSchema revisionId] carried
    simpa using ran

/-- A revision is applied where its statements are carried out. -/
theorem run_applyRevision_carried {revision : Revision} {count : Nat}
    (active : state.activeSchema = schema)
    (carried : provisioner.carryOut state.database
      (issuedIn schema (applyStatements schema revision)) = some database) :
    (provisioner.applyRevision schema count revision).run state = .ok (count + 1)
      ((state.issued (applyStatements schema revision) database).noted schema revision.revisionId) := by
  -- First the statements of the artifact, then the row.
  have split : provisioner.carryOut state.database (issuedIn schema (applyStatements schema revision)) =
      (provisioner.carryOut state.database (issuedIn schema revision.ups)).bind fun middle =>
        provisioner.carryOut middle (issuedIn schema (rows schema revision.revisionId)) := by
    rw [← carryOut_append]
    simp only [issuedIn, applyStatements, List.map_append]
  rw [split] at carried
  obtain ⟨middle, first, second⟩ := Option.bind_eq_some_iff.mp carried
  have row := @run_record_carried _ provisioner schema (state.issued revision.ups middle) database
    revision.revisionId active second
  subst active
  simp only [applyRevision, EStateM.run_bind, run_forM_carried first, row]
  rw [ProvisionerState.noted_issued, ProvisionerState.issued_append]
  rfl

/-- An executor that carries out every statement. -/
def NeverFails (provisioner : SchemaProvisioner δ) : Prop :=
  ∀ active text database, ∃ after, (provisioner.executor active text).run database = .ok () after

/-- Such an executor carries out everything. -/
theorem NeverFails.carryOut (never : provisioner.NeverFails) (issued : List (String × Statement))
    (database : δ) : ∃ after, provisioner.carryOut database issued = some after := by
  -- Statement by statement, each on the database the one before left.
  induction issued generalizing database with
  | nil => exact ⟨database, rfl⟩
  | cons first rest ih =>
    obtain ⟨schema, statement⟩ := first
    obtain ⟨middle, accepted⟩ := never schema statement.text database
    obtain ⟨after, carried⟩ := ih middle
    refine ⟨after, ?_⟩
    unfold SchemaProvisioner.carryOut at carried ⊢
    simp only [List.foldlM_cons, accepted]
    exact carried

/-- Noted revisions come last in the list of their schema. -/
theorem recorded_foldl_noted (revisionIds : List String) (state : ProvisionerState δ) :
    (revisionIds.foldl (fun state revisionId => state.noted schema revisionId) state).recorded schema =
      state.recorded schema ++ revisionIds := by
  -- Each revision noted goes to the end of the list.
  induction revisionIds generalizing state with
  | nil => simp
  | cons revisionId rest ih =>
    rw [List.foldl_cons, ih, ProvisionerState.noted_recorded, if_pos rfl]
    simp

/-- Forgotten revisions leave the list of their schema. -/
theorem recorded_foldl_erased (revisionIds : List String) (state : ProvisionerState δ) :
    (revisionIds.foldl (fun state revisionId => state.erased schema revisionId) state).recorded schema =
      (state.recorded schema).diff revisionIds := by
  induction revisionIds generalizing state with
  | nil => rfl
  | cons revisionId rest ih =>
    rw [List.foldl_cons, ih, ProvisionerState.erased_recorded, if_pos rfl, List.diff_cons]

/-- Nothing that is noted is executed. -/
theorem executions_foldl_noted (revisionIds : List String) (state : ProvisionerState δ) :
    (revisionIds.foldl (fun state revisionId => state.noted schema revisionId) state).executions =
      state.executions := by
  induction revisionIds generalizing state with
  | nil => rfl
  | cons revisionId rest ih => rw [List.foldl_cons, ih, ProvisionerState.noted_executions]

/-- What a migration issues in a schema with some revisions pending. -/
def migrationStatements (schema : String) (pending : List Revision) : List Statement :=
  if pending = [] then [] else .createMeta schema :: pending.flatMap (applyStatements schema)

/-- A migration that is carried out issues that and notes all pending revisions. -/
theorem run_migrateTenant_carried (unloaded : provisioner.loadApplied = none) {tenant : Tenant}
    (named : tenant.schemaName = .ok schema) (count : Nat) {pending : List Revision}
    (missing : provisioner.missing (state.recorded schema) = pending)
    (carried : provisioner.carryOut state.database
      (issuedIn schema (migrationStatements schema pending)) = some database) :
    ∃ final, (provisioner.migrateTenant count tenant).run state = .ok (count + pending.length) final ∧
      final.executions = state.executions ++
        (migrationStatements schema pending).map (fun statement => ⟨schema, statement, true⟩) ∧
      final.recorded schema = state.recorded schema ++ pending.map Revision.revisionId := by
  have validated := run_validatedSchema named state
  have reading := @pending_run _ provisioner unloaded schema state
  rw [missing] at reading
  unfold migrationStatements at carried ⊢
  simp only [migrateTenant, EStateM.run_bind, validated, reading]
  -- Without a pending revision nothing is issued, not even the table.
  by_cases empty : pending = []
  · subst empty
    exact ⟨state, rfl, by simp, by simp⟩
  · simp only [empty, if_false] at carried ⊢
    -- First the table, then one turn for each revision.
    have split : issuedIn schema (.createMeta schema :: pending.flatMap (applyStatements schema)) =
        issuedIn schema [.createMeta schema] ++
          issuedIn schema (pending.flatMap (applyStatements schema)) := rfl
    rw [split, carryOut_append] at carried
    obtain ⟨middle, first, second⟩ := Option.bind_eq_some_iff.mp carried
    have table := @run_forM_carried _ provisioner (state.activated schema) middle
      [.createMeta schema] first
    have turns := @run_turns _ provisioner schema
      ((state.activated schema).issued [.createMeta schema] middle) database _
      (provisioner.applyRevision schema) (applyStatements schema) Revision.revisionId _
      (noting_noted schema) pending (fun revision _ _ _ _ active => run_applyRevision_carried active)
      count rfl second
    have alone : [Statement.createMeta schema].forM provisioner.execute =
        provisioner.execute (.createMeta schema) := by simp
    have active : (activate schema : ProvisionerM δ Unit).run state = .ok () (state.activated schema) := rfl
    rw [alone] at table
    simp only [EStateM.run_bind, active, table, turns]
    refine ⟨_, rfl, ?_, ?_⟩
    · rw [executions_foldl_noted]
      simp
    · rw [recorded_foldl_noted]
      simp

/-- Ids that increase are those up to a target, followed by those after it. -/
theorem upTo_append_after {revisions : List Revision}
    (increasing : (revisions.map Revision.revisionId).Pairwise (· < ·)) (target : String) :
    (revisions.filter fun revision => revision.revisionId ≤ target) ++
      (revisions.filter fun revision => target < revision.revisionId) = revisions := by
  induction revisions with
  | nil => rfl
  | cons revision rest ih =>
    rw [List.map_cons, List.pairwise_cons] at increasing
    obtain ⟨least, later⟩ := increasing
    by_cases upTo : revision.revisionId ≤ target
    · simp only [List.filter_cons, upTo, decide_true, if_true, not_lt.mpr upTo, decide_false]
      simpa using ih later
    · -- From the first id after the target on, all are.
      have after : target < revision.revisionId := not_le.mp upTo
      have all : ∀ other ∈ rest, target < other.revisionId := fun other member =>
        after.trans (least other.revisionId (List.mem_map_of_mem member))
      have none : (rest.filter fun other => other.revisionId ≤ target) = [] := by
        rw [List.filter_eq_nil_iff]
        intro other member
        simpa using all other member
      have every : (rest.filter fun other => target < other.revisionId) = rest := by
        rw [List.filter_eq_self]
        intro other member
        simpa using all other member
      rw [List.filter_cons_of_neg (by simpa using upTo), List.filter_cons_of_pos (by simpa using after),
        none, every, List.nil_append]

/-- The ids after a target, the last one first. -/
private theorem filter_after_target {kept undone : List Revision} {target : String}
    (upTo : ∀ revision ∈ kept, revision.revisionId ≤ target)
    (after : ∀ revision ∈ undone, target < revision.revisionId) :
    (((kept ++ undone).map Revision.revisionId).reverse.filter fun revisionId =>
      target < revisionId) = undone.reverse.map Revision.revisionId := by
  -- None of those kept comes after the target, and all of the others do.
  have none : kept.reverse.filter (fun revision => target < revision.revisionId) = [] := by
    rw [List.filter_eq_nil_iff]
    intro revision member
    rw [decide_eq_true_eq]
    exact not_lt.mpr (upTo revision (List.mem_reverse.mp member))
  have every : undone.reverse.filter (fun revision => target < revision.revisionId) =
      undone.reverse := by
    rw [List.filter_eq_self]
    intro revision member
    simpa using after revision (List.mem_reverse.mp member)
  have filtered : (undone.reverse ++ kept.reverse).filter
      (fun revision => target < revision.revisionId) = undone.reverse := by
    rw [List.filter_append, none, every, List.append_nil]
  rw [← List.map_reverse, List.reverse_append, List.filter_map]
  exact congrArg (List.map Revision.revisionId) filtered

/-- Without them the ids kept are left. -/
private theorem diff_after_target {kept undone : List Revision} {target : String}
    (distinct : ((kept ++ undone).map Revision.revisionId).Nodup)
    (upTo : ∀ revision ∈ kept, revision.revisionId ≤ target)
    (after : ∀ revision ∈ undone, target < revision.revisionId) :
    ((kept ++ undone).map Revision.revisionId).diff (undone.reverse.map Revision.revisionId) =
      kept.map Revision.revisionId := by
  rw [distinct.sdiff_eq_filter, List.map_append, List.filter_append]
  -- An id kept is at most the target, so it is none of those undone.
  have every : (kept.map Revision.revisionId).filter
      (fun revisionId => revisionId ∉ undone.reverse.map Revision.revisionId) =
        kept.map Revision.revisionId := by
    rw [List.filter_eq_self]
    intro revisionId member
    obtain ⟨revision, inKept, rfl⟩ := List.mem_map.mp member
    have apart : ∀ other ∈ undone, other.revisionId ≠ revision.revisionId := fun other inUndone =>
      ((upTo revision inKept).trans_lt (after other inUndone)).ne'
    simpa using apart
  have none : (undone.map Revision.revisionId).filter
      (fun revisionId => revisionId ∉ undone.reverse.map Revision.revisionId) = [] := by
    rw [List.filter_eq_nil_iff]
    intro revisionId member
    simpa using member
  rw [every, none, List.append_nil]

section Increasing

variable (increasing : provisioner.ids.Pairwise (· < ·))

include increasing

/-- A revision is found by its id. -/
theorem byId?_of_mem {revision : Revision} (member : revision ∈ provisioner.revisions) :
    provisioner.byId? revision.revisionId = some revision := by
  obtain ⟨front, back, split⟩ := List.append_of_mem member
  unfold ids at increasing
  rw [split, List.map_append, List.map_cons, List.pairwise_append, List.pairwise_cons] at increasing
  -- No revision before it or after it has this id.
  have before : front.filter (fun other => other.revisionId = revision.revisionId) = [] := by
    rw [List.filter_eq_nil_iff]
    intro other earlier
    have less := increasing.2.2 _ (List.mem_map_of_mem earlier) revision.revisionId (by simp)
    simpa using less.ne
  have after : back.filter (fun other => other.revisionId = revision.revisionId) = [] := by
    rw [List.filter_eq_nil_iff]
    intro other later
    have greater := increasing.2.1.1 _ (List.mem_map_of_mem later)
    simpa using greater.ne'
  rw [byId?, split, List.filter_append, before, List.filter_cons_of_pos (by simp), after]
  rfl

/-- Where the first revisions are recorded, the others are missing. -/
theorem missing_of_append {kept later : List Revision} (whole : kept ++ later = provisioner.revisions) :
    provisioner.missing (kept.map Revision.revisionId) = later := by
  unfold ids at increasing
  rw [← whole, List.map_append, List.pairwise_append] at increasing
  -- The recorded ones are not missing, and each of the others has a greater id.
  have done : kept.filter (fun revision => revision.revisionId ∉ kept.map Revision.revisionId) = [] := by
    rw [List.filter_eq_nil_iff]
    intro revision member
    simpa using ⟨revision, member, rfl⟩
  have left : later.filter (fun revision => revision.revisionId ∉ kept.map Revision.revisionId) =
      later := by
    rw [List.filter_eq_self]
    intro revision member
    have greater := fun id recorded =>
      increasing.2.2 id recorded revision.revisionId (List.mem_map_of_mem member)
    simpa using fun other recorded same =>
      (greater _ (List.mem_map_of_mem recorded)).ne same
  rw [missing, ← whole, List.filter_append, done, left, List.nil_append]

/-- The statements that undo revisions with artifacts, in the order they are undone. -/
theorem undoPlan_of_mem (artifacts : ∀ revision ∈ provisioner.revisions, revision.downSql ≠ "")
    {revisions : List Revision} (members : ∀ revision ∈ revisions, revision ∈ provisioner.revisions) :
    provisioner.undoPlan schema (revisions.map Revision.revisionId) =
      revisions.flatMap fun revision => revision.downs ++ [.deleteMeta schema revision.revisionId] := by
  -- A revision of the provisioner is found by its own identifier, with its down artifact.
  rw [undoPlan, List.flatMap_map]
  refine List.flatMap_congr fun revision member => ?_
  have known := members revision member
  have found : provisioner.undoable? revision.revisionId = some revision := by
    rw [undoable?, byId?_of_mem increasing known, Option.filter_some]
    simp [artifacts revision known]
  rw [undoStatements, found]

/-- A rollback of revisions with artifacts forgets those after the target and keeps the others. -/
theorem run_downgrade_carried (artifacts : ∀ revision ∈ provisioner.revisions, revision.downSql ≠ "")
    (unloaded : provisioner.loadApplied = none) {tenant : Tenant}
    (named : tenant.schemaName = .ok schema) {kept undone : List Revision} {target : String}
    (members : ∀ revision ∈ undone, revision ∈ provisioner.revisions)
    (recorded : state.recorded schema = (kept ++ undone).map Revision.revisionId)
    (distinct : (state.recorded schema).Nodup)
    (upTo : ∀ revision ∈ kept, revision.revisionId ≤ target)
    (after : ∀ revision ∈ undone, target < revision.revisionId)
    (listed : target ∈ state.recorded schema ∨ target = "")
    (carried : provisioner.carryOut state.database
      (issuedIn schema (undone.reverse.flatMap fun revision =>
        revision.downs ++ [.deleteMeta schema revision.revisionId])) = some database) :
    ∃ final, (provisioner.downgrade tenant target).run state = .ok undone.length final ∧
      final.executions = state.executions ++ (undone.reverse.flatMap fun revision =>
        revision.downs ++ [.deleteMeta schema revision.revisionId]).map
          (fun statement => ⟨schema, statement, true⟩) ∧
      final.recorded schema = kept.map Revision.revisionId := by
  have toUndo : (state.recorded schema).reverse.filter (fun revisionId => target < revisionId) =
      undone.reverse.map Revision.revisionId := by
    rw [recorded]
    exact filter_after_target upTo after
  have forgotten : (state.recorded schema).diff (undone.reverse.map Revision.revisionId) =
      kept.map Revision.revisionId := by
    rw [recorded] at distinct ⊢
    exact diff_after_target distinct upTo after
  -- Each of them is found with its down artifact.
  have undoable : ∀ revisionId ∈ undone.reverse.map Revision.revisionId,
      (provisioner.undoable? revisionId).isSome = true := by
    intro revisionId member
    obtain ⟨revision, inUndone, rfl⟩ := List.mem_map.mp member
    have known := members revision (List.mem_reverse.mp inUndone)
    rw [undoable?, byId?_of_mem increasing known, Option.filter_some]
    simp [artifacts revision known]
  have reads : provisioner.readApplied state schema = .ok (state.recorded schema) := by
    simp only [readApplied, unloaded]
  have plan := @undoPlan_of_mem _ provisioner schema increasing artifacts undone.reverse
    fun revision member => members revision (List.mem_reverse.mp member)
  -- The target is applied, so the rollback gets to its loop.
  cases provisioner.downgrade_start state tenant target with
  | refused error raised other unplanned =>
    exact absurd (by simpa using listed) (unplanned schema _ named reads)
  | entered own applied ownName ownReads _ loop =>
    rw [named] at ownName
    cases ownName
    rw [reads] at ownReads
    cases ownReads
    rw [← plan] at carried ⊢
    have ran := @run_undo_carried _ provisioner schema (state.activated schema) database _ undoable 0 rfl
      carried
    have count : 0 + (undone.reverse.map Revision.revisionId).length = undone.length := by simp
    rw [loop, toUndo, ran, count]
    refine ⟨_, rfl, ?_, ?_⟩
    · simp
    · rw [undoneState, recorded_foldl_erased]
      exact forgotten

end Increasing

/--
A rollback of the first revisions undoes exactly those after its target, newest first, and the next
migration applies them again, with all others that were pending.
-/
theorem downgrade_inverts_migrate (increasing : provisioner.ids.Pairwise (· < ·))
    (artifacts : ∀ revision ∈ provisioner.revisions, revision.downSql ≠ "")
    (unloaded : provisioner.loadApplied = none) (never : provisioner.NeverFails) {tenant : Tenant}
    (named : tenant.schemaName = .ok schema) {k : Nat}
    (migrated : state.recorded schema = (provisioner.revisions.take k).map Revision.revisionId)
    {target : String}
    (listed : target ∈ (provisioner.revisions.take k).map Revision.revisionId ∨ target = "") :
    let applied := provisioner.revisions.take k
    let kept := applied.filter fun revision => revision.revisionId ≤ target
    let undone := applied.filter fun revision => target < revision.revisionId
    let later := provisioner.revisions.drop kept.length
    ∃ after final,
      (provisioner.downgrade tenant target).run state = .ok undone.length after ∧
      after.executions = state.executions ++
        (undone.reverse.flatMap fun revision =>
          revision.downs ++ [.deleteMeta schema revision.revisionId]).map
            (fun statement => ⟨schema, statement, true⟩) ∧
      after.recorded schema = kept.map Revision.revisionId ∧
      kept ++ later = provisioner.revisions ∧
      (provisioner.migrateAll [tenant]).run after = .ok later.length final ∧
      final.executions = after.executions ++
        (migrationStatements schema later).map (fun statement => ⟨schema, statement, true⟩) ∧
      final.recorded schema = provisioner.ids := by
  intro applied kept undone later
  have fromStart : applied <+: provisioner.revisions := List.take_prefix k _
  have ascending : (applied.map Revision.revisionId).Pairwise (· < ·) :=
    increasing.sublist (fromStart.sublist.map Revision.revisionId)
  have split : kept ++ undone = applied := upTo_append_after ascending target
  have whole : kept ++ later = provisioner.revisions :=
    List.prefix_iff_eq_append.mp ((List.prefix_append kept undone).trans (split ▸ fromStart))
  -- The rollback, from the first revisions to those up to the target.
  obtain ⟨rolledBack, undoes⟩ := never.carryOut (issuedIn schema (undone.reverse.flatMap fun revision =>
    revision.downs ++ [.deleteMeta schema revision.revisionId])) state.database
  obtain ⟨after, ranDown, executedDown, recordedDown⟩ := run_downgrade_carried increasing artifacts
    unloaded named (fun revision member => fromStart.subset (List.mem_of_mem_filter member))
    (by rw [split, migrated]) (by rw [migrated]; exact ascending.imp ne_of_lt)
    (fun revision member => by simpa using (List.mem_filter.mp member).2)
    (fun revision member => by simpa using (List.mem_filter.mp member).2)
    (by rw [migrated]; exact listed) undoes
  -- The migration, from there to all revisions.
  have missing : provisioner.missing (after.recorded schema) = later := by
    rw [recordedDown]
    exact missing_of_append increasing whole
  obtain ⟨migratedUp, applies⟩ := never.carryOut (issuedIn schema (migrationStatements schema later))
    after.database
  obtain ⟨final, ranUp, executedUp, recordedUp⟩ :=
    run_migrateTenant_carried unloaded named 0 missing applies
  refine ⟨after, final, ranDown, executedDown, recordedDown, whole, ?_, executedUp, ?_⟩
  · rw [Nat.zero_add] at ranUp
    rw [migrateAll, List.foldlM_cons, EStateM.run_bind, ranUp]
    rfl
  · rw [recordedUp, recordedDown, ← List.map_append, whole]
    rfl

/-- A provisioner with two revisions that can be undone, over an executor that does nothing. -/
def reversibleProvisioner : SchemaProvisioner Unit where
  templateSql := ""
  executor := fun _ _ => pure ()
  revisions := [⟨"001_init", "CREATE TABLE t1(id)", "DROP TABLE t1"⟩,
    ⟨"002_next", "CREATE TABLE t2(id)", "DROP TABLE t2"⟩]

/-- The second of two migrated revisions is undone and applied again. -/
theorem downgrade_inverts_migrate_second :
    let tenant := sampleTenant "6f1c9f0a-53c4-4d8e-9a57-0c2b7f1e8d3a"
    let migrated := reversibleProvisioner.perform (.new ()) (.migrateAll [tenant])
    ∃ after final, (reversibleProvisioner.downgrade tenant "001_init").run migrated = .ok 1 after ∧
      (reversibleProvisioner.migrateAll [tenant]).run after = .ok 1 final ∧
      final.recorded "tenant_6f1c9f0a53c44d8e9a570c2b7f1e8d3a" = ["001_init", "002_next"] := by
  -- Both revisions are applied, the second is undone, and the executor never fails.
  intro tenant migrated
  have named : tenant.schemaName = .ok "tenant_6f1c9f0a53c44d8e9a570c2b7f1e8d3a" := by decide +kernel
  have never : reversibleProvisioner.NeverFails := fun _ _ _ => ⟨(), rfl⟩
  have recorded : migrated.recorded "tenant_6f1c9f0a53c44d8e9a570c2b7f1e8d3a" =
      (reversibleProvisioner.revisions.take 2).map Revision.revisionId := by decide +kernel
  obtain ⟨after, final, down, -, -, -, up, -, all⟩ := downgrade_inverts_migrate (by decide)
    (by decide) rfl never named recorded (Or.inl (by decide) : "001_init" ∈ _ ∨ "001_init" = "")
  exact ⟨after, final, down, up, all⟩

end SchemaProvisioner

end JolCommerce
