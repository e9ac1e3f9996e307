import JolCommerce.Db.FailureIsolation
import Mathlib.Data.List.TakeWhile

/-! A rollback that meets a revision without a down artifact keeps what it undid before. -/

namespace JolCommerce

open Python

namespace ProvisionerState

variable {δ : Type} (state : ProvisionerState δ)

/-- The state after statements that were all carried out. -/
def issued (statements : List Statement) (database : δ) : ProvisionerState δ :=
  { state with
    database
    executions := state.executions ++ statements.map fun statement =>
      ⟨state.activeSchema, statement, true⟩ }

@[simp] theorem issued_executions (statements : List Statement) (database : δ) :
    (state.issued statements database).executions =
      state.executions ++ statements.map fun statement => ⟨state.activeSchema, statement, true⟩ := rfl

@[simp] theorem issued_activeSchema (statements : List Statement) (database : δ) :
    (state.issued statements database).activeSchema = state.activeSchema := rfl

@[simp] theorem issued_database (statements : List Statement) (database : δ) :
    (state.issued statements database).database = database := rfl

@[simp] theorem issued_recorded (statements : List Statement) (database : δ) :
    (state.issued statements database).recorded = state.recorded := rfl

/-- Statements in two parts are issued one part after the other. -/
theorem issued_append (first second : List Statement) (middle database : δ) :
    (state.issued first middle).issued second database = state.issued (first ++ second) database := by
  simp [issued]

/-- Statements and the record in memory do not see each other. -/
theorem erased_issued (schema revisionId : String) (statements : List Statement) (database : δ) :
    (state.erased schema revisionId).issued statements database =
      (state.issued statements database).erased schema revisionId := by
  unfold erased issued
  cases state.applied.get? schema with
  | none => rfl
  | some revisions => rfl

end ProvisionerState

namespace SchemaProvisioner

variable {δ : Type} {provisioner : SchemaProvisioner δ} {schema : String}
  {state : ProvisionerState δ} {database : δ}

/-- What a rollback raises where an artifact is missing. -/
def noDownArtifact (revisionId : String) : ProvisionerError :=
  .provisioning ("No down artifact for revision " ++ quoted revisionId ++
    "; refusing to roll back without an explicit rollback")

/-- What a statement raises that the executor refused. -/
def provisioningFailed (message : String) : ProvisionerError :=
  .provisioning ("Provisioning failed: " ++ message)

/-- A text that begins with another letter is not that of a missing artifact. -/
theorem ne_noDownArtifact {message : String} {lead : Char} {rest : List Char}
    (split : message.toList = lead :: rest) (other : lead ≠ 'N') (revisionId : String) :
    .provisioning message ≠ noDownArtifact revisionId := by
  -- The first letters would have to be equal.
  intro same
  have texts := congrArg String.toList (ProvisionerError.provisioning.inj same)
  have ours : "No down artifact for revision ".toList = 'N' :: "o down artifact for revision ".toList := by
    decide
  rw [split] at texts
  simp only [String.toList_append, ours, List.cons_append] at texts
  exact other (List.cons.inj texts).1

/-- A refused statement is never mistaken for a missing artifact. -/
theorem provisioningFailed_ne (message revisionId : String) :
    provisioningFailed message ≠ noDownArtifact revisionId :=
  ne_noDownArtifact (String.toList_append ..) (by decide) revisionId

variable (provisioner) in
/-- The revision with an id, where it has a down artifact. -/
def undoable? (revisionId : String) : Option Revision :=
  (provisioner.byId? revisionId).filter fun revision => revision.downSql ≠ ""

variable (provisioner) in
/-- The statements that undo a revision: none where that is refused. -/
def undoStatements (schema revisionId : String) : List Statement :=
  match provisioner.undoable? revisionId with
  | some revision => revision.downs ++ [.deleteMeta schema revisionId]
  | none => []

/-- Statements in two parts are carried out one part after the other. -/
theorem carryOut_append (first second : List (String × Statement)) :
    provisioner.carryOut database (first ++ second) =
      (provisioner.carryOut database first).bind fun middle => provisioner.carryOut middle second := by
  unfold carryOut
  rw [List.foldlM_append]
  rfl

/-- What the executor accepts is executed. -/
theorem run_execute_accepted {statement : Statement}
    (accepts : provisioner.Accepts state statement database) :
    (provisioner.execute statement).run state = .ok () (state.executed statement true database) := by
  unfold Accepts at accepts
  simp only [execute, EStateM.run_bind, EStateM.run_get, accepts]
  rfl

/-- What it refuses is executed as well, and raises. -/
theorem run_execute_refused {statement : Statement}
    (refuses : provisioner.Refuses state statement database) :
    ∃ message, (provisioner.execute statement).run state =
      .error (provisioningFailed message) (state.executed statement false database) := by
  obtain ⟨message, raised⟩ := refuses
  refine ⟨message, ?_⟩
  simp only [execute, EStateM.run_bind, EStateM.run_get, raised]
  rfl

/-- Statements are all issued where they are all carried out; else the first refused one raises. -/
theorem run_forM (statements : List Statement) (state : ProvisionerState δ) :
    match provisioner.carryOut state.database (issuedIn state.activeSchema statements) with
    | some database =>
      (statements.forM provisioner.execute).run state = .ok () (state.issued statements database)
    | none => ∃ message after, (statements.forM provisioner.execute).run state =
        .error (provisioningFailed message) after := by
  -- Each statement is judged by the database that those before it left.
  induction statements generalizing state with
  | nil => simp [carryOut, issuedIn, ProvisionerState.issued]
  | cons statement rest ih =>
    have loop : (statement :: rest).forM provisioner.execute =
        (provisioner.execute statement >>= fun _ => rest.forM provisioner.execute) := rfl
    rw [loop, EStateM.run_bind]
    cases ran : (provisioner.executor state.activeSchema statement.text).run state.database with
    | error message after =>
      -- A refused statement ends the list.
      have stopped : provisioner.carryOut state.database
          (issuedIn state.activeSchema (statement :: rest)) = none := by
        simp [carryOut, issuedIn, ran]
      obtain ⟨message, raised⟩ := run_execute_refused ⟨message, ran⟩
      rw [stopped]
      simp only [raised]
      exact ⟨message, _, rfl⟩
    | ok value middle =>
      -- An accepted one leaves the database to the others, which the induction covers.
      have passed : provisioner.carryOut state.database
          (issuedIn state.activeSchema (statement :: rest)) =
            provisioner.carryOut middle (issuedIn state.activeSchema rest) := by
        simp [carryOut, issuedIn, ran]
      have next := ih (state.executed statement true middle)
      rw [passed]
      simp only [run_execute_accepted ran]
      simp only [ProvisionerState.executed_database, ProvisionerState.executed_activeSchema] at next
      cases carried : provisioner.carryOut middle (issuedIn state.activeSchema rest) with
      | none =>
        rw [carried] at next
        exact next
      | some database =>
        rw [carried] at next
        rw [next]
        simp [ProvisionerState.issued, ProvisionerState.executed]

/-- Statements that are all carried out are all issued. -/
theorem run_forM_carried {statements : List Statement}
    (carried : provisioner.carryOut state.database (issuedIn state.activeSchema statements) =
      some database) :
    (statements.forM provisioner.execute).run state = .ok () (state.issued statements database) := by
  have ran := @run_forM _ provisioner statements state
  rwa [carried] at ran

/-- Statements that are not all carried out raise. -/
theorem run_forM_refused {statements : List Statement}
    (refused : provisioner.carryOut state.database (issuedIn state.activeSchema statements) = none) :
    ∃ message after, (statements.forM provisioner.execute).run state =
      .error (provisioningFailed message) after := by
  have ran := @run_forM _ provisioner statements state
  rwa [refused] at ran

/-- The undo of a revision issues its statements and then forgets it. -/
theorem undoRevision_eq {revisionId : String}
    (undoable : (provisioner.undoable? revisionId).isSome = true) (undone : Nat) :
    provisioner.undoRevision schema undone revisionId =
      ((provisioner.undoStatements schema revisionId).forM provisioner.execute >>= fun _ =>
        modify (fun state => state.erased schema revisionId) >>= fun _ => pure (undone + 1)) := by
  obtain ⟨revision, found⟩ := Option.isSome_iff_exists.mp undoable
  -- The deletion of the row is the last of the statements.
  have loop : (revision.downs ++ [Statement.deleteMeta schema revisionId]).forM provisioner.execute =
      (revision.downs.forM provisioner.execute >>= fun _ =>
        provisioner.execute (.deleteMeta schema revisionId)) := by
    simp
  simp only [undoStatements, found, loop, bind_assoc]
  unfold undoable? at found
  simp only [undoRevision, found]

/-- A revision is forgotten after all statements of its undo were carried out. -/
theorem run_undoRevision_carried {revisionId : String}
    (undoable : (provisioner.undoable? revisionId).isSome = true) (undone : Nat)
    (active : state.activeSchema = schema)
    (carried : provisioner.carryOut state.database
      (issuedIn schema (provisioner.undoStatements schema revisionId)) = some database) :
    (provisioner.undoRevision schema undone revisionId).run state = .ok (undone + 1)
      ((state.issued (provisioner.undoStatements schema revisionId) database).erased schema
        revisionId) := by
  subst active
  rw [undoRevision_eq undoable, EStateM.run_bind, run_forM_carried carried]
  rfl

/-- A refused statement of the undo ends it. -/
theorem run_undoRevision_refused {revisionId : String}
    (undoable : (provisioner.undoable? revisionId).isSome = true) (undone : Nat)
    (active : state.activeSchema = schema)
    (refused : provisioner.carryOut state.database
      (issuedIn schema (provisioner.undoStatements schema revisionId)) = none) :
    ∃ message after, (provisioner.undoRevision schema undone revisionId).run state =
      .error (provisioningFailed message) after := by
  subst active
  obtain ⟨message, after, raised⟩ := run_forM_refused refused
  refine ⟨message, after, ?_⟩
  rw [undoRevision_eq undoable, EStateM.run_bind, raised]

/-- A missing artifact ends it before any statement. -/
theorem run_undoRevision_missing {revisionId : String} {undone : Nat}
    (missing : provisioner.undoable? revisionId = none) :
    (provisioner.undoRevision schema undone revisionId).run state =
      .error (noDownArtifact revisionId) state := by
  unfold undoable? at missing
  simp only [undoRevision, missing]
  rfl

variable (provisioner) in
/-- The statements that undo several revisions. -/
def undoPlan (schema : String) (revisionIds : List String) : List Statement :=
  revisionIds.flatMap (provisioner.undoStatements schema)

/-- The state once the executor carried out the undo of several revisions. -/
def undoneState (state : ProvisionerState δ) (schema : String) (revisionIds : List String)
    (statements : List Statement) (database : δ) : ProvisionerState δ :=
  revisionIds.foldl (fun state revisionId => state.erased schema revisionId)
    (state.issued statements database)

/-- Forgetting revisions executes nothing. -/
@[simp] theorem undoneState_executions (revisionIds : List String) (statements : List Statement)
    (database : δ) : (undoneState state schema revisionIds statements database).executions =
      state.executions ++ statements.map fun statement => ⟨state.activeSchema, statement, true⟩ := by
  -- One forgotten revision at a time, on any state.
  unfold undoneState
  have forgets : ∀ (ids : List String) (state : ProvisionerState δ),
      (ids.foldl (fun state revisionId => state.erased schema revisionId) state).executions =
        state.executions := by
    intro ids
    induction ids with
    | nil => exact fun _ => rfl
    | cons revisionId rest ih =>
      intro state
      rw [List.foldl_cons, ih, ProvisionerState.erased_executions]
  rw [forgets, ProvisionerState.issued_executions]

/-- What the first item needs is carried out before what the others need. -/
theorem carryOut_flatMap_cons {γ : Type} (statements : γ → List Statement) (schema : String)
    (item : γ) (rest : List γ) (database : δ) :
    provisioner.carryOut database (issuedIn schema ((item :: rest).flatMap statements)) =
      (provisioner.carryOut database (issuedIn schema (statements item))).bind fun middle =>
        provisioner.carryOut middle (issuedIn schema (rest.flatMap statements)) := by
  rw [← carryOut_append]
  simp only [issuedIn, List.flatMap_cons, List.map_append]

/-- What a loop notes in memory, apart from the statements of its turns. -/
structure Noting (note : ProvisionerState δ → String → ProvisionerState δ) : Prop where
  active : ∀ state revisionId, (note state revisionId).activeSchema = state.activeSchema
  database : ∀ state revisionId, (note state revisionId).database = state.database
  issued : ∀ state revisionId statements database,
    (note state revisionId).issued statements database = note (state.issued statements database) revisionId

/-- A loop whose turns each issue statements and note a revision: all of it, then all notes. -/
theorem run_turns {γ : Type} {body : Nat → γ → ProvisionerM δ Nat} {statements : γ → List Statement}
    {name : γ → String} {note : ProvisionerState δ → String → ProvisionerState δ} (noting : Noting note)
    {items : List γ}
    (turn : ∀ item ∈ items, ∀ (count : Nat) (state : ProvisionerState δ) (database : δ),
      state.activeSchema = schema →
      provisioner.carryOut state.database (issuedIn schema (statements item)) = some database →
      (body count item).run state =
        .ok (count + 1) (note (state.issued (statements item) database) (name item)))
    (count : Nat) (active : state.activeSchema = schema)
    (carried : provisioner.carryOut state.database (issuedIn schema (items.flatMap statements)) =
      some database) :
    (items.foldlM body count).run state = .ok (count + items.length)
      ((items.map name).foldl note (state.issued (items.flatMap statements) database)) := by
  -- One turn at a time; what is noted first could as well be noted at the end.
  induction items generalizing state count with
  | nil =>
    obtain rfl : state.database = database := by simpa [issuedIn, carryOut] using carried
    simp [ProvisionerState.issued]
  | cons item rest ih =>
    obtain ⟨here, later⟩ := List.forall_mem_cons.mp turn
    rw [carryOut_flatMap_cons] at carried
    obtain ⟨middle, first, second⟩ := Option.bind_eq_some_iff.mp carried
    have next := @ih (note (state.issued (statements item) middle) (name item)) later (count + 1)
      (by rw [noting.active]; exact active) (by rw [noting.database]; exact second)
    rw [List.foldlM_cons, EStateM.run_bind, here count state middle active first]
    simp only [next, noting.issued, ProvisionerState.issued_append]
    simp only [List.flatMap_cons, List.length_cons, List.map_cons, List.foldl_cons, add_assoc,
      Nat.add_comm 1]

/-- Forgetting revisions in memory is seen by no statement. -/
theorem noting_erased (schema : String) :
    Noting fun (state : ProvisionerState δ) revisionId => state.erased schema revisionId where
  active state _ := state.erased_activeSchema schema _
  database state _ := state.erased_database schema _
  issued state _ := state.erased_issued schema _

/-- Revisions with artifacts are undone where the executor carries everything out. -/
theorem run_undo_carried {revisionIds : List String}
    (undoable : ∀ revisionId ∈ revisionIds, (provisioner.undoable? revisionId).isSome = true)
    (undone : Nat) (active : state.activeSchema = schema)
    (carried : provisioner.carryOut state.database
      (issuedIn schema (provisioner.undoPlan schema revisionIds)) = some database) :
    (revisionIds.foldlM (provisioner.undoRevision schema) undone).run state =
      .ok (undone + revisionIds.length)
        (undoneState state schema revisionIds (provisioner.undoPlan schema revisionIds) database) := by
  -- Each revision is one turn, whose statements are carried out and whose row is erased.
  have ran := @run_turns _ provisioner schema state database _ (provisioner.undoRevision schema)
    (provisioner.undoStatements schema) id _ (noting_erased schema) revisionIds
    (fun revisionId member count _ _ here =>
      run_undoRevision_carried (undoable revisionId member) count here) undone active carried
  rw [List.map_id] at ran
  exact ran

/-- Where it refuses something the undo raises that. -/
theorem run_undo_refused {revisionIds : List String}
    (undoable : ∀ revisionId ∈ revisionIds, (provisioner.undoable? revisionId).isSome = true)
    (undone : Nat) (active : state.activeSchema = schema)
    (refused : provisioner.carryOut state.database
      (issuedIn schema (provisioner.undoPlan schema revisionIds)) = none) :
    ∃ message after, (revisionIds.foldlM (provisioner.undoRevision schema) undone).run state =
      .error (provisioningFailed message) after := by
  -- The refused statement belongs to the first revision or to one of the rest.
  induction revisionIds generalizing state undone with
  | nil => simp [undoPlan, issuedIn, carryOut] at refused
  | cons revisionId rest ih =>
    obtain ⟨here, later⟩ := List.forall_mem_cons.mp undoable
    rw [undoPlan, carryOut_flatMap_cons] at refused
    rw [List.foldlM_cons, EStateM.run_bind]
    cases first : provisioner.carryOut state.database
        (issuedIn schema (provisioner.undoStatements schema revisionId)) with
    | none =>
      obtain ⟨message, after, raised⟩ := run_undoRevision_refused here undone active first
      exact ⟨message, after, by rw [raised]⟩
    | some middle =>
      rw [first] at refused
      have next := @ih ((state.issued (provisioner.undoStatements schema revisionId) middle).erased
        schema revisionId) later (undone + 1) (by simpa using active) (by simpa [undoPlan] using refused)
      rw [run_undoRevision_carried here undone active first]
      exact next

/-- A tenant's schema name is validated without any effect. -/
theorem run_validatedSchema {tenant : Tenant} (named : tenant.schemaName = .ok schema)
    (state : ProvisionerState δ) :
    (validatedSchema tenant : ProvisionerM δ String).run state = .ok schema state := by
  simp [validatedSchema, named, Tenant.schemaName_safe named]

variable (provisioner) in
/-- The applied revisions of a schema, as memory or the loader tells them. -/
def readApplied (state : ProvisionerState δ) (schema : String) : Except String (List String) :=
  match provisioner.loadApplied with
  | none => .ok (state.recorded schema)
  | some load => load state.database schema

/-- Reading them has no effect. -/
theorem run_appliedRevisions (schema : String) (state : ProvisionerState δ) :
    (provisioner.appliedRevisions schema).run state =
      match provisioner.readApplied state schema with
      | .ok applied => .ok applied state
      | .error message => .error (.loader message) state := by
  -- Reading changes nothing, whether there is a loader or not.
  simp only [appliedRevisions, readApplied, EStateM.run_bind, EStateM.run_get]
  cases provisioner.loadApplied with
  | none => rfl
  | some load =>
    simp only
    cases load state.database schema with
    | ok applied => rfl
    | error message => rfl

/-- Every way a rollback begins. -/
inductive DowngradeStart (provisioner : SchemaProvisioner δ) (state : ProvisionerState δ)
    (tenant : Tenant) (target : String) : Prop where
  /-- It raised before it looked at any revision. -/
  | refused (error : ProvisionerError)
    (raised : (provisioner.downgrade tenant target).run state = .error error state)
    (other : ∀ revisionId, error ≠ noDownArtifact revisionId)
    (unplanned : ∀ schema applied, tenant.schemaName = .ok schema →
      provisioner.readApplied state schema = .ok applied → target ∉ applied ++ [""])
  | entered (schema : String) (applied : List String) (named : tenant.schemaName = .ok schema)
    (reads : provisioner.readApplied state schema = .ok applied) (listed : target ∈ applied ++ [""])
    (loop : (provisioner.downgrade tenant target).run state =
      ((applied.reverse.filter fun revisionId => target < revisionId).foldlM
        (provisioner.undoRevision schema) 0).run (state.activated schema))

/-- A target that is not applied is another refusal than a missing artifact. -/
private theorem notApplied_ne_noDownArtifact (target schema revisionId : String) :
    .provisioning ("Target revision " ++ quoted target ++ " is not applied to " ++ schema) ≠
      noDownArtifact revisionId := by
  -- The two messages differ in their first letter.
  have text : ("Target revision " ++ quoted target ++ " is not applied to " ++ schema).toList =
      'T' :: ("arget revision ".toList ++ (quoted target).toList ++
        " is not applied to ".toList ++ schema.toList) := by
    simp only [String.toList_append]
    rfl
  exact ne_noDownArtifact text (by decide) revisionId

/-- What a rollback of a tenant with a schema does before its loop, from what it reads. -/
private theorem run_downgrade_named {tenant : Tenant} (named : tenant.schemaName = .ok schema)
    (target : String) :
    (provisioner.downgrade tenant target).run state =
      match provisioner.readApplied state schema with
      | .error message => .error (.loader message) state
      | .ok applied =>
        if target ∈ applied ++ [""] then
          ((applied.reverse.filter fun revisionId => target < revisionId).foldlM
            (provisioner.undoRevision schema) 0).run (state.activated schema)
        else .error (.provisioning ("Target revision " ++ quoted target ++
          " is not applied to " ++ schema)) state := by
  have validated := run_validatedSchema named state
  have reading := @run_appliedRevisions _ provisioner schema state
  -- The list is read first, and then the target is looked up in it.
  cases reads : provisioner.readApplied state schema with
  | error message =>
    rw [reads] at reading
    simp [downgrade, EStateM.run_bind, validated, reading]
  | ok applied =>
    rw [reads] at reading
    by_cases listed : target ∈ applied ++ [""]
    · simp only [downgrade, EStateM.run_bind, validated, reading, listed, not_true, if_false, if_true]
      rfl
    · simp only [downgrade, EStateM.run_bind, validated, reading, listed, not_false_iff, if_true,
        if_false]
      rfl

/-- A rollback begins in exactly these ways. -/
theorem downgrade_start (provisioner : SchemaProvisioner δ) (state : ProvisionerState δ)
    (tenant : Tenant) (target : String) : DowngradeStart provisioner state tenant target := by
  -- Three checks come before the loop: the schema name, the applied list and the target.
  cases named : tenant.schemaName with
  | error error =>
    refine .refused (.tenant error) ?_ (fun _ same => by cases same) ?_
    · simp [downgrade, validatedSchema, named, EStateM.run_bind]
    · intro schema applied other
      rw [named] at other
      cases other
  | ok schema =>
    have ran := @run_downgrade_named _ provisioner schema state _ named target
    cases reads : provisioner.readApplied state schema with
    | error message =>
      rw [reads] at ran
      refine .refused (.loader message) ran (fun _ same => by cases same) ?_
      intro own applied same
      rw [named] at same
      cases same
      rw [reads]
      intro contradiction
      cases contradiction
    | ok applied =>
      simp only [reads] at ran
      by_cases listed : target ∈ applied ++ [""]
      · rw [if_pos listed] at ran
        exact .entered schema applied named reads listed ran
      · rw [if_neg listed] at ran
        refine .refused _ ran (notApplied_ne_noDownArtifact target schema) ?_
        intro own other same
        rw [named] at same
        cases same
        rw [reads]
        rintro ⟨⟩
        exact listed

/-- The undo of a revision with an artifact issues at least the deletion of its row. -/
theorem undoStatements_ne_nil {revisionId : String}
    (undoable : (provisioner.undoable? revisionId).isSome = true) :
    provisioner.undoStatements schema revisionId ≠ [] := by
  obtain ⟨revision, found⟩ := Option.isSome_iff_exists.mp undoable
  simp [undoStatements, found]

/-- A rollback that reaches a missing artifact keeps all it did before. -/
theorem run_undo_missing {reached rest : List String} {revisionId : String}
    (undoable : ∀ revisionId ∈ reached, (provisioner.undoable? revisionId).isSome = true)
    (missing : provisioner.undoable? revisionId = none) (active : state.activeSchema = schema)
    (carried : provisioner.carryOut state.database
      (issuedIn schema (provisioner.undoPlan schema reached)) = some database) :
    ((reached ++ revisionId :: rest).foldlM (provisioner.undoRevision schema) 0).run state =
      .error (noDownArtifact revisionId)
        (undoneState state schema reached (provisioner.undoPlan schema reached) database) := by
  rw [List.foldlM_append, EStateM.run_bind, run_undo_carried undoable 0 active carried]
  simp only [List.foldlM_cons, EStateM.run_bind, run_undoRevision_missing missing]

variable (provisioner) in
/-- The revisions a rollback undoes before it meets one without an artifact. -/
def reached (toUndo : List String) : List String :=
  toUndo.takeWhile fun revisionId => (provisioner.undoable? revisionId).isSome

/-- All of these have artifacts. -/
theorem reached_undoable {toUndo : List String} {revisionId : String}
    (member : revisionId ∈ provisioner.reached toUndo) :
    (provisioner.undoable? revisionId).isSome = true := by
  unfold reached at member
  simpa using List.all_eq_true.mp List.all_takeWhile revisionId member

/-- They are all there is to undo, or one without an artifact follows. -/
theorem reached_split (toUndo : List String) : provisioner.reached toUndo = toUndo ∨
    ∃ revisionId rest, toUndo = provisioner.reached toUndo ++ revisionId :: rest ∧
      provisioner.undoable? revisionId = none := by
  -- What is left after the reached ones begins with the first revision without an artifact.
  have whole : provisioner.reached toUndo ++ toUndo.dropWhile (fun revisionId =>
      (provisioner.undoable? revisionId).isSome) = toUndo := List.takeWhile_append_dropWhile
  have head := List.head?_dropWhile_not (fun revisionId =>
    (provisioner.undoable? revisionId).isSome) toUndo
  cases left : toUndo.dropWhile fun revisionId => (provisioner.undoable? revisionId).isSome with
  | nil =>
    rw [left, List.append_nil] at whole
    exact .inl whole
  | cons revisionId rest =>
    rw [left] at whole head
    exact .inr ⟨revisionId, rest, whole.symm, by simpa using head⟩

/-- A loop that refuses an artifact without having been refused a statement has issued something. -/
private theorem undo_refused_late {toUndo : List String} (active : state.activeSchema = schema)
    (some : provisioner.reached toUndo ≠ []) (partly : provisioner.reached toUndo ≠ toUndo)
    (carries : provisioner.carryOut state.database
      (issuedIn schema (provisioner.undoPlan schema (provisioner.reached toUndo))) ≠ none) :
    ∃ revisionId after, (toUndo.foldlM (provisioner.undoRevision schema) 0).run state =
      .error (noDownArtifact revisionId) after ∧ after.executions ≠ state.executions := by
  obtain ⟨database, carried⟩ := Option.ne_none_iff_exists'.mp carries
  rcases @reached_split _ provisioner toUndo with all | ⟨revisionId, rest, split, missing⟩
  · exact absurd all partly
  · have ran := @run_undo_missing _ provisioner schema state database (provisioner.reached toUndo)
      rest revisionId (fun _ => reached_undoable) missing active carried
    rw [← split] at ran
    refine ⟨revisionId, _, ran, fun same => ?_⟩
    -- The first revision undone has issued at least the deletion of its row.
    have nothing : provisioner.undoPlan schema (provisioner.reached toUndo) = [] := by
      simpa using same
    obtain ⟨first, others, cons⟩ := List.exists_cons_of_ne_nil some
    have undoable : (provisioner.undoable? first).isSome = true :=
      reached_undoable (show first ∈ provisioner.reached toUndo by simp [cons])
    rw [cons, undoPlan, List.flatMap_cons] at nothing
    exact undoStatements_ne_nil undoable (List.append_eq_nil_iff.mp nothing).1

/-- A loop that was refused a statement does not refuse an artifact any more. -/
private theorem undo_refused_ne {revisionIds : List String}
    (refused : ∃ message after, (revisionIds.foldlM (provisioner.undoRevision schema) 0).run state =
      .error (provisioningFailed message) after) (rest : List String) (revisionId : String)
    (after : ProvisionerState δ) :
    ((revisionIds ++ rest).foldlM (provisioner.undoRevision schema) 0).run state ≠
      .error (noDownArtifact revisionId) after := by
  -- The first error ends the loop, and its message is another one.
  obtain ⟨message, final, failed⟩ := refused
  intro same
  rw [List.foldlM_append, EStateM.run_bind, failed] at same
  exact provisioningFailed_ne message revisionId (EStateM.Result.error.inj same).1

/-- In all other cases an artifact is refused at once, if at all. -/
private theorem undo_refused_at_once {toUndo : List String} (active : state.activeSchema = schema)
    (settled : provisioner.reached toUndo = [] ∨ provisioner.reached toUndo = toUndo ∨
      provisioner.carryOut state.database
        (issuedIn schema (provisioner.undoPlan schema (provisioner.reached toUndo))) = none)
    {revisionId : String} {after : ProvisionerState δ}
    (raised : (toUndo.foldlM (provisioner.undoRevision schema) 0).run state =
      .error (noDownArtifact revisionId) after) : after = state := by
  rcases @reached_split _ provisioner toUndo with all | ⟨first, rest, split, missing⟩
  · -- With all artifacts there the loop ends, or something in it was refused.
    have undoable : ∀ revisionId ∈ toUndo, (provisioner.undoable? revisionId).isSome = true :=
      fun revisionId member => reached_undoable (all ▸ member)
    cases carried : provisioner.carryOut state.database
        (issuedIn schema (provisioner.undoPlan schema toUndo)) with
    | some database =>
      rw [run_undo_carried undoable 0 active carried] at raised
      cases raised
    | none =>
      have unraised := undo_refused_ne (run_undo_refused undoable 0 active carried) [] revisionId after
      rw [List.append_nil] at unraised
      exact absurd raised unraised
  · rcases settled with none | every | refused
    · -- The first revision of all is refused, before any statement.
      rw [split, none, List.nil_append, List.foldlM_cons, EStateM.run_bind,
        run_undoRevision_missing missing] at raised
      exact (EStateM.Result.error.inj raised).2.symm
    · rw [every] at split
      simp at split
    · have failed := run_undo_refused (fun _ => reached_undoable) 0 active refused
      rw [split] at raised
      exact absurd raised (undo_refused_ne failed _ revisionId after)

/--
A rollback that raises for a missing artifact has changed nothing, exactly where the revision
without one comes first, or none is missing, or the executor raises before it is reached.

The artifacts are looked up one by one in the loop that undoes, not before it.
-/
theorem refusal_untouched_iff (provisioner : SchemaProvisioner δ) (state : ProvisionerState δ)
    (tenant : Tenant) (target : String) :
    (∀ revisionId after,
      (provisioner.downgrade tenant target).run state = .error (noDownArtifact revisionId) after →
        after.executions = state.executions ∧ ∀ schema, tenant.schemaName = .ok schema →
          provisioner.readApplied after schema = provisioner.readApplied state schema) ↔
      ∀ schema applied, tenant.schemaName = .ok schema →
        provisioner.readApplied state schema = .ok applied → target ∈ applied ++ [""] →
          let toUndo := applied.reverse.filter fun revisionId => target < revisionId
          let reached := provisioner.reached toUndo
          reached = [] ∨ reached = toUndo ∨ provisioner.carryOut state.database
            (issuedIn schema (provisioner.undoPlan schema reached)) = none := by
  constructor
  · intro untouched schema applied named reads listed toUndo reached
    cases provisioner.downgrade_start state tenant target with
    | refused error raised other unplanned =>
      exact absurd listed (unplanned schema applied named reads)
    | entered own list ownName ownReads ownListed loop =>
      rw [named] at ownName
      cases ownName
      rw [reads] at ownReads
      cases ownReads
      -- Else something was carried out before the refusal, which the executions tell.
      by_contra otherwise
      simp only [not_or] at otherwise
      obtain ⟨some, partly, carries⟩ := otherwise
      obtain ⟨revisionId, after, ran, executed⟩ :=
        @undo_refused_late _ provisioner schema (state.activated schema) toUndo rfl some partly carries
      rw [← loop] at ran
      exact executed (untouched revisionId after ran).1
  · intro condition revisionId after raised
    cases provisioner.downgrade_start state tenant target with
    | refused error other different unplanned =>
      rw [other] at raised
      cases raised
      exact absurd rfl (different revisionId)
    | entered schema applied named reads listed loop =>
      rw [loop] at raised
      have settled := condition schema applied named reads listed
      -- Only the schema was made the active one, which neither the record nor the list shows.
      obtain rfl := @undo_refused_at_once _ provisioner schema (state.activated schema) _ rfl settled _ _
        raised
      exact ⟨rfl, fun _ _ => rfl⟩

/-- A provisioner with a template and one revision that has a down artifact. -/
def templatedProvisioner : SchemaProvisioner Nat where
  templateSql := "CREATE TABLE t0(id)"
  executor := sampleExecutor 100
  revisions := [⟨"001_init", "CREATE TABLE t1(id)", "DROP TABLE t1"⟩]

/-- A tenant schema that was created from the template and then migrated. -/
def migratedState : ProvisionerState Nat :=
  let tenant := sampleTenant "6f1c9f0a-53c4-4d8e-9a57-0c2b7f1e8d3a"
  templatedProvisioner.perform (templatedProvisioner.perform (.new 0) (.createTenantSchema tenant))
    (.migrateAll [tenant])

/-- A rollback to before the template drops the table of the revision above it and then refuses. -/
theorem refusal_after_rollback :
    let tenant := sampleTenant "6f1c9f0a-53c4-4d8e-9a57-0c2b7f1e8d3a"
    let schema := "tenant_6f1c9f0a53c44d8e9a570c2b7f1e8d3a"
    migratedState.recorded schema = ["000_template", "001_init"] ∧
      ∃ after, (templatedProvisioner.downgrade tenant "").run migratedState =
        .error (noDownArtifact "000_template") after ∧
        after.recorded schema = ["000_template"] ∧
        after.executions = migratedState.executions ++
          [⟨schema, .down "DROP TABLE t1", true⟩, ⟨schema, .deleteMeta schema "001_init", true⟩] := by
  -- The error, the list left behind and the statements executed are computed one by one.
  intro tenant schema
  have message : (match (templatedProvisioner.downgrade tenant "").run migratedState with
      | .error (.provisioning message) _ => some message
      | _ => none) = some ("No down artifact for revision " ++ quoted "000_template" ++
        "; refusing to roll back without an explicit rollback") := by decide +kernel
  have left : (stateAfter (templatedProvisioner.downgrade tenant "") migratedState).recorded schema =
      ["000_template"] := by decide +kernel
  have executed : (stateAfter (templatedProvisioner.downgrade tenant "") migratedState).executions =
      migratedState.executions ++ [⟨schema, .down "DROP TABLE t1", true⟩,
        ⟨schema, .deleteMeta schema "001_init", true⟩] := by decide +kernel
  refine ⟨by decide +kernel, ?_⟩
  cases ran : (templatedProvisioner.downgrade tenant "").run migratedState with
  | ok count after => simp [ran] at message
  | error error after =>
    rw [stateAfter_error ran] at left executed
    cases error with
    | provisioning text =>
      rw [ran] at message
      obtain rfl := Option.some.inj message
      exact ⟨after, rfl, left, executed⟩
    | tenant error =>
      rw [ran] at message
      cases message
    | loader text =>
      rw [ran] at message
      cases message

end SchemaProvisioner

end JolCommerce
