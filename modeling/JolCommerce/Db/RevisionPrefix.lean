import JolCommerce.Db.ProvisionerLaws
import JolCommerce.Run.Invariant

/-! In every run the applied revisions are a prefix of all revisions, and migration is idempotent. -/

namespace JolCommerce

open Python

/-- The recorded revisions of a schema, without the template. -/
def ProvisionerState.migrated {δ : Type} (state : ProvisionerState δ) (schema : String) :
    List String :=
  (state.recorded schema).filter (· ≠ templateId)

namespace ProvisionerState

variable {δ : Type} (state : ProvisionerState δ)

/-- A noted revision comes last among those migrated. -/
theorem noted_migrated {schema revisionId : String} (proper : revisionId ≠ templateId)
    (other : String) : (state.noted schema revisionId).migrated other =
      if other = schema then state.migrated schema ++ [revisionId] else state.migrated other := by
  -- The revision passes the filter, being another than the template.
  unfold migrated
  rw [noted_recorded]
  split
  · simp [proper]
  · rfl

/-- Noting the template migrates nothing. -/
theorem noted_template (schema other : String) :
    (state.noted schema templateId).migrated other = state.migrated other := by
  -- The filter drops what was noted.
  unfold migrated
  rw [noted_recorded]
  split
  · rename_i same
    subst same
    simp
  · rfl

end ProvisionerState

namespace SchemaProvisioner

variable {δ : Type} (provisioner : SchemaProvisioner δ)

/-- The ids of the revisions, in order. -/
def ids : List String := provisioner.revisions.map Revision.revisionId

/-- In every schema the revisions recorded are the first ones, in order. -/
def Prefixes (state : ProvisionerState δ) : Prop :=
  ∀ schema, state.migrated schema <+: provisioner.ids

/-- A tenant has a schema and no pending revision in it. -/
def UpToDate (state : ProvisionerState δ) (tenant : Tenant) : Prop :=
  ∃ schema, tenant.schemaName = .ok schema ∧ provisioner.missing (state.recorded schema) = []

/-- Inside the loop over pending revisions: what is migrated and what is left make up all of them. -/
structure Midway (tenants : List Tenant) (schema : String) (rest : List Revision)
    (state : ProvisionerState δ) : Prop where
  prefixes : provisioner.Prefixes state
  split : state.migrated schema ++ rest.map Revision.revisionId = provisioner.ids
  upToDate : ∀ tenant ∈ tenants, provisioner.UpToDate state tenant

variable {provisioner}

private theorem stable_prefixes : Stable provisioner.Prefixes where
  activated _ _ prefixes := prefixes
  executed _ _ _ _ _ prefixes := prefixes

/-- Once up to date, a tenant stays so while revisions are recorded. -/
theorem UpToDate.noted {state : ProvisionerState δ} {tenant : Tenant} (schema revisionId : String)
    (upToDate : provisioner.UpToDate state tenant) :
    provisioner.UpToDate (state.noted schema revisionId) tenant := by
  obtain ⟨own, named, empty⟩ := upToDate
  refine ⟨own, named, ?_⟩
  -- What is missing from a longer list was missing from the shorter one.
  simp only [missing, List.filter_eq_nil_iff, decide_eq_true_eq, not_not] at empty ⊢
  intro revision member
  have recorded := empty revision member
  rw [ProvisionerState.noted_recorded]
  split
  · rename_i same
    subst same
    exact List.mem_append_left _ recorded
  · exact recorded

section Increasing

variable (increasing : provisioner.ids.Pairwise (· < ·)) (proper : templateId ∉ provisioner.ids)

include increasing proper

/-- Where a prefix is recorded, the pending revisions are the rest. -/
theorem missing_ids {state : ProvisionerState δ} {schema : String} {rest : List String}
    (split : state.migrated schema ++ rest = provisioner.ids) :
    (provisioner.missing (state.recorded schema)).map Revision.revisionId = rest := by
  -- The ids are filtered on both sides of the split: all of the prefix goes, all of the rest
  -- stays.
  have selected : (provisioner.missing (state.recorded schema)).map Revision.revisionId =
      provisioner.ids.filter (· ∉ state.recorded schema) := by
    simp only [missing, ids, List.filter_map]
    rfl
  have distinct : (state.migrated schema ++ rest).Nodup := split ▸ increasing.imp ne_of_lt
  have done : (state.migrated schema).filter (· ∉ state.recorded schema) = [] := by
    rw [List.filter_eq_nil_iff]
    intro revisionId member
    simpa using (List.mem_filter.mp member).1
  have left : rest.filter (· ∉ state.recorded schema) = rest := by
    rw [List.filter_eq_self]
    intro revisionId member
    -- A recorded revision other than the template is in the prefix, and no id occurs twice.
    have different : revisionId ≠ templateId := by
      rintro rfl
      exact proper (split ▸ List.mem_append_right _ member)
    have apart := (List.nodup_append.mp distinct).2.2
    simp only [decide_eq_true_eq]
    intro recorded
    exact apart revisionId (List.mem_filter.mpr ⟨recorded, by simpa using different⟩) revisionId
      member rfl
  rw [selected, ← split, List.filter_append, done, left, List.nil_append]

omit increasing in
/-- A recorded revision moves from what is left to what is migrated. -/
theorem Midway.noted {tenants : List Tenant} {schema : String} {revision : Revision}
    {rest : List Revision} {state : ProvisionerState δ}
    (midway : provisioner.Midway tenants schema (revision :: rest) state) :
    provisioner.Midway tenants schema rest (state.noted schema revision.revisionId) := by
  -- The revision is the first of those left, so the split moves by one.
  have different : revision.revisionId ≠ templateId := by
    intro same
    apply proper
    rw [← same, ← midway.split]
    simp
  have whole : (state.migrated schema ++ [revision.revisionId]) ++ rest.map Revision.revisionId =
      provisioner.ids := by
    rw [← midway.split]
    simp
  refine ⟨fun other => ?_, ?_, fun tenant member => (midway.upToDate tenant member).noted _ _⟩
  · rw [state.noted_migrated different]
    split
    · exact ⟨_, whole⟩
    · exact midway.prefixes other
  · rw [state.noted_migrated different, if_pos rfl]
    exact whole

omit increasing in
private theorem triple_applyRevision_midway {tenants : List Tenant} {schema : String}
    {revision : Revision} {rest : List Revision} {appliedCount : Nat} :
    Run.Triple (provisioner.Midway tenants schema (revision :: rest))
      (provisioner.applyRevision schema appliedCount revision)
      (fun _ => provisioner.Midway tenants schema rest) provisioner.Prefixes := by
  refine triple_applyRevision (fun _ => provisioner.Midway tenants schema (revision :: rest)) ?_ ?_
  · intro statement _
    refine triple_execute ?_ ?_
    · exact fun state database midway _ => ⟨midway.prefixes, midway.split, midway.upToDate⟩
    · exact fun state database midway _ => midway.prefixes
  · -- The list in memory is a longer prefix even where the row is refused.
    refine triple_record ?_ ?_ ?_
    · exact fun state midway _ => midway.noted proper
    · intro state database midway _ _
      have noted := midway.noted proper
      exact ⟨noted.prefixes, noted.split, noted.upToDate⟩
    · exact fun state database midway _ _ => (midway.noted proper).prefixes

variable (unloaded : provisioner.loadApplied = none)

include unloaded

/-- One tenant of a migration ends up to date, and those before it stay so. -/
theorem triple_migrateTenant_midway {tenants : List Tenant} {tenant : Tenant} {appliedCount : Nat} :
    Run.Triple
      (fun state => provisioner.Prefixes state ∧ ∀ other ∈ tenants, provisioner.UpToDate state other)
      (provisioner.migrateTenant appliedCount tenant)
      (fun _ state => provisioner.Prefixes state ∧
        ∀ other ∈ tenant :: tenants, provisioner.UpToDate state other)
      provisioner.Prefixes := by
  -- What a prefix leaves pending is the rest, so the loop starts midway.
  refine triple_migrateTenant unloaded (fun schema rest _ => provisioner.Midway tenants schema rest)
    ?_ ?_ ?_ ?_ ?_ ?_
  · exact fun _ _ start => start.1
  · intro schema state named start empty
    exact ⟨start.1, List.forall_mem_cons.mpr ⟨⟨schema, named, empty⟩, start.2⟩⟩
  · intro schema state database named start _ _
    obtain ⟨rest, split⟩ := start.1 schema
    refine ⟨start.1, ?_, start.2⟩
    rw [missing_ids increasing proper split]
    exact split
  · exact fun _ _ _ _ start _ _ => start.1
  · exact fun schema revision rest count _ => triple_applyRevision_midway proper
  · intro schema count state named midway
    refine ⟨midway.prefixes, List.forall_mem_cons.mpr ⟨⟨schema, named, ?_⟩, midway.upToDate⟩⟩
    have none := missing_ids increasing proper midway.split
    simpa using none

/-- A migration keeps the prefixes, and where it returns every tenant is up to date. -/
theorem triple_migrateAll {tenants : List Tenant} :
    Run.Triple provisioner.Prefixes (provisioner.migrateAll tenants)
      (fun _ state => provisioner.Prefixes state ∧
        ∀ tenant ∈ tenants, provisioner.UpToDate state tenant)
      provisioner.Prefixes := by
  -- The tenants are those still to come and those already up to date.
  have loop := @Run.triple_foldlM _ _ _ _ provisioner.Prefixes provisioner.migrateTenant
    (fun rest _ state => ∃ done, tenants = done ++ rest ∧ provisioner.Prefixes state ∧
      ∀ tenant ∈ done, provisioner.UpToDate state tenant) ?_ tenants 0
  · refine loop.imp ?_ ?_ fun _ final => final
    · exact fun state prefixes => ⟨[], rfl, prefixes, by simp⟩
    · rintro _ state ⟨done, whole, prefixes, upToDate⟩
      rw [List.append_nil] at whole
      exact ⟨prefixes, whole ▸ upToDate⟩
  · intro tenant rest total
    refine Run.triple_exists fun done => Run.triple_fact fun whole => ?_
    have next := @triple_migrateTenant_midway _ _ increasing proper unloaded done tenant total
    refine next.post fun _ state final => ⟨done ++ [tenant], by simp [whole], final.1, ?_⟩
    intro other member
    apply final.2
    simpa [or_comm] using member

omit proper unloaded in
/-- Erasing the newest revision above a target leaves a prefix, and the older ones to undo. -/
theorem erase_newest {recorded rest : List String} {target revisionId : String}
    (listed : recorded.filter (· ≠ templateId) <+: provisioner.ids)
    (member : revisionId ≠ templateId)
    (newest : recorded.reverse.filter (target < ·) = revisionId :: rest) :
    (recorded.erase revisionId).filter (· ≠ templateId) <+: provisioner.ids ∧
      (recorded.erase revisionId).reverse.filter (target < ·) = rest := by
  -- Everything recorded after the newest revision above the target is not above it.
  obtain ⟨later, earlier, reversed, notAbove, above, older⟩ :
      ∃ later earlier, recorded.reverse = later ++ revisionId :: earlier ∧
        (∀ other ∈ later, ¬target < other) ∧ target < revisionId ∧
        earlier.filter (target < ·) = rest := by
    obtain ⟨later, earlier, split, skipped, kept, tail⟩ := List.filter_eq_cons_iff.mp newest
    simp only [decide_eq_true_eq] at skipped kept
    exact ⟨later, earlier, split, skipped, kept, tail⟩
  have whole : recorded = earlier.reverse ++ revisionId :: later.reverse := by
    have turned := congrArg List.reverse reversed
    simpa using turned
  have split : recorded.filter (· ≠ templateId) = earlier.reverse.filter (· ≠ templateId) ++
      revisionId :: later.reverse.filter (· ≠ templateId) := by
    simp [whole, member]
  have ordered : (recorded.filter (· ≠ templateId)).Pairwise (· < ·) :=
    increasing.sublist listed.sublist
  rw [split, List.pairwise_append, List.pairwise_cons] at ordered
  -- A migrated revision after it would be above it, and so above the target.
  have last : later.reverse.filter (· ≠ templateId) = [] := by
    apply List.eq_nil_iff_forall_not_mem.mpr
    intro other inLater
    have greater := ordered.2.1.1 other inLater
    exact notAbove other (List.mem_reverse.mp (List.mem_filter.mp inLater).1) (above.trans greater)
  have once : revisionId ∉ earlier.reverse := by
    intro again
    have smaller := ordered.2.2 revisionId (List.mem_filter.mpr ⟨again, by simpa using member⟩)
      revisionId (by simp)
    exact lt_irrefl _ smaller
  have erased : recorded.erase revisionId = earlier.reverse ++ later.reverse := by
    rw [whole, List.erase_append_right _ once, List.erase_cons_head]
  rw [erased]
  constructor
  · rw [List.filter_append, last, List.append_nil]
    rw [split] at listed
    exact (List.prefix_append _ _).trans listed
  · have none : later.filter (target < ·) = [] := by
      simpa only [List.filter_eq_nil_iff, decide_eq_true_eq] using notAbove
    rw [List.reverse_append, List.reverse_reverse, List.reverse_reverse, List.filter_append, none,
      older, List.nil_append]

/-- A rollback keeps the prefixes, wherever it stops. -/
theorem triple_downgrade_prefixes {tenant : Tenant} {targetRevision : String} :
    Run.Triple provisioner.Prefixes (provisioner.downgrade tenant targetRevision)
      (fun _ => provisioner.Prefixes) provisioner.Prefixes := by
  -- What is left to undo are the recorded revisions above the target, newest first.
  refine triple_downgrade unloaded (fun schema rest _ state => provisioner.Prefixes state ∧
    (state.recorded schema).reverse.filter (targetRevision < ·) = rest) ?_ ?_ ?_ ?_
  · exact fun _ prefixes => prefixes
  · exact fun _ _ _ prefixes => ⟨prefixes, rfl⟩
  · intro schema revisionId rest undone
    have stable : Stable fun state => provisioner.Prefixes state ∧
        (state.recorded schema).reverse.filter (targetRevision < ·) = revisionId :: rest :=
      ⟨fun _ _ start => start, fun _ _ _ _ _ start => start⟩
    refine stable.undoRevision ?_ ?_ ?_
    · exact fun _ start => start.1
    · rintro state database ⟨prefixes, newest⟩ known
      have different : revisionId ≠ templateId := fun same => proper (same ▸ known)
      obtain ⟨shorter, older⟩ := erase_newest increasing (prefixes schema) different newest
      constructor
      · intro other
        unfold ProvisionerState.migrated
        rw [ProvisionerState.erased_recorded]
        split
        · exact shorter
        · exact prefixes other
      · rw [ProvisionerState.erased_recorded, if_pos rfl]
        exact older
    · exact fun _ _ start => start.1
  · exact fun _ _ _ start => start.1

/-- No call breaks the prefixes, whether it returns or raises. -/
theorem Prefixes.perform {state : ProvisionerState δ} (prefixes : provisioner.Prefixes state)
    (call : Call) : provisioner.Prefixes (provisioner.perform state call) := by
  -- One triple for each kind of call.
  cases call with
  | createTenantSchema tenant =>
    refine holds_stateAfter (stable_prefixes.createTenantSchema ?_) prefixes
    intro state schema prefixes other
    rw [state.noted_template]
    exact prefixes other
  | migrateAll tenants =>
    exact holds_stateAfter ((triple_migrateAll increasing proper unloaded).post
      fun _ _ final => final.1) prefixes
  | downgrade tenant targetRevision =>
    exact holds_stateAfter (triple_downgrade_prefixes increasing proper unloaded) prefixes

end Increasing

section UpToDate

variable {state : ProvisionerState δ} (unloaded : provisioner.loadApplied = none)

include unloaded

/-- A tenant that is up to date is passed over. -/
theorem migrateTenant_upToDate {tenant : Tenant} (upToDate : provisioner.UpToDate state tenant)
    (appliedCount : Nat) :
    (provisioner.migrateTenant appliedCount tenant).run state = .ok appliedCount state := by
  -- Nothing is pending, so the turn ends before anything is activated.
  obtain ⟨schema, named, empty⟩ := upToDate
  have validated : (validatedSchema tenant : ProvisionerM δ String).run state = .ok schema state := by
    simp [validatedSchema, named, Tenant.schemaName_safe named]
  simp [migrateTenant, validated, pending_run unloaded, empty]

/-- Where all tenants are up to date a migration does nothing. -/
theorem migrateAll_upToDate {tenants : List Tenant}
    (upToDate : ∀ tenant ∈ tenants, provisioner.UpToDate state tenant) :
    (provisioner.migrateAll tenants).run state = .ok 0 state := by
  -- Tenant by tenant, each passed over in the state of the one before.
  unfold migrateAll
  induction tenants with
  | nil => rfl
  | cons tenant rest ih =>
    obtain ⟨here, later⟩ := List.forall_mem_cons.mp upToDate
    rw [List.foldlM_cons, EStateM.run_bind, migrateTenant_upToDate unloaded here]
    exact ih later

end UpToDate

/--
In every run of calls, returning or raising, every schema has a prefix of the revisions applied, no
one twice; and a migration that returns leaves nothing pending, so that a second one does nothing.

Migration appends what is missing and rollback removes what is above its target: both work at the
end of the list only because the ids increase.
-/
theorem applied_prefix_in_every_run (increasing : provisioner.ids.Pairwise (· < ·))
    (proper : templateId ∉ provisioner.ids) (unloaded : provisioner.loadApplied = none)
    (database : δ) (calls : List Call) :
    let state := calls.foldl provisioner.perform (.new database)
    (∀ schema, state.migrated schema <+: provisioner.ids ∧ (state.migrated schema).Nodup) ∧
      ∀ tenants count after, (provisioner.migrateAll tenants).run state = .ok count after →
        (∀ tenant ∈ tenants, ∃ schema, tenant.schemaName = .ok schema ∧
          (provisioner.pending schema).run after = .ok [] after) ∧
        (provisioner.migrateAll tenants).run after = .ok 0 after := by
  -- The prefixes are an invariant of all calls; a migration that returns gives more.
  have initial : provisioner.Prefixes (.new database) := fun _ => List.nil_prefix
  have prefixes : provisioner.Prefixes (calls.foldl provisioner.perform (.new database)) :=
    @Run.foldl_invariant _ _ provisioner.perform (fun _ _ => True) provisioner.Prefixes
      (fun _ call prefixes _ => Prefixes.perform increasing proper unloaded prefixes call) _ calls
      initial (Run.allSteps_of_forall provisioner.perform (fun _ _ => trivial) _)
  refine ⟨fun schema => ⟨prefixes schema, ?_⟩, fun tenants count after returned => ?_⟩
  · exact (increasing.imp ne_of_lt).sublist (prefixes schema).sublist
  · have upToDate := ((triple_migrateAll increasing proper unloaded).ok prefixes returned).2
    refine ⟨fun tenant member => ?_, migrateAll_upToDate unloaded upToDate⟩
    obtain ⟨schema, named, empty⟩ := upToDate tenant member
    exact ⟨schema, named, by rw [pending_run unloaded, empty]⟩

/-- Different names with one suffix have different stems. -/
theorem stem?_injective {suffix left right stem : String} (first : stem? suffix left = some stem)
    (second : stem? suffix right = some stem) : left = right := by
  -- The name is its stem followed by the suffix.
  have rebuilt : ∀ {name}, stem? suffix name = some stem → name.toList = stem.toList ++ suffix.toList := by
    intro name found
    unfold stem? at found
    split at found
    · rename_i ends
      obtain ⟨front, whole⟩ := List.isSuffixOf_iff_suffix.mp ends
      obtain rfl := Option.some.inj found
      rw [← whole]
      simp
    · cases found
  exact String.toList_inj.mp ((rebuilt first).trans (rebuilt second).symm)

private theorem artifacts_nodup (suffix : String) (directory : Dict String String) :
    ((artifacts suffix directory).map Prod.fst).Nodup := by
  -- The names in a directory are different, so their stems are.
  have stems : (artifacts suffix directory).map Prod.fst =
      (directory.entries.map Prod.fst).filterMap (stem? suffix) := by
    simp only [artifacts, List.map_filterMap, List.filterMap_map]
    congr 1
    funext file
    rw [Option.map_map]
    exact Option.map_id_apply
  rw [stems]
  exact directory.nodup.filterMap fun left right stem first second =>
    stem?_injective first second

/-- Revisions read from a directory have increasing ids. -/
theorem fromArtifactsDir_increasing (directory : Dict String String)
    (executor : String → String → EStateM String δ Unit) :
    (fromArtifactsDir directory executor).ids.Pairwise (· < ·) := by
  -- The files are sorted by stem and no stem occurs twice, so the order is strict.
  let byStem : String × String → String × String → Prop := fun left right => left.1 ≤ right.1
  have total : Std.Total byStem := ⟨fun left right => le_total left.1 right.1⟩
  have trans : IsTrans (String × String) byStem := ⟨fun _ _ _ first second => le_trans first second⟩
  let files := (artifacts ".up.sql" directory).insertionSort byStem
  have sorted : files.Pairwise byStem := List.pairwise_insertionSort byStem _
  have distinct : (files.map Prod.fst).Nodup :=
    ((List.perm_insertionSort byStem _).map Prod.fst).nodup_iff.mpr (artifacts_nodup _ directory)
  have listed : (fromArtifactsDir directory executor).ids = files.map Prod.fst := by
    simp only [ids, fromArtifactsDir, List.map_map]
    rfl
  rw [listed, List.pairwise_map]
  exact sorted.imp₂ (fun _ _ le ne => lt_of_le_of_ne le ne) (List.pairwise_map.mp distinct)

/-- The provisioner of a directory with two revisions, the second without a down artifact. -/
def sampleProvisioner (refused : Nat) : SchemaProvisioner Nat :=
  fromArtifactsDir ⟨[("002_next.up.sql", "CREATE TABLE t2(id)"),
    ("001_init.up.sql", "CREATE TABLE t1(id); CREATE INDEX i1 ON t1(id)"),
    ("001_init.down.sql", "DROP TABLE t1")], by decide⟩ (sampleExecutor refused)

/-- A migration broken off at its third statement, then resumed, and a rollback that is refused. -/
theorem applied_prefix_after_failure :
    let tenant := sampleTenant "6f1c9f0a-53c4-4d8e-9a57-0c2b7f1e8d3a"
    let calls : List Call := [.migrateAll [tenant], .migrateAll [tenant], .downgrade tenant ""]
    ∀ schema, (calls.foldl (sampleProvisioner 3).perform (.new 0)).migrated schema <+:
      ["001_init", "002_next"] := by
  -- Ids read from a directory increase, and none of these is the template.
  have listed : (sampleProvisioner 3).ids = ["001_init", "002_next"] := by decide
  have increasing : (sampleProvisioner 3).ids.Pairwise (· < ·) := fromArtifactsDir_increasing _ _
  have proper : templateId ∉ (sampleProvisioner 3).ids := by
    rw [listed]
    decide
  intro tenant calls schema
  have prefixes := (applied_prefix_in_every_run increasing proper rfl 0 calls).1 schema
  rw [listed] at prefixes
  exact prefixes.1

end SchemaProvisioner

end JolCommerce
