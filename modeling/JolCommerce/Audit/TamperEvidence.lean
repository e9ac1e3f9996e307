import JolCommerce.Audit.ChainVerifier

/-! A head checkpoint pins down the whole chain, with one gap: a sequence truncated to nothing. -/

namespace JolCommerce

open Python

section Checkpoint

variable {sha256 : String → String}

/-- A linked sequence that ends at the recorded hash of a run is the run's own sequence. -/
theorem eq_entries_of_chainHead (injective : Function.Injective (AuditEntry.computeHash sha256))
    (nonempty : ∀ entry, AuditEntry.computeHash sha256 entry ≠ "") {logger : AuditLogger}
    (chained : logger.Chained sha256) {altered : List AuditEntry}
    (linked : ChainLinked sha256 altered) (head : chainHead sha256 altered = logger.lastHash) :
    altered = logger.entries := by
  -- Both chains start at the empty hash, which no entry has, and end at the same digest.
  exact HashChain.eq_of_head_eq _ _ "" injective.injOn (fun entry _ => nonempty entry) linked
    chained.linked (head.trans chained.recorded.symm)

private theorem computeHash_newest {logger : AuditLogger} (chained : logger.Chained sha256)
    {last : AuditEntry} (newest : logger.entries.getLast? = some last) :
    last.computeHash sha256 = logger.lastHash := by
  -- The newest entry of a chained logger hashes to the recorded hash.
  obtain ⟨front, entries⟩ := List.getLast?_eq_some_iff.mp newest
  rw [← chained.recorded, entries]
  exact (HashChain.head_concat _ _ _ _).symm

/--
With the hash of the newest entry as checkpoint, exactly the logged sequence verifies.

The equivalence holds for every sequence that has entries, and fails for the one that has none.
-/
theorem verifyChain_checkpoint_iff
    (injective : Function.Injective (AuditEntry.computeHash sha256))
    (nonempty : ∀ entry, AuditEntry.computeHash sha256 entry ≠ "")
    (calls : List (Stamp × LogCall JsonObject)) {last : AuditEntry}
    (newest : (AuditLogger.run sha256 AuditLoggerOf.new calls).entries.getLast? = some last)
    (altered : List AuditEntry) :
    ((verifyChain sha256 altered (last.computeHash sha256)).isIntact = true ↔
        altered = (AuditLogger.run sha256 AuditLoggerOf.new calls).entries) ↔ altered ≠ [] := by
  have chained := (AuditLogger.chained_new sha256).run sha256 calls
  have checkpoint := computeHash_newest chained newest
  rw [verifyChain_isIntact_iff]
  constructor
  · -- The empty sequence passes, while the run it should be compared with has entries.
    rintro verified rfl
    have same := verified.mp ⟨trivial, Or.inr (Or.inl rfl)⟩
    rw [← same] at newest
    simp at newest
  · intro entriesLeft
    constructor
    -- The checkpoint is a digest, so that it is neither unset nor skipped.
    · intro verified
      obtain ⟨linked, unset | empty | head⟩ := verified
      · exact absurd unset (nonempty last)
      · exact absurd empty entriesLeft
      · exact eq_entries_of_chainHead injective nonempty chained linked (head.trans checkpoint)
    · rintro rfl
      exact ⟨chained.linked, Or.inr (Or.inr (chained.recorded.trans checkpoint.symm))⟩

end Checkpoint

/-- An entry's text is never empty, so the identity is an admissible digest. -/
theorem computeHash_id_ne_empty (entry : AuditEntry) : AuditEntry.computeHash id entry ≠ "" := by
  -- A document starts with a brace.
  intro empty
  have text : entry.asdict.dumps = [] := String.ofList_injective empty
  simp [AuditEntry.asdict, Json.dumps] at text

/-- The call a one-entry log is made of. -/
def sampleCall : LogCall JsonObject :=
  { actor := "tester", eventType := "order.created", outcome := "success", transactionRef := "ORD-0" }

/-- The entry that call creates in a fresh logger. -/
def sampleEntry : AuditEntry := AuditLoggerOf.new.entryFor Stamp.sample sampleCall SortedMap.empty

private theorem sample_entries :
    (AuditLogger.run id AuditLoggerOf.new [(Stamp.sample, sampleCall)]).entries = [sampleEntry] := by
  -- The one-entry log holds exactly that entry.
  rfl

/-- A one-entry log is told apart from the same log with its actor edited. -/
theorem verifyChain_checkpoint_edited :
    (verifyChain id [{ sampleEntry with actor := "attacker" }]
        (AuditEntry.computeHash id sampleEntry)).isIntact = true ↔
      [{ sampleEntry with actor := "attacker" }] =
        (AuditLogger.run id AuditLoggerOf.new [(Stamp.sample, sampleCall)]).entries :=
  (verifyChain_checkpoint_iff (AuditEntry.computeHash_injective Function.injective_id)
    computeHash_id_ne_empty [(Stamp.sample, sampleCall)] (by rw [sample_entries]; rfl) _).mpr
    (by simp)

/-- Deleting every entry passes verification against the checkpoint of a nonempty log. -/
theorem verifyChain_accepts_empty :
    Function.Injective (AuditEntry.computeHash id) ∧
    (∀ entry, AuditEntry.computeHash id entry ≠ "") ∧
    (AuditLogger.run id AuditLoggerOf.new [(Stamp.sample, sampleCall)]).entries = [sampleEntry] ∧
    (verifyChain id [] (AuditEntry.computeHash id sampleEntry)).isIntact = true ∧
    [] ≠ [sampleEntry] :=
  ⟨AuditEntry.computeHash_injective Function.injective_id, computeHash_id_ne_empty, sample_entries,
    rfl, by simp⟩

end JolCommerce
