import JolCommerce.Audit.TamperEvidence

/-! Where tampering is reported: the position depends on the kind of edit and on its own link. -/

namespace JolCommerce

open Python

/-- A report of tampering whose first broken entry and count of verified entries are one position. -/
structure ChainVerificationReport.LocalisedAt (report : ChainVerificationReport) (position : Nat) :
    Prop where
  tampered : report.verdict = .tampered
  index : report.firstBrokenIndex = position
  verified : report.verifiedCount = position

section Localisation

variable {sha256 : String → String}

private theorem split_at {entries : List AuditEntry} {position : Nat}
    (inside : position < entries.length) :
    ∃ front entry rest, entries = front ++ entry :: rest ∧ front.length = position := by
  -- The entries before the position, and those behind it.
  refine ⟨entries.take position, entries[position], entries.drop (position + 1), ?_, by simp; omega⟩
  rw [← List.drop_eq_getElem_cons inside, List.take_append_drop]

private theorem insertIdx_length (front back : List AuditEntry) (inserted : AuditEntry) :
    (front ++ back).insertIdx front.length inserted = front ++ inserted :: back := by
  -- The position moves along the front one entry at a time.
  induction front with
  | nil => rfl
  | cons first front ih => simp [ih]

/-- A walk stops at the first broken link, and reports its position. -/
theorem walkChain_brokenAt {index position : Nat} {start : String} {entries : List AuditEntry}
    (broken : HashChain.BrokenAt (AuditEntry.computeHash sha256) AuditEntryOf.previousHash start
      entries position) :
    ∃ entry, walkChain sha256 index start entries = .error (.linkMismatch (index + position) entry) := by
  obtain ⟨front, entry, rest, rfl, rfl, linked, misfit⟩ := broken
  -- The loop accepts the linked entries one by one.
  induction front generalizing index start with
  | nil => exact ⟨entry, if_pos misfit⟩
  | cons first front ih =>
    obtain ⟨other, walked⟩ := @ih (index + 1) (first.computeHash sha256) linked.2 misfit
    refine ⟨other, ?_⟩
    rw [List.cons_append, walkChain, if_neg (not_not.mpr linked.1), walked, List.length_cons]
    congr 2
    omega

/-- Whatever the checkpoint is, a broken link is what a verification reports. -/
theorem verifyChain_localisedAt {entries : List AuditEntry} {position : Nat}
    (broken : HashChain.BrokenAt (AuditEntry.computeHash sha256) AuditEntryOf.previousHash ""
      entries position) (expected : String) :
    (verifyChain sha256 entries expected).LocalisedAt position := by
  obtain ⟨entry, walked⟩ := @walkChain_brokenAt sha256 0 _ _ _ broken
  rw [Nat.zero_add] at walked
  rw [verifyChain, walked]
  exact ⟨rfl, rfl, rfl⟩

section Logged

variable {logged : List AuditEntry} (linked : ChainLinked sha256 logged)

include linked

/-- An entry edited in place shows at its own link, or at its successor's where the link is kept. -/
theorem replaced_localised (injective : Function.Injective (AuditEntry.computeHash sha256))
    {position : Nat} {entry edited : AuditEntry} (found : logged[position]? = some entry)
    (different : edited ≠ entry) (expected : String) :
    (edited.previousHash ≠ entry.previousHash →
      (verifyChain sha256 (logged.set position edited) expected).LocalisedAt position) ∧
    (edited.previousHash = entry.previousHash → position + 1 < logged.length →
      (verifyChain sha256 (logged.set position edited) expected).LocalisedAt (position + 1)) := by
  -- An edited link breaks at the entry itself, an edited body at the entry after it.
  obtain ⟨inside, -⟩ := List.getElem?_eq_some_iff.mp found
  obtain ⟨front, other, rest, rfl, rfl⟩ := split_at inside
  obtain rfl : other = entry := by simpa using found
  have replaced : (front ++ other :: rest).set front.length edited = front ++ edited :: rest := by
    simp
  rw [replaced]
  refine ⟨fun renamed => ?_, fun same more => ?_⟩
  · exact verifyChain_localisedAt (HashChain.brokenAt_replaced linked renamed) expected
  · cases rest with
    | nil => simp at more
    | cons next later =>
      exact verifyChain_localisedAt
        (HashChain.brokenAt_replaced_second linked injective rfl different same) expected

variable (injective : Function.Injective (AuditEntry.computeHash sha256))
  (nonempty : ∀ entry, AuditEntry.computeHash sha256 entry ≠ "")

include injective nonempty

/-- A deleted entry shows at the position where its successor stands now. -/
theorem deleted_localised {position : Nat} (more : position + 1 < logged.length) (expected : String) :
    (verifyChain sha256 (logged.eraseIdx position) expected).LocalisedAt position := by
  -- The entry that takes the place still links to the deleted one.
  have inside : position < logged.length := by omega
  obtain ⟨front, entry, rest, rfl, rfl⟩ := split_at inside
  have deleted : (front ++ entry :: rest).eraseIdx front.length = front ++ rest := by
    simp [List.eraseIdx_append_of_length_le]
  rw [deleted]
  cases rest with
  | nil => simp at more
  | cons next later =>
    exact verifyChain_localisedAt (HashChain.brokenAt_deleted linked injective nonempty rfl) expected

/-- An inserted entry shows at its own link, or at that of the entry behind it where its own fits. -/
theorem inserted_localised {position : Nat} (inside : position < logged.length)
    (inserted : AuditEntry) (expected : String) :
    (inserted.previousHash ≠ chainHead sha256 (logged.take position) →
      (verifyChain sha256 (logged.insertIdx position inserted) expected).LocalisedAt position) ∧
    (inserted.previousHash = chainHead sha256 (logged.take position) →
      (verifyChain sha256 (logged.insertIdx position inserted) expected).LocalisedAt
        (position + 1)) := by
  -- Either the new entry does not fit, or the one after it no longer does.
  obtain ⟨front, entry, rest, rfl, rfl⟩ := split_at inside
  rw [insertIdx_length, List.take_left']
  · refine ⟨fun misfit => ?_, fun fits => ?_⟩
    · have before := ((HashChain.linked_append _ _ _ front (entry :: rest)).mp linked).1
      exact verifyChain_localisedAt (HashChain.brokenAt_append before misfit) expected
    · exact verifyChain_localisedAt
        (HashChain.brokenAt_inserted_second linked injective nonempty fits) expected
  · rfl

end Logged

/--
The two verifications agree on every sequence, and on a logged one they tell where it was edited.

An edit shows at its own position when its link does not fit, and one position later when it does:
no entry can continue the chain in place of another, since none has the digest that it names.
-/
theorem tampering_localised (injective : Function.Injective (AuditEntry.computeHash sha256))
    (nonempty : ∀ entry, AuditEntry.computeHash sha256 entry ≠ "")
    (calls : List (Stamp × LogCall JsonObject)) :
    let logged := (AuditLogger.run sha256 AuditLoggerOf.new calls).entries
    (∀ entries, (verifyChain sha256 entries "").isIntact =
      AuditLogger.verifyChainIntegrity sha256 entries) ∧
    (∀ position entry edited expected, logged[position]? = some entry → edited ≠ entry →
      (edited.previousHash ≠ entry.previousHash →
        (verifyChain sha256 (logged.set position edited) expected).LocalisedAt position) ∧
      (edited.previousHash = entry.previousHash → position + 1 < logged.length →
        (verifyChain sha256 (logged.set position edited) expected).LocalisedAt (position + 1))) ∧
    (∀ position expected, position + 1 < logged.length →
      (verifyChain sha256 (logged.eraseIdx position) expected).LocalisedAt position) ∧
    (∀ position inserted expected, position < logged.length →
      (inserted.previousHash ≠ chainHead sha256 (logged.take position) →
        (verifyChain sha256 (logged.insertIdx position inserted) expected).LocalisedAt position) ∧
      (inserted.previousHash = chainHead sha256 (logged.take position) →
        (verifyChain sha256 (logged.insertIdx position inserted) expected).LocalisedAt
          (position + 1))) := by
  -- A logger keeps its chain linked, which is all that the three kinds of tampering need.
  intro logged
  have linked : ChainLinked sha256 logged :=
    ((AuditLogger.chained_new sha256).run sha256 calls).linked
  refine ⟨fun entries => ?_, ?_, ?_, ?_⟩
  · rw [Bool.eq_iff_iff, verifyChain_isIntact_iff, verifyChainIntegrity_iff]
    simp
  · exact fun _ _ _ expected found different =>
      replaced_localised linked injective found different expected
  · exact fun _ expected more => deleted_localised linked injective nonempty more expected
  · exact fun _ inserted expected inside =>
      inserted_localised linked injective nonempty inside inserted expected

end Localisation

/-- Without the first of two logged entries the second one is reported, at the first position. -/
theorem tampering_localised_deleted :
    let logged := (AuditLogger.run id AuditLoggerOf.new
      [(Stamp.sample, sampleCall), (Stamp.sample, sampleCall)]).entries
    (verifyChain id (logged.eraseIdx 0) "").LocalisedAt 0 :=
  (tampering_localised (AuditEntry.computeHash_injective Function.injective_id)
    computeHash_id_ne_empty [(Stamp.sample, sampleCall), (Stamp.sample, sampleCall)]).2.2.1 0 ""
    (by simp [AuditLogger.run, AuditLogger.log, AuditLoggerOf.append, AuditLoggerOf.new])

end JolCommerce
