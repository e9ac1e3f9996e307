import JolCommerce.Audit.AuditLog
import JolCommerce.Chain.HashChain

/-! The pure chain verifier, with and without a head checkpoint, and what a checkpoint commits to. -/

namespace JolCommerce

open Python

/-- The two verdicts of a verification pass. -/
inductive Verdict where
  | intact
  | tampered
  deriving DecidableEq

/-- Outcome of one verification pass. -/
structure ChainVerificationReport where
  verdict : Verdict
  verifiedCount : Nat
  firstBrokenIndex : Int := -1
  firstBrokenEntryId : String := ""
  reason : String := ""

namespace ChainVerificationReport

/-- The `is_intact` property. -/
def isIntact (report : ChainVerificationReport) : Bool := report.verdict = .intact

/-- The report of a link that does not name the hash before it. -/
def linkMismatch (index : Nat) (entry : AuditEntry) : ChainVerificationReport where
  verdict := .tampered
  verifiedCount := index
  firstBrokenIndex := index
  firstBrokenEntryId := entry.entryId
  reason := "previous_hash link mismatch"

/-- The report of a newest entry whose hash is not the checkpoint. -/
def headMismatch (count : Nat) (last : AuditEntry) : ChainVerificationReport where
  verdict := .tampered
  verifiedCount := count
  firstBrokenIndex := (count : Int) - 1
  firstBrokenEntryId := last.entryId
  reason := "head hash mismatch (terminal entry modified)"

end ChainVerificationReport

section Verifier

variable (sha256 : String → String)

/-- The loop of `verify_chain`: the first broken link, or the hash of the last entry. -/
def walkChain (index : Nat) (previousHash : String) :
    List AuditEntry → Except ChainVerificationReport String
  | [] => .ok previousHash
  | entry :: rest =>
    if entry.previousHash ≠ previousHash then .error (.linkMismatch index entry)
    else walkChain (index + 1) (entry.computeHash sha256) rest

/-- `verify_chain(entries, expected_head_hash)`. -/
def verifyChain (entries : List AuditEntry) (expectedHeadHash : String) : ChainVerificationReport :=
  match walkChain sha256 0 "" entries with
  | .error report => report
  | .ok previousHash =>
    match entries.getLast? with
    | some last =>
      if expectedHeadHash ≠ "" ∧ previousHash ≠ expectedHeadHash then
        .headMismatch entries.length last
      else { verdict := .intact, verifiedCount := entries.length }
    -- The checkpoint is compared only when there are entries.
    | none => { verdict := .intact, verifiedCount := entries.length }

/-- The entries form a linked chain from the empty hash. -/
def ChainLinked (entries : List AuditEntry) : Prop :=
  HashChain.Linked (AuditEntry.computeHash sha256) AuditEntryOf.previousHash "" entries

/-- The hash an entry appended next would name. -/
def chainHead (entries : List AuditEntry) : String :=
  HashChain.head (AuditEntry.computeHash sha256) "" entries

/-- A walk succeeds exactly along linked entries, and returns their head. -/
theorem walkChain_ok_iff (index : Nat) (start result : String) (entries : List AuditEntry) :
    walkChain sha256 index start entries = .ok result ↔
      HashChain.Linked (AuditEntry.computeHash sha256) AuditEntryOf.previousHash start entries ∧
        HashChain.head (AuditEntry.computeHash sha256) start entries = result := by
  -- The loop carries the hash of the entry it has just accepted.
  induction entries generalizing index start with
  | nil => simp [walkChain, HashChain.Linked, HashChain.head]
  | cons entry rest ih =>
    by_cases link : entry.previousHash = start
    · simp [walkChain, HashChain.Linked, HashChain.head, link, ih]
    · simp [walkChain, HashChain.Linked, link]

/-- A broken link is reported as tampering, never as an intact chain. -/
theorem walkChain_error {index : Nat} {start : String} {entries : List AuditEntry}
    {report : ChainVerificationReport}
    (broken : walkChain sha256 index start entries = .error report) : report.isIntact = false := by
  -- The walk stops at the first link that does not fit, and reports that one.
  induction entries generalizing index start with
  | nil => simp [walkChain] at broken
  | cons entry rest ih =>
    simp only [walkChain] at broken
    split at broken
    · cases broken
      rfl
    · exact ih broken

/-- An entry sequence verifies when it is linked and, if it has entries, ends at the checkpoint. -/
theorem verifyChain_isIntact_iff (entries : List AuditEntry) (expected : String) :
    (verifyChain sha256 entries expected).isIntact = true ↔
      ChainLinked sha256 entries ∧
        (expected = "" ∨ entries = [] ∨ chainHead sha256 entries = expected) := by
  -- The walk decides the links, and only then is its result compared with the checkpoint.
  unfold verifyChain ChainLinked chainHead
  cases walked : walkChain sha256 0 "" entries with
  | error report =>
    have unlinked : ¬HashChain.Linked (AuditEntry.computeHash sha256) AuditEntryOf.previousHash ""
        entries := by
      intro linked
      have success := (walkChain_ok_iff sha256 0 "" _ entries).mpr ⟨linked, rfl⟩
      simp [walked] at success
    simp [walkChain_error sha256 walked, unlinked]
  | ok previousHash =>
    obtain ⟨linked, head⟩ := (walkChain_ok_iff sha256 0 "" _ entries).mp walked
    -- Without a last entry the checkpoint is not looked at.
    rcases List.eq_nil_or_concat' entries with rfl | ⟨front, last, rfl⟩
    · simp [ChainVerificationReport.isIntact, linked]
    · simp only [List.getLast?_append, List.getLast?_singleton, Option.some_or, head]
      split
      · rename_i mismatch
        simp [ChainVerificationReport.isIntact, ChainVerificationReport.headMismatch, mismatch]
      · rename_i agrees
        simp only [ChainVerificationReport.isIntact, decide_true, true_iff]
        refine ⟨linked, ?_⟩
        by_cases unset : expected = ""
        · exact Or.inl unset
        · exact Or.inr (Or.inr (by_contra fun different => agrees ⟨unset, different⟩))

/-- The logger's own verification accepts exactly the linked sequences. -/
theorem verifyChainIntegrity_iff (entries : List AuditEntry) :
    AuditLogger.verifyChainIntegrity sha256 entries = true ↔ ChainLinked sha256 entries := by
  have general : ∀ (start : String), AuditLogger.linksFrom sha256 start entries = true ↔
      HashChain.Linked (AuditEntry.computeHash sha256) AuditEntryOf.previousHash start entries := by
    -- The loop carries the hash that the next entry has to name.
    induction entries with
    | nil => intro start; simp [AuditLogger.linksFrom, HashChain.Linked]
    | cons entry rest ih =>
      intro start
      by_cases link : entry.previousHash = start
      · simp [AuditLogger.linksFrom, HashChain.Linked, link, ih]
      · simp [AuditLogger.linksFrom, HashChain.Linked, link]
  exact general ""

/-- The logger's chain is linked and its recorded hash is the chain's head. -/
structure AuditLogger.Chained (logger : AuditLogger) : Prop where
  linked : ChainLinked sha256 logger.entries
  recorded : chainHead sha256 logger.entries = logger.lastHash

/-- A fresh logger is chained. -/
theorem AuditLogger.chained_new : AuditLogger.Chained sha256 AuditLoggerOf.new :=
  ⟨trivial, rfl⟩

/-- Logging keeps the chain: the new entry names the hash recorded before it. -/
theorem AuditLogger.Chained.log {logger : AuditLogger} (chained : logger.Chained sha256)
    (stamp : Stamp) (call : LogCall JsonObject) : (logger.log sha256 stamp call).Chained sha256 := by
  -- The recorded hash is the head before the call, and the new digest the head after it.
  refine ⟨?_, ?_⟩
  · exact (HashChain.linked_concat _ _ _ _ _).mpr ⟨chained.linked, chained.recorded.symm⟩
  · exact HashChain.head_concat _ _ _ _

/-- Any number of log calls keeps the chain. -/
theorem AuditLogger.Chained.run {logger : AuditLogger} (chained : logger.Chained sha256)
    (calls : List (Stamp × LogCall JsonObject)) : (logger.run sha256 calls).Chained sha256 := by
  -- One call at a time, in the order of the run.
  induction calls generalizing logger with
  | nil => exact chained
  | cons call rest ih => exact ih (chained.log sha256 call.1 call.2)

end Verifier

end JolCommerce
