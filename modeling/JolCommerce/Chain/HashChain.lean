import Mathlib.Data.Set.Function
import Mathlib.Data.List.Basic
import Mathlib.Data.List.Forall2
import Mathlib.Data.List.Induction

/-! Append-only hash chains over arbitrary entries: linking, the head digest, and what a head commits to. -/

namespace HashChain

variable {Entry Digest : Type} (hash previous : Entry → Digest)

/-- Every entry names the digest of the entry before it, the first one the starting digest. -/
def Linked (start : Digest) : List Entry → Prop
  | [] => True
  | entry :: rest => previous entry = start ∧ Linked (hash entry) rest

/-- The digest the next entry has to name. -/
def head (start : Digest) : List Entry → Digest
  | [] => start
  | entry :: rest => head (hash entry) rest

/-- The digest of the last entry is the head. -/
@[simp] theorem head_concat (start : Digest) (entries : List Entry) (entry : Entry) :
    head hash start (entries ++ [entry]) = hash entry := by
  induction entries generalizing start with
  | nil => rfl
  | cons first rest ih => exact ih (hash first)

/-- A chain extended by one entry stays linked exactly when the entry names the head. -/
theorem linked_concat (start : Digest) (entries : List Entry) (entry : Entry) :
    Linked hash previous start (entries ++ [entry]) ↔
      Linked hash previous start entries ∧ previous entry = head hash start entries := by
  -- Both sides peel the entries off the front in the same order.
  induction entries generalizing start with
  | nil => simp [Linked, head]
  | cons first rest ih => simp only [List.cons_append, Linked, head, ih, and_assoc]

/-- A chain in two parts is linked when each part is, the second one from the head of the first. -/
theorem linked_append (start : Digest) (front back : List Entry) :
    Linked hash previous start (front ++ back) ↔
      Linked hash previous start front ∧ Linked hash previous (head hash start front) back := by
  induction front generalizing start with
  | nil => simp [Linked, head]
  | cons first rest ih => simp only [List.cons_append, Linked, head, ih, and_assoc]

/-- A nonempty chain's head is the digest of one of its entries. -/
theorem head_mem (start : Digest) {entries : List Entry} (nonempty : entries ≠ []) :
    ∃ entry ∈ entries, head hash start entries = hash entry := by
  obtain ⟨front, last, rfl⟩ := (List.eq_nil_or_concat' entries).resolve_left nonempty
  exact ⟨last, by simp, head_concat hash start front last⟩

/-- Two linked chains with one head are the same chain, unless their own entries collide. -/
theorem eq_of_head_eq (start : Digest) {left right : List Entry}
    (injective : Set.InjOn hash {entry | entry ∈ left ∨ entry ∈ right})
    (fresh : ∀ entry, entry ∈ left ∨ entry ∈ right → hash entry ≠ start)
    (leftLinked : Linked hash previous start left) (rightLinked : Linked hash previous start right)
    (same : head hash start left = head hash start right) : left = right := by
  -- Backward along both chains: equal heads give equal last entries, which name equal heads again.
  induction left using List.reverseRecOn generalizing right with
  | nil =>
    by_contra different
    obtain ⟨entry, member, found⟩ := head_mem hash start (Ne.symm different)
    exact fresh entry (Or.inr member) (found.symm.trans same.symm)
  | append_singleton front last ih =>
    rcases List.eq_nil_or_concat' right with rfl | ⟨otherFront, otherLast, rfl⟩
    · -- The empty chain has the starting digest for its head, which no entry hashes to.
      rw [head_concat] at same
      exact absurd same (fresh last (Or.inl (by simp)))
    · rw [head_concat, head_concat] at same
      have lastSame : last = otherLast :=
        injective (Or.inl (by simp)) (Or.inr (by simp)) same
      rw [linked_concat] at leftLinked rightLinked
      have frontSame : front = otherFront := by
        refine ih ?_ ?_ leftLinked.1 rightLinked.1 ?_
        · exact injective.mono fun entry member =>
            member.imp (fun inside => by simp [inside]) (fun inside => by simp [inside])
        · exact fun entry member => fresh entry
            (member.imp (fun inside => by simp [inside]) (fun inside => by simp [inside]))
        · rw [← leftLinked.2, ← rightLinked.2, lastSame]
      rw [frontSame, lastSame]

/-- Entries rewritten after they were chained still verify exactly when no digest changed. -/
theorem rewritten_linked_iff {start other : Digest} {recorded final : List Entry}
    (linked : Linked hash previous start recorded)
    (links : List.Forall₂ (fun before after => previous after = previous before) recorded final) :
    (Linked hash previous other final ∧ head hash other final = head hash start recorded) ↔
      other = start ∧ List.Forall₂ (fun before after => hash after = hash before) recorded final := by
  -- Each rewritten entry still names the digest its predecessor had when it was chained.
  induction links generalizing start other with
  | nil => simp [Linked, head]
  | @cons before after beforeRest afterRest link _ ih =>
    obtain ⟨first, rest⟩ := linked
    simp only [Linked, head, List.forall₂_cons]
    have step := @ih (hash before) (hash after) rest
    rw [and_assoc, step, link, first]
    constructor
    · intro matching
      obtain ⟨rfl, digest, digests⟩ := matching
      exact ⟨rfl, digest, digests⟩
    · intro matching
      obtain ⟨rfl, digest, digests⟩ := matching
      exact ⟨rfl, digest, digests⟩

/-- The first link that does not fit is that of the entry at a position. -/
def BrokenAt (start : Digest) (entries : List Entry) (position : Nat) : Prop :=
  ∃ front entry rest, entries = front ++ entry :: rest ∧ front.length = position ∧
    Linked hash previous start front ∧ previous entry ≠ head hash start front

section Tampering

variable {hash previous} {start : Digest} {front rest : List Entry} {entry : Entry}

/-- A link that does not fit behind a linked chain is the first one. -/
theorem brokenAt_append (linked : Linked hash previous start front) {other : Entry}
    (misfit : previous other ≠ head hash start front) :
    BrokenAt hash previous start (front ++ other :: rest) front.length :=
  ⟨front, other, rest, rfl, rfl, linked, misfit⟩

/-- So is the one after an entry that fits. -/
theorem brokenAt_append_second (linked : Linked hash previous start front) {other next : Entry}
    (fits : previous other = head hash start front) (misfit : previous next ≠ hash other) :
    BrokenAt hash previous start (front ++ other :: next :: rest) (front.length + 1) := by
  refine ⟨front ++ [other], next, rest, by simp, by simp, ?_, ?_⟩
  · exact (linked_concat hash previous start front other).mpr ⟨linked, fits⟩
  · rw [head_concat]
    exact misfit

variable (linked : Linked hash previous start (front ++ entry :: rest))
  (injective : Function.Injective hash) (fresh : ∀ entry, hash entry ≠ start)

include linked

/-- Another entry that names another digest breaks its own link. -/
theorem brokenAt_replaced {other : Entry} (renamed : previous other ≠ previous entry) :
    BrokenAt hash previous start (front ++ other :: rest) front.length := by
  obtain ⟨before, fits, -⟩ := (linked_append hash previous start front (entry :: rest)).mp linked
  refine brokenAt_append before ?_
  rw [← fits]
  exact renamed

include injective

/-- Another entry that names the same digest breaks the link of its successor. -/
theorem brokenAt_replaced_second {other next : Entry} {later : List Entry} (last : rest = next :: later)
    (different : other ≠ entry) (same : previous other = previous entry) :
    BrokenAt hash previous start (front ++ other :: rest) (front.length + 1) := by
  obtain ⟨before, fits, linkedRest⟩ :=
    (linked_append hash previous start front (entry :: rest)).mp linked
  rw [last] at linkedRest ⊢
  refine brokenAt_append_second before (same.trans fits) ?_
  -- The successor names the digest of the entry that is gone.
  rw [linkedRest.1]
  exact fun collides => different (injective collides).symm

include fresh

/-- No entry of a chain has the digest that it names itself. -/
theorem hash_ne_head : hash entry ≠ head hash start front := by
  -- Backward along the chain: the same digest twice would be the same entry twice, back to the start.
  induction front using List.reverseRecOn generalizing entry rest with
  | nil => exact fresh entry
  | append_singleton earlier last ih =>
    rw [head_concat]
    intro repeated
    rw [linked_append, linked_concat, head_concat] at linked
    obtain ⟨⟨before, fits⟩, own, -⟩ := linked
    have back : Linked hash previous start (earlier ++ last :: []) :=
      (linked_concat hash previous start earlier last).mpr ⟨before, fits⟩
    refine ih back ?_
    rw [← fits, ← injective repeated, own, injective repeated]

/-- Without an entry its successor does not fit. -/
theorem brokenAt_deleted {next : Entry} {later : List Entry} (last : rest = next :: later) :
    BrokenAt hash previous start (front ++ rest) front.length := by
  -- The next entry still links to the deleted one, whose hash is no other head.
  obtain ⟨before, -, linkedRest⟩ :=
    (linked_append hash previous start front (entry :: rest)).mp linked
  have distinct := hash_ne_head linked injective fresh
  rw [last] at linkedRest ⊢
  refine brokenAt_append before ?_
  rw [linkedRest.1]
  exact distinct

/-- Behind an inserted entry that fits, the entry that stood there does not. -/
theorem brokenAt_inserted_second {inserted : Entry} (fits : previous inserted = head hash start front) :
    BrokenAt hash previous start (front ++ inserted :: entry :: rest) (front.length + 1) := by
  obtain ⟨before, own, -⟩ := (linked_append hash previous start front (entry :: rest)).mp linked
  refine brokenAt_append_second before fits ?_
  -- The inserted entry continues the chain too, so it does not have the digest it names.
  have extended : Linked hash previous start (front ++ inserted :: []) :=
    (linked_concat hash previous start front inserted).mpr ⟨before, fits⟩
  rw [own]
  exact (hash_ne_head extended injective fresh).symm

end Tampering

end HashChain
