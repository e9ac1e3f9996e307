import JolCommerce.Regex.Pattern

/-! Splitting a text at the matches of a pattern, and putting something else in their place. -/

namespace Regex

namespace Pattern

variable (isWord : Char → Bool) (pattern : Pattern)

/-- `split` from a position on, some characters of the last match still to be skipped. -/
def splitFrom : Option Char → Nat → List Char → List (List Char)
  | _, _, [] => [[]]
  | _, skip + 1, char :: rest => splitFrom (some char) skip rest
  | previous, 0, char :: rest =>
    match pattern.matchAt isWord previous (char :: rest) with
    | some length => [] :: splitFrom (some char) (length - 1) rest
    | none => (splitFrom (some char) 0 rest).modifyHead (char :: ·)

/-- `split`: the pieces between the matches that a scan from the left finds. -/
def split (text : List Char) : List (List Char) :=
  pattern.splitFrom isWord none 0 text

/-- `sub`: the pieces with a replacement between them. -/
def sub (replacement text : List Char) : List Char :=
  replacement.intercalate (pattern.split isWord text)

/-- No match starts in a text that is followed by another one. -/
def Quiet (previous : Option Char) (gap after : List Char) : Prop :=
  ∀ before inside taken rest, gap = before ++ inside → inside ≠ [] → inside ++ after = taken ++ rest →
    ¬pattern.Matches isWord (lastOf previous before) taken rest

variable {isWord} {pattern}

/-- There is no position in an empty text. -/
theorem quiet_nil (previous : Option Char) (after : List Char) :
    pattern.Quiet isWord previous [] after := by
  intro before inside taken rest cut nonempty
  simp only [List.nil_eq_append_iff] at cut
  exact absurd cut.2 nonempty

/-- A character where nothing matches in front of a quiet text. -/
theorem Quiet.cons {previous : Option Char} {char : Char} {gap after : List Char}
    (front : pattern.matchAt isWord previous (char :: (gap ++ after)) = none)
    (quiet : pattern.Quiet isWord (some char) gap after) :
    pattern.Quiet isWord previous (char :: gap) after := by
  -- A match would start at the character or in the text behind it.
  intro before inside taken rest cut nonempty same
  cases before with
  | nil =>
    rw [matchAt, matchAtoms_eq_none] at front
    refine front taken rest ?_
    rw [← same, ← List.nil_append inside, ← cut, List.cons_append]
  | cons first before =>
    obtain ⟨rfl, behind⟩ := List.cons.inj cut
    exact quiet before inside taken rest behind nonempty same

/-- Nothing starts in a text that is clean. -/
theorem Clean.quiet {previous : Option Char} {gap after : List Char}
    (clean : pattern.Clean isWord previous (gap ++ after)) :
    pattern.Quiet isWord previous gap after := by
  rintro before inside taken rest rfl - same
  exact clean before taken rest (by rw [List.append_assoc, same])

/-- What follows a part of a clean text is clean. -/
theorem Clean.tail {previous : Option Char} {front back : List Char}
    (clean : pattern.Clean isWord previous (front ++ back)) :
    pattern.Clean isWord (lastOf previous front) back := by
  intro before taken rest cut
  rw [← lastOf_append]
  exact clean (front ++ before) taken rest (by rw [cut, List.append_assoc])

/-- A clean text is quiet, with nothing behind it. -/
theorem clean_iff_quiet {previous : Option Char} {text : List Char} :
    pattern.Clean isWord previous text ↔ pattern.Quiet isWord previous text [] := by
  constructor
  · intro clean
    exact Clean.quiet (by rwa [List.append_nil])
  · intro quiet before taken rest cut matched
    refine quiet before (taken ++ rest) taken rest cut ?_ (List.append_nil _) matched
    simp [matched.ne_nil]

/-- Pieces of a text between matches of one pattern, where no match of another pattern starts. -/
inductive Cut (isWord : Char → Bool) (quiet cut : Pattern) :
    Option Char → List Char → List (List Char) → Prop where
  /-- No match is left. -/
  | last {previous : Option Char} {gap : List Char} :
      quiet.Quiet isWord previous gap [] → Cut isWord quiet cut previous gap [gap]
  /-- The first match and the pieces after it. -/
  | next {previous : Option Char} {gap taken rest : List Char} {pieces : List (List Char)} :
      quiet.Quiet isWord previous gap (taken ++ rest) →
      cut.matchAt isWord (lastOf previous gap) (taken ++ rest) = some taken.length →
      Cut isWord quiet cut (lastOf (lastOf previous gap) taken) rest pieces →
      Cut isWord quiet cut previous (gap ++ (taken ++ rest)) (gap :: pieces)

/-- A match that is reported with its length is one. -/
theorem matches_of_matchAt {previous : Option Char} {taken rest : List Char}
    (found : pattern.matchAt isWord previous (taken ++ rest) = some taken.length) :
    pattern.Matches isWord previous taken rest := by
  obtain ⟨other, after, cut, same, matched⟩ := atomsMatch_of_matchAtoms found
  obtain ⟨rfl, rfl⟩ := List.append_inj cut same.symm
  exact matched

/-- There is a first piece. -/
theorem Cut.ne_nil {quiet cut : Pattern} {previous : Option Char} {text : List Char}
    {pieces : List (List Char)} (cutting : Cut isWord quiet cut previous text pieces) :
    pieces ≠ [] := by
  cases cutting <;> simp

/-- A character where nothing matches belongs to the first piece. -/
private theorem Cut.cons {previous : Option Char} {char : Char} {text : List Char}
    {pieces : List (List Char)} (front : pattern.matchAt isWord previous (char :: text) = none)
    (cutting : Cut isWord pattern pattern (some char) text pieces) :
    Cut isWord pattern pattern previous (char :: text) (pieces.modifyHead (char :: ·)) := by
  cases cutting with
  | last quiet => exact .last (Quiet.cons (by rwa [List.append_nil]) quiet)
  | next quiet found rest => exact .next (Quiet.cons front quiet) found rest

/-- What a match has consumed is skipped. -/
private theorem splitFrom_skip (previous : Option Char) (taken rest : List Char) :
    pattern.splitFrom isWord previous taken.length (taken ++ rest) =
      pattern.splitFrom isWord (lastOf previous taken) 0 rest := by
  induction taken generalizing previous with
  | nil => rfl
  | cons char taken ih => exact ih (some char)

/-- A scan cuts the text at matches and leaves none in between. -/
theorem cut_splitFrom (previous : Option Char) (text : List Char) :
    Cut isWord pattern pattern previous text (pattern.splitFrom isWord previous 0 text) := by
  -- A match shortens what is left by its own length, so the induction is on the length.
  induction length : text.length using Nat.strongRecOn generalizing previous text with
  | _ bound ih =>
    cases text with
    | nil => exact .last (clean_iff_quiet.mp (clean_nil previous))
    | cons char text =>
      simp only [List.length_cons] at length
      simp only [splitFrom]
      split
      · rename_i consumed found
        obtain ⟨taken, rest, cut, rfl, matched⟩ := atomsMatch_of_matchAtoms found
        cases taken with
        | nil => exact absurd rfl (AtomsMatch.ne_nil matched pattern.consuming)
        | cons first taken =>
          rw [List.cons_append] at cut
          obtain ⟨rfl, behind⟩ := List.cons.inj cut
          subst behind
          rw [List.length_cons, Nat.add_sub_cancel, splitFrom_skip]
          have shorter : rest.length < bound := by
            simp only [List.length_append] at length
            omega
          change Cut isWord pattern pattern previous ([] ++ (char :: taken ++ rest)) _
          exact .next (quiet_nil previous _) found (ih rest.length shorter _ rest rfl)
      · rename_i front
        exact Cut.cons front (ih text.length (by omega) _ text rfl)

/-- A clean text is its own only piece. -/
theorem splitFrom_of_clean {previous : Option Char} {text : List Char}
    (clean : pattern.Clean isWord previous text) :
    pattern.splitFrom isWord previous 0 text = [text] := by
  induction text generalizing previous with
  | nil => rfl
  | cons char text ih =>
    obtain ⟨front, behind⟩ := clean_cons.mp clean
    simp [splitFrom, front, ih behind]

/-- Nothing is replaced in a clean text. -/
theorem sub_of_clean {text : List Char} (clean : pattern.Clean isWord none text)
    (replacement : List Char) : pattern.sub isWord replacement text = text := by
  simp [sub, split, splitFrom_of_clean clean, List.intercalate]

/-- Where nothing of another pattern occurs, a scan cuts the text without disturbing it. -/
theorem Cut.of_clean {quiet cut : Pattern} {previous : Option Char} {text : List Char}
    {pieces : List (List Char)} (cutting : Cut isWord cut cut previous text pieces)
    (clean : quiet.Clean isWord previous text) : Cut isWord quiet cut previous text pieces := by
  induction cutting with
  | last _ => exact .last (clean_iff_quiet.mp clean)
  | next _ found _ ih =>
    refine .next clean.quiet found (ih ?_)
    exact clean.tail.tail

end Pattern

end Regex
