import JolCommerce.Regex.Redaction

/-! What can match where the pieces of a text are put together without anything between them. -/

namespace Regex

variable {isWord : Char → Bool}

/-- A match depends on its surroundings only by whether word characters are next to it. -/
theorem AtomsMatch.congr {atoms : List Atom} {previous outer : Option Char} {taken rest other : List Char}
    (left : previous.any isWord = outer.any isWord)
    (right : rest.head?.any isWord = other.head?.any isWord)
    (matched : AtomsMatch isWord atoms previous taken rest) :
    AtomsMatch isWord atoms outer taken other := by
  -- Boundaries are the only parts that look around, and they see no more than that.
  induction atoms generalizing previous outer taken with
  | nil => exact matched
  | cons atom atoms ih =>
    cases atom with
    | boundary =>
      refine ⟨?_, ih left matched.2⟩
      have bounded := matched.1
      cases taken with
      | nil => simpa [isBoundary, left, right] using bounded
      | cons char taken => simpa [isBoundary, left] using bounded
    | run run =>
      obtain ⟨first, more, rfl, spells, matched⟩ := matched
      refine ⟨first, more, rfl, spells, ih ?_ matched⟩
      cases first with
      | nil => exact left
      | cons char first => rw [lastOf_of_ne_nil (List.cons_ne_nil char first) previous outer]

/-- Where a boundary is in front, it does not matter what stands before a match. -/
theorem AtomsMatch.of_boundary {atoms : List Atom} {previous outer : Option Char}
    {taken rest : List Char} (bounded : isBoundary isWord outer (taken ++ rest).head? = true)
    (matched : AtomsMatch isWord atoms previous taken rest) :
    AtomsMatch isWord atoms outer taken rest := by
  -- After the first character nothing is seen of it any more.
  induction atoms generalizing taken with
  | nil => exact matched
  | cons atom atoms ih =>
    cases atom with
    | boundary => exact ⟨bounded, ih bounded matched.2⟩
    | run run =>
      obtain ⟨first, more, rfl, spells, matched⟩ := matched
      refine ⟨first, more, rfl, spells, ?_⟩
      cases first with
      | nil => exact ih bounded matched
      | cons char first => rwa [lastOf_of_ne_nil (List.cons_ne_nil char first) outer previous]

/-- Atoms with a boundary at their end match up to a boundary. -/
theorem AtomsMatch.boundary_behind {atoms : List Atom} {previous : Option Char} {taken rest : List Char}
    (matched : AtomsMatch isWord (atoms ++ [.boundary]) previous taken rest) :
    isBoundary isWord (lastOf previous taken) rest.head? = true := by
  -- The last part stands behind everything that was taken.
  induction atoms generalizing previous taken with
  | nil =>
    obtain ⟨bounded, rfl⟩ := matched
    exact bounded
  | cons atom atoms ih =>
    cases atom with
    | boundary => exact ih matched.2
    | run run =>
      obtain ⟨first, more, rfl, -, matched⟩ := matched
      rw [lastOf_append]
      exact ih matched

namespace Pattern

/-- Matches of a pattern end at a word boundary. -/
def EndsAtBoundary (isWord : Char → Bool) (pattern : Pattern) : Prop :=
  ∀ previous taken rest, pattern.Matches isWord previous taken rest →
    isBoundary isWord (lastOf previous taken) rest.head? = true

/-- A match in the joined pieces that starts in one of them and reaches the end of it. -/
def Crossing (isWord : Char → Bool) (pattern : Pattern) (outer : Option Char)
    (pieces : List (List Char)) : Prop :=
  ∃ front start inside back more rest, pieces = front ++ (start ++ inside) :: back ∧ inside ≠ [] ∧
    back ≠ [] ∧ back.flatten = more ++ rest ∧
    pattern.Matches isWord (lastOf outer (front.flatten ++ start)) (inside ++ more) rest

variable {pattern quiet cut : Pattern}

/-- It crosses out of the first piece or is a crossing match of those behind. -/
theorem crossing_cons_iff {outer : Option Char} {gap : List Char} {pieces : List (List Char)} :
    pattern.Crossing isWord outer (gap :: pieces) ↔
      (∃ start inside more rest, gap = start ++ inside ∧ inside ≠ [] ∧ pieces ≠ [] ∧
        pieces.flatten = more ++ rest ∧
        pattern.Matches isWord (lastOf outer start) (inside ++ more) rest) ∨
      pattern.Crossing isWord (lastOf outer gap) pieces := by
  -- The piece that it starts in is the first one or one of the others.
  constructor
  · rintro ⟨front, start, inside, back, more, rest, cut, given, nonempty, joined, matched⟩
    cases front with
    | nil =>
      obtain ⟨rfl, rfl⟩ := List.cons.inj cut
      exact Or.inl ⟨start, inside, more, rest, rfl, given, nonempty, joined, matched⟩
    | cons first front =>
      obtain ⟨rfl, rfl⟩ := List.cons.inj cut
      rw [List.flatten_cons, List.append_assoc, lastOf_append] at matched
      exact Or.inr ⟨front, start, inside, back, more, rest, rfl, given, nonempty, joined, matched⟩
  · rintro (⟨start, inside, more, rest, rfl, given, nonempty, joined, matched⟩ |
      ⟨front, start, inside, back, more, rest, rfl, given, nonempty, joined, matched⟩)
    · exact ⟨[], start, inside, pieces, more, rest, rfl, given, nonempty, joined, matched⟩
    · refine ⟨gap :: front, start, inside, back, more, rest, rfl, given, nonempty, joined, ?_⟩
      rwa [List.flatten_cons, List.append_assoc, lastOf_append]

/-- Out of a single piece no match can cross. -/
theorem not_crossing_single {outer : Option Char} {gap : List Char} :
    ¬pattern.Crossing isWord outer [gap] := by
  intro crossing
  rcases crossing_cons_iff.mp crossing with ⟨_, _, _, _, -, -, more, -⟩ | ⟨_, _, _, _, _, _, cut, -⟩
  · exact more rfl
  · simp at cut

/-- A crossing match is one in the joined pieces. -/
theorem Crossing.not_clean {outer : Option Char} {pieces : List (List Char)}
    (crossing : pattern.Crossing isWord outer pieces) : ¬pattern.Clean isWord outer pieces.flatten := by
  obtain ⟨front, start, inside, back, more, rest, rfl, -, -, joined, matched⟩ := crossing
  intro clean
  refine clean (front.flatten ++ start) (inside ++ more) rest ?_ matched
  simp [joined]

/-- A match within a piece was one in the text, where none starts in a piece. -/
theorem Quiet.not_inside {previous outer : Option Char} {gap after before taken mid other : List Char}
    (quiet : pattern.Quiet isWord previous gap after)
    (context : outer = previous ∨ isBoundary isWord previous (gap ++ after).head? = true)
    (within : gap = before ++ (taken ++ mid)) (heads : (mid ++ after).head? = (mid ++ other).head?) :
    ¬pattern.Matches isWord (lastOf outer before) taken (mid ++ other) := by
  intro matched
  have nonempty : taken ++ mid ≠ [] := by simp [matched.ne_nil]
  refine quiet before (taken ++ mid) taken (mid ++ after) within nonempty (List.append_assoc _ _ _) ?_
  have behind : AtomsMatch isWord pattern.atoms (lastOf outer before) taken (mid ++ after) :=
    AtomsMatch.congr rfl (by rw [heads]) matched
  by_cases first : before = []
  · -- At the front of the piece the text has a boundary, whatever stands there in the joined pieces.
    subst first
    rcases context with rfl | bounded
    · exact behind
    · refine behind.of_boundary ?_
      rw [within, List.nil_append, List.append_assoc] at bounded
      exact bounded
  · rw [lastOf_of_ne_nil first previous outer]
    exact behind

/-- Where a text is cut at boundaries, every match in the joined pieces is a crossing one. -/
theorem Cut.crossing (ends : cut.EndsAtBoundary isWord) {previous outer : Option Char}
    {text : List Char} {pieces : List (List Char)}
    (cutting : Cut isWord quiet cut previous text pieces)
    (context : outer = previous ∨ isBoundary isWord previous text.head? = true)
    {before taken rest : List Char} (joined : pieces.flatten = before ++ (taken ++ rest))
    (matched : quiet.Matches isWord (lastOf outer before) taken rest) :
    quiet.Crossing isWord outer pieces := by
  -- It starts in the first piece and ends before the piece does or crosses, or it starts later.
  induction cutting generalizing outer before with
  | last quiet =>
    rw [List.flatten_cons, List.flatten_nil, List.append_nil] at joined
    rw [← List.append_nil rest] at matched
    refine absurd matched (quiet.not_inside ?_ joined rfl)
    rwa [List.append_nil]
  | next quiet found cutting ih =>
    rename_i previous gap skipped behind pieces
    rw [List.flatten_cons] at joined
    rcases append_cases joined with ⟨inside, started, rfl, same⟩ | ⟨passed, rfl, same⟩
    · rcases append_cases same.symm with ⟨mid, nonempty, rfl, rfl⟩ | ⟨more, rfl, ended⟩
      · refine absurd matched (quiet.not_inside context rfl ?_)
        rw [head?_append nonempty, head?_append nonempty]
      · exact crossing_cons_iff.mpr
          (.inl ⟨before, inside, more, rest, rfl, started, cutting.ne_nil, ended, matched⟩)
    · rw [lastOf_append] at matched
      refine crossing_cons_iff.mpr (.inr (ih (.inr ?_) same matched))
      exact ends _ _ _ (matches_of_matchAt found)

/-- So the joined pieces are clean where no match crosses from one to the next. -/
theorem Cut.clean_flatten_iff (ends : cut.EndsAtBoundary isWord) {previous : Option Char}
    {text : List Char} {pieces : List (List Char)}
    (cutting : Cut isWord quiet cut previous text pieces) :
    quiet.Clean isWord previous pieces.flatten ↔ ¬quiet.Crossing isWord previous pieces := by
  constructor
  · exact fun clean crossing => crossing.not_clean clean
  · intro none before taken rest joined matched
    exact none (cutting.crossing ends (.inl rfl) joined matched)

/-- Without a replacement the pieces of a text stand next to each other. -/
theorem sub_nil (isWord : Char → Bool) (pattern : Pattern) (text : List Char) :
    pattern.sub isWord [] text = (pattern.split isWord text).flatten := by
  -- The empty text stands between two pieces, and none behind the last.
  rw [sub]
  induction pattern.split isWord text with
  | nil => rfl
  | cons piece pieces ih =>
    by_cases last : pieces = []
    · subst last
      simp
    · rw [intercalate_cons [] piece last, ih, List.nil_append, List.flatten_cons]

/-- The character before a position is one that was read. -/
theorem lastOf_mem {text : List Char} (nonempty : text ≠ []) (previous : Option Char) :
    ∃ char ∈ text, lastOf previous text = some char := by
  -- It is the last character, which was read after all others.
  induction text generalizing previous with
  | nil => exact absurd rfl nonempty
  | cons char text ih =>
    by_cases last : text = []
    · subst last
      exact ⟨char, List.mem_cons_self, rfl⟩
    · obtain ⟨other, member, read⟩ := ih last (some char)
      exact ⟨other, List.mem_cons_of_mem char member, read⟩

/-- Text without word characters leaves none before what follows it. -/
theorem lastOf_any {text : List Char} (plain : ∀ char ∈ text, isWord char = false) :
    (lastOf none text).any isWord = false := by
  by_cases empty : text = []
  · subst empty
    rfl
  · obtain ⟨char, member, read⟩ := lastOf_mem empty none
    rw [read]
    exact plain char member

/-- Nor does it begin with one. -/
theorem head?_any {text : List Char} (plain : ∀ char ∈ text, isWord char = false) :
    text.head?.any isWord = false := by
  cases text with
  | nil => rfl
  | cons char text => exact plain char List.mem_cons_self

/-- A text is clean where it was clean with something around it that has no word characters. -/
theorem Clean.unpadded {front text back : List Char}
    (plainFront : ∀ char ∈ front, isWord char = false) (plainBack : ∀ char ∈ back, isWord char = false)
    (clean : pattern.Clean isWord none (front ++ (text ++ back))) : pattern.Clean isWord none text := by
  -- An end of the text is a boundary for the same characters as what was there before.
  rintro before taken rest rfl matched
  refine clean (front ++ before) taken (rest ++ back) (by simp) (AtomsMatch.congr ?_ ?_ matched)
  · cases before with
    | nil => rw [List.append_nil, lastOf_any plainFront]; rfl
    | cons char before => rw [lastOf_append, lastOf_of_ne_nil (List.cons_ne_nil char before)]
  · cases rest with
    | nil => rw [List.nil_append, head?_any plainBack]; rfl
    | cons char rest => rfl

/-- Matches begin at a boundary or with a character that is not in a text. -/
def BeginsOutside (isWord : Char → Bool) (pattern : Pattern) (text : List Char) : Prop :=
  ∀ previous taken rest, pattern.Matches isWord previous taken rest →
    isBoundary isWord previous taken.head? = true ∨ ∀ char ∈ text, taken.head? ≠ some char

/-- And the other way round, for matches that neither begin nor end in it. -/
theorem Clean.padded {front text back : List Char}
    (plainFront : ∀ char ∈ front, isWord char = false) (plainBack : ∀ char ∈ back, isWord char = false)
    (begins : pattern.BeginsOutside isWord front) (ends : pattern.EndsAtBoundary isWord)
    (clean : pattern.Clean isWord none text) : pattern.Clean isWord none (front ++ (text ++ back)) := by
  intro before taken rest cut matched
  rcases append_cases cut with ⟨inside, nonempty, rfl, same⟩ | ⟨passed, rfl, same⟩
  · -- It would begin in front, with no boundary there.
    obtain ⟨char, inside, rfl⟩ := List.exists_cons_of_ne_nil nonempty
    have first : taken.head? = some char := by
      rw [← head?_append matched.ne_nil rest, same]
      rfl
    have listed : char ∈ before ++ char :: inside := by simp
    rcases begins _ _ _ matched with bounded | outside
    · have silent := lastOf_any fun other member => plainFront other (List.mem_append_left _ member)
      rw [first, isBoundary, silent] at bounded
      simp [plainFront char listed] at bounded
    · exact outside char listed first
  · rw [lastOf_append] at matched
    rw [← List.append_assoc] at same
    have left : (lastOf (lastOf none front) passed).any isWord = (lastOf none passed).any isWord := by
      cases passed with
      | nil => exact lastOf_any plainFront
      | cons char passed => rw [lastOf_of_ne_nil (List.cons_ne_nil char passed)]
    rcases append_cases same with ⟨mid, nonempty, rfl, rfl⟩ | ⟨beyond, reached, rfl⟩
    · refine clean passed taken mid (List.append_assoc _ _ _) (AtomsMatch.congr left ?_ matched)
      rw [head?_append nonempty]
    · by_cases within : beyond = []
      · subst within
        rw [List.append_nil] at reached
        refine clean passed taken [] (by rw [List.append_nil, reached]) (AtomsMatch.congr left ?_ matched)
        exact head?_any plainBack
      · -- It would end behind, with no boundary there.
        have bounded := ends _ _ _ matched
        obtain ⟨char, member, read⟩ := lastOf_mem within (lastOf (lastOf none front) text)
        have last : lastOf (lastOf (lastOf none front) passed) taken = some char := by
          rw [← lastOf_append _ passed taken, reached, lastOf_append, read]
        have silent := head?_any fun other listed => plainBack other (List.mem_append_right beyond listed)
        rw [last, isBoundary, silent] at bounded
        simp [plainBack char (List.mem_append_left rest member)] at bounded

end Pattern

end Regex
