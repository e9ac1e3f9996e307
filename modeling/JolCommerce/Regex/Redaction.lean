import JolCommerce.Regex.Substitution

/-! Patterns between word boundaries, and markers that can stand in place of their matches. -/

namespace Regex

/-- Texts that runs can consume one after the other. -/
def Spelled : List Run → List Char → Prop
  | [], text => text = []
  | run :: runs, text => ∃ first more, text = first ++ more ∧ run.Spells first ∧ Spelled runs more

/-- Every character was accepted by one of the runs. -/
theorem Spelled.accepted {runs : List Run} {text : List Char} (spelled : Spelled runs text)
    {char : Char} (member : char ∈ text) : ∃ run ∈ runs, run.accepts char = true := by
  -- A character belongs to what the first run took or to the rest.
  induction runs generalizing text with
  | nil => simp [show text = [] from spelled] at member
  | cons run runs ih =>
    obtain ⟨first, more, rfl, spells, later⟩ := spelled
    rcases List.mem_append.mp member with inFirst | inMore
    · exact ⟨run, List.mem_cons_self, spells.accepted char inFirst⟩
    · obtain ⟨other, listed, accepted⟩ := ih later inMore
      exact ⟨other, List.mem_cons_of_mem _ listed, accepted⟩

/-- A run that requires a character has consumed one. -/
theorem Spelled.required {runs : List Run} {text : List Char} (spelled : Spelled runs text)
    {run : Run} (listed : run ∈ runs) (positive : 0 < run.least) :
    ∃ char ∈ text, run.accepts char = true := by
  -- The run is the first one or one of those behind it.
  induction runs generalizing text with
  | nil => simp at listed
  | cons head runs ih =>
    obtain ⟨first, more, rfl, spells, later⟩ := spelled
    rcases List.mem_cons.mp listed with rfl | listed
    · have long := spells.least
      obtain ⟨char, member⟩ := List.exists_mem_of_length_pos (show 0 < first.length by omega)
      exact ⟨char, List.mem_append_left _ member, spells.accepted char member⟩
    · obtain ⟨char, member, accepted⟩ := ih later listed
      exact ⟨char, List.mem_append_right _ member, accepted⟩

/-- Runs between two word boundaries. -/
def delimited (runs : List Run) (consuming : ∃ run ∈ runs, 0 < run.least) : Pattern where
  atoms := .boundary :: (runs.map .run ++ [.boundary])
  consuming := by
    obtain ⟨run, listed, positive⟩ := consuming
    exact ⟨run, by simp [listed], positive⟩

variable {isWord : Char → Bool}

private theorem atomsMatch_runs {runs : List Run} {previous : Option Char} {taken rest : List Char} :
    AtomsMatch isWord (runs.map .run ++ [.boundary]) previous taken rest ↔
      Spelled runs taken ∧ isBoundary isWord (lastOf previous taken) rest.head? = true := by
  -- The runs take their texts one after the other, and the boundary comes last.
  induction runs generalizing previous taken with
  | nil =>
    simp only [List.map_nil, List.nil_append, AtomsMatch, Spelled]
    constructor
    · rintro ⟨bounded, rfl⟩
      exact ⟨rfl, bounded⟩
    · rintro ⟨rfl, bounded⟩
      exact ⟨bounded, rfl⟩
  | cons run runs ih =>
    simp only [List.map_cons, List.cons_append, AtomsMatch, Spelled, ih]
    constructor
    · rintro ⟨first, more, rfl, spells, later, bounded⟩
      exact ⟨⟨first, more, rfl, spells, later⟩, by rwa [lastOf_append]⟩
    · rintro ⟨⟨first, more, rfl, spells, later⟩, bounded⟩
      exact ⟨first, more, rfl, spells, later, by rwa [lastOf_append] at bounded⟩

/-- Such a pattern matches a text that its runs spell between two boundaries. -/
theorem delimited_matches_iff {runs : List Run} {consuming : ∃ run ∈ runs, 0 < run.least}
    {previous : Option Char} {taken rest : List Char} :
    (delimited runs consuming).Matches isWord previous taken rest ↔
      isBoundary isWord previous (taken ++ rest).head? = true ∧ Spelled runs taken ∧
        isBoundary isWord (lastOf previous taken) rest.head? = true :=
  and_congr_right fun _ => atomsMatch_runs

/-- A marker that runs cannot read into from either side, nor find anything within. -/
structure Sealed (runs : List Run) (marker : List Char) : Prop where
  opening : ∃ char, marker.head? = some char ∧ ∀ run ∈ runs, run.accepts char = false
  closing : ∃ char, marker.getLast? = some char ∧ ∀ run ∈ runs, run.accepts char = false
  foreign : ∃ run ∈ runs, 0 < run.least ∧ ∀ char ∈ marker, run.accepts char = false

namespace Sealed

variable {runs : List Run} {marker taken : List Char}

/-- A marker between two characters that the runs refuse, without what one of them requires. -/
theorem of_checks {first last : Char} {required : Run} (opening : marker.head? = some first)
    (closing : marker.getLast? = some last)
    (refused : (runs.all fun run => !run.accepts first && !run.accepts last) = true)
    (listed : required ∈ runs) (positive : 0 < required.least)
    (foreign : (marker.all fun char => !required.accepts char) = true) : Sealed runs marker := by
  simp only [List.all_eq_true, Bool.and_eq_true, Bool.not_eq_true'] at refused foreign
  exact ⟨⟨first, opening, fun run member => (refused run member).1⟩,
    ⟨last, closing, fun run member => (refused run member).2⟩, ⟨required, listed, positive, foreign⟩⟩

/-- What the runs spell does not go on into a marker. -/
theorem not_into (isSealed : Sealed runs marker) {inside more rest after : List Char}
    (nonempty : more ≠ []) (spelled : Spelled runs (inside ++ more))
    (same : marker ++ after = more ++ rest) : False := by
  -- The marker's first character would be spelled.
  obtain ⟨char, first, refused⟩ := isSealed.opening
  cases more with
  | nil => exact nonempty rfl
  | cons head more =>
    have heads : marker.head? = some head := by
      cases marker with
      | nil => simp at first
      | cons opening marker =>
        obtain ⟨rfl, -⟩ := List.cons.inj same
        rfl
    rw [first, Option.some.injEq] at heads
    subst heads
    obtain ⟨run, listed, accepted⟩ := spelled.accepted (List.mem_append_right inside List.mem_cons_self)
    rw [refused run listed] at accepted
    cases accepted

/-- Nor does it start within one. -/
theorem not_within (isSealed : Sealed runs marker) (spelled : Spelled runs taken)
    {before inside rest after : List Char} (cut : marker = before ++ inside) (nonempty : inside ≠ [])
    (same : inside ++ after = taken ++ rest) : False := by
  rcases List.append_eq_append_iff.mp same with ⟨more, rfl, -⟩ | ⟨more, rfl, -⟩
  · -- The marker's last character would be spelled.
    obtain ⟨char, last, refused⟩ := isSealed.closing
    have ends : inside.getLast? = some char := by
      rw [← last, cut, List.getLast?_append_of_ne_nil _ nonempty]
    have member : char ∈ inside := List.mem_of_getLast? ends
    obtain ⟨run, listed, accepted⟩ := spelled.accepted (List.mem_append_left more member)
    rw [refused run listed] at accepted
    cases accepted
  · -- All of it lies in the marker, which lacks what a run requires.
    obtain ⟨run, listed, positive, refused⟩ := isSealed.foreign
    obtain ⟨char, member, accepted⟩ := spelled.required listed positive
    rw [refused char (by simp [cut, member])] at accepted
    cases accepted

end Sealed

/-- A replacement between pieces stands behind the first one. -/
theorem intercalate_cons (separator piece : List Char) {pieces : List (List Char)}
    (more : pieces ≠ []) :
    separator.intercalate (piece :: pieces) = piece ++ (separator ++ separator.intercalate pieces) := by
  cases pieces with
  | nil => exact absurd rfl more
  | cons second pieces => simp [List.intercalate, List.intersperse]

/-- Of two cuts of a text one lies before the other, or they are the same. -/
theorem append_cases {front back left right : List Char} (same : front ++ back = left ++ right) :
    (∃ middle, middle ≠ [] ∧ front = left ++ middle ∧ right = middle ++ back) ∨
      ∃ middle, left = front ++ middle ∧ back = middle ++ right := by
  rcases List.append_eq_append_iff.mp same with later | ⟨middle, rfl, rfl⟩
  · exact Or.inr later
  · by_cases empty : middle = []
    · subst empty
      exact Or.inr ⟨[], by simp, by simp⟩
    · exact Or.inl ⟨middle, empty, rfl, rfl⟩

/-- The first character of a text with something in it. -/
theorem head?_append {text : List Char} (nonempty : text ≠ []) (rest : List Char) :
    (text ++ rest).head? = text.head? := by
  cases text with
  | nil => exact absurd rfl nonempty
  | cons char text => rfl

namespace Pattern

variable {runs : List Run} {consuming : ∃ run ∈ runs, 0 < run.least}

/-- What matches in one place matches in another one that has the boundaries. -/
theorem Matches.transfer {outer previous : Option Char} {taken rest after : List Char}
    (matched : (delimited runs consuming).Matches isWord outer taken rest)
    (left : isBoundary isWord outer taken.head? = true → isBoundary isWord previous taken.head? = true)
    (right : isBoundary isWord (lastOf previous taken) rest.head? = true →
      isBoundary isWord (lastOf previous taken) after.head? = true) :
    (delimited runs consuming).Matches isWord previous taken after := by
  have nonempty := matched.ne_nil
  rw [delimited_matches_iff, head?_append nonempty] at matched ⊢
  obtain ⟨begins, spelled, ends⟩ := matched
  rw [lastOf_of_ne_nil nonempty outer previous] at ends
  exact ⟨left begins, spelled, right ends⟩

variable {quietRuns cutRuns : List Run} {quietConsuming : ∃ run ∈ quietRuns, 0 < run.least}
  {cutConsuming : ∃ run ∈ cutRuns, 0 < run.least}

/-- A quiet text stays so where its surroundings have boundaries only if they had them before. -/
theorem Quiet.transfer {previous outer : Option Char} {gap after other : List Char}
    (quiet : (delimited runs consuming).Quiet isWord previous gap after)
    (left : isBoundary isWord outer gap.head? = true → isBoundary isWord previous gap.head? = true)
    (right : isBoundary isWord (lastOf previous gap) other.head? = true →
      isBoundary isWord (lastOf previous gap) after.head? = true)
    {before taken rest : List Char} (cut : gap = before ++ (taken ++ rest)) :
    ¬(delimited runs consuming).Matches isWord (lastOf outer before) taken (rest ++ other) := by
  intro matched
  have nonempty := matched.ne_nil
  have inside : taken ++ rest ≠ [] := by simp [nonempty]
  refine quiet before (taken ++ rest) taken (rest ++ after) cut inside (List.append_assoc _ _ _) ?_
  refine matched.transfer (fun begins => ?_) fun ends => ?_
  · -- The boundary in front is that of the whole text, or lies within it.
    by_cases first : before = []
    · subst first
      rw [List.nil_append] at cut
      rw [cut, head?_append nonempty] at left
      exact left begins
    · rwa [lastOf_of_ne_nil first previous outer]
  · by_cases last : rest = []
    · subst last
      rw [List.append_nil] at cut
      rw [cut, lastOf_append] at right
      exact right ends
    · rwa [head?_append last] at ends ⊢

/--
Matches cut out and replaced by a sealed marker leave a clean text.

What is left between the markers had a boundary at both ends before, so nothing matches there that did not
match before.
-/
theorem Cut.clean_intercalate {marker : List Char} (isSealed : Sealed quietRuns marker)
    {previous : Option Char} {text : List Char} {pieces : List (List Char)}
    (cutting : Cut isWord (delimited quietRuns quietConsuming) (delimited cutRuns cutConsuming)
      previous text pieces) {outer : Option Char}
    (context : isBoundary isWord outer text.head? = true → isBoundary isWord previous text.head? = true) :
    (delimited quietRuns quietConsuming).Clean isWord outer (marker.intercalate pieces) := by
  induction cutting generalizing outer with
  | last quiet =>
    intro before taken rest cut
    rw [List.intercalate_singleton] at cut
    rw [← List.append_nil rest]
    exact quiet.transfer context (fun ends => ends) cut
  | next quiet found cutting ih =>
    rename_i previous gap taken rest pieces
    obtain ⟨begins, -, ends⟩ := delimited_matches_iff.mp (matches_of_matchAt found)
    intro before shown behind cut matched
    have spelled := (delimited_matches_iff.mp matched).2.1
    rw [intercalate_cons marker gap cutting.ne_nil] at cut
    rcases append_cases cut with ⟨inside, started, rfl, same⟩ | ⟨skipped, rfl, same⟩
    · -- It starts in the piece, and cannot go on into the marker.
      rcases append_cases same with ⟨more, nonempty, rfl, into⟩ | ⟨more, rfl, rfl⟩
      · exact isSealed.not_into nonempty spelled into
      · have nonempty : before ++ (shown ++ more) ≠ [] := by simp [matched.ne_nil]
        rw [head?_append nonempty] at context
        exact quiet.transfer context (fun _ => begins) rfl matched
    · rcases append_cases same with ⟨inside, started, rfl, into⟩ | ⟨skipped, rfl, joined⟩
      · exact isSealed.not_within spelled rfl started into.symm
      · rw [lastOf_append, lastOf_append] at matched
        exact ih (fun _ => ends) skipped shown behind joined matched

/-- Nothing matches in a text whose matches were replaced by a sealed marker. -/
theorem clean_sub_self {marker : List Char} (isSealed : Sealed runs marker)
    (consuming : ∃ run ∈ runs, 0 < run.least) (text : List Char) :
    (delimited runs consuming).Clean isWord none
      ((delimited runs consuming).sub isWord marker text) :=
  (cut_splitFrom none text).clean_intercalate isSealed id

/-- A clean text stays clean when the matches of another pattern are replaced. -/
theorem Clean.sub_other {marker : List Char} {text : List Char} (isSealed : Sealed runs marker)
    (clean : (delimited runs consuming).Clean isWord none text)
    (cutConsuming : ∃ run ∈ cutRuns, 0 < run.least) :
    (delimited runs consuming).Clean isWord none
      ((delimited cutRuns cutConsuming).sub isWord marker text) := by
  -- The scan for the other pattern meets no match of this one.
  have cutting : Cut isWord (delimited cutRuns cutConsuming) (delimited cutRuns cutConsuming) none text
      ((delimited cutRuns cutConsuming).split isWord text) := cut_splitFrom none text
  exact (cutting.of_clean clean).clean_intercalate isSealed id

end Pattern

end Regex
