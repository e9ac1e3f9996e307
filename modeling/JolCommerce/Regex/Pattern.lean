import Mathlib.Data.List.Basic

/-! Patterns of repeated character classes and word boundaries, matched greedily with backtracking. -/

namespace Regex

/-- A repeated character class: how often at least and, where there is a bound, at most. -/
structure Run where
  accepts : Char → Bool
  least : Nat
  most : Option Nat

/-- A part of a pattern. -/
inductive Atom where
  /-- A word begins or ends at this position. -/
  | boundary
  /-- Characters of a class follow. -/
  | run (run : Run)

/-- Parts that each consume a number of characters, in total at least one. -/
structure Pattern where
  atoms : List Atom
  consuming : ∃ run, .run run ∈ atoms ∧ 0 < run.least

/-- The character before a position, once more text has been read. -/
def lastOf : Option Char → List Char → Option Char
  | previous, [] => previous
  | _, char :: rest => lastOf (some char) rest

/-- Reading on from where a reading stopped. -/
@[simp] theorem lastOf_append (previous : Option Char) (first second : List Char) :
    lastOf previous (first ++ second) = lastOf (lastOf previous first) second := by
  induction first generalizing previous with
  | nil => rfl
  | cons char rest ih => exact ih (some char)

/-- After some text the character before does not depend on what was there earlier. -/
theorem lastOf_of_ne_nil {text : List Char} (nonempty : text ≠ []) (first second : Option Char) :
    lastOf first text = lastOf second text := by
  cases text with
  | nil => exact absurd rfl nonempty
  | cons char rest => rfl

namespace Run

/-- Characters that the run can consume. -/
structure Spells (run : Run) (text : List Char) : Prop where
  accepted : ∀ char ∈ text, run.accepts char = true
  least : run.least ≤ text.length
  most : ∀ bound ∈ run.most, text.length ≤ bound

/-- What is left of the run once it has consumed a character. -/
def next (run : Run) : Run := ⟨run.accepts, run.least - 1, run.most.map (· - 1)⟩

/-- A further character can be consumed. -/
def More (run : Run) (char : Char) : Prop := run.most ≠ some 0 ∧ run.accepts char = true

instance (run : Run) (char : Char) : Decidable (run.More char) := by
  unfold More
  infer_instance

/-- Nothing can be consumed where nothing is required. -/
theorem spells_nil (run : Run) : run.Spells [] ↔ run.least = 0 := by
  constructor
  · intro spells
    have bound := spells.least
    simpa using bound
  · intro none
    exact ⟨by simp, by simp [none], by simp⟩

/-- A character and the rest. -/
theorem spells_cons (run : Run) (char : Char) (rest : List Char) :
    run.Spells (char :: rest) ↔ run.More char ∧ run.next.Spells rest := by
  -- Both bounds count one character less for the rest.
  constructor
  · rintro ⟨accepted, least, most⟩
    simp only [List.forall_mem_cons] at accepted
    simp only [List.length_cons] at least most
    refine ⟨⟨fun none => ?_, accepted.1⟩, accepted.2, ?_, ?_⟩
    · have bound := most 0 none
      omega
    · simp only [next]
      omega
    · intro bound given
      obtain ⟨original, same, rfl⟩ := Option.map_eq_some_iff.mp given
      have below := most original same
      omega
  · rintro ⟨⟨more, accepted⟩, rest, least, most⟩
    simp only [next] at rest least most
    refine ⟨List.forall_mem_cons.mpr ⟨accepted, rest⟩, ?_, ?_⟩
    · simp only [List.length_cons]
      omega
    · intro bound given
      have below := most (bound - 1) (Option.map_eq_some_iff.mpr ⟨bound, given, rfl⟩)
      have positive : bound ≠ 0 := fun zero => more (zero ▸ given)
      simp only [List.length_cons]
      omega

end Run

/-- What remains to be matched after a run: the length of its match at a position, if it has one. -/
abbrev Continuation := Option Char → List Char → Option Nat

/-- A run and what follows it: as many characters as possible, fewer where that fails. -/
def greedy (onward : Continuation) : Run → Continuation
  | run, previous, [] => if run.least = 0 then onward previous [] else none
  | run, previous, char :: rest =>
    let longer :=
      if run.More char then (greedy onward run.next (some char) rest).map (· + 1) else none
    longer.or (if run.least = 0 then onward previous (char :: rest) else none)

/-- The run can be followed by something at none of the lengths it can have. -/
theorem greedy_eq_none {onward : Continuation} {run : Run} {previous : Option Char}
    {text : List Char} :
    greedy onward run previous text = none ↔ ∀ first rest, text = first ++ rest → run.Spells first →
      onward (lastOf previous first) rest = none := by
  -- Either the run stops here, or it takes the next character.
  induction text generalizing run previous with
  | nil =>
    simp only [greedy, List.nil_eq_append_iff, ite_eq_right_iff]
    constructor
    · rintro failed first rest ⟨rfl, rfl⟩ spells
      exact failed (run.spells_nil.mp spells)
    · intro failed none
      exact failed [] [] ⟨rfl, rfl⟩ (run.spells_nil.mpr none)
  | cons char text ih =>
    simp only [greedy, Option.or_eq_none_iff, ite_eq_right_iff, Option.map_eq_none_iff, ih]
    constructor
    · rintro ⟨longer, here⟩ first rest cut spells
      cases first with
      | nil =>
        cases cut
        exact here (run.spells_nil.mp spells)
      | cons taken first =>
        obtain ⟨rfl, rfl⟩ := List.cons.inj cut
        obtain ⟨more, spells⟩ := (run.spells_cons _ _).mp spells
        exact longer more first rest rfl spells
    · intro failed
      refine ⟨fun more first rest cut spells => ?_, fun none => ?_⟩
      · exact failed (char :: first) rest (by rw [cut, List.cons_append])
          ((run.spells_cons _ _).mpr ⟨more, spells⟩)
      · exact failed [] (char :: text) rfl (run.spells_nil.mpr none)

/-- Nothing consumed: the run may be empty, and no attempt to consume more succeeds. -/
private theorem greedy_stays {onward : Continuation} {run : Run} {previous : Option Char}
    {char : Char} {text longer other : List Char} (cut : char :: text = longer ++ other)
    (spells : run.Spells longer) (further : 0 < longer.length)
    (failed : run.More char → greedy onward run.next (some char) text = none) :
    onward (lastOf previous longer) other = none := by
  cases longer with
  | nil => simp at further
  | cons taken longer =>
    obtain ⟨rfl, same⟩ := List.cons.inj cut
    obtain ⟨more, spells⟩ := (run.spells_cons _ _).mp spells
    exact greedy_eq_none.mp (failed more) longer other same spells

/-- What a run that matches has consumed: it goes on from there, and from no later place. -/
theorem greedy_eq_some {onward : Continuation} {run : Run} {previous : Option Char}
    {text : List Char} {length : Nat} (matched : greedy onward run previous text = some length) :
    ∃ first rest after, text = first ++ rest ∧ run.Spells first ∧
      onward (lastOf previous first) rest = some after ∧ length = first.length + after ∧
      ∀ longer other, text = longer ++ other → run.Spells longer → first.length < longer.length →
        onward (lastOf previous longer) other = none := by
  -- The longer attempt comes first, and only its failure leaves this place.
  induction text generalizing run previous length with
  | nil =>
    simp only [greedy, Option.ite_none_right_eq_some] at matched
    refine ⟨[], [], length, rfl, run.spells_nil.mpr matched.1, matched.2, by simp, ?_⟩
    intro longer other cut _ further
    have short := congrArg List.length cut
    simp only [List.length_nil, List.length_append] at short further
    omega
  | cons char text ih =>
    simp only [greedy, Option.or_eq_some_iff] at matched
    rcases matched with longer | ⟨failed, here⟩
    · obtain ⟨more, attempt⟩ := Option.ite_none_right_eq_some.mp longer
      obtain ⟨tail, tried, rfl⟩ := Option.map_eq_some_iff.mp attempt
      obtain ⟨first, rest, after, rfl, spells, onwards, rfl, furthest⟩ := ih tried
      refine ⟨char :: first, rest, after, rfl, (run.spells_cons _ _).mpr ⟨more, spells⟩, onwards,
        by rw [List.length_cons]; omega, ?_⟩
      intro longer other cut spellsLonger further
      cases longer with
      | nil => simp at further
      | cons taken longer =>
        obtain ⟨rfl, same⟩ := List.cons.inj cut
        obtain ⟨-, spellsLonger⟩ := (run.spells_cons _ _).mp spellsLonger
        exact furthest longer other same spellsLonger (by simpa using further)
    · simp only [Option.ite_none_right_eq_some] at here
      refine ⟨[], char :: text, length, rfl, run.spells_nil.mpr here.1, here.2, by simp, ?_⟩
      intro longer other cut spellsLonger further
      refine greedy_stays cut spellsLonger further fun more => ?_
      rw [if_pos more, Option.map_eq_none_iff] at failed
      exact failed

variable (isWord : Char → Bool)

/-- A position between a word character and another one, or an end of the text. -/
def isBoundary (previous next : Option Char) : Bool :=
  previous.any isWord != next.any isWord

/-- The length of the match at a position, if there is one. -/
def matchAtoms : List Atom → Continuation
  | [], _, _ => some 0
  | .boundary :: atoms, previous, text =>
    if isBoundary isWord previous text.head? = true then matchAtoms atoms previous text else none
  | .run run :: atoms, previous, text => greedy (matchAtoms atoms) run previous text

/-- A text that matches between what stands before it and what follows. -/
def AtomsMatch : List Atom → Option Char → List Char → List Char → Prop
  | [], _, taken, _ => taken = []
  | .boundary :: atoms, previous, taken, rest =>
    isBoundary isWord previous (taken ++ rest).head? = true ∧ AtomsMatch atoms previous taken rest
  | .run run :: atoms, previous, taken, rest =>
    ∃ first more, taken = first ++ more ∧ run.Spells first ∧
      AtomsMatch atoms (lastOf previous first) more rest

variable {isWord}

/-- There is no match to report where none of the texts at the position matches. -/
theorem matchAtoms_eq_none {atoms : List Atom} {previous : Option Char} {text : List Char} :
    matchAtoms isWord atoms previous text = none ↔
      ∀ taken rest, text = taken ++ rest → ¬AtomsMatch isWord atoms previous taken rest := by
  -- A part fails where it cannot match itself or the parts behind it fail.
  induction atoms generalizing previous text with
  | nil => simp [matchAtoms, AtomsMatch]
  | cons atom atoms ih =>
    cases atom with
    | boundary =>
      simp only [matchAtoms, AtomsMatch, ite_eq_right_iff, ih]
      constructor
      · rintro failed taken rest rfl ⟨bounded, matched⟩
        exact failed bounded taken rest rfl matched
      · rintro failed bounded taken rest rfl matched
        exact failed taken rest rfl ⟨bounded, matched⟩
    | run run =>
      simp only [matchAtoms, AtomsMatch, greedy_eq_none, ih]
      constructor
      · rintro failed taken rest rfl ⟨first, more, rfl, spells, matched⟩
        exact failed first (more ++ rest) (List.append_assoc _ _ _) spells more rest rfl matched
      · rintro failed first rest cut spells taken rest rfl matched
        exact failed (first ++ taken) rest (by rw [cut, List.append_assoc])
          ⟨first, taken, rfl, spells, matched⟩

/-- A reported match is the length of a text that matches. -/
theorem atomsMatch_of_matchAtoms {atoms : List Atom} {previous : Option Char} {text : List Char}
    {length : Nat} (found : matchAtoms isWord atoms previous text = some length) :
    ∃ taken rest, text = taken ++ rest ∧ taken.length = length ∧
      AtomsMatch isWord atoms previous taken rest := by
  -- Each part reports what it took and what the parts behind it reported.
  induction atoms generalizing previous text length with
  | nil =>
    cases found
    exact ⟨[], text, rfl, rfl, rfl⟩
  | cons atom atoms ih =>
    cases atom with
    | boundary =>
      simp only [matchAtoms, Option.ite_none_right_eq_some] at found
      obtain ⟨taken, rest, rfl, same, matched⟩ := ih found.2
      exact ⟨taken, rest, rfl, same, found.1, matched⟩
    | run run =>
      obtain ⟨first, rest, after, rfl, spells, onwards, rfl, -⟩ := greedy_eq_some found
      obtain ⟨taken, rest, rfl, rfl, matched⟩ := ih onwards
      exact ⟨first ++ taken, rest, (List.append_assoc _ _ _).symm, List.length_append,
        first, taken, rfl, spells, matched⟩

/-- A part that requires a character leaves no match empty. -/
theorem AtomsMatch.ne_nil {atoms : List Atom} {previous : Option Char} {taken rest : List Char}
    (matched : AtomsMatch isWord atoms previous taken rest)
    (consuming : ∃ run, .run run ∈ atoms ∧ 0 < run.least) : taken ≠ [] := by
  -- The part that requires a character is found somewhere along the list.
  obtain ⟨run, member, positive⟩ := consuming
  induction atoms generalizing previous taken with
  | nil => simp at member
  | cons atom atoms ih =>
    cases atom with
    | boundary =>
      simp only [List.mem_cons, reduceCtorEq, false_or] at member
      exact ih matched.2 member
    | run first =>
      obtain ⟨consumed, more, rfl, spells, matched⟩ := matched
      simp only [List.mem_cons, Atom.run.injEq] at member
      rcases member with rfl | later
      · have long := spells.least
        intro empty
        simp only [List.append_eq_nil_iff] at empty
        rw [empty.1, List.length_nil] at long
        omega
      · have nonempty := ih matched later
        simp [nonempty]

namespace Pattern

variable (isWord) (pattern : Pattern)

/-- The length of the match of a pattern at a position. -/
def matchAt (previous : Option Char) (text : List Char) : Option Nat :=
  matchAtoms isWord pattern.atoms previous text

/-- A text that the pattern matches between what stands before it and what follows. -/
def Matches (previous : Option Char) (taken rest : List Char) : Prop :=
  AtomsMatch isWord pattern.atoms previous taken rest

/-- No part of a text matches. -/
def Clean (previous : Option Char) (text : List Char) : Prop :=
  ∀ before taken rest, text = before ++ (taken ++ rest) →
    ¬pattern.Matches isWord (lastOf previous before) taken rest

/-- `search`: whether there is a match anywhere in the text. -/
def search : Option Char → List Char → Bool
  | previous, [] => (pattern.matchAt isWord previous []).isSome
  | previous, char :: rest =>
    (pattern.matchAt isWord previous (char :: rest)).isSome || search (some char) rest

variable {isWord} {pattern}

/-- No match is empty. -/
theorem Matches.ne_nil {previous : Option Char} {taken rest : List Char}
    (matched : pattern.Matches isWord previous taken rest) : taken ≠ [] :=
  AtomsMatch.ne_nil matched pattern.consuming

/-- The empty text is clean. -/
theorem clean_nil (previous : Option Char) : pattern.Clean isWord previous [] := by
  intro before taken rest cut matched
  simp only [List.nil_eq_append_iff, List.append_eq_nil_iff] at cut
  exact matched.ne_nil cut.2.1

/-- A text is clean when nothing matches at its front and the rest is clean. -/
theorem clean_cons {previous : Option Char} {char : Char} {text : List Char} :
    pattern.Clean isWord previous (char :: text) ↔
      pattern.matchAt isWord previous (char :: text) = none ∧
        pattern.Clean isWord (some char) text := by
  -- A part of the text begins at its front or within its rest.
  rw [matchAt, matchAtoms_eq_none]
  constructor
  · intro clean
    exact ⟨fun taken rest cut => clean [] taken rest cut,
      fun before taken rest cut => clean (char :: before) taken rest (by rw [cut, List.cons_append])⟩
  · rintro ⟨front, behind⟩ before taken rest cut
    cases before with
    | nil => exact front taken rest cut
    | cons first before =>
      obtain ⟨rfl, same⟩ := List.cons.inj cut
      exact behind before taken rest same

/-- A search finds nothing exactly in clean texts. -/
theorem search_eq_false_iff {previous : Option Char} {text : List Char} :
    pattern.search isWord previous text = false ↔ pattern.Clean isWord previous text := by
  -- The search tries every position from the left, the end included.
  induction text generalizing previous with
  | nil =>
    refine iff_of_true ?_ (clean_nil previous)
    rw [search, Option.isSome_eq_false_iff, Option.isNone_iff_eq_none, matchAt, matchAtoms_eq_none]
    exact fun taken rest cut => clean_nil previous [] taken rest cut
  | cons char text ih =>
    rw [search, Bool.or_eq_false_iff, ih, clean_cons, Option.isSome_eq_false_iff,
      Option.isNone_iff_eq_none]

end Pattern

end Regex
