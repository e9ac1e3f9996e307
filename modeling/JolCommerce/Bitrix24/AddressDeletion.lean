import JolCommerce.Bitrix24.PiiScrubber
import JolCommerce.Regex.Joining

/-! Deleting the e-mail addresses of a text leaves none, whatever comes together by that. -/

namespace JolCommerce

open Python Regex Pattern

/-- One character of a class with a single member. -/
theorem spells_single {char : Char} {text : List Char} :
    Run.Spells ⟨(· == char), 1, some 1⟩ text ↔ text = [char] := by
  constructor
  · rintro ⟨accepted, least, most⟩
    obtain ⟨other, rfl⟩ := List.length_eq_one_iff.mp (Nat.le_antisymm (most 1 rfl) least)
    simpa using accepted
  · rintro rfl
    exact ⟨by simp, Nat.le_refl 1, by simp⟩

/-- The parts of an address. -/
structure AddressParts (text stem domain top : List Char) : Prop where
  joined : text = stem ++ '@' :: (domain ++ '.' :: top)
  stemGiven : stem ≠ []
  stemLocal : ∀ char ∈ stem, isLocalPart char = true
  domainGiven : domain ≠ []
  domainOnly : ∀ char ∈ domain, isDomain char = true
  topLong : 2 ≤ top.length
  letters : ∀ char ∈ top, char.isAlpha = true

/-- An address is what its runs spell. -/
theorem spelled_address_iff {text : List Char} :
    Spelled (emailRuns Char.isAlpha) text ↔ ∃ stem domain top, AddressParts text stem domain top := by
  -- The two runs of a single character take the at sign and the last point.
  simp only [emailRuns, Spelled, spells_single]
  constructor
  · rintro ⟨stem, _, rfl, stemSpelled, _, _, rfl, rfl, domain, _, rfl, domainSpelled, _, _, rfl, rfl,
      top, _, rfl, topSpelled, rfl⟩
    refine ⟨stem, domain, top, by simp, ?_, stemSpelled.accepted, ?_, domainSpelled.accepted,
      topSpelled.least, topSpelled.accepted⟩
    · exact List.ne_nil_of_length_pos stemSpelled.least
    · exact List.ne_nil_of_length_pos domainSpelled.least
  · rintro ⟨stem, domain, top, joined, stemGiven, stemLocal, domainGiven, domainOnly, topLong, letters⟩
    exact ⟨stem, _, joined, ⟨stemLocal, List.length_pos_iff.mpr stemGiven, by simp⟩, ['@'], _, rfl, rfl,
      domain, _, rfl, ⟨domainOnly, List.length_pos_iff.mpr domainGiven, by simp⟩, ['.'], _, rfl, rfl,
      top, [], (List.append_nil top).symm, ⟨letters, topLong, by simp⟩, rfl⟩

variable {letter : Char → Bool}

/-- Behind letters a boundary is where no word character follows. -/
theorem boundary_behind_letters {top : List Char} (long : 2 ≤ top.length)
    (letters : ∀ char ∈ top, char.isAlpha = true) (previous next : Option Char) :
    isBoundary (isWord letter) (lastOf previous top) next = true ↔ next.any (isWord letter) = false := by
  obtain ⟨char, member, read⟩ := lastOf_mem (List.ne_nil_of_length_pos (by omega : 0 < top.length)) previous
  rw [read, isBoundary]
  simp [isWord_isAlpha (letters char member)]

/-- A text begins with more of a domain, up to a top-level domain that ends there. -/
def GoesOn (letter : Char → Bool) (text : List Char) : Prop :=
  ∃ stem top behind, text = stem ++ '.' :: (top ++ behind) ∧ (∀ char ∈ stem, isDomain char = true) ∧
    2 ≤ top.length ∧ (∀ char ∈ top, char.isAlpha = true) ∧
    behind.head?.any (isWord letter) = false

/-- Behind the address that a scan finds its domain does not go on. -/
theorem not_goesOn {previous : Option Char} {taken rest : List Char}
    (found : bitrixEmailPattern.matchAt (isWord letter) previous (taken ++ rest) = some taken.length) :
    ¬GoesOn letter rest := by
  -- The run for the domain has taken as much as leads to a match.
  rintro ⟨stem, top, behind, rfl, stemDomain, long, letters, closed⟩
  simp only [matchAt, bitrixEmailPattern, emailPatternWith, delimited, emailRuns, List.map_cons,
    List.map_nil, List.cons_append, List.nil_append, matchAtoms, Option.ite_none_right_eq_some] at found
  obtain ⟨-, found⟩ := found
  obtain ⟨name, afterName, nameLeft, nameCut, nameSpells, found, nameLength, -⟩ := greedy_eq_some found
  obtain ⟨sign, afterSign, signLeft, signCut, signSpells, found, signLength, -⟩ := greedy_eq_some found
  obtain ⟨domain, afterDomain, domainLeft, domainCut, domainSpells, found, domainLength, furthest⟩ :=
    greedy_eq_some found
  obtain ⟨dot, afterDot, dotLeft, dotCut, dotSpells, found, dotLength, -⟩ := greedy_eq_some found
  obtain ⟨last, afterLast, lastLeft, lastCut, lastSpells, found, lastLength, -⟩ := greedy_eq_some found
  obtain ⟨-, ended⟩ := Option.ite_none_right_eq_some.mp found
  obtain rfl := Option.some.inj ended
  subst signCut domainCut dotCut lastCut
  -- The address is what the runs have taken, so the rest begins behind the last of them.
  have cut : taken ++ (stem ++ '.' :: (top ++ behind)) =
      (name ++ (sign ++ (domain ++ (dot ++ last)))) ++ afterLast := by
    simpa using nameCut
  have behindLast : stem ++ '.' :: (top ++ behind) = afterLast := by
    refine (List.append_inj cut ?_).2
    simp only [List.length_append]
    omega
  have accepted : ∀ char ∈ domain ++ (dot ++ (last ++ stem)), isDomain char = true := by
    intro char member
    simp only [List.mem_append] at member
    rcases member with inDomain | inDot | inLast | inStem
    · exact domainSpells.accepted char inDomain
    · have point : char = '.' := by simpa using dotSpells.accepted char inDot
      rw [point]
      decide
    · have alpha : char.isAlpha = true := lastSpells.accepted char inLast
      simp [isDomain, Char.isAlphanum, alpha]
    · exact stemDomain char inStem
  have domainGiven : 1 ≤ domain.length := domainSpells.least
  have dotGiven : 1 ≤ dot.length := dotSpells.least
  have noMatch : matchAtoms (isWord letter) [.run ⟨(· == '.'), 1, some 1⟩,
      .run ⟨Char.isAlpha, 2, none⟩, .boundary] _ ('.' :: (top ++ behind)) = none :=
    furthest (domain ++ (dot ++ (last ++ stem))) _ (by simp [← behindLast])
      ⟨accepted, by simp only [List.length_append]; omega, by simp⟩
      (by simp only [List.length_append]; omega)
  refine matchAtoms_eq_none.mp noMatch ('.' :: top) behind rfl ?_
  refine ⟨['.'], top, rfl, spells_single.mpr rfl, top, [], (List.append_nil top).symm,
    ⟨letters, long, by simp⟩, ?_, rfl⟩
  exact (boundary_behind_letters long letters _ _).mpr closed

/-- An address ends with the letters of its top-level domain. -/
theorem AddressParts.boundary_behind {text stem domain top : List Char}
    (parts : AddressParts text stem domain top) (previous next : Option Char) :
    isBoundary (isWord letter) (lastOf previous text) next = true ↔
      next.any (isWord letter) = false := by
  have last : lastOf previous text = lastOf (some '.') top := by
    rw [parts.joined, lastOf_append, lastOf, lastOf_append, lastOf]
  rw [last]
  exact boundary_behind_letters parts.topLong parts.letters (some '.') next

/-- Where the pattern matches. -/
theorem address_matches_iff {previous : Option Char} {taken rest : List Char} :
    bitrixEmailPattern.Matches (isWord letter) previous taken rest ↔
      isBoundary (isWord letter) previous (taken ++ rest).head? = true ∧
        (∃ stem domain top, AddressParts taken stem domain top) ∧
        rest.head?.any (isWord letter) = false := by
  have runs : (delimited (emailRuns Char.isAlpha) (emailRuns_consuming _)).Matches (isWord letter)
      previous taken rest ↔ _ := delimited_matches_iff
  refine runs.trans ?_
  rw [spelled_address_iff]
  refine and_congr_right fun _ => and_congr_right ?_
  rintro ⟨stem, domain, top, parts⟩
  exact parts.boundary_behind previous rest.head?

/-- Addresses end at a boundary. -/
theorem address_endsAtBoundary : bitrixEmailPattern.EndsAtBoundary (isWord letter) := by
  intro previous taken rest matched
  obtain ⟨-, ⟨stem, domain, top, parts⟩, closed⟩ := address_matches_iff.mp matched
  exact (parts.boundary_behind previous rest.head?).mpr closed

/-- The end of a domain that begins without a word character has its last point in it. -/
theorem ends_with_top {front more stem top : List Char} (given : more ≠ [])
    (plain : more.head?.any (isWord letter) = false) (same : front ++ more = stem ++ '.' :: top)
    (letters : ∀ char ∈ top, char.isAlpha = true) : ∃ middle, more = middle ++ '.' :: top := by
  rcases append_cases same with ⟨middle, nonempty, rfl, right⟩ | ⟨middle, rfl, rfl⟩
  · -- Otherwise all of it would be letters.
    obtain ⟨point, middle, rfl⟩ := List.exists_cons_of_ne_nil nonempty
    obtain ⟨char, more, rfl⟩ := List.exists_cons_of_ne_nil given
    obtain ⟨-, rfl⟩ := List.cons.inj right
    have word : isWord letter char = true := isWord_isAlpha (letters char (by simp))
    have other : isWord letter char = false := plain
    rw [word] at other
    cases other
  · exact ⟨middle, rfl⟩

/-- Nothing that is left behind an address goes on with its domain, whatever was deleted in it. -/
theorem no_more_domain {previous : Option Char} {text : List Char} {pieces : List (List Char)}
    (cutting : Cut (isWord letter) bitrixEmailPattern bitrixEmailPattern previous text pieces)
    (closed : text.head?.any (isWord letter) = false) (ended : ¬GoesOn letter text)
    {front more behind stem top : List Char} (joined : pieces.flatten = more ++ behind)
    (given : more ≠ []) (domain : ∀ char ∈ more, isDomain char = true)
    (same : front ++ more = stem ++ '.' :: top) (long : 2 ≤ top.length)
    (letters : ∀ char ∈ top, char.isAlpha = true)
    (bounded : behind.head?.any (isWord letter) = false) : False := by
  -- The piece with the end of the domain stands behind an address, which would go on into it.
  induction cutting generalizing front more with
  | last quiet =>
    rw [List.flatten_cons, List.flatten_nil, List.append_nil] at joined
    subst joined
    rw [head?_append given] at closed
    obtain ⟨middle, rfl⟩ := ends_with_top given closed same letters
    exact ended ⟨middle, top, behind, by simp, fun char member => domain char (by simp [member]), long,
      letters, bounded⟩
  | next quiet found cutting ih =>
    rename_i previous gap taken rest pieces
    obtain ⟨begins, -, closedBehind⟩ := address_matches_iff.mp (matches_of_matchAt found)
    rw [List.flatten_cons] at joined
    rcases append_cases joined with ⟨mid, nonempty, rfl, rfl⟩ | ⟨beyond, rfl, behindGap⟩
    · rw [List.append_assoc, head?_append given] at closed
      rw [head?_append nonempty] at bounded
      obtain ⟨middle, rfl⟩ := ends_with_top given closed same letters
      exact ended ⟨middle, top, mid ++ (taken ++ rest), by simp,
        fun char member => domain char (by simp [member]), long, letters,
        by rw [head?_append nonempty]; exact bounded⟩
    · by_cases within : beyond = []
      · -- What follows it in the text is the address behind the piece, at a boundary.
        subst within
        rw [List.append_nil] at given domain same
        rw [head?_append given] at closed
        obtain ⟨middle, rfl⟩ := ends_with_top given closed same letters
        rw [lastOf_append, lastOf] at begins
        exact ended ⟨middle, top, taken ++ rest, by simp,
          fun char member => domain char (by simp [member]), long, letters,
          (boundary_behind_letters long letters _ _).mp begins⟩
      · rw [← List.append_assoc] at same
        exact ih closedBehind (not_goesOn found) behindGap within
          (fun char member => domain char (List.mem_append_right gap member)) same

/-- No address comes together where the addresses of a text are deleted. -/
theorem no_crossing_address {previous outer : Option Char} {text : List Char}
    {pieces : List (List Char)}
    (cutting : Cut (isWord letter) bitrixEmailPattern bitrixEmailPattern previous text pieces)
    (context : outer = previous ∨ isBoundary (isWord letter) previous text.head? = true) :
    ¬bitrixEmailPattern.Crossing (isWord letter) outer pieces := by
  intro crossing
  induction cutting generalizing outer with
  | last quiet => exact not_crossing_single crossing
  | next quiet found cutting ih =>
    rename_i previous gap taken rest pieces
    have matched := matches_of_matchAt found
    rcases crossing_cons_iff.mp crossing with
      ⟨start, inside, more, behind, rfl, given, -, joined, crossed⟩ | later
    · obtain ⟨begins, ⟨stem, domain, top, parts⟩, closed⟩ := address_matches_iff.mp crossed
      obtain ⟨gapEnds, ⟨name, host, last, partsTaken⟩, closedTaken⟩ := address_matches_iff.mp matched
      -- The place where it begins is one where a match may begin in the text.
      have front : isBoundary (isWord letter) (lastOf previous start) inside.head? = true := by
        rw [List.append_assoc, head?_append given] at begins
        cases start with
        | nil =>
          rcases context with rfl | bounded
          · exact begins
          · rwa [List.nil_append, head?_append given] at bounded
        | cons char start => rwa [lastOf_of_ne_nil (List.cons_ne_nil char start) previous outer]
      rcases append_cases parts.joined with ⟨middle, nonempty, rfl, same⟩ | ⟨middle, rfl, -⟩
      · -- Its domain begins in the piece, and would go on behind the address that was deleted.
        obtain ⟨sign, middle, rfl⟩ := List.exists_cons_of_ne_nil nonempty
        obtain ⟨rfl, hosts⟩ := List.cons.inj same
        by_cases within : more = []
        · subst within
          rw [List.append_nil] at parts
          rw [lastOf_append, parts.boundary_behind] at gapEnds
          refine quiet start _ _ (taken ++ rest) rfl given rfl (address_matches_iff.mpr ⟨?_, ?_, gapEnds⟩)
          · rwa [head?_append given]
          · exact ⟨stem, domain, top, parts⟩
        · refine no_more_domain cutting closedTaken (not_goesOn found) joined within (fun char member => ?_)
            hosts.symm parts.topLong parts.letters closed
          have listed : char ∈ domain ++ '.' :: top := by
            rw [hosts]
            exact List.mem_append_right middle member
          rcases List.mem_append.mp listed with inDomain | inTop
          · exact parts.domainOnly char inDomain
          · rcases List.mem_cons.mp inTop with rfl | inTop
            · decide
            · simp [isDomain, Char.isAlphanum, parts.letters char inTop]
      · -- It begins with a local part, to which the deleted address would have belonged.
        refine quiet start inside (inside ++ taken) rest rfl given (List.append_assoc _ _ _).symm
          (address_matches_iff.mpr ⟨?_, ⟨inside ++ name, host, last, ?_⟩, closedTaken⟩)
        · rwa [List.append_assoc, head?_append given]
        · refine { partsTaken with joined := ?_, stemGiven := by simp [given], stemLocal := ?_ }
          · rw [partsTaken.joined, List.append_assoc]
          · intro char member
            rcases List.mem_append.mp member with inInside | inName
            · exact parts.stemLocal char (List.mem_append_left middle inInside)
            · exact partsTaken.stemLocal char inName
    · exact ih (.inr (address_endsAtBoundary _ _ _ matched)) later

/-- What is left of a text without its addresses is free of addresses. -/
theorem clean_withoutEmail (text : List Char) :
    bitrixEmailPattern.Clean (isWord letter) none (bitrixEmailPattern.sub (isWord letter) [] text) := by
  have cutting : Cut (isWord letter) bitrixEmailPattern bitrixEmailPattern none text
      (bitrixEmailPattern.split (isWord letter) text) := cut_splitFrom none text
  rw [sub_nil, cutting.clean_flatten_iff address_endsAtBoundary]
  exact no_crossing_address cutting (.inl rfl)

end JolCommerce
