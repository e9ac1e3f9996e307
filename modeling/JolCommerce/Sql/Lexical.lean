import Mathlib.Data.List.Basic

/-! Where an SQL text is at its top level, outside literals, quoted names, bodies and comments. -/

namespace Sql

/-- What a position of an SQL text lies in. -/
inductive Context where
  /-- The top level, within a word or not: `$` and `E` begin nothing inside one. -/
  | top (word : Bool)
  /-- A single-quoted literal; one written `E'...'` has backslash escapes. -/
  | literal (escapes : Bool)
  /-- A double-quoted identifier. -/
  | identifier
  /-- A body between two equal delimiters `$tag$`. -/
  | body (delimiter : List Char)
  /-- A comment from `--` to the end of the line. -/
  | lineComment
  /-- A comment from `/*` to `*/`, inside of that many others. -/
  | blockComment (depth : Nat)
  deriving DecidableEq

/-- A context, and how many of the next characters belong to a token that was already recognised. -/
structure State where
  context : Context
  ahead : Nat := 0
  deriving DecidableEq

/-- Characters that may begin a word: letters, underscores and everything beyond ASCII. -/
def beginsWord (char : Char) : Bool := char.isAlpha || char = '_' || 128 ≤ char.toNat

/-- Characters that may follow in the tag of a delimiter. -/
def continuesTag (char : Char) : Bool := beginsWord char || char.isDigit

/-- Characters that may follow in a word. -/
def continuesWord (char : Char) : Bool := continuesTag char || char = '$'

/-- The delimiter `$tag$` or `$$` that begins with a `$`, given what follows that. -/
def delimiter? (rest : List Char) : Option (List Char) :=
  let tag := rest.takeWhile continuesTag
  if (rest.drop tag.length).head? = some '$' ∧ tag.head?.all beginsWord then
    some ('$' :: tag ++ ['$'])
  else none

/-- What a character at the top level begins. -/
def Context.nextTop (word : Bool) (char : Char) (rest : List Char) : State :=
  if char = '\'' then ⟨.literal false, 0⟩
  else if (char = 'E' ∨ char = 'e') ∧ word = false ∧ rest.head? = some '\'' then ⟨.literal true, 1⟩
  else if char = '"' then ⟨.identifier, 0⟩
  else if char = '-' ∧ rest.head? = some '-' then ⟨.lineComment, 1⟩
  else if char = '/' ∧ rest.head? = some '*' then ⟨.blockComment 0, 1⟩
  else if char = '$' ∧ word = false then
    match delimiter? rest with
    | some delimiter => ⟨.body delimiter, delimiter.length - 1⟩
    | none => ⟨.top false, 0⟩
  else ⟨.top (beginsWord char || word && continuesWord char), 0⟩

/-- The state after a character, given what follows it. -/
def State.next (state : State) (char : Char) (rest : List Char) : State :=
  match state with
  | ⟨context, ahead + 1⟩ => ⟨context, ahead⟩
  | ⟨.top word, 0⟩ => Context.nextTop word char rest
  | ⟨.literal escapes, 0⟩ =>
    -- A doubled quote stands for one and ends nothing.
    if char = '\\' ∧ escapes then ⟨.literal escapes, 1⟩
    else if char = '\'' then
      if rest.head? = some '\'' then ⟨.literal escapes, 1⟩ else ⟨.top false, 0⟩
    else ⟨.literal escapes, 0⟩
  | ⟨.identifier, 0⟩ =>
    if char = '"' then
      if rest.head? = some '"' then ⟨.identifier, 1⟩ else ⟨.top false, 0⟩
    else ⟨.identifier, 0⟩
  | ⟨.body delimiter, 0⟩ =>
    if delimiter.isPrefixOf (char :: rest) then ⟨.top false, delimiter.length - 1⟩
    else ⟨.body delimiter, 0⟩
  | ⟨.lineComment, 0⟩ =>
    if char = '\n' ∨ char = '\r' then ⟨.top false, 0⟩ else ⟨.lineComment, 0⟩
  | ⟨.blockComment depth, 0⟩ =>
    -- Comments nest, so that each end closes the innermost one.
    if char = '*' ∧ rest.head? = some '/' then
      match depth with
      | 0 => ⟨.top false, 1⟩
      | depth + 1 => ⟨.blockComment depth, 1⟩
    else if char = '/' ∧ rest.head? = some '*' then ⟨.blockComment (depth + 1), 1⟩
    else ⟨.blockComment depth, 0⟩

/-- Whether a context is the top level. -/
def Context.isTop : Context → Bool
  | .top _ => true
  | _ => false

/-- The characters of a text, each with whether it is read at the top level. -/
def markFrom (state : State) : List Char → List (Char × Bool)
  | [] => []
  | char :: rest => (char, state.context.isTop) :: markFrom (state.next char rest) rest

/-- The characters of a whole text, which begins at the top level. -/
def mark (text : List Char) : List (Char × Bool) := markFrom ⟨.top false, 0⟩ text

/-- A semicolon that ends a statement. -/
def endsStatement (marked : Char × Bool) : Bool := marked.1 = ';' && marked.2

/-- The statements of a text: cut at the semicolons that end one. -/
def cut (text : List Char) : List (List Char) :=
  ((mark text).splitOnP endsStatement).map fun piece => piece.map Prod.fst

/-- Every semicolon of a text ends a statement. -/
def Flat (text : List Char) : Prop := ∀ marked ∈ mark text, marked.1 = ';' → marked.2 = true

instance (text : List Char) : Decidable (Flat text) :=
  inferInstanceAs (Decidable (∀ marked ∈ mark text, marked.1 = ';' → marked.2 = true))

/-- Marking keeps the text. -/
@[simp] theorem map_fst_mark (text : List Char) : (mark text).map Prod.fst = text := by
  -- Each character is marked once, whatever the state it is read in.
  have from_ : ∀ (text : List Char) (state : State), (markFrom state text).map Prod.fst = text := by
    intro text
    induction text with
    | nil => exact fun _ => rfl
    | cons char rest ih => exact fun state => congrArg (char :: ·) (ih _)
  exact from_ text _

section Pieces

variable {α β : Type} (separates : α → Bool)

/-- A part of every element may be taken before or after a list is cut at some of them. -/
theorem map_splitOnP (part : α → β) (ends : β → Bool) (items : List α)
    (same : ∀ item ∈ items, separates item = ends (part item)) :
    (items.splitOnP separates).map (fun piece => piece.map part) =
      (items.map part).splitOnP ends := by
  -- Each element either ends a piece on both sides or goes to the head of one.
  induction items with
  | nil => rfl
  | cons item rest ih =>
    obtain ⟨here, later⟩ := List.forall_mem_cons.mp same
    rw [List.map_cons, List.splitOnP_cons_eq_if_modifyHead, List.splitOnP_cons_eq_if_modifyHead, here,
      ← ih later]
    split
    · rfl
    · cases List.splitOnP separates rest with
      | nil => rfl
      | cons piece others => rfl

/-- An element that ends nothing is in a piece. -/
theorem mem_piece {items : List α} {item : α} (member : item ∈ items)
    (kept : separates item = false) : ∃ piece ∈ items.splitOnP separates, item ∈ piece := by
  -- The list is cut before it and after it, but not at it.
  induction items with
  | nil => cases member
  | cons first rest ih =>
    obtain ⟨head, others, split⟩ := List.exists_cons_of_ne_nil (List.splitOnP_ne_nil separates rest)
    rw [List.splitOnP_cons_eq_if_modifyHead, split]
    rw [split] at ih
    rcases List.mem_cons.mp member with rfl | later
    · exact ⟨item :: head, by simp [kept], by simp⟩
    · obtain ⟨piece, listed, inPiece⟩ := ih later
      by_cases ends : separates first = true
      · exact ⟨piece, by simp [ends, List.mem_cons.mp listed], inPiece⟩
      · rcases List.mem_cons.mp listed with rfl | behind
        · exact ⟨first :: piece, by simp [ends], List.mem_cons_of_mem _ inPiece⟩
        · exact ⟨piece, by simp [ends, behind], inPiece⟩

/-- No piece has an element that ends one. -/
theorem not_separates_of_mem_piece {items piece : List α} (listed : piece ∈ items.splitOnP separates)
    {item : α} (member : item ∈ piece) : separates item = false := by
  induction items generalizing piece with
  | nil =>
    rw [List.splitOnP_nil, List.mem_singleton] at listed
    subst listed
    cases member
  | cons first rest ih =>
    obtain ⟨head, others, split⟩ := List.exists_cons_of_ne_nil (List.splitOnP_ne_nil separates rest)
    rw [List.splitOnP_cons_eq_if_modifyHead, split] at listed
    rw [split] at ih
    by_cases ends : separates first = true
    · -- The element ends an empty piece, and the others are those of the rest.
      rw [if_pos ends] at listed
      rcases List.mem_cons.mp listed with rfl | behind
      · cases member
      · exact ih behind member
    · rw [if_neg ends, List.modifyHead_cons] at listed
      rcases List.mem_cons.mp listed with rfl | behind
      · rcases List.mem_cons.mp member with rfl | later
        · simpa using ends
        · exact ih (List.mem_cons_self ..) later
      · exact ih (List.mem_cons_of_mem _ behind) member

end Pieces

/-- Where every semicolon ends a statement, the statements are what is between the semicolons. -/
theorem cut_of_flat {text : List Char} (flat : Flat text) : cut text = text.splitOn ';' := by
  -- On the marked characters both cuts are made at the same places.
  have same : ∀ marked ∈ mark text, endsStatement marked = (marked.1 == ';') := by
    intro marked member
    by_cases semicolon : marked.1 = ';'
    · simp [endsStatement, semicolon, flat marked member semicolon]
    · simp [endsStatement, semicolon]
  rw [cut, map_splitOnP endsStatement Prod.fst (· == ';') (mark text) same, map_fst_mark]
  rfl

/-- Where some semicolon ends none, there is a statement with a semicolon in it. -/
theorem exists_mem_cut_of_not_flat {text : List Char} (nested : ¬Flat text) :
    ∃ piece ∈ cut text, ';' ∈ piece := by
  simp only [Flat, not_forall] at nested
  obtain ⟨marked, member, semicolon, inside⟩ := nested
  obtain ⟨piece, listed, inPiece⟩ := mem_piece endsStatement member (by simp [endsStatement, inside])
  exact ⟨piece.map Prod.fst, List.mem_map_of_mem listed, semicolon ▸ List.mem_map_of_mem inPiece⟩

example : cut "a;'b;';$c$;$c$;/*/*;*/;*/d".toList =
    ["a".toList, "'b;'".toList, "$c$;$c$".toList, "/*/*;*/;*/d".toList] := by decide +kernel

/-- Inside a line comment nothing is at the top level, up to the end of the line. -/
theorem markFrom_lineComment {line : List Char} (oneLine : ∀ char ∈ line, char ≠ '\n' ∧ char ≠ '\r')
    (rest : List Char) : markFrom ⟨.lineComment, 0⟩ (line ++ '\n' :: rest) =
      (line ++ ['\n']).map (fun char => (char, false)) ++ mark rest := by
  -- Only a line break changes the state.
  induction line with
  | nil => rfl
  | cons char line ih =>
    obtain ⟨here, later⟩ := List.forall_mem_cons.mp oneLine
    have stays : State.next ⟨.lineComment, 0⟩ char (line ++ '\n' :: rest) = ⟨.lineComment, 0⟩ := by
      simp [State.next, here]
    rw [List.cons_append, markFrom, stays, ih later]
    rfl

/-- A comment line before a text leaves the marks of the text as they are. -/
theorem mark_comment_line {line : List Char} (oneLine : ∀ char ∈ line, char ≠ '\n' ∧ char ≠ '\r')
    (rest : List Char) : mark ('-' :: '-' :: line ++ '\n' :: rest) =
      ('-', true) :: ('-', false) :: (line ++ ['\n']).map (fun char => (char, false)) ++ mark rest := by
  -- The two dashes are one token, and the rest of the line is read inside the comment.
  have opens : mark ('-' :: '-' :: line ++ '\n' :: rest) =
      ('-', true) :: ('-', false) :: markFrom ⟨.lineComment, 0⟩ (line ++ '\n' :: rest) := rfl
  rw [opens, markFrom_lineComment oneLine]
  rfl

/-- A semicolon in one of the comment lines that begin a text ends no statement. -/
theorem not_flat_of_comment {lines : List (List Char)}
    (oneLine : ∀ line ∈ lines, ∀ char ∈ line, char ≠ '\n' ∧ char ≠ '\r') {line : List Char}
    (listed : line ∈ lines) (semicolon : ';' ∈ line) (rest : List Char) :
    ¬Flat (lines.flatMap (fun line => '-' :: '-' :: line ++ ['\n']) ++ rest) := by
  -- The lines before it are comments too, so it is marked as it would be alone.
  intro flat
  have member : (';', false) ∈ mark (lines.flatMap (fun line => '-' :: '-' :: line ++ ['\n']) ++ rest) := by
    clear flat
    induction lines with
    | nil => cases listed
    | cons first others ih =>
      obtain ⟨here, later⟩ := List.forall_mem_cons.mp oneLine
      have split : (first :: others).flatMap (fun line => '-' :: '-' :: line ++ ['\n']) ++ rest =
          '-' :: '-' :: first ++ '\n' ::
            (others.flatMap (fun line => '-' :: '-' :: line ++ ['\n']) ++ rest) := by
        simp
      rw [split, mark_comment_line here]
      rcases List.mem_cons.mp listed with rfl | behind
      · simp [semicolon]
      · exact List.mem_append_right _ (ih later behind)
  simpa using flat _ member

end Sql
