import JolCommerce.Python.JsonReader

/-! `str.splitlines`, and that a serialised document is one line of printable ASCII. -/

namespace Python

/-- The ten characters that end a line. -/
def isLineBreak (char : Char) : Bool :=
  let code := char.toNat
  (10 ≤ code && code ≤ 13) || (28 ≤ code && code ≤ 30) || code == 0x85 || code == 0x2028 ||
    code == 0x2029

/-- The rest of the lines, behind what was read of the current one. -/
def splitlinesFrom (current : List Char) : List Char → List (List Char)
  -- An empty rest after the last break is no line.
  | [] => if current = [] then [] else [current]
  | '\r' :: '\n' :: rest => current :: splitlinesFrom [] rest
  | char :: rest =>
    if isLineBreak char then current :: splitlinesFrom [] rest
    else splitlinesFrom (current ++ [char]) rest

/-- `str.splitlines()`. -/
def splitlines (text : List Char) : List (List Char) := splitlinesFrom [] text

/-- A line without breaks, before a newline, is split off whole. -/
theorem splitlinesFrom_line {line : List Char} (unbroken : ∀ char ∈ line, isLineBreak char = false)
    (current rest : List Char) :
    splitlinesFrom current (line ++ '\n' :: rest) = (current ++ line) :: splitlines rest := by
  -- Its characters are added to the current line one by one.
  induction line generalizing current with
  | nil => simp [splitlinesFrom, splitlines, isLineBreak]
  | cons char line ih =>
    obtain ⟨here, later⟩ := List.forall_mem_cons.mp unbroken
    have plain : char ≠ '\r' := by
      rintro rfl
      exact absurd here (by decide)
    simp [splitlinesFrom, here, plain, ih later]

/-- Lines without breaks, each before a newline, are split at these newlines. -/
theorem splitlines_lines {lines : List (List Char)}
    (unbroken : ∀ line ∈ lines, ∀ char ∈ line, isLineBreak char = false) :
    splitlines (lines.flatMap fun line => line ++ ['\n']) = lines := by
  -- Each line is cut off at its own newline and leaves the others.
  induction lines with
  | nil => rfl
  | cons line rest ih =>
    obtain ⟨here, later⟩ := List.forall_mem_cons.mp unbroken
    rw [List.flatMap_cons, List.append_assoc, List.singleton_append, splitlines, splitlinesFrom_line here,
      ih later, List.nil_append]

/-- Printable ASCII. -/
def Printable (text : List Char) : Prop := ∀ char ∈ text, 32 ≤ char.toNat ∧ char.toNat ≤ 126

theorem Printable.append {left right : List Char} (first : Printable left) (second : Printable right) :
    Printable (left ++ right) := by
  intro char member
  rcases List.mem_append.mp member with here | there
  · exact first char here
  · exact second char there

theorem Printable.cons {char : Char} {rest : List Char} (visible : 32 ≤ char.toNat ∧ char.toNat ≤ 126)
    (later : Printable rest) : Printable (char :: rest) :=
  List.forall_mem_cons.mpr ⟨visible, later⟩

/-- No printable character ends a line. -/
theorem Printable.unbroken {text : List Char} (printable : Printable text) :
    ∀ char ∈ text, isLineBreak char = false := by
  -- The ten line breaks lie outside the printable range.
  intro char member
  have range := printable char member
  simp only [isLineBreak, Bool.or_eq_false_iff, Bool.and_eq_false_iff, decide_eq_false_iff_not,
    beq_eq_false_iff_ne]
  omega

/-- Hexadecimal digits are printable. -/
theorem printable_hexText (width value : Nat) : Printable (hexText width value) := by
  -- The sixteen digits are printable, and the text is made of them.
  have table : ∀ digit < 16, 32 ≤ (Nat.digitChar digit).toNat ∧ (Nat.digitChar digit).toNat ≤ 126 := by
    decide
  induction width generalizing value with
  | zero => exact fun _ member => nomatch member
  | succ width ih =>
    exact (ih _).append (.cons (table _ (Nat.mod_lt _ (by decide))) fun _ member => nomatch member)

private theorem printable_natText (value : Nat) : Printable (natText value) := by
  -- Digits are printable.
  intro char member
  have digit := natText_isDigit member
  simp only [Char.isDigit, Bool.and_eq_true, decide_eq_true_eq] at digit
  have low : 48 ≤ char.toNat := digit.1
  have high : char.toNat ≤ 57 := digit.2
  omega

private theorem printable_intText (value : Int) : Printable (intText value) := by
  cases value with
  | ofNat value => exact printable_natText value
  | negSucc value => exact .cons (by decide) (printable_natText _)

private theorem printable_escapeChar (char : Char) : Printable (escapeChar char) := by
  -- A backslash and a letter, the character itself, or one or two hexadecimal escapes.
  have pair : ∀ second : Char, 32 ≤ second.toNat ∧ second.toNat ≤ 126 → Printable ['\\', second] :=
    fun second visible => .cons (by decide) (.cons visible fun _ member => nomatch member)
  have unit : ∀ value, Printable ('\\' :: 'u' :: hexText 4 value) := fun value =>
    .cons (by decide) (.cons (by decide) (printable_hexText 4 value))
  simp only [escapeChar]
  split_ifs with quoteMark backslash newline carriage tab feed back plain basic
  · exact pair _ (by decide)
  · exact pair _ (by decide)
  · exact pair _ (by decide)
  · exact pair _ (by decide)
  · exact pair _ (by decide)
  · exact pair _ (by decide)
  · exact pair _ (by decide)
  · exact .cons plain fun _ member => nomatch member
  · exact unit _
  · exact (unit _).append (unit _)

private theorem printable_quote (text : String) : Printable (quote text) := by
  refine .cons (by decide) (Printable.append ?_ (.cons (by decide) fun _ member => nomatch member))
  intro char member
  obtain ⟨source, _, written⟩ := List.mem_flatMap.mp member
  exact printable_escapeChar source char written

mutual
/-- A serialised document is printable ASCII. -/
theorem printable_dumps : ∀ json : Json, Printable json.dumps
  | .null => by simp [Json.dumps, Printable]
  | .bool true => by simp [Json.dumps, Printable]
  | .bool false => by simp [Json.dumps, Printable]
  | .int value => by
    rw [Json.dumps]
    exact printable_intText value
  | .str text => by
    rw [Json.dumps]
    exact printable_quote text
  | .arr [] => by simp [Json.dumps, Printable]
  | .arr (item :: items) => by
    rw [Json.dumps]
    exact .cons (by decide) ((printable_dumps item).append (printable_dumpsItems items))
  | .obj [] => by simp [Json.dumps, Printable]
  | .obj ((key, value) :: fields) => by
    rw [Json.dumps]
    exact .cons (by decide) ((printable_quote key).append (.cons (by decide) (.cons (by decide)
      ((printable_dumps value).append (printable_dumpsFields fields)))))

/-- So are the items behind the first one. -/
theorem printable_dumpsItems : ∀ items : List Json, Printable (dumpsItems items)
  | [] => by simp [dumpsItems, Printable]
  | item :: items => by
    rw [dumpsItems]
    exact .cons (by decide) (.cons (by decide)
      ((printable_dumps item).append (printable_dumpsItems items)))

/-- So are the fields behind the first one. -/
theorem printable_dumpsFields : ∀ fields : List (String × Json), Printable (dumpsFields fields)
  | [] => by simp [dumpsFields, Printable]
  | (key, value) :: fields => by
    rw [dumpsFields]
    exact .cons (by decide) (.cons (by decide) ((printable_quote key).append (.cons (by decide)
      (.cons (by decide) ((printable_dumps value).append (printable_dumpsFields fields))))))
end

end Python
