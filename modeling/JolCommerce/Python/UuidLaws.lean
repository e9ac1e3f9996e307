import JolCommerce.Python.Uuid

/-! `uuid.UUID` reads back the canonical form that `str` writes of a UUID. -/

namespace Python

/-- A text without the first character of a pattern keeps everything. -/
theorem removeFrom_of_not_mem {first : Char} {rest text : List Char} (absent : first ∉ text) :
    removeFrom (first :: rest) 0 text = text := by
  induction text with
  | nil => rfl
  | cons char text ih =>
    rw [List.mem_cons, not_or] at absent
    have apart : (first :: rest).isPrefixOf (char :: text) = false := by
      simp [List.isPrefixOf, absent.1]
    simp only [removeFrom, apart, ih absent.2]
    rfl

/-- A text of which no character passes the test is stripped of nothing. -/
theorem stripWith_eq_self {test : Char → Bool} {text : List Char}
    (kept : ∀ char ∈ text, test char = false) : stripWith test text = text := by
  have trimmed : Trimmed test text :=
    ⟨fun char first => kept char (List.mem_of_mem_head? first),
      fun char last => kept char (List.mem_of_mem_getLast? last)⟩
  have whole := @stripWith_append test [] text [] (by simp) (by simp) trimmed
  rwa [List.nil_append, List.append_nil] at whole

/-- The characters of a hexadecimal field are the sixteen lower digits. -/
theorem mem_hexText {width value : Nat} {char : Char} (member : char ∈ hexText width value) :
    ∃ digit < 16, char = Nat.digitChar digit := by
  -- One digit at a time, the last one written last.
  induction width generalizing value with
  | zero => cases member
  | succ width ih =>
    rcases List.mem_append.mp member with front | last
    · exact ih front
    · exact ⟨value % 16, Nat.mod_lt value (by decide), List.mem_singleton.mp last⟩

/-- What holds of the sixteen digits holds of every character of a hexadecimal field. -/
theorem forall_mem_hexText {holds : Char → Prop} (digits : ∀ digit < 16, holds (Nat.digitChar digit))
    (width value : Nat) : ∀ char ∈ hexText width value, holds char := by
  intro char member
  obtain ⟨digit, small, rfl⟩ := mem_hexText member
  exact digits digit small

/-- The digits of a field are read as the number that it was written for. -/
theorem foldlM_hexText {width value : Nat} (fits : value < 16 ^ width) (start : Nat) :
    (hexText width value).foldlM (fun value char =>
      match alphanumericDigit? char with
      | some digit => if digit < 16 then some (value * 16 + digit) else none
      | none => none) start = some (start * 16 ^ width + value) := by
  have table : ∀ digit < 16, alphanumericDigit? (Nat.digitChar digit) = some digit := by decide
  -- The last digit is the remainder, and those before it are read as the quotient.
  induction width generalizing value start with
  | zero =>
    have zero : value = 0 := by simpa using fits
    subst zero
    simp [hexText]
  | succ width ih =>
    have small : value % 16 < 16 := Nat.mod_lt value (by decide)
    have quotient : value / 16 < 16 ^ width := by
      rw [Nat.pow_succ] at fits
      omega
    rw [hexText, List.foldlM_append, ih quotient]
    simp only [Option.bind_eq_bind, Option.bind_some, List.foldlM_cons, List.foldlM_nil,
      table _ small, small, if_true]
    have split := Nat.div_add_mod value 16
    show some _ = some _
    rw [Nat.pow_succ, Nat.add_mul]
    congr 1
    rw [Nat.mul_assoc]
    omega

/-- A hexadecimal field of at least two digits is read as its number. -/
theorem readHex_hexText {width value : Nat} (fits : value < 16 ^ (width + 2)) :
    readHex? (hexText (width + 2) value) = some (value : Int) := by
  have unspaced : stripWith isNumeralSpace (hexText (width + 2) value) = hexText (width + 2) value :=
    stripWith_eq_self (forall_mem_hexText (by decide) _ _)
  have unsigned : ∀ char ∈ hexText (width + 2) value, char ≠ '-' ∧ char ≠ '+' ∧ char ≠ 'x' ∧ char ≠ 'X' ∧
      char ≠ '_' := forall_mem_hexText (by decide) _ _
  have joined : '_' ∉ hexText (width + 2) value := fun member => (unsigned _ member).2.2.2.2 rfl
  have digits := foldlM_hexText fits 0
  rw [Nat.zero_mul, Nat.zero_add] at digits
  have read : readDigits? 16 (hexText (width + 2) value) = some value := by
    rw [readDigits?, List.splitOn_eq_singleton joined]
    have present : (hexText (width + 2) value).isEmpty = false := by
      rw [List.isEmpty_eq_false_iff, ← List.length_pos_iff, hexText_length]
      omega
    simp only [List.any_cons, List.any_nil, present, Bool.or_false, List.flatten_cons,
      List.flatten_nil, List.append_nil]
    exact digits
  have length := hexText_length (width + 2) value
  rw [readHex?, unspaced]
  -- The field has two digits at least, and neither is a sign or the mark of a prefix.
  clear unspaced joined digits
  generalize hexText (width + 2) value = field at length unsigned read ⊢
  rcases field with _ | ⟨first, _ | ⟨second, rest⟩⟩
  · cases length
  · simp at length
  · obtain ⟨minus, plus, -⟩ := unsigned first List.mem_cons_self
    obtain ⟨-, -, lower, upper, -⟩ := unsigned second (List.mem_cons_of_mem _ List.mem_cons_self)
    split
    · rename_i same
      split at same
      · rename_i sign
        exact absurd (List.cons.inj sign).1 minus
      · rename_i sign
        exact absurd (List.cons.inj sign).1 plus
      · obtain ⟨rfl, rfl⟩ := Prod.mk.inj same
        split
        all_goals first
          | (rename_i marked; exact absurd (List.cons.inj (List.cons.inj marked).2).1 lower)
          | (rename_i marked; exact absurd (List.cons.inj (List.cons.inj marked).2).1 upper)
          | simp [read]

/-- The canonical form of a UUID denotes that UUID. -/
theorem Uuid.parse_toStr (uuid : Uuid) : Uuid.parse? uuid.toStr = some uuid := by
  let digits := hexText 32 uuid.value
  have fits : uuid.value < 16 ^ (30 + 2) := by
    have width : 16 ^ (30 + 2) = 2 ^ 128 := by decide
    rw [width]
    exact uuid.bounded
  have written : uuid.toStr.toList = digits.take 8 ++ '-' :: (digits.drop 8).take 4 ++
      '-' :: (digits.drop 12).take 4 ++ '-' :: (digits.drop 16).take 4 ++ '-' :: digits.drop 20 :=
    String.toList_ofList
  have characters : ∀ char ∈ uuid.toStr.toList, char = '-' ∨ char ∈ digits := by
    intro char member
    rw [written] at member
    simp only [List.mem_append, List.mem_cons] at member
    rcases member with (((group | rfl | group) | rfl | group) | rfl | group) | rfl | group
    · exact .inr (List.mem_of_mem_take group)
    · exact .inl rfl
    · exact .inr (List.mem_of_mem_drop (List.mem_of_mem_take group))
    · exact .inl rfl
    · exact .inr (List.mem_of_mem_drop (List.mem_of_mem_take group))
    · exact .inl rfl
    · exact .inr (List.mem_of_mem_drop (List.mem_of_mem_take group))
    · exact .inl rfl
    · exact .inr (List.mem_of_mem_drop group)
  have plain : ∀ char ∈ digits, char ≠ 'u' ∧ char ≠ '-' ∧ (char == '\x7b' || char == '\x7d') = false :=
    forall_mem_hexText (by decide) _ _
  have unmarked : 'u' ∉ uuid.toStr.toList := by
    intro member
    rcases characters _ member with hyphen | digit
    · exact absurd hyphen (by decide)
    · exact (plain _ digit).1 rfl
  have unbraced : ∀ char ∈ uuid.toStr.toList, (char == '\x7b' || char == '\x7d') = false := by
    intro char member
    rcases characters char member with rfl | digit
    · decide
    · exact (plain char digit).2.2
  have urn : removeText "urn:" uuid.toStr.toList = uuid.toStr.toList := removeFrom_of_not_mem unmarked
  have scheme : removeText "uuid:" uuid.toStr.toList = uuid.toStr.toList :=
    removeFrom_of_not_mem unmarked
  -- Without its hyphens the text is the field of digits again.
  have kept : ∀ group : List Char, (∀ char ∈ group, char ∈ digits) →
      group.filter (· ≠ '-') = group := by
    intro group inside
    rw [List.filter_eq_self]
    intro char member
    simpa using (plain char (inside char member)).2.1
  have joined : uuid.toStr.toList.filter (· ≠ '-') = digits := by
    rw [written]
    simp only [List.filter_append, List.filter_cons, ne_eq, not_true_eq_false, decide_false,
      Bool.false_eq_true, if_false]
    rw [kept _ fun _ member => List.mem_of_mem_take member,
      kept _ fun _ member => List.mem_of_mem_drop (List.mem_of_mem_take member),
      kept _ fun _ member => List.mem_of_mem_drop (List.mem_of_mem_take member),
      kept _ fun _ member => List.mem_of_mem_drop (List.mem_of_mem_take member),
      kept _ fun _ member => List.mem_of_mem_drop member]
    have cut : ∀ start width, (digits.drop start).take width ++ digits.drop (start + width) =
        digits.drop start := by
      intro start width
      rw [← List.drop_drop]
      exact List.take_append_drop width _
    rw [List.append_assoc, List.append_assoc, List.append_assoc, cut 16 4, cut 12 4, cut 8 4]
    exact List.take_append_drop 8 digits
  have whole : digits.length = 32 := hexText_length 32 uuid.value
  have read : readHex? digits = some (.ofNat uuid.value) := readHex_hexText fits
  rw [Uuid.parse?, urn, scheme, stripWith_eq_self unbraced]
  simp only [joined, whole, if_true, read, uuid.bounded, dif_pos]

/-- Different UUIDs have different canonical forms. -/
theorem Uuid.toStr_injective : Function.Injective Uuid.toStr := by
  intro left right same
  have read := Uuid.parse_toStr left
  rw [same, Uuid.parse_toStr] at read
  exact (Option.some.inj read).symm

end Python
