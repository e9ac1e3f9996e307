import Mathlib.Data.List.Nodup
import Mathlib.Data.List.Infix

/-! Serialized content security policies: directives between semicolons, words between spaces. -/

namespace Http

/-- ASCII white space. -/
def isAsciiSpace (char : Char) : Bool :=
  char == '\t' || char == '\n' || char == '\x0c' || char == '\r' || char == ' '

/-- A directive: its name, and the words of its value. -/
abbrev Directive := List (List Char)

/-- The words of a text. -/
def words (text : List Char) : Directive :=
  (text.splitOnP isAsciiSpace).filter fun word => word ≠ []

/-- The name of a directive, as it is compared. -/
def directiveName (directive : Directive) : List Char := (directive.headD []).map Char.toLower

/-- A directive is entered unless an earlier one has its name. -/
def enter (policy : List Directive) (directive : Directive) : List Directive :=
  if policy.any fun earlier => directiveName earlier = directiveName directive then policy
  else policy ++ [directive]

/-- Parse a serialized policy: parts without words count for nothing. -/
def parsePolicy (text : List Char) : List Directive :=
  (((text.splitOn ';').map words).filter fun directive => directive ≠ []).foldl enter []

/-- A directive as it is written. -/
def Directive.write (directive : Directive) : List Char := [' '].intercalate directive

/-- A policy as it is written. -/
def writePolicy (policy : List Directive) : List Char :=
  "; ".toList.intercalate (policy.map Directive.write)

/-- A word of a directive: not empty, without white space and semicolons. -/
def IsWord (word : List Char) : Prop :=
  word ≠ [] ∧ ∀ char ∈ word, isAsciiSpace char = false ∧ char ≠ ';'

/-- A text is a word where the check of its characters says so. -/
theorem isWord_of_all {word : List Char} (plain : (decide (word ≠ []) && word.all fun char =>
    !isAsciiSpace char && decide (char ≠ ';')) = true) : IsWord word := by
  simp only [Bool.and_eq_true, decide_eq_true_eq, List.all_eq_true, Bool.not_eq_true'] at plain
  exact plain

/-- Directives of words, no two with one name. -/
structure WellFormed (policy : List Directive) : Prop where
  nonempty : ∀ directive ∈ policy, directive ≠ []
  words : ∀ directive ∈ policy, ∀ word ∈ directive, IsWord word
  named : (policy.map directiveName).Nodup

private theorem words_cons {word rest : List Char} (plain : IsWord word) :
    words (word ++ ' ' :: rest) = word :: words rest := by
  -- The space ends the first word.
  unfold words
  rw [List.splitOnP_append_cons_of_forall_mem (fun char member => (plain.2 char member).1) ' ' rfl,
    List.filter_cons_of_pos (by simpa using plain.1)]

private theorem words_space (rest : List Char) : words (' ' :: rest) = words rest := by
  -- A space in front makes an empty part, which is dropped.
  unfold words
  rw [List.splitOnP_cons_eq_if_modifyHead]
  simp [isAsciiSpace]

/-- A directive that is written is read back as its words. -/
theorem words_write {directive : Directive} (plain : ∀ word ∈ directive, IsWord word) :
    words directive.write = directive := by
  induction directive with
  | nil => rfl
  | cons word rest ih =>
    obtain ⟨first, later⟩ := List.forall_mem_cons.mp plain
    cases rest with
    | nil =>
      -- A single word is not followed by a space.
      unfold Directive.write words
      rw [List.intercalate_singleton,
        List.splitOnP_eq_singleton fun char member => (first.2 char member).1,
        List.filter_cons_of_pos (by simpa using first.1), List.filter_nil]
    | cons second rest =>
      have written : Directive.write (word :: second :: rest) =
          word ++ ' ' :: Directive.write (second :: rest) := by
        unfold Directive.write
        rw [List.intercalate_cons_cons]
        simp
      rw [written, words_cons first, ih later]

private theorem write_plain {directive : Directive} (plain : ∀ word ∈ directive, IsWord word) :
    ';' ∉ directive.write := by
  -- Neither the words nor the spaces between them are semicolons.
  induction directive with
  | nil => simp [Directive.write]
  | cons word rest ih =>
    obtain ⟨first, later⟩ := List.forall_mem_cons.mp plain
    have absent : ';' ∉ word := fun member => (first.2 _ member).2 rfl
    cases rest with
    | nil => simpa [Directive.write] using absent
    | cons second rest =>
      have written : Directive.write (word :: second :: rest) =
          word ++ ' ' :: Directive.write (second :: rest) := by
        unfold Directive.write
        rw [List.intercalate_cons_cons]
        simp
      rw [written]
      simp only [List.mem_append, List.mem_cons, not_or]
      exact ⟨absent, by decide, ih later⟩

private theorem parts_write {policy : List Directive}
    (plain : ∀ directive ∈ policy, ∀ word ∈ directive, IsWord word) (present : policy ≠ []) :
    ((writePolicy policy).splitOn ';').map words = policy := by
  -- The first part is the first directive; in front of all others a space is left.
  induction policy with
  | nil => exact absurd rfl present
  | cons first rest ih =>
    obtain ⟨here, later⟩ := List.forall_mem_cons.mp plain
    cases rest with
    | nil =>
      unfold writePolicy
      rw [List.map_singleton, List.intercalate_singleton,
        List.splitOn_eq_singleton (write_plain here), List.map_singleton, words_write here]
    | cons second rest =>
      have written : writePolicy (first :: second :: rest) =
          first.write ++ ';' :: ' ' :: writePolicy (second :: rest) := by
        unfold writePolicy
        rw [List.map_cons, List.map_cons, List.intercalate_cons_cons]
        simp
      have spaced : ((' ' :: writePolicy (second :: rest)).splitOn ';').map words =
          ((writePolicy (second :: rest)).splitOn ';').map words := by
        rw [List.splitOn_cons_eq_if_modifyHead]
        cases split : (writePolicy (second :: rest)).splitOn ';' with
        | nil => exact absurd split (List.splitOn_ne_nil _ _)
        | cons part parts => simp [words_space]
      rw [written, List.splitOn_append_cons_self_of_not_mem (write_plain here), List.map_cons,
        words_write here, spaced, ih later (by simp)]

private theorem enter_all {policy entered : List Directive}
    (named : ((entered ++ policy).map directiveName).Nodup) :
    policy.foldl enter entered = entered ++ policy := by
  -- No directive meets an earlier one with its name.
  induction policy generalizing entered with
  | nil => simp
  | cons directive rest ih =>
    have fresh : entered.any (fun earlier => directiveName earlier = directiveName directive) =
        false := by
      rw [List.any_eq_false]
      intro earlier member same
      rw [List.map_append, List.map_cons, List.nodup_append] at named
      exact named.2.2 _ (List.mem_map_of_mem member) _ List.mem_cons_self (of_decide_eq_true same)
    rw [List.foldl_cons]
    unfold enter
    rw [fresh, if_neg (by simp)]
    exact (ih (by simpa using named)).trans (by simp)

/-- A well-formed policy that is written is read back. -/
theorem parsePolicy_writePolicy {policy : List Directive} (formed : WellFormed policy) :
    parsePolicy (writePolicy policy) = policy := by
  by_cases empty : policy = []
  · subst empty
    rfl
  · unfold parsePolicy
    rw [parts_write formed.words empty]
    have kept : (policy.filter fun directive => directive ≠ []) = policy := by
      rw [List.filter_eq_self]
      intro directive member
      simpa using formed.nonempty directive member
    rw [kept, enter_all (by simpa using formed.named)]
    rfl

/-- The directive that governs scripts. -/
def scriptDirective (policy : List Directive) : Option Directive :=
  (policy.find? fun directive => directiveName directive = "script-src".toList).or
    (policy.find? fun directive => directiveName directive = "default-src".toList)

/-- A script with the given nonce is admitted for its nonce; without a directive every script is. -/
def admitsNonce (policy : List Directive) (nonce : List Char) : Prop :=
  match scriptDirective policy with
  | none => True
  | some directive => "'nonce-".toList ++ nonce ++ "'".toList ∈ directive.tail

end Http
