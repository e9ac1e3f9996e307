import Mathlib.Data.String.Basic
import Mathlib.Data.List.TakeWhile
import Mathlib.Data.Nat.Digits.Defs

/-! Characters and numerals of Python text, as `str`, `int` and the JSON writer see them. -/

namespace Python

/-- Code points that `str.isspace` accepts. -/
def isSpace (char : Char) : Bool :=
  -- ASCII separators come first, then the Unicode spaces and line separators.
  let code := char.toNat
  (9 ≤ code && code ≤ 13) || (28 ≤ code && code ≤ 32) || code == 0x85 || code == 0xA0 ||
    code == 0x1680 || (0x2000 ≤ code && code ≤ 0x200A) || code == 0x2028 || code == 0x2029 ||
    code == 0x202F || code == 0x205F || code == 0x3000

/-- Remove the characters satisfying a test from both ends. -/
def stripWith (test : Char → Bool) (text : List Char) : List Char :=
  -- Both ends are treated alike, the second one on the reversed text.
  ((text.dropWhile test).reverse.dropWhile test).reverse

/-- `str.strip` without arguments. -/
def strip (text : List Char) : List Char :=
  stripWith isSpace text

/-- What is dropped from the front passes the test, so the rest stays. -/
private theorem mem_dropWhile {test : Char → Bool} {char : Char} (kept : test char = false)
    {text : List Char} : char ∈ text.dropWhile test ↔ char ∈ text := by
  -- Only characters that pass the test are dropped.
  induction text with
  | nil => rfl
  | cons first rest ih =>
    by_cases dropped : test first = true
    · have different : char ≠ first := fun same => by simp [same, dropped] at kept
      simp [dropped, ih, different]
    · simp [dropped]

/-- Stripping keeps every character that is no space. -/
theorem mem_strip {char : Char} (visible : isSpace char = false) {text : List Char} :
    char ∈ strip text ↔ char ∈ text := by
  simp [strip, stripWith, mem_dropWhile visible]

/-- Neither end of a text passes a test. -/
def Trimmed (test : Char → Bool) (text : List Char) : Prop :=
  (∀ char ∈ text.head?, test char = false) ∧ ∀ char ∈ text.getLast?, test char = false

/-- Nothing is dropped from a text that starts with something else. -/
private theorem dropWhile_eq_self {test : Char → Bool} {text : List Char}
    (starts : ∀ char ∈ text.head?, test char = false) : text.dropWhile test = text := by
  cases text with
  | nil => rfl
  | cons first rest => simp [starts first rfl]

/-- What is left begins with something else. -/
private theorem head?_dropWhile {test : Char → Bool} {text : List Char} :
    ∀ char ∈ (text.dropWhile test).head?, test char = false := by
  intro char first
  have stopped := List.head?_dropWhile_not test text
  rw [Option.mem_def.mp first] at stopped
  simpa using stopped

/-- Both ends around a trimmed text are removed. -/
theorem stripWith_append {test : Char → Bool} {lead text trail : List Char}
    (leading : ∀ char ∈ lead, test char = true) (trailing : ∀ char ∈ trail, test char = true)
    (trimmed : Trimmed test text) : stripWith test (lead ++ text ++ trail) = text := by
  unfold stripWith
  rw [List.append_assoc, List.dropWhile_append_of_pos leading]
  cases text with
  | nil => simp [List.dropWhile_eq_nil_iff.mpr trailing]
  | cons first rest =>
    -- The second removal is the first one on the reversed text.
    have front : (first :: rest ++ trail).dropWhile test = first :: rest ++ trail :=
      dropWhile_eq_self trimmed.1
    have back : ∀ char ∈ trail.reverse, test char = true := by simpa using trailing
    have ends : ∀ char ∈ (first :: rest).reverse.head?, test char = false := by
      rw [List.head?_reverse]
      exact trimmed.2
    rw [front, List.reverse_append, List.dropWhile_append_of_pos back, dropWhile_eq_self ends,
      List.reverse_reverse]

/-- Every text is its trimmed part with removable characters around it. -/
theorem exists_stripWith (test : Char → Bool) (text : List Char) :
    ∃ lead trail, text = lead ++ stripWith test text ++ trail ∧
      (∀ char ∈ lead, test char = true) ∧ (∀ char ∈ trail, test char = true) ∧
      Trimmed test (stripWith test text) := by
  -- First the front is cut off, then the back of what is left.
  have front := List.takeWhile_append_dropWhile (p := test) (l := text)
  have back := List.takeWhile_append_dropWhile (p := test) (l := (text.dropWhile test).reverse)
  have left : stripWith test text ++ ((text.dropWhile test).reverse.takeWhile test).reverse =
      text.dropWhile test := by
    rw [stripWith, ← List.reverse_append, back, List.reverse_reverse]
  refine ⟨text.takeWhile test, ((text.dropWhile test).reverse.takeWhile test).reverse, ?_, ?_, ?_,
    ?_, ?_⟩
  · rw [List.append_assoc, left, front]
  · exact fun char member => List.mem_takeWhile_imp member
  · intro char member
    exact List.mem_takeWhile_imp (List.mem_reverse.mp member)
  · intro char first
    refine @head?_dropWhile test text char ?_
    rw [← left, List.head?_append, Option.mem_def.mp first]
    rfl
  · rw [stripWith, List.getLast?_reverse]
    exact head?_dropWhile

/-- The zero of every run of ten decimal digits (category Nd) of Unicode 15. -/
def digitZeros : List Nat :=
  [0x30, 0x660, 0x6F0, 0x7C0, 0x966, 0x9E6, 0xA66, 0xAE6, 0xB66, 0xBE6, 0xC66, 0xCE6, 0xD66,
    0xDE6, 0xE50, 0xED0, 0xF20, 0x1040, 0x1090, 0x17E0, 0x1810, 0x1946, 0x19D0, 0x1A80, 0x1A90,
    0x1B50, 0x1BB0, 0x1C40, 0x1C50, 0xA620, 0xA8D0, 0xA900, 0xA9D0, 0xA9F0, 0xAA50, 0xABF0,
    0xFF10, 0x104A0, 0x10D30, 0x11066, 0x110F0, 0x11136, 0x111D0, 0x112F0, 0x11450, 0x114D0,
    0x11650, 0x116C0, 0x11730, 0x118E0, 0x11950, 0x11C50, 0x11D50, 0x11DA0, 0x11F50, 0x16A60,
    0x16AC0, 0x16B50, 0x1D7CE, 0x1D7D8, 0x1D7E2, 0x1D7EC, 0x1D7F6, 0x1E140, 0x1E2F0, 0x1E4F0,
    0x1E950, 0x1FBF0]

/-- The value of a decimal digit in any script, as `int` and `Decimal` read it. -/
def decimalDigit? (char : Char) : Option Nat :=
  -- Ten consecutive code points follow each zero.
  (digitZeros.find? fun start => start ≤ char.toNat && char.toNat < start + 10).map
    fun start => char.toNat - start

/-- First and last of the runs of digits that are no decimal digits: superscripts, circled ones. -/
def digitRuns : List (Nat × Nat) :=
  [(0xB2, 0xB3), (0xB9, 0xB9), (0x1369, 0x1371), (0x19DA, 0x19DA), (0x2070, 0x2070),
    (0x2074, 0x2079), (0x2080, 0x2089), (0x2460, 0x2468), (0x2474, 0x247C), (0x2488, 0x2490),
    (0x24EA, 0x24EA), (0x24F5, 0x24FD), (0x24FF, 0x24FF), (0x2776, 0x277E), (0x2780, 0x2788),
    (0x278A, 0x2792), (0x10A40, 0x10A43), (0x10E60, 0x10E68), (0x11052, 0x1105A),
    (0x1F100, 0x1F10A)]

/-- Characters that `str.isdigit` accepts. -/
def isDigit (char : Char) : Bool :=
  (decimalDigit? char).isSome ||
    digitRuns.any fun (first, last) => first ≤ char.toNat && char.toNat ≤ last

/-- The value of a letter or digit in a base up to thirty-six, letters read in either case. -/
def alphanumericDigit? (char : Char) : Option Nat :=
  match decimalDigit? char with
  | some value => some value
  | none =>
    -- Only ASCII letters are digits beyond nine.
    if 'a' ≤ char ∧ char ≤ 'z' then some (char.toNat - 'a'.toNat + 10)
    else if 'A' ≤ char ∧ char ≤ 'Z' then some (char.toNat - 'A'.toNat + 10)
    else none

/-- The decimal digits of a natural number, most significant first. -/
def natText (value : Nat) : List Char :=
  Nat.toDigits 10 value

/-- `str` of an integer. -/
def intText : Int → List Char
  | .ofNat value => natText value
  | .negSucc value => '-' :: natText (value + 1)

/-- Lowercase hexadecimal digits in a field of fixed width, as `%0{width}x` writes them. -/
def hexText : Nat → Nat → List Char
  -- The least significant digit is written last.
  | 0, _ => []
  | width + 1, value => hexText width (value / 16) ++ [Nat.digitChar (value % 16)]

/-- A decimal numeral left-padded with zeros to a minimum width. -/
def zeroPad (width value : Nat) : List Char :=
  List.replicate (width - (natText value).length) '0' ++ natText value

/-- The digits of a natural number are ASCII digits. -/
theorem natText_isDigit {value : Nat} {char : Char} (member : char ∈ natText value) :
    char.isDigit = true :=
  Nat.isDigit_of_mem_toDigits (by decide) (by decide) member

/-- A number has at least one digit. -/
theorem natText_ne_nil (value : Nat) : natText value ≠ [] :=
  Nat.toDigits_ne_nil

/-- Numbers with the same digits are equal. -/
theorem natText_injective {left right : Nat} (same : natText left = natText right) :
    left = right := by
  -- Reading the digits back recovers the number.
  have values := congrArg (Nat.ofDigitChars 10 · 0) same
  simpa [natText] using values

/-- A field of fixed width has exactly that many hexadecimal digits. -/
@[simp] theorem hexText_length (width value : Nat) : (hexText width value).length = width := by
  -- One digit is appended at every step, whatever the remaining value is.
  induction width generalizing value with
  | zero => rfl
  | succ width ih => simp [hexText, ih]

private theorem digitChar_injective {left right : Nat} (leftSmall : left < 16) (rightSmall : right < 16)
    (same : Nat.digitChar left = Nat.digitChar right) : left = right := by
  -- Sixteen cases on each side, compared as characters.
  have table : ∀ first < 16, ∀ second < 16,
      Nat.digitChar first = Nat.digitChar second → first = second := by decide
  exact table left leftSmall right rightSmall same

/-- Values that fit their field are recovered from its hexadecimal digits. -/
theorem hexText_injective {width left right : Nat} (leftFits : left < 16 ^ width)
    (rightFits : right < 16 ^ width) (same : hexText width left = hexText width right) :
    left = right := by
  -- The last digit is the remainder, and the digits before it are the quotient one place shorter.
  induction width generalizing left right with
  | zero => simp at leftFits rightFits; omega
  | succ width ih =>
    simp only [hexText] at same
    obtain ⟨front, last⟩ := List.append_inj same (by simp)
    have remainder := digitChar_injective (Nat.mod_lt left (by decide))
      (Nat.mod_lt right (by decide)) (by simpa using last)
    rw [Nat.pow_succ] at leftFits rightFits
    have quotient := ih (by omega) (by omega) front
    omega

end Python
