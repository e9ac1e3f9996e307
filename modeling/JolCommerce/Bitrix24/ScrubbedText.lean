import JolCommerce.Bitrix24.AddressDeletion
import JolCommerce.Bitrix24.Noninterference

/-! When the text that the scrubber sends is free of addresses and of telephone numbers. -/

namespace JolCommerce

open Python Regex Pattern PayloadValue

namespace PiiScrubber

variable {letter : Char → Bool}

/-- The fields whose text is scrubbed and sent. -/
def textFields : List String := ["status", "branch_id", "service_type", "currency"]

/-- What stands between the telephone numbers of a text that has lost its addresses. -/
def piecesOf (letter : Char → Bool) (value : String) : List (List Char) :=
  phonePattern.split (isWord letter) (bitrixEmailPattern.sub (isWord letter) [] value.toList)

/-- An address or a number begins in front of a deleted number and ends where that stood or behind it. -/
def Rejoined (letter : Char → Bool) (value : String) : Prop :=
  bitrixEmailPattern.Crossing (isWord letter) none (piecesOf letter value) ∨
    phonePattern.Crossing (isWord letter) none (piecesOf letter value)

/-- A text without an address and without a number, which scrubbing leaves as it is. -/
structure Scrubbed (letter : Char → Bool) (text : String) : Prop where
  noEmail : bitrixEmailPattern.search (isWord letter) none text.toList = false
  noPhone : phonePattern.search (isWord letter) none text.toList = false
  stays : scrubValue letter text = text

/-- Telephone numbers end at a boundary. -/
theorem phone_endsAtBoundary : phonePattern.EndsAtBoundary (isWord letter) := by
  intro previous taken rest matched
  have atoms : phonePattern.atoms = [.run ⟨(· == '+'), 0, some 1⟩, .boundary, .run ⟨isDecimal, 1, some 1⟩,
      .run ⟨isPhoneChar, 6, none⟩] ++ [.boundary] := rfl
  rw [Matches, atoms] at matched
  exact matched.boundary_behind

/-- They begin with a plus sign or at a boundary. -/
theorem phone_beginsOutside {text : List Char} (spaces : ∀ char ∈ text, isSpace char = true) :
    phonePattern.BeginsOutside (isWord letter) text := by
  -- Without a sign the boundary is the first thing matched, and the sign is no space.
  intro previous taken rest matched
  have nonempty := matched.ne_nil
  obtain ⟨sign, more, rfl, spells, bounded, -⟩ := matched
  cases sign with
  | nil =>
    rw [List.nil_append] at nonempty ⊢
    rw [head?_append nonempty] at bounded
    exact .inl bounded
  | cons char sign =>
    refine .inr fun space listed same => ?_
    have plus : char = '+' := by simpa using spells.accepted char List.mem_cons_self
    obtain rfl : char = space := Option.some.inj same
    rw [plus] at listed
    cases spaces '+' listed

/-- Addresses begin at a boundary. -/
theorem address_beginsOutside (text : List Char) :
    bitrixEmailPattern.BeginsOutside (isWord letter) text := by
  intro previous taken rest matched
  have begins := (address_matches_iff.mp matched).1
  rw [head?_append matched.ne_nil] at begins
  exact .inl begins

/-- The spaces around a text make no difference to what matches in it. -/
theorem clean_strip_iff {pattern : Pattern} {text : List Char}
    (begins : ∀ spaces : List Char, (∀ char ∈ spaces, isSpace char = true) →
      pattern.BeginsOutside (isWord letter) spaces)
    (ends : pattern.EndsAtBoundary (isWord letter)) :
    pattern.Clean (isWord letter) none (strip text) ↔ pattern.Clean (isWord letter) none text := by
  -- What is stripped are spaces, which are no word characters and begin no match.
  obtain ⟨front, back, split, frontSpaces, backSpaces⟩ := strip_split text
  have plainFront : ∀ char ∈ front, isWord letter char = false :=
    fun char member => isWord_isSpace (frontSpaces char member)
  have plainBack : ∀ char ∈ back, isWord letter char = false :=
    fun char member => isWord_isSpace (backSpaces char member)
  constructor
  · intro clean
    rw [split]
    exact clean.padded plainFront plainBack (begins front frontSpaces) ends
  · intro clean
    rw [split] at clean
    exact clean.unpadded plainFront plainBack

/-- A text is left scrubbed exactly when nothing comes together where a number is deleted. -/
theorem scrubbed_scrubValue_iff (value : String) :
    Scrubbed letter (scrubValue letter value) ↔ ¬Rejoined letter value := by
  have cutting : Cut (isWord letter) phonePattern phonePattern none
      (bitrixEmailPattern.sub (isWord letter) [] value.toList) (piecesOf letter value) :=
    cut_splitFrom none _
  have sent : (scrubValue letter value).toList = strip (piecesOf letter value).flatten := by
    rw [scrubValue, String.toList_ofList, sub_nil]
    rfl
  have email : bitrixEmailPattern.search (isWord letter) none (scrubValue letter value).toList = false ↔
      ¬bitrixEmailPattern.Crossing (isWord letter) none (piecesOf letter value) := by
    rw [search_eq_false_iff, sent, clean_strip_iff (fun spaces _ => address_beginsOutside spaces)
      address_endsAtBoundary]
    exact (cutting.of_clean (clean_withoutEmail value.toList)).clean_flatten_iff phone_endsAtBoundary
  have phone : phonePattern.search (isWord letter) none (scrubValue letter value).toList = false ↔
      ¬phonePattern.Crossing (isWord letter) none (piecesOf letter value) := by
    rw [search_eq_false_iff, sent, clean_strip_iff (fun _ => phone_beginsOutside) phone_endsAtBoundary]
    exact cutting.clean_flatten_iff phone_endsAtBoundary
  rw [Rejoined, not_or]
  constructor
  · rintro ⟨noEmail, noPhone, -⟩
    exact ⟨email.mp noEmail, phone.mp noPhone⟩
  · rintro ⟨noEmail, noPhone⟩
    refine ⟨email.mpr noEmail, phone.mpr noPhone, ?_⟩
    -- Nothing is deleted a second time, and nothing is stripped.
    have cleanEmail := search_eq_false_iff.mp (email.mpr noEmail)
    have cleanPhone := search_eq_false_iff.mp (phone.mpr noPhone)
    rw [scrubValue, sub_of_clean cleanEmail, sub_of_clean cleanPhone, sent, strip_strip, ← sent,
      String.ofList_toList]

/-- A text without telephone numbers is left scrubbed, whatever addresses are deleted from it. -/
theorem not_rejoined_of_single {value : String} {piece : List Char}
    (single : piecesOf letter value = [piece]) : ¬Rejoined letter value := by
  rw [Rejoined, single]
  rintro (email | phone)
  · exact not_crossing_single email
  · exact not_crossing_single phone

variable {ν : Type} [PayloadValue ν] {sha256 : String → String} {scrubber : PiiScrubber}
  {payload : Dict String ν} {externalId key : String} {value : ν}

variable (letter sha256 scrubber) in
/-- The text of an allowed field is sent as it is scrubbed. -/
theorem get?_scrubOrderPayload (given : externalId ≠ "") (listed : key ∈ textFields)
    (placed : payload.get? key = some value) (text : isInt value = false) :
    ∃ result, scrubber.scrubOrderPayload letter sha256 payload externalId = .ok result ∧
      result.get? key = some (.text (scrubValue letter (str value))) := by
  obtain ⟨result, returned, keys⟩ := scrubOrderPayload_spec letter sha256 scrubber payload given
  refine ⟨result, returned, ?_⟩
  -- All four fields are allowed, and each is written from the field of its own name.
  have table : ∀ key ∈ textFields, source key = key ∧ fieldAction key = .allow ∧ key ≠ "order_id" := by
    decide
  have own := table key listed
  have written : scrubber.sentUnder letter sha256 externalId key value =
      some (.text (scrubValue letter (str value))) := by
    simp [sentUnder, PiiScrubber.written, own.1, own.2.1, own.2.2, text]
  have loop : scrubber.looped letter sha256 externalId payload key =
      some (.text (scrubValue letter (str value))) := by
    simp [looped, own.1, placed, written]
  rw [keys]
  split
  · rename_i status
    rw [← status, loop]
    rfl
  · exact loop

example : scrubValue (fun _ => false) "12345 (+1234567 x" = "12345 (x" ∧
    phonePattern.search (isWord fun _ => false) none "12345 (x".toList = true := by
  decide +kernel

end PiiScrubber

end JolCommerce
