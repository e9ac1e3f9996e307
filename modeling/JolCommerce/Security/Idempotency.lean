import Mathlib.Data.String.Basic
import Mathlib.Logic.Function.Basic

/-! Idempotency keys with the payloads they are signed together with. -/

namespace JolCommerce

/-- The key manager, of which signatures need the application secret. -/
structure IdempotencyManager where
  secretKey : String

namespace IdempotencyManager

/-- A key is well formed when it has at least sixteen characters. -/
def validateKey (idempotencyKey : String) : Bool :=
  idempotencyKey ≠ "" && 16 ≤ idempotencyKey.length

/-- The text that is signed. -/
def signedMessage (idempotencyKey payload : String) : String :=
  idempotencyKey ++ ":" ++ payload

/-- The signature that binds a payload to its key. -/
def computeSignature (hmacSha256 : String → String → String) (manager : IdempotencyManager)
    (idempotencyKey payload : String) : String :=
  -- `hmacSha256` is the hexadecimal digest of the texts in UTF-8, the secret first.
  hmacSha256 manager.secretKey (signedMessage idempotencyKey payload)

/-- A key and a payload, the key accepted. -/
structure Request where
  key : String
  payload : String
  accepted : validateKey key = true

/-- The signature of a request. -/
def Request.signature (hmacSha256 : String → String → String) (manager : IdempotencyManager)
    (request : Request) : String :=
  manager.computeSignature hmacSha256 request.key request.payload

/-- The second key goes on with a colon and a text that the first payload begins with. -/
def Shifted (first second : Request) : Prop :=
  ∃ moved, second.key = first.key ++ ":" ++ moved ∧
    first.payload = moved ++ ":" ++ second.payload

/-- A text with a colon in it can be cut at that colon or at a later one. -/
private theorem cut_at_colon {left right first second : List Char}
    (same : left ++ ':' :: first = right ++ ':' :: second) :
    (left = right ∧ first = second) ∨
      (∃ moved, right = left ++ ':' :: moved ∧ first = moved ++ ':' :: second) ∨
      ∃ moved, left = right ++ ':' :: moved ∧ second = moved ++ ':' :: first := by
  -- One part before the colon is an extension of the other, by nothing or from a colon on.
  rcases List.append_eq_append_iff.mp same with ⟨extra, rfl, rest⟩ | ⟨extra, rfl, rest⟩
  · cases extra with
    | nil => exact Or.inl ⟨by simp, by simpa using rest⟩
    | cons colon moved =>
      obtain ⟨rfl, rfl⟩ := List.cons.inj rest
      exact Or.inr (Or.inl ⟨moved, rfl, rfl⟩)
  · cases extra with
    | nil => exact Or.inl ⟨by simp, by simpa using rest.symm⟩
    | cons colon moved =>
      obtain ⟨rfl, rfl⟩ := List.cons.inj rest
      exact Or.inr (Or.inr ⟨moved, rfl, rfl⟩)

/-- Requests share their signed text when they are the same or one is the other shifted. -/
theorem signedMessage_eq_iff (first second : Request) :
    signedMessage first.key first.payload = signedMessage second.key second.payload ↔
      (first.key = second.key ∧ first.payload = second.payload) ∨
        Shifted first second ∨ Shifted second first := by
  -- The colons that end the two keys are at the same place, or one lies within the other's text.
  constructor
  · intro same
    have chars := congrArg String.toList same
    simp only [signedMessage, String.toList_append] at chars
    rcases cut_at_colon (by simpa using chars) with ⟨keys, payloads⟩ | ⟨moved, keys, payloads⟩ |
      ⟨moved, keys, payloads⟩
    · exact Or.inl ⟨String.toList_injective keys, String.toList_injective payloads⟩
    · refine Or.inr (Or.inl ⟨String.ofList moved, ?_, ?_⟩)
      · exact String.toList_injective (by simp [keys])
      · exact String.toList_injective (by simp [payloads])
    · refine Or.inr (Or.inr ⟨String.ofList moved, ?_, ?_⟩)
      · exact String.toList_injective (by simp [keys])
      · exact String.toList_injective (by simp [payloads])
  · rintro (⟨keys, payloads⟩ | ⟨moved, keys, payloads⟩ | ⟨moved, keys, payloads⟩)
    · rw [keys, payloads]
    · simp only [signedMessage, keys, payloads, String.append_assoc]
    · simp only [signedMessage, keys, payloads, String.append_assoc]

/-- A shift moves at least the colon, so the key gets longer. -/
theorem Shifted.key_ne {first second : Request} (shifted : Shifted first second) :
    first.key ≠ second.key := by
  obtain ⟨moved, keys, -⟩ := shifted
  intro same
  have lengths := congrArg String.length (same.trans keys)
  have colon : ":".length = 1 := rfl
  rw [String.length_append, String.length_append, colon] at lengths
  omega

/-- A signature binds key and payload exactly where no shift leads to the other request. -/
theorem signature_binds_iff {hmacSha256 : String → String → String}
    (injective : ∀ secret, Function.Injective (hmacSha256 secret)) (manager : IdempotencyManager)
    (first second : Request) :
    (first.signature hmacSha256 manager = second.signature hmacSha256 manager →
        first.key = second.key ∧ first.payload = second.payload) ↔
      ¬Shifted first second ∧ ¬Shifted second first := by
  -- Equal signatures are equal signed texts.
  have collide : first.signature hmacSha256 manager = second.signature hmacSha256 manager ↔
      signedMessage first.key first.payload = signedMessage second.key second.payload :=
    (injective manager.secretKey).eq_iff
  rw [collide, signedMessage_eq_iff]
  constructor
  · intro binds
    refine ⟨fun shifted => ?_, fun shifted => ?_⟩
    · exact shifted.key_ne (binds (Or.inr (Or.inl shifted))).1
    · exact shifted.key_ne (binds (Or.inr (Or.inr shifted))).1.symm
  · rintro ⟨notForward, notBackward⟩ (same | shifted | shifted)
    · exact same
    · exact absurd shifted notForward
    · exact absurd shifted notBackward

/-- A key without a colon is no shifted key. -/
theorem not_shifted_of_colon_free {second : Request} (colonFree : ':' ∉ second.key.toList)
    (first : Request) : ¬Shifted first second := by
  rintro ⟨moved, keys, -⟩
  exact colonFree (by simp [keys])

/-- Requests under keys without a colon are told apart. -/
theorem signature_binds_plain_keys :
    Request.signature (fun _ message => message) ⟨"secret"⟩
        ⟨"order-key-000001", "2026:100", by decide⟩ ≠
      Request.signature (fun _ message => message) ⟨"secret"⟩
        ⟨"order-key-000002", "100", by decide⟩ := by
  intro same
  have bound := (signature_binds_iff (fun _ => Function.injective_id) ⟨"secret"⟩
    ⟨"order-key-000001", "2026:100", by decide⟩ ⟨"order-key-000002", "100", by decide⟩).mpr
    ⟨not_shifted_of_colon_free (by decide) _, not_shifted_of_colon_free (by decide) _⟩ same
  exact absurd bound.1 (by decide)

/-- A part of the payload passes for a part of the key. -/
theorem moved_part_collides :
    Request.signature (fun _ message => message) ⟨"secret"⟩
        ⟨"order-key-000001", "2026:100", by decide⟩ =
      Request.signature (fun _ message => message) ⟨"secret"⟩
        ⟨"order-key-000001:2026", "100", by decide⟩ ∧
      "order-key-000001" ≠ "order-key-000001:2026" := by
  exact ⟨by decide, by decide⟩

end IdempotencyManager

end JolCommerce
