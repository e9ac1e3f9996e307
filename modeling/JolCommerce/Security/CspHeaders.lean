import JolCommerce.Http.SecurityPolicy
import JolCommerce.Python.Dict

/-! The security headers of payment pages, and what a browser reads out of the content policy. -/

namespace JolCommerce

open Python Http

/-- Content Security Policy configuration for payment pages. -/
structure CSPPolicy where
  /-- Drawn by `generate_csp_nonce` unless it is given. -/
  nonce : String
  stripeJsUrl : String := "https://js.stripe.com"
  stripeNetworkUrl : String := "https://*.stripe.com"

namespace CSPPolicy

/-- The characters of `secrets.token_urlsafe`. -/
def isUrlSafe (char : Char) : Bool := char.isAlphanum || char == '-' || char == '_'

section Headers

variable (policy : CSPPolicy)

/-- Script sources including Stripe's hosted JavaScript. -/
def scriptSrc : String :=
  "'self' 'nonce-" ++ policy.nonce ++ "' " ++ policy.stripeJsUrl ++ " " ++ policy.stripeNetworkUrl

/-- Frame sources: the payment elements load in a frame. -/
def frameSrc : String := policy.stripeJsUrl ++ " " ++ policy.stripeNetworkUrl

/-- Connect sources for API calls. -/
def connectSrc : String := "'self' " ++ policy.stripeNetworkUrl

/-- The value of the Content-Security-Policy header. -/
def headerValue : String :=
  "default-src 'self'; " ++ ("script-src " ++ policy.scriptSrc ++ "; ") ++
    "style-src 'self' 'unsafe-inline'; " ++ ("frame-src " ++ policy.frameSrc ++ "; ") ++
    ("connect-src " ++ policy.connectSrc ++ "; ") ++ "img-src 'self' data:; " ++
    "font-src 'self'; " ++ "object-src 'none'; " ++ "base-uri 'self'; " ++ "form-action 'self'"

/-- `to_header()`. -/
def toHeader : Dict String String :=
  Dict.empty.set "Content-Security-Policy" policy.headerValue

/-- The headers that do not depend on the request. -/
def fixedHeaders : List (String × String) := [
  ("X-Content-Type-Options", "nosniff"),
  ("X-Frame-Options", "DENY"),
  ("X-XSS-Protection", "0"),
  ("Referrer-Policy", "strict-origin-when-cross-origin"),
  ("Permissions-Policy", "camera=(), microphone=(), geolocation=()"),
  ("Strict-Transport-Security", "max-age=63072000; includeSubDomains; preload")]

/-- `security_headers()`. -/
def securityHeaders : Dict String String :=
  fixedHeaders.foldl (fun headers field => headers.set field.1 field.2) policy.toHeader

/-- The headers in the order in which they are set. -/
theorem securityHeaders_entries : policy.securityHeaders.entries =
    ("Content-Security-Policy", policy.headerValue) :: fixedHeaders := by
  -- All names differ, so that every one is appended.
  rfl

/-- What the policy is meant to say. -/
def directives : List Directive := [
  ["default-src".toList, "'self'".toList],
  ["script-src".toList, "'self'".toList, "'nonce-".toList ++ policy.nonce.toList ++ "'".toList,
    policy.stripeJsUrl.toList, policy.stripeNetworkUrl.toList],
  ["style-src".toList, "'self'".toList, "'unsafe-inline'".toList],
  ["frame-src".toList, policy.stripeJsUrl.toList, policy.stripeNetworkUrl.toList],
  ["connect-src".toList, "'self'".toList, policy.stripeNetworkUrl.toList],
  ["img-src".toList, "'self'".toList, "data:".toList],
  ["font-src".toList, "'self'".toList],
  ["object-src".toList, "'none'".toList],
  ["base-uri".toList, "'self'".toList],
  ["form-action".toList, "'self'".toList]]

/-- The value is these directives as they are written. -/
theorem headerValue_eq : policy.headerValue.toList = writePolicy policy.directives := by
  -- Both sides are the same characters around the nonce and the two addresses.
  unfold headerValue scriptSrc frameSrc connectSrc writePolicy directives
  simp only [List.map_cons, List.map_nil, List.intercalate_cons_cons, List.intercalate_singleton]
  unfold Directive.write
  simp only [List.intercalate_cons_cons, List.intercalate_singleton, String.toList_append,
    List.append_assoc]
  simp

/-- Nonce and addresses can be written into a policy: no white space, no semicolons. -/
structure Writable : Prop where
  nonce : ∀ char ∈ policy.nonce.toList, isAsciiSpace char = false ∧ char ≠ ';'
  stripeJsUrl : IsWord policy.stripeJsUrl.toList
  stripeNetworkUrl : IsWord policy.stripeNetworkUrl.toList

/-- The directives of a writable policy are well formed. -/
theorem Writable.wellFormed {policy : CSPPolicy} (writable : policy.Writable) :
    WellFormed policy.directives := by
  have nonce : IsWord ("'nonce-".toList ++ policy.nonce.toList ++ "'".toList) := by
    refine ⟨by simp, fun char member => ?_⟩
    rcases List.mem_append.mp member with front | last
    · rcases List.mem_append.mp front with first | middle
      · exact (isWord_of_all (by decide) : IsWord "'nonce-".toList).2 char first
      · exact writable.nonce char middle
    · exact (isWord_of_all (by decide) : IsWord "'".toList).2 char last
  have names : policy.directives.map directiveName = ["default-src".toList, "script-src".toList,
      "style-src".toList, "frame-src".toList, "connect-src".toList, "img-src".toList,
      "font-src".toList, "object-src".toList, "base-uri".toList, "form-action".toList] := rfl
  refine ⟨?_, ?_, by rw [names]; decide⟩
  · intro directive member
    simp only [directives, List.mem_cons, List.not_mem_nil, or_false] at member
    rcases member with rfl | rfl | rfl | rfl | rfl | rfl | rfl | rfl | rfl | rfl <;> simp
  · -- All words but three are fixed.
    have js := writable.stripeJsUrl
    have network := writable.stripeNetworkUrl
    simp (disch := decide) only [directives, List.forall_mem_cons, List.not_mem_nil,
      IsEmpty.forall_iff, implies_true, and_true, nonce, js, network, isWord_of_all]

end Headers

/-- The policy of a response, with the nonce drawn for it. -/
def generated (nonce : String) : CSPPolicy := { nonce := nonce }

private theorem isUrlSafe_plain {char : Char} (safe : isUrlSafe char = true) :
    isAsciiSpace char = false ∧ char ≠ ';' := by
  -- None of the six excluded characters is a letter, a digit or one of the two signs.
  have excluded : ∀ other ∈ ['\t', '\n', '\x0c', '\r', ' ', ';'], char ≠ other := by
    intro other member same
    subst same
    simp only [List.mem_cons, List.not_mem_nil, or_false] at member
    rcases member with rfl | rfl | rfl | rfl | rfl | rfl <;> exact absurd safe (by decide)
  simp only [List.forall_mem_cons, List.not_mem_nil, IsEmpty.forall_iff, implies_true,
    and_true] at excluded
  simp [isAsciiSpace, excluded]

/--
A browser reads the ten directives out of the header of a generated policy.

It admits a script for its nonce exactly where that is the nonce of the response.
-/
theorem generated_admits (nonce : String)
    (safe : ∀ char ∈ nonce.toList, isUrlSafe char = true) :
    parsePolicy (generated nonce).headerValue.toList = (generated nonce).directives ∧
      ∀ other : String, admitsNonce (parsePolicy (generated nonce).headerValue.toList)
        other.toList ↔ other = nonce := by
  have js : IsWord "https://js.stripe.com".toList := isWord_of_all (by decide)
  have network : IsWord "https://*.stripe.com".toList := isWord_of_all (by decide)
  have writable : (generated nonce).Writable :=
    ⟨fun char member => isUrlSafe_plain (safe char member), js, network⟩
  have read : parsePolicy (generated nonce).headerValue.toList = (generated nonce).directives := by
    rw [headerValue_eq, parsePolicy_writePolicy writable.wellFormed]
  refine ⟨read, fun other => ?_⟩
  have governing : scriptDirective (generated nonce).directives = some ["script-src".toList,
      "'self'".toList, "'nonce-".toList ++ nonce.toList ++ "'".toList,
      "https://js.stripe.com".toList, "https://*.stripe.com".toList] := rfl
  simp only [read, admitsNonce, governing, List.tail_cons, List.mem_cons, List.not_mem_nil,
    or_false]
  constructor
  · -- The other sources do not start like a nonce.
    rintro (keyword | own | js | network)
    · simp at keyword
    · exact String.toList_inj.mp (List.append_cancel_left (List.append_cancel_right own))
    · simp at js
    · simp at network
  · rintro rfl
    exact Or.inr (Or.inl rfl)

/-- A nonce of safe characters is admitted, and no other. -/
theorem generated_admits_sample :
    parsePolicy (generated "k3-Zq_9").headerValue.toList = (generated "k3-Zq_9").directives ∧
      ∀ other : String, admitsNonce (parsePolicy (generated "k3-Zq_9").headerValue.toList)
        other.toList ↔ other = "k3-Zq_9" :=
  generated_admits "k3-Zq_9" (List.all_eq_true.mp (by decide))

end CSPPolicy

end JolCommerce
