import JolCommerce.Frontend.HeaderMonitor
import JolCommerce.Http.Headers
import JolCommerce.Security.CspHeaders
import JolCommerce.Tenancy.Middleware

/-! The middleware around the application: which responses carry the security headers. -/

namespace JolCommerce

open Python Http TenantResolutionMiddleware

/-- A response: its status, and its header fields. -/
structure HttpResponse where
  statusCode : Nat
  headers : Headers

/-- The response once the headers of a fresh policy are set on it. -/
def HttpResponse.secured (response : HttpResponse) (nonce : String) : HttpResponse where
  statusCode := response.statusCode
  headers := response.headers.update (CSPPolicy.generated nonce).securityHeaders.entries

/-- `JSONResponse(status_code, content)` with a body of the given length. -/
def jsonResponse (statusCode length : Nat) : HttpResponse :=
  ⟨statusCode, [("content-length", String.ofList (natText length)),
    ("content-type", "application/json")]⟩

/-- What is sent where an exception leaves the application. -/
def internalServerError : HttpResponse :=
  ⟨500, [("content-length", "21"), ("content-type", "text/plain; charset=utf-8")]⟩

section Stack

variable {State : Type} (registry : TenantRegistry) (nonce : String)
  -- How long the rendered body of a refusal with some detail is.
  (refusalLength : String → Nat)
  (callNext : Request → EStateM PyError (Option TenantContext × State) HttpResponse)

/-- `SecurityHeadersMiddleware.dispatch(request, call_next)`, where the policy draws its nonce. -/
def securityHeadersDispatch (request : Request) :
    EStateM PyError (Option TenantContext × State) HttpResponse := do
  let response ← callNext request
  -- Nothing is set where the application raised.
  return response.secured nonce

/-- The response to a request: tenant resolution outside, the security headers inside. -/
def respond (request : Request) (state : Option TenantContext × State) : HttpResponse :=
  match (dispatch registry (securityHeadersDispatch nonce callNext) request).run state with
  | .ok (.answered response) _ => response
  | .ok (.refused statusCode detail) _ => jsonResponse statusCode (refusalLength detail)
  | .error _ _ => internalServerError

/-- The state the application starts in, where the request gets that far. -/
def starts (request : Request) (state : Option TenantContext × State) :
    Option (Option TenantContext × State) :=
  if exempt request then some state
  else match resolve registry request with
  | .ok context => some (some context, state.2)
  | .error _ => none

/-- The application was reached, and returned a response. -/
def Answers (request : Request) (state : Option TenantContext × State) : Prop :=
  ∃ start response after, starts registry request state = some start ∧
    (callNext request).run start = .ok response after

variable {registry nonce refusalLength callNext} {request : Request}
  {state : Option TenantContext × State}

/-- A response of the application carries the headers of a policy. -/
theorem respond_answers (answers : Answers registry callNext request state) :
    ∃ response : HttpResponse, respond registry nonce refusalLength callNext request state =
      response.secured nonce := by
  obtain ⟨start, response, after, reached, returned⟩ := answers
  refine ⟨response, ?_⟩
  have sets : (securityHeadersDispatch nonce callNext request).run start =
      .ok (response.secured nonce) after := by
    simp only [securityHeadersDispatch, EStateM.run_bind, returned]
    rfl
  unfold starts at reached
  unfold respond dispatch
  by_cases free : exempt request = true
  · rw [if_pos free] at reached
    cases reached
    simp only [free, if_true, EStateM.run_bind, sets]
    rfl
  · rw [if_neg free] at reached
    -- The tenant was bound, and it is unbound again after the response was made.
    cases resolved : resolve registry request with
    | error error =>
      rw [resolved] at reached
      cases reached
    | ok context =>
      rw [resolved] at reached
      cases reached
      simp only [free, if_false, EStateM.run_bind, EStateM.run_modify, run_tryFinally, sets,
        Bool.false_eq_true]

/-- Every other response has two headers, and none of a policy. -/
theorem respond_bare (bare : ¬Answers registry callNext request state) :
    ∃ statusCode length kind, respond registry nonce refusalLength callNext request state =
      ⟨statusCode, [("content-length", length), ("content-type", kind)]⟩ := by
  -- The request was refused, or the application raised, and both are answered further out.
  have raises : ∀ start, starts registry request state = some start →
      ∃ error after, (securityHeadersDispatch nonce callNext request).run start =
        .error error after := by
    intro start reached
    cases returned : (callNext request).run start with
    | ok response after => exact absurd ⟨start, response, after, reached, returned⟩ bare
    | error error after =>
      exact ⟨error, after, by simp only [securityHeadersDispatch, EStateM.run_bind, returned]⟩
  unfold starts at raises
  unfold respond dispatch
  by_cases free : exempt request = true
  · rw [if_pos free] at raises
    obtain ⟨error, after, raised⟩ := raises state rfl
    simp only [free, if_true, EStateM.run_bind, raised]
    exact ⟨_, _, _, rfl⟩
  · rw [if_neg free] at raises
    rcases resolve_cases registry request with ⟨context, -, -, resolved⟩ | ⟨message, refused⟩
    · rw [resolved] at raises
      obtain ⟨error, after, raised⟩ := raises _ rfl
      simp only [free, if_false, resolved, EStateM.run_bind, EStateM.run_modify, run_tryFinally,
        raised, Bool.false_eq_true]
      exact ⟨_, _, _, rfl⟩
    · simp only [free, if_false, refused, Bool.false_eq_true]
      exact ⟨_, _, _, rfl⟩

end Stack

end JolCommerce
