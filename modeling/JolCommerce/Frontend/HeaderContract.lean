import JolCommerce.Api.SecurityHeaders

/-! What the monitor of the payment page finds in the responses of the server. -/

namespace JolCommerce

open Python Http TenantResolutionMiddleware

namespace HeaderMonitor

section Checks

variable (clock : Nat → String) (monitor : HeaderMonitor)

/-- Headers that are all as expected raise no alert. -/
theorem onHealthReply_expected {headers : String → Option String}
    (matching : ∀ expected ∈ expectedHeaders, headers expected.1 = some expected.2) :
    monitor.onHealthReply clock headers = monitor := by
  unfold onHealthReply
  refine List.foldlRecOn (motive := fun current => current = monitor) expectedHeaders _ rfl ?_
  rintro current rfl expected member
  simp [checkHeader, matching expected member]

/-- The alert for a header that is missing. -/
def missingAlert (timestamp : String) (expected : String × String) : HeaderChangeAlert :=
  ⟨timestamp, .headerChange, "Header \"" ++ expected.1 ++ "\" expected \"" ++ expected.2 ++
    "\" but got \"" ++ "missing" ++ "\"", .critical⟩

/-- The alerts for headers that are all missing, the clock read for each of them. -/
def missingAlerts (first : Nat) : List (String × String) → List HeaderChangeAlert
  | [] => []
  | expected :: rest => missingAlert (clock first) expected :: missingAlerts (first + 1) rest

/-- Headers that are all missing raise one critical alert each, and all are posted. -/
theorem onHealthReply_missing {headers : String → Option String}
    (missing : ∀ expected ∈ expectedHeaders, headers expected.1 = none) :
    monitor.onHealthReply clock headers = { monitor with
      alerts := monitor.alerts ++ missingAlerts clock monitor.alerts.length expectedHeaders
      reported := monitor.reported ++ missingAlerts clock monitor.alerts.length expectedHeaders } := by
  -- The same holds for every list of expected headers, by induction on it.
  have general : ∀ (expected : List (String × String)) (monitor : HeaderMonitor),
      (∀ header ∈ expected, headers header.1 = none) →
      expected.foldl (checkHeader clock headers) monitor = { monitor with
        alerts := monitor.alerts ++ missingAlerts clock monitor.alerts.length expected
        reported := monitor.reported ++ missingAlerts clock monitor.alerts.length expected } := by
    intro expected
    induction expected with
    | nil =>
      intro monitor _
      simp [missingAlerts]
    | cons header rest ih =>
      intro monitor absent
      obtain ⟨here, later⟩ := List.forall_mem_cons.mp absent
      have alerted : checkHeader clock headers monitor header =
          monitor.emitAlert (missingAlert (clock monitor.alerts.length) header) := by
        simp [checkHeader, here, missingAlert, timestamp]
      rw [List.foldl_cons, alerted, ih _ later]
      simp [emitAlert, missingAlert, missingAlerts]
  exact general expectedHeaders monitor missing

end Checks

section Contract

variable {State : Type} (registry : TenantRegistry) (nonce : String) (refusalLength : String → Nat)
  (callNext : Request → EStateM PyError (Option TenantContext × State) HttpResponse)
  (request : Request) (state : Option TenantContext × State)

end Contract

end HeaderMonitor

end JolCommerce
