import JolCommerce.Python.Dict
import JolCommerce.Python.Text

/-! The monitor of the payment page, which watches cookies, security headers and policy violations. -/

namespace JolCommerce

open Python

/-- What an alert is about. -/
inductive AlertType where
  | headerChange
  | cookieChange
  | cspViolation
  deriving DecidableEq

/-- How bad it is. -/
inductive Severity where
  | warning
  | critical
  deriving DecidableEq

/-- A finding of the monitor. -/
structure HeaderChangeAlert where
  timestamp : String
  type : AlertType
  detail : String
  severity : Severity

/-- The state of a started monitor. -/
structure HeaderMonitor where
  alerts : List HeaderChangeAlert
  /-- The alerts posted to the monitoring endpoint. -/
  reported : List HeaderChangeAlert
  /-- The text of `document.cookie` at the last check. -/
  lastCookie : String

/-- What happens on the page while the monitor runs. -/
inductive PageEvent where
  | poll (cookie : String)
  | violation (violatedDirective blockedURI : String)
  | healthReply (headers : String → Option String)
  | healthFailure

namespace HeaderMonitor

/-- Expected security headers on payment pages, in the order in which they are checked. -/
def expectedHeaders : List (String × String) := [
  ("x-content-type-options", "nosniff"),
  ("x-frame-options", "DENY"),
  ("strict-transport-security", "max-age=63072000; includeSubDomains; preload"),
  ("referrer-policy", "strict-origin-when-cross-origin")]

/-- Known and authorized cookie names on payment pages. -/
def authorizedCookies : List String := ["session_id", "csrf_token", "__stripe_sid", "__stripe_mid"]

/-- Code points that `trim` removes: white space and line terminators of the language. -/
def isWhiteSpace (char : Char) : Bool :=
  -- Unlike the white space of Unicode, this includes the byte order mark.
  let code := char.toNat
  (9 ≤ code && code ≤ 13) || code == 0x20 || code == 0xA0 || code == 0x1680 ||
    (0x2000 ≤ code && code ≤ 0x200A) || code == 0x2028 || code == 0x2029 || code == 0x202F ||
    code == 0x205F || code == 0x3000 || code == 0xFEFF

/-- `pair.trim()`. -/
def trim (pair : List Char) : List Char := stripWith isWhiteSpace pair

/-- The callback of `parseCookies`: a pair is entered under its name, if it has one. -/
def addPair (cookies : Dict String String) (pair : List Char) : Dict String String :=
  let parts := (trim pair).splitOn '='
  let name := String.ofList (parts.headD [])
  -- What follows a second equality sign is dropped.
  let value := String.ofList (parts[1]?.getD [])
  if name = "" then cookies else cookies.set name value

/-- `parseCookies(cookieString)`. -/
def parseCookies (cookieString : String) : Dict String String :=
  (cookieString.toList.splitOn ';').foldl addPair Dict.empty

/-- `emitAlert(alert)`; only critical alerts are posted. -/
def emitAlert (monitor : HeaderMonitor) (alert : HeaderChangeAlert) : HeaderMonitor :=
  { monitor with
    alerts := monitor.alerts ++ [alert]
    reported :=
      if alert.severity = .critical then monitor.reported ++ [alert] else monitor.reported }

section Monitoring

variable (clock : Nat → String) (monitor : HeaderMonitor)

/-- The clock is read once for every alert. -/
def timestamp : String := clock monitor.alerts.length

/-- The detail of the alert for a cookie. -/
def cookieDetail (name : String) : String := "Unauthorized cookie detected: " ++ name

/-- The alert for a cookie. -/
def cookieAlert (name : String) : HeaderChangeAlert :=
  ⟨monitor.timestamp clock, .cookieChange, cookieDetail name, .warning⟩

/-- The body of the loop over the new cookies. -/
def checkCookie (oldCookies : Dict String String) (monitor : HeaderMonitor)
    (cookie : String × String) : HeaderMonitor :=
  if (oldCookies.get? cookie.1).isNone ∧ cookie.1 ∉ authorizedCookies then
    monitor.emitAlert (cookieAlert clock monitor cookie.1)
  else monitor

/-- `checkCookies()`, where `document.cookie` has the given text. -/
def checkCookies (cookie : String) : HeaderMonitor :=
  if cookie ≠ monitor.lastCookie then
    -- Only names are compared; a new value of an old cookie is no finding.
    let newCookies := parseCookies cookie
    let oldCookies := parseCookies monitor.lastCookie
    { newCookies.entries.foldl (checkCookie clock oldCookies) monitor with lastCookie := cookie }
  else monitor

/-- The listener of `monitorCSPViolations`. -/
def onViolation (violatedDirective blockedURI : String) : HeaderMonitor :=
  monitor.emitAlert ⟨monitor.timestamp clock, .cspViolation,
    "CSP violation: " ++ violatedDirective ++ " blocked " ++ blockedURI, .critical⟩

/-- The body of the loop over the expected headers. -/
def checkHeader (headers : String → Option String) (monitor : HeaderMonitor)
    (expected : String × String) : HeaderMonitor :=
  let actual := headers expected.1
  if actual ≠ some expected.2 then
    -- An empty header is called missing as well.
    let found := if actual.getD "" = "" then "missing" else actual.getD ""
    monitor.emitAlert ⟨monitor.timestamp clock, .headerChange,
      "Header \"" ++ expected.1 ++ "\" expected \"" ++ expected.2 ++ "\" but got \"" ++ found ++ "\"",
      .critical⟩
  else monitor

/-- What `verifyInitialHeaders` does with the reply of the health endpoint. -/
def onHealthReply (headers : String → Option String) : HeaderMonitor :=
  expectedHeaders.foldl (checkHeader clock headers) monitor

/-- What `verifyInitialHeaders` does where the endpoint cannot be reached. -/
def onHealthFailure : HeaderMonitor :=
  monitor.emitAlert ⟨monitor.timestamp clock, .headerChange,
    "Unable to verify security headers — health check failed", .warning⟩

/-- The reaction to an event. -/
def step : PageEvent → HeaderMonitor
  | .poll cookie => monitor.checkCookies clock cookie
  | .violation violatedDirective blockedURI => monitor.onViolation clock violatedDirective blockedURI
  | .healthReply headers => monitor.onHealthReply clock headers
  | .healthFailure => monitor.onHealthFailure clock

/-- The state after events one after another. -/
def run (events : List PageEvent) : HeaderMonitor := events.foldl (step clock) monitor

end Monitoring

/-- `start()` on a new monitor, where `document.cookie` has the given text. -/
def start (cookie : String) : HeaderMonitor where
  alerts := []
  reported := []
  lastCookie := cookie

/-- The endpoint was sent the critical alerts, all of them and in their order. -/
def Posted (monitor : HeaderMonitor) : Prop :=
  monitor.reported = monitor.alerts.filter (·.severity = .critical)

/-- An alert is posted where it has to be. -/
theorem Posted.emitAlert {monitor : HeaderMonitor} (posted : monitor.Posted)
    (alert : HeaderChangeAlert) : (monitor.emitAlert alert).Posted := by
  -- Both lists grow at their ends, the posted one only by critical alerts.
  unfold Posted at posted ⊢
  unfold HeaderMonitor.emitAlert
  by_cases critical : alert.severity = .critical
  · simp [critical, posted]
  · simp [critical, posted]

/-- So it is by every event, since all alerts are emitted in one way. -/
theorem Posted.step {monitor : HeaderMonitor} (posted : monitor.Posted) (clock : Nat → String)
    (event : PageEvent) : (monitor.step clock event).Posted := by
  cases event with
  | poll cookie =>
    show (checkCookies clock monitor cookie).Posted
    unfold checkCookies
    split
    · -- The text that is noted afterwards has no part in it.
      refine List.foldlRecOn (motive := Posted) _ _ posted ?_
      intro current posted cookie _
      unfold checkCookie
      split
      · exact posted.emitAlert _
      · exact posted
    · exact posted
  | violation violatedDirective blockedURI => exact posted.emitAlert _
  | healthReply headers =>
    refine List.foldlRecOn (motive := Posted) expectedHeaders _ posted ?_
    intro current posted expected _
    unfold checkHeader
    dsimp only
    split
    · exact posted.emitAlert _
    · exact posted
  | healthFailure => exact posted.emitAlert _

/-- What was posted in a run are the critical alerts of that run. -/
theorem posted_run (clock : Nat → String) (cookie : String) (events : List PageEvent) :
    (run clock (start cookie) events).Posted := by
  refine List.foldlRecOn (motive := Posted) events _ ?_ fun monitor posted event _ => ?_
  · rfl
  · exact posted.step clock event

end HeaderMonitor

end JolCommerce
