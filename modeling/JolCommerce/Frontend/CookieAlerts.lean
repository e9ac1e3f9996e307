import JolCommerce.Frontend.HeaderMonitor
import JolCommerce.Python.Fields
import JolCommerce.Run.RisingEdge
import Mathlib.Data.List.Induction

/-! Which cookies the monitor of the payment page raises alerts for. -/

namespace JolCommerce

open Python Run

/-- The cookie text that an event shows to the monitor. -/
def PageEvent.cookie? : PageEvent → Option String
  | .poll cookie => some cookie
  | _ => none

/-- The texts of `document.cookie` that the polling check sees. -/
def PageEvent.polls (events : List PageEvent) : List String := events.filterMap PageEvent.cookie?

namespace HeaderMonitor

/-- A pair carries the name before its first equality sign, white space around the pair aside. -/
def PairNames (pair : List Char) (name : String) : Prop :=
  ∃ lead rest trail, pair = lead ++ (name.toList ++ rest) ++ trail ∧
    (∀ char ∈ lead, isWhiteSpace char = true) ∧ (∀ char ∈ trail, isWhiteSpace char = true) ∧
    Trimmed isWhiteSpace (name.toList ++ rest) ∧ FieldEnd '=' rest ∧ '=' ∉ name.toList

/-- A cookie text carries a name in one of its pairs, which semicolons separate. -/
def NamesCookie (cookie name : String) : Prop :=
  name ≠ "" ∧ ∃ before pair after, cookie.toList = before ++ pair ++ after ∧
    FieldStart ';' before ∧ FieldEnd ';' after ∧ ';' ∉ pair ∧ PairNames pair name

/-- The name of a pair is the first field of the trimmed pair. -/
theorem pairNames_iff {pair : List Char} {name : String} :
    PairNames pair name ↔ String.ofList (firstField '=' (trim pair)) = name := by
  constructor
  · intro names
    obtain ⟨lead, rest, trail, rfl, leading, trailing, trimmed, stop, whole⟩ := names
    rw [trim, stripWith_append leading trailing trimmed, firstField_eq stop whole,
      String.ofList_toList]
  · intro same
    -- The pair is cut twice: at its white space, and at the first equality sign of what is left.
    obtain ⟨lead, trail, cut, leading, trailing, trimmed⟩ := exists_stripWith isWhiteSpace pair
    obtain ⟨rest, split, stop, whole⟩ := exists_firstField '=' (trim pair)
    have letters : name.toList = firstField '=' (trim pair) := by
      rw [← same, String.toList_ofList]
    rw [← letters] at split whole
    refine ⟨lead, rest, trail, ?_, leading, trailing, ?_, stop, whole⟩
    · rw [← split]
      exact cut
    · rw [← split]
      exact trimmed

/-- Entering a pair adds its name, unless that is empty. -/
theorem isSome_addPair {cookies : Dict String String} {pair : List Char} {name : String} :
    ((addPair cookies pair).get? name).isSome ↔
      (cookies.get? name).isSome ∨ (name ≠ "" ∧ PairNames pair name) := by
  -- The destructured first part is always there.
  have first : ((trim pair).splitOn '=').headD [] = firstField '=' (trim pair) := by
    rw [List.headD_eq_head?_getD, List.head?_eq_some_head (List.splitOn_ne_nil '=' (trim pair))]
    rfl
  rw [pairNames_iff, addPair, first]
  generalize String.ofList (firstField '=' (trim pair)) = found
  by_cases empty : found = ""
  · subst empty
    -- A pair without a name is passed over.
    simp only [if_true]
    exact ⟨Or.inl, fun either => either.elim id fun both => absurd both.2.symm both.1⟩
  · simp only [if_neg empty, Dict.get?_set]
    by_cases same : name = found
    · subst same
      simp [empty]
    · have other : ¬found = name := fun equal => same equal.symm
      simp [same, other]

/-- The names in the map are those that the cookie text carries. -/
theorem isSome_parseCookies {cookie name : String} :
    ((parseCookies cookie).get? name).isSome ↔ NamesCookie cookie name := by
  -- The induction over the pairs is on the last of them.
  have entered : ∀ pairs : List (List Char),
      ((pairs.foldl addPair Dict.empty).get? name).isSome ↔
        name ≠ "" ∧ ∃ pair ∈ pairs, PairNames pair name := by
    intro pairs
    induction pairs using List.reverseRecOn with
    | nil => simp
    | append_singleton earlier pair ih =>
      rw [List.foldl_append, List.foldl_cons, List.foldl_nil, isSome_addPair, ih]
      simp only [List.mem_append, List.mem_singleton, or_and_right, exists_or, exists_eq_left]
      exact and_or_left.symm
  rw [parseCookies, entered, NamesCookie]
  refine and_congr_right fun _ => ?_
  constructor
  · intro found
    obtain ⟨pair, member, names⟩ := found
    obtain ⟨before, after, text, start, stop, whole⟩ := (mem_splitOn_iff ';' _ _).mp member
    exact ⟨before, pair, after, text, start, stop, whole, names⟩
  · intro found
    obtain ⟨before, pair, after, text, start, stop, whole, names⟩ := found
    exact ⟨pair, (mem_splitOn_iff ';' _ _).mpr ⟨before, after, text, start, stop, whole⟩, names⟩

/-- An alert that reports a cookie by its name. -/
def Warns (alert : HeaderChangeAlert) (name : String) : Prop :=
  alert.type = .cookieChange ∧ alert.detail = cookieDetail name

/-- The monitor has such an alert. -/
def Warned (monitor : HeaderMonitor) (name : String) : Prop :=
  ∃ alert ∈ monitor.alerts, Warns alert name

section Steps

variable {clock : Nat → String} {monitor : HeaderMonitor} {name : String}

/-- An alert is there besides those before it. -/
theorem warned_emitAlert {alert : HeaderChangeAlert} :
    (monitor.emitAlert alert).Warned name ↔ monitor.Warned name ∨ Warns alert name := by
  simp [Warned, emitAlert, or_and_right, exists_or]

/-- Two names are not mistaken for each other. -/
theorem warns_cookieAlert {other : String} :
    Warns (cookieAlert clock monitor other) name ↔ other = name := by
  constructor
  · intro warns
    exact (String.append_right_inj _).mp warns.2
  · intro same
    exact ⟨rfl, congrArg cookieDetail same⟩

/-- The loop warns of the names that are new and not on the list. -/
theorem warned_checkCookies_loop (oldCookies : Dict String String)
    (newCookies : List (String × String)) :
    (newCookies.foldl (checkCookie clock oldCookies) monitor).Warned name ↔
      monitor.Warned name ∨ (name ∈ newCookies.map Prod.fst ∧ (oldCookies.get? name).isNone ∧
        name ∉ authorizedCookies) := by
  -- One name after the other; what is known and authorized stays the same throughout.
  induction newCookies generalizing monitor with
  | nil => simp
  | cons cookie rest ih =>
    have here : (checkCookie clock oldCookies monitor cookie).Warned name ↔
        monitor.Warned name ∨ (cookie.1 = name ∧ (oldCookies.get? name).isNone ∧
          name ∉ authorizedCookies) := by
      unfold checkCookie
      split
      · rename_i new
        rw [warned_emitAlert, warns_cookieAlert]
        refine or_congr_right ⟨fun same => ⟨same, same ▸ new⟩, And.left⟩
      · rename_i known
        refine ⟨Or.inl, fun either => either.elim id fun new => ?_⟩
        exact absurd (new.1 ▸ new.2) known
    rw [List.foldl_cons, ih, here, List.map_cons, List.mem_cons, eq_comm (a := name)]
    tauto

/-- A check warns of the names of the new text that are not in the text before it nor on the list. -/
theorem warned_checkCookies {cookie : String} :
    (checkCookies clock monitor cookie).Warned name ↔
      monitor.Warned name ∨ (NamesCookie cookie name ∧ ¬NamesCookie monitor.lastCookie name ∧
        name ∉ authorizedCookies) := by
  unfold checkCookies
  by_cases changed : cookie ≠ monitor.lastCookie
  · rw [if_pos changed]
    -- Membership in the two maps is carrying the name in the two texts.
    have listed : name ∈ (parseCookies cookie).entries.map Prod.fst ↔ NamesCookie cookie name := by
      rw [← isSome_parseCookies, Option.isSome_iff_exists]
      simp [← Dict.mem_entries_iff]
    have absent : ((parseCookies monitor.lastCookie).get? name).isNone ↔
        ¬NamesCookie monitor.lastCookie name := by
      rw [← isSome_parseCookies]
      simp
    rw [← listed, ← absent]
    exact warned_checkCookies_loop _ _
  · -- An unchanged text has no new names.
    rw [if_neg changed]
    have same : cookie = monitor.lastCookie := not_not.mp changed
    rw [same]
    tauto

/-- The check notes the text it has seen. -/
theorem lastCookie_checkCookies {cookie : String} :
    (checkCookies clock monitor cookie).lastCookie = cookie := by
  unfold checkCookies
  by_cases changed : cookie ≠ monitor.lastCookie
  · rw [if_pos changed]
  · rw [if_neg changed]
    exact (not_not.mp changed).symm

/-- Nothing about cookies changes: neither the alerts that name them nor the text noted. -/
def SameCookies (before after : HeaderMonitor) : Prop :=
  (∀ name, after.Warned name ↔ before.Warned name) ∧ after.lastCookie = before.lastCookie

/-- Alerts of other types do not concern cookies. -/
theorem sameCookies_emitAlert {alert : HeaderChangeAlert} (other : alert.type ≠ .cookieChange) :
    SameCookies monitor (monitor.emitAlert alert) := by
  refine ⟨fun name => ?_, rfl⟩
  rw [warned_emitAlert]
  exact or_iff_left fun warns => other warns.1

/-- Nor does the check of the headers. -/
theorem sameCookies_onHealthReply (headers : String → Option String) :
    SameCookies monitor (onHealthReply clock monitor headers) := by
  unfold onHealthReply
  -- Header by header, whichever headers are expected.
  generalize expectedHeaders = expected
  induction expected generalizing monitor with
  | nil => exact ⟨fun _ => Iff.rfl, rfl⟩
  | cons header rest ih =>
    have here : SameCookies monitor (checkHeader clock headers monitor header) := by
      unfold checkHeader
      dsimp only
      split
      · exact sameCookies_emitAlert (by simp)
      · exact ⟨fun _ => Iff.rfl, rfl⟩
    exact ⟨fun name => (ih.1 name).trans (here.1 name), ih.2.trans here.2⟩

/-- Only a poll concerns cookies. -/
theorem step_cases (clock : Nat → String) (monitor : HeaderMonitor) (event : PageEvent) :
    (∃ cookie, event = .poll cookie ∧ step clock monitor event = checkCookies clock monitor cookie) ∨
      (event.cookie? = none ∧ SameCookies monitor (step clock monitor event)) := by
  cases event with
  | poll cookie => exact Or.inl ⟨cookie, rfl, rfl⟩
  | violation violatedDirective blockedURI =>
    exact Or.inr ⟨rfl, sameCookies_emitAlert (by simp)⟩
  | healthReply headers => exact Or.inr ⟨rfl, sameCookies_onHealthReply headers⟩
  | healthFailure => exact Or.inr ⟨rfl, sameCookies_emitAlert (by simp)⟩

/-- A run warns of the names outside the list that appear from one text to the next. -/
theorem warned_run (clock : Nat → String) (monitor : HeaderMonitor) (events : List PageEvent) :
    (run clock monitor events).Warned name ↔ monitor.Warned name ∨
      (name ∉ authorizedCookies ∧
        Rises (NamesCookie · name) monitor.lastCookie (PageEvent.polls events)) := by
  -- The text noted at each poll is what the next poll is compared with.
  induction events generalizing monitor with
  | nil => simp [run, PageEvent.polls, Rises]
  | cons event rest ih =>
    have later := ih (step clock monitor event)
    rcases step_cases clock monitor event with ⟨cookie, rfl, checked⟩ | ⟨other, same⟩
    · rw [checked, warned_checkCookies, lastCookie_checkCookies] at later
      have seen : PageEvent.polls (.poll cookie :: rest) = cookie :: PageEvent.polls rest := rfl
      rw [run, List.foldl_cons, checked, seen, Rises]
      rw [run] at later
      rw [later]
      tauto
    · have seen : PageEvent.polls (event :: rest) = PageEvent.polls rest := by
        simp [PageEvent.polls, other]
      rw [same.1, same.2] at later
      rw [seen]
      exact later

end Steps

/--
Every cookie outside the list has an alert that names it, whether it is there at the start or seen
by a poll, and no cookie on the list has one.
-/
def AlertsComplete (clock : Nat → String) (initial : String) (events : List PageEvent) : Prop :=
  (∀ name, name ∉ authorizedCookies →
    (∃ cookie ∈ initial :: PageEvent.polls events, NamesCookie cookie name) →
    ∃ alert ∈ (run clock (start initial) events).alerts, Warns alert name) ∧
  ∀ name ∈ authorizedCookies, ∀ alert ∈ (run clock (start initial) events).alerts,
    ¬Warns alert name

/--
The alerts are complete exactly when cookies that are there at the start disappear and return.

The text at the start is only what later ones are compared with: a cookie in it that is not on the
list must be missing from some poll and back in a later one.
-/
theorem alertsComplete_iff (clock : Nat → String) (initial : String) (events : List PageEvent) :
    AlertsComplete clock initial events ↔
      ∀ name, name ∉ authorizedCookies → NamesCookie initial name →
        ∃ absent present, [absent, present].Sublist (PageEvent.polls events) ∧
          ¬NamesCookie absent name ∧ NamesCookie present name := by
  have warned : ∀ name, (run clock (start initial) events).Warned name ↔
      name ∉ authorizedCookies ∧ Rises (NamesCookie · name) initial (PageEvent.polls events) := by
    intro name
    rw [warned_run]
    simp [Warned, start]
  -- Without alerts at the start, the alerts are those of the run.
  constructor
  · intro complete name unauthorized initially
    have alerted := complete.1 name unauthorized ⟨initial, List.mem_cons_self, initially⟩
    exact (rises_iff_sublist (NamesCookie · name) initially).mp ((warned name).mp alerted).2
  · intro returns
    constructor
    · intro name unauthorized occurs
      refine (warned name).mpr ⟨unauthorized, ?_⟩
      by_cases initially : NamesCookie initial name
      · exact (rises_iff_sublist (NamesCookie · name) initially).mpr
          (returns name unauthorized initially)
      · -- It is in a poll then, and every such name appears at some point.
        obtain ⟨cookie, member, names⟩ := occurs
        rcases List.mem_cons.mp member with rfl | polled
        · exact absurd names initially
        · exact (rises_iff_exists (NamesCookie · name) initially).mpr ⟨cookie, polled, names⟩
    · intro name authorized alert member warns
      exact ((warned name).mp ⟨alert, member, warns⟩).1 authorized

/-- A cookie that is there at the start and stays has no alert. -/
theorem evil_unnoticed :
    ¬AlertsComplete (fun _ => "2026-08-12T00:00:00.000Z") "evil=1" [.poll "evil=1"] := by
  intro complete
  -- The text does carry the name, and the poll finds the text unchanged.
  have trimmed : Trimmed isWhiteSpace ("evil".toList ++ ['=', '1']) := by
    simp [Trimmed, isWhiteSpace]
  have pair : PairNames "evil=1".toList "evil" :=
    ⟨[], ['=', '1'], [], by simp, by simp, by simp, trimmed, Or.inr ⟨['1'], rfl⟩, by simp⟩
  have names : NamesCookie "evil=1" "evil" :=
    ⟨by simp, [], "evil=1".toList, [], by simp, Or.inl rfl, Or.inl rfl, by simp, pair⟩
  have unauthorized : "evil" ∉ authorizedCookies := by simp [authorizedCookies]
  obtain ⟨alert, member, -⟩ :=
    complete.1 "evil" unauthorized ⟨"evil=1", List.mem_cons_self, names⟩
  simp [run, step, checkCookies, start] at member

end HeaderMonitor

end JolCommerce
