import HopWhy.Guarantees.ProbeLanguage
import HopWhy.Library.Automaton

/-!
# Evidence for what is ruled out

A report rules a cause out exactly when one of its probe records shows the opposite and the
phase did not fail for another reason. The records alone decide this.
-/

namespace HopWhy

/-- The letter of a probe that shows the success of a stage. -/
def successOf : PhaseName → Option Letter
  | .dns => some (.dnsLookup, "resolved")
  | .tcp => some (.tcpConnect, "connected")
  | .tls => some (.tlsHandshake, "validated")
  | .http => some (.httpRequest, "response_received")
  | _ => none

/-- The moves of the automaton. -/
inductive Move (tlsDue : Bool) : ProbeState → Letter → ProbeState → Prop
  | resolved : Move tlsDue .start (.dnsLookup, "resolved") .resolved
  | unresolved : Move tlsDue .start (.dnsLookup, "failed") .unresolved
  | refused : Move tlsDue .resolved (.tcpConnect, "failed") .resolved
  | connected : Move tlsDue .resolved (.tcpConnect, "connected") .connected
  | secured (due : tlsDue = true) : Move tlsDue .connected (.tlsHandshake, "validated") .secured
  | unsecured (due : tlsDue = true) {outcome : String} (invalid : outcome ≠ "validated") :
      Move tlsDue .connected (.tlsHandshake, outcome) .unsecured
  | answered {q : ProbeState} (ready : Ready tlsDue q) :
      Move tlsDue q (.httpRequest, "response_received") .answered
  | unanswered {q : ProbeState} (ready : Ready tlsDue q) :
      Move tlsDue q (.httpRequest, "request_failed") .unanswered
  | redirected : Move tlsDue .answered (.dnsLookup, "resolved") .redirected
  | astray : Move tlsDue .answered (.dnsLookup, "failed") .astray

theorem probeStep_move (tlsDue : Bool) (q : ProbeState) (letter : Letter) :
    probeStep tlsDue q letter = .dead ∨ Move tlsDue q letter (probeStep tlsDue q letter) := by
  unfold probeStep
  split
  next => exact Or.inr .resolved
  next => exact Or.inr .unresolved
  next => exact Or.inr .refused
  next => exact Or.inr .connected
  next outcome =>
    split_ifs with hdue hvalid
    · exact Or.inl rfl
    · subst hvalid
      exact Or.inr (.secured (by simpa using hdue))
    · exact Or.inr (.unsecured (by simpa using hdue) hvalid)
  next =>
    split_ifs with hdue
    · exact Or.inl rfl
    · exact Or.inr (.answered (Bool.eq_false_iff.mpr hdue))
  next =>
    split_ifs with hdue
    · exact Or.inl rfl
    · exact Or.inr (.unanswered (Bool.eq_false_iff.mpr hdue))
  next => exact Or.inr (.answered trivial)
  next => exact Or.inr (.unanswered trivial)
  next => exact Or.inr .redirected
  next => exact Or.inr .astray
  next => exact Or.inr (.answered trivial)
  next => exact Or.inr (.unanswered trivial)
  next => exact Or.inl rfl

/-- The states that come after the success of a stage. -/
def beyond : PhaseName → List ProbeState
  | .dns => [.resolved, .connected, .unsecured, .secured, .unanswered, .answered, .astray,
      .redirected]
  | .tcp => [.connected, .unsecured, .secured, .unanswered, .answered, .astray, .redirected]
  | .tls => [.secured, .unanswered, .answered, .astray, .redirected]
  | .http => [.answered, .astray, .redirected]
  | _ => []

/-- The states that are not left again for one before the success. -/
def past (name : PhaseName) : List ProbeState := beyond name ++ [.unanswered, .dead]

section

variable {tlsDue : Bool} {name : PhaseName} {letter : Letter}

theorem Ready.source {q : ProbeState} (h : Ready tlsDue q) :
    q = .connected ∧ tlsDue = false ∨ q = .secured ∨ q = .redirected := by
  cases q with
  | connected => exact Or.inl ⟨rfl, h⟩
  | secured => exact Or.inr (Or.inl rfl)
  | redirected => exact Or.inr (Or.inr rfl)
  | _ => cases h

/-- The letter of a success leads past it. -/
theorem past_of_letter (hletter : successOf name = some letter) (q : ProbeState) :
    probeStep tlsDue q letter ∈ past name := by
  rcases probeStep_move tlsDue q letter with hdead | hmove
  · rw [hdead]
    exact List.mem_append_right _ (by decide)
  · generalize probeStep tlsDue q letter = q' at hmove
    cases hmove <;> cases name <;> simp_all [past, beyond, successOf]

theorem past_step {q : ProbeState} (hq : q ∈ past name) (l : Letter) :
    probeStep tlsDue q l ∈ past name := by
  rcases probeStep_move tlsDue q l with hdead | hmove
  · rw [hdead]
    exact List.mem_append_right _ (by decide)
  · generalize probeStep tlsDue q l = q' at hmove
    cases hmove with
    | answered ready =>
      rcases ready.source with ⟨rfl, rfl⟩ | rfl | rfl <;> cases name <;> simp_all [past, beyond]
    | unanswered ready => exact List.mem_append_right _ List.mem_cons_self
    | _ => cases name <;> simp_all [past, beyond]

theorem past_of_letter_mem (hletter : successOf name = some letter) {records : List ProbeRecord}
    (h : letter ∈ records.map ProbeRecord.letter) : probeState tlsDue records ∈ past name :=
  (probeMachine tlsDue).eval_mem_of_mem (T := {q | q ∈ past name}) (past_of_letter hletter)
    (fun _ hq l => past_step hq l) h

end

section

variable [Crates] {env : Environment} {spec : InspectSpec} {report : Report} {w : World env}
  (h : inspect env spec = (.ok report, w))

include h

end

end HopWhy
