import HopWhy.Guarantees.Accuracy

/-!
# Rehearsed runs

The scripts of the corpus leave no diagnosis out. The report of a run over any network
tells its course, and the script of this course, played without a network, is diagnosed
with the same verdicts.
-/

namespace HopWhy

/-- The observations that lead to a course. -/
def Course.script : Course → ScenarioObservations
  | .unresolved cause => {
      dns := Corpus.publicDns (Corpus.errorStage cause.code cause.retryable)
      tcp := Corpus.successStage
      tls := Corpus.successStage
      http := Corpus.httpSuccess [] }
  | .unconnected cause => {
      dns := Corpus.publicDns Corpus.successStage
      tcp := Corpus.errorStage cause.code cause.retryable
      tls := Corpus.successStage
      http := Corpus.httpSuccess [] }
  | .unsecured cause => {
      dns := Corpus.publicDns Corpus.successStage
      tcp := Corpus.successStage
      tls := Corpus.errorStage cause.code cause.retryable
      http := Corpus.httpSuccess [] }
  | .unanswered cause => {
      dns := Corpus.publicDns Corpus.successStage
      tcp := Corpus.successStage
      tls := Corpus.successStage
      http := Corpus.httpError cause.code cause.retryable }
  | .answered statuses stopped => {
      dns := Corpus.publicDns Corpus.successStage
      tcp := Corpus.successStage
      tls := Corpus.successStage
      http := match stopped with
        | some cause => { Corpus.httpRedirectError cause.code cause.retryable with statuses }
        | none => Corpus.httpSuccess statuses }

/-- The TLS stage fails only where it is called. -/
def Course.Allowed (course : Course) (passage : Passage) : Prop :=
  ∀ cause, course = .unsecured cause → passage.probed = true

theorem course_script {course : Course} {passage : Passage} (h : course.Allowed passage) :
    course.script.course passage.probed = course := by
  cases course with
  | unsecured cause =>
    rw [h cause rfl]
    rfl
  | answered statuses stopped =>
    rcases stopped with _ | cause <;> cases passage.probed <;> rfl
  | _ => cases passage.probed <;> rfl

def Report.course (report : Report) : Course :=
  let statuses := report.http.map HttpHop.status
  match report.failedAt, report.phases.findSome? fun p => p.verdict.cause with
  | some .dns, some cause => .unresolved cause
  | some .tcp, some cause => .unconnected cause
  | some .tls, some cause => .unsecured cause
  | some .http, some cause => .unanswered cause
  | _, stopped => .answered statuses stopped

theorem tlsVerdict_cause (passage : Passage) : passage.tlsVerdict.cause = none := by
  unfold Passage.tlsVerdict
  split_ifs <;> rfl

theorem cause_of_follows {passage : Passage} {course : Course} {phases : List Phase}
    (h : Follows passage course phases) :
    (phases.findSome? fun p => p.verdict.cause) = course.failure.map Prod.snd := by
  have hmap : (phases.findSome? fun p => p.verdict.cause) =
      (phases.map Phase.verdict).findSome? PhaseVerdict.cause := (List.findSome?_map).symm
  rw [hmap, h]
  cases course with
  | unanswered cause =>
    simp [openingVerdicts, Course.row, passedVerdict, failedVerdict, tlsVerdict_cause,
      Course.failure]
  | answered statuses stopped =>
    rcases stopped with _ | cause
    · simp only [openingVerdicts, Course.row, Course.redirectVerdict]
      split_ifs <;>
        simp [passedVerdict, skippedVerdict, tlsVerdict_cause, Course.failure]
    · simp [openingVerdicts, Course.row, Course.redirectVerdict, passedVerdict, failedVerdict,
        tlsVerdict_cause, Course.failure]
  | _ => rfl

/-- A report tells its course. -/
theorem course_of_diagnosed {passage : Passage} {course : Course} {report : Report}
    (h : Diagnosed passage course report) : report.course = course := by
  unfold Report.course
  rw [h.failedAt, cause_of_follows h.phases, h.statuses]
  cases course with
  | answered statuses stopped =>
    rcases stopped with _ | cause
    · rfl
    · rfl
  | _ => rfl

variable [Crates]

/-- Of any backend it is known that it stays in the allowed courses. -/
theorem keeps_allowed {σ : Type} [Clock σ] (backend : DiagnosticBackend σ)
    (options : InspectionOptions) (passage : Passage) :
    Keeps backend options passage (fun _ _ => True) (fun course _ => course.Allowed passage) := by
  have hother : ∀ {α : Type} (m : Prog (Session σ) AppError α) (s : Session σ)
      {Q : α → Session σ → Prop} {E : AppError → Session σ → Prop},
      (∀ a t, Q a t) → (∀ error t, E error t) → Prog.Post Q E (m s) := by
    intro α m s Q E hok herror
    rcases m s with ⟨error | a, t⟩
    · exact herror error t
    · exact hok a t
  constructor
  case tick => exact fun _ => trivial
  case tick_ended => exact fun h => h
  case resolves =>
    intro proxy s hs
    apply hother
    · intro r t
      split_ifs
      rintro cause ⟨⟩
    · rintro error t cause ⟨⟩
  case connects =>
    intro addresses s hs
    apply hother
    · exact fun _ _ => trivial
    · rintro error t cause ⟨⟩
  case secures =>
    intro hprobed address host s hs
    apply hother
    · exact fun _ _ => trivial
    · exact fun _ _ _ _ => hprobed
  case answers =>
    intro url proxy address s hs
    apply hother
    · rintro r t cause ⟨⟩
    · rintro error t cause ⟨⟩

/-- The same conclusions, from the same phases. -/
structure SameDiagnosis (report report' : Report) : Prop where
  verdicts : report.phases.map Phase.verdict = report'.phases.map Phase.verdict
  statuses : report.http.map HttpHop.status = report'.http.map HttpHop.status
  failedAt : report.failedAt = report'.failedAt
  hypotheses : report.hypotheses = report'.hypotheses
  ruledOut : report.ruledOut = report'.ruledOut
  omissions : report.omissions = report'.omissions

omit [Crates] in
theorem Diagnosed.same {passage : Passage} {course : Course} {report report' : Report}
    (h : Diagnosed passage course report) (h' : Diagnosed passage course report') :
    SameDiagnosis report report' where
  verdicts := h.phases.trans h'.phases.symm
  statuses := h.statuses.trans h'.statuses.symm
  failedAt := h.failedAt.trans h'.failedAt.symm
  hypotheses := h.hypotheses.trans h'.hypotheses.symm
  ruledOut := h.ruledOut.trans h'.ruledOut.symm
  omissions := h.omissions.trans h'.omissions.symm

/-- The same request with probes for every stage. -/
def InspectSpec.rehearsal (spec : InspectSpec) : InspectSpec :=
  { spec with options := { spec.options with maxProbes := 64 } }

omit [Crates] in
theorem validateOptions_rehearsal {spec : InspectSpec}
    (h : validateOptions spec.options = .ok ()) :
    validateOptions spec.rehearsal.options = .ok () := by
  unfold validateOptions at h
  split_ifs at h with hbudget hprobes haddresses hredirects hbody
  dsimp only [validateOptions, InspectSpec.rehearsal]
  rw [if_neg (not_not.mpr hbudget), if_neg (by decide), if_neg (not_not.mpr haddresses),
    if_neg hredirects, if_neg hbody]

/-- A rehearsal opens like the run. -/
def Opening.rehearsal {envVar : String → Option String} {spec : InspectSpec}
    (o : Opening envVar spec) : Opening envVar spec.rehearsal where
  parsed := o.parsed
  proxy := o.proxy
  valid := validateOptions_rehearsal o.valid
  accepts := o.accepts
  selects := o.selects

/-- Every run is one of the scripts: the script of the course that its report tells is
diagnosed like the run. -/
theorem inspect_rehearsed {env : Environment} {spec : InspectSpec} {report : Report}
    {w : World env} (h : inspect env spec = (.ok report, w)) {time : ℕ → ℕ}
    (htime : Timely spec.options time) (wallClock : ℤ) :
    ∃ rehearsed w', inspectWithBackend (scriptBackend report.course.script) env.envVar wallClock
        spec.rehearsal (.start time) = (.ok rehearsed, w') ∧ SameDiagnosis rehearsed report := by
  obtain ⟨o, ho⟩ := inspectWithBackend_eq_ok (liveBackend env) h
  obtain ⟨course, t, hallowed, hlive, -⟩ := o.course
    (keeps_allowed (liveBackend env) spec.options o.passage) env.wallClock
      (w := World.start env) trivial
  rw [congrArg Prod.fst ho] at hlive
  obtain ⟨rehearsed, w', hrun, hrehearsed, -⟩ := script_diagnosed o.rehearsal
    report.course.script (by decide : 4 ≤ (64 : UInt32).toNat) htime wallClock
  have hcourse : report.course.script.course o.passage.probed = course := by
    rw [course_of_diagnosed hlive, course_script hallowed]
  have hpassage : Diagnosed o.passage (report.course.script.course o.passage.probed) rehearsed :=
    hrehearsed
  rw [hcourse] at hpassage
  exact ⟨rehearsed, w', hrun, hpassage.same hlive⟩

omit [Crates] in
/-- The first redirect is one too many, in the run and in its rehearsal. -/
theorem unfollowed_rehearsed :
    letI := exampleRecordings.crates
    let spec : InspectSpec := ⟨"http://example.com/", { maxRedirects := 0 }⟩
    let env := Environment.calm exampleRedirect
    ∃ report w rehearsed w', inspect env spec = (.ok report, w) ∧
      inspectWithBackend (scriptBackend report.course.script) env.envVar 0 spec.rehearsal
        (.start fun _ => 0) = (.ok rehearsed, w') ∧
      report.course = .answered [302] (some redirectLimitReached.cause) ∧
      SameDiagnosis rehearsed report := by
  let := exampleRecordings.crates
  intro spec env
  have hrun : Reports (inspect env spec) fun report _ =>
      report.course = .answered [302] (some redirectLimitReached.cause) := by
    decide +kernel
  obtain ⟨report, w, hrun, hcourse⟩ := exists_of_reports hrun
  have htime : Timely spec.options fun _ => 0 :=
    fun _ => (by decide : 0 < 0 + (15000 : UInt64).toNat * 1000000)
  obtain ⟨rehearsed, w', hrehearsed, hsame⟩ := inspect_rehearsed hrun htime 0
  exact ⟨report, w, rehearsed, w', hrun, hrehearsed, of_decide_eq_true hcourse, hsame⟩

end HopWhy
