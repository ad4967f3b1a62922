import HopWhy.Runs.Orchestration

/-!
# Courses

The course of a run is where it ended and for what cause. Whatever the backend does, the
phases of a report are those of one course, and what the report concludes depends on the
course alone.
-/

namespace HopWhy

/-- The part of an error that a phase and a hypothesis show. -/
structure Cause where
  code : String
  retryable : Bool
deriving DecidableEq, Repr

def AppError.cause (error : AppError) : Cause := ⟨error.code, error.retryable⟩

inductive Course where
  | unresolved (cause : Cause)
  | unconnected (cause : Cause)
  | unsecured (cause : Cause)
  | unanswered (cause : Cause)
  | answered (statuses : List UInt16) (stopped : Option Cause)
deriving DecidableEq, Repr

/-- What a phase says apart from times and observations. -/
structure PhaseVerdict where
  name : PhaseName
  status : PhaseStatus
  cause : Option Cause
  limitations : List String
deriving DecidableEq, Repr

def Phase.verdict (p : Phase) : PhaseVerdict where
  name := p.name
  status := p.status
  cause := p.error.map fun error => ⟨error.code, error.retryable⟩
  limitations := p.limitations

def passedVerdict (name : PhaseName) : PhaseVerdict := ⟨name, .passed, none, []⟩

def failedVerdict (name : PhaseName) (cause : Cause) : PhaseVerdict :=
  ⟨name, .failed, some cause, []⟩

def skippedVerdict (name : PhaseName) (limitation : String) : PhaseVerdict :=
  ⟨name, .skipped, none, [limitation]⟩

/-- The parts of a request that the TLS phase depends on. -/
structure Passage where
  scheme : String
  selected : Bool

namespace Passage

variable (passage : Passage)

/-- The TLS stage is called. -/
def probed : Bool := passage.scheme = "https" ∧ passage.selected = false

/-- The stages that are called before the HTTP stage. -/
def secured : List Stage := if passage.probed then [.dns, .tcp, .tls] else [.dns, .tcp]

def tlsVerdict : PhaseVerdict :=
  if passage.scheme ≠ "https" then skippedVerdict .tls tlsSkippedText
  else if passage.selected then ⟨.tls, .notObserved, none, [tlsNotObservedText]⟩
  else passedVerdict .tls

def omissions : List String :=
  if passage.scheme = "https" ∧ passage.selected = true then [tlsOmission] else []

end Passage

namespace Course

variable (passage : Passage)

def redirectVerdict (statuses : List UInt16) : Option Cause → PhaseVerdict
  | some cause => failedVerdict .redirects cause
  | none =>
    if 1 < statuses.length then passedVerdict .redirects
    else skippedVerdict .redirects "the response did not request a redirect"

def row : Course → List PhaseVerdict
  | .unresolved cause => [failedVerdict .dns cause]
  | .unconnected cause => [passedVerdict .dns, failedVerdict .tcp cause]
  | .unsecured cause => [passedVerdict .dns, passedVerdict .tcp, failedVerdict .tls cause]
  | .unanswered cause =>
    [passedVerdict .dns, passedVerdict .tcp, passage.tlsVerdict, failedVerdict .http cause]
  | .answered statuses stopped =>
    [passedVerdict .dns, passedVerdict .tcp, passage.tlsVerdict, passedVerdict .http,
      redirectVerdict statuses stopped,
      skippedVerdict .assertions "no application-level assertion was configured"]

def statuses : Course → List UInt16
  | .answered statuses _ => statuses
  | _ => []

/-- The stages that were called. -/
def calls : Course → List Stage
  | .unresolved _ => [.dns]
  | .unconnected _ => [.dns, .tcp]
  | .unsecured _ => [.dns, .tcp, .tls]
  | _ => passage.secured ++ [.http]

/-- The limits of what the run could see. -/
def omissions : Course → List String
  | .unanswered _ => passage.omissions
  | .answered _ _ => passage.omissions
  | _ => []

/-- What a failure leaves ruled out. -/
def ruledOut (course : Course) : List String :=
  match course with
  | .answered _ none => []
  | course => ((course.row passage).filter fun verdict => verdict.status = .passed).filterMap
      fun verdict => ruledOutText verdict.name

/-- The phase that a course fails in, with its cause. -/
def failure : Course → Option (PhaseName × Cause)
  | .unresolved cause => some (.dns, cause)
  | .unconnected cause => some (.tcp, cause)
  | .unsecured cause => some (.tls, cause)
  | .unanswered cause => some (.http, cause)
  | .answered _ (some cause) => some (.redirects, cause)
  | .answered _ none => none

end Course

theorem verdict_passedPhase (name : PhaseName) (ms : UInt64) (observations : List Observation) :
    (passedPhase name ms observations).verdict = passedVerdict name := rfl

theorem verdict_skippedPhase (name : PhaseName) (limitation : String) :
    (skippedPhase name limitation).verdict = skippedVerdict name limitation := rfl

/-- The verdicts a report begins with. -/
def openingVerdicts : List PhaseVerdict := [passedVerdict .input, passedVerdict .proxy]

/-- The phases are those of the course. -/
def Follows (passage : Passage) (course : Course) (phases : List Phase) : Prop :=
  phases.map Phase.verdict = openingVerdicts ++ course.row passage

/-- The hypothesis for a failure. -/
def diagnosis : Option (PhaseName × Cause) → Hypothesis
  | none => requestPathObserved
  | some (name, cause) =>
    { code := cause.code
      statement := (diagnosisOf name).1
      confidence := (diagnosisOf name).2.1
      evidencePhases := [name]
      nextSafeStep := (diagnosisOf name).2.2 }

def failedVerdictOf (verdicts : List PhaseVerdict) : Option PhaseName :=
  (verdicts.find? fun verdict => verdict.status = .failed).map PhaseVerdict.name

theorem failedAtOf_verdicts (phases : List Phase) :
    failedAtOf phases = failedVerdictOf (phases.map Phase.verdict) := by
  rw [failedAtOf, failedVerdictOf, List.find?_map, Option.map_map]
  rfl

theorem errorCode_verdicts (phases : List Phase) (name : PhaseName) :
    ((phases.find? fun candidate => candidate.name = name).bind Phase.error).map
        DiagnosticError.code =
      (((phases.map Phase.verdict).find? fun verdict => verdict.name = name).bind
        PhaseVerdict.cause).map Cause.code := by
  have hfind : ((phases.map Phase.verdict).find? fun verdict => verdict.name = name) =
      (phases.find? fun candidate => candidate.name = name).map Phase.verdict := List.find?_map
  rw [hfind]
  generalize List.find? _ phases = found
  rcases found with _ | p
  · rfl
  · change p.error.map DiagnosticError.code = (p.verdict.cause).map Cause.code
    rw [Phase.verdict, Option.map_map]
    rfl

section

variable {passage : Passage} {course : Course} {phases : List Phase}

theorem tlsVerdict_passes (passage : Passage) :
    passage.tlsVerdict.status ≠ .failed ∧ passage.tlsVerdict.name = .tls := by
  unfold Passage.tlsVerdict
  split_ifs <;> exact ⟨by decide, rfl⟩

/-- The failing phase of a course is its own. -/
theorem failedAtOf_of_follows (h : Follows passage course phases) :
    failedAtOf phases = course.failure.map Prod.fst := by
  rw [failedAtOf_verdicts, h]
  obtain ⟨hstatus, -⟩ := tlsVerdict_passes passage
  cases course with
  | unresolved cause => rfl
  | unconnected cause => rfl
  | unsecured cause => rfl
  | unanswered cause =>
    simp [failedVerdictOf, openingVerdicts, Course.row, passedVerdict, failedVerdict,
      Course.failure, hstatus]
  | answered statuses stopped =>
    rcases stopped with _ | cause
    · simp only [failedVerdictOf, openingVerdicts, Course.row, Course.redirectVerdict]
      split_ifs <;>
        simp [passedVerdict, skippedVerdict, Course.failure, hstatus]
    · simp [failedVerdictOf, openingVerdicts, Course.row, passedVerdict, failedVerdict,
        Course.redirectVerdict, Course.failure, hstatus]

/-- The one hypothesis of a course. -/
theorem hypothesesFor_of_follows (h : Follows passage course phases) :
    hypothesesFor (failedAtOf phases) phases = [diagnosis course.failure] := by
  rw [failedAtOf_of_follows h]
  obtain ⟨-, hname⟩ := tlsVerdict_passes passage
  rcases hfailure : course.failure with _ | ⟨name, cause⟩
  · rfl
  · have hcode : (((phases.map Phase.verdict).find? fun verdict => verdict.name = name).bind
        PhaseVerdict.cause) = some cause := by
      rw [h]
      cases course with
      | answered statuses stopped =>
        rcases stopped with _ | stopped
        · cases hfailure
        · cases hfailure
          simp [openingVerdicts, Course.row, passedVerdict, failedVerdict, Course.redirectVerdict,
            hname]
      | unanswered =>
        cases hfailure
        simp [openingVerdicts, Course.row, passedVerdict, failedVerdict, hname]
      | _ =>
        cases hfailure
        rfl
    rw [Option.map_some, hypothesesFor, errorCode_verdicts, hcode]
    rfl

end

/-- Ruled-out causes depend on the verdicts only. -/
theorem ruledOutFor_verdicts (failedAt : Option PhaseName) (phases : List Phase) :
    ruledOutFor failedAt phases = if failedAt.isNone then []
      else ((phases.map Phase.verdict).filter fun verdict => verdict.status = .passed).filterMap
        fun verdict => ruledOutText verdict.name := by
  rw [ruledOutFor, List.filter_map, List.filterMap_map]
  rfl

/-- The input and the proxy selection rule nothing out. -/
theorem Course.ruledOut_eq (course : Course) (passage : Passage) :
    (if (course.failure.map Prod.fst).isNone then []
      else ((openingVerdicts ++ course.row passage).filter
        fun verdict => verdict.status = .passed).filterMap
          fun verdict => ruledOutText verdict.name) = course.ruledOut passage := by
  cases course with
  | answered statuses stopped =>
    rcases stopped with _ | cause
    · rfl
    · rfl
  | _ => rfl

/-- What a report says, up to times, texts and observations. -/
structure Diagnosed (passage : Passage) (course : Course) (report : Report) : Prop where
  phases : Follows passage course report.phases
  statuses : report.http.map HttpHop.status = course.statuses
  failedAt : report.failedAt = course.failure.map Prod.fst
  hypotheses : report.hypotheses = [diagnosis course.failure]
  ruledOut : report.ruledOut = course.ruledOut passage
  omissions : report.omissions = initialOmissions ++ course.omissions passage

variable {σ : Type} [Clock σ]

/-- What is known of a backend: `ready` holds after the stages that were called, as long as
the run goes on, and `ended` when it has come to its course. -/
structure Keeps [Crates] (backend : DiagnosticBackend σ) (options : InspectionOptions)
    (passage : Passage) (ready : List Stage → Session σ → Prop)
    (ended : Course → Session σ → Prop) : Prop where
  tick : ∀ {called s}, ready called s → ready called s.tick
  tick_ended : ∀ {course s}, ended course s → ended course s.tick
  resolves : ∀ proxy, Prog.Triple (ready []) (backend.resolveAddresses proxy options)
    (fun r t => if r.2 = [] then ended (.unresolved nonPublicAddressDenied.cause) t
      else ready [.dns] t)
    (fun error t => ended (.unresolved error.cause) t)
  connects : ∀ addresses, Prog.Triple (ready [.dns]) (backend.connectFirst addresses options)
    (fun _ t => ready [.dns, .tcp] t) (fun error t => ended (.unconnected error.cause) t)
  secures : passage.probed = true → ∀ address host,
    Prog.Triple (ready [.dns, .tcp]) (backend.probeTls address host options.showAddresses)
      (fun _ t => ready [.dns, .tcp, .tls] t) (fun error t => ended (.unsecured error.cause) t)
  answers : ∀ url proxy address, Prog.Triple (ready passage.secured)
    (backend.runHttp url proxy address options)
    (fun r t => ended (.answered (r.1.map HttpHop.status) (r.2.map AppError.cause)) t)
    (fun error t => ended (.unanswered error.cause) t)

/-- A draft that goes on from another with more verdicts, omissions and statuses. -/
structure Onward (draft : Draft) (row : List PhaseVerdict) (omitted : List String)
    (statuses : List UInt16) (d : Draft) : Prop where
  options : d.options = draft.options
  phases : d.phases.map Phase.verdict = draft.phases.map Phase.verdict ++ row
  omissions : d.omissions = draft.omissions ++ omitted
  statuses : d.http.map HttpHop.status = draft.http.map HttpHop.status ++ statuses

theorem Onward.trans {a b c : Draft} {row row' : List PhaseVerdict} {omitted omitted' : List String}
    {statuses statuses' : List UInt16} (h : Onward a row omitted statuses b)
    (h' : Onward b row' omitted' statuses' c) :
    Onward a (row ++ row') (omitted ++ omitted') (statuses ++ statuses') c where
  options := h'.options.trans h.options
  phases := by rw [h'.phases, h.phases, List.append_assoc]
  omissions := by rw [h'.omissions, h.omissions, List.append_assoc]
  statuses := by rw [h'.statuses, h.statuses, List.append_assoc]

/-- One more phase and nothing else. -/
theorem Onward.record (draft : Draft) (p : Phase) {row : List PhaseVerdict}
    (h : [p.verdict] = row) : Onward draft row [] [] (draft.record p) where
  options := rfl
  phases := by simp [Draft.record, ← h]
  omissions := (List.append_nil _).symm
  statuses := (List.append_nil _).symm

/-- The observed addresses are no part of it. -/
theorem Onward.observed (draft : Draft) (addresses : List AddressObservation) :
    Onward draft [] [] [] { draft with addresses } where
  options := rfl
  phases := (List.append_nil _).symm
  omissions := (List.append_nil _).symm
  statuses := (List.append_nil _).symm

/-- The run has come to a course, and its draft is the one of this course. -/
def Ended (passage : Passage) (ended : Course → Session σ → Prop) (draft d : Draft)
    (t : Session σ) : Prop :=
  ∃ course, ended course t ∧
    Onward draft (course.row passage) (course.omissions passage) course.statuses d

section

variable [Crates] {backend : DiagnosticBackend σ} {passage : Passage}
  {ready : List Stage → Session σ → Prop} {ended : Course → Session σ → Prop} {draft : Draft}

theorem observeDns_course (keeps : Keeps backend draft.options passage ready ended)
    (proxy : ResolvedProxy) :
    Prog.Triple (ready []) (observeDns backend proxy draft)
      (fun r t => ready [.dns] t ∧ Onward draft [passedVerdict .dns] [] [] r.1)
      (Ended passage ended draft) := by
  intro s hs
  have hanswer := keeps.resolves proxy s.tick (keeps.tick hs)
  unfold observeDns
  rw [instant_bind, Prog.bind_apply, Prog.attempt_apply]
  rcases hr : backend.resolveAddresses proxy draft.options s.tick with ⟨error | ⟨all, permitted⟩, t⟩
  · rw [hr] at hanswer
    exact ⟨_, keeps.tick_ended hanswer, .record draft _ rfl⟩
  · rw [hr, Prog.post_ok] at hanswer
    dsimp only at hanswer ⊢
    split_ifs at hanswer ⊢ with hempty
    · exact ⟨_, keeps.tick_ended hanswer, (Onward.observed draft _).trans (.record _ _ rfl)⟩
    · exact ⟨keeps.tick hanswer, (Onward.observed draft _).trans (.record _ _ rfl)⟩

theorem observeTcp_course (keeps : Keeps backend draft.options passage ready ended)
    (permitted : List SocketAddr) :
    Prog.Triple (ready [.dns]) (observeTcp backend permitted draft)
      (fun r t => ready [.dns, .tcp] t ∧ Onward draft [passedVerdict .tcp] [] [] r.1)
      (fun d t => ∃ cause, ended (.unconnected cause) t ∧
        Onward draft [failedVerdict .tcp cause] [] [] d) := by
  intro s hs
  have hanswer := keeps.connects permitted s.tick (keeps.tick hs)
  unfold observeTcp
  rw [instant_bind, Prog.bind_apply, Prog.attempt_apply]
  rcases hr : backend.connectFirst permitted draft.options s.tick with ⟨error | address, t⟩
  · rw [hr] at hanswer
    exact ⟨_, keeps.tick_ended hanswer, .record draft _ rfl⟩
  · rw [hr] at hanswer
    exact ⟨keeps.tick hanswer, .record draft _ rfl⟩

/-- The TLS phase of a run that goes on is the one its request passes with. -/
theorem observeTls_course {parsed : ParsedTarget} {proxy : ResolvedProxy}
    (hpassage : passage = ⟨parsed.url.scheme, proxy.summary.selected⟩)
    (keeps : Keeps backend draft.options passage ready ended) (address : SocketAddr) :
    Prog.Triple (ready [.dns, .tcp]) (observeTls backend parsed proxy address draft)
      (fun d t => ready passage.secured t ∧
        Onward draft [passage.tlsVerdict] passage.omissions [] d)
      (fun d t => ∃ cause, ended (.unsecured cause) t ∧
        Onward draft [failedVerdict .tls cause] [] [] d) := by
  intro s hs
  unfold observeTls
  rw [instant_bind, Prog.ite_apply]
  split_ifs with hscheme hselected
  · have hprobed : passage.probed = false := by simp [Passage.probed, hpassage, hscheme]
    have hverdict : [(skippedPhase .tls tlsSkippedText).verdict] = [passage.tlsVerdict] := by
      rw [Passage.tlsVerdict, hpassage, if_pos hscheme]
      rfl
    have homitted : passage.omissions = [] := by simp [Passage.omissions, hpassage, hscheme]
    rw [homitted, Passage.secured, hprobed]
    exact ⟨keeps.tick hs, .record draft _ hverdict⟩
  · have hprobed : passage.probed = false := by simp [Passage.probed, hpassage, hselected]
    have hverdict : passage.tlsVerdict = ⟨.tls, .notObserved, none, [tlsNotObservedText]⟩ := by
      rw [Passage.tlsVerdict, hpassage, if_neg hscheme, if_pos hselected]
    have homitted : passage.omissions = [tlsOmission] := by
      simp [Passage.omissions, hpassage, not_not.mp hscheme, hselected]
    rw [hverdict, homitted, Passage.secured, hprobed]
    refine ⟨keeps.tick hs, ?_⟩
    exact {
      options := rfl
      phases := by simp [Draft.record]; rfl
      omissions := rfl
      statuses := (List.append_nil _).symm }
  · have hdirect : proxy.summary.selected = false := by simpa using hselected
    have hprobed : passage.probed = true := by
      simp [Passage.probed, hpassage, not_not.mp hscheme, hdirect]
    have hverdict : passage.tlsVerdict = passedVerdict .tls := by
      rw [Passage.tlsVerdict, hpassage, if_neg hscheme, if_neg hselected]
    have homitted : passage.omissions = [] := by simp [Passage.omissions, hpassage, hdirect]
    have hanswer := keeps.secures hprobed address parsed.summary.host s.tick (keeps.tick hs)
    rw [Prog.bind_apply, Prog.attempt_apply]
    rcases hr : backend.probeTls address parsed.summary.host draft.options.showAddresses s.tick with
      ⟨error | summary, t⟩
    · rw [hr] at hanswer
      exact ⟨_, keeps.tick_ended hanswer, .record draft _ rfl⟩
    · rw [hr] at hanswer
      rw [hverdict, homitted, Passage.secured, hprobed]
      refine ⟨keeps.tick hanswer, ?_⟩
      exact {
        options := rfl
        phases := by simp [Draft.record, verdict_passedPhase]
        omissions := (List.append_nil _).symm
        statuses := (List.append_nil _).symm }

omit [Crates] in
theorem verdict_redirectPhase (hops : List HttpHop) (failure : Option AppError) :
    (redirectPhase hops failure).verdict =
      Course.redirectVerdict (hops.map HttpHop.status) (failure.map AppError.cause) := by
  unfold redirectPhase
  rcases failure with _ | error
  · dsimp only [Option.map_none, Course.redirectVerdict]
    rw [List.length_map]
    split_ifs <;> rfl
  · rfl

theorem observeHttp_course (keeps : Keeps backend draft.options passage ready ended)
    (parsed : ParsedTarget) (proxy : ResolvedProxy) (address : SocketAddr)
    (hhttp : draft.http = []) :
    Prog.Triple (ready passage.secured) (observeHttp backend parsed proxy address draft)
      (fun d t => ∃ statuses stopped, ended (.answered statuses stopped) t ∧
        Onward draft [passedVerdict .http,
          Course.redirectVerdict statuses stopped,
          skippedVerdict .assertions "no application-level assertion was configured"]
          [] statuses d)
      (fun d t => ∃ cause, ended (.unanswered cause) t ∧
        Onward draft [failedVerdict .http cause] [] [] d) := by
  intro s hs
  have hanswer := keeps.answers parsed.url proxy address s.tick (keeps.tick hs)
  unfold observeHttp
  rw [instant_bind, Prog.bind_apply, Prog.attempt_apply]
  rcases hr : backend.runHttp parsed.url proxy address draft.options s.tick with
    ⟨error | ⟨hops, failure⟩, t⟩
  · rw [hr] at hanswer
    exact ⟨_, keeps.tick_ended hanswer, .record draft _ rfl⟩
  · rw [hr] at hanswer
    refine ⟨_, _, keeps.tick_ended hanswer, ?_⟩
    exact {
      options := rfl
      phases := by
        simp [Draft.record, verdict_passedPhase, verdict_redirectPhase, verdict_skippedPhase]
      omissions := (List.append_nil _).symm
      statuses := by simp [hhttp] }

variable (draft) in
/-- Whatever the backend answers, the run has a course. -/
theorem observeAll_course {parsed : ParsedTarget} {proxy : ResolvedProxy}
    (hpassage : passage = ⟨parsed.url.scheme, proxy.summary.selected⟩)
    (keeps : Keeps backend draft.options passage ready ended) (hhttp : draft.http = []) :
    Prog.Triple (ready []) (observeAll backend parsed proxy draft)
      (Ended passage ended draft) (Ended passage ended draft) := by
  unfold observeAll
  refine (observeDns_course keeps proxy).bind ?_
  rintro ⟨d₁, permitted⟩ s ⟨hready, h₁⟩
  have keeps₁ : Keeps backend d₁.options passage ready ended := h₁.options ▸ keeps
  refine ((observeTcp_course keeps₁ permitted).conseq (fun _ h => h) (fun _ _ h => h) ?_).bind ?_
    s hready
  · rintro d t ⟨cause, hended, h₂⟩
    exact ⟨_, hended, h₁.trans h₂⟩
  rintro ⟨d₂, address⟩ s ⟨hready, h₂⟩
  have keeps₂ : Keeps backend d₂.options passage ready ended := h₂.options ▸ keeps₁
  refine ((observeTls_course hpassage keeps₂ address).conseq (fun _ h => h)
    (fun _ _ h => h) ?_).bind ?_ s hready
  · rintro d t ⟨cause, hended, h₃⟩
    exact ⟨_, hended, (h₁.trans h₂).trans h₃⟩
  rintro d₃ s ⟨hready, h₃⟩
  have keeps₃ : Keeps backend d₃.options passage ready ended := h₃.options ▸ keeps₂
  have honward := (h₁.trans h₂).trans h₃
  have hnone : d₃.http = [] := by
    have hstatuses := honward.statuses
    rw [hhttp] at hstatuses
    exact List.map_eq_nil_iff.mp hstatuses
  refine ((observeHttp_course keeps₃ parsed proxy address hnone).conseq (fun _ h => h)
    ?_ ?_) s hready
  · rintro d t ⟨statuses, stopped, hended, h₄⟩
    have h := honward.trans h₄
    rw [List.nil_append, List.append_nil] at h
    exact ⟨_, hended, h⟩
  · rintro d t ⟨cause, hended, h₄⟩
    have h := honward.trans h₄
    rw [List.nil_append, List.append_nil] at h
    exact ⟨_, hended, h⟩

end

section

variable [Crates] {backend : DiagnosticBackend σ} {spec : InspectSpec}
  {envVar : String → Option String}

def Opening.passage (o : Opening envVar spec) : Passage :=
  ⟨o.parsed.url.scheme, o.proxy.summary.selected⟩

theorem finalized_statuses (run : Except Draft Draft × Session σ) :
    (finalized run).1.http.map HttpHop.status = (settle run.1).http.map HttpHop.status := rfl

theorem finalized_hypotheses (run : Except Draft Draft × Session σ) :
    (finalized run).1.hypotheses =
      hypothesesFor (failedAtOf (settle run.1).phases) (settle run.1).phases := rfl

theorem finalized_ruledOut (run : Except Draft Draft × Session σ) :
    (finalized run).1.ruledOut =
      ruledOutFor (failedAtOf (settle run.1).phases) (settle run.1).phases := rfl

theorem finalized_omissions (run : Except Draft Draft × Session σ) :
    (finalized run).1.omissions = (settle run.1).omissions := rfl

/-- The report of a run is the one of its course. -/
theorem diagnosed_of_onward {passage : Passage} {course : Course}
    {run : Except Draft Draft × Session σ} {draft : Draft}
    (hphases : draft.phases.map Phase.verdict = openingVerdicts) (hhttp : draft.http = [])
    (homissions : draft.omissions = initialOmissions)
    (h : Onward draft (course.row passage) (course.omissions passage) course.statuses
      (settle run.1)) : Diagnosed passage course (finalized run).1 := by
  have hfollows : Follows passage course (settle run.1).phases := by
    rw [Follows, h.phases, hphases]
  constructor
  · rw [finalized_phases]
    exact hfollows
  · rw [finalized_statuses, h.statuses, hhttp]
    rfl
  · rw [finalized_failedAt, failedAtOf_of_follows hfollows]
  · rw [finalized_hypotheses, hypothesesFor_of_follows hfollows]
  · rw [finalized_ruledOut, failedAtOf_of_follows hfollows, ruledOutFor_verdicts, hfollows]
    exact course.ruledOut_eq passage
  · rw [finalized_omissions, h.omissions, homissions]

/-- A run over such a backend has a course, and its report is the one of this course. -/
theorem Opening.course (o : Opening envVar spec) {ready : List Stage → Session σ → Prop}
    {ended : Course → Session σ → Prop} (keeps : Keeps backend spec.options o.passage ready ended)
    (wallClock : ℤ) {w : σ} (hopen : ready [] (openingSession spec.options w)) :
    ∃ course t, ended course t ∧
      Diagnosed o.passage course (o.outcome backend wallClock w).1 ∧
      (o.outcome backend wallClock w).2 = t.tick.world := by
  have hdraft : (o.draft wallClock w).phases.map Phase.verdict = openingVerdicts := rfl
  have hrun := settle_of_post (observeAll_course (o.draft wallClock w) rfl keeps rfl
    (openingSession spec.options w) hopen)
  obtain ⟨course, hended, honward⟩ := hrun
  exact ⟨course, _, hended, diagnosed_of_onward hdraft rfl rfl honward, rfl⟩

end

end HopWhy
