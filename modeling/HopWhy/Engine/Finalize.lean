import HopWhy.Engine.Tracker
import HopWhy.Library.JsonText
import HopWhy.Model.Crates
import HopWhy.Model.Wire

/-!
# Finalizing a report

The failing phase, the hypothesis and the ruled-out causes are computed from the
phase list by three separate scans; the digest is that of the compact text of
the report without its digest.
-/

namespace HopWhy

def passedPhase (name : PhaseName) (durationMs : UInt64) (observations : List Observation) :
    Phase :=
  { name, status := .passed, durationMs, observations, limitations := [], error := none }

def failedPhase (name : PhaseName) (durationMs : UInt64) (error : AppError) : Phase :=
  { name
    status := .failed
    durationMs
    observations := []
    limitations := []
    error := some { code := error.code, message := error.message, retryable := error.retryable } }

def skippedPhase (name : PhaseName) (limitation : String) : Phase :=
  { name, status := .skipped, durationMs := 0, observations := [], limitations := [limitation],
    error := none }

def notObservedPhase (name : PhaseName) (limitation : String) : Phase :=
  { name, status := .notObserved, durationMs := 0, observations := [],
    limitations := [limitation], error := none }

def observation (kind : String) (value : Json) (evidence : String) : Observation :=
  { kind, value := .ofJson value, evidence }

def failedAtOf (phases : List Phase) : Option PhaseName :=
  (phases.find? fun phase => phase.status = .failed).map Phase.name

/-- Statement, confidence and next step for a failing phase. -/
def diagnosisOf : PhaseName → String × F64 × String
  | .input | .proxy =>
    ("The request was rejected before network probing.", confidence100,
      "Correct the target or proxy policy and run a dry-run plan before probing.")
  | .dns =>
    ("Progress stopped while resolving or authorizing the connection endpoint.", confidence95,
      "Compare resolver results and the public/private target policy in the failing environment.")
  | .tcp =>
    ("DNS produced an allowed address, but no bounded TCP connection succeeded.", confidence90,
      "Check listener state, route/firewall policy, and address-family-specific reachability.")
  | .tls =>
    ("TCP connectivity succeeded, but TLS negotiation or identity validation did not.",
      confidence95,
      "Inspect certificate trust, server name, clock, and TLS policy without disabling validation.")
  | .http =>
    ("Earlier transport phases progressed, but the bounded HTTP client received no response.",
      confidence80,
      "Inspect proxy behavior and server request handling; preserve TLS validation.")
  | .redirects =>
    ("An HTTP response was received, but the redirect chain violated policy or budget.",
      confidence100,
      "Review the recorded Location target and increase limits only after confirming intent.")
  | .assertions =>
    ("The network path completed, but an application assertion failed.", confidence100,
      "Inspect the recorded response metadata and the configured assertion.")

def requestPathObserved : Hypothesis where
  code := "request_path_observed"
  statement := "The configured request reached an HTTP response within budget."
  confidence := confidence100
  evidencePhases := [.dns, .tcp, .http]
  nextSafeStep :=
    "Add an explicit application assertion before treating a reachable response as healthy."

def hypothesesFor (failedAt : Option PhaseName) (phases : List Phase) : List Hypothesis :=
  match failedAt with
  | none => [requestPathObserved]
  | some phase =>
    let errorCode := (((phases.find? fun candidate => candidate.name = phase).bind
      Phase.error).map DiagnosticError.code).getD "phase_failed"
    let (statement, confidence, nextSafeStep) := diagnosisOf phase
    [{ code := errorCode, statement, confidence, evidencePhases := [phase], nextSafeStep }]

def ruledOutText : PhaseName → Option String
  | .dns => some "complete DNS resolution failure"
  | .tcp => some "complete TCP reachability failure"
  | .tls => some "TLS negotiation failure on the independent probe"
  | .http => some "absence of every HTTP response"
  | _ => none

def ruledOutFor (failedAt : Option PhaseName) (phases : List Phase) : List String :=
  if failedAt.isNone then []
  else (phases.filter fun phase => phase.status = .passed).filterMap fun phase =>
    ruledOutText phase.name

variable [Crates]

/-- The digest of a report's compact text without its digest. -/
def digestReport (report : Report) : String :=
  let unsigned := { report with reportSha256 := none }
  sha256Text ((Report.codec.write unsigned).compactText Crates.doubleText)

/-- What the orchestration has found so far: the arguments of the finalization. -/
structure Draft where
  target : TargetSummary
  proxy : ProxySummary
  options : InspectionOptions
  startedAtUnixMs : UInt64
  addresses : List AddressObservation
  tls : Option TlsSummary
  http : List HttpHop
  phases : List Phase
  omissions : List String

def Draft.record (draft : Draft) (phase : Phase) : Draft :=
  { draft with phases := draft.phases ++ [phase] }

def budgetOf (options : InspectionOptions) : Budget where
  durationMs := options.budgetMs
  maxProbes := options.maxProbes
  maxAddresses := options.maxAddresses
  maxRedirects := options.maxRedirects
  maxBodyBytes := options.maxBodyBytes

/-- The report before it is sealed. -/
def unsealedReport (draft : Draft) (tracker : Tracker) (elapsedMs : UInt64) : Report :=
  let failedAt := failedAtOf draft.phases
  { schemaVersion := reportSchemaVersion
    toolVersion := toolVersion
    startedAtUnixMs := draft.startedAtUnixMs
    target := draft.target
    proxy := draft.proxy
    options := draft.options
    budget := budgetOf draft.options
    usage := {
      elapsedMs
      probesUsed := saturatingU32 tracker.probes.length
      responseBytesRead := tracker.responseBytesRead }
    probes := tracker.probes
    addresses := draft.addresses
    tls := draft.tls
    http := draft.http
    phases := draft.phases
    failedAt
    hypotheses := hypothesesFor failedAt draft.phases
    ruledOut := ruledOutFor failedAt draft.phases
    omissions := draft.omissions
    reportSha256 := none }

def sealReport (report : Report) : Report :=
  { report with reportSha256 := some (digestReport report) }

def finalizeReport {σ ε : Type} [Clock σ] (draft : Draft) : Prog (Session σ) ε Report := do
  let s ← Prog.state
  let elapsed ← elapsedMs s.tracker.started
  pure (sealReport (unsealedReport draft s.tracker elapsed))

end HopWhy
