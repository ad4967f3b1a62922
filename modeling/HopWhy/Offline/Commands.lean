import HopWhy.Offline.Documents

/-!
# Replay and comparison

The offline commands on verified reports. Neither touches the network; the
statuses of a report are collected in a map, whose last entry of a name counts.
-/

namespace HopWhy

def phaseKey : PhaseName → String
  | .input => "input"
  | .proxy => "proxy"
  | .dns => "dns"
  | .tcp => "tcp"
  | .tls => "tls"
  | .http => "http"
  | .redirects => "redirects"
  | .assertions => "assertions"

def phaseRank : PhaseName → ℕ
  | .input => 0
  | .proxy => 1
  | .dns => 2
  | .tcp => 3
  | .tls => 4
  | .http => 5
  | .redirects => 6
  | .assertions => 7

theorem phaseRank_injective : Function.Injective phaseRank := by
  intro a b h
  cases a <;> cases b <;> first | rfl | cases h

theorem phaseKey_injective : Function.Injective phaseKey := by
  intro a b h
  cases a <;> cases b <;> first | rfl | (revert h; decide)

instance : LinearOrder PhaseName := LinearOrder.lift' phaseRank phaseRank_injective

variable [Crates]

def replay (report : Report) : AppResult ReplayResult := do
  verifyReport report
  pure {
    schemaVersion := replaySchemaVersion
    reportSha256 := report.reportSha256.getD ""
    integrityValid := true
    networkPerformed := false
    failedAt := report.failedAt
    phaseStatuses := .ofList (report.phases.map fun phase => (phaseKey phase.name, phase.status))
    hypotheses := report.hypotheses
    nextSafeSteps := report.hypotheses.map Hypothesis.nextSafeStep }

def statusesOf (report : Report) : OrderedMap PhaseName PhaseStatus :=
  .ofList (report.phases.map fun phase => (phase.name, phase.status))

/-- The names of either map, in order and without repetition. -/
def phaseNames (left right : OrderedMap PhaseName PhaseStatus) : List PhaseName :=
  (OrderedMap.ofList ((left.keys ++ right.keys).map fun name => (name, ()))).keys

def phaseDifferencesOf (left right : OrderedMap PhaseName PhaseStatus) : List PhaseDifference :=
  (phaseNames left right).filterMap fun phase =>
    if left.get? phase ≠ right.get? phase then
      some { phase, left := left.get? phase, right := right.get? phase }
    else none

def noDifferenceText : String := "no modeled causal difference was found"

def summaryOf (sameIntendedTarget sameFailedPhase : Bool) (differences : List PhaseDifference)
    (sameStatuses : Bool) : List String :=
  let summary :=
    (if sameIntendedTarget then [] else ["reports describe different intended targets"]) ++
    (if sameFailedPhase then [] else ["earliest failed phase differs"]) ++
    (if differences = [] then []
      else [toString differences.length ++ " phase status difference(s) observed"]) ++
    (if sameStatuses then [] else ["HTTP status sequence differs"])
  if summary = [] then [noDifferenceText] else summary

def httpStatuses (report : Report) : List UInt16 := report.http.map HttpHop.status

def compare (left right : Report) : AppResult CompareResult := do
  verifyReport left
  verifyReport right
  let phaseDifferences := phaseDifferencesOf (statusesOf left) (statusesOf right)
  let sameIntendedTarget : Bool := left.target.intended = right.target.intended
  let sameFailedPhase : Bool := left.failedAt = right.failedAt
  let leftHttpStatuses := httpStatuses left
  let rightHttpStatuses := httpStatuses right
  pure {
    schemaVersion := compareSchemaVersion
    leftReportSha256 := left.reportSha256.getD ""
    rightReportSha256 := right.reportSha256.getD ""
    sameIntendedTarget
    sameFailedPhase
    phaseDifferences
    leftHttpStatuses
    rightHttpStatuses
    summary := summaryOf sameIntendedTarget sameFailedPhase phaseDifferences
      (leftHttpStatuses = rightHttpStatuses) }

end HopWhy
