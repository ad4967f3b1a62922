import HopWhy.Accuracy.Corpus

/-!
# Scoring a corpus

Every case is played on the scripted backend and compared with its labels. A case that
disagrees stops the scoring, as does a definitive claim about a cause that cannot be
observed, and the counts of the others are collected by category and by label.
-/

namespace HopWhy

/-- A finite double is at least one. -/
def atLeastOne (confidence : F64) : Bool :=
  0x3ff0000000000000 ≤ confidence.bits && confidence.bits < 0x8000000000000000

def causalPhrases : List String := ["root cause is", "caused by", "proves that", "definitely"]

/-- A hypothesis that says more than was observed. -/
def definitive (failedAt : Option PhaseName) (hiddenCause : String) (h : Hypothesis) : Bool :=
  let hiddenWords := hiddenCause.toList.map fun c => if c = '_' then ' ' else c
  let statement := Text.toAsciiLowercase h.statement.toList
  atLeastOne h.confidence || h.evidencePhases != failedAt.toList ||
    Text.contains hiddenWords statement ||
    causalPhrases.any fun phrase => Text.contains phrase.toList statement

def definitiveClaims (report : Report) (c : Case) : ℕ :=
  if c.rootCauseObservable then 0
  else (report.hypotheses.filter (definitive report.failedAt c.hiddenCause)).length

/-- Only these outcomes are scored. -/
def phaseLabel : Option PhaseName → Option String
  | some .dns => some "dns"
  | some .tcp => some "tcp"
  | some .tls => some "tls"
  | some .http => some "http"
  | some .redirects => some "redirects"
  | none => some "success"
  | some _ => none

/-- A case and the clock and environment it is played in. -/
structure Trial where
  scenario : Case
  time : ℕ → ℕ
  envVar : String → Option String
  wallClock : ℤ

def Case.spec (c : Case) : InspectSpec := ⟨c.target, { disableProxy := true }⟩

def CategoryMetrics.zero : CategoryMetrics := ⟨0, 0, 0, 0, 0, 0⟩

structure Scoreboard where
  identifiers : List String
  phaseMatches : ℕ
  shortCircuitMatches : ℕ
  hypothesisCodeMatches : ℕ
  unobservableCauseCases : ℕ
  definitiveRootCauseClaims : ℕ
  byCategory : OrderedMap String CategoryMetrics
  confusion : OrderedMap String (OrderedMap String ℕ)

def Scoreboard.start : Scoreboard := ⟨[], 0, 0, 0, 0, 0, .ofList [], .ofList []⟩

def Scoreboard.metrics (board : Scoreboard) (totalCases : ℕ) : Metrics where
  totalCases
  phaseMatches := board.phaseMatches
  shortCircuitMatches := board.shortCircuitMatches
  hypothesisCodeMatches := board.hypothesisCodeMatches
  unobservableCauseCases := board.unobservableCauseCases
  definitiveRootCauseClaims := board.definitiveRootCauseClaims
  byCategory := board.byCategory
  phaseConfusion := board.confusion

/-- One case has been compared. -/
def Scoreboard.enter (board : Scoreboard) (c : Case) (phaseMatch shortCircuitMatch
    hypothesisCodeMatch : Bool) (claims : ℕ) (expected actual : String) : Scoreboard where
  identifiers := board.identifiers ++ [c.id]
  phaseMatches := board.phaseMatches + phaseMatch.toNat
  shortCircuitMatches := board.shortCircuitMatches + shortCircuitMatch.toNat
  hypothesisCodeMatches := board.hypothesisCodeMatches + hypothesisCodeMatch.toNat
  unobservableCauseCases := board.unobservableCauseCases + (!c.rootCauseObservable).toNat
  definitiveRootCauseClaims := board.definitiveRootCauseClaims + claims
  byCategory := board.byCategory.modify c.category .zero fun m =>
    { cases := m.cases + 1
      phaseMatches := m.phaseMatches + phaseMatch.toNat
      shortCircuitMatches := m.shortCircuitMatches + shortCircuitMatch.toNat
      hypothesisCodeMatches := m.hypothesisCodeMatches + hypothesisCodeMatch.toNat
      unobservableCauseCases := m.unobservableCauseCases + (!c.rootCauseObservable).toNat
      definitiveRootCauseClaims := m.definitiveRootCauseClaims + claims }
  confusion := board.confusion.modify expected (.ofList []) fun row =>
    row.modify actual 0 (· + 1)

section

variable [Crates]

def Trial.play (trial : Trial) : AppResult Report × ScriptWorld trial.time :=
  inspectWithBackend (scriptBackend trial.scenario.observations) trial.envVar trial.wallClock
    trial.scenario.spec (.start trial.time)

/-- Nothing comes of a case that disagrees. -/
def scoreTrial (board : Scoreboard) (trial : Trial) : Option Scoreboard :=
  let c := trial.scenario
  match trial.play.1 with
  | .error _ => none
  | .ok report =>
    let phaseMatch := report.failedAt == c.expected.failedAt
    let shortCircuitMatch := trial.play.2.calls == c.expected.backendCalls
    let hypothesisCodeMatch :=
      report.hypotheses.head?.any fun h => h.code == c.expected.hypothesisCode
    let claims := definitiveClaims report c
    match phaseLabel c.expected.failedAt, phaseLabel report.failedAt with
    | some expected, some actual =>
      if c.id ∉ board.identifiers ∧ phaseMatch ∧ shortCircuitMatch ∧ hypothesisCodeMatch ∧
          claims = 0 then
        some (board.enter c phaseMatch shortCircuitMatch hypothesisCodeMatch claims expected actual)
      else none
    | _, _ => none

def scoreCorpus (trials : List Trial) : Option Metrics :=
  (trials.foldlM scoreTrial .start).map fun board => board.metrics trials.length

end

end HopWhy
