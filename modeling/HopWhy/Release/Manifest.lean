import HopWhy.Release.Checks

/-!
# The evidence manifest

The checks of a whole manifest, in the order in which they are made. Where the
tool hands the checked object on, an accepted manifest is handed on in the
types of its fields, with what the checks have established about them.
-/

namespace HopWhy.Release

open Python

def schemaVersion : String := "oss-v1-evidence/v1"

def project : String := "hopwhy"

/-- The gates with required criteria. -/
inductive CriteriaGate where
  | correctnessSecurity
  | deliveryMaintenance
  | performanceBounds
  | productCompatibility
deriving DecidableEq, Repr

namespace CriteriaGate

def all : List CriteriaGate :=
  [.correctnessSecurity, .deliveryMaintenance, .performanceBounds, .productCompatibility]

theorem mem_all (gate : CriteriaGate) : gate ∈ all := by
  cases gate <;> simp [all]

def name : CriteriaGate → String
  | correctnessSecurity => "correctness_security"
  | deliveryMaintenance => "delivery_maintenance"
  | performanceBounds => "performance_bounds"
  | productCompatibility => "product_compatibility"

/-- `GATE_CRITERIA`. -/
def criteria : CriteriaGate → List String
  | correctnessSecurity => ["diagnostic-accuracy", "redaction-corpus", "ssrf-policy-corpus",
      "uncertainty-calibration", "vulnerability-audit"]
  | deliveryMaintenance => ["release-supply-chain", "security-response-slo"]
  | performanceBounds => ["benchmark-reproducibility", "live-diagnostic-budget",
      "offline-operation-latency", "scenario-memory"]
  | productCompatibility => ["contract-compatibility", "explicit-capability-downgrades",
      "golden-documents", "phase-observability"]

end CriteriaGate

def gateNames : List String := "adoption" :: CriteriaGate.all.map CriteriaGate.name

def reviewAreas : List String :=
  ["diagnostic-disclosure", "proxies", "redirects", "replay", "report-integrity",
    "resolution-races", "resource-limits", "ssrf-boundaries", "tls-identity", "trust-roots"]

inductive CiTrack where
  | deterministicFixtures
  | linux
  | macos
  | windows
deriving DecidableEq, Repr

namespace CiTrack

def all : List CiTrack := [.deterministicFixtures, .linux, .macos, .windows]

theorem mem_all (track : CiTrack) : track ∈ all := by
  cases track <;> simp [all]

def name : CiTrack → String
  | deterministicFixtures => "deterministic-fixtures"
  | linux => "linux"
  | macos => "macos"
  | windows => "windows"

/-- The results for the tracks, got one after the other. -/
def forEach {α : Type} (check : CiTrack → Checked α) : Checked (CiTrack → α) := do
  let first ← check .deterministicFixtures
  let second ← check .linux
  let third ← check .macos
  let fourth ← check .windows
  return fun
    | deterministicFixtures => first
    | linux => second
    | macos => third
    | windows => fourth

theorem forEach_eq_ok {α : Type} {check : CiTrack → Checked α} {results : CiTrack → α}
    (h : forEach check = .ok results) (track : CiTrack) : check track = .ok (results track) := by
  simp only [forEach, Except.bind_eq_ok] at h
  obtain ⟨first, hfirst, second, hsecond, third, hthird, fourth, hfourth, h⟩ := h
  cases h
  cases track
  · exact hfirst
  · exact hsecond
  · exact hthird
  · exact hfourth

end CiTrack

inductive ContinuityMode where
  | singleMaintainerRecovery
  | twoMaintainerDrill
deriving DecidableEq, Repr

def continuityModes : List (String × ContinuityMode) :=
  [("single-maintainer-recovery", .singleMaintainerRecovery),
    ("two-maintainer-drill", .twoMaintainerDrill)]

structure Reference where
  label : String
  url : String

structure CriterionEvidence where
  criterion : String
  url : String

/-- Evidence for different ones of the expected criteria. -/
structure GateEvidence (expected : List String) where
  items : List CriterionEvidence
  nodup : (items.map (·.criterion)).Nodup
  known : items.map (·.criterion) ⊆ expected

structure BasicGate (expected : List String) where
  status : Status
  evidence : GateEvidence expected

structure Review where
  reviewer : String
  completedOn : Date
  url : String

structure CorrectnessGate where
  status : Status
  evidence : GateEvidence CriteriaGate.correctnessSecurity.criteria
  independentReview : Option Review
  openCritical : ℕ
  openHigh : ℕ
  reviewedAreas : List String
  nodup : reviewedAreas.Nodup
  known : reviewedAreas ⊆ reviewAreas

structure CiRun where
  date : Date
  url : String

/-- The runs of a track, at most one for a day. -/
structure TrackRuns where
  runs : List CiRun
  nodup : (runs.map (·.date)).Nodup

structure CiWindow where
  start : Option Date
  endDate : Option Date
  requiredDays : ℕ
  required_days_eq : requiredDays = 30
  tracks : CiTrack → TrackRuns

structure Continuity where
  status : Status
  mode : Option ContinuityMode
  evidence : List Reference

structure DeliveryGate where
  status : Status
  evidence : GateEvidence CriteriaGate.deliveryMaintenance.criteria
  ciWindow : CiWindow
  continuity : Continuity

structure Adopter where
  name : String
  workflow : String
  outcome : String
  firstUse : Date
  evidence : String

structure RepeatAdopter where
  adopter : String
  repeatUse : Date
  evidence : String

structure AdoptionGate where
  status : Status
  adopters : List Adopter
  repeatAdopters : List RepeatAdopter
  publicIntegration : Option Reference
  nonMaintainerContribution : Option Reference

structure Manifest where
  targetVersion : String
  semver : (semverMajor targetVersion).isSome
  asOf : Date
  productCompatibility : BasicGate CriteriaGate.productCompatibility.criteria
  correctnessSecurity : CorrectnessGate
  performanceBounds : BasicGate CriteriaGate.performanceBounds.criteria
  deliveryMaintenance : DeliveryGate
  adoption : AdoptionGate

section

variable [Stdlib]

/-- Unknown names are reported in order. -/
def onlyKnown (names expected : List String) (message : String) :
    Checked (PLift (names ⊆ expected)) :=
  let unknown := sortedSet (names.filter (· ∉ expected))
  if h : unknown = [] then .ok ⟨subset_of_sortedSet h⟩
  else .error (.evidenceError (message ++ ", ".intercalate unknown))

def referenceItem (value : PyValue) (path : String) : Checked Reference := do
  let item ← object value path
  exactKeys item ["label", "url"] path
  let label ← field string item path "label"
  let url ← field httpsUrl item path "url"
  return ⟨label, url⟩

def criterionEvidence (value : PyValue) (path : String) : Checked CriterionEvidence := do
  let item ← object value path
  exactKeys item ["criterion", "url"] path
  let criterion ← field string item path "criterion"
  let url ← field httpsUrl item path "url"
  return ⟨criterion, url⟩

def gateEvidence (expected : List String) (value : PyValue) (path : String) :
    Checked (GateEvidence expected) := do
  let items ← listOf criterionEvidence value path
  let criteria := items.map (·.criterion)
  let nodup ← require criteria.Nodup (path ++ " must not contain duplicate criteria")
  let known ← onlyKnown criteria expected (path ++ " has unknown criteria: ")
  return ⟨items, nodup.down, known.down⟩

def basicGate (expected : List String) (value : PyValue) (path : String) :
    Checked (BasicGate expected) := do
  let gate ← object value path
  exactKeys gate ["status", "evidence"] path
  let status ← field status gate path "status"
  let evidence ← field (gateEvidence expected) gate path "evidence"
  return ⟨status, evidence⟩

def review (value : PyValue) (path : String) : Checked Review := do
  let review ← object value path
  exactKeys review ["reviewer", "completed_on", "url"] path
  let reviewer ← field string review path "reviewer"
  let completedOn ← field date review path "completed_on"
  let url ← field httpsUrl review path "url"
  return ⟨reviewer, completedOn, url⟩

def correctnessGate (value : PyValue) (path : String) : Checked CorrectnessGate := do
  let gate ← object value path
  exactKeys gate ["status", "evidence", "independent_review", "open_critical", "open_high",
    "reviewed_areas"] path
  let status ← field status gate path "status"
  let evidence ←
    field (gateEvidence CriteriaGate.correctnessSecurity.criteria) gate path "evidence"
  let independentReview ← field (optional review) gate path "independent_review"
  let openCritical ← field nonnegativeInteger gate path "open_critical"
  let openHigh ← field nonnegativeInteger gate path "open_high"
  let areas ← field (listOf string) gate path "reviewed_areas"
  let nodup ← require areas.Nodup (path ++ ".reviewed_areas must not contain duplicates")
  let known ← onlyKnown areas reviewAreas (path ++ ".reviewed_areas has unknown values: ")
  return ⟨status, evidence, independentReview, openCritical, openHigh, areas, nodup.down,
    known.down⟩

def ciRun (value : PyValue) (path : String) : Checked CiRun := do
  let run ← object value path
  exactKeys run ["date", "url"] path
  let runDate ← field date run path "date"
  let url ← field runUrl run path "url"
  return ⟨runDate, url⟩

def trackRuns (value : PyValue) (path : String) : Checked TrackRuns := do
  let runs ← listOf ciRun value path
  let nodup ← require (runs.map (·.date)).Nodup (path ++ " must not contain duplicate dates")
  return ⟨runs, nodup.down⟩

def ciWindow (value : PyValue) (path : String) : Checked CiWindow := do
  let window ← object value path
  exactKeys window ["start", "end", "required_days", "tracks"] path
  let start ← field (optional date) window path "start"
  let endDate ← field (optional date) window path "end"
  let requiredDays ← field nonnegativeInteger window path "required_days"
  let thirty ← require (requiredDays = 30) (path ++ ".required_days must remain 30")
  let tracks ← field object window path "tracks"
  exactKeys tracks (CiTrack.all.map CiTrack.name) (path ++ ".tracks")
  let runs ← CiTrack.forEach fun track => field trackRuns tracks (path ++ ".tracks") track.name
  return ⟨start, endDate, requiredDays, thirty.down, runs⟩

def continuity (value : PyValue) (path : String) : Checked Continuity := do
  let continuity ← object value path
  exactKeys continuity ["status", "mode", "evidence"] path
  let status ← field status continuity path "status"
  let mode ← field (optional (oneOf continuityModes)) continuity path "mode"
  let evidence ← field (listOf referenceItem) continuity path "evidence"
  return ⟨status, mode, evidence⟩

def deliveryGate (value : PyValue) (path : String) : Checked DeliveryGate := do
  let gate ← object value path
  exactKeys gate ["status", "evidence", "ci_window", "continuity"] path
  let status ← field status gate path "status"
  let evidence ←
    field (gateEvidence CriteriaGate.deliveryMaintenance.criteria) gate path "evidence"
  let window ← field ciWindow gate path "ci_window"
  let continuity ← field continuity gate path "continuity"
  return ⟨status, evidence, window, continuity⟩

def adopter (value : PyValue) (path : String) : Checked Adopter := do
  let adopter ← object value path
  exactKeys adopter ["name", "workflow", "outcome", "first_use", "evidence"] path
  let name ← field string adopter path "name"
  let workflow ← field string adopter path "workflow"
  let outcome ← field string adopter path "outcome"
  let firstUse ← field date adopter path "first_use"
  let evidence ← field httpsUrl adopter path "evidence"
  return ⟨name, workflow, outcome, firstUse, evidence⟩

def repeatAdopter (value : PyValue) (path : String) : Checked RepeatAdopter := do
  let again ← object value path
  exactKeys again ["adopter", "repeat_use", "evidence"] path
  let adopter ← field string again path "adopter"
  let repeatUse ← field date again path "repeat_use"
  let evidence ← field httpsUrl again path "evidence"
  return ⟨adopter, repeatUse, evidence⟩

def adoptionGate (value : PyValue) (path : String) : Checked AdoptionGate := do
  let gate ← object value path
  exactKeys gate ["status", "adopters", "repeat_adopters", "public_integration",
    "non_maintainer_contribution"] path
  let status ← field status gate path "status"
  let adopters ← field (listOf adopter) gate path "adopters"
  let repeats ← field (listOf repeatAdopter) gate path "repeat_adopters"
  let integration ← field (optional referenceItem) gate path "public_integration"
  let contribution ← field (optional referenceItem) gate path "non_maintainer_contribution"
  return ⟨status, adopters, repeats, integration, contribution⟩

def validateStructure (manifest : PyValue) : Checked Manifest := do
  let root ← object manifest "$"
  exactKeys root ["schema_version", "project", "target_version", "as_of", "gates"] "$"
  let version ← field string root "$" "schema_version"
  let _ ← require (version = schemaVersion)
    ("$.schema_version must be " ++ Stdlib.repr schemaVersion)
  let name ← field string root "$" "project"
  let _ ← require (name = project) ("$.project must be " ++ Stdlib.repr project)
  let targetVersion ← field string root "$" "target_version"
  let semver ← require (semverMajor targetVersion).isSome
    "$.target_version must be a valid SemVer version"
  let asOf ← field date root "$" "as_of"
  let gates ← field object root "$" "gates"
  exactKeys gates gateNames "$.gates"
  let product ← field (basicGate CriteriaGate.productCompatibility.criteria) gates "$.gates"
    "product_compatibility"
  let correctness ← field correctnessGate gates "$.gates" "correctness_security"
  let performance ← field (basicGate CriteriaGate.performanceBounds.criteria) gates "$.gates"
    "performance_bounds"
  let delivery ← field deliveryGate gates "$.gates" "delivery_maintenance"
  let adoption ← field adoptionGate gates "$.gates" "adoption"
  return ⟨targetVersion, semver.down, asOf, product, correctness, performance, delivery, adoption⟩

end

end HopWhy.Release
