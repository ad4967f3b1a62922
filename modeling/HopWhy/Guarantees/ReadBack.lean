import HopWhy.Guarantees.PhaseLedger
import HopWhy.Offline.Commands
import HopWhy.Offline.Sizes

/-!
# Reading emitted reports back

Every report of an inspection is intact, and its phases have different names. So
its document reads back as the report itself, a replay shows each phase once, and
a comparison with the original finds nothing.
-/

namespace HopWhy

/-- A replay shows the outcome of the report and each of its phases once. -/
structure ReplaysAs (report : Report) (result : ReplayResult) : Prop where
  failedAt : result.failedAt = report.failedAt
  hypotheses : result.hypotheses = report.hypotheses
  size : result.phaseStatuses.size = report.phases.length
  statuses : ∀ phase ∈ report.phases,
    result.phaseStatuses.get? (phaseKey phase.name) = some phase.status

/-- A comparison that found nothing. -/
structure NoDifference (result : CompareResult) : Prop where
  same_target : result.sameIntendedTarget = true
  same_failed : result.sameFailedPhase = true
  phases : result.phaseDifferences = []
  http : result.leftHttpStatuses = result.rightHttpStatuses
  summary : result.summary = [noDifferenceText]

theorem phaseDifferencesOf_self (statuses : OrderedMap PhaseName PhaseStatus) :
    phaseDifferencesOf statuses statuses = [] := by
  simp [phaseDifferencesOf]

section

variable [Crates]

theorem verifyReport_sealReport {report : Report} (h : report.schemaVersion = reportSchemaVersion) :
    verifyReport (sealReport report) = .ok () := verifyReport_eq_ok.mpr ⟨h, rfl⟩

theorem verifyReport_finalized {σ : Type} [Clock σ] (run : Except Draft Draft × Session σ) :
    verifyReport (finalized run).1 = .ok () := verifyReport_sealReport rfl

variable {env : Environment} {spec : InspectSpec} {report : Report} {w : World env}

theorem verifyReport_of_inspect (h : inspect env spec = (.ok report, w)) :
    verifyReport report = .ok () := by
  obtain ⟨o, ho⟩ := inspectWithBackend_eq_ok (liveBackend env) h
  have hverify := verifyReport_finalized
    (o.stages (liveBackend env) env.wallClock (World.start env))
  rw [← Opening.outcome, ho] at hverify
  exact hverify

theorem phaseNames_nodup_of_inspect (h : inspect env spec = (.ok report, w)) :
    (report.phases.map Phase.name).Nodup := by
  obtain ⟨o, -⟩ := inspectWithBackend_eq_ok (liveBackend env) h
  obtain ⟨stages, hledger⟩ := exists_phaseLedger_of_inspect h o
  exact canonicalPhases_nodup.sublist hledger.names.sublist

theorem replay_of_verifyReport (hverify : verifyReport report = .ok ())
    (hnodup : (report.phases.map Phase.name).Nodup) :
    ∃ result, replay report = .ok result ∧ ReplaysAs report result := by
  have hkeys : ((report.phases.map fun phase => (phaseKey phase.name, phase.status)).map
      Prod.fst).Nodup := by
    have := hnodup.map phaseKey_injective
    simpa [List.map_map, Function.comp_def] using this
  refine ⟨_, by rw [replay, hverify]; rfl, rfl, rfl, ?_, fun phase hphase => ?_⟩
  · dsimp only
    rw [OrderedMap.size_ofList hkeys, List.length_map]
  · dsimp only
    rw [OrderedMap.get?_ofList hkeys]
    exact lookup_of_mem_of_nodup hkeys
      (List.mem_map_of_mem (f := fun phase => (phaseKey phase.name, phase.status)) hphase)

theorem compare_self (hverify : verifyReport report = .ok ()) :
    ∃ result, compare report report = .ok result ∧ NoDifference result := by
  refine ⟨_, by rw [compare, hverify]; rfl, ?_, ?_, phaseDifferencesOf_self _, rfl, ?_⟩
  · exact decide_eq_true rfl
  · exact decide_eq_true rfl
  · simp [phaseDifferencesOf_self, summaryOf]

/-- What the tool emits, its offline commands read as the report it was. -/
theorem inspect_readsBack (h : inspect env spec = (.ok report, w)) {format : OutputFormat}
    {document : List UInt8} (hemitted : emitted report format = some document)
    (hprinted : PrintsBack (structuredOutput report) format)
    (hsize : document.length ≤ maxReportBytes) :
    ∃ reread, parseReportDocument document = .ok reread ∧ reread = report ∧
      (∃ result, replay reread = .ok result ∧ ReplaysAs report result) ∧
      ∃ result, compare report reread = .ok result ∧ NoDifference result := by
  have hverify := verifyReport_of_inspect h
  exact ⟨report, parseReportDocument_emitted hemitted hprinted hsize hverify, rfl,
    replay_of_verifyReport hverify (phaseNames_nodup_of_inspect h), compare_self hverify⟩

end

/-- Reading documents is no part of a run. -/
theorem inspect_documents (r : Recordings) (documents : List (List UInt8 × Json))
    (env : Environment) (spec : InspectSpec) :
    @inspect (Recordings.crates { r with documents }) env spec = @inspect r.crates env spec := rfl

def frontPage : Environment := .calm fun _ => .ok (.bare 200 [])

def frontPageSpec : InspectSpec := ⟨"http://example.com/", {}⟩

/-- A seal adds little to a report. -/
theorem documentSize_le_of_sealed [Crates] {report : Report}
    (hverify : verifyReport report = .ok ()) {pretty : Bool}
    (h : documentSize Json.sixfold pretty { report with reportSha256 := none } ≤ 100000) :
    documentSize Json.sixfold pretty report ≤ 101000 := by
  obtain ⟨-, hdigest⟩ := verifyReport_eq_ok.mp hverify
  have hsealed := documentSize_of_sealed Json.sixfold pretty hdigest
  rw [digestReport, sha256Text, sixfold_sha256Hex] at hsealed
  omega

theorem length_emitted_of_small [Crates] {report : Report}
    (hsmall : ∀ pretty, documentSize Json.sixfold pretty report ≤ 101000) {format : OutputFormat}
    {document : List UInt8} (hemitted : emitted report format = some document) :
    document.length ≤ maxReportBytes := by
  have hlength := length_emitted_le hemitted Json.octets_quote_le_sixfold
  have hdocument := hsmall (format = .json)
  rw [maxReportBytes]
  omega

theorem frontPage_small :
    letI := exampleRecordings.crates
    ∃ report w, inspect frontPage frontPageSpec = (.ok report, w) ∧
      ∀ pretty, documentSize Json.sixfold pretty report ≤ 101000 := by
  let := exampleRecordings.crates
  have hrun : Reports (inspect frontPage frontPageSpec) fun report _ => ∀ pretty,
      documentSize Json.sixfold pretty { report with reportSha256 := none } ≤ 100000 := by
    decide +kernel
  obtain ⟨report, w, hrun, htest⟩ := exists_of_reports hrun
  exact ⟨report, w, hrun, fun pretty =>
    documentSize_le_of_sealed (verifyReport_of_inspect hrun) (of_decide_eq_true htest pretty)⟩

/-- The report of the front page, with a reader of its documents. -/
theorem exists_frontPage_report :
    ∃ report, letI := (exampleRecordings.emitting report).crates
      (∃ w, inspect frontPage frontPageSpec = (.ok report, w)) ∧
      ∀ format document, emitted report format = some document →
        document.length ≤ maxReportBytes := by
  obtain ⟨report, w, hrun, hsmall⟩ := frontPage_small
  let := (exampleRecordings.emitting report).crates
  have hrun : inspect frontPage frontPageSpec = (.ok report, w) :=
    (inspect_documents exampleRecordings _ _ _).trans hrun
  have hsmall : ∀ pretty, documentSize Json.sixfold pretty report ≤ 101000 := hsmall
  exact ⟨report, ⟨w, hrun⟩, fun _ _ => length_emitted_of_small hsmall⟩

theorem frontPage_readsBack :
    ∃ report document, letI := (exampleRecordings.emitting report).crates
      ∃ reread, emitted report .json = some document ∧
      parseReportDocument document = .ok reread ∧ reread = report ∧
      (∃ result, replay reread = .ok result ∧ ReplaysAs report result) ∧
      ∃ result, compare report reread = .ok result ∧ NoDifference result := by
  obtain ⟨report, ⟨w, hrun⟩, hsize⟩ := exists_frontPage_report
  let := (exampleRecordings.emitting report).crates
  have hemitted : emitted report .json = some (Text.utf8
      (stdoutText ((structuredOutput report).prettyText Crates.doubleText))) := rfl
  obtain ⟨reread, h⟩ := inspect_readsBack hrun hemitted (printsBack_emitting _ _ _)
    (hsize _ _ hemitted)
  exact ⟨report, _, reread, hemitted, h⟩

end HopWhy
