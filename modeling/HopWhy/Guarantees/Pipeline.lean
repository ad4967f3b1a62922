import HopWhy.Guarantees.Authorization
import HopWhy.Guarantees.MemberOrder

/-!
# From one process to the next

The report that an inspection writes in a machine format is a file for `replay` and
`compare`: a later process replays the very report, and finds no difference between two
copies of it.
-/

namespace HopWhy

section

variable [Crates] [CliCrates]

/-- An inspection has succeeded, and this is what it has written in a machine format. -/
structure Saved (host : Host) (format : OutputFormat) (target path : Option String)
    (flags : Overrides) (document : List UInt8) : Prop where
  machine : format ≠ .human
  written : ∀ n, host.stdout n = .written
  success : (execute host ⟨format, .inspect target path false flags⟩).1.exitCode = 0
  stdout : (execute host ⟨format, .inspect target path false flags⟩).1.stdout = document

omit [CliCrates] in
theorem finishOutput_stdout {answer : ℕ → WriteAnswer} (h : ∀ n, answer n = .written)
    (output : CommandOutput) (format : OutputFormat) :
    (finishOutput answer output format).stdout =
      Text.utf8 (stdoutText (output.render format)) := by
  unfold finishOutput writeStdout
  rw [h 0, h 1]
  dsimp only
  split_ifs with hlast
  · rw [stdoutText, if_pos hlast]
  · rfl

omit [CliCrates] in
theorem emitted_of_machine {format : OutputFormat} (h : format ≠ .human) (report : Report)
    (human : String) : emitted report format =
      some (Text.utf8 (stdoutText
        ((CommandOutput.structured Report.codec report human).render format))) := by
  cases format with
  | human => exact absurd rfl h
  | json => rfl
  | ndjson => rfl

theorem Saved.exists_report {host : Host} {format : OutputFormat} {target path : Option String}
    {flags : Overrides} {document : List UInt8}
    (h : Saved host format target path flags document) :
    ∃ specification report w, requestedSpec host target path flags = .ok specification ∧
      inspect host.env specification = (.ok report, w) ∧ emitted report format = some document := by
  obtain ⟨hmachine, hwritten, hsuccess, hstdout⟩ := h
  -- Exit code 0 excludes every listed failure.
  have hdecision : ∃ p, decision host target path flags = .ok p :=
    (execute_inspect_success (Host.delivers_of_written hwritten) format target path false
      flags).mp hsuccess
  obtain ⟨p, hdecision⟩ := hdecision
  have hrun := run_inspect_iff host target path false flags (World.start host.env)
  rw [hdecision] at hrun
  obtain ⟨output, hrun⟩ := hrun
  rcases hspec : requestedSpec host target path flags with error | specification
  · rw [decision, hspec] at hdecision
    cases hdecision
  · unfold execute at hstdout
    rw [run_inspect hspec] at hrun hstdout
    rcases hinspect : inspect host.env specification with ⟨error | report, w⟩ <;>
      rw [hinspect] at hrun hstdout
    · cases hrun
    · refine ⟨specification, report, w, rfl, hinspect, ?_⟩
      rw [emitted_of_machine hmachine report (renderReport report), ← hstdout]
      exact congrArg some (finishOutput_stdout hwritten _ format).symm

/-- A process that reads the report from its file replays it. -/
theorem execute_replay {host : Host} {path : String} {report : Report}
    (hload : loadReport path (host.file 0 path) = .ok report) {result : ReplayResult}
    (hreplay : replay report = .ok result) (format : OutputFormat) :
    execute host ⟨format, .replay path⟩ =
      (finishOutput host.stdout
        (.structured ReplayResult.codec result (renderReplay result)) format,
        World.start host.env) := by
  unfold execute
  rw [run, hload, Prog.bind_ok (Prog.ofExcept_apply _ _), hreplay,
    Prog.bind_ok (Prog.ofExcept_apply _ _)]
  rfl

theorem execute_compare {host : Host} {left right : String} {leftReport rightReport : Report}
    (hleft : loadReport left (host.file 0 left) = .ok leftReport)
    (hright : loadReport right (host.file 1 right) = .ok rightReport) {result : CompareResult}
    (hcompare : compare leftReport rightReport = .ok result) (format : OutputFormat) :
    execute host ⟨format, .compare left right⟩ =
      (finishOutput host.stdout
        (.structured CompareResult.codec result (renderCompare result)) format,
        World.start host.env) := by
  unfold execute
  rw [run, hleft, Prog.bind_ok (Prog.ofExcept_apply _ _), hright,
    Prog.bind_ok (Prog.ofExcept_apply _ _), hcompare, Prog.bind_ok (Prog.ofExcept_apply _ _)]
  rfl

/-- What later processes make of a report whose document stands in their files. They write in
any format, and none of them touches the network. -/
structure ReadsOn (report : Report) (document : List UInt8) : Prop where
  replays : ∃ result, ReplaysAs report result ∧ ∀ (host : Host) path format,
    Holds (host.file 0 path) maxReportBytes document →
      execute host ⟨format, .replay path⟩ =
        (finishOutput host.stdout (.structured ReplayResult.codec result (renderReplay result))
          format, World.start host.env)
  compares : ∃ result, NoDifference result ∧ ∀ (host : Host) left right format,
    Holds (host.file 0 left) maxReportBytes document →
      Holds (host.file 1 right) maxReportBytes document →
      execute host ⟨format, .compare left right⟩ =
        (finishOutput host.stdout (.structured CompareResult.codec result (renderCompare result))
          format, World.start host.env)

omit [CliCrates] in
theorem loadReport_of_parsed {path : String} {file : ReportFile} {document : List UInt8}
    {report : Report} (hfile : Holds file maxReportBytes document)
    (hparsed : parseReportDocument document = .ok report) : loadReport path file = .ok report := by
  obtain ⟨hsize, htree, hverify⟩ := parseReportDocument_eq_ok.mp hparsed
  have hread : readReport path document = .ok report := readReport_eq_ok.mpr htree
  rw [loadReport_of_holds hfile, parseReportDocumentWithLabel, if_neg (Nat.not_lt.mpr hsize), hread]
  change (verifyReport report >>= fun _ => pure report) = _
  rw [hverify]
  rfl

theorem readsOn_of_emitted {report : Report} {format : OutputFormat} {document : List UInt8}
    (hemitted : emitted report format = some document)
    (hprinted : PrintsBack (structuredOutput report) format)
    (hsize : document.length ≤ maxReportBytes) (hverify : verifyReport report = .ok ())
    (hnodup : (report.phases.map Phase.name).Nodup) : ReadsOn report document := by
  have hload : ∀ {path : String} {file : ReportFile}, Holds file maxReportBytes document →
      loadReport path file = .ok report := fun hfile =>
    loadReport_of_parsed hfile (parseReportDocument_emitted hemitted hprinted hsize hverify)
  obtain ⟨result, hreplay, hreplays⟩ := replay_of_verifyReport hverify hnodup
  obtain ⟨difference, hcompare, hsame⟩ := compare_self hverify
  constructor
  · exact ⟨result, hreplays, fun host path format hfile =>
      execute_replay (hload hfile) hreplay format⟩
  · exact ⟨difference, hsame, fun host left right format hleft hright =>
      execute_compare (hload hleft) (hload hright) hcompare format⟩

/-- The report of an inspection process is read on by later processes from what it wrote. -/
theorem Saved.readsOn {host : Host} {format : OutputFormat} {target path : Option String}
    {flags : Overrides} {document : List UInt8}
    (h : Saved host format target path flags document) (hsize : document.length ≤ maxReportBytes)
    (hprinted : ∀ specification report, requestedSpec host target path flags = .ok specification →
      (inspect host.env specification).1 = .ok report →
        PrintsBack (structuredOutput report) format) :
    ∃ specification report, requestedSpec host target path flags = .ok specification ∧
      (inspect host.env specification).1 = .ok report ∧ ReadsOn report document := by
  obtain ⟨specification, report, w, hspec, hinspect, hemitted⟩ := h.exists_report
  have hreport : (inspect host.env specification).1 = .ok report := by rw [hinspect]
  refine ⟨specification, report, hspec, hreport, ?_⟩
  exact readsOn_of_emitted hemitted (hprinted specification report hspec hreport) hsize
    (verifyReport_of_inspect hinspect) (phaseNames_nodup_of_inspect hinspect)

end

/-- The report of the front page, as a later process finds it in a file. -/
theorem frontPage_readsOn :
    ∃ report document, letI := (exampleRecordings.emitting report).crates
      letI := exampleCliCrates
      ∃ specification reread,
        requestedSpec (.plain frontPage) (some "http://example.com/") none {} =
          .ok specification ∧
        (inspect frontPage specification).1 = .ok reread ∧ ReadsOn reread document := by
  obtain ⟨report, ⟨w, hrun⟩, hsize⟩ := exists_frontPage_report
  let := (exampleRecordings.emitting report).crates
  let := exampleCliCrates
  have hspec : requestedSpec (.plain frontPage) (some "http://example.com/") none {} =
      .ok frontPageSpec := rfl
  have hdecision : ∃ p, decision (.plain frontPage) (some "http://example.com/") none {} =
      .ok p := by
    obtain ⟨o, -⟩ := inspectWithBackend_eq_ok (liveBackend frontPage) hrun
    exact ⟨_, by rw [decision, hspec]; exact plan_opening o⟩
  have hsaved : Saved (.plain frontPage) .json (some "http://example.com/") none {} _ :=
    ⟨by decide, fun _ => rfl,
      (execute_inspect_success (Host.delivers_of_written fun _ => rfl) .json
        (some "http://example.com/") none false {}).mpr
        hdecision, rfl⟩
  obtain ⟨specification, reread, w, hspec', hinspect, hemitted⟩ := hsaved.exists_report
  obtain rfl : frontPageSpec = specification := Except.ok.inj (hspec.symm.trans hspec')
  obtain rfl : report = reread := Except.ok.inj (congrArg Prod.fst (hrun.symm.trans hinspect))
  refine ⟨report, _, hsaved.readsOn (hsize _ _ hemitted) ?_⟩
  intro specification reread hspec' hreport
  obtain rfl : frontPageSpec = specification := Except.ok.inj (hspec.symm.trans hspec')
  obtain rfl : report = reread := Except.ok.inj ((congrArg Prod.fst hrun).symm.trans hreport)
  exact printsBack_emitting _ _ _

end HopWhy
