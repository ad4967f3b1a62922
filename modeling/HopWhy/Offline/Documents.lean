import HopWhy.Engine.Finalize

/-!
# Report documents

Writing a report as a document and reading one back. The document is printed
from a re-keyed tree, while the seal covers the compact text in field order. The
reader checks size, shape, schema version and seal, in this order.
-/

namespace HopWhy

inductive OutputFormat where
  | human
  | json
  | ndjson
deriving DecidableEq, Repr

def maxReportBytes : ℕ := 8 * 1024 * 1024

def reportTooLarge : AppError :=
  .new .budget "report_too_large" ("report exceeds the " ++ toString maxReportBytes ++
    " byte offline limit")

def reportMetadataFailed (path error : String) : AppError :=
  .new .io "report_metadata_failed" ("could not inspect report " ++ path ++ ": " ++ error)

def reportNotRegularFile (path : String) : AppError :=
  .new .io "report_not_regular_file" ("report " ++ path ++ " is not a regular file")

def reportFileTooLarge (path : String) : AppError :=
  .new .budget "report_too_large" ("report " ++ path ++ " exceeds the " ++
    toString maxReportBytes ++ " byte offline limit")

def reportReadFailed (path error : String) : AppError :=
  .new .io "report_read_failed" ("could not read report " ++ path ++ ": " ++ error)

def invalidReportJson (label error : String) : AppError :=
  .new .contract "invalid_report_json" (label ++ " is not a HopWhy report: " ++ error)

def unsupportedReportSchema (found : String) : AppError :=
  .new .contract "unsupported_report_schema"
    ("expected " ++ reportSchemaVersion ++ ", found " ++ found)

def missingReportDigest : AppError :=
  .new .contract "missing_report_digest" "report_sha256 is required for offline operations"

def reportIntegrityMismatch : AppError :=
  .new .contract "report_integrity_mismatch" "report_sha256 does not match the report content"

section

variable [Crates]

def verifyReport (report : Report) : AppResult Unit :=
  if report.schemaVersion ≠ reportSchemaVersion then
    .error (unsupportedReportSchema report.schemaVersion)
  else
    match report.reportSha256 with
    | none => .error missingReportDigest
    | some expected =>
      if expected ≠ digestReport report then .error reportIntegrityMismatch else .ok ()

/-- The reader of the derived format: the tree of the text, then the report. -/
def readReport (label : String) (bytes : List UInt8) : AppResult Report :=
  match Crates.jsonTree bytes with
  | .error error => .error (invalidReportJson label error)
  | .ok tree =>
    match Report.codec.read tree with
    | none => .error (invalidReportJson label (Crates.reportMismatch tree))
    | some report => .ok report

def parseReportDocumentWithLabel (bytes : List UInt8) (label : String) : AppResult Report :=
  if maxReportBytes < bytes.length then .error reportTooLarge
  else do
    let report ← readReport label bytes
    verifyReport report
    pure report

def parseReportDocument (bytes : List UInt8) : AppResult Report :=
  parseReportDocumentWithLabel bytes "report document"

/-- What the file system answers about a path; an error is its display text. -/
structure ReportFile where
  metadata : Except String (Bool × UInt64)
  contents : Except String (List UInt8)

def loadReport (path : String) (file : ReportFile) : AppResult Report :=
  match file.metadata with
  | .error error => .error (reportMetadataFailed path error)
  | .ok (isFile, len) =>
    if !isFile then .error (reportNotRegularFile path)
    else if maxReportBytes < len.toNat then .error (reportFileTooLarge path)
    else
      match file.contents with
      | .error error => .error (reportReadFailed path error)
      | .ok bytes => parseReportDocumentWithLabel bytes path

/-- The re-keyed tree that the command line prints. -/
def structuredOutput (report : Report) : Json := (Report.codec.write report).canon

/-- The two machine layouts; the human one prints other text. -/
def render (value : Json) : OutputFormat → Option String
  | .human => none
  | .json => some (value.prettyText Crates.doubleText)
  | .ndjson => some (value.compactText Crates.doubleText)

/-- The text on standard output ends in a line break. -/
def stdoutText (text : String) : String :=
  if text.toList.getLast? = some '\n' then text else text ++ "\n"

/-- The octets a machine format emits for a report. -/
def emitted (report : Report) (format : OutputFormat) : Option (List UInt8) :=
  (render (structuredOutput report) format).map fun text => Text.utf8 (stdoutText text)

theorem verifyReport_eq_ok {report : Report} :
    verifyReport report = .ok () ↔
      report.schemaVersion = reportSchemaVersion ∧
        report.reportSha256 = some (digestReport report) := by
  unfold verifyReport
  split_ifs with hschema
  · simp [hschema]
  · rw [not_not] at hschema
    rcases hdigest : report.reportSha256 with _ | expected
    · simp
    · by_cases h : expected = digestReport report
      · simp [hschema, h]
      · simp [h]

theorem readReport_eq_ok {label : String} {bytes : List UInt8} {report : Report} :
    readReport label bytes = .ok report ↔
      ∃ tree, Crates.jsonTree bytes = .ok tree ∧ Report.codec.read tree = some report := by
  unfold readReport
  rcases Crates.jsonTree bytes with error | tree
  · simp
  · rcases hread : Report.codec.read tree with _ | r
    · simp [hread]
    · simp [hread]

/-- What an accepted document is. -/
theorem parseReportDocumentWithLabel_eq_ok {bytes : List UInt8} {label : String}
    {report : Report} : parseReportDocumentWithLabel bytes label = .ok report ↔
      bytes.length ≤ maxReportBytes ∧
        (∃ tree, Crates.jsonTree bytes = .ok tree ∧ Report.codec.read tree = some report) ∧
        verifyReport report = .ok () := by
  unfold parseReportDocumentWithLabel
  split_ifs with hsize
  · simp [Nat.not_le.mpr hsize]
  · have hiff := @readReport_eq_ok _ label bytes report
    rw [← hiff]
    rcases hread : readReport label bytes with error | r
    · simp [bind, Except.bind]
    · rcases hverify : verifyReport r with error | u
      · simp only [bind, Except.bind, hverify]
        constructor
        · intro h
          cases h
        · rintro ⟨-, h, h'⟩
          cases h
          rw [hverify] at h'
          cases h'
      · simp only [bind, Except.bind, hverify, pure, Except.pure]
        constructor
        · intro h
          cases h
          exact ⟨Nat.le_of_not_lt hsize, rfl, hverify⟩
        · rintro ⟨-, h, -⟩
          exact h

theorem parseReportDocument_eq_ok {bytes : List UInt8} {report : Report} :
    parseReportDocument bytes = .ok report ↔
      bytes.length ≤ maxReportBytes ∧
        (∃ tree, Crates.jsonTree bytes = .ok tree ∧ Report.codec.read tree = some report) ∧
        verifyReport report = .ok () :=
  parseReportDocumentWithLabel_eq_ok

theorem readReport_error {label : String} {bytes : List UInt8} {error : AppError}
    (h : readReport label bytes = .error error) : error.code = "invalid_report_json" := by
  unfold readReport at h
  split at h
  · cases h
    rfl
  · split at h
    · cases h
      rfl
    · cases h

theorem verifyReport_error {report : Report} {error : AppError}
    (h : verifyReport report = .error error) :
    error.code ∈ ["unsupported_report_schema", "missing_report_digest",
      "report_integrity_mismatch"] := by
  unfold verifyReport at h
  split_ifs at h
  · cases h
    exact List.mem_cons_self
  · split at h
    · cases h
      exact List.mem_cons_of_mem _ List.mem_cons_self
    · split_ifs at h
      cases h
      exact List.mem_cons_of_mem _ (List.mem_cons_of_mem _ List.mem_cons_self)

/-- Only the size check finds a document too large. -/
theorem parseReportDocumentWithLabel_code {bytes : List UInt8} {label : String} {error : AppError}
    (hsize : bytes.length ≤ maxReportBytes)
    (h : parseReportDocumentWithLabel bytes label = .error error) :
    error.code ≠ "report_too_large" := by
  rw [parseReportDocumentWithLabel, if_neg (Nat.not_lt.mpr hsize)] at h
  intro hcode
  rcases hread : readReport label bytes with failure | report
  · rw [hread] at h
    cases h
    rw [readReport_error hread] at hcode
    revert hcode
    decide
  · rw [hread] at h
    rcases hverify : verifyReport report with failure | u
    · simp only [bind, Except.bind, hverify] at h
      cases h
      have hmem := verifyReport_error hverify
      rw [hcode] at hmem
      revert hmem
      decide
    · simp only [bind, Except.bind, hverify] at h
      cases h

/-- The printed text of the value reads as the value. -/
def PrintsBack (value : Json) (format : OutputFormat) : Prop :=
  ∀ text, render value format = some text →
    Crates.jsonTree (Text.utf8 (stdoutText text)) = .ok value

/-- The document of an intact report reads as the report. -/
theorem parseReportDocument_emitted {report : Report} {format : OutputFormat}
    {document : List UInt8} (hemitted : emitted report format = some document)
    (hprinted : PrintsBack (structuredOutput report) format)
    (hsize : document.length ≤ maxReportBytes) (hverify : verifyReport report = .ok ()) :
    parseReportDocument document = .ok report := by
  obtain ⟨text, htext, rfl⟩ := Option.map_eq_some_iff.mp hemitted
  exact parseReportDocument_eq_ok.mpr
    ⟨hsize, ⟨structuredOutput report, hprinted text htext, Report.codec.read_write report⟩, hverify⟩

end

/-- The recordings that also read the documents emitted for the report. -/
def Recordings.emitting (r : Recordings) (report : Report) : Recordings :=
  let := r.crates
  let documents := [OutputFormat.json, .ndjson].filterMap (emitted report)
  { r with documents := documents.map fun document => (document, structuredOutput report) }

theorem printsBack_emitting (r : Recordings) (report : Report) (format : OutputFormat) :
    letI := (r.emitting report).crates
    PrintsBack (structuredOutput report) format := by
  let := (r.emitting report).crates
  intro text htext
  have hmem : Text.utf8 (stdoutText text) ∈
      [OutputFormat.json, .ndjson].filterMap (@emitted r.crates report) := by
    refine List.mem_filterMap.mpr ⟨format, ?_, congrArg _ htext⟩
    cases format with
    | human => cases htext
    | json => exact List.mem_cons_self
    | ndjson => exact List.mem_cons_of_mem _ List.mem_cons_self
  have hlookup := lookup_map_of_mem (structuredOutput report) hmem
  change (List.lookup _ (List.map _ _)).elim _ _ = _
  rw [hlookup]
  rfl

end HopWhy
