import HopWhy.Guarantees.ReadBack

/-!
# The seal

A report and its digest determine each other: the digest covers the compact text
of every other field, and the writing of a report is injective. So a report that
keeps a digest but changes a field is refused by every offline command.
-/

namespace HopWhy

/-- The tree whose text the seal covers. -/
def sealedTree (report : Report) : Json :=
  Report.codec.write { report with reportSha256 := none }

theorem eq_of_sealedTree_eq {a b : Report} (htree : sealedTree a = sealedTree b)
    (hseal : a.reportSha256 = b.reportSha256) : a = b := by
  have hfields := Report.codec.write_injective htree
  calc
    a = { { a with reportSha256 := none } with reportSha256 := a.reportSha256 } := rfl
    _ = { { b with reportSha256 := none } with reportSha256 := b.reportSha256 } := by
      rw [hfields, hseal]
    _ = b := rfl

section

variable [Crates]

def sealedText (report : Report) : String := (sealedTree report).compactText Crates.doubleText

/-- What the seals of two reports rest on: the printer tells their trees apart,
and their texts are no collision of the hash. -/
structure SealsApart (a b : Report) : Prop where
  printer : sealedText a = sealedText b → sealedTree a = sealedTree b
  collision_free : Crates.sha256 (Text.utf8 (sealedText a)) =
    Crates.sha256 (Text.utf8 (sealedText b)) →
      Text.utf8 (sealedText a) = Text.utf8 (sealedText b)

/-- Different digests tell two reports apart. -/
theorem SealsApart.of_sha256_ne {a b : Report} (h : Crates.sha256 (Text.utf8 (sealedText a)) ≠
    Crates.sha256 (Text.utf8 (sealedText b))) : SealsApart a b where
  printer htext := absurd (congrArg (fun text => Crates.sha256 (Text.utf8 text)) htext) h
  collision_free hdigest := absurd hdigest h

/-- Equal digests are digests of equal fields. -/
theorem sealedTree_eq_of_digestReport_eq {a b : Report} (hapart : SealsApart a b)
    (h : digestReport a = digestReport b) : sealedTree a = sealedTree b :=
  hapart.printer (Text.utf8_injective (hapart.collision_free (sha256_of_sha256Hex h)))

/-- Two intact reports under one digest are one report. -/
theorem eq_of_verifyReport {a b : Report} (ha : verifyReport a = .ok ())
    (hb : verifyReport b = .ok ()) (hseal : a.reportSha256 = b.reportSha256)
    (hapart : SealsApart a b) : a = b := by
  obtain ⟨-, hdigest⟩ := verifyReport_eq_ok.mp ha
  obtain ⟨-, hdigest'⟩ := verifyReport_eq_ok.mp hb
  rw [hdigest, hdigest'] at hseal
  exact eq_of_sealedTree_eq (sealedTree_eq_of_digestReport_eq hapart (Option.some.inj hseal))
    (by rw [hdigest, hdigest', hseal])

/-- Every offline command refuses the report. -/
structure Refused (report : Report) : Prop where
  verify : ∃ error, verifyReport report = .error error
  replay : ∃ error, replay report = .error error
  compare_left : ∀ other, ∃ error, compare report other = .error error
  compare_right : ∀ other, ∃ error, compare other report = .error error

theorem refused_of_verifyReport {report : Report} (h : verifyReport report ≠ .ok ()) :
    Refused report := by
  rcases hverify : verifyReport report with error | u
  · refine ⟨⟨error, hverify⟩, ⟨error, ?_⟩, fun other => ⟨error, ?_⟩, fun other => ?_⟩
    · rw [HopWhy.replay, hverify]
      rfl
    · rw [compare, hverify]
      rfl
    · rw [compare]
      rcases verifyReport other with error' | u
      · exact ⟨error', rfl⟩
      · exact ⟨error, by rw [hverify]; rfl⟩
  · exact absurd hverify h

/-- Under the digest of an accepted report, a document reads as that report or
is refused. -/
theorem parseReportDocument_tamperEvident {document : List UInt8} {report : Report}
    (haccepted : parseReportDocument document = .ok report) {other : Report}
    (hseal : other.reportSha256 = report.reportSha256) (hapart : SealsApart other report) :
    (∀ document', parseReportDocument document' = .ok other → other = report) ∧
      (other ≠ report → Refused other) := by
  obtain ⟨-, -, hreport⟩ := parseReportDocument_eq_ok.mp haccepted
  have hverified : verifyReport other = .ok () → other = report :=
    fun hother => eq_of_verifyReport hother hreport hseal hapart
  refine ⟨fun document' hdocument => ?_, fun hne => ?_⟩
  · obtain ⟨-, -, hother⟩ := parseReportDocument_eq_ok.mp hdocument
    exact hverified hother
  · exact refused_of_verifyReport fun hother => hne (hverified hother)

end

/-- A report of little more than its failure. -/
def failureReport : Report where
  schemaVersion := reportSchemaVersion
  toolVersion := toolVersion
  startedAtUnixMs := 0
  target := ⟨"http://a/", "http://a/", "http", "a", 80⟩
  proxy := ⟨false, none, none, none, none⟩
  options := {}
  budget := ⟨15000, 12, 4, 5, 4096⟩
  usage := ⟨0, 0, 0⟩
  probes := []
  addresses := []
  tls := none
  http := []
  phases := []
  failedAt := some .dns
  hypotheses := []
  ruledOut := []
  omissions := []
  reportSha256 := none

def sealedReport : Report :=
  letI := exampleRecordings.crates
  { failureReport with reportSha256 := some (digestReport failureReport) }

/-- The report without its failure, under the same seal. -/
def tamperedReport : Report := { sealedReport with failedAt := none }

theorem sealedReport_intact :
    letI := exampleRecordings.crates
    verifyReport sealedReport = .ok () ∧
      ∀ pretty, documentSize Json.sixfold pretty sealedReport ≤ 101000 := by
  let := exampleRecordings.crates
  have hverify : verifyReport sealedReport = .ok () := verifyReport_eq_ok.mpr ⟨rfl, rfl⟩
  have hsmall : ∀ pretty, documentSize Json.sixfold pretty failureReport ≤ 100000 := by
    decide +kernel
  exact ⟨hverify, fun pretty => documentSize_le_of_sealed hverify (hsmall pretty)⟩

theorem tampered_sha256_ne :
    letI := exampleRecordings.crates
    Crates.sha256 (Text.utf8 (sealedText tamperedReport)) ≠
      Crates.sha256 (Text.utf8 (sealedText sealedReport)) := by
  let := exampleRecordings.crates
  -- As lists of characters the texts are quicker to evaluate than as strings.
  rw [sealedText, sealedText, Json.compactText, Json.compactText, Text.utf8_ofList,
    Text.utf8_ofList]
  decide +kernel

/-- The two documents of the front page's report are one report, and a report is refused
from which the failure was removed. -/
theorem frontPage_tamperEvident :
    (∃ report json ndjson other, letI := (exampleRecordings.emitting report).crates
      parseReportDocument json = .ok report ∧ parseReportDocument ndjson = .ok other ∧
      other.reportSha256 = report.reportSha256 ∧ other = report) ∧
    ∃ document, letI := (exampleRecordings.emitting sealedReport).crates
      parseReportDocument document = .ok sealedReport ∧
      tamperedReport.reportSha256 = sealedReport.reportSha256 ∧ Refused tamperedReport := by
  constructor
  · obtain ⟨report, ⟨w, hrun⟩, hsize⟩ := exists_frontPage_report
    let := (exampleRecordings.emitting report).crates
    have haccepted : ∀ format document, emitted report format = some document →
        parseReportDocument document = .ok report := fun format document hemitted =>
      parseReportDocument_emitted hemitted (printsBack_emitting _ _ _)
        (hsize format document hemitted) (verifyReport_of_inspect hrun)
    have hjson := haccepted .json _ rfl
    have hndjson := haccepted .ndjson _ rfl
    exact ⟨report, _, _, report, hjson, hndjson, rfl,
      (parseReportDocument_tamperEvident hjson rfl ⟨fun _ => rfl, fun _ => rfl⟩).1 _ hndjson⟩
  · let := (exampleRecordings.emitting sealedReport).crates
    have hverify : verifyReport sealedReport = .ok () := sealedReport_intact.1
    have hsmall : ∀ pretty, documentSize Json.sixfold pretty sealedReport ≤ 101000 :=
      sealedReport_intact.2
    have hemitted : emitted sealedReport .json = some (Text.utf8
        (stdoutText ((structuredOutput sealedReport).prettyText Crates.doubleText))) := rfl
    have haccepted := parseReportDocument_emitted hemitted (printsBack_emitting _ _ _)
      (length_emitted_of_small hsmall hemitted) hverify
    have hne : tamperedReport ≠ sealedReport := fun h => nomatch congrArg Report.failedAt h
    have hseal : tamperedReport.reportSha256 = sealedReport.reportSha256 := rfl
    have hapart : SealsApart tamperedReport sealedReport := .of_sha256_ne tampered_sha256_ne
    exact ⟨_, haccepted, hseal,
      (parseReportDocument_tamperEvident haccepted hseal hapart).2 hne⟩

end HopWhy
