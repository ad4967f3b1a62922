import HopWhy.Guarantees.Seal
import HopWhy.Guarantees.SpecDocuments
import HopWhy.Library.CodecOrder

/-!
# Member order

Reports and specs are read by the names of their members. Two documents that spell one
JSON value in different orders of members are accepted alike, as the same report or the
same spec, or refused under the same code.
-/

namespace HopWhy

open Codec

instance : optionString.Rekeys := by unfold optionString; infer_instance

instance : RequestMethod.codec.Rekeys := by unfold RequestMethod.codec; infer_instance

instance : PhaseName.codec.Rekeys := by unfold PhaseName.codec; infer_instance

instance : PhaseStatus.codec.Rekeys := by unfold PhaseStatus.codec; infer_instance

instance : ProbeKind.codec.Rekeys := by unfold ProbeKind.codec; infer_instance

instance : optionPhaseName.Rekeys := by unfold optionPhaseName; infer_instance

instance : InspectionOptions.codec.Rekeys :=
  record_rekeys (by unfold InspectionOptions.fields; infer_instance)

instance : InspectSpec.codec.Rekeys :=
  record_rekeys (by unfold InspectSpec.fields; infer_instance)

instance : TargetSummary.codec.Rekeys :=
  record_rekeys (by unfold TargetSummary.fields; infer_instance)

instance : ProxySummary.codec.Rekeys :=
  record_rekeys (by unfold ProxySummary.fields; infer_instance)

instance : Observation.codec.Rekeys :=
  record_rekeys (by unfold Observation.fields; infer_instance)

instance : DiagnosticError.codec.Rekeys :=
  record_rekeys (by unfold DiagnosticError.fields; infer_instance)

instance : Phase.codec.Rekeys :=
  record_rekeys (by
    unfold Phase.fields
    repeat' first | infer_instance | apply Fields.cons_rekeys | apply option_rekeys)

instance : ProbeRecord.codec.Rekeys :=
  record_rekeys (by unfold ProbeRecord.fields; infer_instance)

instance : AddressObservation.codec.Rekeys :=
  record_rekeys (by unfold AddressObservation.fields; infer_instance)

instance : TlsSummary.codec.Rekeys :=
  record_rekeys (by unfold TlsSummary.fields; infer_instance)

instance : HttpHop.codec.Rekeys :=
  record_rekeys (by unfold HttpHop.fields; infer_instance)

instance : Hypothesis.codec.Rekeys :=
  record_rekeys (by unfold Hypothesis.fields; infer_instance)

instance : Budget.codec.Rekeys :=
  record_rekeys (by unfold Budget.fields; infer_instance)

instance : Usage.codec.Rekeys :=
  record_rekeys (by unfold Usage.fields; infer_instance)

instance : Report.codec.Rekeys :=
  record_rekeys (by
    unfold Report.fields
    repeat' first | infer_instance | apply Fields.cons_rekeys | apply option_rekeys)

section

variable [Crates]

/-- The documents spell one JSON value, and neither repeats a name in an object. -/
structure SameValue (a b : List UInt8) : Prop where
  trees : ∃ tree tree', Crates.jsonTree a = .ok tree ∧ Crates.jsonTree b = .ok tree' ∧
    tree.Distinct ∧ tree'.Distinct ∧ tree.canon = tree'.canon

/-- The value, or the class and the code of the error. -/
def verdictOf {α : Type} (r : AppResult α) : Except (ErrorClass × String) α :=
  r.mapError fun error => (error.cls, error.code)

omit [Crates] in
theorem verdictOf_bind {α β : Type} {r r' : AppResult α} (h : verdictOf r = verdictOf r')
    (f : α → AppResult β) : verdictOf (r >>= f) = verdictOf (r' >>= f) := by
  rcases r with error | a <;> rcases r' with error' | a'
  · exact congrArg Except.error (Except.error.inj h)
  · cases h
  · cases h
  · exact congrArg (fun a => verdictOf (f a)) (Except.ok.inj h)

theorem readReport_order {a b : List UInt8} (h : SameValue a b) (label label' : String) :
    verdictOf (readReport label a) = verdictOf (readReport label' b) := by
  obtain ⟨tree, tree', htree, htree', hdistinct, hdistinct', hcanon⟩ := h.trees
  have hread := Report.codec.read_eq_of_canon_eq hdistinct hdistinct' hcanon
  unfold readReport
  rw [htree, htree']
  dsimp only
  rw [hread]
  rcases Report.codec.read tree' with _ | report
  · rfl
  · rfl

theorem parseReportDocumentWithLabel_order {a b : List UInt8} (h : SameValue a b)
    (ha : a.length ≤ maxReportBytes) (hb : b.length ≤ maxReportBytes) (label label' : String) :
    verdictOf (parseReportDocumentWithLabel a label) =
      verdictOf (parseReportDocumentWithLabel b label') := by
  unfold parseReportDocumentWithLabel
  rw [if_neg (Nat.not_lt.mpr ha), if_neg (Nat.not_lt.mpr hb)]
  exact verdictOf_bind (readReport_order h label label') _

theorem loadReport_of_holds {path : String} {file : ReportFile} {bytes : List UInt8}
    (h : Holds file maxReportBytes bytes) :
    loadReport path file = parseReportDocumentWithLabel bytes path := by
  obtain ⟨len, hmetadata, hlen⟩ := h.regular
  unfold loadReport
  simp [hmetadata, h.contents, Nat.not_lt.mpr hlen]

variable [CliCrates]

theorem readSpec_order {a b : List UInt8} (h : SameValue a b) (path path' : String) :
    verdictOf (readSpec path a) = verdictOf (readSpec path' b) := by
  obtain ⟨tree, tree', htree, htree', hdistinct, hdistinct', hcanon⟩ := h.trees
  have hread := InspectSpec.codec.read_eq_of_canon_eq hdistinct hdistinct' hcanon
  unfold readSpec
  rw [htree, htree']
  dsimp only
  rw [hread]
  rcases InspectSpec.codec.read tree' with _ | spec
  · rfl
  · rfl

/-- Files that spell one value are the same report and the same spec to the tool. -/
theorem load_order {a b : List UInt8} (h : SameValue a b) (ha : a.length ≤ maxReportBytes)
    (hb : b.length ≤ maxReportBytes) {file file' : ReportFile} {path path' : String} :
    (Holds file maxReportBytes a → Holds file' maxReportBytes b →
      verdictOf (loadReport path file) = verdictOf (loadReport path' file')) ∧
    (Holds file maxSpecBytes a → Holds file' maxSpecBytes b →
      verdictOf (loadSpec path file) = verdictOf (loadSpec path' file')) := by
  constructor
  · intro hfile hfile'
    rw [loadReport_of_holds hfile, loadReport_of_holds hfile']
    exact parseReportDocumentWithLabel_order h ha hb path path'
  · intro hfile hfile'
    rw [loadSpec_of_holds hfile, loadSpec_of_holds hfile']
    exact readSpec_order h path path'

end

/-- The example spec with its target first. -/
def exampleSpecTree' : Json :=
  .obj [("target", .str "http://example.com/"),
    ("options", .obj [("budget_ms", .num (.posInt 5000))])]

def exampleSpecBytes' : List UInt8 := Text.utf8 (exampleSpecTree'.compactText fun _ => "0.0")

/-- The recordings that read the example spec in both orders. -/
def orderRecordings : Recordings :=
  { exampleRecordings with
    documents := [(exampleSpecBytes, exampleSpecTree), (exampleSpecBytes', exampleSpecTree')] }

theorem sameValue_exampleSpec :
    letI := orderRecordings.crates
    SameValue exampleSpecBytes exampleSpecBytes' := by
  let := orderRecordings.crates
  have hne : exampleSpecBytes' ≠ exampleSpecBytes := by decide +kernel
  obtain ⟨hfirst, hsecond⟩ := jsonTree_pair exampleRecordings exampleSpecTree exampleSpecTree' hne
  exact ⟨_, _, hfirst, hsecond, by decide +kernel, by decide +kernel, rfl⟩

/-- The sealed report with the members of all its objects in the order of their names. -/
def sortedBytes : List UInt8 :=
  Text.utf8 ((structuredOutput sealedReport).compactText exampleRecordings.crates.doubleText)

/-- The sealed report with its members as they are declared. -/
def declaredBytes : List UInt8 :=
  Text.utf8 ((Report.codec.write sealedReport).compactText exampleRecordings.crates.doubleText)

def reorderedRecordings : Recordings :=
  { exampleRecordings with
    documents := [(sortedBytes, structuredOutput sealedReport),
      (declaredBytes, Report.codec.write sealedReport)] }

theorem jsonTree_reordered :
    letI := reorderedRecordings.crates
    Crates.jsonTree sortedBytes = .ok (structuredOutput sealedReport) ∧
      Crates.jsonTree declaredBytes = .ok (Report.codec.write sealedReport) := by
  refine jsonTree_pair exampleRecordings (structuredOutput sealedReport)
    (Report.codec.write sealedReport) ?_
  rw [declaredBytes, sortedBytes, Json.compactText, Json.compactText, Text.utf8_ofList,
    Text.utf8_ofList]
  decide +kernel

theorem sameValue_sealedReport :
    letI := reorderedRecordings.crates
    SameValue sortedBytes declaredBytes := by
  let := reorderedRecordings.crates
  obtain ⟨hsorted, hdeclared⟩ := jsonTree_reordered
  exact ⟨_, _, hsorted, hdeclared, by decide +kernel, by decide +kernel, Json.canon_canon _⟩

theorem length_sealedReport_le :
    sortedBytes.length ≤ maxReportBytes ∧ declaredBytes.length ≤ maxReportBytes := by
  let := exampleRecordings.crates
  have hsmall : documentSize Json.sixfold false sealedReport ≤ maxReportBytes :=
    (sealedReport_intact.2 false).trans (by decide)
  constructor
  · rw [sortedBytes, Json.compactText, length_utf8_ofList]
    exact (octets_structuredOutput_le Json.octets_quote_le_sixfold false sealedReport).trans hsmall
  · rw [declaredBytes, Json.compactText, length_utf8_ofList]
    exact (Json.octets_text_le Json.octets_quote_le_sixfold _ 0).trans hsmall

theorem holds_sortedBytes :
    Holds ⟨.ok (true, 2000), .ok sortedBytes⟩ maxReportBytes sortedBytes :=
  ⟨⟨2000, rfl, by decide⟩, rfl⟩

theorem holds_declaredBytes :
    Holds ⟨.ok (true, 2000), .ok declaredBytes⟩ maxReportBytes declaredBytes :=
  ⟨⟨2000, rfl, by decide⟩, rfl⟩

theorem parse_sortedBytes :
    letI := reorderedRecordings.crates
    parseReportDocumentWithLabel sortedBytes "a.json" = .ok sealedReport := by
  let := reorderedRecordings.crates
  have hverify : verifyReport sealedReport = .ok () := sealedReport_intact.1
  exact parseReportDocumentWithLabel_eq_ok.mpr ⟨length_sealedReport_le.1,
    ⟨_, jsonTree_reordered.1, Report.codec.read_write sealedReport⟩, hverify⟩

/-- An accepted report of which the nested objects are reordered, and the example spec in two
orders. -/
theorem exampleSpec_order :
    letI := exampleCliCrates
    letI := reorderedRecordings.crates
    loadReport "a.json" ⟨.ok (true, 2000), .ok sortedBytes⟩ = .ok sealedReport ∧
      verdictOf (loadReport "a.json" ⟨.ok (true, 2000), .ok sortedBytes⟩) =
        verdictOf (loadReport "b.json" ⟨.ok (true, 2000), .ok declaredBytes⟩) ∧
      letI := orderRecordings.crates
      verdictOf (loadSpec "a.json" ⟨.ok (true, 100), .ok exampleSpecBytes⟩) =
        verdictOf (loadSpec "b.json" ⟨.ok (true, 100), .ok exampleSpecBytes'⟩) := by
  let := exampleCliCrates
  refine ⟨?_, ?_, ?_⟩
  · let := reorderedRecordings.crates
    exact (loadReport_of_holds holds_sortedBytes).trans parse_sortedBytes
  · let := reorderedRecordings.crates
    obtain ⟨hlength, hlength'⟩ := length_sealedReport_le
    exact (load_order sameValue_sealedReport hlength hlength').1 holds_sortedBytes
      holds_declaredBytes
  · let := orderRecordings.crates
    have hlength : exampleSpecBytes.length ≤ maxReportBytes := by decide +kernel
    have hlength' : exampleSpecBytes'.length ≤ maxReportBytes := by decide +kernel
    exact (load_order sameValue_exampleSpec hlength hlength').2 ⟨⟨100, rfl, by decide⟩, rfl⟩
      ⟨⟨100, rfl, by decide⟩, rfl⟩

end HopWhy
