import HopWhy.Guarantees.ReadBack
import HopWhy.Library.Extension

/-!
# Forward extension

A reader of the format ignores a member it does not know wherever a record of the
report stands, except in the inspection options: their record is shared with the
strict input and refuses the document.
-/

namespace HopWhy

open Codec Json

/-- The places of a report where a record stands. -/
inductive ReportPart where
  | report
  | target
  | proxy
  | options
  | budget
  | usage
  | tls
  | probe
  | address
  | hop
  | phase
  | observation
  | error
  | hypothesis
deriving DecidableEq, Repr

namespace ReportPart

def InReport (field : String) (E : Json → Json → Prop) : Json → Json → Prop :=
  AtField Report.fields.names field E

def InPhase (field : String) (E : Json → Json → Prop) : Json → Json → Prop :=
  InReport "phases" (AtElement (AtField Phase.fields.names field E))

/-- A record at the place has one more member, of a name that is none of its fields. -/
def Extended (name : String) (value : Json) : ReportPart → Json → Json → Prop
  | .report => Extends Report.fields.names name value
  | .target => InReport "target" (Extends TargetSummary.fields.names name value)
  | .proxy => InReport "proxy" (Extends ProxySummary.fields.names name value)
  | .options => InReport "options" (Extends InspectionOptions.fields.names name value)
  | .budget => InReport "budget" (Extends Budget.fields.names name value)
  | .usage => InReport "usage" (Extends Usage.fields.names name value)
  | .tls => InReport "tls" (Extends TlsSummary.fields.names name value)
  | .probe => InReport "probes" (AtElement (Extends ProbeRecord.fields.names name value))
  | .address => InReport "addresses"
    (AtElement (Extends AddressObservation.fields.names name value))
  | .hop => InReport "http" (AtElement (Extends HttpHop.fields.names name value))
  | .phase => InReport "phases" (AtElement (Extends Phase.fields.names name value))
  | .observation => InPhase "observations"
    (AtElement (Extends Observation.fields.names name value))
  | .error => InPhase "error" (Extends DiagnosticError.fields.names name value)
  | .hypothesis => InReport "hypotheses" (AtElement (Extends Hypothesis.fields.names name value))

theorem ignores {part : ReportPart} (h : part ≠ .options) (name : String) (value : Json) :
    Report.codec.Ignores (part.Extended name value) := by
  cases part
  case report => exact ignores_extends rfl name value
  case options => exact absurd rfl h
  case target | proxy | budget | usage =>
    refine ignores_atField ?_
    simp only [Report.fields, Fields.At, String.reduceEq, false_imp_iff, true_imp_iff, true_and,
      and_true]
    exact ignores_extends rfl name value
  case tls =>
    refine ignores_atField ?_
    simp only [Report.fields, Fields.At, String.reduceEq, false_imp_iff, true_imp_iff, true_and,
      and_true]
    exact (ignores_extends rfl name value).option fun _ _ => Extends.ne_null
  case probe | address | hop | phase | hypothesis =>
    refine ignores_atField ?_
    simp only [Report.fields, Fields.At, String.reduceEq, false_imp_iff, true_imp_iff, true_and,
      and_true]
    exact (ignores_extends rfl name value).list
  case observation =>
    refine ignores_atField ?_
    simp only [Report.fields, Fields.At, String.reduceEq, false_imp_iff, true_imp_iff, true_and,
      and_true]
    refine Ignores.list (ignores_atField ?_)
    simp only [Phase.fields, Fields.At, String.reduceEq, false_imp_iff, true_imp_iff, true_and,
      and_true]
    exact (ignores_extends rfl name value).list
  case error =>
    refine ignores_atField ?_
    simp only [Report.fields, Fields.At, String.reduceEq, false_imp_iff, true_imp_iff, true_and,
      and_true]
    refine Ignores.list (ignores_atField ?_)
    simp only [Phase.fields, Fields.At, String.reduceEq, false_imp_iff, true_imp_iff, true_and,
      and_true]
    exact (ignores_extends rfl name value).option fun _ _ => Extends.ne_null

/-- The record of the options is closed. -/
theorem refuses_options (name : String) (value : Json) :
    Report.codec.Refuses (ReportPart.options.Extended name value) := by
  refine refuses_atField (by decide) ?_
  simp only [Report.fields, Fields.At, String.reduceEq, false_imp_iff, true_imp_iff, true_and,
    and_true]
  exact refuses_extends rfl name value

end ReportPart

/-- An extended document reads as before unless the options were extended. -/
theorem parseReportDocument_extended_iff [Crates] {document document' : List UInt8}
    {tree tree' : Json} {report : Report} (haccepted : parseReportDocument document = .ok report)
    (htree : Crates.jsonTree document = .ok tree) (htree' : Crates.jsonTree document' = .ok tree')
    {part : ReportPart} {name : String} {value : Json}
    (hextended : part.Extended name value tree tree')
    (hsize : document'.length ≤ maxReportBytes) :
    parseReportDocument document' = .ok report ↔ part ≠ .options := by
  obtain ⟨-, ⟨read, hread, hreport⟩, hverify⟩ := parseReportDocument_eq_ok.mp haccepted
  obtain rfl : tree = read := Except.ok.inj (htree.symm.trans hread)
  constructor
  · rintro hparsed rfl
    obtain ⟨-, ⟨read', hread', hreport'⟩, -⟩ := parseReportDocument_eq_ok.mp hparsed
    obtain rfl : tree' = read' := Except.ok.inj (htree'.symm.trans hread')
    rw [ReportPart.refuses_options name value _ _ hextended] at hreport'
    cases hreport'
  · intro hpart
    have hsame := ReportPart.ignores hpart name value _ _ hextended
    exact parseReportDocument_eq_ok.mpr ⟨hsize, ⟨tree', htree', hsame.trans hreport⟩, hverify⟩

theorem exists_structuredOutput_split (report : Report) :
    ∃ pre options post, structuredOutput report =
      .obj (pre ++ ("options", .obj options) :: post) := by
  obtain ⟨members, hcanon, hnodup, hlookup⟩ : ∃ members : List (String × Json),
      structuredOutput report = .obj (collectInto [] members) ∧ (members.map Prod.fst).Nodup ∧
      members.lookup "options" = some (InspectionOptions.codec.write report.options).canon := by
    refine ⟨_, canon_obj _, ?_, rfl⟩
    rw [List.map_map]
    exact (Report.fields.keys_write _).symm ▸ (by decide : Report.fields.names.Nodup)
  have hcollected : (collectInto [] members).lookup "options" =
      some (InspectionOptions.codec.write report.options).canon := by
    rw [lookup_collectInto hnodup, hlookup]
    rfl
  obtain ⟨pre, post, hsplit, -⟩ := List.lookup_eq_some_iff.mp hcollected
  exact ⟨pre, _, post, by rw [hcanon, hsplit]; rfl⟩

def futureExtension : String × Json := ("future_extension", .bool true)

/-- An extension of a printed report that is not much larger. -/
structure ExtendsPrinted [Crates] (part : ReportPart) (report : Report) (tree : Json) : Prop where
  extended : part.Extended futureExtension.1 futureExtension.2 (structuredOutput report) tree
  printed : ∃ ms, structuredOutput report = .obj ms ∧ ms ≠ []
  object : ∃ ms, tree = .obj ms ∧ ms ≠ []
  size : Json.size true Crates.doubleText sixfold 0 tree ≤
    Json.size true Crates.doubleText sixfold 0 (structuredOutput report) + 1000

theorem exists_extendsPrinted [Crates] (report : Report) {part : ReportPart}
    (hpart : part = .report ∨ part = .options) : ∃ tree, ExtendsPrinted part report tree := by
  obtain ⟨pre, options, post, hsplit⟩ := exists_structuredOutput_split report
  have hname : sixfold "future_extension" = 98 := by decide
  have hbreak : octets (lineBreak true 1) = 3 ∧ octets (lineBreak true 2) = 5 ∧
    octets (nameMark true) = 2 := by decide
  rcases hpart with rfl | rfl
  · refine ⟨.obj (futureExtension :: (pre ++ ("options", .obj options) :: post)), ?_, ?_, ?_, ?_⟩
    · exact ⟨by decide, [], _, hsplit, rfl⟩
    · exact ⟨_, hsplit, by simp⟩
    · exact ⟨_, rfl, by simp⟩
    · rw [hsplit]
      simp only [futureExtension, Json.size, sizeMembers, separator, hname, hbreak]
      omega
  · refine ⟨.obj (pre ++ ("options", .obj (futureExtension :: options)) :: post), ?_, ?_, ?_, ?_⟩
    · rw [hsplit]
      exact .named pre post ⟨by decide, [], options, rfl, rfl⟩
    · exact ⟨_, hsplit, by simp⟩
    · exact ⟨_, rfl, by simp⟩
    · rw [hsplit]
      simp only [futureExtension, Json.size, sizeMembers, separator, sizeMembers_append, hname,
        hbreak]
      omega

/-- The compact document of the front page's report, its extended tree as an
indented document, and a reader of both. -/
theorem exists_frontPage_extension {part : ReportPart}
    (hpart : part = .report ∨ part = .options) :
    ∃ (r : Recordings) (report : Report) (document document' : List UInt8) (tree : Json),
      letI := r.crates
      parseReportDocument document = .ok report ∧
      Crates.jsonTree document = .ok (structuredOutput report) ∧
      Crates.jsonTree document' = .ok tree ∧
      part.Extended futureExtension.1 futureExtension.2 (structuredOutput report) tree ∧
      document'.length ≤ maxReportBytes := by
  obtain ⟨report, w, hrun, hsmall⟩ := frontPage_small
  let doubleText := exampleRecordings.crates.doubleText
  obtain ⟨tree, hextended, ⟨ms, hms, hms₀⟩, ⟨ms', hms', hms₀'⟩, hsize⟩ :=
    @exists_extendsPrinted exampleRecordings.crates report part hpart
  let document := Text.utf8 ((structuredOutput report).compactText doubleText)
  let document' := Text.utf8 (tree.prettyText doubleText)
  have hne : document' ≠ document := by
    intro heq
    have htext := Text.utf8_injective heq
    rw [hms, hms'] at htext
    exact compactText_ne_prettyText doubleText hms₀ hms₀' htext.symm
  let r : Recordings :=
    { exampleRecordings with documents := [(document, structuredOutput report), (document', tree)] }
  let := r.crates
  have hrun : inspect frontPage frontPageSpec = (.ok report, w) :=
    (inspect_documents exampleRecordings _ _ _).trans hrun
  obtain ⟨htree, htree'⟩ := jsonTree_pair exampleRecordings (structuredOutput report) tree hne
  have hdocument : document.length ≤ maxReportBytes := by
    calc
      document.length = octets (text false doubleText 0 (structuredOutput report)) :=
        length_utf8_ofList _
      _ ≤ 101000 :=
        (octets_structuredOutput_le octets_quote_le_sixfold false report).trans (hsmall false)
      _ ≤ maxReportBytes := by decide
  have hdocument' : document'.length ≤ maxReportBytes := by
    calc
      document'.length = octets (text true doubleText 0 tree) := length_utf8_ofList _
      _ ≤ size true doubleText sixfold 0 tree := octets_text_le octets_quote_le_sixfold tree 0
      _ ≤ size true doubleText sixfold 0 (structuredOutput report) + 1000 := hsize
      _ ≤ 101000 + 1000 := Nat.add_le_add_right ((size_canon_le _ 0).trans (hsmall true)) 1000
      _ ≤ maxReportBytes := by decide
  have haccepted := parseReportDocument_eq_ok.mpr
    ⟨hdocument, ⟨_, htree, Report.codec.read_write report⟩, verifyReport_of_inspect hrun⟩
  exact ⟨r, report, document, document', tree, haccepted, htree, htree', hextended, hdocument'⟩

/-- The extended options are refused. -/
theorem frontPage_options_not_extensible :
    ∃ (r : Recordings) (report : Report) (document document' : List UInt8) (tree tree' : Json),
      letI := r.crates
      parseReportDocument document = .ok report ∧
      Crates.jsonTree document = .ok tree ∧ Crates.jsonTree document' = .ok tree' ∧
      ReportPart.options.Extended "future_extension" (.bool true) tree tree' ∧
      document'.length ≤ maxReportBytes ∧ parseReportDocument document' ≠ .ok report := by
  obtain ⟨r, report, document, document', tree', haccepted, htree, htree', hextended, hsize⟩ :=
    exists_frontPage_extension (.inr rfl)
  let := r.crates
  refine ⟨r, report, document, document', _, tree', haccepted, htree, htree', hextended, hsize, ?_⟩
  intro hparsed
  obtain ⟨-, ⟨read, hread, hreport⟩, -⟩ := parseReportDocument_eq_ok.mp hparsed
  obtain rfl : tree' = read := Except.ok.inj (htree'.symm.trans hread)
  rw [ReportPart.refuses_options _ _ _ _ hextended] at hreport
  cases hreport

theorem frontPage_extended_iff :
    ∃ (r : Recordings) (report : Report) (document document' : List UInt8) (tree : Json),
      letI := r.crates
      ReportPart.report.Extended "future_extension" (.bool true) (structuredOutput report) tree ∧
      (parseReportDocument document' = .ok report ↔ ReportPart.report ≠ .options) ∧
      parseReportDocument document = .ok report := by
  obtain ⟨r, report, document, document', tree, haccepted, htree, htree', hextended, hsize⟩ :=
    exists_frontPage_extension (.inl rfl)
  let := r.crates
  exact ⟨r, report, document, document', tree, hextended,
    parseReportDocument_extended_iff haccepted htree htree' hextended hsize, haccepted⟩

end HopWhy
