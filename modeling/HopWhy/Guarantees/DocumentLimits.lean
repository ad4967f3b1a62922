import HopWhy.Guarantees.ReadBack
import HopWhy.Guarantees.ResourceLimits
import HopWhy.Guarantees.Testimony
import HopWhy.Offline.RecordSizes

/-!
# Document limits

How large an emitted document grows is decided by the body limit, the number of
hops and the base64 form of their samples; what a reader takes is a constant of
its own. The words of the tool fit into a constant as well, so documents fit as
long as the samples and what is from outside leave room for them.
-/

namespace HopWhy

/-- The octets that the samples of a report may take. -/
def sampleBudget (options : InspectionOptions) : ℕ :=
  if options.includeBodySample then
    (options.maxRedirects.toNat + 1) * (4 * ((options.maxBodyBytes.toNat + 2) / 3) + 2)
  else 0

section

variable [Crates] {env : Environment} {spec : InspectSpec} {report : Report} {w : World env}

/-- No offline reader finds the document too large. -/
structure FitsReaders (document : List UInt8) : Prop where
  size : document.length ≤ maxReportBytes
  parsed : ∀ error, parseReportDocument document = .error error → error.code ≠ "report_too_large"
  loaded : ∀ path error,
    loadReport path ⟨.ok (true, UInt64.ofNat document.length), .ok document⟩ = .error error →
      error.code ≠ "report_too_large"

theorem fitsReaders_of_length {document : List UInt8} (h : document.length ≤ maxReportBytes) :
    FitsReaders document where
  size := h
  parsed _ herror := parseReportDocumentWithLabel_code h herror
  loaded path error herror := by
    have hlen : (UInt64.ofNat document.length).toNat = document.length :=
      UInt64.toNat_ofNat_of_lt' (h.trans_lt (by decide))
    simp only [loadReport, hlen, Bool.not_true, Bool.false_eq_true, if_false,
      if_neg (Nat.not_lt.mpr h)] at herror
    exact parseReportDocumentWithLabel_code h herror

theorem SampleOf.sampleOctets_eq {options : InspectionOptions} {hop : HttpHop}
    {sample : List UInt8} (h : SampleOf env options hop sample) :
    sampleOctets hop =
      if options.includeBodySample then 4 * ((sample.length + 2) / 3) + 2 else 0 := by
  rw [sampleOctets, h.shown]
  split_ifs
  · exact quotedOctets_base64 sample
  · rfl

theorem sum_sampleOctets_le_budget (h : inspect env spec = (.ok report, w)) :
    (report.http.map sampleOctets).sum ≤ sampleBudget spec.options := by
  obtain ⟨hhops, -, hsamples⟩ := hops_of_inspect h
  rw [sampleBudget]
  split_ifs with hinclude
  · have heach : ∀ hop ∈ report.http, sampleOctets hop ≤
        4 * ((spec.options.maxBodyBytes.toNat + 2) / 3) + 2 := by
      intro hop hhop
      obtain ⟨sample, hsample⟩ := hsamples hop hhop
      have hlimit := hsample.limit
      rw [hsample.sampleOctets_eq, if_pos hinclude]
      omega
    calc
      _ ≤ (report.http.map sampleOctets).length *
          (4 * ((spec.options.maxBodyBytes.toNat + 2) / 3) + 2) := by
        refine List.sum_le_card_nsmul _ _ fun n hn => ?_
        obtain ⟨hop, hhop, rfl⟩ := List.mem_map.mp hn
        exact heach hop hhop
      _ ≤ _ := by
        rw [List.length_map]
        exact Nat.mul_le_mul_right _ hhops
  · have hnone : report.http.map sampleOctets = report.http.map fun _ => 0 := by
      refine List.map_congr_left fun hop hhop => ?_
      obtain ⟨sample, hsample⟩ := hsamples hop hhop
      rw [hsample.sampleOctets_eq, if_neg hinclude]
    simp [hnone]

/-- What the texts of a report take that are not from outside, and its marks and names. -/
def structureOctets : ℕ := 131072

variable {pretty : Bool}

theorem octetsAt_probes_le {records : List ProbeRecord} (hlength : records.length ≤ 64)
    (h : ∀ record ∈ records, Brief record.outcome) :
    octetsAt pretty 1 ((Codec.list ProbeRecord.codec).write records) ≤
      63109 + (records.map fun record => Json.quotedOctets record.destination).sum :=
  Json.size_arr_le hlength fun record hrecord => octetsAt_probe_le (h record hrecord)

theorem octetsAt_hops_le {hops : List HttpHop} (hlength : hops.length ≤ 11)
    (h : ∀ hop ∈ hops, ∃ options, AnsweredHop options hop) :
    octetsAt pretty 1 ((Codec.list HttpHop.codec).write hops) ≤
      7771 + ((hops.map HttpHop.outsideOctets).sum + (hops.map sampleOctets).sum) := by
  have heach : ∀ hop ∈ hops, octetsAt pretty 2 (HttpHop.codec.write hop) ≤
      700 + (hop.outsideOctets + sampleOctets hop) := by
    intro hop hhop
    obtain ⟨options, hanswered⟩ := h hop hhop
    exact octetsAt_hop_le hanswered
  rw [← List.sum_map_add]
  exact Json.size_arr_le hlength heach

/-- What a phase repeats from the other sections that is from outside. -/
def Report.repeatedOctets (report : Report) : PhaseName → ℕ
  | .input => Json.quotedOctets report.target.intended
  | .proxy => shownOctets report.proxy.endpoint
  | .tcp => shownOctets ((connection report.probes).map ProbeRecord.destination)
  | _ => 0

/-- What else the observations of a phase take. -/
def observedOctets : PhaseName → ℕ
  | .input => 1639
  | .proxy => 3639
  | .dns => 3309
  | .tcp => 1639
  | .tls => 4639
  | .http => 2026
  | .redirects => 1659
  | .assertions => 9

theorem octetsAt_unobserved_le :
    octetsAt pretty 3 ((Codec.list Observation.codec).write []) ≤ 9 := by
  have hbreak := Json.octets_lineBreak_le pretty 3
  change 0 + octets (Json.lineBreak pretty 3) + 2 ≤ 9
  omega

theorem octetsAt_observed_le {kind evidence : String} (hkind : Brief kind)
    (hevidence : Brief evidence) {value : Json} {bound : ℕ} (h : octetsAt pretty 5 value ≤ bound) :
    octetsAt pretty 3 ((Codec.list Observation.codec).write [observation kind value evidence]) ≤
      1639 + bound := by
  have heach : ∀ o ∈ [observation kind value evidence],
      octetsAt pretty 4 (Observation.codec.write o) ≤ 1620 + bound := by
    intro o ho
    rw [List.mem_singleton.mp ho]
    exact (octetsAt_observation_le hkind hevidence value).trans (Nat.add_le_add_left h 1620)
  have hone : [observation kind value evidence].length ≤ 1 := le_refl 1
  exact (Json.size_arr_uniform_le hone heach).trans (by omega)

theorem octetsAt_statuses_le {hops : List HttpHop} (hlength : hops.length ≤ 11) :
    octetsAt pretty 5 (.arr (hops.map fun hop => .num (.posInt hop.status.toUInt64))) ≤ 387 :=
  Json.size_arr_uniform_le hlength fun hop _ => Codec.size_u16_le 6 hop.status

theorem octetsAt_testimony_le (h : BriefReport env report)
    (hsessions : ∀ n session, (env.handshake n).outcome = some session → BriefSession session)
    (hhops : report.http.length ≤ 11) (name : PhaseName) :
    octetsAt pretty 3 ((Codec.list Observation.codec).write (report.sections.testimony name)) ≤
      observedOctets name + report.repeatedOctets name := by
  have hnumber : ∀ count, octetsAt pretty 5 (countJson count) ≤ 20 :=
    fun count => Codec.size_u64_le 5 (.ofNat count)
  cases name with
  | input => exact octetsAt_observed_le (by decide) (by decide) (Codec.size_string 5 _).le
  | proxy =>
    change _ ≤ 1639 + 2000 + shownOctets report.proxy.endpoint
    rw [Nat.add_assoc]
    exact octetsAt_observed_le (by decide) (by decide) (octetsAt_proxy_le h.proxy (le_refl 5))
  | dns =>
    have htwo : (report.sections.testimony .dns).length ≤ 2 := le_refl 2
    have heach : ∀ o ∈ report.sections.testimony .dns,
        octetsAt pretty 4 (Observation.codec.write o) ≤ 1620 + 20 := by
      intro o ho
      rcases List.mem_pair.mp ho with rfl | rfl
      · exact (octetsAt_observation_le (by decide) (by decide) _).trans
          (Nat.add_le_add_left (hnumber _) 1620)
      · exact (octetsAt_observation_le (by decide) (by decide) _).trans
          (Nat.add_le_add_left (hnumber _) 1620)
    exact Json.size_arr_uniform_le htwo heach
  | tcp =>
    change octetsAt pretty 3 ((Codec.list Observation.codec).write
      ((connection report.probes).toList.map _)) ≤
        1639 + shownOctets ((connection report.probes).map ProbeRecord.destination)
    rcases connection report.probes with _ | record
    · exact octetsAt_unobserved_le.trans (by omega)
    · exact octetsAt_observed_le (by decide) (by decide) (Codec.size_string 5 _).le
  | tls =>
    change octetsAt pretty 3 ((Codec.list Observation.codec).write
      (report.tls.toList.map _)) ≤ 4639
    rcases htls : report.tls with _ | summary
    · exact octetsAt_unobserved_le.trans (by omega)
    · obtain ⟨n, session, hsession, rfl⟩ := h.tls summary htls
      exact octetsAt_observed_le (by decide) (by decide)
        (octetsAt_tls_le (hsessions n session hsession) (le_refl 5))
  | http => exact octetsAt_observed_le (by decide) (by decide) (octetsAt_statuses_le hhops)
  | redirects => exact octetsAt_observed_le (by decide) (by decide) (hnumber _)
  | assertions => exact octetsAt_unobserved_le

omit [Crates] in
theorem length_phases_le (hnames : report.phases.map Phase.name <+: canonicalPhases) :
    report.phases.length ≤ 8 := by
  rw [← List.length_map (f := Phase.name)]
  exact hnames.length_le

theorem octetsAt_phases_le (h : BriefReport env report)
    (hsessions : ∀ n session, (env.handshake n).outcome = some session → BriefSession session)
    (hhops : report.http.length ≤ 11) (htestified : Testified report.sections report.phases)
    (hnames : report.phases.map Phase.name <+: canonicalPhases) :
    octetsAt pretty 1 ((Codec.list Phase.codec).write report.phases) ≤
      39412 + ((report.phases.map Phase.outsideOctets).sum +
        (Json.quotedOctets report.target.intended + shownOctets report.proxy.endpoint +
          shownOctets ((connection report.probes).map ProbeRecord.destination))) := by
  let observed (name : PhaseName) : ℕ := observedOctets name + report.repeatedOctets name
  have heach : ∀ phase ∈ report.phases, octetsAt pretty 2 (Phase.codec.write phase) ≤
      2600 + (phase.outsideOctets + observed phase.name) := by
    intro phase hphase
    refine (octetsAt_phase_le (h.phases phase hphase)).trans ?_
    have hobserved : octetsAt pretty 3 ((Codec.list Observation.codec).write phase.observations) ≤
        observed phase.name := by
      rw [htestified.observed phase hphase]
      split_ifs
      · exact octetsAt_testimony_le h hsessions hhops phase.name
      · have hnine : ∀ name, 9 ≤ observedOctets name := by
          intro name
          cases name <;> decide
        exact octetsAt_unobserved_le.trans ((hnine phase.name).trans (Nat.le_add_right _ _))
    omega
  have hsize := Json.size_arr_le (length_phases_le hnames) heach
  rw [List.sum_map_add] at hsize
  -- Every phase name comes once at most.
  have hsum : (report.phases.map fun phase => observed phase.name).sum ≤
      (canonicalPhases.map observed).sum := by
    have honce := (hnames.sublist.map observed).sum_le_sum fun _ _ => Nat.zero_le _
    rwa [List.map_map] at honce
  have hall : (canonicalPhases.map observed).sum = 18559 +
      (Json.quotedOctets report.target.intended + shownOctets report.proxy.endpoint +
        shownOctets ((connection report.probes).map ProbeRecord.destination)) := by
    simp only [canonicalPhases, observed, List.map_cons, List.map_nil, List.sum_cons, List.sum_nil,
      observedOctets, Report.repeatedOctets]
    omega
  exact hsize.trans (by omega)

/-- The sections of a short report within its limits. -/
theorem documentSize_le_structure (h : BriefReport env report)
    (hdoubles : ∀ x, octets (Crates.doubleText x).toList ≤ 24)
    (hsessions : ∀ n session, (env.handshake n).outcome = some session → BriefSession session)
    (hprobes : report.probes.length ≤ 64) (hhops : report.http.length ≤ 11)
    (htestified : Testified report.sections report.phases)
    (hnames : report.phases.map Phase.name <+: canonicalPhases) :
    documentSize Json.quotedOctets pretty report + 1 ≤
      structureOctets + 2 * report.outsideOctets pretty + (report.http.map sampleOctets).sum := by
  have hschema : octetsAt pretty 1 (Codec.string.write report.schemaVersion) ≤ 770 :=
    octetsAt_brief_le h.schemaVersion
  have htool : octetsAt pretty 1 (Codec.string.write report.toolVersion) ≤ 770 :=
    octetsAt_brief_le h.toolVersion
  have htarget : octetsAt pretty 1 (TargetSummary.codec.write report.target) ≤ _ :=
    octetsAt_target_le report.target
  have hproxy : octetsAt pretty 1 (ProxySummary.codec.write report.proxy) ≤ _ :=
    octetsAt_proxy_le h.proxy (by decide)
  have hrecords : octetsAt pretty 1 ((Codec.list ProbeRecord.codec).write report.probes) ≤ _ :=
    octetsAt_probes_le hprobes h.probes
  have htls : octetsAt pretty 1 ((Codec.option TlsSummary.codec Codec.record_write_ne_null).write
      report.tls) ≤ 4 + 3000 := by
    refine Codec.size_option_le 1 TlsSummary.codec fun summary hsummary => ?_
    obtain ⟨n, session, hsession, rfl⟩ := h.tls summary hsummary
    exact octetsAt_tls_le (hsessions n session hsession) (by decide)
  have hhttp : octetsAt pretty 1 ((Codec.list HttpHop.codec).write report.http) ≤ _ :=
    octetsAt_hops_le hhops h.http
  have hledger : octetsAt pretty 1 ((Codec.list Phase.codec).write report.phases) ≤ _ :=
    octetsAt_phases_le h hsessions hhops htestified hnames
  have hhypotheses : octetsAt pretty 1 ((Codec.list Hypothesis.codec).write report.hypotheses) ≤
      1 * (2600 + (2 * 1 + 4)) + (2 * 1 + 3) := by
    obtain ⟨hypothesis, hone, hbrief⟩ := h.hypotheses
    rw [hone]
    refine Json.size_arr_uniform_le (le_refl 1) fun other hother => ?_
    rw [List.mem_singleton.mp hother]
    exact octetsAt_hypothesis_le hdoubles hbrief
  have hruledOut : octetsAt pretty 1 ((Codec.list Codec.string).write report.ruledOut) ≤
      8 * (770 + (2 * 1 + 4)) + (2 * 1 + 3) :=
    octetsAt_strings_le (h.ruledOut_length.trans (length_phases_le hnames)) h.ruledOut
  have homissions : octetsAt pretty 1 ((Codec.list Codec.string).write report.omissions) ≤
      3 * (770 + (2 * 1 + 4)) + (2 * 1 + 3) :=
    octetsAt_strings_le h.omissions_length h.omissions
  have hdigest : octetsAt pretty 1 (optionString.write report.reportSha256) ≤ 70 :=
    octetsAt_digest_le h.sealed
  have hconnected : shownOctets ((connection report.probes).map ProbeRecord.destination) ≤
      (report.probes.map fun record => Json.quotedOctets record.destination).sum := by
    refine shownOctets_le fun destination hdestination => ?_
    obtain ⟨record, hrecord, rfl⟩ := Option.map_eq_some_iff.mp hdestination
    exact List.single_le_sum (fun _ _ => Nat.zero_le _) _
      (List.mem_map_of_mem (List.mem_of_find?_eq_some hrecord))
  have hsize : documentSize Json.quotedOctets pretty report ≤ _ := documentSize_le report
  rw [Report.outsideOctets, structureOctets]
  omega

/-- An emitted document fits when its samples leave room for what is from outside. -/
theorem inspect_documents_fit (h : inspect env spec = (.ok report, w)) {format : OutputFormat}
    {document : List UInt8} (hemitted : emitted report format = some document)
    (hdoubles : ∀ x, octets (Crates.doubleText x).toList ≤ 24)
    (hsessions : ∀ n session, (env.handshake n).outcome = some session → BriefSession session)
    {n : ℕ} (houtside : report.outsideOctets (format = .json) ≤ n)
    (hroom : sampleBudget spec.options + 2 * n + structureOctets ≤ maxReportBytes) :
    FitsReaders document := by
  obtain ⟨o, ho⟩ := inspectWithBackend_eq_ok (liveBackend env) h
  have hvalid := validateOptions_eq_ok o.valid
  obtain ⟨stages, hledger⟩ := exists_phaseLedger_of_inspect h o
  have htestified := o.testified
  rw [ho] at htestified
  obtain ⟨-, e, -, -, -, hshows, -⟩ := inspect_effect h
  have hprobes : report.probes.length ≤ 64 := by
    rw [hshows.probes]
    exact hshows.limit.trans hvalid.probes.2
  have hhops : report.http.length ≤ 11 :=
    (hops_of_inspect h).1.trans (Nat.add_le_add_right hvalid.redirects 1)
  have hsize : documentSize Json.quotedOctets (format = .json) report + 1 ≤ _ :=
    documentSize_le_structure (brief_of_inspect h) hdoubles hsessions hprobes hhops htestified
      hledger.names
  have hsamples := sum_sampleOctets_le_budget h
  have hlength := length_emitted_le hemitted fun s => le_refl (Json.quotedOctets s)
  exact fitsReaders_of_length (by omega)

end

/-- A body of equal chunks is read whole below the limit. -/
theorem bodySample_replicate {chunk : List UInt8} (hchunk : chunk ≠ []) (n : ℕ) {limit : ℕ}
    (h : n * chunk.length ≤ limit) :
    ∃ read, bodySample limit (List.replicate n (.data chunk)) = some read ∧
      read.length = n * chunk.length := by
  have hpos := List.length_pos_iff.mpr hchunk
  induction n generalizing limit with
  | zero =>
    refine ⟨[], ?_, by simp⟩
    cases limit <;> rfl
  | succ n ih =>
    rw [Nat.succ_mul] at h
    obtain ⟨l, rfl⟩ : ∃ l, limit = l + 1 := ⟨limit - 1, by omega⟩
    have hrest : n * chunk.length ≤ l + 1 - chunk.length := by omega
    obtain ⟨read, hread, hlength⟩ := ih hrest
    refine ⟨chunk.take (l + 1) ++ read, ?_, ?_⟩
    · rw [List.replicate_succ, bodySample, if_neg hchunk, hread]
      rfl
    · rw [List.length_append, List.length_take, hlength, Nat.succ_mul]
      omega

/-- A front page that refers to itself. -/
def loopRecordings : Recordings where
  urls := [("http://example.com/", exampleUrl "/")]
  joins := [((exampleUrl "/", "/"), exampleUrl "/")]

/-- A redirect to `/` with a body of one mebibyte. -/
def wideResponse : Response :=
  { Response.bare 302 [("location", Text.utf8 "/")] with
    body := List.replicate 256 (.data (List.replicate 4096 0)) }

def wideSpec : InspectSpec :=
  ⟨"http://example.com/", { maxProbes := 20, maxBodyBytes := 1048576, includeBodySample := true }⟩

theorem wideResponse_sample :
    ∃ read, bodySample (readLimit wideSpec.options) wideResponse.body = some read ∧
      read.length = 1048576 := by
  have hchunk : (List.replicate 4096 0 : List UInt8) ≠ [] :=
    List.ne_nil_of_length_pos (by rw [List.length_replicate]; decide)
  have hlimit : 256 * (List.replicate 4096 (0 : UInt8)).length ≤ readLimit wideSpec.options := by
    rw [List.length_replicate]
    decide
  obtain ⟨read, hread, hlength⟩ := bodySample_replicate hchunk 256 hlimit
  exact ⟨read, hread, by rw [hlength, List.length_replicate]⟩

/-- Six samples of a mebibyte, each within its limit, make a report that no reader takes. -/
theorem wide_documents_too_large :
    letI := loopRecordings.crates
    validateOptions wideSpec.options = .ok () ∧ ∃ report w,
      inspect (.calm fun _ => .ok wideResponse) wideSpec = (.ok report, w) ∧
      ∀ format ≠ OutputFormat.human, ∃ document, emitted report format = some document ∧
        ¬ FitsReaders document ∧ parseReportDocument document = .error reportTooLarge := by
  let := loopRecordings.crates
  refine ⟨rfl, ?_⟩
  have hrun : Reports (inspect (.calm fun _ => .ok wideResponse) wideSpec)
      fun report _ => report.http.length = 6 := by decide +kernel
  obtain ⟨report, w, hrun, htest⟩ := exists_of_reports hrun
  have hsix := of_decide_eq_true htest
  refine ⟨report, w, hrun, fun format hformat => ?_⟩
  obtain ⟨document, hemitted⟩ : ∃ document, emitted report format = some document := by
    cases format with
    | human => exact absurd rfl hformat
    | json => exact ⟨_, rfl⟩
    | ndjson => exact ⟨_, rfl⟩
  have hsamples : report.http.map sampleOctets = report.http.map fun _ => 1398106 := by
    refine List.map_congr_left fun hop hhop => ?_
    obtain ⟨sample, hsample⟩ := (hops_of_inspect hrun).2.2 hop hhop
    obtain ⟨n, response, read, hrespond, hread, rfl⟩ := hsample.served
    obtain rfl : wideResponse = response := Except.ok.inj hrespond
    obtain ⟨read', hread', hlength⟩ := wideResponse_sample
    obtain rfl : read = read' := Option.some.inj (hread.symm.trans hread')
    rw [hsample.sampleOctets_eq, List.length_take, hlength]
    decide
  have hsum : (report.http.map sampleOctets).sum = 8388636 := by
    rw [hsamples, List.map_const', List.sum_replicate, hsix]
    rfl
  have hlarge : maxReportBytes < document.length := by
    have := le_length_emitted hemitted
    rw [maxReportBytes]
    omega
  refine ⟨document, hemitted, fun h => Nat.not_lt.mpr h.size hlarge, ?_⟩
  rw [parseReportDocument, parseReportDocumentWithLabel, if_pos hlarge]

/-- The largest body limit with one redirect less. -/
def roomySpec : InspectSpec :=
  ⟨"http://example.com/", { maxRedirects := 4, maxBodyBytes := 1048576, includeBodySample := true }⟩

theorem roomy_document_fits :
    letI := exampleRecordings.crates
    ∃ report w document, inspect frontPage roomySpec = (.ok report, w) ∧
      emitted report .json = some document ∧ FitsReaders document := by
  let := exampleRecordings.crates
  have hrun : Reports (inspect frontPage roomySpec) fun report _ =>
      report.outsideOctets true ≤ 524288 := by decide +kernel
  obtain ⟨report, w, hrun, htest⟩ := exists_of_reports hrun
  have hemitted : emitted report .json = some (Text.utf8
      (stdoutText ((structuredOutput report).prettyText Crates.doubleText))) := rfl
  have hdoubles : ∀ x, octets (Crates.doubleText x).toList ≤ 24 :=
    Recordings.doubleText_of (P := fun text => octets text.toList ≤ 24) (by decide) (by decide)
  have hsessions : ∀ n session, (frontPage.handshake n).outcome = some session →
      BriefSession session := by
    rintro n session ⟨⟩
    exact ⟨nofun, nofun, nofun⟩
  have hbudget : sampleBudget roomySpec.options = 6990530 := by decide
  refine ⟨report, w, _, hrun, hemitted, inspect_documents_fit hrun hemitted hdoubles hsessions
    (of_decide_eq_true htest) ?_⟩
  rw [hbudget, structureOctets, maxReportBytes]
  decide

end HopWhy
