import HopWhy.Library.CodecSize
import HopWhy.Offline.Sizes
import HopWhy.Runs.BriefReport

/-!
# Sizes of the records of a report

Each record of a report takes at most a constant and what comes into it from
outside: the URLs, the header values and the addresses it shows.
-/

namespace HopWhy

/-- What a text from outside takes, if there is one. -/
def shownOctets (text : Option String) : ℕ := (text.map Json.quotedOctets).getD 0

/-- What the URLs and the header values of a hop take. -/
def HttpHop.outsideOctets (hop : HttpHop) : ℕ :=
  Json.quotedOctets hop.url + shownOctets hop.location +
    (hop.headers.entries.map fun header => Json.quotedOctets header.2).sum

/-- What a message takes that may quote a URL. -/
def Phase.outsideOctets (phase : Phase) : ℕ :=
  shownOctets ((phase.error.filter fun error => error.code ∈ quotingCodes).map
    DiagnosticError.message)

theorem Brief.quotedOctets_le {text : String} (h : Brief text) : Json.quotedOctets text ≤ 770 := by
  have hquoted := Json.octets_quote_le_sixfold text
  rw [Brief] at h
  rw [Json.sixfold] at hquoted
  exact hquoted.trans (by omega)

theorem shownOctets_le {text : Option String} {n : ℕ} (h : ∀ s ∈ text, Json.quotedOctets s ≤ n) :
    shownOctets text ≤ n := by
  rcases text with _ | s
  · exact Nat.zero_le n
  · exact h s rfl

section

variable [Crates]

theorem quotedOctets_sha256Hex (bytes : List UInt8) : Json.quotedOctets (sha256Hex bytes) = 66 := by
  rw [Json.quotedOctets, Json.octets_quote_of_plain (plain_sha256Hex bytes), length_sha256Hex]

/-- The octets that a tree takes at a depth. -/
abbrev octetsAt (pretty : Bool) (depth : ℕ) (j : Json) : ℕ :=
  Json.size pretty Crates.doubleText Json.quotedOctets depth j

variable {pretty : Bool} {depth : ℕ}

theorem octetsAt_phaseName_le (name : PhaseName) :
    octetsAt pretty depth (PhaseName.codec.write name) ≤ 12 := by
  rw [octetsAt, PhaseName.codec, Codec.size_enumeration]
  cases name <;> decide

theorem octetsAt_status_le (status : PhaseStatus) :
    octetsAt pretty depth (PhaseStatus.codec.write status) ≤ 14 := by
  rw [octetsAt, PhaseStatus.codec, Codec.size_enumeration]
  cases status <;> decide

theorem octetsAt_kind_le (kind : ProbeKind) :
    octetsAt pretty depth (ProbeKind.codec.write kind) ≤ 15 := by
  rw [octetsAt, ProbeKind.codec, Codec.size_enumeration]
  cases kind <;> decide

theorem octetsAt_method_le (method : RequestMethod) :
    octetsAt pretty depth (RequestMethod.codec.write method) ≤ 6 := by
  rw [octetsAt, RequestMethod.codec, Codec.size_enumeration]
  cases method <;> decide

theorem octetsAt_text_le (text : Option String) :
    octetsAt pretty depth (optionString.write text) ≤ 4 + shownOctets text := by
  rcases text with _ | s
  · exact Nat.le_add_right _ _
  · exact Nat.le_add_left _ _

theorem octetsAt_brief_le {text : String} (h : Brief text) :
    octetsAt pretty depth (Codec.string.write text) ≤ 770 :=
  (Codec.size_string depth text).trans_le h.quotedOctets_le

theorem octetsAt_strings_le {texts : List String} {count : ℕ} (hcount : texts.length ≤ count)
    (h : ∀ text ∈ texts, Brief text) :
    octetsAt pretty depth ((Codec.list Codec.string).write texts) ≤
      count * (770 + (2 * depth + 4)) + (2 * depth + 3) :=
  Json.size_arr_uniform_le hcount fun text htext => octetsAt_brief_le (h text htext)

theorem octetsAt_probe_le {record : ProbeRecord} (h : Brief record.outcome) :
    octetsAt pretty 2 (ProbeRecord.codec.write record) ≤
      980 + Json.quotedOctets record.destination := by
  have hframe : ProbeRecord.fields.frame Json.quotedOctets 3 ≤ 123 := by decide
  refine le_trans (Codec.size_record_le hframe ?_) (?_ : 123 + (2 * 2 + 3) +
    (20 + (15 + (Json.quotedOctets record.destination + (20 + (20 + (770 + 0)))))) ≤ _)
  · apply Fields.sizes_cons_le (Codec.size_u32_le 3 _)
    apply Fields.sizes_cons_le (octetsAt_kind_le _)
    apply Fields.sizes_cons_le (Codec.size_string 3 _).le
    apply Fields.sizes_cons_le (Codec.size_u64_le 3 _)
    apply Fields.sizes_cons_le (Codec.size_u64_le 3 _)
    apply Fields.sizes_cons_le (octetsAt_brief_le h)
    exact Fields.sizes_nil_le ()
  · omega

theorem octetsAt_target_le (target : TargetSummary) :
    octetsAt pretty 1 (TargetSummary.codec.write target) ≤
      200 + (Json.quotedOctets target.intended + Json.quotedOctets target.effective +
        Json.quotedOctets target.scheme + Json.quotedOctets target.host) := by
  have hframe : TargetSummary.fields.frame Json.quotedOctets 2 ≤ 81 := by decide
  refine le_trans (Codec.size_record_le hframe ?_) (?_ : 81 + (2 * 1 + 3) +
    (Json.quotedOctets target.intended + (Json.quotedOctets target.effective +
      (Json.quotedOctets target.scheme + (Json.quotedOctets target.host + (20 + 0))))) ≤ _)
  · apply Fields.sizes_cons_le (Codec.size_string 2 _).le
    apply Fields.sizes_cons_le (Codec.size_string 2 _).le
    apply Fields.sizes_cons_le (Codec.size_string 2 _).le
    apply Fields.sizes_cons_le (Codec.size_string 2 _).le
    apply Fields.sizes_cons_le (Codec.size_u16_le 2 _)
    exact Fields.sizes_nil_le ()
  · omega

theorem octetsAt_sha256Hex_le (bytes : List UInt8) :
    octetsAt pretty depth (Codec.string.write (sha256Hex bytes)) ≤ 66 :=
  (Codec.size_string depth _).trans_le (quotedOctets_sha256Hex bytes).le

/-- A digest is 64 characters, and a missing one shorter. -/
theorem octetsAt_digest_le {digest : Option String}
    (h : ∀ text ∈ digest, ∃ bytes, text = sha256Hex bytes) :
    octetsAt pretty depth (optionString.write digest) ≤ 70 := by
  have hshown : shownOctets digest ≤ 66 := by
    refine shownOctets_le fun text htext => ?_
    obtain ⟨bytes, rfl⟩ := h text htext
    exact (quotedOctets_sha256Hex bytes).le
  exact (octetsAt_text_le digest).trans (Nat.add_le_add_left hshown 4)

theorem octetsAt_briefText_le {text : Option String} (h : ∀ s ∈ text, Brief s) :
    octetsAt pretty depth (optionString.write text) ≤ 774 :=
  (octetsAt_text_le text).trans
    (Nat.add_le_add_left (shownOctets_le fun s hs => (h s hs).quotedOctets_le) 4)

theorem octetsAt_proxy_le {summary : ProxySummary} (h : BriefProxy summary) (hdepth : depth ≤ 5) :
    octetsAt pretty depth (ProxySummary.codec.write summary) ≤
      2000 + shownOctets summary.endpoint := by
  have hframe : ProxySummary.fields.frame Json.quotedOctets (depth + 1) ≤ 145 :=
    (Fields.frame_mono (Nat.add_le_add_right hdepth 1) _).trans (by decide)
  refine le_trans (Codec.size_record_le hframe ?_) (?_ : 145 + (2 * depth + 3) +
    (5 + (774 + (4 + shownOctets summary.endpoint + (70 + (774 + 0))))) ≤ _)
  · apply Fields.sizes_cons_le (Codec.size_bool (depth + 1) _).le
    apply Fields.sizes_cons_le (octetsAt_briefText_le h.source)
    apply Fields.sizes_cons_le (octetsAt_text_le _)
    apply Fields.sizes_cons_le (octetsAt_digest_le fun text htext => ?_)
    · apply Fields.sizes_cons_le (octetsAt_briefText_le h.bypass)
      exact Fields.sizes_nil_le ()
    · obtain ⟨value, rfl⟩ := h.digest text htext
      exact ⟨_, rfl⟩
  · omega

theorem octetsAt_tls_le {session : TlsSession} (h : BriefSession session) (hdepth : depth ≤ 5) :
    octetsAt pretty depth (TlsSummary.codec.write (summarizeTls session)) ≤ 3000 := by
  have hframe : TlsSummary.fields.frame Json.quotedOctets (depth + 1) ≤ 152 :=
    (Fields.frame_mono (Nat.add_le_add_right hdepth 1) _).trans (by decide)
  refine le_trans (Codec.size_record_le hframe ?_) (?_ : 152 + (2 * depth + 3) +
    (774 + (774 + (774 + (70 + (20 + 0))))) ≤ _)
  · apply Fields.sizes_cons_le (octetsAt_briefText_le h.protocol)
    apply Fields.sizes_cons_le (octetsAt_briefText_le h.suite)
    apply Fields.sizes_cons_le (octetsAt_briefText_le fun name hname => ?_)
    · apply Fields.sizes_cons_le (octetsAt_digest_le fun text htext => ?_)
      · apply Fields.sizes_cons_le (Codec.size_u64_le (depth + 1) _)
        exact Fields.sizes_nil_le ()
      · obtain ⟨bytes, -, rfl⟩ := Option.map_eq_some_iff.mp htext
        exact ⟨bytes, rfl⟩
    · obtain ⟨octets, hoctets, rfl⟩ := Option.map_eq_some_iff.mp hname
      exact h.alpn octets hoctets
  · omega

theorem octetsAt_options_le (options : InspectionOptions) :
    octetsAt pretty 1 (InspectionOptions.codec.write options) ≤ 400 := by
  have hframe : InspectionOptions.fields.frame Json.quotedOctets 2 ≤ 251 := by decide
  refine le_trans (Codec.size_record_le hframe ?_) (?_ : 251 + (2 * 1 + 3) +
    (20 + (20 + (20 + (20 + (20 + (5 + (5 + (5 + (5 + (5 + (6 + 0))))))))))) ≤ _)
  · apply Fields.sizes_cons_le (Codec.size_withDefault_le 2 (Codec.size_u64_le 2 _))
    apply Fields.sizes_cons_le (Codec.size_withDefault_le 2 (Codec.size_u32_le 2 _))
    apply Fields.sizes_cons_le (Codec.size_withDefault_le 2 (Codec.size_u64_le 2 _))
    apply Fields.sizes_cons_le (Codec.size_withDefault_le 2 (Codec.size_u64_le 2 _))
    apply Fields.sizes_cons_le (Codec.size_withDefault_le 2 (Codec.size_u64_le 2 _))
    apply Fields.sizes_cons_le (Codec.size_withDefault_le 2 (Codec.size_bool 2 _).le)
    apply Fields.sizes_cons_le (Codec.size_withDefault_le 2 (Codec.size_bool 2 _).le)
    apply Fields.sizes_cons_le (Codec.size_withDefault_le 2 (Codec.size_bool 2 _).le)
    apply Fields.sizes_cons_le (Codec.size_withDefault_le 2 (Codec.size_bool 2 _).le)
    apply Fields.sizes_cons_le (Codec.size_withDefault_le 2 (Codec.size_bool 2 _).le)
    apply Fields.sizes_cons_le (Codec.size_withDefault_le 2 (octetsAt_method_le _))
    exact Fields.sizes_nil_le ()
  · omega

theorem octetsAt_budget_le (budget : Budget) :
    octetsAt pretty 1 (Budget.codec.write budget) ≤ 250 := by
  have hframe : Budget.fields.frame Json.quotedOctets 2 ≤ 111 := by decide
  refine le_trans (Codec.size_record_le hframe ?_) (?_ : 111 + (2 * 1 + 3) +
    (20 + (20 + (20 + (20 + (20 + 0))))) ≤ _)
  · apply Fields.sizes_cons_le (Codec.size_u64_le 2 _)
    apply Fields.sizes_cons_le (Codec.size_u32_le 2 _)
    apply Fields.sizes_cons_le (Codec.size_u64_le 2 _)
    apply Fields.sizes_cons_le (Codec.size_u64_le 2 _)
    apply Fields.sizes_cons_le (Codec.size_u64_le 2 _)
    exact Fields.sizes_nil_le ()
  · omega

theorem octetsAt_usage_le (usage : Usage) :
    octetsAt pretty 1 (Usage.codec.write usage) ≤ 150 := by
  have hframe : Usage.fields.frame Json.quotedOctets 2 ≤ 70 := by decide
  refine le_trans (Codec.size_record_le hframe ?_) (?_ : 70 + (2 * 1 + 3) +
    (20 + (20 + (20 + 0))) ≤ _)
  · apply Fields.sizes_cons_le (Codec.size_u64_le 2 _)
    apply Fields.sizes_cons_le (Codec.size_u32_le 2 _)
    apply Fields.sizes_cons_le (Codec.size_u64_le 2 _)
    exact Fields.sizes_nil_le ()
  · omega

omit [Crates] in
/-- The safe names bound the headers of a hop. -/
theorem safeHeaders_entries (headers : List (String × List UInt8)) :
    (safeHeaders headers).entries.length ≤ 5 ∧
      ∀ header ∈ (safeHeaders headers).entries, header.1 ∈ safeHeaderNames := by
  have hnames : ∀ name ∈ (safeHeaders headers).keys, name ∈ safeHeaderNames := by
    intro name hname
    obtain ⟨entry, hentry, rfl⟩ := List.mem_map.mp (OrderedMap.mem_keys_ofList.mp hname)
    obtain ⟨name, hsafe, hvalue⟩ := List.mem_filterMap.mp hentry
    obtain ⟨value, -, rfl⟩ := Option.map_eq_some_iff.mp hvalue
    exact hsafe
  constructor
  · have hlength := (List.subperm_of_subset (safeHeaders headers).increasing.nodup hnames).length_le
    rwa [List.length_map] at hlength
  · exact fun header hheader => hnames _ (List.mem_map_of_mem hheader)

theorem octetsAt_headers_le (headers : List (String × List UInt8)) :
    octetsAt pretty 3 (Codec.stringMap.write (safeHeaders headers)) ≤
      149 + ((safeHeaders headers).entries.map fun header => Json.quotedOctets header.2).sum := by
  obtain ⟨hlength, hnames⟩ := safeHeaders_entries headers
  have hname : ∀ name ∈ safeHeaderNames, Json.quotedOctets name ≤ 16 := by decide
  exact Codec.size_orderedMap_le 3 hlength fun header hheader =>
    Nat.add_le_add (hname _ (hnames header hheader)) (Codec.size_string 4 header.2).le

theorem octetsAt_version_le (version : HttpVersion) :
    octetsAt pretty depth (Codec.string.write (versionName version)) ≤ 12 := by
  rw [octetsAt, Codec.size_string]
  cases version <;> decide

theorem octetsAt_hop_le {options : InspectionOptions} {hop : HttpHop}
    (h : AnsweredHop options hop) :
    octetsAt pretty 2 (HttpHop.codec.write hop) ≤ 700 + (hop.outsideOctets + sampleOctets hop) := by
  have hversion : octetsAt pretty 3 (Codec.string.write hop.version) ≤ 12 := by
    obtain ⟨response, sequence, url, location, read, rfl⟩ := h
    exact octetsAt_version_le response.version
  have hheaders : octetsAt pretty 3 (Codec.stringMap.write hop.headers) ≤
      149 + (hop.headers.entries.map fun header => Json.quotedOctets header.2).sum := by
    obtain ⟨response, sequence, url, location, read, rfl⟩ := h
    exact octetsAt_headers_le response.headers
  have hdigest : octetsAt pretty 3 (Codec.string.write hop.bodySampleSha256) ≤ 66 := by
    obtain ⟨response, sequence, url, location, read, rfl⟩ := h
    exact octetsAt_sha256Hex_le _
  have hframe : HttpHop.fields.frame Json.quotedOctets 3 ≤ 263 := by decide
  refine le_trans (Codec.size_record_le hframe ?_) (?_ : 263 + (2 * 2 + 3) +
    (20 + (Json.quotedOctets hop.url + (20 + (12 +
      (149 + (hop.headers.entries.map fun header => Json.quotedOctets header.2).sum +
        (4 + 20 + (20 + (5 + (66 + (4 + shownOctets hop.bodySampleBase64 +
          (4 + shownOctets hop.location + 0))))))))))) ≤ _)
  · apply Fields.sizes_cons_le (Codec.size_u64_le 3 _)
    apply Fields.sizes_cons_le (Codec.size_string 3 _).le
    apply Fields.sizes_cons_le (Codec.size_u16_le 3 _)
    apply Fields.sizes_cons_le hversion
    apply Fields.sizes_cons_le hheaders
    apply Fields.sizes_cons_le (Codec.size_option_le 3 Codec.u64 fun n _ => Codec.size_u64_le 3 n)
    apply Fields.sizes_cons_le (Codec.size_u64_le 3 _)
    apply Fields.sizes_cons_le (Codec.size_bool 3 _).le
    apply Fields.sizes_cons_le hdigest
    apply Fields.sizes_cons_le (octetsAt_text_le _)
    apply Fields.sizes_cons_le (octetsAt_text_le _)
    exact Fields.sizes_nil_le ()
  · have hsample : sampleOctets hop = shownOctets hop.bodySampleBase64 := rfl
    rw [HttpHop.outsideOctets, hsample]
    omega

/-- An observation of which the value is from outside. -/
theorem octetsAt_observation_le {kind evidence : String} (hkind : Brief kind)
    (hevidence : Brief evidence) (value : Json) :
    octetsAt pretty 4 (Observation.codec.write (observation kind value evidence)) ≤
      1620 + octetsAt pretty 5 value := by
  have hframe : Observation.fields.frame Json.quotedOctets 5 ≤ 65 := by decide
  refine le_trans (Codec.size_record_le hframe ?_) (?_ : 65 + (2 * 4 + 3) +
    (770 + (octetsAt pretty 5 value + (770 + 0))) ≤ _)
  · apply Fields.sizes_cons_le (octetsAt_brief_le hkind)
    apply Fields.sizes_cons_le (Codec.size_ofJson_le 5 value)
    apply Fields.sizes_cons_le (octetsAt_brief_le hevidence)
    exact Fields.sizes_nil_le ()
  · omega

theorem octetsAt_error_le {error : DiagnosticError} (h : BriefError error.code error.message) :
    octetsAt pretty 3 (DiagnosticError.codec.write error) ≤ 1620 +
      shownOctets (((some error).filter fun error => error.code ∈ quotingCodes).map
        DiagnosticError.message) := by
  have hmessage : Json.quotedOctets error.message ≤ 770 +
      shownOctets (((some error).filter fun error => error.code ∈ quotingCodes).map
        DiagnosticError.message) := by
    by_cases hquoting : error.code ∈ quotingCodes
    · rw [Option.filter_some, if_pos (decide_eq_true hquoting)]
      exact Nat.le_add_left _ _
    · exact (h.worded hquoting).quotedOctets_le.trans (Nat.le_add_right _ _)
  have hframe : DiagnosticError.fields.frame Json.quotedOctets 4 ≤ 62 := by decide
  refine le_trans (Codec.size_record_le hframe ?_) (?_ : 62 + (2 * 3 + 3) +
    (770 + (Json.quotedOctets error.message + (5 + 0))) ≤ _)
  · apply Fields.sizes_cons_le (octetsAt_brief_le h.named)
    apply Fields.sizes_cons_le (Codec.size_string 4 _).le
    apply Fields.sizes_cons_le (Codec.size_bool 4 _).le
    exact Fields.sizes_nil_le ()
  · omega

theorem octetsAt_phase_le {phase : Phase} (h : BriefPhase phase) :
    octetsAt pretty 2 (Phase.codec.write phase) ≤ 2600 + (phase.outsideOctets +
      octetsAt pretty 3 ((Codec.list Observation.codec).write phase.observations)) := by
  have hframe : Phase.fields.frame Json.quotedOctets 3 ≤ 121 := by decide
  have hlimitations : octetsAt pretty 3 ((Codec.list Codec.string).write phase.limitations) ≤ 789 :=
    octetsAt_strings_le h.single h.limitations
  refine le_trans (Codec.size_record_le hframe ?_) (?_ : 121 + (2 * 2 + 3) +
    (12 + (14 + (20 + (octetsAt pretty 3 ((Codec.list Observation.codec).write phase.observations) +
      (789 + (4 + (1620 + phase.outsideOctets) + 0)))))) ≤ _)
  · apply Fields.sizes_cons_le (octetsAt_phaseName_le _)
    apply Fields.sizes_cons_le (octetsAt_status_le _)
    apply Fields.sizes_cons_le (Codec.size_u64_le 3 _)
    apply Fields.sizes_cons_le (le_refl _)
    apply Fields.sizes_cons_le hlimitations
    apply Fields.sizes_cons_le (Codec.size_option_le 3 _ fun error herror => ?_)
    · exact Fields.sizes_nil_le ()
    · have hsome : phase.error = some error := herror
      rw [Phase.outsideOctets, hsome]
      exact octetsAt_error_le (h.error error hsome)
  · omega

theorem octetsAt_hypothesis_le (hdoubles : ∀ x, octets (Crates.doubleText x).toList ≤ 24)
    {hypothesis : Hypothesis} (h : BriefHypothesis hypothesis) :
    octetsAt pretty 2 (Hypothesis.codec.write hypothesis) ≤ 2600 := by
  have hframe : Hypothesis.fields.frame Json.quotedOctets 3 ≤ 112 := by decide
  refine le_trans (Codec.size_record_le hframe ?_) (?_ : 112 + (2 * 2 + 3) +
    (770 + (770 + (24 + (75 + (770 + 0))))) ≤ _)
  · apply Fields.sizes_cons_le (octetsAt_brief_le h.code)
    apply Fields.sizes_cons_le (octetsAt_brief_le h.statement)
    apply Fields.sizes_cons_le (hdoubles _)
    apply Fields.sizes_cons_le
      (Json.size_arr_uniform_le h.phases fun name _ => octetsAt_phaseName_le name)
    apply Fields.sizes_cons_le (octetsAt_brief_le h.nextSafeStep)
    exact Fields.sizes_nil_le ()
  · omega

/-- What URLs, header values and the answer of the resolver take in a report. -/
def Report.outsideOctets (pretty : Bool) (report : Report) : ℕ :=
  Json.quotedOctets report.target.intended + Json.quotedOctets report.target.effective +
    Json.quotedOctets report.target.scheme + Json.quotedOctets report.target.host +
    shownOctets report.proxy.endpoint +
    (report.probes.map fun record => Json.quotedOctets record.destination).sum +
    octetsAt pretty 1 ((Codec.list AddressObservation.codec).write report.addresses) +
    (report.http.map HttpHop.outsideOctets).sum + (report.phases.map Phase.outsideOctets).sum

/-- A document takes what its sections take. -/
theorem documentSize_le (report : Report) :
    documentSize Json.quotedOctets pretty report ≤ 295 + (2 * 0 + 3) +
      (octetsAt pretty 1 (Codec.string.write report.schemaVersion) +
      (octetsAt pretty 1 (Codec.string.write report.toolVersion) +
      (20 +
      (octetsAt pretty 1 (TargetSummary.codec.write report.target) +
      (octetsAt pretty 1 (ProxySummary.codec.write report.proxy) +
      (400 + (250 + (150 +
      (octetsAt pretty 1 ((Codec.list ProbeRecord.codec).write report.probes) +
      (octetsAt pretty 1 ((Codec.list AddressObservation.codec).write report.addresses) +
      (octetsAt pretty 1 ((Codec.option TlsSummary.codec Codec.record_write_ne_null).write
        report.tls) +
      (octetsAt pretty 1 ((Codec.list HttpHop.codec).write report.http) +
      (octetsAt pretty 1 ((Codec.list Phase.codec).write report.phases) +
      (4 + 12 +
      (octetsAt pretty 1 ((Codec.list Hypothesis.codec).write report.hypotheses) +
      (octetsAt pretty 1 ((Codec.list Codec.string).write report.ruledOut) +
      (octetsAt pretty 1 ((Codec.list Codec.string).write report.omissions) +
      (octetsAt pretty 1 (optionString.write report.reportSha256) + 0)))))))))))))))))) := by
  have hframe : Report.fields.frame Json.quotedOctets 1 ≤ 295 := by decide
  refine Codec.size_record_le hframe ?_
  apply Fields.sizes_cons_le (le_refl _)
  apply Fields.sizes_cons_le (le_refl _)
  apply Fields.sizes_cons_le (Codec.size_u64_le 1 _)
  apply Fields.sizes_cons_le (le_refl _)
  apply Fields.sizes_cons_le (le_refl _)
  apply Fields.sizes_cons_le (octetsAt_options_le _)
  apply Fields.sizes_cons_le (octetsAt_budget_le _)
  apply Fields.sizes_cons_le (octetsAt_usage_le _)
  apply Fields.sizes_cons_le (le_refl _)
  apply Fields.sizes_cons_le (le_refl _)
  apply Fields.sizes_cons_le (le_refl _)
  apply Fields.sizes_cons_le (le_refl _)
  apply Fields.sizes_cons_le (le_refl _)
  apply Fields.sizes_cons_le
    (Codec.size_option_le 1 PhaseName.codec fun name _ => octetsAt_phaseName_le name)
  apply Fields.sizes_cons_le (le_refl _)
  apply Fields.sizes_cons_le (le_refl _)
  apply Fields.sizes_cons_le (le_refl _)
  apply Fields.sizes_cons_le (le_refl _)
  exact Fields.sizes_nil_le ()

end

end HopWhy
