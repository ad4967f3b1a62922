import Mathlib.Algebra.GroupWithZero.Nat
import Mathlib.Algebra.Order.BigOperators.Group.List
import HopWhy.Library.JsonSize
import HopWhy.Offline.Documents

/-!
# Sizes of emitted documents

An emitted document is at most one octet longer than the size of the written
report, and sealing a report adds a text of fixed size.
-/

namespace HopWhy

theorem plain_lowerHexDigit : ∀ n < 16, Json.Plain (Text.lowerHexDigit n) := by
  unfold Json.Plain
  decide

theorem plain_of_mem_lowerHex {c : Char} {bytes : List UInt8} (h : c ∈ Text.lowerHex bytes) :
    Json.Plain c := by
  obtain ⟨b, -, hc⟩ := List.mem_flatMap.mp h
  have hb := b.toNat_lt
  rcases List.mem_cons.mp hc with rfl | hc
  · exact plain_lowerHexDigit _ (by omega)
  · rw [List.mem_singleton.mp hc]
    exact plain_lowerHexDigit _ (by omega)

theorem plain_base64Digit (n : ℕ) : Json.Plain (Text.base64Digit n) := by
  have hdigits : ∀ n < 63, Json.Plain (Text.base64Digit n) := by
    unfold Json.Plain
    decide
  by_cases h : n < 63
  · exact hdigits n h
  · have hlast : Text.base64Digit n = '/' := by
      rw [Text.base64Digit, if_neg (by omega), if_neg (by omega), if_neg (by omega),
        if_neg (by omega)]
    rw [hlast]
    unfold Json.Plain
    decide

theorem plain_of_mem_base64Chars : ∀ (bytes : List UInt8), ∀ c ∈ Text.base64Chars bytes,
    Json.Plain c := by
  have hpad : Json.Plain '=' := by
    unfold Json.Plain
    decide
  intro bytes
  induction bytes using Text.base64Chars.induct with
  | case1 a b c rest ih => simpa [Text.base64Chars, plain_base64Digit] using ih
  | case2 a b => simp [Text.base64Chars, plain_base64Digit, hpad]
  | case3 a => simp [Text.base64Chars, plain_base64Digit, hpad]
  | case4 => simp [Text.base64Chars]

/-- Every started group of three octets of a sample prints as four characters. -/
theorem quotedOctets_base64 (bytes : List UInt8) :
    Json.quotedOctets (Text.base64 bytes) = 4 * ((bytes.length + 2) / 3) + 2 := by
  rw [Json.quotedOctets, Json.octets_quote_of_plain, Text.base64, String.toList_ofList,
    Text.length_base64Chars]
  intro c hc
  rw [Text.base64, String.toList_ofList] at hc
  exact plain_of_mem_base64Chars bytes c hc

theorem octets_stdoutText_le (text : String) :
    (Text.utf8 (stdoutText text)).length ≤ octets text.toList + 1 := by
  have hbreak : '\n'.utf8Size = 1 := by decide
  rw [stdoutText]
  split_ifs with h
  · rw [← String.ofList_toList (s := text), length_utf8_ofList, String.ofList_toList]
    omega
  · rw [← String.ofList_toList (s := text ++ "\n"), length_utf8_ofList]
    simp [hbreak]

theorem le_octets_stdoutText (text : String) :
    octets text.toList ≤ (Text.utf8 (stdoutText text)).length := by
  rw [stdoutText]
  split_ifs with h
  · rw [← String.ofList_toList (s := text), length_utf8_ofList, String.ofList_toList]
  · rw [← String.ofList_toList (s := text ++ "\n"), length_utf8_ofList]
    simp

variable [Crates]

theorem plain_sha256Hex (bytes : List UInt8) : ∀ c ∈ (sha256Hex bytes).toList, Json.Plain c := by
  intro c hc
  rw [sha256Hex, encodeLower, String.toList_ofList] at hc
  exact plain_of_mem_lowerHex hc

theorem length_sha256Hex (bytes : List UInt8) : (sha256Hex bytes).toList.length = 64 := by
  rw [sha256Hex, encodeLower, String.toList_ofList, Text.length_lowerHex,
    (Crates.sha256 bytes).property]

theorem sixfold_sha256Hex (bytes : List UInt8) : Json.sixfold (sha256Hex bytes) = 386 := by
  rw [Json.sixfold, ← Json.octets_toList, Json.octets_of_plain (plain_sha256Hex bytes),
    length_sha256Hex]

/-- The size of a report as a document in one of the two layouts. -/
def documentSize (quoted : String → ℕ) (pretty : Bool) (report : Report) : ℕ :=
  Json.size pretty Crates.doubleText quoted 0 (Report.codec.write report)

/-- A seal takes the place of a `null`. -/
theorem documentSize_of_sealed (quoted : String → ℕ) (pretty : Bool) {report : Report}
    {digest : String} (h : report.reportSha256 = some digest) :
    documentSize quoted pretty report + 4 =
      documentSize quoted pretty { report with reportSha256 := none } + quoted digest := by
  have hsealed : Json.size pretty Crates.doubleText quoted 1
      (optionString.write (some digest)) = quoted digest := rfl
  have hunsealed : Json.size pretty Crates.doubleText quoted 1 (optionString.write none) = 4 := rfl
  simp only [documentSize, Report.codec, Report.fields, Codec.record, Fields.write, Json.size,
    Json.sizeMembers, h, Nat.zero_add, hsealed, hunsealed]
  omega

/-- The octets of the sample that the hop shows. -/
def sampleOctets (hop : HttpHop) : ℕ := (hop.bodySampleBase64.map Json.quotedOctets).getD 0

/-- A field's value is part of the text of its re-keyed record. -/
theorem octets_text_le_fields {τ : Type} (F : Fields τ) (hnames : F.names.Nodup) (t : τ)
    (pretty : Bool) {m : String × Json} (hm : m ∈ F.write t) (depth : ℕ) :
    octets (Json.text pretty Crates.doubleText (depth + 1) m.2.canon) ≤
      octets (Json.text pretty Crates.doubleText depth (Json.obj (F.write t)).canon) := by
  rw [Json.canon_obj]
  exact Json.octets_text_le_obj (mem_canon_members (by rwa [F.keys_write]) hm) depth

theorem sampleOctets_le (pretty : Bool) (hop : HttpHop) (depth : ℕ) :
    sampleOctets hop ≤
      octets (Json.text pretty Crates.doubleText depth (HttpHop.codec.write hop).canon) := by
  have hmember := octets_text_le_fields HttpHop.fields (by decide)
    (hop.sequence, hop.url, hop.status, hop.version, hop.headers, hop.declaredContentLength,
      hop.returnedBodyBytes, hop.bodyTruncated, hop.bodySampleSha256, hop.bodySampleBase64,
      hop.location, ()) pretty
    (m := ("body_sample_base64", optionString.write hop.bodySampleBase64))
    (List.mem_of_getElem? (i := 9) rfl) depth
  rcases hsample : hop.bodySampleBase64 with _ | sample
  · rw [sampleOctets, hsample]
    exact Nat.zero_le _
  · have hshown : (optionString.write hop.bodySampleBase64).canon = .str sample := by
      rw [hsample]
      rfl
    rw [hshown] at hmember
    rw [sampleOctets, hsample]
    exact hmember

/-- The samples are part of the printed report. -/
theorem sum_sampleOctets_le (pretty : Bool) (report : Report) :
    (report.http.map sampleOctets).sum ≤
      octets (Json.text pretty Crates.doubleText 0 (structuredOutput report)) := by
  have hmember := octets_text_le_fields Report.fields (by decide)
    (report.schemaVersion, report.toolVersion, report.startedAtUnixMs,
      report.target, report.proxy, report.options, report.budget, report.usage, report.probes,
      report.addresses, report.tls, report.http, report.phases, report.failedAt,
      report.hypotheses, report.ruledOut, report.omissions, report.reportSha256, ()) pretty
    (m := ("http", (Codec.list HttpHop.codec).write report.http))
    (List.mem_of_getElem? (i := 11) rfl) 0
  have hhops := Json.sum_octets_le_arr pretty Crates.doubleText
    ((report.http.map HttpHop.codec.write).map Json.canon) 1
  rw [List.map_map, List.map_map] at hhops
  have hsum := List.sum_le_sum fun hop (_ : hop ∈ report.http) => sampleOctets_le pretty hop 2
  rw [Codec.list, Json.canon_arr] at hmember
  exact hsum.trans (hhops.trans hmember)

theorem octets_structuredOutput_le {quoted : String → ℕ}
    (hquoted : ∀ s, octets (Json.quote s) ≤ quoted s) (pretty : Bool) (report : Report) :
    octets (Json.text pretty Crates.doubleText 0 (structuredOutput report)) ≤
      documentSize quoted pretty report := by
  calc
    _ ≤ Json.size pretty Crates.doubleText quoted 0 (structuredOutput report) :=
      Json.octets_text_le hquoted _ 0
    _ ≤ documentSize quoted pretty report := Json.size_canon_le _ 0

/-- An emitted document is no larger than its report, up to the final break. -/
theorem length_emitted_le {report : Report} {format : OutputFormat} {document : List UInt8}
    (h : emitted report format = some document) {quoted : String → ℕ}
    (hquoted : ∀ s, octets (Json.quote s) ≤ quoted s) :
    document.length ≤ documentSize quoted (format = .json) report + 1 := by
  obtain ⟨text, htext, rfl⟩ := Option.map_eq_some_iff.mp h
  refine (octets_stdoutText_le text).trans (Nat.add_le_add_right ?_ 1)
  cases format with
  | human => cases htext
  | json =>
    rw [← Option.some.inj htext, Json.prettyText, String.toList_ofList]
    exact octets_structuredOutput_le hquoted true report
  | ndjson =>
    rw [← Option.some.inj htext, Json.compactText, String.toList_ofList]
    exact octets_structuredOutput_le hquoted false report

/-- An emitted document holds the samples of its report. -/
theorem le_length_emitted {report : Report} {format : OutputFormat} {document : List UInt8}
    (h : emitted report format = some document) :
    (report.http.map sampleOctets).sum ≤ document.length := by
  obtain ⟨text, htext, rfl⟩ := Option.map_eq_some_iff.mp h
  refine le_trans ?_ (le_octets_stdoutText text)
  cases format with
  | human => cases htext
  | json =>
    rw [← Option.some.inj htext, Json.prettyText, String.toList_ofList]
    exact sum_sampleOctets_le true report
  | ndjson =>
    rw [← Option.some.inj htext, Json.compactText, String.toList_ofList]
    exact sum_sampleOctets_le false report

end HopWhy
