import HopWhy.Library.Codec
import HopWhy.Model.Report

/-!
# The JSON form of the report

One codec for every type of the report, with the member names and variant names
of the serialized document. Only the inspection options refuse unknown members,
and only they fill missing ones from their defaults.
-/

namespace HopWhy

open Codec

def optionString : Codec (Option String) := option string fun _ h => nomatch h

def RequestMethod.label : RequestMethod → String
  | .get => "get"
  | .head => "head"

def RequestMethod.codec : Codec RequestMethod :=
  enumeration label [.get, .head] fun m => by cases m <;> decide

def InspectionOptions.fields :=
  let default : InspectionOptions := {}
  Fields.cons "budget_ms" (u64.withDefault default.budgetMs) <|
    .cons "max_probes" (u32.withDefault default.maxProbes) <|
    .cons "max_addresses" (u64.withDefault default.maxAddresses) <|
    .cons "max_redirects" (u64.withDefault default.maxRedirects) <|
    .cons "max_body_bytes" (u64.withDefault default.maxBodyBytes) <|
    .cons "include_body_sample" (bool.withDefault default.includeBodySample) <|
    .cons "allow_private" (bool.withDefault default.allowPrivate) <|
    .cons "show_addresses" (bool.withDefault default.showAddresses) <|
    .cons "show_query_values" (bool.withDefault default.showQueryValues) <|
    .cons "disable_proxy" (bool.withDefault default.disableProxy) <|
    .cons "method" (RequestMethod.codec.withDefault default.method) .nil

def InspectionOptions.codec : Codec InspectionOptions :=
  record { closed := true, defaults := true } fields
    (fun o => (o.budgetMs, o.maxProbes, o.maxAddresses, o.maxRedirects, o.maxBodyBytes,
      o.includeBodySample, o.allowPrivate, o.showAddresses, o.showQueryValues, o.disableProxy,
      o.method, ()))
    (fun (a, b, c, d, e, f, g, h, i, j, k, ()) => ⟨a, b, c, d, e, f, g, h, i, j, k⟩)
    (fun _ => rfl) (by decide)

def TargetSummary.fields :=
  Fields.cons "intended" string <| .cons "effective" string <| .cons "scheme" string <|
    .cons "host" string <| .cons "port" u16 .nil

def TargetSummary.codec : Codec TargetSummary :=
  record {} fields
    (fun t => (t.intended, t.effective, t.scheme, t.host, t.port, ()))
    (fun (a, b, c, d, e, ()) => ⟨a, b, c, d, e⟩) (fun _ => rfl) (by decide)

def ProxySummary.fields :=
  Fields.cons "selected" bool <| .cons "source" optionString <| .cons "endpoint" optionString <|
    .cons "configuration_sha256" optionString <| .cons "bypass_reason" optionString .nil

def ProxySummary.codec : Codec ProxySummary :=
  record {} fields
    (fun p => (p.selected, p.source, p.endpoint, p.configurationSha256, p.bypassReason, ()))
    (fun (a, b, c, d, e, ()) => ⟨a, b, c, d, e⟩) (fun _ => rfl) (by decide)

def PhaseName.label : PhaseName → String
  | .input => "input"
  | .proxy => "proxy"
  | .dns => "dns"
  | .tcp => "tcp"
  | .tls => "tls"
  | .http => "http"
  | .redirects => "redirects"
  | .assertions => "assertions"

def PhaseName.codec : Codec PhaseName :=
  enumeration label [.input, .proxy, .dns, .tcp, .tls, .http, .redirects, .assertions]
    fun p => by cases p <;> decide

def PhaseStatus.label : PhaseStatus → String
  | .passed => "passed"
  | .failed => "failed"
  | .skipped => "skipped"
  | .notObserved => "not_observed"

def PhaseStatus.codec : Codec PhaseStatus :=
  enumeration label [.passed, .failed, .skipped, .notObserved] fun s => by cases s <;> decide

def Observation.fields :=
  Fields.cons "kind" string <| .cons "value" Codec.value <| .cons "evidence" string .nil

def Observation.codec : Codec Observation :=
  record {} fields
    (fun o => (o.kind, o.value, o.evidence, ()))
    (fun (a, b, c, ()) => ⟨a, b, c⟩) (fun _ => rfl) (by decide)

def DiagnosticError.fields :=
  Fields.cons "code" string <| .cons "message" string <| .cons "retryable" bool .nil

def DiagnosticError.codec : Codec DiagnosticError :=
  record {} fields
    (fun e => (e.code, e.message, e.retryable, ()))
    (fun (a, b, c, ()) => ⟨a, b, c⟩) (fun _ => rfl) (by decide)

def Phase.fields :=
  Fields.cons "name" PhaseName.codec <| .cons "status" PhaseStatus.codec <|
    .cons "duration_ms" u64 <| .cons "observations" (list Observation.codec) <|
    .cons "limitations" (list string) <|
    .cons "error" (option DiagnosticError.codec record_write_ne_null) .nil

def Phase.codec : Codec Phase :=
  record {} fields
    (fun p => (p.name, p.status, p.durationMs, p.observations, p.limitations, p.error, ()))
    (fun (a, b, c, d, e, f, ()) => ⟨a, b, c, d, e, f⟩) (fun _ => rfl) (by decide)

def ProbeKind.label : ProbeKind → String
  | .dnsLookup => "dns_lookup"
  | .tcpConnect => "tcp_connect"
  | .tlsHandshake => "tls_handshake"
  | .httpRequest => "http_request"

def ProbeKind.codec : Codec ProbeKind :=
  enumeration label [.dnsLookup, .tcpConnect, .tlsHandshake, .httpRequest]
    fun k => by cases k <;> decide

def ProbeRecord.fields :=
  Fields.cons "sequence" u32 <| .cons "kind" ProbeKind.codec <| .cons "destination" string <|
    .cons "started_ms" u64 <| .cons "duration_ms" u64 <| .cons "outcome" string .nil

def ProbeRecord.codec : Codec ProbeRecord :=
  record {} fields
    (fun p => (p.sequence, p.kind, p.destination, p.startedMs, p.durationMs, p.outcome, ()))
    (fun (a, b, c, d, e, f, ()) => ⟨a, b, c, d, e, f⟩) (fun _ => rfl) (by decide)

def AddressObservation.fields :=
  Fields.cons "address" string <| .cons "family" string <| .cons "permitted" bool <|
    .cons "classification" string .nil

def AddressObservation.codec : Codec AddressObservation :=
  record {} fields
    (fun a => (a.address, a.family, a.permitted, a.classification, ()))
    (fun (a, b, c, d, ()) => ⟨a, b, c, d⟩) (fun _ => rfl) (by decide)

def TlsSummary.fields :=
  Fields.cons "protocol" optionString <| .cons "cipher_suite" optionString <|
    .cons "alpn" optionString <| .cons "peer_leaf_sha256" optionString <|
    .cons "peer_certificate_count" u64 .nil

def TlsSummary.codec : Codec TlsSummary :=
  record {} fields
    (fun t => (t.protocol, t.cipherSuite, t.alpn, t.peerLeafSha256, t.peerCertificateCount, ()))
    (fun (a, b, c, d, e, ()) => ⟨a, b, c, d, e⟩) (fun _ => rfl) (by decide)

def HttpHop.fields :=
  Fields.cons "sequence" u64 <| .cons "url" string <| .cons "status" u16 <|
    .cons "version" string <| .cons "headers" stringMap <|
    .cons "declared_content_length" (option u64 fun _ h => nomatch h) <|
    .cons "returned_body_bytes" u64 <| .cons "body_truncated" bool <|
    .cons "body_sample_sha256" string <| .cons "body_sample_base64" optionString <|
    .cons "location" optionString .nil

def HttpHop.codec : Codec HttpHop :=
  record {} fields
    (fun h => (h.sequence, h.url, h.status, h.version, h.headers, h.declaredContentLength,
      h.returnedBodyBytes, h.bodyTruncated, h.bodySampleSha256, h.bodySampleBase64,
      h.location, ()))
    (fun (a, b, c, d, e, f, g, h, i, j, k, ()) => ⟨a, b, c, d, e, f, g, h, i, j, k⟩)
    (fun _ => rfl) (by decide)

def Hypothesis.fields :=
  Fields.cons "code" string <| .cons "statement" string <| .cons "confidence" f64 <|
    .cons "evidence_phases" (list PhaseName.codec) <| .cons "next_safe_step" string .nil

def Hypothesis.codec : Codec Hypothesis :=
  record {} fields
    (fun h => (h.code, h.statement, h.confidence, h.evidencePhases, h.nextSafeStep, ()))
    (fun (a, b, c, d, e, ()) => ⟨a, b, c, d, e⟩) (fun _ => rfl) (by decide)

def Budget.fields :=
  Fields.cons "duration_ms" u64 <| .cons "max_probes" u32 <| .cons "max_addresses" u64 <|
    .cons "max_redirects" u64 <| .cons "max_body_bytes" u64 .nil

def Budget.codec : Codec Budget :=
  record {} fields
    (fun b => (b.durationMs, b.maxProbes, b.maxAddresses, b.maxRedirects, b.maxBodyBytes, ()))
    (fun (a, b, c, d, e, ()) => ⟨a, b, c, d, e⟩) (fun _ => rfl) (by decide)

def Usage.fields :=
  Fields.cons "elapsed_ms" u64 <| .cons "probes_used" u32 <| .cons "response_bytes_read" u64 .nil

def Usage.codec : Codec Usage :=
  record {} fields
    (fun u => (u.elapsedMs, u.probesUsed, u.responseBytesRead, ()))
    (fun (a, b, c, ()) => ⟨a, b, c⟩) (fun _ => rfl) (by decide)

def optionPhaseName : Codec (Option PhaseName) := option PhaseName.codec fun _ h => nomatch h

def Report.fields :=
  Fields.cons "schema_version" string <| .cons "tool_version" string <|
    .cons "started_at_unix_ms" u64 <| .cons "target" TargetSummary.codec <|
    .cons "proxy" ProxySummary.codec <| .cons "options" InspectionOptions.codec <|
    .cons "budget" Budget.codec <| .cons "usage" Usage.codec <|
    .cons "probes" (list ProbeRecord.codec) <|
    .cons "addresses" (list AddressObservation.codec) <|
    .cons "tls" (option TlsSummary.codec record_write_ne_null) <|
    .cons "http" (list HttpHop.codec) <| .cons "phases" (list Phase.codec) <|
    .cons "failed_at" optionPhaseName <| .cons "hypotheses" (list Hypothesis.codec) <|
    .cons "ruled_out" (list string) <| .cons "omissions" (list string) <|
    .cons "report_sha256" optionString .nil

def Report.codec : Codec Report :=
  record {} fields
    (fun r => (r.schemaVersion, r.toolVersion, r.startedAtUnixMs, r.target, r.proxy, r.options,
      r.budget, r.usage, r.probes, r.addresses, r.tls, r.http, r.phases, r.failedAt,
      r.hypotheses, r.ruledOut, r.omissions, r.reportSha256, ()))
    (fun (a, b, c, d, e, f, g, h, i, j, k, l, m, n, o, p, q, r, ()) =>
      ⟨a, b, c, d, e, f, g, h, i, j, k, l, m, n, o, p, q, r⟩)
    (fun _ => rfl) (by decide)

end HopWhy
