import HopWhy.Process.Spec
import HopWhy.Offline.Commands

/-!
# The machine contract

The JSON form of every document besides the report, the capabilities, the brief
contract, and the envelope in which an error is written.
-/

namespace HopWhy

open Codec

def capabilitiesSchemaVersion : String := "hopwhy.capabilities.v1"
def errorSchemaVersion : String := "hopwhy.error.v1"

structure AdapterCapability where
  phase : PhaseName
  support : String
  notes : List String
deriving DecidableEq, Repr

structure Capabilities where
  schemaVersion : String
  supportedSchemes : List String
  supportedPlatforms : List String
  defaultPrivateAddressPolicy : String
  capabilities : List AdapterCapability
  nonGoals : List String
deriving DecidableEq, Repr

structure ErrorEnvelope where
  schemaVersion : String
  error : DiagnosticError
deriving DecidableEq, Repr

def AppError.envelope (e : AppError) : ErrorEnvelope where
  schemaVersion := errorSchemaVersion
  error := { code := e.code, message := e.message, retryable := e.retryable }

/-- The `Display` text. -/
def AppError.text (e : AppError) : String := e.code ++ ": " ++ e.message

def PlannedProbe.fields :=
  Fields.cons "sequence" u32 <| .cons "kind" ProbeKind.codec <| .cons "purpose" string <|
    .cons "conditional" bool .nil

def PlannedProbe.codec : Codec PlannedProbe :=
  record {} fields
    (fun p => (p.sequence, p.kind, p.purpose, p.conditional, ()))
    (fun (a, b, c, d, ()) => ⟨a, b, c, d⟩) (fun _ => rfl) (by decide)

def InspectionPlan.fields :=
  Fields.cons "schema_version" string <| .cons "target" TargetSummary.codec <|
    .cons "options" InspectionOptions.codec <| .cons "policy" string <|
    .cons "planned_probes" (list PlannedProbe.codec) <| .cons "network_performed" bool .nil

def InspectionPlan.codec : Codec InspectionPlan :=
  record {} fields
    (fun p => (p.schemaVersion, p.target, p.options, p.policy, p.plannedProbes,
      p.networkPerformed, ()))
    (fun (a, b, c, d, e, f, ()) => ⟨a, b, c, d, e, f⟩) (fun _ => rfl) (by decide)

def optionPhaseStatus : Codec (Option PhaseStatus) := option PhaseStatus.codec fun _ h => nomatch h

def PhaseDifference.fields :=
  Fields.cons "phase" PhaseName.codec <| .cons "left" optionPhaseStatus <|
    .cons "right" optionPhaseStatus .nil

def PhaseDifference.codec : Codec PhaseDifference :=
  record {} fields
    (fun d => (d.phase, d.left, d.right, ()))
    (fun (a, b, c, ()) => ⟨a, b, c⟩) (fun _ => rfl) (by decide)

def CompareResult.fields :=
  Fields.cons "schema_version" string <| .cons "left_report_sha256" string <|
    .cons "right_report_sha256" string <| .cons "same_intended_target" bool <|
    .cons "same_failed_phase" bool <|
    .cons "phase_differences" (list PhaseDifference.codec) <|
    .cons "left_http_statuses" (list u16) <| .cons "right_http_statuses" (list u16) <|
    .cons "summary" (list string) .nil

def CompareResult.codec : Codec CompareResult :=
  record {} fields
    (fun r => (r.schemaVersion, r.leftReportSha256, r.rightReportSha256, r.sameIntendedTarget,
      r.sameFailedPhase, r.phaseDifferences, r.leftHttpStatuses, r.rightHttpStatuses,
      r.summary, ()))
    (fun (a, b, c, d, e, f, g, h, i, ()) => ⟨a, b, c, d, e, f, g, h, i⟩)
    (fun _ => rfl) (by decide)

def ReplayResult.fields :=
  Fields.cons "schema_version" string <| .cons "report_sha256" string <|
    .cons "integrity_valid" bool <| .cons "network_performed" bool <|
    .cons "failed_at" optionPhaseName <| .cons "phase_statuses" (orderedMap PhaseStatus.codec) <|
    .cons "hypotheses" (list Hypothesis.codec) <| .cons "next_safe_steps" (list string) .nil

def ReplayResult.codec : Codec ReplayResult :=
  record {} fields
    (fun r => (r.schemaVersion, r.reportSha256, r.integrityValid, r.networkPerformed, r.failedAt,
      r.phaseStatuses, r.hypotheses, r.nextSafeSteps, ()))
    (fun (a, b, c, d, e, f, g, h, ()) => ⟨a, b, c, d, e, f, g, h⟩) (fun _ => rfl) (by decide)

def AdapterCapability.fields :=
  Fields.cons "phase" PhaseName.codec <| .cons "support" string <|
    .cons "notes" (list string) .nil

def AdapterCapability.codec : Codec AdapterCapability :=
  record {} fields
    (fun c => (c.phase, c.support, c.notes, ()))
    (fun (a, b, c, ()) => ⟨a, b, c⟩) (fun _ => rfl) (by decide)

def Capabilities.fields :=
  Fields.cons "schema_version" string <| .cons "supported_schemes" (list string) <|
    .cons "supported_platforms" (list string) <|
    .cons "default_private_address_policy" string <|
    .cons "capabilities" (list AdapterCapability.codec) <|
    .cons "non_goals" (list string) .nil

def Capabilities.codec : Codec Capabilities :=
  record {} fields
    (fun c => (c.schemaVersion, c.supportedSchemes, c.supportedPlatforms,
      c.defaultPrivateAddressPolicy, c.capabilities, c.nonGoals, ()))
    (fun (a, b, c, d, e, f, ()) => ⟨a, b, c, d, e, f⟩) (fun _ => rfl) (by decide)

def ErrorEnvelope.fields :=
  Fields.cons "schema_version" string <| .cons "error" DiagnosticError.codec .nil

def ErrorEnvelope.codec : Codec ErrorEnvelope :=
  record {} fields
    (fun e => (e.schemaVersion, e.error, ()))
    (fun (a, b, ()) => ⟨a, b⟩) (fun _ => rfl) (by decide)

def capability (phase : PhaseName) (support : String) (notes : List String) :
    AdapterCapability :=
  { phase, support, notes }

def capabilities : Capabilities where
  schemaVersion := capabilitiesSchemaVersion
  supportedSchemes := ["http", "https"]
  supportedPlatforms := ["linux", "macos", "windows"]
  defaultPrivateAddressPolicy :=
    "deny loopback, private, link-local, multicast, documentation, reserved, and IANA " ++
      "non-global special-purpose addresses"
  capabilities := [
    capability .input "full" ["absolute HTTP(S) URL validation", "credential-bearing URLs denied"],
    capability .proxy "partial" ["HTTP(S) proxy and NO_PROXY environment",
      "SOCKS and PAC are not supported",
      "proxy credentials and credential-derived fingerprints are never emitted"],
    capability .dns "partial" ["system resolver answers",
      "upstream resolver identity and DNS transport are not observable"],
    capability .tcp "full" ["bounded IPv4 and IPv6 connection attempts"],
    capability .tls "partial" ["independent direct-target handshake with public roots",
      "proxy tunnel TLS is not separated from the HTTP client"],
    capability .http "full" ["GET and HEAD", "HTTP/1.1 and HTTP/2 client negotiation",
      "safe response header allowlist and bounded body digest/sample"],
    capability .redirects "full"
      ["manual redirect following with target policy re-evaluation"],
    capability .assertions "planned"
      ["0.1 records reachability but does not infer application health"]]
  nonGoals := ["port scanning", "packet capture", "continuous monitoring",
    "automatic DNS, proxy, route, firewall, or certificate changes",
    "proof of an unobservable middlebox root cause"]

def briefContract : Value := .ofJson (.obj [
  ("schema_version", .str "hopwhy.contract.v1"),
  ("tool_version", .str toolVersion),
  ("commands", .arr [.str "inspect", .str "compare", .str "replay", .str "capabilities",
    .str "schema", .str "completions"]),
  ("data_schemas", .obj [
    ("report", .str "hopwhy.report.v1"),
    ("plan", .str "hopwhy.plan.v1"),
    ("compare", .str "hopwhy.compare.v1"),
    ("replay", .str "hopwhy.replay.v1"),
    ("capabilities", .str "hopwhy.capabilities.v1"),
    ("error", .str "hopwhy.error.v1")]),
  ("output_formats", .arr [.str "human", .str "json", .str "ndjson"]),
  ("exit_codes", .obj [
    ("0", .str "successful command, including a diagnostic report whose target path failed"),
    ("1", .str "local I/O or transport setup error outside a completed report"),
    ("2", .str "invalid CLI usage, target, spec, or limit"),
    ("3", .str "policy denial before a report can be produced"),
    ("4", .str "local input or operation budget exceeded"),
    ("5", .str "machine-contract or report-integrity failure")]),
  ("safety_defaults", .obj [
    ("private_addresses", .str "denied"),
    ("redirects", .str "manual and bounded"),
    ("body_sample", .str "omitted; digest retained"),
    ("query_values", .str "redacted"),
    ("addresses", .str "stable hashes"),
    ("automatic_changes", .bool false)])])

def SchemaDocument.asStr : SchemaDocument → String
  | .brief => "brief"
  | .spec => "spec"
  | .report => "report"
  | .plan => "plan"
  | .compare => "compare"
  | .replay => "replay"
  | .capabilities => "capabilities"
  | .error => "error"

def unknownSchemaDocument (document : String) : AppError :=
  .new .usage "unknown_schema_document" ("unknown schema document " ++ document)

/-- The document of a name. A schema serializes without an error. -/
def schemaDocument [CliCrates] : String → AppResult Value
  | "brief" => .ok briefContract
  | "spec" => .ok (.ofJson (CliCrates.schemaFor .spec))
  | "report" => .ok (.ofJson (CliCrates.schemaFor .report))
  | "plan" => .ok (.ofJson (CliCrates.schemaFor .plan))
  | "compare" => .ok (.ofJson (CliCrates.schemaFor .compare))
  | "replay" => .ok (.ofJson (CliCrates.schemaFor .replay))
  | "capabilities" => .ok (.ofJson (CliCrates.schemaFor .capabilities))
  | "error" => .ok (.ofJson (CliCrates.schemaFor .error))
  | document => .error (unknownSchemaDocument document)

end HopWhy
