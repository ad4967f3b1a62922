import HopWhy.Library.Json

/-!
# The versioned documents

The report of an inspection and the results of the offline commands. Machine
integers keep their width; `usize` is a 64-bit word. Maps are sorted maps and a
free-form observation is a sorted JSON value.
-/

namespace HopWhy

def reportSchemaVersion : String := "hopwhy.report.v1"
def planSchemaVersion : String := "hopwhy.plan.v1"
def compareSchemaVersion : String := "hopwhy.compare.v1"
def replaySchemaVersion : String := "hopwhy.replay.v1"

/-- The package version the tool writes into its reports. -/
def toolVersion : String := "0.3.0"

inductive RequestMethod where
  | get
  | head
deriving DecidableEq, Repr

structure InspectionOptions where
  budgetMs : UInt64 := 15000
  maxProbes : UInt32 := 12
  maxAddresses : UInt64 := 4
  maxRedirects : UInt64 := 5
  maxBodyBytes : UInt64 := 4096
  includeBodySample : Bool := false
  allowPrivate : Bool := false
  showAddresses : Bool := false
  showQueryValues : Bool := false
  disableProxy : Bool := false
  method : RequestMethod := .get
deriving DecidableEq, Repr

structure InspectSpec where
  target : String
  options : InspectionOptions
deriving DecidableEq, Repr

structure TargetSummary where
  intended : String
  effective : String
  scheme : String
  host : String
  port : UInt16
deriving DecidableEq, Repr

structure ProxySummary where
  selected : Bool
  source : Option String
  endpoint : Option String
  configurationSha256 : Option String
  bypassReason : Option String
deriving DecidableEq, Repr

inductive PhaseName where
  | input
  | proxy
  | dns
  | tcp
  | tls
  | http
  | redirects
  | assertions
deriving DecidableEq, Repr

inductive PhaseStatus where
  | passed
  | failed
  | skipped
  | notObserved
deriving DecidableEq, Repr

structure Observation where
  kind : String
  value : Value
  evidence : String

structure DiagnosticError where
  code : String
  message : String
  retryable : Bool
deriving DecidableEq, Repr

structure Phase where
  name : PhaseName
  status : PhaseStatus
  durationMs : UInt64
  observations : List Observation
  limitations : List String
  error : Option DiagnosticError

inductive ProbeKind where
  | dnsLookup
  | tcpConnect
  | tlsHandshake
  | httpRequest
deriving DecidableEq, Repr

structure ProbeRecord where
  sequence : UInt32
  kind : ProbeKind
  destination : String
  startedMs : UInt64
  durationMs : UInt64
  outcome : String
deriving DecidableEq, Repr

structure AddressObservation where
  address : String
  family : String
  permitted : Bool
  classification : String
deriving DecidableEq, Repr

structure TlsSummary where
  protocol : Option String
  cipherSuite : Option String
  alpn : Option String
  peerLeafSha256 : Option String
  peerCertificateCount : UInt64
deriving DecidableEq, Repr

structure HttpHop where
  sequence : UInt64
  url : String
  status : UInt16
  version : String
  headers : OrderedMap String String
  declaredContentLength : Option UInt64
  returnedBodyBytes : UInt64
  bodyTruncated : Bool
  bodySampleSha256 : String
  bodySampleBase64 : Option String
  location : Option String

def confidence100 : F64 := ⟨0x3ff0000000000000, by decide⟩
def confidence95 : F64 := ⟨0x3fee666666666666, by decide⟩
def confidence90 : F64 := ⟨0x3feccccccccccccd, by decide⟩
def confidence80 : F64 := ⟨0x3fe999999999999a, by decide⟩

structure Hypothesis where
  code : String
  statement : String
  confidence : F64
  evidencePhases : List PhaseName
  nextSafeStep : String
deriving DecidableEq

structure Budget where
  durationMs : UInt64
  maxProbes : UInt32
  maxAddresses : UInt64
  maxRedirects : UInt64
  maxBodyBytes : UInt64
deriving DecidableEq, Repr

structure Usage where
  elapsedMs : UInt64
  probesUsed : UInt32
  responseBytesRead : UInt64
deriving DecidableEq, Repr

structure Report where
  schemaVersion : String
  toolVersion : String
  startedAtUnixMs : UInt64
  target : TargetSummary
  proxy : ProxySummary
  options : InspectionOptions
  budget : Budget
  usage : Usage
  probes : List ProbeRecord
  addresses : List AddressObservation
  tls : Option TlsSummary
  http : List HttpHop
  phases : List Phase
  failedAt : Option PhaseName
  hypotheses : List Hypothesis
  ruledOut : List String
  omissions : List String
  reportSha256 : Option String

structure PlannedProbe where
  sequence : UInt32
  kind : ProbeKind
  purpose : String
  conditional : Bool
deriving DecidableEq, Repr

structure InspectionPlan where
  schemaVersion : String
  target : TargetSummary
  options : InspectionOptions
  policy : String
  plannedProbes : List PlannedProbe
  networkPerformed : Bool
deriving DecidableEq, Repr

structure PhaseDifference where
  phase : PhaseName
  left : Option PhaseStatus
  right : Option PhaseStatus
deriving DecidableEq, Repr

structure CompareResult where
  schemaVersion : String
  leftReportSha256 : String
  rightReportSha256 : String
  sameIntendedTarget : Bool
  sameFailedPhase : Bool
  phaseDifferences : List PhaseDifference
  leftHttpStatuses : List UInt16
  rightHttpStatuses : List UInt16
  summary : List String
deriving DecidableEq, Repr

structure ReplayResult where
  schemaVersion : String
  reportSha256 : String
  integrityValid : Bool
  networkPerformed : Bool
  failedAt : Option PhaseName
  phaseStatuses : OrderedMap String PhaseStatus
  hypotheses : List Hypothesis
  nextSafeSteps : List String

/-- `u64::try_from(n).unwrap_or(u64::MAX)`. -/
def saturatingU64 (n : ℕ) : UInt64 :=
  if n < 2 ^ 64 then UInt64.ofNat n else UInt64.ofNat (2 ^ 64 - 1)

/-- `u32::try_from(n).unwrap_or(u32::MAX)`. -/
def saturatingU32 (n : ℕ) : UInt32 :=
  if n < 2 ^ 32 then UInt32.ofNat n else UInt32.ofNat (2 ^ 32 - 1)

theorem toNat_saturatingU64 {n : ℕ} (h : n < 2 ^ 64) : (saturatingU64 n).toNat = n := by
  rw [saturatingU64, if_pos h, UInt64.toNat_ofNat_of_lt' h]

theorem toNat_saturatingU32 {n : ℕ} (h : n < 2 ^ 32) : (saturatingU32 n).toNat = n := by
  rw [saturatingU32, if_pos h, UInt32.toNat_ofNat_of_lt' h]

end HopWhy
