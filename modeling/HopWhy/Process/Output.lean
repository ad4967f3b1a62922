import HopWhy.Library.Utf8
import HopWhy.Offline.Usage
import HopWhy.Process.Contract

/-!
# Output

The human text of each result, the text of a result in the selected format, and
what the two output streams receive. A result is re-keyed before it is printed;
an error envelope is printed in field order.
-/

namespace HopWhy

def ProbeKind.debug : ProbeKind → String
  | .dnsLookup => "DnsLookup"
  | .tcpConnect => "TcpConnect"
  | .tlsHandshake => "TlsHandshake"
  | .httpRequest => "HttpRequest"

def PhaseName.debug : PhaseName → String
  | .input => "Input"
  | .proxy => "Proxy"
  | .dns => "Dns"
  | .tcp => "Tcp"
  | .tls => "Tls"
  | .http => "Http"
  | .redirects => "Redirects"
  | .assertions => "Assertions"

def PhaseStatus.debug : PhaseStatus → String
  | .passed => "Passed"
  | .failed => "Failed"
  | .skipped => "Skipped"
  | .notObserved => "NotObserved"

def lines (texts : List String) : String := "\n".intercalate texts

def renderPlannedProbe (probe : PlannedProbe) : String :=
  toString probe.sequence.toNat ++ ". " ++ probe.kind.debug ++ ": " ++ probe.purpose ++
    (if probe.conditional then " (conditional)" else "")

def renderPlan (plan : InspectionPlan) : String :=
  "target: " ++ plan.target.intended ++ "\nnetwork performed: no\npolicy: " ++ plan.policy ++
    "\n" ++ lines (plan.plannedProbes.map renderPlannedProbe) ++ "\n"

def renderPhase (phase : Phase) : String :=
  "- " ++ phase.name.debug ++ ": " ++ phase.status.debug ++ " " ++
    toString phase.durationMs.toNat ++ "ms" ++
    (match phase.error with
      | some error => " (" ++ error.code ++ ")"
      | none => "")

def renderFailedAt (failedAt : Option PhaseName) : String :=
  (failedAt.map PhaseName.debug).getD "none"

def renderDiagnosis [CliCrates] (hypotheses : List Hypothesis) : String :=
  match hypotheses.head? with
  | none => "no hypothesis"
  | some hypothesis =>
    hypothesis.statement ++ " (confidence " ++ CliCrates.twoDecimals hypothesis.confidence ++
      ")\nnext: " ++ hypothesis.nextSafeStep

def renderReport [CliCrates] (report : Report) : String :=
  "target: " ++ report.target.intended ++ "\nfailed at: " ++ renderFailedAt report.failedAt ++
    "\nprobes: " ++ toString report.usage.probesUsed.toNat ++ "/" ++
    toString report.budget.maxProbes.toNat ++ "\n" ++ lines (report.phases.map renderPhase) ++
    "\ndiagnosis: " ++ renderDiagnosis report.hypotheses ++ "\nreport sha256: " ++
    report.reportSha256.getD "unavailable" ++ "\n"

def renderCompare (result : CompareResult) : String :=
  "same target: " ++ toString result.sameIntendedTarget ++ "\nsame failed phase: " ++
    toString result.sameFailedPhase ++ "\nphase differences: " ++
    toString result.phaseDifferences.length ++ "\n" ++ lines result.summary ++ "\n"

def renderReplay (result : ReplayResult) : String :=
  "integrity: " ++ (if result.integrityValid then "valid" else "invalid") ++
    "\nnetwork performed: no\nfailed at: " ++ renderFailedAt result.failedAt ++ "\n" ++
    lines result.nextSafeSteps ++ "\n"

def renderCapabilities (result : Capabilities) : String :=
  "schemes: " ++ ", ".intercalate result.supportedSchemes ++ "\nplatforms: " ++
    ", ".intercalate result.supportedPlatforms ++ "\nprivate targets: denied by default\n"

structure CommandOutput where
  value : Option Json
  human : String
  raw : Option String

/-- A result as the re-keyed tree of its codec. -/
def CommandOutput.structured {α : Type} (c : Codec α) (value : α) (human : String) :
    CommandOutput where
  value := some (c.write value).canon
  human
  raw := none

section

variable [Crates]

/-- Raw text is printed in every format. -/
def CommandOutput.render (output : CommandOutput) (format : OutputFormat) : String :=
  match output.raw with
  | some raw => raw
  | none => (HopWhy.render (output.value.getD .null) format).getD output.human

/-- The text of an error on standard error, in the selected format. -/
def errorText (error : AppError) (format : OutputFormat) : String :=
  (HopWhy.render (ErrorEnvelope.codec.write error.envelope) format).getD error.text

end

/-- How standard output answers a call of `write_all`. A failed call tells how many of the
octets handed over so far have reached the consumer. -/
inductive WriteAnswer where
  | written
  | failed (taken : ℕ) (brokenPipe : Bool) (error : String)
deriving DecidableEq, Repr

def stdoutBrokenPipe : AppError := .new .io "stdout_broken_pipe" "output consumer closed the pipe"

def stdoutWriteFailed (error : String) : AppError :=
  .new .io "stdout_write_failed" ("could not write command output: " ++ error)

def stdoutWriteError (brokenPipe : Bool) (error : String) : AppError :=
  if brokenPipe then stdoutBrokenPipe else stdoutWriteFailed error

/-- The result of the writing, and what the consumer has of it. -/
def writeStdout (answer : ℕ → WriteAnswer) (text : String) : AppResult Unit × List UInt8 :=
  match answer 0 with
  | .failed taken brokenPipe error =>
    (.error (stdoutWriteError brokenPipe error), (Text.utf8 text).take taken)
  | .written =>
    if text.toList.getLast? = some '\n' then (.ok (), Text.utf8 text)
    else
      match answer 1 with
      | .failed taken brokenPipe error =>
        (.error (stdoutWriteError brokenPipe error), (Text.utf8 (stdoutText text)).take taken)
      | .written => (.ok (), Text.utf8 (stdoutText text))

/-- What a finished process leaves behind. -/
structure Finished where
  stdout : List UInt8
  stderr : List UInt8
  exitCode : UInt8
deriving DecidableEq, Repr

/-- `u8::try_from(code).unwrap_or(1)`. -/
def exitByte (cls : ErrorClass) : UInt8 :=
  if 0 ≤ cls.exitCode ∧ cls.exitCode < 256 then UInt8.ofNat cls.exitCode.toNat else 1

end HopWhy
