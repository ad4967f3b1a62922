import HopWhy.Engine.Inspect
import HopWhy.Process.Output

/-!
# The process

One command from the parsed command line to the exit code. Only an inspection
that is no dry run has a world to change.
-/

namespace HopWhy

inductive Commands where
  | inspect (target spec : Option String) (dryRun : Bool) (flags : Overrides)
  | compare (left right : String)
  | replay (report : String)
  | capabilities
  | schema (document : SchemaDocument)
  | completions (shell : CompletionShell)
deriving DecidableEq, Repr

structure Cli where
  format : OutputFormat
  command : Commands
deriving DecidableEq, Repr

/-- What a process meets: the world of an inspection, the files by the order in which it opens
them, and the consumer of its output. -/
structure Host where
  env : Environment
  file : ℕ → String → ReportFile
  stdout : ℕ → WriteAnswer

/-- A host without files, and with a consumer that takes everything. -/
def Host.plain (env : Environment) : Host where
  env
  file _ _ := ⟨.error "No such file or directory (os error 2)",
    .error "No such file or directory (os error 2)"⟩
  stdout _ := .written

def completionEncodingFailed : AppError :=
  .new .contract "completion_encoding_failed" "completion output was not UTF-8"

/-- `String::from_utf8`. -/
def fromUtf8 (bytes : List UInt8) : Option String :=
  if Text.utf8 (Text.fromUtf8Lossy bytes) = bytes then some (Text.fromUtf8Lossy bytes) else none

section

variable [Crates] [CliCrates]

/-- The spec of an inspection, with the flags applied. -/
def requestedSpec (host : Host) (target spec : Option String) (flags : Overrides) :
    AppResult InspectSpec := do
  let specification ← resolveSpec (host.file 0) target spec
  let options ← applyOverrides specification.options flags
  pure { specification with options }

theorem requestedSpec_eq_ok {host : Host} {target spec : Option String} {flags : Overrides}
    {specification : InspectSpec} :
    requestedSpec host target spec flags = .ok specification ↔
      ∃ base options, resolveSpec (host.file 0) target spec = .ok base ∧
        applyOverrides base.options flags = .ok options ∧
        specification = { base with options } := by
  unfold requestedSpec
  rcases resolveSpec (host.file 0) target spec with error | base
  · simp [bind, Except.bind]
  · rcases hoptions : applyOverrides base.options flags with error | options
    · simp [bind, Except.bind, hoptions]
    · simp [bind, Except.bind, pure, Except.pure, hoptions, eq_comm]

/-- A command up to its output. -/
def run (host : Host) : Commands → Prog (World host.env) AppError CommandOutput
  | .inspect target spec dryRun flags => do
    let specification ← Prog.ofExcept (requestedSpec host target spec flags)
    if dryRun then do
      let result ← Prog.ofExcept (plan host.env.envVar specification)
      pure (.structured InspectionPlan.codec result (renderPlan result))
    else do
      let result ← inspectWithBackend (liveBackend host.env) host.env.envVar host.env.wallClock
        specification
      pure (.structured Report.codec result (renderReport result))
  | .compare left right => do
    let leftReport ← Prog.ofExcept (loadReport left (host.file 0 left))
    let rightReport ← Prog.ofExcept (loadReport right (host.file 1 right))
    let result ← Prog.ofExcept (HopWhy.compare leftReport rightReport)
    pure (.structured CompareResult.codec result (renderCompare result))
  | .replay path => do
    let report ← Prog.ofExcept (loadReport path (host.file 0 path))
    let result ← Prog.ofExcept (HopWhy.replay report)
    pure (.structured ReplayResult.codec result (renderReplay result))
  | .capabilities =>
    pure (.structured Capabilities.codec capabilities (renderCapabilities capabilities))
  | .schema document => do
    let result ← Prog.ofExcept (schemaDocument document.asStr)
    pure (.structured Codec.value result (result.tree.prettyText Crates.doubleText))
  | .completions shell =>
    match fromUtf8 (CliCrates.completions shell) with
    | none => Prog.fail completionEncodingFailed
    | some raw => pure { value := none, human := "", raw := some raw }

/-- The end of a process with an error. A consumer that has gone away is no failure. -/
def finishError (error : AppError) (format : OutputFormat) (stdout : List UInt8) : Finished :=
  if error.code = "stdout_broken_pipe" then { stdout, stderr := [], exitCode := 0 }
  else {
    stdout
    stderr := Text.utf8 (errorText error format ++ "\n")
    exitCode := exitByte error.cls }

/-- The end of a process with an output to write. -/
def finishOutput (answer : ℕ → WriteAnswer) (output : CommandOutput) (format : OutputFormat) :
    Finished :=
  match writeStdout answer (output.render format) with
  | (.error error, stdout) => finishError error format stdout
  | (.ok (), stdout) => { stdout, stderr := [], exitCode := 0 }

/-- A process after its command line is parsed: what it leaves, and what happened in the world. -/
def execute (host : Host) (cli : Cli) : Finished × World host.env :=
  match run host cli.command (World.start host.env) with
  | (.error error, w) => (finishError error cli.format [], w)
  | (.ok output, w) => (finishOutput host.stdout output cli.format, w)

/-- A command line that the parser rejects ends the process without a command. Help and version
go to standard output. -/
def finishRejected (arguments : List String) (error : ClapError) : Finished :=
  match rejectCommandLine arguments error with
  | (.printed error, exitCode) =>
    if error.kind = .rejected then { stdout := [], stderr := Text.utf8 error.text, exitCode }
    else { stdout := Text.utf8 error.text, stderr := [], exitCode }
  | (.written error format, exitCode) =>
    { stdout := [], stderr := Text.utf8 (errorText error format ++ "\n"), exitCode }

def main (host : Host) (arguments : List String) (parsed : Except ClapError Cli) :
    Finished × World host.env :=
  match parsed with
  | .error error => (finishRejected arguments error, World.start host.env)
  | .ok cli => execute host cli

end

end HopWhy
