import HopWhy.Guarantees.ReadBack
import HopWhy.Process.Run

/-!
# Output streams

Every failure of a command is one of a fixed list for that command, with the class
that decides its exit code. In a machine format a process leaves one document: its
result on standard output, or the envelope of its error on standard error.
-/

namespace HopWhy

/-- The codes under which an inspection is refused, with their classes. -/
def inspectFailures : List (String × ErrorClass) :=
  [("ambiguous_inspect_input", .usage), ("missing_inspect_input", .usage),
    ("spec_metadata_failed", .io), ("spec_not_regular_file", .io), ("spec_too_large", .budget),
    ("spec_read_failed", .io), ("invalid_spec", .usage), ("invalid_budget", .usage),
    ("invalid_probe_limit", .usage), ("invalid_address_limit", .usage),
    ("invalid_redirect_limit", .usage), ("invalid_body_limit", .usage),
    ("invalid_target", .usage), ("unsupported_scheme", .policy), ("missing_target_host", .usage),
    ("embedded_credentials_denied", .policy), ("missing_target_port", .usage),
    ("invalid_proxy_url", .policy), ("unsupported_proxy_scheme", .policy),
    ("missing_proxy_host", .policy), ("missing_proxy_port", .policy)]

/-- The codes under which a report file is refused, with their classes. -/
def reportFailures : List (String × ErrorClass) :=
  [("report_metadata_failed", .io), ("report_not_regular_file", .io),
    ("report_too_large", .budget), ("report_read_failed", .io),
    ("invalid_report_json", .contract), ("unsupported_report_schema", .contract),
    ("missing_report_digest", .contract), ("report_integrity_mismatch", .contract)]

def Commands.failures : Commands → List (String × ErrorClass)
  | .inspect .. => inspectFailures
  | .compare .. => reportFailures
  | .replay .. => reportFailures
  | .capabilities => []
  | .schema .. => []
  | .completions .. => [("completion_encoding_failed", .contract)]

/-- No command fails as a consumer that hangs up does. -/
theorem Commands.failures_ne_brokenPipe (command : Commands) :
    ∀ failure ∈ command.failures, failure.1 ≠ "stdout_broken_pipe" := by
  have hlists : ∀ failure ∈ inspectFailures ++ reportFailures,
      failure.1 ≠ "stdout_broken_pipe" := by
    decide
  intro failure hmem
  cases command with
  | inspect => exact hlists failure (List.mem_append_left _ hmem)
  | compare => exact hlists failure (List.mem_append_right _ hmem)
  | replay => exact hlists failure (List.mem_append_right _ hmem)
  | capabilities => cases hmem
  | schema => cases hmem
  | completions =>
    cases List.mem_singleton.mp hmem
    decide

/-- A failure of the list. None of them is worth a retry. -/
structure Listed (failures : List (String × ErrorClass)) (error : AppError) : Prop where
  mem : (error.code, error.cls) ∈ failures
  final : error.retryable = false

/-- The result is no failure outside the list. -/
def FailsAs {α : Type} (failures : List (String × ErrorClass)) (r : AppResult α) : Prop :=
  ∀ error, r = .error error → Listed failures error

namespace FailsAs

variable {failures : List (String × ErrorClass)} {α β : Type}

theorem ok {a : α} : FailsAs failures (.ok a) := by
  intro error h
  cases h

theorem new {cls : ErrorClass} {code message : String} (h : (code, cls) ∈ failures) :
    FailsAs failures (.error (.new cls code message) : AppResult α) := by
  intro error herror
  cases herror
  exact ⟨h, rfl⟩

theorem bind {r : AppResult α} {f : α → AppResult β} (h : FailsAs failures r)
    (hf : ∀ a, FailsAs failures (f a)) : FailsAs failures (r >>= f) := by
  rcases r with e | a
  · intro error herror
    cases herror
    exact h e rfl
  · exact hf a

end FailsAs

theorem validateOptions_failsAs (options : InspectionOptions) :
    FailsAs inspectFailures (validateOptions options) := by
  unfold validateOptions
  split_ifs
  · exact .new (by decide)
  · exact .new (by decide)
  · exact .ok
  · exact .new (by decide)
  · exact .new (by decide)
  · exact .new (by decide)

theorem acceptTarget_failsAs (url : Url) (options : InspectionOptions) :
    FailsAs inspectFailures (acceptTarget url options) := by
  unfold acceptTarget
  split_ifs
  · exact .new (by decide)
  · exact .new (by decide)
  · exact .new (by decide)
  · dsimp only
    split
    · exact .new (by decide)
    · exact .ok

section

variable [Crates]

theorem parseTarget_failsAs (raw : String) (options : InspectionOptions) :
    FailsAs inspectFailures (parseTarget raw options) := by
  unfold parseTarget
  split
  · exact .new (by decide)
  · exact acceptTarget_failsAs _ options

theorem selectProxy_failsAs (environment : EnvironmentValue) :
    FailsAs inspectFailures (selectProxy environment) := by
  unfold selectProxy
  split
  · exact .new (by decide)
  · split_ifs
    · exact .new (by decide)
    · split
      · exact .new (by decide)
      · split
        · exact .new (by decide)
        · exact .ok

theorem resolveProxy_failsAs (envVar : String → Option String) (target : Url)
    (options : InspectionOptions) :
    FailsAs inspectFailures (resolveProxy envVar target options) := by
  unfold resolveProxy
  dsimp only
  split_ifs
  · exact .ok
  · split
    · exact .ok
    · split
      · exact .ok
      · exact selectProxy_failsAs _

/-- A plan is refused for the reasons of a run. -/
theorem plan_failsAs (envVar : String → Option String) (spec : InspectSpec) :
    FailsAs inspectFailures (plan envVar spec) :=
  (validateOptions_failsAs spec.options).bind fun _ =>
    (parseTarget_failsAs spec.target spec.options).bind fun target =>
      (resolveProxy_failsAs envVar target.url spec.options).bind fun _ => .ok

theorem inspectWithBackend_listed {σ : Type} [Clock σ] (backend : DiagnosticBackend σ)
    {envVar : String → Option String} {wallClock : ℤ} {spec : InspectSpec} {w w' : σ}
    {error : AppError}
    (h : inspectWithBackend backend envVar wallClock spec w = (.error error, w')) :
    Listed inspectFailures error := by
  rcases inspectWithBackend_eq_error backend h with hvalid | hparsed | ⟨parsed, hproxy⟩
  · exact validateOptions_failsAs _ _ hvalid
  · exact parseTarget_failsAs _ _ _ hparsed
  · exact resolveProxy_failsAs _ _ _ _ hproxy

theorem verifyReport_failsAs (report : Report) :
    FailsAs reportFailures (verifyReport report) := by
  unfold verifyReport
  split_ifs
  · exact .new (by decide)
  · split
    · exact .new (by decide)
    · split_ifs
      · exact .new (by decide)
      · exact .ok

theorem readReport_failsAs (label : String) (bytes : List UInt8) :
    FailsAs reportFailures (readReport label bytes) := by
  unfold readReport
  split
  · exact .new (by decide)
  · split
    · exact .new (by decide)
    · exact .ok

theorem loadReport_failsAs (path : String) (file : ReportFile) :
    FailsAs reportFailures (loadReport path file) := by
  unfold loadReport
  split
  · exact .new (by decide)
  · split_ifs
    · exact .new (by decide)
    · exact .new (by decide)
    · split
      · exact .new (by decide)
      · unfold parseReportDocumentWithLabel
        split_ifs
        · exact .new (by decide)
        · exact (readReport_failsAs path _).bind fun report =>
            (verifyReport_failsAs report).bind fun _ => .ok

theorem replay_failsAs (report : Report) : FailsAs reportFailures (replay report) :=
  (verifyReport_failsAs report).bind fun _ => .ok

theorem compare_failsAs (left right : Report) : FailsAs reportFailures (compare left right) :=
  (verifyReport_failsAs left).bind fun _ => (verifyReport_failsAs right).bind fun _ => .ok

variable [CliCrates]

theorem loadSpec_failsAs (path : String) (file : ReportFile) :
    FailsAs inspectFailures (loadSpec path file) := by
  unfold loadSpec
  split
  · exact .new (by decide)
  · split_ifs
    · exact .new (by decide)
    · exact .new (by decide)
    · split
      · exact .new (by decide)
      · unfold readSpec
        split
        · exact .new (by decide)
        · split
          · exact .new (by decide)
          · exact .ok

theorem resolveSpec_failsAs (file : String → ReportFile) (target path : Option String) :
    FailsAs inspectFailures (resolveSpec file target path) := by
  unfold resolveSpec
  split
  · exact .new (by decide)
  · exact .new (by decide)
  · exact .ok
  · exact loadSpec_failsAs _ _

omit [Crates] in
theorem parseBudget_failsAs (budget : String) : FailsAs inspectFailures (parseBudget budget) := by
  unfold parseBudget
  split
  · exact .new (by decide)
  · split_ifs
    · exact .ok
    · exact .new (by decide)

omit [Crates] in
theorem applyOverrides_failsAs (options : InspectionOptions) (flags : Overrides) :
    FailsAs inspectFailures (applyOverrides options flags) := by
  have hbudget : FailsAs inspectFailures (overrideBudget options.budgetMs flags.budget) := by
    rcases flags.budget with _ | budget
    · exact .ok
    · exact parseBudget_failsAs budget
  unfold applyOverrides
  split
  · rename_i error herror
    intro e he
    cases he
    exact hbudget error herror
  · exact .ok

theorem requestedSpec_failsAs (host : Host) (target path : Option String) (flags : Overrides) :
    FailsAs inspectFailures (requestedSpec host target path flags) :=
  (resolveSpec_failsAs _ target path).bind fun spec =>
    (applyOverrides_failsAs spec.options flags).bind fun _ => .ok

omit [Crates] in
theorem schemaDocument_eq_ok (document : SchemaDocument) :
    ∃ value, schemaDocument document.asStr = .ok value := by
  cases document <;> exact ⟨_, rfl⟩

/-- What a command comes to: an output, which is raw for the completions only, or a listed
failure. -/
theorem run_triple (host : Host) (command : Commands) :
    Prog.Triple (fun _ => True) (run host command)
      (fun output _ => (∀ shell, command ≠ .completions shell) →
        ∃ value human, output = ⟨some value, human, none⟩)
      (fun error _ => Listed command.failures error) := by
  cases command with
  | inspect target spec dryRun flags =>
    apply Prog.Triple.bind (Q := fun _ _ => True)
    · exact Prog.Triple.ofExcept (fun _ _ _ _ => trivial)
        fun e he _ _ => requestedSpec_failsAs host target spec flags e he
    · intro specification
      split_ifs
      · apply Prog.Triple.bind (Q := fun _ _ => True)
        · exact Prog.Triple.ofExcept (fun _ _ _ _ => trivial)
            fun e he _ _ => plan_failsAs _ _ e he
        · intro result s _ _
          exact ⟨_, _, rfl⟩
      · apply Prog.Triple.bind (Q := fun _ _ => True)
        · intro s _
          rcases hrun : inspectWithBackend (liveBackend host.env) host.env.envVar
            host.env.wallClock specification s with ⟨error | report, t⟩
          · exact inspectWithBackend_listed _ hrun
          · trivial
        · intro result s _ _
          exact ⟨_, _, rfl⟩
  | compare left right =>
    apply Prog.Triple.bind (Q := fun _ _ => True)
    · exact Prog.Triple.ofExcept (fun _ _ _ _ => trivial)
        fun e he _ _ => loadReport_failsAs _ _ e he
    · intro leftReport
      apply Prog.Triple.bind (Q := fun _ _ => True)
      · exact Prog.Triple.ofExcept (fun _ _ _ _ => trivial)
          fun e he _ _ => loadReport_failsAs _ _ e he
      · intro rightReport
        apply Prog.Triple.bind (Q := fun _ _ => True)
        · exact Prog.Triple.ofExcept (fun _ _ _ _ => trivial)
            fun e he _ _ => compare_failsAs _ _ e he
        · intro result s _ _
          exact ⟨_, _, rfl⟩
  | replay path =>
    apply Prog.Triple.bind (Q := fun _ _ => True)
    · exact Prog.Triple.ofExcept (fun _ _ _ _ => trivial)
        fun e he _ _ => loadReport_failsAs _ _ e he
    · intro report
      apply Prog.Triple.bind (Q := fun _ _ => True)
      · exact Prog.Triple.ofExcept (fun _ _ _ _ => trivial)
          fun e he _ _ => replay_failsAs _ e he
      · intro result s _ _
        exact ⟨_, _, rfl⟩
  | capabilities =>
    intro s _ _
    exact ⟨_, _, rfl⟩
  | schema document =>
    intro s _
    obtain ⟨value, hvalue⟩ := schemaDocument_eq_ok document
    rw [run, hvalue]
    intro _
    exact ⟨_, _, rfl⟩
  | completions shell =>
    intro s _
    rw [run]
    rcases fromUtf8 (CliCrates.completions shell) with _ | raw
    · exact ⟨List.mem_cons_self, rfl⟩
    · intro hshell
      exact absurd rfl (hshell shell)

end

/-- The format that a process writes in. -/
def selectedFormat (arguments : List String) : Except ClapError Cli → OutputFormat
  | .error _ => requestedFormat arguments
  | .ok cli => cli.format

def failuresOf : Except ClapError Cli → List (String × ErrorClass)
  | .error _ => [("cli_usage", .usage)]
  | .ok cli => cli.command.failures

/-- The process has a result or an error to write: it is not asked for help or a version, which
the parser prints, nor for a script. -/
def ExpectsDocument : Except ClapError Cli → Prop
  | .error error => error.kind = .rejected
  | .ok cli => ∀ shell, cli.command ≠ .completions shell

section

variable [Crates]

/-- The octets are one document of a machine format, and one line in the line format. -/
def PrintsAs (format : OutputFormat) (value : Json) (octets : List UInt8) : Prop :=
  ∃ text, render value format = some text ∧ octets = Text.utf8 (text ++ "\n") ∧
    (format = .ndjson → '\n' ∉ text.toList)

/-- How a process ends in a machine format: with its result, with a listed error, or with a
consumer that stops taking the result, by hanging up or by an error. -/
inductive Ends (failures : List (String × ErrorClass)) (format : OutputFormat)
    (answer : ℕ → WriteAnswer) : Finished → Prop
  | answered {value : Json} {result : List UInt8} (prints : PrintsAs format value result) :
      Ends failures format answer ⟨result, [], 0⟩
  | refused {error : AppError} {envelope : List UInt8} (listed : Listed failures error)
      (prints : PrintsAs format (ErrorEnvelope.codec.write error.envelope) envelope) :
      Ends failures format answer ⟨[], envelope, exitByte error.cls⟩
  | hungUp {value : Json} {result part : List UInt8} {n taken : ℕ} {message : String}
      (prints : PrintsAs format value result) (part_of : part <+: result)
      (closed : answer n = .failed taken true message) : Ends failures format answer ⟨part, [], 0⟩
  | unwritten {value : Json} {result part envelope : List UInt8} {n taken : ℕ} {message : String}
      (prints : PrintsAs format value result) (part_of : part <+: result)
      (broken : answer n = .failed taken false message)
      (reports : PrintsAs format (ErrorEnvelope.codec.write (stdoutWriteFailed message).envelope)
        envelope) : Ends failures format answer ⟨part, envelope, 1⟩

omit [Crates] in
theorem utf8_append (a b : String) : Text.utf8 (a ++ b) = Text.utf8 a ++ Text.utf8 b := by
  simp [Text.utf8]

variable {format : OutputFormat} (hdouble : ∀ x, '\n' ∉ (Crates.doubleText x).toList)

include hdouble

/-- The text of a value in a machine format. -/
theorem exists_render (hformat : format ≠ .human) (value : Json) :
    ∃ text, render value format = some text ∧ text.toList.getLast? ≠ some '\n' ∧
      (format = .ndjson → '\n' ∉ text.toList) := by
  cases format with
  | human => exact absurd rfl hformat
  | json =>
    refine ⟨_, rfl, ?_, fun h => nomatch h⟩
    rw [Json.prettyText, String.toList_ofList]
    exact Json.getLast?_text_ne hdouble true value 0
  | ndjson =>
    refine ⟨_, rfl, ?_, fun _ => ?_⟩
    · rw [Json.compactText, String.toList_ofList]
      exact Json.getLast?_text_ne hdouble false value 0
    · rw [Json.compactText, String.toList_ofList]
      exact Json.not_mem_text_compact hdouble value 0

theorem printsAs_errorText (hformat : format ≠ .human) (error : AppError) :
    PrintsAs format (ErrorEnvelope.codec.write error.envelope)
      (Text.utf8 (errorText error format ++ "\n")) := by
  obtain ⟨text, htext, -, hline⟩ :=
    exists_render hdouble hformat (ErrorEnvelope.codec.write error.envelope)
  refine ⟨text, htext, ?_, hline⟩
  rw [errorText, htext]
  rfl

/-- Writing a result leaves it, or a part of it and the reason. -/
theorem finishOutput_ends (hformat : format ≠ .human) (failures : List (String × ErrorClass))
    (answer : ℕ → WriteAnswer) (value : Json) (human : String) :
    Ends failures format answer (finishOutput answer ⟨some value, human, none⟩ format) := by
  obtain ⟨text, htext, hlast, hline⟩ := exists_render hdouble hformat value
  have hrender : CommandOutput.render ⟨some value, human, none⟩ format = text := by
    simp [CommandOutput.render, htext]
  have hprints : PrintsAs format value (Text.utf8 (text ++ "\n")) := ⟨text, htext, rfl, hline⟩
  have hended : stdoutText text = text ++ "\n" := if_neg hlast
  -- A part that is short of the result is what a failed call has left.
  have hcut : ∀ {n taken : ℕ} {brokenPipe : Bool} {message : String} {part : List UInt8},
      answer n = .failed taken brokenPipe message → part <+: Text.utf8 (text ++ "\n") →
      Ends failures format answer
        (finishError (stdoutWriteError brokenPipe message) format part) := by
    intro n taken brokenPipe message part hanswer hpart
    cases brokenPipe with
    | true => exact .hungUp hprints hpart hanswer
    | false => exact .unwritten hprints hpart hanswer (printsAs_errorText hdouble hformat _)
  rw [finishOutput, hrender, writeStdout]
  rcases hfirst : answer 0 with _ | ⟨taken, brokenPipe, message⟩
  · dsimp only
    rw [if_neg hlast, hended]
    rcases hsecond : answer 1 with _ | ⟨taken, brokenPipe, message⟩
    · exact .answered hprints
    · exact hcut hsecond (List.take_prefix _ _)
  · refine hcut hfirst ((List.take_prefix _ _).trans ?_)
    rw [utf8_append]
    exact List.prefix_append _ _

variable [CliCrates]

theorem execute_ends (host : Host) (cli : Cli) (hformat : cli.format ≠ .human)
    (hcommand : ∀ shell, cli.command ≠ .completions shell) :
    Ends cli.command.failures cli.format host.stdout (execute host cli).1 := by
  have hrun := run_triple host cli.command (World.start host.env) trivial
  unfold execute
  rcases hresult : run host cli.command (World.start host.env) with ⟨error | output, w⟩ <;>
    rw [hresult] at hrun
  · obtain ⟨hmem, hfinal⟩ : Listed cli.command.failures error := hrun
    dsimp only
    rw [finishError, if_neg (Commands.failures_ne_brokenPipe _ _ hmem)]
    exact .refused ⟨hmem, hfinal⟩ (printsAs_errorText hdouble hformat error)
  · obtain ⟨value, human, rfl⟩ := hrun hcommand
    exact finishOutput_ends hdouble hformat _ _ value human

/-- In a machine format a process leaves one document on one stream: its result, or the error
that decides the exit code. -/
theorem main_ends (host : Host) (arguments : List String) (parsed : Except ClapError Cli)
    (hformat : selectedFormat arguments parsed ≠ .human) (hanswers : ExpectsDocument parsed) :
    Ends (failuresOf parsed) (selectedFormat arguments parsed) host.stdout
      (main host arguments parsed).1 := by
  rcases parsed with error | cli
  · have hkind : error.kind = .rejected := hanswers
    have hdisplay : ¬ (error.kind = .displayHelp ∨ error.kind = .displayVersion) := by
      rw [hkind]
      decide
    have hhuman : requestedFormat arguments ≠ .human := hformat
    change Ends _ _ _ (finishRejected arguments error)
    rw [finishRejected, rejectCommandLine, if_neg (not_or.mpr ⟨hdisplay, hhuman⟩), if_neg hdisplay]
    have hlisted : Listed (failuresOf (.error error)) (cliUsage error) := ⟨List.mem_cons_self, rfl⟩
    exact .refused hlisted (printsAs_errorText hdouble hhuman _)
  · exact execute_ends hdouble host cli hformat hanswers

end

/-- The inspection of the front page, as a line. -/
theorem frontPage_ends :
    letI := exampleRecordings.crates
    letI := exampleCliCrates
    Ends inspectFailures .ndjson (fun _ => .written)
      (main (.plain frontPage) []
        (.ok ⟨.ndjson, .inspect (some "http://example.com/") none false {}⟩)).1 := by
  let := exampleRecordings.crates
  let := exampleCliCrates
  have hdouble : ∀ x, '\n' ∉ (Crates.doubleText x).toList :=
    Recordings.doubleText_of (P := fun text => '\n' ∉ text.toList) (by decide) (by decide)
  exact main_ends hdouble (.plain frontPage) []
    (.ok ⟨.ndjson, .inspect (some "http://example.com/") none false {}⟩) (by decide)
    (by intro shell h; cases h)

end HopWhy
