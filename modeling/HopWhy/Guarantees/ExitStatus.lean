import HopWhy.Guarantees.PlanAgreement
import HopWhy.Guarantees.Streams

/-!
# Exit status

Whether an inspection process fails is decided by its inputs: command line, spec
document and proxy variables. Neither the network nor the clock has a part in it, and a dry
run decides it as the run does.
-/

namespace HopWhy

section

variable [Crates] [CliCrates]

/-- The checks of an inspection process, without any of its effects. -/
def decision (host : Host) (target path : Option String) (flags : Overrides) :
    AppResult InspectionPlan := do
  let specification ← requestedSpec host target path flags
  plan host.env.envVar specification

theorem decision_failsAs (host : Host) (target path : Option String) (flags : Overrides) :
    FailsAs inspectFailures (decision host target path flags) :=
  (requestedSpec_failsAs host target path flags).bind fun _ => plan_failsAs _ _

theorem decision_congr {host host' : Host} (henv : host'.env.envVar = host.env.envVar)
    (hfile : host'.file = host.file) (target path : Option String) (flags : Overrides) :
    decision host' target path flags = decision host target path flags := by
  unfold decision requestedSpec
  rw [henv, hfile]

/-- A process fails as its decision does, in a dry run as in a run. -/
theorem run_inspect_iff (host : Host) (target path : Option String) (dryRun : Bool)
    (flags : Overrides) (w : World host.env) :
    match decision host target path flags with
    | .error error => (run host (.inspect target path dryRun flags) w).1 = .error error
    | .ok _ => ∃ output, (run host (.inspect target path dryRun flags) w).1 = .ok output := by
  rw [decision, run]
  rcases hspec : requestedSpec host target path flags with error | specification
  · rfl
  · change match plan host.env.envVar specification with | .error _ => _ | .ok _ => _
    rw [Prog.bind_ok (Prog.ofExcept_apply _ _)]
    rcases opening_or_error host.env.envVar specification with ⟨⟨o⟩⟩ | ⟨error, hplan, hrun⟩
    · rw [plan_opening o]
      dsimp only
      split_ifs
      · exact ⟨_, rfl⟩
      · rw [Prog.bind_ok (inspectWithBackend_opening (liveBackend host.env) o _ w)]
        exact ⟨_, rfl⟩
    · rw [hplan]
      dsimp only
      split_ifs
      · rfl
      · rw [Prog.bind_error (Prod.ext (hrun (liveBackend host.env) _ w) rfl)]

/-- No write to standard output fails, unless its consumer has gone away. -/
def Host.Delivers (host : Host) : Prop :=
  ∀ n taken error, host.stdout n ≠ .failed taken false error

omit [Crates] [CliCrates] in
theorem Host.delivers_of_written {host : Host} (h : ∀ n, host.stdout n = .written) :
    host.Delivers := by
  intro n taken error
  rw [h n]
  exact nofun

omit [CliCrates] in
theorem finishOutput_delivered {host : Host} (h : host.Delivers) (output : CommandOutput)
    (format : OutputFormat) :
    (finishOutput host.stdout output format).stderr = [] ∧
      (finishOutput host.stdout output format).exitCode = 0 := by
  have hanswer : ∀ n, host.stdout n = .written ∨
      ∃ taken error, host.stdout n = .failed taken true error := by
    intro n
    rcases hn : host.stdout n with _ | ⟨taken, brokenPipe, error⟩
    · exact Or.inl rfl
    · cases brokenPipe with
      | false => exact absurd hn (h n taken error)
      | true => exact Or.inr ⟨taken, error, rfl⟩
  unfold finishOutput writeStdout
  -- A consumer that has gone away ends the process like one that takes everything.
  rcases hanswer 0 with hfirst | ⟨taken, error, hfirst⟩ <;> rw [hfirst]
  · dsimp only
    split_ifs
    · exact ⟨rfl, rfl⟩
    · rcases hanswer 1 with hsecond | ⟨taken, error, hsecond⟩ <;> rw [hsecond]
      · exact ⟨rfl, rfl⟩
      · exact ⟨rfl, rfl⟩
  · exact ⟨rfl, rfl⟩

def statusOf {α : Type} (format : OutputFormat) : AppResult α → List UInt8 × UInt8
  | .error error => (Text.utf8 (errorText error format ++ "\n"), exitByte error.cls)
  | .ok _ => ([], 0)

theorem execute_inspect_status {host : Host} (hdelivers : host.Delivers)
    (format : OutputFormat) (target path : Option String) (dryRun : Bool) (flags : Overrides) :
    (execute host ⟨format, .inspect target path dryRun flags⟩).1.stderr =
        (statusOf format (decision host target path flags)).1 ∧
      (execute host ⟨format, .inspect target path dryRun flags⟩).1.exitCode =
        (statusOf format (decision host target path flags)).2 := by
  have hrun := run_inspect_iff host target path dryRun flags (World.start host.env)
  have hlisted := decision_failsAs host target path flags
  unfold execute
  rcases hresult : run host (.inspect target path dryRun flags) (World.start host.env) with
    ⟨result, w⟩
  rw [hresult] at hrun
  rcases hdecision : decision host target path flags with error | p
  · rw [hdecision] at hrun hlisted
    obtain rfl : result = .error error := hrun
    have hpipe := Commands.failures_ne_brokenPipe (.inspect target path dryRun flags) _
      (hlisted error rfl).mem
    dsimp only
    rw [finishError, if_neg hpipe]
    exact ⟨rfl, rfl⟩
  · rw [hdecision] at hrun
    obtain ⟨output, rfl⟩ : ∃ output, result = .ok output := hrun
    exact finishOutput_delivered hdelivers output format

omit [Crates] [CliCrates] in
theorem exitByte_of_listed {error : AppError} (h : Listed inspectFailures error) :
    exitByte error.cls ≠ 0 ∧ (exitByte error.cls).toNat ≤ 4 := by
  have hclasses : ∀ failure ∈ inspectFailures,
      exitByte failure.2 ≠ 0 ∧ (exitByte failure.2).toNat ≤ 4 := by
    decide
  exact hclasses _ h.mem

theorem execute_inspect_success {host : Host} (hdelivers : host.Delivers)
    (format : OutputFormat) (target path : Option String) (dryRun : Bool) (flags : Overrides) :
    (execute host ⟨format, .inspect target path dryRun flags⟩).1.exitCode = 0 ↔
      ∃ p, decision host target path flags = .ok p := by
  obtain ⟨-, hcode⟩ := execute_inspect_status hdelivers format target path dryRun flags
  rw [hcode]
  rcases hdecision : decision host target path flags with error | p
  · have hlisted := decision_failsAs host target path flags error hdecision
    constructor
    · intro hzero
      exact absurd hzero (exitByte_of_listed hlisted).1
    · rintro ⟨p, hp⟩
      cases hp
  · exact ⟨fun _ => ⟨p, rfl⟩, fun _ => rfl⟩

/-- Two inspection processes with the same inputs end with the same exit code and the same
error, whatever network, clock and dry-run flag are; the code is 0 if the plan succeeds, and
never the one of a contract failure. -/
structure SameStatus (plan : AppResult InspectionPlan) (a b : Finished) : Prop where
  exitCode : a.exitCode = b.exitCode
  stderr : a.stderr = b.stderr
  success : a.exitCode = 0 ↔ ∃ p, plan = .ok p
  bounded : a.exitCode.toNat ≤ 4

theorem execute_inspect_sameStatus {host host' : Host}
    (henv : host'.env.envVar = host.env.envVar) (hfile : host'.file = host.file)
    (hdelivers : host.Delivers) (hdelivers' : host'.Delivers)
    (format : OutputFormat) (target path : Option String) (dryRun dryRun' : Bool)
    (flags : Overrides) :
    SameStatus (decision host target path flags)
      (execute host ⟨format, .inspect target path dryRun flags⟩).1
      (execute host' ⟨format, .inspect target path dryRun' flags⟩).1 := by
  obtain ⟨hstderr, hcode⟩ := execute_inspect_status hdelivers format target path dryRun flags
  obtain ⟨hstderr', hcode'⟩ := execute_inspect_status hdelivers' format target path dryRun' flags
  rw [decision_congr henv hfile, ← hstderr] at hstderr'
  rw [decision_congr henv hfile, ← hcode] at hcode'
  refine ⟨hcode'.symm, hstderr'.symm,
    execute_inspect_success hdelivers format target path dryRun flags, ?_⟩
  rw [hcode]
  rcases hdecision : decision host target path flags with error | p
  · exact (exitByte_of_listed (decision_failsAs host target path flags error hdecision)).2
  · exact Nat.zero_le 4

end

def Host.closed (env : Environment) : Host :=
  { Host.plain env with stdout := fun _ => .failed 0 true "Broken pipe (os error 32)" }

theorem delivers_closed (env : Environment) : (Host.closed env).Delivers := nofun

/-- The inspection of the front page, where it answers and where the clock stalls and
nobody reads the report. -/
theorem frontPage_sameStatus :
    letI := exampleRecordings.crates
    letI := exampleCliCrates
    SameStatus (decision (.plain frontPage) (some "http://example.com/") none {})
      (execute (.plain frontPage)
        ⟨.json, .inspect (some "http://example.com/") none true {}⟩).1
      (execute (.closed (frontPage.stalling 4))
        ⟨.json, .inspect (some "http://example.com/") none false {}⟩).1 := by
  let := exampleRecordings.crates
  let := exampleCliCrates
  have h := @execute_inspect_sameStatus _ _ (.plain frontPage) (.closed (frontPage.stalling 4))
    rfl rfl (Host.delivers_of_written fun _ => rfl) (delivers_closed _) .json
    (some "http://example.com/") none true false {}
  exact h

end HopWhy
