import HopWhy.Offline.Documents

/-!
# Inspection specs

Where the target and the options of an inspection come from: a target on the
command line with the default options, or a spec document, and then the flags.
A flag without a value can only switch its option on.
-/

namespace HopWhy

open Codec

def maxSpecBytes : ℕ := 1024 * 1024

inductive SchemaDocument where
  | brief
  | spec
  | report
  | plan
  | compare
  | replay
  | capabilities
  | error
deriving DecidableEq, Repr

inductive CompletionShell where
  | bash
  | elvish
  | fish
  | powerShell
  | zsh
deriving DecidableEq, Repr

/-- What the command line takes from its dependencies. -/
class CliCrates where
  /-- `humantime::parse_duration`, in nanoseconds; the error is its display text. -/
  parseDuration : String → Except String ℕ
  /-- What the derived reader says about a tree that is no spec. -/
  specMismatch : Json → String
  /-- The schema that `schemars` derives for a document other than the brief one. -/
  schemaFor : SchemaDocument → Json
  /-- What `clap_complete` generates. -/
  completions : CompletionShell → List UInt8
  /-- `{:.2}`. -/
  twoDecimals : F64 → String

/-- Command-line crates that know the budget `5s`. -/
@[reducible] def exampleCliCrates : CliCrates where
  parseDuration text := if text = "5s" then .ok 5000000000 else .error "expected number at 0"
  specMismatch _ := "invalid type: expected struct InspectSpec"
  schemaFor _ := .obj []
  completions _ := []
  twoDecimals _ := "1.00"

def InspectSpec.fields :=
  Fields.cons "target" string <| .cons "options" (InspectionOptions.codec.withDefault {}) .nil

def InspectSpec.codec : Codec InspectSpec :=
  record { closed := true, defaults := true } fields
    (fun s => (s.target, s.options, ()))
    (fun (a, b, ()) => ⟨a, b⟩) (fun _ => rfl) (by decide)

def specMetadataFailed (path error : String) : AppError :=
  .new .io "spec_metadata_failed" ("could not inspect spec " ++ path ++ ": " ++ error)

def specNotRegularFile (path : String) : AppError :=
  .new .io "spec_not_regular_file" ("spec " ++ path ++ " is not a regular file")

def specTooLarge (path : String) : AppError :=
  .new .budget "spec_too_large"
    ("spec " ++ path ++ " exceeds " ++ toString maxSpecBytes ++ " bytes")

def specReadFailed (path error : String) : AppError :=
  .new .io "spec_read_failed" ("could not read spec " ++ path ++ ": " ++ error)

def invalidSpec (path error : String) : AppError :=
  .new .usage "invalid_spec" (path ++ " is not a valid HopWhy spec: " ++ error)

section

variable [Crates] [CliCrates]

/-- The reader of the derived format: the tree of the text, then the spec. -/
def readSpec (path : String) (bytes : List UInt8) : AppResult InspectSpec :=
  match Crates.jsonTree bytes with
  | .error error => .error (invalidSpec path error)
  | .ok tree =>
    match InspectSpec.codec.read tree with
    | none => .error (invalidSpec path (CliCrates.specMismatch tree))
    | some spec => .ok spec

/-- The size is checked on the metadata only. -/
def loadSpec (path : String) (file : ReportFile) : AppResult InspectSpec :=
  match file.metadata with
  | .error error => .error (specMetadataFailed path error)
  | .ok (isFile, len) =>
    if !isFile then .error (specNotRegularFile path)
    else if maxSpecBytes < len.toNat then .error (specTooLarge path)
    else
      match file.contents with
      | .error error => .error (specReadFailed path error)
      | .ok bytes => readSpec path bytes

def ambiguousInspectInput : AppError :=
  .new .usage "ambiguous_inspect_input" "provide either a target URL or --spec, not both"

def missingInspectInput : AppError :=
  .new .usage "missing_inspect_input" "provide a target URL or --spec"

def resolveSpec (file : String → ReportFile) :
    Option String → Option String → AppResult InspectSpec
  | some _, some _ => .error ambiguousInspectInput
  | none, none => .error missingInspectInput
  | some target, none => .ok { target, options := {} }
  | none, some path => loadSpec path (file path)

end

inductive MethodArg where
  | get
  | head
deriving DecidableEq, Repr

def MethodArg.toRequestMethod : MethodArg → RequestMethod
  | .get => .get
  | .head => .head

/-- The flags of `inspect` that change an option. -/
structure Overrides where
  budget : Option String := none
  maxProbes : Option UInt32 := none
  maxAddresses : Option UInt64 := none
  maxRedirects : Option UInt64 := none
  maxBodyBytes : Option UInt64 := none
  includeBodySample : Bool := false
  allowPrivate : Bool := false
  showAddresses : Bool := false
  showQueryValues : Bool := false
  disableProxy : Bool := false
  method : Option MethodArg := none
deriving DecidableEq, Repr

def budgetUnreadable (error : String) : AppError :=
  .new .usage "invalid_budget" ("could not parse --budget: " ++ error)

def budgetTooLarge : AppError := .new .usage "invalid_budget" "--budget is too large"

section

variable [CliCrates]

/-- The duration of a budget flag in whole milliseconds. -/
def parseBudget (budget : String) : AppResult UInt64 :=
  match CliCrates.parseDuration budget with
  | .error error => .error (budgetUnreadable error)
  | .ok duration =>
    if duration / 1000000 < 2 ^ 64 then .ok (UInt64.ofNat (duration / 1000000))
    else .error budgetTooLarge

def overrideBudget (budgetMs : UInt64) : Option String → AppResult UInt64
  | none => .ok budgetMs
  | some budget => parseBudget budget

/-- The options after every flag but the budget's. -/
def Overrides.override (flags : Overrides) (options : InspectionOptions) : InspectionOptions where
  budgetMs := options.budgetMs
  maxProbes := flags.maxProbes.getD options.maxProbes
  maxAddresses := flags.maxAddresses.getD options.maxAddresses
  maxRedirects := flags.maxRedirects.getD options.maxRedirects
  maxBodyBytes := flags.maxBodyBytes.getD options.maxBodyBytes
  includeBodySample := options.includeBodySample || flags.includeBodySample
  allowPrivate := options.allowPrivate || flags.allowPrivate
  showAddresses := options.showAddresses || flags.showAddresses
  showQueryValues := options.showQueryValues || flags.showQueryValues
  disableProxy := options.disableProxy || flags.disableProxy
  method := (flags.method.map MethodArg.toRequestMethod).getD options.method

def applyOverrides (options : InspectionOptions) (flags : Overrides) :
    AppResult InspectionOptions :=
  match overrideBudget options.budgetMs flags.budget with
  | .error error => .error error
  | .ok budgetMs => .ok { flags.override options with budgetMs }

theorem applyOverrides_eq_ok {options options' : InspectionOptions} {flags : Overrides} :
    applyOverrides options flags = .ok options' ↔
      ∃ budgetMs, overrideBudget options.budgetMs flags.budget = .ok budgetMs ∧
        options' = { flags.override options with budgetMs } := by
  unfold applyOverrides
  rcases overrideBudget options.budgetMs flags.budget with error | budgetMs
  · simp
  · simp [eq_comm]

end

end HopWhy
