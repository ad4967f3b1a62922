import HopWhy.Guarantees.Streams

/-!
# Spec documents and flags

Flags act on options: a list of flags over another does what the two do in turn. So
a spec document and the flags that spell its options out ask for the same inspection,
whatever further flags stand on the command line.
-/

namespace HopWhy

/-- The flags of both lists, where `flags` decides if both give a value. -/
def Overrides.over (flags base : Overrides) : Overrides where
  budget := flags.budget.or base.budget
  maxProbes := flags.maxProbes.or base.maxProbes
  maxAddresses := flags.maxAddresses.or base.maxAddresses
  maxRedirects := flags.maxRedirects.or base.maxRedirects
  maxBodyBytes := flags.maxBodyBytes.or base.maxBodyBytes
  includeBodySample := base.includeBodySample || flags.includeBodySample
  allowPrivate := base.allowPrivate || flags.allowPrivate
  showAddresses := base.showAddresses || flags.showAddresses
  showQueryValues := base.showQueryValues || flags.showQueryValues
  disableProxy := base.disableProxy || flags.disableProxy
  method := flags.method.or base.method

theorem getD_or {α : Type} (a b : Option α) (c : α) : (a.or b).getD c = a.getD (b.getD c) := by
  cases a <;> rfl

theorem override_over (flags base : Overrides) (options : InspectionOptions) :
    (flags.over base).override options = flags.override (base.override options) := by
  simp only [Overrides.override, Overrides.over, getD_or, Option.map_or, Bool.or_assoc]

section

variable [CliCrates]

theorem overrideBudget_over (flags base : Overrides) (budgetMs : UInt64) {between : UInt64}
    (h : overrideBudget budgetMs base.budget = .ok between) :
    overrideBudget budgetMs (flags.over base).budget = overrideBudget between flags.budget := by
  rcases hflags : flags.budget with _ | budget
  · simp only [Overrides.over, hflags, Option.none_or]
    exact h
  · simp only [Overrides.over, hflags, Option.some_or]
    rfl

/-- Flags over flags do what the two do in turn. -/
theorem applyOverrides_over {options between : InspectionOptions} (flags : Overrides)
    {base : Overrides} (h : applyOverrides options base = .ok between) :
    applyOverrides options (flags.over base) = applyOverrides between flags := by
  obtain ⟨budgetMs, hbudget, rfl⟩ := applyOverrides_eq_ok.mp h
  unfold applyOverrides
  rw [overrideBudget_over flags base options.budgetMs hbudget, override_over]
  rfl

def RequestMethod.toMethodArg : RequestMethod → MethodArg
  | .get => .get
  | .head => .head

/-- Every option as a flag, with `budget` as the text of its duration. -/
def InspectionOptions.spelledOut (options : InspectionOptions) (budget : String) : Overrides where
  budget := some budget
  maxProbes := some options.maxProbes
  maxAddresses := some options.maxAddresses
  maxRedirects := some options.maxRedirects
  maxBodyBytes := some options.maxBodyBytes
  includeBodySample := options.includeBodySample
  allowPrivate := options.allowPrivate
  showAddresses := options.showAddresses
  showQueryValues := options.showQueryValues
  disableProxy := options.disableProxy
  method := some options.method.toMethodArg

/-- The flags of some options make them from the defaults: no switch is on by default. -/
theorem applyOverrides_spelledOut {options : InspectionOptions} {budget : String}
    (h : parseBudget budget = .ok options.budgetMs) :
    applyOverrides {} (options.spelledOut budget) = .ok options := by
  refine applyOverrides_eq_ok.mpr ⟨options.budgetMs, h, ?_⟩
  obtain ⟨budgetMs, maxProbes, maxAddresses, maxRedirects, maxBodyBytes, includeBodySample,
    allowPrivate, showAddresses, showQueryValues, disableProxy, method⟩ := options
  cases method
  · rfl
  · rfl

variable [Crates]

/-- The file is a regular one within the limit, with these contents. -/
structure Holds (file : ReportFile) (limit : ℕ) (bytes : List UInt8) : Prop where
  regular : ∃ len, file.metadata = .ok (true, len) ∧ len.toNat ≤ limit
  contents : file.contents = .ok bytes

theorem loadSpec_of_holds {path : String} {file : ReportFile} {bytes : List UInt8}
    (h : Holds file maxSpecBytes bytes) : loadSpec path file = readSpec path bytes := by
  obtain ⟨len, hmetadata, hlen⟩ := h.regular
  unfold loadSpec
  simp [hmetadata, h.contents, Nat.not_lt.mpr hlen]

theorem execute_congr_spec {host : Host} {target path target' path' : Option String}
    {flags flags' : Overrides}
    (h : requestedSpec host target path flags = requestedSpec host target' path' flags')
    (format : OutputFormat) (dryRun : Bool) :
    execute host ⟨format, .inspect target path dryRun flags⟩ =
      execute host ⟨format, .inspect target' path' dryRun flags'⟩ := by
  unfold execute run
  dsimp only
  rw [h]

/-- A spec document and its options spelled out as flags are the same inspection, under any
further flags and in any format: same streams, same exit code, same network. -/
theorem execute_document {host : Host} {path : String} {bytes : List UInt8} {tree : Json}
    {document : InspectSpec} (hfile : Holds (host.file 0 path) maxSpecBytes bytes)
    (htree : Crates.jsonTree bytes = .ok tree) (hread : InspectSpec.codec.read tree = some document)
    {budget : String} (hbudget : parseBudget budget = .ok document.options.budgetMs)
    (format : OutputFormat) (dryRun : Bool) (flags : Overrides) :
    execute host ⟨format, .inspect none (some path) dryRun flags⟩ =
      execute host ⟨format, .inspect (some document.target) none dryRun
        (flags.over (document.options.spelledOut budget))⟩ := by
  apply execute_congr_spec
  have hload : loadSpec path (host.file 0 path) = .ok document := by
    rw [loadSpec_of_holds hfile, readSpec, htree]
    simp [hread]
  have hspelled := applyOverrides_over flags (applyOverrides_spelledOut hbudget)
  unfold requestedSpec resolveSpec
  dsimp only
  rw [hload]
  simp only [bind, Except.bind, hspelled]

end

/-- A spec that sets the budget and leaves the rest to the defaults. -/
def exampleSpecTree : Json :=
  .obj [("options", .obj [("budget_ms", .num (.posInt 5000))]),
    ("target", .str "http://example.com/")]

def exampleSpecBytes : List UInt8 := Text.utf8 (exampleSpecTree.compactText fun _ => "0.0")

/-- The recordings that also read the example spec. -/
def specRecordings : Recordings :=
  { exampleRecordings with documents := [(exampleSpecBytes, exampleSpecTree)] }

/-- A host with the example spec under every path. -/
def specHost (env : Environment) : Host :=
  { Host.plain env with file := fun _ _ => ⟨.ok (true, 100), .ok exampleSpecBytes⟩ }

theorem exampleSpec_document :
    letI := specRecordings.crates
    letI := exampleCliCrates
    ∃ document budget,
      execute (specHost frontPage) ⟨.ndjson, .inspect none (some "spec.json") false
        { maxProbes := some 3 }⟩ =
      execute (specHost frontPage) ⟨.ndjson, .inspect (some "http://example.com/") none false
        (Overrides.over { maxProbes := some 3 }
          (InspectionOptions.spelledOut document budget))⟩ := by
  let := specRecordings.crates
  let := exampleCliCrates
  have hfile : Holds ((specHost frontPage).file 0 "spec.json") maxSpecBytes exampleSpecBytes :=
    ⟨⟨100, rfl, by decide⟩, rfl⟩
  have htree : Crates.jsonTree exampleSpecBytes = .ok exampleSpecTree := by
    change (List.lookup exampleSpecBytes [(exampleSpecBytes, exampleSpecTree)]).elim _ _ = _
    simp
  have hread : InspectSpec.codec.read exampleSpecTree =
      some ⟨"http://example.com/", { budgetMs := 5000 }⟩ := by
    decide +kernel
  exact ⟨_, "5s", execute_document hfile htree hread (by decide +kernel) .ndjson false
    { maxProbes := some 3 }⟩

end HopWhy
