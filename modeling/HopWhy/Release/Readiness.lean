import HopWhy.Release.Manifest

/-!
# Release readiness

The reasons against a release that an accepted manifest still gives. Each group
of checks has a list of failures of its own; the lists follow each other in the
order of the checks, and a release is ready when all of them are empty.
-/

namespace HopWhy.Release

open Python

structure Failure where
  code : String
  message : String
deriving DecidableEq, Repr

def failIf (bad : Prop) [Decidable bad] (code message : String) : List Failure :=
  if bad then [⟨code, message⟩] else []

theorem failIf_eq_nil {bad : Prop} [Decidable bad] {code message : String} :
    failIf bad code message = [] ↔ ¬ bad := by
  unfold failIf
  split_ifs with h
  · simp [h]
  · simp [h]

/-- `int` of digits, which takes no more than `sys.get_int_max_str_digits` of them. -/
def int (digits : List Char) : Checked ℕ :=
  if 4300 < digits.length then
    .error (.valueError ("Exceeds the limit (4300 digits) for integer string conversion: " ++
      "value has " ++ toString digits.length ++ " digits; use sys.set_int_max_str_digits() to " ++
      "increase the limit"))
  else .ok (Nat.ofDigitChars 10 digits 0)

/-- `start + timedelta(days=offset)`. -/
def plusDays (start : Date) (offset : ℕ) : Checked Date :=
  match start.addDays offset with
  | some day => .ok day
  | none => .error .overflowError

def targetVersionErrors (targetVersion : String) : Checked (List Failure) :=
  let failure : Failure := ⟨"target-version", "target_version must identify a v1+ release"⟩
  match semverMajor targetVersion with
  | none => .ok [failure]
  | some digits => do
    let major ← int digits
    return if major < 1 then [failure] else []

theorem targetVersionErrors_nil {targetVersion : String}
    (h : targetVersionErrors targetVersion = .ok []) :
    ∃ major ≥ 1, ∃ rest, targetVersion.toList = Nat.toDigits 10 major ++ '.' :: rest := by
  unfold targetVersionErrors at h
  dsimp only at h
  split at h
  next => cases h
  next digits hdigits =>
    obtain ⟨major, hint, h⟩ := Except.bind_eq_ok.mp h
    obtain ⟨hnumeric, rest, hsplit⟩ := semverMajor_eq_some hdigits
    unfold int at hint
    split_ifs at hint
    cases hint
    refine ⟨Nat.ofDigitChars 10 digits 0, ?_, rest, ?_⟩
    · by_contra hmajor
      rw [if_pos (by omega)] at h
      cases h
    · rw [hsplit, toDigits_of_isNumeric hnumeric]

def Manifest.statuses (manifest : Manifest) : List (String × Status) :=
  [("adoption", manifest.adoption.status),
    ("correctness_security", manifest.correctnessSecurity.status),
    ("delivery_maintenance", manifest.deliveryMaintenance.status),
    ("performance_bounds", manifest.performanceBounds.status),
    ("product_compatibility", manifest.productCompatibility.status)]

def gateStatusErrors (manifest : Manifest) : List Failure :=
  manifest.statuses.flatMap fun gate =>
    failIf (gate.2 ≠ .satisfied) "gate-status" (gate.1 ++ " is not satisfied")

def Manifest.evidence (manifest : Manifest) : CriteriaGate → List CriterionEvidence
  | .correctnessSecurity => manifest.correctnessSecurity.evidence.items
  | .deliveryMaintenance => manifest.deliveryMaintenance.evidence.items
  | .performanceBounds => manifest.performanceBounds.evidence.items
  | .productCompatibility => manifest.productCompatibility.evidence.items

def gateEvidenceErrors (manifest : Manifest) : List Failure :=
  CriteriaGate.all.flatMap fun gate =>
    let actual := (manifest.evidence gate).map (·.criterion)
    let missing := sortedSet (gate.criteria.filter (· ∉ actual))
    failIf (missing ≠ []) "gate-evidence"
      (gate.name ++ " is missing evidence for: " ++ ", ".intercalate missing)

theorem gateEvidenceErrors_nil {manifest : Manifest} (h : gateEvidenceErrors manifest = [])
    (gate : CriteriaGate) : gate.criteria ⊆ (manifest.evidence gate).map (·.criterion) := by
  have hgate := List.flatMap_eq_nil_iff.mp h gate (CriteriaGate.mem_all gate)
  exact subset_of_sortedSet (not_ne_iff.mp (failIf_eq_nil.mp hgate))

def securityErrors (correctness : CorrectnessGate) : List Failure :=
  let areas := correctness.reviewedAreas
  let missing := sortedSet (reviewAreas.filter (· ∉ areas))
  failIf (correctness.independentReview.isNone) "security-review"
      "independent security review evidence is missing" ++
    failIf (¬ (areas ⊆ reviewAreas ∧ reviewAreas ⊆ areas)) "security-scope"
      ("independent security review is missing areas: " ++ ", ".intercalate missing) ++
    failIf (correctness.openCritical ≠ 0 ∨ correctness.openHigh ≠ 0) "security-findings"
      "critical and high security findings must both be zero"

theorem securityErrors_nil {correctness : CorrectnessGate} (h : securityErrors correctness = []) :
    correctness.independentReview.isSome ∧ reviewAreas ⊆ correctness.reviewedAreas := by
  simp only [securityErrors, List.append_eq_nil_iff, failIf_eq_nil] at h
  obtain ⟨⟨hreview, hareas⟩, _⟩ := h
  constructor
  · exact Option.isSome_iff_ne_none.mpr (by simpa using hreview)
  · exact (not_not.mp hareas).2

def windowErrors (window : CiWindow) : List Failure :=
  match window.start, window.endDate with
  | some start, some endDate =>
    if endDate < start then [⟨"ci-window", "the CI window ends before it starts"⟩]
    else failIf (endDate.daysSince start + 1 < window.requiredDays) "ci-window"
      "the CI window covers fewer than 30 consecutive calendar days"
  | _, _ => [⟨"ci-window", "the 30-day CI window is incomplete"⟩]

def freshnessErrors (window : CiWindow) (asOf : Date) : List Failure :=
  failIf (∃ endDate ∈ window.endDate, endDate ≠ asOf) "ci-freshness"
    "the CI window must end on the manifest as_of date"

/-- A window without a failure ends on the date of the manifest and has room for thirty days. -/
theorem windowErrors_nil {window : CiWindow} {asOf : Date} (h : windowErrors window = [])
    (hfresh : freshnessErrors window asOf = []) :
    window.endDate = some asOf ∧ ∃ start, window.start = some start ∧ start ≤ asOf ∧
      29 ≤ asOf.daysSince start := by
  unfold windowErrors at h
  split at h
  next start endDate hstart hend =>
    have hlast : endDate = asOf := by
      have hsame := failIf_eq_nil.mp hfresh
      by_contra hne
      exact hsame ⟨endDate, hend, hne⟩
    subst hlast
    split_ifs at h with horder
    have hroom := failIf_eq_nil.mp h
    rw [window.required_days_eq] at hroom
    exact ⟨hend, start, hstart, not_lt.mp horder, by omega⟩
  next => cases h

def expectedDates (window : CiWindow) : Checked (List Date) :=
  match window.start, window.endDate with
  | some start, some endDate =>
    if start ≤ endDate then
      (List.range ((endDate.daysSince start).toNat + 1)).mapM fun offset => plusDays start offset
    else .ok []
  | _, _ => .ok []

/-- The expected dates are the days of the window. -/
theorem mem_expectedDates {window : CiWindow} {start endDate : Date} {dates : List Date}
    (hstart : window.start = some start) (hend : window.endDate = some endDate)
    (horder : start ≤ endDate) (hdates : expectedDates window = .ok dates) (day : Date) :
    day ∈ dates ↔ start ≤ day ∧ day ≤ endDate := by
  simp only [expectedDates, hstart, hend] at hdates
  rw [if_pos horder] at hdates
  rw [Except.mem_of_mapM hdates]
  rw [Date.le_iff] at horder
  constructor
  · rintro ⟨offset, hoffset, hday⟩
    unfold plusDays at hday
    split at hday
    next hadd =>
      cases hday
      have hnumber := Date.toOrdinal_addDays hadd
      rw [List.mem_range, Date.daysSince] at hoffset
      rw [Date.le_iff, Date.le_iff]
      omega
    next => cases hday
  · rintro ⟨hfirst, hlast⟩
    rw [Date.le_iff] at hfirst hlast
    refine ⟨day.toOrdinal - start.toOrdinal, ?_, ?_⟩
    · rw [List.mem_range, Date.daysSince]
      omega
    · rw [plusDays, Date.addDays_of_le hfirst]

def platformErrors (expected : List Date) (track : CiTrack) (runs : List CiRun) : List Failure :=
  let actual := runs.map (·.date)
  let missing := sortedSet (expected.filter (· ∉ actual))
  let extra := sortedSet (actual.filter (· ∉ expected))
  failIf (missing ≠ []) "ci-platform" (track.name ++ " continuous evidence is missing dates: " ++
      ", ".intercalate (missing.map Date.isoFormat)) ++
    failIf (extra ≠ []) "ci-platform" (track.name ++
      " continuous evidence falls outside the window: " ++
      ", ".intercalate (extra.map Date.isoFormat))

theorem platformErrors_nil {expected : List Date} {track : CiTrack} {runs : List CiRun}
    (h : platformErrors expected track runs = []) (day : Date) :
    day ∈ runs.map (·.date) ↔ day ∈ expected := by
  simp only [platformErrors, List.append_eq_nil_iff, failIf_eq_nil, not_ne_iff] at h
  exact ⟨fun hday => subset_of_sortedSet h.2 hday, fun hday => subset_of_sortedSet h.1 hday⟩

def continuityErrors (continuity : Continuity) : List Failure :=
  failIf (continuity.status ≠ .satisfied) "continuity-status"
      "maintainer continuity is not satisfied" ++
    failIf (continuity.mode = none) "continuity-mode" "maintainer continuity mode is missing" ++
    failIf (continuity.evidence.isEmpty) "continuity-evidence"
      "maintainer continuity evidence is missing"

section

variable [Stdlib]

def releaseVersionErrors (targetVersion : String) : Option String → List Failure
  | none => []
  | some releaseVersion =>
    if (semverMajor releaseVersion).isNone then
      [⟨"release-version-format", "release version is not valid SemVer"⟩]
    else failIf (targetVersion ≠ releaseVersion) "release-version"
      ("target_version " ++ Stdlib.repr targetVersion ++ " does not match release " ++
        Stdlib.repr releaseVersion)

theorem releaseVersionErrors_nil {targetVersion version : String}
    (h : releaseVersionErrors targetVersion (some version) = []) : targetVersion = version := by
  dsimp only [releaseVersionErrors] at h
  split_ifs at h
  exact not_ne_iff.mp (failIf_eq_nil.mp h)

/-- The name by which adopters are told apart. -/
def nameKey (name : String) : String := Stdlib.casefold (strip name)

def adopterErrors (adopters : List Adopter) : List Failure :=
  let names := adopters.map fun adopter => nameKey adopter.name
  let unique := names.dedup
  failIf (adopters.length < 3 ∨ unique.length < 3) "adopters"
      "at least three distinct independent adopters are required" ++
    failIf (unique.length ≠ names.length) "adopter-duplicates" "adopter names must be unique"

theorem adopterErrors_nil {adopters : List Adopter} (h : adopterErrors adopters = []) :
    3 ≤ adopters.length ∧ (adopters.map fun adopter => nameKey adopter.name).Nodup := by
  simp only [adopterErrors, List.append_eq_nil_iff, failIf_eq_nil, not_or, not_lt] at h
  obtain ⟨⟨hthree, _⟩, hunique⟩ := h
  refine ⟨hthree, ?_⟩
  have hself := (List.dedup_sublist _).eq_of_length (not_ne_iff.mp hunique)
  exact List.dedup_eq_self.mp hself

def firstUseByName (adopters : List Adopter) : List (String × Date) :=
  dictOf (adopters.map fun adopter => (nameKey adopter.name, adopter.firstUse))

def repeatWindowErrors (firstUse : Option Date) (again : RepeatAdopter) : List Failure :=
  match firstUse with
  | none => [⟨"repeat-adopter", "repeat adopter " ++ Stdlib.repr again.adopter ++
      " is not an adopter"⟩]
  | some day => failIf (again.repeatUse.daysSince day < 30) "repeat-window"
      ("repeat use for " ++ Stdlib.repr again.adopter ++ " is separated by fewer than 30 days")

/-- The loop over the repeat adopters, with the names that are repeated so far. -/
def repeatLoop (firstUse : List (String × Date)) :
    List String → List RepeatAdopter → List Failure × List String
  | repeated, [] => ([], repeated)
  | repeated, again :: rest =>
    let name := nameKey again.adopter
    let later := repeatLoop firstUse (repeated.insert name) rest
    (failIf (name ∈ repeated) "repeat-duplicates"
        ("repeat evidence for " ++ Stdlib.repr again.adopter ++ " is duplicated") ++
      repeatWindowErrors (firstUse.lookup name) again ++ later.1, later.2)

/-- The loop has no failure only when every repeat adopter is an adopter and comes back late
enough. -/
theorem repeatLoop_nil {firstUse : List (String × Date)} {repeated : List String}
    {repeats : List RepeatAdopter} (h : (repeatLoop firstUse repeated repeats).1 = []) :
    ∀ again ∈ repeats, ∃ day, firstUse.lookup (nameKey again.adopter) = some day ∧
      30 ≤ again.repeatUse.daysSince day := by
  induction repeats generalizing repeated with
  | nil => simp
  | cons again rest ih =>
    simp only [repeatLoop, List.append_eq_nil_iff] at h
    obtain ⟨⟨_, hwindow⟩, hlater⟩ := h
    rw [List.forall_mem_cons]
    refine ⟨?_, ih hlater⟩
    unfold repeatWindowErrors at hwindow
    split at hwindow
    next => cases hwindow
    next day hday => exact ⟨day, hday, not_lt.mp (failIf_eq_nil.mp hwindow)⟩

/-- The repeated names are different ones, each of them from a repeat adopter. -/
theorem repeatLoop_names (firstUse : List (String × Date)) {repeated : List String}
    (hnodup : repeated.Nodup) (repeats : List RepeatAdopter) :
    (repeatLoop firstUse repeated repeats).2.Nodup ∧
      ∀ name ∈ (repeatLoop firstUse repeated repeats).2,
        name ∈ repeated ∨ ∃ again ∈ repeats, nameKey again.adopter = name := by
  induction repeats generalizing repeated with
  | nil => exact ⟨hnodup, fun name hname => Or.inl hname⟩
  | cons again rest ih =>
    obtain ⟨hlater, hnames⟩ := ih (hnodup.insert (a := nameKey again.adopter))
    refine ⟨hlater, ?_⟩
    intro name hname
    rcases hnames name hname with hname | ⟨other, hother, hkey⟩
    · rcases List.mem_insert_iff.mp hname with rfl | hname
      · exact Or.inr ⟨again, List.mem_cons_self, rfl⟩
      · exact Or.inl hname
    · exact Or.inr ⟨other, List.mem_cons_of_mem _ hother, hkey⟩

def repeatErrors (adoption : AdoptionGate) : List Failure :=
  let unique := (adoption.adopters.map fun adopter => nameKey adopter.name).dedup
  let loop := repeatLoop (firstUseByName adoption.adopters) [] adoption.repeatAdopters
  loop.1 ++ failIf ((loop.2.filter (· ∈ unique)).length < 2) "repeat-adopters"
    "at least two distinct adopters need 30-day repeat use"

theorem repeatErrors_nil {adoption : AdoptionGate} (h : repeatErrors adoption = []) :
    ∃ names : List String, names.Nodup ∧ 2 ≤ names.length ∧ ∀ name ∈ names,
      ∃ again ∈ adoption.repeatAdopters, nameKey again.adopter = name ∧
        ∃ day, (firstUseByName adoption.adopters).lookup name = some day ∧
          30 ≤ again.repeatUse.daysSince day := by
  simp only [repeatErrors, List.append_eq_nil_iff, failIf_eq_nil, not_lt] at h
  obtain ⟨hloop, htwo⟩ := h
  have hnames := repeatLoop_names (firstUseByName adoption.adopters) List.nodup_nil
    adoption.repeatAdopters
  refine ⟨_, hnames.1.filter _, htwo, ?_⟩
  intro name hname
  rcases hnames.2 name (List.mem_filter.mp hname).1 with hname | ⟨again, hagain, rfl⟩
  · cases hname
  · exact ⟨again, hagain, rfl, repeatLoop_nil hloop again hagain⟩

def publicErrors (adoption : AdoptionGate) : List Failure :=
  failIf (adoption.publicIntegration.isNone) "public-integration"
      "required public integration evidence is missing" ++
    failIf (adoption.nonMaintainerContribution.isNone) "external-contribution"
      "resolved non-maintainer contribution is missing"

def Manifest.datedEvidence (manifest : Manifest) : List Date :=
  manifest.deliveryMaintenance.ciWindow.endDate.toList ++
    (manifest.correctnessSecurity.independentReview.map (·.completedOn)).toList ++
    (firstUseByName manifest.adoption.adopters).map Prod.snd ++
    manifest.adoption.repeatAdopters.map (·.repeatUse)

def readinessErrors (manifest : Manifest) (releaseVersion : Option String) :
    Checked (List Failure) := do
  let target ← targetVersionErrors manifest.targetVersion
  let window := manifest.deliveryMaintenance.ciWindow
  let expected ← expectedDates window
  return target ++
    releaseVersionErrors manifest.targetVersion releaseVersion ++
    gateStatusErrors manifest ++
    gateEvidenceErrors manifest ++
    securityErrors manifest.correctnessSecurity ++
    windowErrors window ++
    freshnessErrors window manifest.asOf ++
    (CiTrack.all.flatMap fun track => platformErrors expected track (window.tracks track).runs) ++
    continuityErrors manifest.deliveryMaintenance.continuity ++
    adopterErrors manifest.adoption.adopters ++
    repeatErrors manifest.adoption ++
    publicErrors manifest.adoption ++
    failIf (∃ day ∈ manifest.datedEvidence, manifest.asOf < day) "as-of"
      "as_of predates one or more evidence dates"

/-- The way to a release: the manifest is checked and then asked for its readiness. -/
def requireReady (manifest : PyValue) (releaseVersion : String) : Checked (List Failure) := do
  readinessErrors (← validateStructure manifest) (some releaseVersion)

end

end HopWhy.Release
