import HopWhy.Guarantees.ReleaseGate
import HopWhy.Library.Codec

/-!
# What a release needs

All requirements of a release in one place. A manifest has no failure for a version exactly
when it meets them, and the checks come to an end unless a major number is too long for the
integer reader.
-/

namespace HopWhy.Release

open Python

theorem sortedSet_filter_eq_nil {α : Type} [LinearOrder α] [DecidableEq α] {l others : List α} :
    sortedSet (l.filter (· ∉ others)) = [] ↔ l ⊆ others := by
  constructor
  · exact subset_of_sortedSet
  · intro h
    have hnone : l.filter (· ∉ others) = [] := by
      apply List.filter_eq_nil_iff.mpr
      intro a ha
      simpa using h ha
    rw [hnone]
    rfl

/-- A major number of at least one, short enough to be read. -/
def MajorRelease (version : String) : Prop :=
  ∃ digits, semverMajor version = some digits ∧ digits.length ≤ 4300 ∧
    1 ≤ Nat.ofDigitChars 10 digits 0

theorem targetVersionErrors_iff {version : String} :
    targetVersionErrors version = .ok [] ↔ MajorRelease version := by
  unfold targetVersionErrors MajorRelease
  dsimp only
  rcases semverMajor version with _ | digits
  · simp
  · have hmajor : (∃ ds, some digits = some ds ∧ ds.length ≤ 4300 ∧ 1 ≤ Nat.ofDigitChars 10 ds 0) ↔
        digits.length ≤ 4300 ∧ 1 ≤ Nat.ofDigitChars 10 digits 0 := by simp
    rw [hmajor]
    unfold int
    dsimp only
    split_ifs with hlong
    · exact iff_of_false (fun h => nomatch h) fun h => absurd h.1 (by omega)
    · change (.ok (if Nat.ofDigitChars 10 digits 0 < 1 then _ else _) : Checked (List Failure)) =
        .ok [] ↔ _
      split_ifs with hzero
      · exact iff_of_false (fun h => nomatch h) fun h => absurd h.2 (by omega)
      · exact iff_of_true rfl ⟨by omega, by omega⟩

theorem gateEvidenceErrors_iff {manifest : Manifest} :
    gateEvidenceErrors manifest = [] ↔
      ∀ gate : CriteriaGate, gate.criteria ⊆ (manifest.evidence gate).map (·.criterion) := by
  constructor
  · exact gateEvidenceErrors_nil
  · intro h
    apply List.flatMap_eq_nil_iff.mpr
    intro gate _
    exact failIf_eq_nil.mpr (not_ne_iff.mpr (sortedSet_filter_eq_nil.mpr (h gate)))

theorem gateStatusErrors_iff {manifest : Manifest} :
    gateStatusErrors manifest = [] ↔ ∀ gate ∈ manifest.statuses, gate.2 = .satisfied := by
  rw [gateStatusErrors, List.flatMap_eq_nil_iff]
  simp only [failIf_eq_nil, not_ne_iff]

/-- An independent review of all areas has found nothing that is still open. -/
structure Reviewed (correctness : CorrectnessGate) : Prop where
  review : correctness.independentReview.isSome
  areas : ∀ area, area ∈ correctness.reviewedAreas ↔ area ∈ reviewAreas
  critical : correctness.openCritical = 0
  high : correctness.openHigh = 0

theorem securityErrors_iff {correctness : CorrectnessGate} :
    securityErrors correctness = [] ↔ Reviewed correctness := by
  simp only [securityErrors, List.append_eq_nil_iff, failIf_eq_nil, not_not, not_or]
  constructor
  · rintro ⟨⟨hreview, hareas, hareas'⟩, hcritical, hhigh⟩
    exact ⟨by simpa [Option.isSome_iff_ne_none] using hreview,
      fun area => ⟨fun h => hareas h, fun h => hareas' h⟩, hcritical, hhigh⟩
  · rintro ⟨hreview, hareas, hcritical, hhigh⟩
    exact ⟨⟨by simpa [Option.isSome_iff_ne_none] using hreview,
      fun area => (hareas area).mp, fun area => (hareas area).mpr⟩, hcritical, hhigh⟩

/-- The window has room for the required days and ends on the date of the manifest. -/
structure WindowFrom (window : CiWindow) (asOf start : Date) : Prop where
  begins : window.start = some start
  ends : window.endDate = some asOf
  order : start ≤ asOf
  room : window.requiredDays ≤ asOf.daysSince start + 1

theorem windowErrors_iff {window : CiWindow} {asOf : Date} :
    windowErrors window = [] ∧ freshnessErrors window asOf = [] ↔
      ∃ start, WindowFrom window asOf start := by
  constructor
  · rintro ⟨hwindow, hfresh⟩
    obtain ⟨hend, start, hstart, horder, hroom⟩ := windowErrors_nil hwindow hfresh
    refine ⟨start, hstart, hend, horder, ?_⟩
    rw [window.required_days_eq]
    omega
  · rintro ⟨start, hstart, hend, horder, hroom⟩
    constructor
    · rw [windowErrors, hstart, hend]
      dsimp only
      rw [if_neg (not_lt.mpr horder), failIf_eq_nil]
      omega
    · rw [freshnessErrors, failIf_eq_nil, hend]
      simp

theorem platformErrors_iff {expected : List Date} {track : CiTrack} {runs : List CiRun} :
    platformErrors expected track runs = [] ↔
      ∀ day, day ∈ runs.map (·.date) ↔ day ∈ expected := by
  constructor
  · exact platformErrors_nil
  · intro h
    rw [platformErrors, List.append_eq_nil_iff, failIf_eq_nil, failIf_eq_nil, not_ne_iff,
      not_ne_iff, sortedSet_filter_eq_nil, sortedSet_filter_eq_nil]
    exact ⟨fun day hday => (h day).mpr hday, fun day hday => (h day).mp hday⟩

structure Continued (continuity : Continuity) : Prop where
  status : continuity.status = .satisfied
  mode : continuity.mode ≠ none
  evidence : continuity.evidence ≠ []

theorem continuityErrors_iff {continuity : Continuity} :
    continuityErrors continuity = [] ↔ Continued continuity := by
  simp only [continuityErrors, List.append_eq_nil_iff, failIf_eq_nil, not_ne_iff]
  constructor
  · rintro ⟨⟨hstatus, hmode⟩, hevidence⟩
    exact ⟨hstatus, hmode, by simpa using hevidence⟩
  · rintro ⟨hstatus, hmode, hevidence⟩
    exact ⟨⟨hstatus, hmode⟩, by simpa using hevidence⟩

section

variable [Stdlib]

theorem adopterErrors_iff {adopters : List Adopter} :
    adopterErrors adopters = [] ↔
      3 ≤ adopters.length ∧ (adopters.map fun adopter => nameKey adopter.name).Nodup := by
  constructor
  · exact adopterErrors_nil
  · rintro ⟨hthree, hnodup⟩
    simp only [adopterErrors, List.append_eq_nil_iff, failIf_eq_nil, not_or, not_lt, not_ne_iff]
    rw [hnodup.dedup, List.length_map]
    exact ⟨⟨hthree, hthree⟩, rfl⟩

omit [Stdlib] in
theorem publicErrors_iff {adoption : AdoptionGate} :
    publicErrors adoption = [] ↔
      adoption.publicIntegration.isSome ∧ adoption.nonMaintainerContribution.isSome := by
  simp only [publicErrors, List.append_eq_nil_iff, failIf_eq_nil]
  simp [Option.isSome_iff_ne_none]

theorem repeatWindowErrors_iff {firstUse : Option Date} {again : RepeatAdopter} :
    repeatWindowErrors firstUse again = [] ↔
      ∃ day, firstUse = some day ∧ 30 ≤ again.repeatUse.daysSince day := by
  rcases firstUse with _ | day
  · exact iff_of_false (fun h => nomatch h) (by simp)
  · rw [repeatWindowErrors, failIf_eq_nil, not_lt]
    simp

/-- The loop has no failure exactly when every name is new, known and late enough. -/
theorem repeatLoop_iff {firstUse : List (String × Date)} {repeated : List String}
    {repeats : List RepeatAdopter} :
    (repeatLoop firstUse repeated repeats).1 = [] ↔
      (∀ again ∈ repeats, nameKey again.adopter ∉ repeated) ∧
      (repeats.map fun again => nameKey again.adopter).Nodup ∧
      ∀ again ∈ repeats, ∃ day, firstUse.lookup (nameKey again.adopter) = some day ∧
        30 ≤ again.repeatUse.daysSince day := by
  induction repeats generalizing repeated with
  | nil => simp [repeatLoop]
  | cons again rest ih =>
    simp only [repeatLoop, List.append_eq_nil_iff, failIf_eq_nil, repeatWindowErrors_iff, ih,
      List.forall_mem_cons, List.map_cons, List.nodup_cons, List.mem_insert_iff, not_or]
    constructor
    · rintro ⟨⟨hnew, hlate⟩, hfresh, hnodup, hlater⟩
      refine ⟨⟨hnew, fun other hother => (hfresh other hother).2⟩, ⟨?_, hnodup⟩, hlate, hlater⟩
      intro hmem
      obtain ⟨other, hother, hkey⟩ := List.mem_map.mp hmem
      exact (hfresh other hother).1 hkey
    · rintro ⟨⟨hnew, hfresh⟩, ⟨hfirst, hnodup⟩, hlate, hlater⟩
      refine ⟨⟨hnew, hlate⟩, ?_, hnodup, hlater⟩
      intro other hother
      exact ⟨fun hkey => hfirst (hkey ▸ List.mem_map_of_mem hother), hfresh other hother⟩

/-- New names are collected in front of those that are there. -/
theorem repeatLoop_repeated {firstUse : List (String × Date)} {repeated : List String}
    {repeats : List RepeatAdopter}
    (hnew : ∀ again ∈ repeats, nameKey again.adopter ∉ repeated)
    (hnodup : (repeats.map fun again => nameKey again.adopter).Nodup) :
    (repeatLoop firstUse repeated repeats).2 =
      (repeats.map fun again => nameKey again.adopter).reverse ++ repeated := by
  induction repeats generalizing repeated with
  | nil => rfl
  | cons again rest ih =>
    rw [List.forall_mem_cons] at hnew
    obtain ⟨hfirst, hrest⟩ := List.nodup_cons.mp hnodup
    rw [repeatLoop, List.insert_of_not_mem hnew.1, ih _ hrest]
    · simp
    · intro other hother hmem
      rcases List.mem_cons.mp hmem with hkey | hmem
      · exact hfirst (List.mem_map.mpr ⟨other, hother, hkey⟩)
      · exact hnew.2 other hother hmem

/-- Two adopters or more come back after thirty days, each of them recorded once. -/
structure ComeBack (adoption : AdoptionGate) : Prop where
  once : (adoption.repeatAdopters.map fun again => nameKey again.adopter).Nodup
  two : 2 ≤ adoption.repeatAdopters.length
  late : ∀ again ∈ adoption.repeatAdopters, ∃ adopter ∈ adoption.adopters,
    nameKey adopter.name = nameKey again.adopter ∧
      30 ≤ again.repeatUse.daysSince adopter.firstUse

/-- Where no adopter overwrites another one, each first use is found. -/
theorem lookup_firstUseByName {adopters : List Adopter}
    (hnodup : (adopters.map fun adopter => nameKey adopter.name).Nodup) {name : String}
    {day : Date} : (firstUseByName adopters).lookup name = some day ↔
      ∃ adopter ∈ adopters, nameKey adopter.name = name ∧ adopter.firstUse = day := by
  have hkeys : ((adopters.map fun adopter => (nameKey adopter.name, adopter.firstUse)).map
      Prod.fst).Nodup := by
    rw [List.map_map]
    exact hnodup
  rw [firstUseByName, dictOf_of_nodup hkeys]
  constructor
  · intro h
    obtain ⟨adopter, hadopter, hpair⟩ := List.mem_map.mp (mem_of_lookup h)
    obtain ⟨hname, hday⟩ := Prod.mk.inj hpair
    exact ⟨adopter, hadopter, hname, hday⟩
  · rintro ⟨adopter, hadopter, rfl, rfl⟩
    exact lookup_of_mem_of_nodup hkeys (List.mem_map_of_mem hadopter)

theorem repeatErrors_iff {adoption : AdoptionGate}
    (hnodup : (adoption.adopters.map fun adopter => nameKey adopter.name).Nodup) :
    repeatErrors adoption = [] ↔ ComeBack adoption := by
  have hlate : (∀ again ∈ adoption.repeatAdopters, ∃ day,
      (firstUseByName adoption.adopters).lookup (nameKey again.adopter) = some day ∧
        30 ≤ again.repeatUse.daysSince day) ↔
      ∀ again ∈ adoption.repeatAdopters, ∃ adopter ∈ adoption.adopters,
        nameKey adopter.name = nameKey again.adopter ∧
          30 ≤ again.repeatUse.daysSince adopter.firstUse := by
    apply forall₂_congr
    intro again _
    constructor
    · rintro ⟨day, hday, hlate⟩
      obtain ⟨adopter, hadopter, hname, rfl⟩ := (lookup_firstUseByName hnodup).mp hday
      exact ⟨adopter, hadopter, hname, hlate⟩
    · rintro ⟨adopter, hadopter, hname, hlate⟩
      exact ⟨_, (lookup_firstUseByName hnodup).mpr ⟨adopter, hadopter, hname, rfl⟩, hlate⟩
  have hnew : ∀ again ∈ adoption.repeatAdopters, nameKey again.adopter ∉ ([] : List String) :=
    fun _ _ => List.not_mem_nil
  simp only [repeatErrors, List.append_eq_nil_iff, failIf_eq_nil, repeatLoop_iff, hlate, not_lt]
  -- All repeated names are those of adopters, so the count is the number of records.
  have hcount : (adoption.repeatAdopters.map fun again => nameKey again.adopter).Nodup →
      (∀ again ∈ adoption.repeatAdopters, ∃ adopter ∈ adoption.adopters,
        nameKey adopter.name = nameKey again.adopter ∧
          30 ≤ again.repeatUse.daysSince adopter.firstUse) →
      ((repeatLoop (firstUseByName adoption.adopters) [] adoption.repeatAdopters).2.filter
        (· ∈ (adoption.adopters.map fun adopter => nameKey adopter.name).dedup)).length =
          adoption.repeatAdopters.length := by
    intro hdistinct hknown
    rw [repeatLoop_repeated hnew hdistinct, List.append_nil, List.filter_eq_self.mpr,
      List.length_reverse, List.length_map]
    intro name hname
    obtain ⟨again, hagain, rfl⟩ := List.mem_map.mp (List.mem_reverse.mp hname)
    obtain ⟨adopter, hadopter, hsame, -⟩ := hknown again hagain
    exact decide_eq_true (List.mem_dedup.mpr (List.mem_map.mpr ⟨adopter, hadopter, hsame⟩))
  constructor
  · rintro ⟨⟨-, hdistinct, hknown⟩, htwo⟩
    exact ⟨hdistinct, hcount hdistinct hknown ▸ htwo, hknown⟩
  · rintro ⟨hdistinct, htwo, hknown⟩
    exact ⟨⟨hnew, hdistinct, hknown⟩, (hcount hdistinct hknown).symm ▸ htwo⟩

end

section

variable [Stdlib]

/-- The requirements of a release. -/
structure Releasable (manifest : Manifest) (version : String) : Prop where
  target_version : manifest.targetVersion = version
  major : MajorRelease version
  satisfied : ∀ gate ∈ manifest.statuses, gate.2 = .satisfied
  criteria : ∀ gate : CriteriaGate, gate.criteria ⊆ (manifest.evidence gate).map (·.criterion)
  reviewed : Reviewed manifest.correctnessSecurity
  /-- Every track ran on each day of one window and on no other day. -/
  runs : ∃ start, WindowFrom manifest.deliveryMaintenance.ciWindow manifest.asOf start ∧
    ∀ (track : CiTrack) (day : Date),
      day ∈ (manifest.deliveryMaintenance.ciWindow.tracks track).runs.map (·.date) ↔
        start ≤ day ∧ day ≤ manifest.asOf
  continued : Continued manifest.deliveryMaintenance.continuity
  three : 3 ≤ manifest.adoption.adopters.length
  distinct : (manifest.adoption.adopters.map fun adopter => nameKey adopter.name).Nodup
  comeBack : ComeBack manifest.adoption
  integrated : manifest.adoption.publicIntegration.isSome
  contributed : manifest.adoption.nonMaintainerContribution.isSome
  review_le : ∀ review ∈ manifest.correctnessSecurity.independentReview,
    review.completedOn ≤ manifest.asOf
  first_use_le : ∀ adopter ∈ manifest.adoption.adopters, adopter.firstUse ≤ manifest.asOf
  repeat_use_le : ∀ again ∈ manifest.adoption.repeatAdopters, again.repeatUse ≤ manifest.asOf

omit [Stdlib] in
/-- The dates of the window are all in the calendar. -/
theorem exists_expectedDates (window : CiWindow) : ∃ dates, expectedDates window = .ok dates := by
  unfold expectedDates
  split
  next start endDate _ _ =>
    split_ifs with horder
    · apply Except.exists_mapM
      intro offset hoffset
      rw [List.mem_range, Date.daysSince] at hoffset
      rw [Date.le_iff] at horder
      obtain ⟨day, hday⟩ := Date.exists_addDays (d := start) (e := endDate) offset (by omega)
      exact ⟨day, by rw [plusDays, hday]⟩
    · exact ⟨[], rfl⟩
  next => exact ⟨[], rfl⟩

theorem releaseVersionErrors_iff {targetVersion version : String}
    (hsemver : (semverMajor targetVersion).isSome) :
    releaseVersionErrors targetVersion (some version) = [] ↔ targetVersion = version := by
  constructor
  · exact releaseVersionErrors_nil
  · rintro rfl
    dsimp only [releaseVersionErrors]
    rw [if_neg (by simpa [Option.isSome_iff_ne_none] using hsemver), failIf_eq_nil]
    exact not_not_intro rfl

/-- The dates are those of the window, of the review and of the uses. -/
theorem datedEvidence_iff {manifest : Manifest}
    (hend : manifest.deliveryMaintenance.ciWindow.endDate = some manifest.asOf)
    (hnodup : (manifest.adoption.adopters.map fun adopter => nameKey adopter.name).Nodup) :
    (¬ ∃ day ∈ manifest.datedEvidence, manifest.asOf < day) ↔
      (∀ review ∈ manifest.correctnessSecurity.independentReview,
        review.completedOn ≤ manifest.asOf) ∧
      (∀ adopter ∈ manifest.adoption.adopters, adopter.firstUse ≤ manifest.asOf) ∧
      ∀ again ∈ manifest.adoption.repeatAdopters, again.repeatUse ≤ manifest.asOf := by
  have hkeys : ((manifest.adoption.adopters.map fun adopter =>
      (nameKey adopter.name, adopter.firstUse)).map Prod.fst).Nodup := by
    rw [List.map_map]
    exact hnodup
  have huses : (firstUseByName manifest.adoption.adopters).map Prod.snd =
      manifest.adoption.adopters.map (·.firstUse) := by
    rw [firstUseByName, dictOf_of_nodup hkeys, List.map_map]
    rfl
  rw [Manifest.datedEvidence, hend, huses]
  push Not
  simp only [List.mem_append, or_imp, forall_and, List.forall_mem_map]
  simp [and_assoc]

omit [Stdlib] in
/-- The checks come to an end exactly when the major number is read. -/
theorem targetVersionErrors_ends (version : String) :
    (∃ failures, targetVersionErrors version = .ok failures) ↔
      ∀ digits, semverMajor version = some digits → digits.length ≤ 4300 := by
  unfold targetVersionErrors
  dsimp only
  rcases semverMajor version with _ | digits
  · simp
  · unfold int
    dsimp only
    split_ifs with hlong
    · apply iff_of_false
      · rintro ⟨failures, hfailures⟩
        cases hfailures
      · intro h
        exact absurd (h digits rfl) (by omega)
    · apply iff_of_true
      · exact ⟨_, rfl⟩
      · intro ds hds
        cases hds
        omega

/-- The requirements of a release are met exactly when the readiness has no failure for the
version, and the checks end for any version unless the major number has too many digits. -/
theorem readinessErrors_exact (manifest : Manifest) (version : String) :
    (readinessErrors manifest (some version) = .ok [] ↔ Releasable manifest version) ∧
    ((∃ failures, readinessErrors manifest (some version) = .ok failures) ↔
      ∀ digits, semverMajor manifest.targetVersion = some digits → digits.length ≤ 4300) := by
  obtain ⟨dates, hdates⟩ := exists_expectedDates manifest.deliveryMaintenance.ciWindow
  constructor
  · constructor
    · intro h
      simp only [readinessErrors, Except.bind_eq_ok] at h
      obtain ⟨target, htarget, expected, hexpected, hall⟩ := h
      have hnil := Except.ok.inj hall
      simp only [List.append_eq_nil_iff, failIf_eq_nil, List.flatMap_eq_nil_iff] at hnil
      obtain ⟨⟨⟨⟨⟨⟨⟨⟨⟨⟨⟨⟨rfl, hversion⟩, hstatus⟩, hcriteria⟩, hsecurity⟩, hwindow⟩, hfresh⟩,
        htracks⟩, hcontinuity⟩, hadopters⟩, hrepeats⟩, hpublic⟩, hdated⟩ := hnil
      have hsame := releaseVersionErrors_nil hversion
      obtain ⟨start, hstart⟩ := windowErrors_iff.mp ⟨hwindow, hfresh⟩
      obtain ⟨hthree, hnodup⟩ := adopterErrors_iff.mp hadopters
      obtain ⟨hintegrated, hcontributed⟩ := publicErrors_iff.mp hpublic
      obtain ⟨hreview, hfirst, hagain⟩ := (datedEvidence_iff hstart.ends hnodup).mp hdated
      refine ⟨hsame, ?_, gateStatusErrors_iff.mp hstatus, gateEvidenceErrors_iff.mp hcriteria,
        securityErrors_iff.mp hsecurity, ⟨start, hstart, ?_⟩, continuityErrors_iff.mp hcontinuity,
        hthree, hnodup, (repeatErrors_iff hnodup).mp hrepeats, hintegrated, hcontributed,
        hreview, hfirst, hagain⟩
      · rw [← hsame]
        exact targetVersionErrors_iff.mp htarget
      · intro track day
        rw [platformErrors_iff.mp (htracks track (CiTrack.mem_all track)) day,
          mem_expectedDates hstart.begins hstart.ends hstart.order hexpected]
    · intro h
      obtain ⟨start, hstart, hdays⟩ := h.runs
      obtain ⟨hwindow, hfresh⟩ := windowErrors_iff.mpr ⟨start, hstart⟩
      have htarget : targetVersionErrors manifest.targetVersion = .ok [] := by
        rw [h.target_version]
        exact targetVersionErrors_iff.mpr h.major
      have htracks : (CiTrack.all.flatMap fun track => platformErrors dates track
          (manifest.deliveryMaintenance.ciWindow.tracks track).runs) = [] := by
        rw [List.flatMap_eq_nil_iff]
        intro track _
        rw [platformErrors_iff]
        intro day
        rw [mem_expectedDates hstart.begins hstart.ends hstart.order hdates]
        exact hdays track day
      have hdated := (datedEvidence_iff hstart.ends h.distinct).mpr
        ⟨h.review_le, h.first_use_le, h.repeat_use_le⟩
      simp only [readinessErrors, Except.bind_eq_ok]
      refine ⟨[], htarget, dates, hdates, congrArg Except.ok ?_⟩
      rw [(releaseVersionErrors_iff manifest.semver).mpr h.target_version,
        gateStatusErrors_iff.mpr h.satisfied, gateEvidenceErrors_iff.mpr h.criteria,
        securityErrors_iff.mpr h.reviewed, hwindow, hfresh, htracks,
        continuityErrors_iff.mpr h.continued, adopterErrors_iff.mpr ⟨h.three, h.distinct⟩,
        (repeatErrors_iff h.distinct).mpr h.comeBack,
        publicErrors_iff.mpr ⟨h.integrated, h.contributed⟩, failIf_eq_nil.mpr hdated]
      rfl
  · rw [← targetVersionErrors_ends]
    constructor
    · rintro ⟨failures, hfailures⟩
      obtain ⟨target, htarget, -⟩ := Except.bind_eq_ok.mp hfailures
      exact ⟨target, htarget⟩
    · rintro ⟨target, htarget⟩
      exact ⟨_, Except.bind_eq_ok.mpr ⟨target, htarget, Except.bind_eq_ok.mpr ⟨dates, hdates, rfl⟩⟩⟩

end

end HopWhy.Release
