import HopWhy.Release.Readiness
import HopWhy.Release.Reading

/-!
# The release gate

What a manifest without a failure shows for a release, said about the raw value
that was read: the daily runs of every track, the adopters and their repeated
use, the criteria and areas that are covered, and no date behind that of the
manifest.
-/

namespace HopWhy.Release

open Python

/-- Without a failure of the window and of the track there is a run for each of the last thirty
days, and none later. -/
theorem track_complete {window : CiWindow} {asOf : Date} {expected : List Date} {track : CiTrack}
    (hwindow : windowErrors window = []) (hfresh : freshnessErrors window asOf = [])
    (hexpected : expectedDates window = .ok expected)
    (htrack : platformErrors expected track (window.tracks track).runs = []) :
    (∀ day : Date, day ≤ asOf → asOf.daysSince day ≤ 29 →
      day ∈ (window.tracks track).runs.map (·.date)) ∧
    ∀ day ∈ (window.tracks track).runs.map (·.date), day ≤ asOf := by
  obtain ⟨hend, start, hstart, horder, hroom⟩ := windowErrors_nil hwindow hfresh
  have hmem := mem_expectedDates hstart hend horder hexpected
  constructor
  · intro day hlast hrecent
    rw [platformErrors_nil htrack, hmem]
    refine ⟨?_, hlast⟩
    rw [Date.daysSince] at hroom hrecent
    rw [Date.le_iff]
    omega
  · intro day hday
    rw [platformErrors_nil htrack, hmem] at hday
    exact hday.2

section

variable {manifest : Manifest} {value : PyValue}

theorem IsManifest.track_days (h : IsManifest manifest value) (track : CiTrack) :
    value.At ["gates", "delivery_maintenance", "ci_window", "tracks", track.name]
      (IsListOf (fun day run => run.At ["date"] (IsDate day))
        ((manifest.deliveryMaintenance.ciWindow.tracks track).runs.map (·.date))) := by
  have hwindow := (h.delivery_maintenance.mono fun _ hgate => hgate.ci_window).trans
  have htrack := (hwindow.mono fun _ hwindow => hwindow.tracks track).trans
  exact htrack.mono fun _ hruns => hruns.map fun _ _ hrun => hrun.date

theorem IsManifest.completed_on (h : IsManifest manifest value) {review : Review}
    (hreview : manifest.correctnessSecurity.independentReview = some review) :
    value.At ["gates", "correctness_security", "independent_review", "completed_on"]
      (IsDate review.completedOn) := by
  have hgate := (h.correctness_security.mono fun _ hgate => hgate.independent_review).trans
  rw [hreview] at hgate
  exact (hgate.mono fun _ hreview => hreview.completed_on).trans

theorem IsManifest.criteria (h : IsManifest manifest value) (gate : CriteriaGate) :
    value.At ["gates", gate.name, "evidence"]
      (IsListOf (fun criterion item => item.At ["criterion"] (IsText criterion))
        ((manifest.evidence gate).map (·.criterion))) := by
  have hevidence : value.At ["gates", gate.name, "evidence"]
      (IsListOf IsCriterionEvidence (manifest.evidence gate)) := by
    cases gate
    · exact (h.correctness_security.mono fun _ hgate => hgate.evidence).trans
    · exact (h.delivery_maintenance.mono fun _ hgate => hgate.evidence).trans
    · exact (h.performance_bounds.mono fun _ hgate => hgate.evidence).trans
    · exact (h.product_compatibility.mono fun _ hgate => hgate.evidence).trans
  exact hevidence.mono fun _ hlist => hlist.map fun _ _ hitem => hitem.criterion

end

section

variable [Stdlib]

/-- A record of a use, with the key of a name under one member and a date under another. -/
structure IsUse (nameField dateField : String) (use : String × Date) (value : PyValue) : Prop where
  name : value.At [nameField] fun child => ∃ text, IsText text child ∧ nameKey text = use.1
  date : value.At [dateField] (IsDate use.2)

/-- The adopter comes back thirty days after the first use or later. -/
def UsesAgain (adopters repeats : List (String × Date)) (name : String) : Prop :=
  ∃ first again, (name, first) ∈ adopters ∧ (name, again) ∈ repeats ∧
    30 ≤ again.daysSince first

structure AdoptionEvidence (adopters repeats : List (String × Date)) (asOf : Date) : Prop where
  three : 3 ≤ adopters.length
  distinct : (adopters.map Prod.fst).Nodup
  two : ∃ names : List String, names.Nodup ∧ 2 ≤ names.length ∧
    ∀ name ∈ names, UsesAgain adopters repeats name
  first_use_le : ∀ use ∈ adopters, use.2 ≤ asOf
  repeat_use_le : ∀ use ∈ repeats, use.2 ≤ asOf

/-- The evidence for the release of the version, as of the date. -/
structure ReleaseEvidence (value : PyValue) (version : String) (asOf : Date) : Prop where
  as_of : value.At ["as_of"] (IsDate asOf)
  target_version : value.At ["target_version"] (IsText version)
  major : ∃ major ≥ 1, ∃ rest, version.toList = Nat.toDigits 10 major ++ '.' :: rest
  runs : ∀ track : CiTrack, ∃ days : List Date,
    value.At ["gates", "delivery_maintenance", "ci_window", "tracks", track.name]
      (IsListOf (fun day run => run.At ["date"] (IsDate day)) days) ∧
    (∀ day : Date, day ≤ asOf → asOf.daysSince day ≤ 29 → day ∈ days) ∧
    ∀ day ∈ days, day ≤ asOf
  adoption : ∃ adopters repeats : List (String × Date),
    value.At ["gates", "adoption", "adopters"] (IsListOf (IsUse "name" "first_use") adopters) ∧
    value.At ["gates", "adoption", "repeat_adopters"]
      (IsListOf (IsUse "adopter" "repeat_use") repeats) ∧
    AdoptionEvidence adopters repeats asOf
  review : ∃ day ≤ asOf, value.At
    ["gates", "correctness_security", "independent_review", "completed_on"] (IsDate day)
  criteria : ∀ gate : CriteriaGate, ∃ criteria : List String,
    value.At ["gates", gate.name, "evidence"]
      (IsListOf (fun criterion item => item.At ["criterion"] (IsText criterion)) criteria) ∧
    gate.criteria ⊆ criteria
  areas : ∃ areas : List String,
    value.At ["gates", "correctness_security", "reviewed_areas"] (IsListOf IsText areas) ∧
    reviewAreas ⊆ areas

def firstUses (adoption : AdoptionGate) : List (String × Date) :=
  adoption.adopters.map fun adopter => (nameKey adopter.name, adopter.firstUse)

def repeatUses (adoption : AdoptionGate) : List (String × Date) :=
  adoption.repeatAdopters.map fun again => (nameKey again.adopter, again.repeatUse)

theorem IsManifest.first_uses {manifest : Manifest} {value : PyValue}
    (h : IsManifest manifest value) : value.At ["gates", "adoption", "adopters"]
      (IsListOf (IsUse "name" "first_use") (firstUses manifest.adoption)) := by
  have hadopters := (h.adoption.mono fun _ hgate => hgate.adopters).trans
  apply hadopters.mono
  intro _ hlist
  apply hlist.map
  intro adopter _ hadopter
  constructor
  · exact hadopter.name.mono fun _ hname => ⟨adopter.name, hname, rfl⟩
  · exact hadopter.first_use

theorem IsManifest.repeat_uses {manifest : Manifest} {value : PyValue}
    (h : IsManifest manifest value) : value.At ["gates", "adoption", "repeat_adopters"]
      (IsListOf (IsUse "adopter" "repeat_use") (repeatUses manifest.adoption)) := by
  have hrepeats := (h.adoption.mono fun _ hgate => hgate.repeat_adopters).trans
  apply hrepeats.mono
  intro _ hlist
  apply hlist.map
  intro again _ hagain
  constructor
  · exact hagain.adopter.mono fun _ hname => ⟨again.adopter, hname, rfl⟩
  · exact hagain.repeat_use

theorem adoption_evidence {adoption : AdoptionGate} {asOf : Date}
    (hadopters : adopterErrors adoption.adopters = []) (hrepeats : repeatErrors adoption = [])
    (hfirst : ∀ day ∈ (firstUseByName adoption.adopters).map Prod.snd, day ≤ asOf)
    (hagain : ∀ day ∈ adoption.repeatAdopters.map (·.repeatUse), day ≤ asOf) :
    AdoptionEvidence (firstUses adoption) (repeatUses adoption) asOf := by
  obtain ⟨hthree, hnodup⟩ := adopterErrors_nil hadopters
  have hkeys : ((firstUses adoption).map Prod.fst).Nodup := by
    rw [firstUses, List.map_map]
    exact hnodup
  -- No adopter has overwritten another one, so the dictionary has every first use.
  have hall : firstUseByName adoption.adopters = firstUses adoption := dictOf_of_nodup hkeys
  rw [hall] at hfirst
  constructor
  · rw [firstUses, List.length_map]
    exact hthree
  · exact hkeys
  · obtain ⟨names, hnames, htwo, hagain⟩ := repeatErrors_nil hrepeats
    refine ⟨names, hnames, htwo, ?_⟩
    intro name hname
    obtain ⟨again, hmem, rfl, day, hday, hlate⟩ := hagain name hname
    rw [hall] at hday
    exact ⟨day, again.repeatUse, mem_of_lookup hday, List.mem_map_of_mem hmem, hlate⟩
  · intro use huse
    exact hfirst use.2 (List.mem_map_of_mem huse)
  · intro use huse
    obtain ⟨again, hmem, rfl⟩ := List.mem_map.mp huse
    exact hagain again.repeatUse (List.mem_map_of_mem hmem)

/-- What the checks of the readiness establish about an accepted manifest. -/
structure Ready (manifest : Manifest) (version : String) : Prop where
  target_version : manifest.targetVersion = version
  major : ∃ major ≥ 1, ∃ rest, version.toList = Nat.toDigits 10 major ++ '.' :: rest
  criteria : ∀ gate : CriteriaGate, gate.criteria ⊆ (manifest.evidence gate).map (·.criterion)
  reviewed : manifest.correctnessSecurity.independentReview.isSome
  areas : reviewAreas ⊆ manifest.correctnessSecurity.reviewedAreas
  runs : ∀ track : CiTrack,
    (∀ day : Date, day ≤ manifest.asOf → manifest.asOf.daysSince day ≤ 29 →
      day ∈ (manifest.deliveryMaintenance.ciWindow.tracks track).runs.map (·.date)) ∧
    ∀ day ∈ (manifest.deliveryMaintenance.ciWindow.tracks track).runs.map (·.date),
      day ≤ manifest.asOf
  adoption : AdoptionEvidence (firstUses manifest.adoption) (repeatUses manifest.adoption)
    manifest.asOf
  dated : ∀ day ∈ manifest.datedEvidence, day ≤ manifest.asOf

theorem ready_of_readinessErrors {manifest : Manifest} {version : String}
    (h : readinessErrors manifest (some version) = .ok []) : Ready manifest version := by
  simp only [readinessErrors, Except.bind_eq_ok] at h
  obtain ⟨target, htarget, expected, hexpected, hall⟩ := h
  have hnil := Except.ok.inj hall
  simp only [List.append_eq_nil_iff, failIf_eq_nil, List.flatMap_eq_nil_iff] at hnil
  obtain ⟨⟨⟨⟨⟨⟨⟨⟨⟨⟨⟨⟨rfl, hversion⟩, _⟩, hcriteria⟩, hsecurity⟩, hwindow⟩, hfresh⟩, htracks⟩, _⟩,
    hadopters⟩, hrepeats⟩, _⟩, hdates⟩ := hnil
  have hsame := releaseVersionErrors_nil hversion
  obtain ⟨hreviewed, hareas⟩ := securityErrors_nil hsecurity
  have hdated : ∀ day ∈ manifest.datedEvidence, day ≤ manifest.asOf := by
    intro day hday
    by_contra hlate
    exact hdates ⟨day, hday, not_le.mp hlate⟩
  constructor
  · exact hsame
  · exact hsame ▸ targetVersionErrors_nil htarget
  · exact gateEvidenceErrors_nil hcriteria
  · exact hreviewed
  · exact hareas
  · intro track
    exact track_complete hwindow hfresh hexpected (htracks track (CiTrack.mem_all track))
  · apply adoption_evidence hadopters hrepeats
    · intro day hday
      exact hdated day (by simp [Manifest.datedEvidence, hday])
    · intro day hday
      exact hdated day (by simp [Manifest.datedEvidence, hday])
  · exact hdated

/-- An accepted manifest without a failure for the version has the evidence for its release. -/
theorem release_gate_sound {value : PyValue} {manifest : Manifest} {version : String}
    (hvalid : validateStructure value = .ok manifest)
    (hready : readinessErrors manifest (some version) = .ok []) :
    ReleaseEvidence value version manifest.asOf := by
  have hread := validateStructure_isManifest hvalid
  have hpassed := ready_of_readinessErrors hready
  obtain ⟨review, hreview⟩ := Option.isSome_iff_exists.mp hpassed.reviewed
  constructor
  · exact hread.as_of
  · exact hpassed.target_version ▸ hread.target_version
  · exact hpassed.major
  · intro track
    exact ⟨_, hread.track_days track, hpassed.runs track⟩
  · exact ⟨_, _, hread.first_uses, hread.repeat_uses, hpassed.adoption⟩
  · refine ⟨review.completedOn, hpassed.dated _ ?_, hread.completed_on hreview⟩
    simp [Manifest.datedEvidence, hreview]
  · intro gate
    exact ⟨_, hread.criteria gate, hpassed.criteria gate⟩
  · have hareas := (hread.correctness_security.mono fun _ hgate => hgate.reviewed_areas).trans
    exact ⟨_, hareas, hpassed.areas⟩

end

/-- The library as it treats the texts below, which are all ASCII. -/
@[reducible] def asciiStdlib : Stdlib where
  casefold text := String.ofList (Text.toAsciiLowercase text.toList)
  repr text := "'" ++ text ++ "'"
  urlparse text :=
    let host := String.ofList ((text.toList.drop 8).takeWhile (· ≠ '/'))
    if "https://".toList <+: text.toList then .ok ⟨"https", host, some host, none, none⟩
    else .ok ⟨"", "", none, none, none⟩
  isGlobal _ := none

namespace Ready

def page : PyValue := .str "https://github.com/yhay81/hopwhy"

def reference : PyValue := .dict [("label", .str "record"), ("url", page)]

def satisfied : PyValue := .str "satisfied"

def evidence (gate : CriteriaGate) : PyValue :=
  .list (gate.criteria.map fun criterion => .dict [("criterion", .str criterion), ("url", page)])

def days : List String :=
  "2026-06-30" :: (List.range 29).map fun n =>
    String.ofList ("2026-07-".toList ++ Date.padded 2 (n + 1))

def dailyRuns : PyValue :=
  .list (days.map fun day =>
    .dict [("date", .str day), ("url", .str "https://github.com/yhay81/hopwhy/actions/runs/1")])

def adopter (name day : String) : PyValue :=
  .dict [("name", .str name), ("workflow", .str "production"), ("outcome", .str "decided"),
    ("first_use", .str day), ("evidence", page)]

def again (name day : String) : PyValue :=
  .dict [("adopter", .str name), ("repeat_use", .str day), ("evidence", page)]

def gates : List (String × PyValue) :=
  [("product_compatibility", .dict [("status", satisfied),
      ("evidence", evidence .productCompatibility)]),
    ("correctness_security", .dict [("status", satisfied),
      ("evidence", evidence .correctnessSecurity),
      ("independent_review", .dict [("reviewer", .str "reviewer"),
        ("completed_on", .str "2026-07-25"), ("url", page)]),
      ("open_critical", .int 0), ("open_high", .int 0),
      ("reviewed_areas", .list (reviewAreas.map .str))]),
    ("performance_bounds", .dict [("status", satisfied),
      ("evidence", evidence .performanceBounds)]),
    ("delivery_maintenance", .dict [("status", satisfied),
      ("evidence", evidence .deliveryMaintenance),
      ("ci_window", .dict [("start", .str "2026-06-30"), ("end", .str "2026-07-29"),
        ("required_days", .int 30),
        ("tracks", .dict (CiTrack.all.map fun track => (track.name, dailyRuns)))]),
      ("continuity", .dict [("status", satisfied), ("mode", .str "two-maintainer-drill"),
        ("evidence", .list [reference])])]),
    ("adoption", .dict [("status", satisfied),
      ("adopters", .list [adopter "Studio Alpha" "2026-06-01", adopter "Team Beta" "2026-06-10",
        adopter "Creator Gamma" "2026-07-01"]),
      ("repeat_adopters", .list [again "studio alpha" "2026-07-01",
        again "Team Beta" "2026-07-10"]),
      ("public_integration", reference), ("non_maintainer_contribution", reference)])]

def manifest : PyValue :=
  .dict [("schema_version", .str schemaVersion), ("project", .str project),
    ("target_version", .str "1.0.0"), ("as_of", .str "2026-07-29"), ("gates", .dict gates)]

end Ready

theorem release_gate_ready :
    letI := asciiStdlib
    ∃ asOf, ReleaseEvidence Ready.manifest "1.0.0" asOf := by
  let := asciiStdlib
  have hready : @requireReady asciiStdlib Ready.manifest "1.0.0" = .ok [] := by decide +kernel
  obtain ⟨manifest, hvalid, hnone⟩ := Except.bind_eq_ok.mp hready
  exact ⟨manifest.asOf, release_gate_sound hvalid hnone⟩

end HopWhy.Release
