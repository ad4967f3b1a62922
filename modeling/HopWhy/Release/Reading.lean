import HopWhy.Release.Manifest

/-!
# Accepted manifests

What the raw value of an accepted manifest has under each path. Every check has
a reading of its own, and the readings of the members make up that of the whole.
-/

namespace HopWhy.Release

open Python

structure IsReference (reference : Reference) (value : PyValue) : Prop where
  label : value.At ["label"] (IsText reference.label)
  url : value.At ["url"] (IsText reference.url)

structure IsCriterionEvidence (item : CriterionEvidence) (value : PyValue) : Prop where
  criterion : value.At ["criterion"] (IsText item.criterion)
  url : value.At ["url"] (IsText item.url)

def IsGateEvidence {expected : List String} (evidence : GateEvidence expected) (value : PyValue) :
    Prop :=
  IsListOf IsCriterionEvidence evidence.items value

structure IsBasicGate {expected : List String} (gate : BasicGate expected) (value : PyValue) :
    Prop where
  status : value.At ["status"] (IsOneOf statuses gate.status)
  evidence : value.At ["evidence"] (IsGateEvidence gate.evidence)

structure IsReview (review : Review) (value : PyValue) : Prop where
  reviewer : value.At ["reviewer"] (IsText review.reviewer)
  completed_on : value.At ["completed_on"] (IsDate review.completedOn)
  url : value.At ["url"] (IsText review.url)

structure IsCorrectnessGate (gate : CorrectnessGate) (value : PyValue) : Prop where
  status : value.At ["status"] (IsOneOf statuses gate.status)
  evidence : value.At ["evidence"] (IsGateEvidence gate.evidence)
  independent_review : value.At ["independent_review"] (IsOptional IsReview gate.independentReview)
  open_critical : value.At ["open_critical"] (IsCount gate.openCritical)
  open_high : value.At ["open_high"] (IsCount gate.openHigh)
  reviewed_areas : value.At ["reviewed_areas"] (IsListOf IsText gate.reviewedAreas)

structure IsCiRun (run : CiRun) (value : PyValue) : Prop where
  date : value.At ["date"] (IsDate run.date)
  url : value.At ["url"] (IsText run.url)

def IsTrackRuns (track : TrackRuns) (value : PyValue) : Prop := IsListOf IsCiRun track.runs value

structure IsCiWindow (window : CiWindow) (value : PyValue) : Prop where
  start : value.At ["start"] (IsOptional IsDate window.start)
  endDate : value.At ["end"] (IsOptional IsDate window.endDate)
  required_days : value.At ["required_days"] (IsCount window.requiredDays)
  tracks : ∀ track : CiTrack, value.At ["tracks", track.name] (IsTrackRuns (window.tracks track))

structure IsContinuity (continuity : Continuity) (value : PyValue) : Prop where
  status : value.At ["status"] (IsOneOf statuses continuity.status)
  mode : value.At ["mode"] (IsOptional (IsOneOf continuityModes) continuity.mode)
  evidence : value.At ["evidence"] (IsListOf IsReference continuity.evidence)

structure IsDeliveryGate (gate : DeliveryGate) (value : PyValue) : Prop where
  status : value.At ["status"] (IsOneOf statuses gate.status)
  evidence : value.At ["evidence"] (IsGateEvidence gate.evidence)
  ci_window : value.At ["ci_window"] (IsCiWindow gate.ciWindow)
  continuity : value.At ["continuity"] (IsContinuity gate.continuity)

structure IsAdopter (adopter : Adopter) (value : PyValue) : Prop where
  name : value.At ["name"] (IsText adopter.name)
  workflow : value.At ["workflow"] (IsText adopter.workflow)
  outcome : value.At ["outcome"] (IsText adopter.outcome)
  first_use : value.At ["first_use"] (IsDate adopter.firstUse)
  evidence : value.At ["evidence"] (IsText adopter.evidence)

structure IsRepeatAdopter (again : RepeatAdopter) (value : PyValue) : Prop where
  adopter : value.At ["adopter"] (IsText again.adopter)
  repeat_use : value.At ["repeat_use"] (IsDate again.repeatUse)
  evidence : value.At ["evidence"] (IsText again.evidence)

structure IsAdoptionGate (gate : AdoptionGate) (value : PyValue) : Prop where
  status : value.At ["status"] (IsOneOf statuses gate.status)
  adopters : value.At ["adopters"] (IsListOf IsAdopter gate.adopters)
  repeat_adopters : value.At ["repeat_adopters"] (IsListOf IsRepeatAdopter gate.repeatAdopters)
  public_integration :
    value.At ["public_integration"] (IsOptional IsReference gate.publicIntegration)
  non_maintainer_contribution : value.At ["non_maintainer_contribution"]
    (IsOptional IsReference gate.nonMaintainerContribution)

structure IsManifest (manifest : Manifest) (value : PyValue) : Prop where
  schema_version : value.At ["schema_version"] (IsText schemaVersion)
  project : value.At ["project"] (IsText project)
  target_version : value.At ["target_version"] (IsText manifest.targetVersion)
  as_of : value.At ["as_of"] (IsDate manifest.asOf)
  product_compatibility :
    value.At ["gates", "product_compatibility"] (IsBasicGate manifest.productCompatibility)
  correctness_security :
    value.At ["gates", "correctness_security"] (IsCorrectnessGate manifest.correctnessSecurity)
  performance_bounds :
    value.At ["gates", "performance_bounds"] (IsBasicGate manifest.performanceBounds)
  delivery_maintenance :
    value.At ["gates", "delivery_maintenance"] (IsDeliveryGate manifest.deliveryMaintenance)
  adoption : value.At ["gates", "adoption"] (IsAdoptionGate manifest.adoption)

variable [Stdlib]

theorem reads_referenceItem : Reads referenceItem IsReference := by
  intro value path reference h
  simp only [referenceItem, Except.bind_eq_ok] at h
  obtain ⟨entries, hobject, _, _, label, hlabel, url, hurl, h⟩ := h
  cases h
  cases object_eq_ok hobject
  constructor
  · exact field_at reads_string hlabel
  · exact field_at reads_httpsUrl hurl

theorem reads_criterionEvidence : Reads criterionEvidence IsCriterionEvidence := by
  intro value path item h
  simp only [criterionEvidence, Except.bind_eq_ok] at h
  obtain ⟨entries, hobject, _, _, criterion, hcriterion, url, hurl, h⟩ := h
  cases h
  cases object_eq_ok hobject
  constructor
  · exact field_at reads_string hcriterion
  · exact field_at reads_httpsUrl hurl

theorem reads_gateEvidence (expected : List String) :
    Reads (gateEvidence expected) IsGateEvidence := by
  intro value path evidence h
  simp only [gateEvidence, Except.bind_eq_ok] at h
  obtain ⟨items, hitems, _, _, _, _, h⟩ := h
  cases h
  exact reads_listOf reads_criterionEvidence _ _ _ hitems

theorem reads_basicGate (expected : List String) : Reads (basicGate expected) IsBasicGate := by
  intro value path gate h
  simp only [basicGate, Except.bind_eq_ok] at h
  obtain ⟨entries, hobject, _, _, status, hstatus, evidence, hevidence, h⟩ := h
  cases h
  cases object_eq_ok hobject
  constructor
  · exact field_at (reads_oneOf statuses) hstatus
  · exact field_at (reads_gateEvidence expected) hevidence

theorem reads_review : Reads review IsReview := by
  intro value path result h
  simp only [review, Except.bind_eq_ok] at h
  obtain ⟨entries, hobject, _, _, reviewer, hreviewer, day, hday, url, hurl, h⟩ := h
  cases h
  cases object_eq_ok hobject
  constructor
  · exact field_at reads_string hreviewer
  · exact field_at reads_date hday
  · exact field_at reads_httpsUrl hurl

theorem reads_correctnessGate : Reads correctnessGate IsCorrectnessGate := by
  intro value path gate h
  simp only [correctnessGate, Except.bind_eq_ok] at h
  obtain ⟨entries, hobject, _, _, status, hstatus, evidence, hevidence, found, hreview, critical,
    hcritical, high, hhigh, areas, hareas, _, _, _, _, h⟩ := h
  cases h
  cases object_eq_ok hobject
  constructor
  · exact field_at (reads_oneOf statuses) hstatus
  · exact field_at (reads_gateEvidence _) hevidence
  · exact field_at (reads_optional reads_review) hreview
  · exact field_at reads_nonnegativeInteger hcritical
  · exact field_at reads_nonnegativeInteger hhigh
  · exact field_at (reads_listOf reads_string) hareas

theorem reads_ciRun : Reads ciRun IsCiRun := by
  intro value path run h
  simp only [ciRun, Except.bind_eq_ok] at h
  obtain ⟨entries, hobject, _, _, day, hday, url, hurl, h⟩ := h
  cases h
  cases object_eq_ok hobject
  constructor
  · exact field_at reads_date hday
  · exact field_at reads_runUrl hurl

theorem reads_trackRuns : Reads trackRuns IsTrackRuns := by
  intro value path track h
  simp only [trackRuns, Except.bind_eq_ok] at h
  obtain ⟨runs, hruns, _, _, h⟩ := h
  cases h
  exact reads_listOf reads_ciRun _ _ _ hruns

theorem reads_ciWindow : Reads ciWindow IsCiWindow := by
  intro value path window h
  simp only [ciWindow, Except.bind_eq_ok] at h
  obtain ⟨entries, hobject, _, _, start, hstart, endDate, hend, days, hdays, _, _, tracks, htracks,
    _, _, runs, hruns, h⟩ := h
  cases h
  cases object_eq_ok hobject
  constructor
  · exact field_at (reads_optional reads_date) hstart
  · exact field_at (reads_optional reads_date) hend
  · exact field_at reads_nonnegativeInteger hdays
  · intro track
    exact field_object_at htracks (field_at reads_trackRuns (CiTrack.forEach_eq_ok hruns track))

theorem reads_continuity : Reads continuity IsContinuity := by
  intro value path result h
  simp only [continuity, Except.bind_eq_ok] at h
  obtain ⟨entries, hobject, _, _, status, hstatus, mode, hmode, evidence, hevidence, h⟩ := h
  cases h
  cases object_eq_ok hobject
  constructor
  · exact field_at (reads_oneOf statuses) hstatus
  · exact field_at (reads_optional (reads_oneOf continuityModes)) hmode
  · exact field_at (reads_listOf reads_referenceItem) hevidence

theorem reads_deliveryGate : Reads deliveryGate IsDeliveryGate := by
  intro value path gate h
  simp only [deliveryGate, Except.bind_eq_ok] at h
  obtain ⟨entries, hobject, _, _, status, hstatus, evidence, hevidence, window, hwindow, found,
    hcontinuity, h⟩ := h
  cases h
  cases object_eq_ok hobject
  constructor
  · exact field_at (reads_oneOf statuses) hstatus
  · exact field_at (reads_gateEvidence _) hevidence
  · exact field_at reads_ciWindow hwindow
  · exact field_at reads_continuity hcontinuity

theorem reads_adopter : Reads adopter IsAdopter := by
  intro value path result h
  simp only [adopter, Except.bind_eq_ok] at h
  obtain ⟨entries, hobject, _, _, name, hname, workflow, hworkflow, outcome, houtcome, day, hday,
    evidence, hevidence, h⟩ := h
  cases h
  cases object_eq_ok hobject
  constructor
  · exact field_at reads_string hname
  · exact field_at reads_string hworkflow
  · exact field_at reads_string houtcome
  · exact field_at reads_date hday
  · exact field_at reads_httpsUrl hevidence

theorem reads_repeatAdopter : Reads repeatAdopter IsRepeatAdopter := by
  intro value path again h
  simp only [repeatAdopter, Except.bind_eq_ok] at h
  obtain ⟨entries, hobject, _, _, name, hname, day, hday, evidence, hevidence, h⟩ := h
  cases h
  cases object_eq_ok hobject
  constructor
  · exact field_at reads_string hname
  · exact field_at reads_date hday
  · exact field_at reads_httpsUrl hevidence

theorem reads_adoptionGate : Reads adoptionGate IsAdoptionGate := by
  intro value path gate h
  simp only [adoptionGate, Except.bind_eq_ok] at h
  obtain ⟨entries, hobject, _, _, status, hstatus, adopters, hadopters, repeats, hrepeats,
    integration, hintegration, contribution, hcontribution, h⟩ := h
  cases h
  cases object_eq_ok hobject
  constructor
  · exact field_at (reads_oneOf statuses) hstatus
  · exact field_at (reads_listOf reads_adopter) hadopters
  · exact field_at (reads_listOf reads_repeatAdopter) hrepeats
  · exact field_at (reads_optional reads_referenceItem) hintegration
  · exact field_at (reads_optional reads_referenceItem) hcontribution

/-- An accepted manifest is what the raw value says under every path. -/
theorem validateStructure_isManifest {value : PyValue} {manifest : Manifest}
    (h : validateStructure value = .ok manifest) : IsManifest manifest value := by
  simp only [validateStructure, Except.bind_eq_ok] at h
  obtain ⟨entries, hobject, _, _, version, hversion, hsame, _, name, hname, hproject, _, target,
    htarget, _, _, asOf, hasOf, gates, hgates, _, _, product, hproduct, correctness, hcorrectness,
    performance, hperformance, delivery, hdelivery, adoption, hadoption, h⟩ := h
  cases h
  cases object_eq_ok hobject
  constructor
  · rw [← hsame.down]
    exact field_at reads_string hversion
  · rw [← hproject.down]
    exact field_at reads_string hname
  · exact field_at reads_string htarget
  · exact field_at reads_date hasOf
  · exact field_object_at hgates (field_at (reads_basicGate _) hproduct)
  · exact field_object_at hgates (field_at reads_correctnessGate hcorrectness)
  · exact field_object_at hgates (field_at (reads_basicGate _) hperformance)
  · exact field_object_at hgates (field_at reads_deliveryGate hdelivery)
  · exact field_object_at hgates (field_at reads_adoptionGate hadoption)

end HopWhy.Release
