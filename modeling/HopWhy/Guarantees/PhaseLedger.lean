import HopWhy.Runs.Orchestration

/-!
# The phase ledger

What a report says about its own phases, whatever the backend did: the names are
a prefix of the eight phases, at most one failed, and the failing phase, the
hypothesis and the ruled-out causes agree with the list.
-/

namespace HopWhy

def canonicalPhases : List PhaseName :=
  [.input, .proxy, .dns, .tcp, .tls, .http, .redirects, .assertions]

/-- The phases whose success rules a cause out, and whose failure ends a run. -/
def stagePhases : List PhaseName := [.dns, .tcp, .tls, .http]

def Stage.phase : Stage → PhaseName
  | .dns => .dns
  | .tcp => .tcp
  | .tls => .tls
  | .http => .http

/-- A phase of the name has the status. -/
def HasStatus (phases : List Phase) (name : PhaseName) (status : PhaseStatus) : Prop :=
  ∃ p ∈ phases, p.name = name ∧ p.status = status

instance (phases : List Phase) (name : PhaseName) (status : PhaseStatus) :
    Decidable (HasStatus phases name status) :=
  inferInstanceAs (Decidable (∃ p ∈ phases, p.name = name ∧ p.status = status))

/-- The stages a run may call, in order. -/
def callableStages (probed : Prop) [Decidable probed] : List Stage :=
  if probed then [.dns, .tcp, .tls, .http] else [.dns, .tcp, .http]

/-- The laws of a report's phases and of the stages called for it. -/
structure PhaseLedger (probed : Prop) [Decidable probed] (report : Report)
    (stages : List Stage) : Prop where
  names : report.phases.map Phase.name <+: canonicalPhases
  failed : ∀ name, report.failedAt = some name ↔ HasStatus report.phases name .failed
  failed_once : (report.phases.filter (·.status = .failed)).length ≤ 1
  stops : ∀ stage : Stage, report.failedAt = some stage.phase →
    (report.phases.map Phase.name).getLast? = some stage.phase ∧ stages.getLast? = some stage
  stages : stages <+: callableStages probed
  success : report.failedAt = none ↔ report.phases.map Phase.name = canonicalPhases ∧
    ∀ name, ¬ HasStatus report.phases name .failed
  reached : report.failedAt = none → ∀ name ∈ [PhaseName.dns, .tcp, .http],
    HasStatus report.phases name .passed
  hypothesis : ∃ h, report.hypotheses = [h] ∧
    (∀ p ∈ report.phases, p.status = .failed →
      p.error.map DiagnosticError.code = some h.code ∧ h.evidencePhases = [p.name]) ∧
    (report.failedAt = none → h.evidencePhases = [.dns, .tcp, .http])
  ruled_out : report.ruledOut = if report.failedAt = none then [] else
    (stagePhases.filter fun name => HasStatus report.phases name .passed).filterMap ruledOutText

/-- The parts of a report that are computed from its phases. -/
structure Scanned (report : Report) : Prop where
  failedAt : report.failedAt = failedAtOf report.phases
  hypotheses : report.hypotheses = hypothesesFor (failedAtOf report.phases) report.phases
  ruledOut : report.ruledOut = ruledOutFor (failedAtOf report.phases) report.phases

/-- Names and statuses, which all laws but that of the hypothesis depend on. -/
abbrev Outline : Type := List (PhaseName × PhaseStatus)

def Phase.outline (p : Phase) : PhaseName × PhaseStatus := (p.name, p.status)

/-- How the TLS phase of a run that goes on may look, with the stage called for it. -/
def tlsOutlines (probed : Bool) : List (PhaseStatus × List Stage) :=
  if probed then [(.passed, [.tls])] else [(.skipped, []), (.notObserved, [])]

/-- The outlines of a run that reaches the HTTP stage over the TLS phase `tls`. -/
def httpOutlines (tls : PhaseStatus × List Stage) : List (Outline × List Stage) :=
  let connected : Outline :=
    [(.input, .passed), (.proxy, .passed), (.dns, .passed), (.tcp, .passed), (.tls, tls.1)]
  let called : List Stage := .dns :: .tcp :: tls.2 ++ [.http]
  let reached (redirects : PhaseStatus) : Outline × List Stage :=
    (connected ++ [(.http, .passed), (.redirects, redirects), (.assertions, .skipped)], called)
  (connected ++ [(.http, .failed)], called) ::
    [PhaseStatus.failed, .passed, .skipped].map reached

/-- Every outline a run can have, with the stages it calls. -/
def outlineTable (probed : Bool) : List (Outline × List Stage) :=
  let early : List (Outline × List Stage) :=
    [([(.input, .passed), (.proxy, .passed), (.dns, .failed)], [.dns]),
      ([(.input, .passed), (.proxy, .passed), (.dns, .passed), (.tcp, .failed)], [.dns, .tcp])]
  let tlsFailed : List (Outline × List Stage) :=
    [([(.input, .passed), (.proxy, .passed), (.dns, .passed), (.tcp, .passed), (.tls, .failed)],
      [.dns, .tcp, .tls])]
  early ++ (if probed then tlsFailed else []) ++ (tlsOutlines probed).flatMap httpOutlines

theorem TlsPassage.outline {probed : Prop} [Decidable probed] {tls : Phase} {called : List Stage}
    (h : TlsPassage probed tls called) :
    tls.name = .tls ∧ (tls.status, called) ∈ tlsOutlines probed := by
  cases h with
  | skipped limitation hprobed => exact ⟨rfl, by simp [tlsOutlines, hprobed, skippedPhase]⟩
  | notObserved limitation hprobed => exact ⟨rfl, by simp [tlsOutlines, hprobed, notObservedPhase]⟩
  | passed ms observations hprobed => exact ⟨rfl, by simp [tlsOutlines, hprobed, passedPhase]⟩

theorem RedirectVerdict.outline {redirects : Phase} (h : RedirectVerdict redirects) :
    redirects.name = .redirects ∧ redirects.status ∈ [PhaseStatus.failed, .passed, .skipped] := by
  cases h with
  | failed ms error => exact ⟨rfl, by simp [failedPhase]⟩
  | passed ms observations => exact ⟨rfl, by simp [passedPhase]⟩
  | skipped limitation => exact ⟨rfl, by simp [skippedPhase]⟩

theorem outline_of_row {probed : Prop} [Decidable probed] {row : List Phase}
    {stages : List Stage} (h : PhaseRow probed row stages) :
    ((.input, .passed) :: (.proxy, .passed) :: row.map Phase.outline, stages) ∈
      outlineTable probed := by
  cases h with
  | dns d error => exact List.mem_append_left _ (List.mem_append_left _ List.mem_cons_self)
  | tcp d₁ d₂ o₁ error =>
    exact List.mem_append_left _ (List.mem_append_left _ (List.mem_cons_of_mem _
      List.mem_cons_self))
  | tls d₁ d₂ d₃ o₁ o₂ error hprobed =>
    refine List.mem_append_left _ (List.mem_append_right _ ?_)
    rw [if_pos (decide_eq_true hprobed)]
    exact List.mem_cons_self
  | http d₁ d₂ d₄ o₁ o₂ passage error =>
    obtain ⟨hname, htls⟩ := passage.outline
    refine List.mem_append_right _ (List.mem_flatMap.mpr ⟨_, htls, ?_⟩)
    unfold httpOutlines
    rw [← hname]
    exact List.mem_cons_self
  | reached d₁ d₂ d₄ o₁ o₂ o₄ passage verdict limitation =>
    obtain ⟨hname, htls⟩ := passage.outline
    obtain ⟨hname', hstatus⟩ := verdict.outline
    refine List.mem_append_right _ (List.mem_flatMap.mpr ⟨_, htls, ?_⟩)
    unfold httpOutlines
    refine List.mem_cons_of_mem _ (List.mem_map.mpr ⟨_, hstatus, ?_⟩)
    rw [← hname, ← hname']
    rfl

/-- The laws of a ledger that depend on the outline only. -/
def OutlineLaws (probed : Bool) (o : Outline) (stages : List Stage) : Prop :=
  let failedAt := (o.find? (·.2 = .failed)).map Prod.fst
  o.map Prod.fst <+: canonicalPhases ∧
  (∀ e ∈ o, e.2 = .failed → failedAt = some e.1) ∧
  (o.filter (·.2 = .failed)).length ≤ 1 ∧
  (∀ stage ∈ [Stage.dns, .tcp, .tls, .http], failedAt = some stage.phase →
    (o.map Prod.fst).getLast? = some stage.phase ∧ stages.getLast? = some stage) ∧
  stages <+: callableStages probed ∧
  (failedAt = none ↔ o.map Prod.fst = canonicalPhases ∧ ∀ e ∈ o, e.2 ≠ .failed) ∧
  (failedAt = none → ∀ name ∈ [PhaseName.dns, .tcp, .http], (name, PhaseStatus.passed) ∈ o) ∧
  (o.filter (·.2 = .passed)).filterMap (fun e => ruledOutText e.1) =
    (stagePhases.filter fun name => (name, PhaseStatus.passed) ∈ o).filterMap ruledOutText

instance (probed : Bool) (o : Outline) (stages : List Stage) :
    Decidable (OutlineLaws probed o stages) := by
  unfold OutlineLaws
  infer_instance

theorem outlineTable_laws : ∀ probed, ∀ e ∈ outlineTable probed, OutlineLaws probed e.1 e.2 := by
  decide +kernel

theorem hasStatus_iff {phases : List Phase} {name : PhaseName} {status : PhaseStatus} :
    HasStatus phases name status ↔ (name, status) ∈ phases.map Phase.outline := by
  rw [HasStatus, List.mem_map]
  constructor
  · rintro ⟨p, hp, rfl, rfl⟩
    exact ⟨p, hp, rfl⟩
  · rintro ⟨p, hp, h⟩
    exact ⟨p, hp, congrArg Prod.fst h, congrArg Prod.snd h⟩

theorem failedAtOf_eq (phases : List Phase) :
    failedAtOf phases = ((phases.map Phase.outline).find? (·.2 = .failed)).map Prod.fst := by
  rw [failedAtOf, List.find?_map, Option.map_map]
  rfl

theorem map_name_eq (phases : List Phase) :
    phases.map Phase.name = (phases.map Phase.outline).map Prod.fst := by
  rw [List.map_map]
  rfl

theorem filterMap_ruledOutText (phases : List Phase) :
    ((phases.filter fun p => p.status = .passed).filterMap fun p => ruledOutText p.name) =
      ((phases.map Phase.outline).filter (·.2 = .passed)).filterMap fun e => ruledOutText e.1 := by
  rw [List.filter_map, List.filterMap_map]
  rfl

theorem length_filter_failed (phases : List Phase) :
    (phases.filter fun p => p.status = .failed).length =
      ((phases.map Phase.outline).filter (·.2 = .failed)).length := by
  rw [List.filter_map, List.length_map]
  rfl

/-- In a list of different names, a phase is found by its name. -/
theorem find?_name_eq {phases : List Phase} (h : (phases.map Phase.name).Nodup) {p : Phase}
    (hp : p ∈ phases) : (phases.find? fun q => q.name = p.name) = some p := by
  induction phases with
  | nil => cases hp
  | cons q qs ih =>
    rw [List.map_cons, List.nodup_cons] at h
    by_cases hname : q.name = p.name
    · rw [List.find?_cons_of_pos (by simpa using hname)]
      rcases List.mem_cons.mp hp with rfl | hp
      · rfl
      · exact absurd (List.mem_map.mpr ⟨p, hp, hname.symm⟩) h.1
    · rw [List.find?_cons_of_neg (by simpa using hname)]
      rcases List.mem_cons.mp hp with rfl | hp
      · exact absurd rfl hname
      · exact ih h.2 hp

/-- A phase has one status. -/
theorem HasStatus.eq {phases : List Phase} (h : (phases.map Phase.name).Nodup) {name : PhaseName}
    {a b : PhaseStatus} (ha : HasStatus phases name a) (hb : HasStatus phases name b) : a = b := by
  obtain ⟨p, hp, hname, rfl⟩ := ha
  obtain ⟨q, hq, rfl, rfl⟩ := hb
  have hfound := find?_name_eq h hp
  rw [hname, find?_name_eq h hq] at hfound
  rw [Option.some.inj hfound]

theorem PhaseRow.error_isSome {probed : Prop} {row : List Phase} {stages : List Stage}
    (h : PhaseRow probed row stages) :
    ∀ p ∈ row, p.status = .failed → ∃ error, p.error = some error := by
  cases h with
  | dns d error => simp [failedPhase]
  | tcp d₁ d₂ o₁ error => simp [failedPhase, passedPhase]
  | tls d₁ d₂ d₃ o₁ o₂ error hprobed => simp [failedPhase, passedPhase]
  | http d₁ d₂ d₄ o₁ o₂ passage error =>
    cases passage <;> simp [failedPhase, passedPhase, skippedPhase, notObservedPhase]
  | reached d₁ d₂ d₄ o₁ o₂ o₄ passage verdict limitation =>
    cases passage <;> cases verdict <;>
      simp [failedPhase, passedPhase, skippedPhase, notObservedPhase]

theorem error_isSome_of_row {probed : Prop} {report : Report} {ms : UInt64}
    {o₁ o₂ : List Observation} {row : List Phase} {stages : List Stage}
    (hrow : PhaseRow probed row stages)
    (hphases : report.phases = passedPhase .input 0 o₁ :: passedPhase .proxy ms o₂ :: row) :
    ∀ p ∈ report.phases, p.status = .failed → ∃ error, p.error = some error := by
  intro p hp hstatus
  rw [hphases] at hp
  rcases List.mem_cons.mp hp with rfl | hp
  · cases hstatus
  rcases List.mem_cons.mp hp with rfl | hp
  · cases hstatus
  · exact hrow.error_isSome p hp hstatus

theorem canonicalPhases_nodup : canonicalPhases.Nodup := by decide

/-- The hypothesis takes the code of the phase that `failedAt` names. -/
theorem hypothesesFor_failed {phases : List Phase} (h : (phases.map Phase.name).Nodup) {p : Phase}
    (hp : p ∈ phases) {error : DiagnosticError} (herror : p.error = some error) :
    ∃ hyp, hypothesesFor (some p.name) phases = [hyp] ∧ hyp.code = error.code ∧
      hyp.evidencePhases = [p.name] := by
  refine ⟨_, rfl, ?_, rfl⟩
  dsimp only
  rw [find?_name_eq h hp, Option.bind_some, herror]
  rfl

/-- The one hypothesis speaks of the failed phase, or of a run without one. -/
theorem Scanned.hypothesis {report : Report} (hscan : Scanned report)
    (hnodup : (report.phases.map Phase.name).Nodup)
    (hfailed : ∀ name, report.failedAt = some name ↔ HasStatus report.phases name .failed)
    (herrors : ∀ p ∈ report.phases, p.status = .failed → ∃ error, p.error = some error) :
    ∃ h, report.hypotheses = [h] ∧
      (∀ p ∈ report.phases, p.status = .failed →
        p.error.map DiagnosticError.code = some h.code ∧ h.evidencePhases = [p.name]) ∧
      (report.failedAt = none → h.evidencePhases = [.dns, .tcp, .http]) := by
  rw [hscan.hypotheses, ← hscan.failedAt]
  rcases hnone : report.failedAt with _ | name
  · refine ⟨requestPathObserved, rfl, fun p hp hstatus => ?_, fun _ => rfl⟩
    have hsome := (hfailed p.name).mpr ⟨p, hp, rfl, hstatus⟩
    rw [hnone] at hsome
    cases hsome
  · obtain ⟨p, hp, rfl, hstatus⟩ := (hfailed name).mp hnone
    obtain ⟨error, herror⟩ := herrors p hp hstatus
    obtain ⟨hyp, hhyp, hcode, hevidence⟩ := hypothesesFor_failed hnodup hp herror
    refine ⟨hyp, hhyp, fun q hq hqstatus => ?_, fun h => by cases h⟩
    have hname : some p.name = some q.name :=
      hnone.symm.trans ((hfailed q.name).mpr ⟨q, hq, rfl, hqstatus⟩)
    -- A phase with the failing name is the failing phase.
    have hsame : p = q := by
      have hfound := find?_name_eq hnodup hq
      rw [← Option.some.inj hname, find?_name_eq hnodup hp] at hfound
      exact Option.some.inj hfound
    rw [← hsame, herror, hevidence, hcode]
    exact ⟨rfl, rfl⟩

theorem phaseLedger_of_row {probed : Prop} [Decidable probed] {report : Report}
    (hscan : Scanned report) {ms : UInt64} {o₁ o₂ : List Observation} {row : List Phase}
    {stages : List Stage} (hrow : PhaseRow probed row stages)
    (hphases : report.phases = passedPhase .input 0 o₁ :: passedPhase .proxy ms o₂ :: row) :
    PhaseLedger probed report stages := by
  have houtline : (report.phases.map Phase.outline, stages) ∈ outlineTable probed := by
    rw [hphases]
    exact outline_of_row hrow
  obtain ⟨hnames, hfailed, honce, hstops, hstages, hsuccess, hreached, hruled⟩ :=
    outlineTable_laws _ _ houtline
  have hat := hscan.failedAt
  rw [failedAtOf_eq] at hat
  rw [← hat] at hfailed hstops hsuccess hreached
  rw [← map_name_eq] at hnames hstops hsuccess
  have hnamed : ∀ name, report.failedAt = some name ↔ HasStatus report.phases name .failed := by
    intro name
    constructor
    · intro hname
      rw [hat, Option.map_eq_some_iff] at hname
      obtain ⟨e, he, rfl⟩ := hname
      have hstatus : e.2 = .failed := by simpa using List.find?_some he
      rw [hasStatus_iff, ← hstatus]
      exact List.mem_of_find?_eq_some he
    · intro hstatus
      exact hfailed _ (hasStatus_iff.mp hstatus) rfl
  refine ⟨hnames, hnamed, ?_, ?_, ?_, ?_, ?_, ?_, ?_⟩
  · rw [length_filter_failed]
    exact honce
  · intro stage
    exact hstops stage (by cases stage <;> simp)
  · simpa using hstages
  · rw [hsuccess]
    refine and_congr_right fun _ => ⟨fun h name hname => h _ (hasStatus_iff.mp hname) rfl, ?_⟩
    rintro h ⟨name, status⟩ he rfl
    exact h name (hasStatus_iff.mpr he)
  · intro h name hname
    exact hasStatus_iff.mpr (hreached h name hname)
  · exact hscan.hypothesis (canonicalPhases_nodup.sublist hnames.sublist) hnamed
      (error_isSome_of_row hrow hphases)
  · rw [hscan.ruledOut, ← hscan.failedAt, ruledOutFor]
    rcases hnone : report.failedAt with _ | name
    · rfl
    · rw [filterMap_ruledOutText, hruled]
      simp only [← hasStatus_iff]
      rfl

instance (parsed : ParsedTarget) (proxy : ResolvedProxy) : Decidable (TlsProbed parsed proxy) :=
  inferInstanceAs (Decidable (_ ∧ _))

theorem scanned_sealReport [Crates] (draft : Draft) (tracker : Tracker) (elapsedMs : UInt64) :
    Scanned (sealReport (unsealedReport draft tracker elapsedMs)) := ⟨rfl, rfl, rfl⟩

/-- The recorded run of an opened inspection keeps the ledger. -/
theorem Opening.phaseLedger [Crates] {σ : Type} [Clock σ] (backend : DiagnosticBackend σ)
    {envVar : String → Option String} {spec : InspectSpec} (o : Opening envVar spec)
    (wallClock : ℤ) (w : σ) :
    PhaseLedger (TlsProbed o.parsed o.proxy)
      (o.outcome (recording backend) wallClock ⟨w, []⟩).1
      (o.outcome (recording backend) wallClock ⟨w, []⟩).2.stages := by
  obtain ⟨row, hphases, hrow⟩ := settle_of_post
    (observeAll_triple backend o.parsed o.proxy (o.draft wallClock (Recorded.mk w []))
      (openingSession spec.options ⟨w, []⟩) rfl)
  exact phaseLedger_of_row (scanned_sealReport _ _ _) hrow hphases

/-- Every report has a ledger; the stages called for it are in the recorded run. -/
theorem Opening.exists_phaseLedger [Crates] {σ : Type} [Clock σ] (backend : DiagnosticBackend σ)
    {envVar : String → Option String} {spec : InspectSpec} (o : Opening envVar spec)
    (wallClock : ℤ) (w : σ) :
    ∃ stages, PhaseLedger (TlsProbed o.parsed o.proxy) (o.outcome backend wallClock w).1 stages :=
  ⟨_, (outcome_recording backend o wallClock w []).1 ▸ o.phaseLedger backend wallClock w⟩

/-- The report of a live run has a ledger. -/
theorem exists_phaseLedger_of_inspect [Crates] {env : Environment} {spec : InspectSpec}
    {report : Report} {w : World env} (h : inspect env spec = (.ok report, w))
    (o : Opening env.envVar spec) :
    ∃ stages, PhaseLedger (TlsProbed o.parsed o.proxy) report stages := by
  obtain ⟨o', ho⟩ := inspectWithBackend_eq_ok (liveBackend env) h
  obtain rfl := o.eq o'
  have hledger := o.exists_phaseLedger (liveBackend env) env.wallClock (World.start env)
  rw [ho] at hledger
  exact hledger

end HopWhy
