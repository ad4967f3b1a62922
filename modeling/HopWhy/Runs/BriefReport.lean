import HopWhy.Runs.Brevity

/-!
# Reports in words of the tool

The phases, the hypothesis and the omissions of a report are written by the tool
itself. Only URLs, header values and addresses come into it from outside.
-/

namespace HopWhy

variable [Crates] {env : Environment}

/-- A phase with at most one limitation, in words of the tool. -/
structure BriefPhase (phase : Phase) : Prop where
  single : phase.limitations.length ≤ 1
  limitations : ∀ limitation ∈ phase.limitations, Brief limitation
  error : ∀ error ∈ phase.error, BriefError error.code error.message

omit [Crates] in
theorem passedPhase_brief (name : PhaseName) (durationMs : UInt64)
    (observations : List Observation) : BriefPhase (passedPhase name durationMs observations) :=
  ⟨Nat.zero_le 1, nofun, nofun⟩

omit [Crates] in
theorem failedPhase_brief (name : PhaseName) (durationMs : UInt64) {error : AppError}
    (h : BriefError error.code error.message) : BriefPhase (failedPhase name durationMs error) :=
  ⟨Nat.zero_le 1, nofun, fun _ herror => Option.mem_some.mp herror ▸ h⟩

omit [Crates] in
theorem skippedPhase_brief (name : PhaseName) {limitation : String} (h : Brief limitation) :
    BriefPhase (skippedPhase name limitation) :=
  ⟨le_refl 1, fun _ hlimitation => List.mem_singleton.mp hlimitation ▸ h, nofun⟩

omit [Crates] in
theorem notObservedPhase_brief (name : PhaseName) {limitation : String} (h : Brief limitation) :
    BriefPhase (notObservedPhase name limitation) :=
  ⟨le_refl 1, fun _ hlimitation => List.mem_singleton.mp hlimitation ▸ h, nofun⟩

omit [Crates] in
theorem redirectPhase_brief (hops : List HttpHop) {failure : Option AppError}
    (h : ∀ error ∈ failure, BriefError error.code error.message) :
    BriefPhase (redirectPhase hops failure) := by
  unfold redirectPhase
  rcases failure with _ | error
  · dsimp only
    split_ifs
    · exact passedPhase_brief _ _ _
    · exact skippedPhase_brief _ (by decide)
  · exact failedPhase_brief _ _ (h error rfl)

/-- A draft of a run: the parts that stages add, with so many omissions at most. -/
structure BriefDraft (env : Environment) (count : ℕ) (draft : Draft) : Prop where
  phases : ∀ phase ∈ draft.phases, BriefPhase phase
  tls : ∀ summary ∈ draft.tls, Negotiated env summary
  http : ∀ hop ∈ draft.http, AnsweredHop draft.options hop
  omissions_length : draft.omissions.length ≤ count
  omissions : ∀ omission ∈ draft.omissions, Brief omission

namespace BriefDraft

variable {count : ℕ} {draft : Draft}

theorem mono {more : ℕ} (h : BriefDraft env count draft) (hle : count ≤ more) :
    BriefDraft env more draft :=
  ⟨h.phases, h.tls, h.http, h.omissions_length.trans hle, h.omissions⟩

theorem phases_append (h : BriefDraft env count draft) {more : List Phase}
    (hmore : ∀ phase ∈ more, BriefPhase phase) :
    ∀ phase ∈ draft.phases ++ more, BriefPhase phase :=
  List.forall_mem_append.mpr ⟨h.phases, hmore⟩

theorem record (h : BriefDraft env count draft) {phase : Phase} (hphase : BriefPhase phase) :
    BriefDraft env count (draft.record phase) where
  phases := h.phases_append fun _ hmem => List.mem_singleton.mp hmem ▸ hphase
  tls := h.tls
  http := h.http
  omissions_length := h.omissions_length
  omissions := h.omissions

theorem resolved (h : BriefDraft env count draft) (addresses : List AddressObservation) :
    BriefDraft env count { draft with addresses } :=
  ⟨h.phases, h.tls, h.http, h.omissions_length, h.omissions⟩

theorem secured (h : BriefDraft env count draft) {summary : TlsSummary}
    (hsummary : Negotiated env summary) : BriefDraft env count { draft with tls := some summary } :=
  ⟨h.phases, fun _ hsome => Option.mem_some.mp hsome ▸ hsummary, h.http, h.omissions_length,
    h.omissions⟩

theorem answered (h : BriefDraft env count draft) {hops : List HttpHop}
    (hhops : ∀ hop ∈ hops, AnsweredHop draft.options hop) :
    BriefDraft env count { draft with http := hops } :=
  ⟨h.phases, h.tls, hhops, h.omissions_length, h.omissions⟩

theorem omitted (h : BriefDraft env count draft) {omission : String} (homission : Brief omission) :
    BriefDraft env (count + 1) { draft with omissions := draft.omissions ++ [omission] } where
  phases := h.phases
  tls := h.tls
  http := h.http
  omissions_length := by
    have := h.omissions_length
    simp only [List.length_append, List.length_singleton]
    omega
  omissions := List.forall_mem_append.mpr
    ⟨h.omissions, fun _ hmem => List.mem_singleton.mp hmem ▸ homission⟩

end BriefDraft

/-- The stage leaves brief records and a brief draft when it goes on and when it stops. -/
abbrev Briefs {α : Type} (count : ℕ) (m : Observe (World env) α) (result : α → Draft) : Prop :=
  Prog.Triple BriefProbes m (fun a t => BriefDraft env count (result a) ∧ BriefProbes t)
    (fun d t => BriefDraft env count d ∧ BriefProbes t)

section

variable {count : ℕ} {draft : Draft} (hdraft : BriefDraft env count draft)

include hdraft

theorem observeDns_brief (proxy : ResolvedProxy) :
    Briefs count (observeDns (liveBackend env) proxy draft) Prod.fst := by
  intro s hs
  have hstage := Modest.resolveAddresses proxy draft.options s.tick hs
  unfold observeDns
  rw [instant_bind, Prog.bind_apply, Prog.attempt_apply]
  change Prog.Post _ _ ((liveBackend env).resolveAddresses proxy draft.options s.tick) at hstage
  rcases hr : (liveBackend env).resolveAddresses proxy draft.options s.tick with
    ⟨error | ⟨all, permitted⟩, t⟩
  · rw [hr] at hstage
    exact ⟨hdraft.record (failedPhase_brief _ _ hstage.1), hstage.2⟩
  · rw [hr] at hstage
    dsimp only
    split_ifs
    · exact ⟨(hdraft.resolved _).record (failedPhase_brief _ _ (by decide)), hstage.2⟩
    · exact ⟨(hdraft.resolved _).record (passedPhase_brief _ _ _), hstage.2⟩

theorem observeTcp_brief (permitted : List SocketAddr) :
    Briefs count (observeTcp (liveBackend env) permitted draft) Prod.fst := by
  intro s hs
  have hstage := Modest.connectFirst permitted draft.options s.tick hs
  unfold observeTcp
  rw [instant_bind, Prog.bind_apply, Prog.attempt_apply]
  change Prog.Post _ _ ((liveBackend env).connectFirst permitted draft.options s.tick) at hstage
  rcases hr : (liveBackend env).connectFirst permitted draft.options s.tick with
    ⟨error | address, t⟩
  · rw [hr] at hstage
    exact ⟨hdraft.record (failedPhase_brief _ _ hstage.1), hstage.2⟩
  · rw [hr] at hstage
    exact ⟨hdraft.record (passedPhase_brief _ _ _), hstage.2⟩

theorem observeTls_brief (parsed : ParsedTarget) (proxy : ResolvedProxy) (address : SocketAddr) :
    Briefs (count + 1) (observeTls (liveBackend env) parsed proxy address draft) id := by
  intro s hs
  have hdraft' := hdraft.mono (Nat.le_succ count)
  have hstage := Modest.probeTls address parsed.summary.host draft.options.showAddresses s.tick hs
  unfold observeTls
  rw [instant_bind, Prog.ite_apply]
  split_ifs
  · exact ⟨hdraft'.record (skippedPhase_brief _ (by decide)), hs⟩
  · exact ⟨(hdraft.record (notObservedPhase_brief _ (by decide +kernel))).omitted
      (by decide), hs⟩
  · rw [Prog.bind_apply, Prog.attempt_apply]
    change Prog.Post _ _ ((liveBackend env).probeTls address parsed.summary.host
      draft.options.showAddresses s.tick) at hstage
    rcases hr : (liveBackend env).probeTls address parsed.summary.host draft.options.showAddresses
      s.tick with ⟨error | summary, t⟩
    · rw [hr] at hstage
      exact ⟨hdraft'.record (failedPhase_brief _ _ hstage.1), hstage.2⟩
    · rw [hr] at hstage
      exact ⟨(hdraft'.record (passedPhase_brief _ _ _)).secured hstage.1, hstage.2⟩

theorem observeHttp_brief (parsed : ParsedTarget) (proxy : ResolvedProxy) (address : SocketAddr) :
    Briefs count (observeHttp (liveBackend env) parsed proxy address draft) id := by
  intro s hs
  have hstage := runHttp_modest parsed.url proxy address draft.options s.tick hs
  unfold observeHttp
  rw [instant_bind, Prog.bind_apply, Prog.attempt_apply]
  change Prog.Post _ _ ((liveBackend env).runHttp parsed.url proxy address draft.options
    s.tick) at hstage
  rcases hr : (liveBackend env).runHttp parsed.url proxy address draft.options s.tick with
    ⟨error | ⟨hops, failure⟩, t⟩
  · rw [hr] at hstage
    exact ⟨hdraft.record (failedPhase_brief _ _ hstage.1), hstage.2⟩
  · rw [hr] at hstage
    exact ⟨(((hdraft.record (passedPhase_brief _ _ _)).record
      (redirectPhase_brief hops hstage.1.failure)).record
        (skippedPhase_brief _ (by decide))).answered hstage.1.hops, hstage.2⟩

theorem observeAll_brief (parsed : ParsedTarget) (proxy : ResolvedProxy) :
    Briefs (count + 1) (observeAll (liveBackend env) parsed proxy draft) id := by
  have hmore : ∀ d, BriefDraft env count d → BriefDraft env (count + 1) d :=
    fun _ hd => hd.mono (Nat.le_succ count)
  apply Prog.Triple.bind ((observeDns_brief hdraft proxy).conseq (fun _ hs => hs)
    (fun _ _ hd => hd) fun d _ hd => ⟨hmore d hd.1, hd.2⟩)
  rintro ⟨d₁, permitted⟩ s ⟨hd₁, hs⟩
  refine Prog.Triple.bind ((observeTcp_brief hd₁ permitted).conseq (fun _ hs => hs)
    (fun _ _ hd => hd) fun d _ hd => ⟨hmore d hd.1, hd.2⟩) ?_ s hs
  rintro ⟨d₂, address⟩ s ⟨hd₂, hs⟩
  refine Prog.Triple.bind (observeTls_brief hd₂ parsed proxy address) ?_ s hs
  rintro d₃ s ⟨hd₃, hs⟩
  exact observeHttp_brief hd₃ parsed proxy address s hs

end

/-- What the stages of a run leave for its report. -/
theorem Opening.brief {spec : InspectSpec} (o : Opening env.envVar spec) :
    BriefDraft env 3
        (settle (o.stages (liveBackend env) env.wallClock (World.start env)).1) ∧
      BriefProbes (o.stages (liveBackend env) env.wallClock (World.start env)).2 := by
  have hopened : BriefDraft env 2 (o.draft env.wallClock (World.start env)) := by
    refine ⟨?_, nofun, nofun, le_refl 2, ?_⟩
    · intro phase hphase
      rcases List.mem_pair.mp hphase with rfl | rfl
      · exact passedPhase_brief _ _ _
      · exact passedPhase_brief _ _ _
    · exact (by decide : ∀ omission ∈ initialOmissions, Brief omission)
  have hrun := observeAll_brief hopened o.parsed o.proxy
    (openingSession spec.options (World.start env)) nofun
  rw [Opening.stages]
  generalize observeAll (liveBackend env) o.parsed o.proxy _ _ = run at hrun ⊢
  rcases run with ⟨d | d, t⟩
  · exact hrun
  · exact hrun

omit [Crates] in
/-- A hypothesis in words of the tool. -/
structure BriefHypothesis (hypothesis : Hypothesis) : Prop where
  code : Brief hypothesis.code
  statement : Brief hypothesis.statement
  phases : hypothesis.evidencePhases.length ≤ 3
  nextSafeStep : Brief hypothesis.nextSafeStep

omit [Crates] in
theorem diagnosisOf_brief (name : PhaseName) :
    Brief (diagnosisOf name).1 ∧ Brief (diagnosisOf name).2.2 := by
  cases name <;> decide

omit [Crates] in
theorem brief_getD {text : Option String} {default : String} (h : Brief default)
    (htext : ∀ s ∈ text, Brief s) : Brief (text.getD default) := by
  rcases text with _ | s
  · exact h
  · exact htext s rfl

omit [Crates] in
theorem hypothesesFor_brief {phases : List Phase} (h : ∀ phase ∈ phases, BriefPhase phase)
    (failedAt : Option PhaseName) :
    ∃ hypothesis, hypothesesFor failedAt phases = [hypothesis] ∧ BriefHypothesis hypothesis := by
  rcases failedAt with _ | name
  · exact ⟨_, rfl, by decide, by decide, le_refl 3, by decide⟩
  · refine ⟨_, rfl, ?_, (diagnosisOf_brief name).1, Nat.le_add_left 1 2,
      (diagnosisOf_brief name).2⟩
    apply brief_getD (by decide : Brief "phase_failed")
    intro code hcode
    obtain ⟨error, herror, rfl⟩ := Option.map_eq_some_iff.mp hcode
    obtain ⟨phase, hphase, hfailed⟩ := Option.bind_eq_some_iff.mp herror
    exact ((h phase (List.mem_of_find?_eq_some hphase)).error error hfailed).named

omit [Crates] in
theorem ruledOutFor_brief (failedAt : Option PhaseName) (phases : List Phase) :
    (ruledOutFor failedAt phases).length ≤ phases.length ∧
      ∀ cause ∈ ruledOutFor failedAt phases, Brief cause := by
  unfold ruledOutFor
  split_ifs
  · exact ⟨Nat.zero_le _, nofun⟩
  · constructor
    · exact (List.length_filterMap_le _ _).trans (List.length_filter_le _ _)
    · intro cause hcause
      obtain ⟨phase, -, htext⟩ := List.mem_filterMap.mp hcause
      have hbrief : ∀ name, ∀ text ∈ ruledOutText name, Brief text := by
        intro name
        cases name <;> decide
      exact hbrief phase.name cause htext

/-- A report of which only URLs, header values and addresses are from outside. -/
structure BriefReport (env : Environment) (report : Report) : Prop where
  schemaVersion : Brief report.schemaVersion
  toolVersion : Brief report.toolVersion
  probes : ∀ record ∈ report.probes, Brief record.outcome
  proxy : BriefProxy report.proxy
  phases : ∀ phase ∈ report.phases, BriefPhase phase
  tls : ∀ summary ∈ report.tls, Negotiated env summary
  http : ∀ hop ∈ report.http, ∃ options, AnsweredHop options hop
  hypotheses : ∃ hypothesis, report.hypotheses = [hypothesis] ∧ BriefHypothesis hypothesis
  ruledOut_length : report.ruledOut.length ≤ report.phases.length
  ruledOut : ∀ cause ∈ report.ruledOut, Brief cause
  omissions_length : report.omissions.length ≤ 3
  omissions : ∀ omission ∈ report.omissions, Brief omission
  sealed : ∀ digest ∈ report.reportSha256, ∃ bytes, digest = sha256Hex bytes

theorem finalized_brief {run : Except Draft Draft × Session (World env)}
    (hdraft : BriefDraft env 3 (settle run.1)) (hprobes : BriefProbes run.2)
    (hproxy : BriefProxy (finalized run).1.proxy) : BriefReport env (finalized run).1 where
  schemaVersion := (by decide : Brief reportSchemaVersion)
  toolVersion := (by decide : Brief toolVersion)
  probes := hprobes
  proxy := hproxy
  phases := hdraft.phases
  tls := hdraft.tls
  http hop hhop := ⟨_, hdraft.http hop hhop⟩
  hypotheses := hypothesesFor_brief hdraft.phases _
  ruledOut_length := (ruledOutFor_brief _ _).1
  ruledOut := (ruledOutFor_brief _ _).2
  omissions_length := hdraft.omissions_length
  omissions := hdraft.omissions
  sealed _ hdigest := ⟨_, (Option.mem_some.mp hdigest).symm⟩

theorem brief_of_inspect {spec : InspectSpec} {report : Report} {w : World env}
    (h : inspect env spec = (.ok report, w)) : BriefReport env report := by
  obtain ⟨o, ho⟩ := inspectWithBackend_eq_ok (liveBackend env) h
  obtain ⟨-, hproxy, -⟩ := o.outcome_frame (liveBackend env) env.wallClock (World.start env)
  obtain ⟨hdraft, hprobes⟩ := o.brief
  have hbrief := resolveProxy_briefProxy o.selects
  rw [← hproxy, Opening.outcome] at hbrief
  obtain rfl :
      (finalized (o.stages (liveBackend env) env.wallClock (World.start env))).1 = report :=
    congrArg Prod.fst ho
  exact finalized_brief hdraft hprobes hbrief

end HopWhy
