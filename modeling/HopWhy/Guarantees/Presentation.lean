import HopWhy.Runs.Views

/-!
# What the presentation options change

Showing addresses, query values or the body sample is a matter of the report's
text: two inspections that differ in these options only have the same history of
clock readings and network calls, and their reports agree in every verdict.
-/

namespace HopWhy

theorem Draft.exists_view {draft draft' : Draft} (h : draft.masked = draft'.masked) :
    ∃ view, draft'.options = draft.options.under view := by
  have hblind : draft.options.under .blind = draft'.options.under .blind :=
    (congrArg Draft.options h :)
  refine ⟨⟨draft'.options.showAddresses, draft'.options.showQueryValues,
    draft'.options.includeBodySample⟩, ?_⟩
  have hagain := congrArg (InspectionOptions.under · ⟨draft'.options.showAddresses,
    draft'.options.showQueryValues, draft'.options.includeBodySample⟩) hblind
  exact hagain.symm

theorem Draft.masked_record {draft draft' : Draft} {phase phase' : Phase}
    (h : draft.masked = draft'.masked) (hphase : phase.masked = phase'.masked) :
    (draft.record phase).masked = (draft'.record phase').masked := by
  simp only [Draft.masked, Draft.mk.injEq] at h
  simp [Draft.masked, Draft.record, h, hphase]

section

variable {env : Environment}

/-- Two stages that leave drafts without a difference but the shown texts. -/
abbrev UnveiledStage (env : Environment) {α : Type} (A : α → α → Prop)
    (m m' : Prog (Session (World env)) Draft α) : Prop :=
  Prog.Matched Veiled (fun d d' => d.masked = d'.masked) A m m'

theorem instant_stage : UnveiledStage env Eq instant instant :=
  instant_unveiled.matched fun _ => rfl

theorem elapsedMs_stage (started : ℕ) :
    UnveiledStage env Eq (elapsedMs started) (elapsedMs started) :=
  (elapsedMs_unveiled started).matched fun _ => rfl

variable {draft draft' : Draft}

theorem stopWith_stage {α : Type} {A : α → α → Prop} (h : draft.masked = draft'.masked)
    (name : PhaseName) (started : ℕ) (error : AppError) :
    UnveiledStage env A (stopWith draft name started error)
      (stopWith draft' name started error) := by
  apply (elapsedMs_stage started).bind
  rintro durationMs _ rfl
  exact Prog.Matched.fail (Draft.masked_record h rfl)

variable [Crates]

theorem observeDns_stage (proxy : ResolvedProxy) (h : draft.masked = draft'.masked) :
    UnveiledStage env (fun a a' => a.1.masked = a'.1.masked ∧ a.2 = a'.2)
      (observeDns (liveBackend env) proxy draft) (observeDns (liveBackend env) proxy draft') := by
  obtain ⟨view, hview⟩ := Draft.exists_view h
  have hbackend := resolveAddresses_unveiled env proxy draft.options view
  rw [← hview] at hbackend
  apply instant_stage.bind
  rintro started _ rfl
  apply hbackend.bindMatched
  · rintro ⟨all, permitted⟩ _ rfl
    have hlisted : ({ draft with addresses := all.map (observeAddress draft.options) }).masked =
        { draft' with addresses := all.map (observeAddress draft'.options) }.masked := by
      simp only [Draft.masked, Draft.mk.injEq] at h
      rw [hview] at h ⊢
      simp [Draft.masked, h, Function.comp_def]
      intro address _
      rfl
    dsimp only
    split_ifs
    · exact stopWith_stage hlisted _ _ _
    · apply (elapsedMs_stage started).bind
      rintro durationMs _ rfl
      exact Prog.Matched.pure ⟨Draft.masked_record hlisted rfl, rfl⟩
  · intro error
    exact stopWith_stage h _ _ _

theorem observeTcp_stage (permitted : List SocketAddr) (h : draft.masked = draft'.masked) :
    UnveiledStage env (fun a a' => a.1.masked = a'.1.masked ∧ a.2 = a'.2)
      (observeTcp (liveBackend env) permitted draft)
      (observeTcp (liveBackend env) permitted draft') := by
  obtain ⟨view, hview⟩ := Draft.exists_view h
  have hbackend := connectFirst_unveiled env permitted draft.options view
  rw [← hview] at hbackend
  apply instant_stage.bind
  rintro started _ rfl
  apply hbackend.bindMatched
  · rintro address _ rfl
    apply (elapsedMs_stage started).bind
    rintro durationMs _ rfl
    exact Prog.Matched.pure ⟨Draft.masked_record h rfl, rfl⟩
  · intro error
    exact stopWith_stage h _ _ _

theorem observeTls_stage {parsed parsed' : ParsedTarget} (hurl : parsed.url = parsed'.url)
    (hsummary : parsed.summary.masked = parsed'.summary.masked) (proxy : ResolvedProxy)
    (address : SocketAddr) (h : draft.masked = draft'.masked) :
    UnveiledStage env (fun d d' => d.masked = d'.masked)
      (observeTls (liveBackend env) parsed proxy address draft)
      (observeTls (liveBackend env) parsed' proxy address draft') := by
  have hhost : parsed.summary.host = parsed'.summary.host :=
    (congrArg TargetSummary.host hsummary :)
  unfold observeTls
  rw [hurl, hhost]
  apply instant_stage.bind
  rintro started _ rfl
  split_ifs
  · exact Prog.Matched.pure (Draft.masked_record h rfl)
  · apply Prog.Matched.pure
    simp only [Draft.masked, Draft.mk.injEq] at h
    simp [Draft.masked, Draft.record, h]
  · apply (probeTls_unveiled address parsed'.summary.host _ _).bindMatched
    · rintro summary _ rfl
      apply (elapsedMs_stage started).bind
      rintro durationMs _ rfl
      apply Prog.Matched.pure
      simp only [Draft.masked, Draft.mk.injEq] at h
      simp [Draft.masked, Draft.record, h]
    · intro error
      exact stopWith_stage h _ _ _

theorem observeHttp_stage {parsed parsed' : ParsedTarget} (hurl : parsed.url = parsed'.url)
    (proxy : ResolvedProxy) (address : SocketAddr) (h : draft.masked = draft'.masked) :
    UnveiledStage env (fun d d' => d.masked = d'.masked)
      (observeHttp (liveBackend env) parsed proxy address draft)
      (observeHttp (liveBackend env) parsed' proxy address draft') := by
  obtain ⟨view, hview⟩ := Draft.exists_view h
  have hbackend := runHttp_unveiled env parsed'.url proxy address draft.options view
  rw [← hview] at hbackend
  unfold observeHttp
  rw [hurl]
  apply instant_stage.bind
  rintro started _ rfl
  apply hbackend.bindMatched
  · rintro ⟨hops, failure⟩ ⟨hops', failure'⟩ hresult
    simp only [maskedResult, Prod.mk.injEq] at hresult
    obtain ⟨hhops, rfl⟩ := hresult
    apply (elapsedMs_stage started).bind
    rintro durationMs _ rfl
    apply Prog.Matched.pure
    have hstatuses : (hops.map fun hop => Json.num (.posInt hop.status.toUInt64)) =
        hops'.map fun hop => Json.num (.posInt hop.status.toUInt64) := by
      have hsame := congrArg (List.map fun hop => Json.num (.posInt hop.status.toUInt64)) hhops
      rwa [List.map_map, List.map_map] at hsame
    have hlength : hops.length = hops'.length := by simpa using congrArg List.length hhops
    have hredirect : redirectPhase hops failure = redirectPhase hops' failure := by
      unfold redirectPhase
      rw [hlength]
    simp only [Draft.masked, Draft.mk.injEq] at h
    simp [Draft.masked, Draft.record, h, hstatuses, hredirect, hhops]
  · intro error
    exact stopWith_stage h _ _ _

/-- The stages leave the same draft but for the shown texts. -/
theorem observeAll_stage {parsed parsed' : ParsedTarget} (hurl : parsed.url = parsed'.url)
    (hsummary : parsed.summary.masked = parsed'.summary.masked) (proxy : ResolvedProxy)
    (h : draft.masked = draft'.masked) :
    UnveiledStage env (fun d d' => d.masked = d'.masked)
      (observeAll (liveBackend env) parsed proxy draft)
      (observeAll (liveBackend env) parsed' proxy draft') := by
  apply (observeDns_stage proxy h).bind
  rintro ⟨d₁, permitted⟩ ⟨d₁', permitted'⟩ ⟨h₁, hpermitted⟩
  obtain rfl : permitted = permitted' := hpermitted
  apply (observeTcp_stage permitted h₁).bind
  rintro ⟨d₂, address⟩ ⟨d₂', address'⟩ ⟨h₂, haddress⟩
  obtain rfl : address = address' := haddress
  apply (observeTls_stage hurl hsummary proxy address h₂).bind
  intro d₃ d₃' h₃
  exact observeHttp_stage hurl proxy address h₃

end

theorem failedAtOf_masked (phases : List Phase) :
    failedAtOf (phases.map Phase.masked) = failedAtOf phases := by
  unfold failedAtOf
  rw [List.find?_map, Option.map_map]
  rfl

theorem hypothesesFor_masked (failedAt : Option PhaseName) (phases : List Phase) :
    hypothesesFor failedAt (phases.map Phase.masked) = hypothesesFor failedAt phases := by
  unfold hypothesesFor
  rcases failedAt with _ | name
  · rfl
  · have hfound : ((phases.map Phase.masked).find? fun phase => phase.name = name).bind
        Phase.error = (phases.find? fun phase => phase.name = name).bind Phase.error := by
      rw [List.find?_map, Option.bind_map]
      rfl
    dsimp only
    rw [hfound]

theorem ruledOutFor_masked (failedAt : Option PhaseName) (phases : List Phase) :
    ruledOutFor failedAt (phases.map Phase.masked) = ruledOutFor failedAt phases := by
  unfold ruledOutFor
  rw [List.filter_map, List.filterMap_map]
  rfl

/-- The verdicts come from what the masks leave. -/
theorem unsealedReport_masked [Crates] (draft : Draft) (tracker : Tracker) (elapsed : UInt64) :
    (unsealedReport draft tracker elapsed).masked =
      unsealedReport draft.masked tracker.masked elapsed := by
  unfold unsealedReport Report.masked
  simp only [Draft.masked, Tracker.masked, failedAtOf_masked, hypothesesFor_masked,
    ruledOutFor_masked, List.length_map]
  rfl

variable [Crates] {env : Environment}

theorem finalizeReport_unveiled {draft draft' : Draft} (h : draft.masked = draft'.masked) :
    Unveiled env (fun r r' => r.masked = r'.masked)
      (finalizeReport draft : Prog (Session (World env)) AppError Report)
      (finalizeReport draft') := by
  apply state_unveiled.bind
  intro s s' hs
  have hstarted : s.tracker.started = s'.tracker.started := (congrArg Tracker.started hs.tracker :)
  rw [hstarted]
  apply (elapsedMs_unveiled _).bindEq
  intro elapsed
  apply Prog.Coupled.pure
  change (unsealedReport draft s.tracker elapsed).masked =
    (unsealedReport draft' s'.tracker elapsed).masked
  rw [unsealedReport_masked, unsealedReport_masked, h, hs.tracker]

omit [Crates] in
theorem settle_masked {r r' : Except Draft Draft}
    (h : r.Either (fun d d' => d.masked = d'.masked) (fun d d' => d.masked = d'.masked) r') :
    (settle r).masked = (settle r').masked := by
  rcases r with d | d <;> rcases r' with d' | d'
  · exact h
  · cases h
  · cases h
  · exact h

omit [Crates] in
theorem map_masked_of_alike {r r' : AppResult Report}
    (h : r.Alike (fun report report' => report.masked = report'.masked) r') :
    r.map Report.masked = r'.map Report.masked := by
  rcases r with error | report <;> rcases r' with error' | report'
  · exact congrArg Except.error h
  · cases h
  · cases h
  · exact congrArg Except.ok h

theorem inspectSession_unveiled (options : InspectionOptions) (view : View)
    {parsed parsed' : ParsedTarget} (hurl : parsed.url = parsed'.url)
    (hsummary : parsed.summary.masked = parsed'.summary.masked) :
    Unveiled env (fun r r' => r.masked = r'.masked)
      (inspectSession (liveBackend env) env.envVar env.wallClock options parsed)
      (inspectSession (liveBackend env) env.envVar env.wallClock (options.under view) parsed') := by
  have hproxy : (resolveProxy env.envVar parsed.url options).Alike Eq
      (resolveProxy env.envVar parsed'.url (options.under view)) := by
    rw [hurl]
    change (resolveProxy env.envVar parsed'.url options).Alike Eq
      (resolveProxy env.envVar parsed'.url options)
    rcases resolveProxy env.envVar parsed'.url options with error | proxy
    · rfl
    · rfl
  apply instant_unveiled.bindEq
  intro started
  apply (Prog.Coupled.ofExcept hproxy).bindEq
  intro proxy
  apply (elapsedMs_unveiled started).bindEq
  intro proxyMs
  have hdraft : (openingDraft options env.wallClock parsed proxy proxyMs).masked =
      (openingDraft (options.under view) env.wallClock parsed' proxy proxyMs).masked := by
    unfold openingDraft Draft.masked
    simp only [hsummary]
    rfl
  apply (observeAll_stage hurl hsummary proxy hdraft).attempt.bind
  intro observed observed' hobserved
  exact finalizeReport_unveiled (settle_masked hobserved)

/-- Two runs with one history, and with reports or errors that differ in the shown texts only. -/
structure SameWork (run run' : AppResult Report × World env) : Prop where
  interactions : run.2.interactions = run'.2.interactions
  report : run.1.map Report.masked = run'.1.map Report.masked

/-- The presentation options change nothing that a run does or concludes. -/
theorem inspect_sameWork (env : Environment) (target : String) (options : InspectionOptions)
    (view : View) : SameWork (inspect env ⟨target, options⟩)
      (inspect env ⟨target, options.under view⟩) := by
  unfold inspect inspectWithBackend
  have hvalid : validateOptions (options.under view) = validateOptions options := rfl
  have hparsed := parseTarget_unveiled target options view
  rw [hvalid]
  rcases validateOptions options with error | _
  · exact ⟨rfl, rfl⟩
  · rcases hleft : parseTarget target options with error | parsed <;>
      rcases hright : parseTarget target (options.under view) with error' | parsed' <;>
      rw [hleft, hright] at hparsed
    · cases hparsed
      exact ⟨rfl, rfl⟩
    · cases hparsed
    · cases hparsed
    · obtain ⟨hreport, hsession⟩ :=
        inspectSession_unveiled options view hparsed.1 hparsed.2 _ _ ⟨rfl, rfl⟩
      exact ⟨hsession.interactions, map_masked_of_alike hreport⟩

end HopWhy
