import HopWhy.Guarantees.RequestedRedirects

/-!
# The diagnosis of a failed redirect

The hypothesis for a redirect failure is chosen by the name of the phase alone.
It is certain of a violation of policy or budget even where the chain stopped at
a reference that is no URL or at an endpoint that nobody could look up.
-/

namespace HopWhy

def redirectViolationText : String :=
  "An HTTP response was received, but the redirect chain violated policy or budget."

/-- The report is certain that the redirect chain violated policy or budget. -/
def BlamesPolicy (report : Report) : Prop :=
  ∃ h ∈ report.hypotheses, h.statement = redirectViolationText ∧ h.confidence = confidence100

def AppError.OfPolicyOrBudget (error : AppError) : Prop :=
  error.cls = .policy ∨ error.cls = .budget

section

variable [Crates] {env : Environment} {options : InspectionOptions}

/-- A redirect to the URL has no endpoint, but for no reason of policy or budget. -/
inductive Unreachable (env : Environment) (options : InspectionOptions) (url : Url)
    (s : Session (World env)) : Prop
  | malformed (error : AppError) (rejects : parseTarget url.asStr options = .error error)
      (usage : error.cls = .usage)
  | unresolved (parsed : ParsedTarget) (proxy : ResolvedProxy)
      (accepts : parseTarget url.asStr options = .ok parsed)
      (selects : resolveProxy env.envVar parsed.url options = .ok proxy) (openable : Openable s)
      (unanswered : ∀ answer, answerTo env (destinationOf proxy) (s.world.step + 3) = some answer →
        answer = [])

theorem parseTarget_error_cls {raw : String} {error : AppError}
    (h : parseTarget raw options = .error error) : error.cls = .policy ∨ error.cls = .usage := by
  unfold parseTarget acceptTarget at h
  dsimp only at h
  repeat' split at h
  all_goals cases h
  all_goals simp [invalidTarget, unsupportedScheme, missingTargetHost, embeddedCredentialsDenied,
    missingTargetPort, AppError.new]

theorem authorizeRedirect_rejected {url : Url} {error : AppError}
    (h : parseTarget url.asStr options = .error error) (s : Session (World env)) :
    authorizeRedirect url options s = (.error error, s) := by
  simp only [authorizeRedirect, h, Prog.bind_apply, Prog.ofExcept_apply]

/-- An endpoint that can be looked up is refused by the policy or the budget only. -/
theorem ofPolicyOrBudget_of_refused {url : Url} {s : Session (World env)} {error : AppError}
    (hreachable : ¬ Unreachable env options url s)
    (h : (authorizeRedirect url options s).1 = .error error) : error.OfPolicyOrBudget := by
  rcases hparsed : parseTarget url.asStr options with e | parsed
  · rw [authorizeRedirect_rejected hparsed] at h
    cases h
    apply Or.inl
    apply (parseTarget_error_cls hparsed).resolve_right
    intro husage
    exact hreachable (.malformed _ hparsed husage)
  rcases hproxy : resolveProxy env.envVar parsed.url options with e | proxy
  · simp only [authorizeRedirect, hparsed, hproxy, Prog.bind_apply, Prog.ofExcept_apply] at h
    cases h
    exact Or.inl (resolveProxy_error hproxy)
  rw [authorizeRedirect_apply hparsed hproxy] at h
  by_cases hopen : Openable s
  · rw [resolveAddresses_answered proxy options hopen] at h
    have hanswered : ∃ answer, answerTo env (destinationOf proxy) (s.world.step + 3) =
        some answer ∧ answer ≠ [] := by
      by_contra hnone
      push Not at hnone
      exact hreachable (.unresolved parsed proxy hparsed hproxy hopen hnone)
    obtain ⟨answer, hanswer, hsome⟩ := hanswered
    rw [hanswer, resolutionOf, if_neg (mt arrange_eq_nil.mp hsome), endpointOf] at h
    split at h
    · cases h
    · cases h
      exact Or.inl rfl
  · rw [resolveAddresses_closed proxy options hopen] at h
    cases h
    exact Or.inr rfl

theorem Unreachable.exists_refused {url : Url} {s : Session (World env)}
    (h : Unreachable env options url s) :
    ∃ error, (authorizeRedirect url options s).1 = .error error ∧ ¬ error.OfPolicyOrBudget := by
  cases h with
  | malformed error rejects usage =>
    refine ⟨error, by rw [authorizeRedirect_rejected rejects], ?_⟩
    simp [AppError.OfPolicyOrBudget, usage]
  | unresolved parsed proxy accepts selects openable unanswered =>
    rw [authorizeRedirect_apply accepts selects, resolveAddresses_answered proxy options openable]
    rcases hanswer : answerTo env (destinationOf proxy) (s.world.step + 3) with _ | answer
    · exact ⟨dnsResolutionFailed, rfl, by simp [AppError.OfPolicyOrBudget, dnsResolutionFailed,
        AppError.new, AppError.withRetryable]⟩
    · rw [unanswered answer hanswer]
      exact ⟨dnsEmptyAnswer, rfl, by simp [AppError.OfPolicyOrBudget, dnsEmptyAnswer,
        AppError.new, AppError.withRetryable]⟩

/-- The hop is answered with a readable `Location` that is no URL reference. -/
def InvalidReference (options : InspectionOptions) (i : ℕ) (b : HopState)
    (s : Session (World env)) : Prop :=
  ∃ response value location error, AskedAt options i b s response value ∧
    headerText value = some location ∧ Crates.urlJoin b.current location = .error error ∧
    (bodySample (readLimit options) response.body).isSome

/-- The chain stops in this round, but not for its policy or budget. -/
def StopsOtherwise (options : InspectionOptions) (i : ℕ) (b : HopState)
    (s : Session (World env)) : Prop :=
  InvalidReference options i b s ∨ i ≠ 0 ∧ Unreachable env options b.current s

section

variable {i : ℕ} {b : HopState} {s : Session (World env)}

theorem hopRound_of_refused {error : AppError} (hi : i ≠ 0)
    (h : (authorizeRedirect b.current options s).1 = .error error) :
    (hopRound options i b s).1 = .ok (.inr (b.hops, some error)) := by
  have hendpoint : hopEndpoint options i b s =
      (.error error, (authorizeRedirect b.current options s).2) := by
    rw [hopEndpoint, if_neg hi]
    exact Prod.ext h rfl
  simp only [hopRound, Prog.bind_apply, Prog.attempt_apply, hendpoint]
  rfl

theorem StopsOtherwise.exists_error (h : StopsOtherwise options i b s) :
    ∃ hops error, (hopRound options i b s).1 = .ok (.inr (hops, some error)) ∧
      ¬ error.OfPolicyOrBudget := by
  rcases h with ⟨response, value, location, error, hasked, htext, hjoin, hsample⟩ | ⟨hi, hreach⟩
  · obtain ⟨proxy, address, hround⟩ := hasked.hopRound_eq
    obtain ⟨read, hread⟩ := Option.isSome_iff_exists.mp hsample
    have hfollow := hasked.followLocation_eq
    rw [htext] at hfollow
    dsimp only at hfollow
    rw [hjoin] at hfollow
    rw [hround, hread]
    simp only [afterHop, exchangeOf, hfollow]
    exact ⟨_, _, rfl, by simp [AppError.OfPolicyOrBudget, invalidRedirectLocation, AppError.new]⟩
  · obtain ⟨error, hrefused, hclass⟩ := hreach.exists_refused
    exact ⟨_, error, hopRound_of_refused hi hrefused, hclass⟩

/-- A chain that does not stop otherwise ends with an error of its policy or budget. -/
theorem ofPolicyOrBudget_of_round {hops : List HttpHop} {error : AppError}
    (hstops : ¬ StopsOtherwise options i b s)
    (h : (hopRound options i b s).1 = .ok (.inr (hops, some error))) :
    error.OfPolicyOrBudget := by
  rcases hopRound_result options i b s with
    ⟨hi, e, hrefused, hend⟩ | ⟨e, hend⟩ | ⟨⟨proxy, address, t, hendpoint, hserved⟩, -⟩
  · rw [h] at hend
    cases hend
    exact ofPolicyOrBudget_of_refused (fun hreach => hstops (.inr ⟨hi, hreach⟩)) hrefused
  · rw [h] at hend
    cases hend
  obtain ⟨response, hresponds, hsample⟩ := hserved.answered
  have hanswered : Answered env proxy t response :=
    ⟨hserved.client, hserved.inTime, hserved.slot, hresponds⟩
  obtain ⟨read, hread⟩ := Option.isSome_iff_exists.mp hsample
  rw [hopRound_of_answered hendpoint hanswered, hread] at h
  simp only [afterHop, exchangeOf, Except.ok.injEq] at h
  by_cases hstatus : isRedirection response.status = true
  · rcases hlookup : response.headers.lookup "location" with _ | value
    · simp [followLocation, headerValue, hstatus, hlookup] at h
    have hasked : AskedAt options i b s response value :=
      ⟨⟨proxy, address, t, hendpoint, hanswered⟩, hstatus, hlookup⟩
    rw [hasked.followLocation_eq] at h
    rcases htext : headerText value with _ | location
    · simp [htext] at h
    rcases hjoin : Crates.urlJoin b.current location with e | next
    · exact absurd (.inl ⟨response, value, location, e, hasked, htext, hjoin, hsample⟩) hstops
    · by_cases hfull : i = options.maxRedirects.toNat
      · simp only [htext, hjoin, if_pos hfull] at h
        cases h
        exact Or.inr rfl
      · simp [htext, hjoin, hfull] at h
  · simp [followLocation, hstatus] at h

end

/-- The error with which the redirects of the run failed. -/
def Opening.RedirectError (env : Environment) {spec : InspectSpec} (o : Opening env.envVar spec)
    (error : AppError) : Prop :=
  ∃ b s, o.StartsHttp env b s ∧ ∃ hops t,
    runHttp b.current b.proxy b.selectedAddress spec.options s = (.ok (hops, some error), t)

/-- Some round of the run stops otherwise. -/
def Opening.StopsOtherwise (env : Environment) {spec : InspectSpec} (o : Opening env.envVar spec) :
    Prop :=
  ∃ b₀ s₀, o.StartsHttp env b₀ s₀ ∧ ∃ i b s, HopReached spec.options b₀ s₀ i b s ∧
    HopWhy.StopsOtherwise spec.options i b s

variable {spec : InspectSpec} {report : Report} {w : World env}

theorem scanned_of_inspect (h : inspect env spec = (.ok report, w)) : Scanned report := by
  obtain ⟨o, ho⟩ := inspectWithBackend_eq_ok (liveBackend env) h
  have hscanned : Scanned (o.outcome (liveBackend env) env.wallClock (World.start env)).1 :=
    scanned_sealReport _ _ _
  rw [ho] at hscanned
  exact hscanned

omit [Crates] in
/-- The name of the phase is enough for the hypothesis. -/
theorem Scanned.blamesPolicy (hscanned : Scanned report)
    (hfailed : report.failedAt = some .redirects) : BlamesPolicy report := by
  have hhypotheses := hscanned.hypotheses
  rw [← hscanned.failedAt, hfailed] at hhypotheses
  unfold BlamesPolicy
  rw [hhypotheses]
  exact ⟨_, List.mem_singleton_self _, rfl, rfl⟩

/-- The chain of a run that stops otherwise ends with an error of another class. -/
theorem Opening.StopsOtherwise.exists_error {o : Opening env.envVar spec}
    (h : o.StopsOtherwise env) :
    ∃ error, o.RedirectError env error ∧ ¬ error.OfPolicyOrBudget := by
  obtain ⟨b₀, s₀, hstart, i, b, s, hreached, hstops⟩ := h
  obtain ⟨hops, error, hround, hclass⟩ := hstops.exists_error
  have hrun : runHttp b₀.current b₀.proxy b₀.selectedAddress spec.options s₀ = _ :=
    runHttp_eq_loop hstart.hops_eq_nil s₀
  rw [(loop_of_reached hreached).2 _ hround] at hrun
  exact ⟨error, ⟨b₀, s₀, hstart, hops, _, hrun⟩, hclass⟩

theorem Opening.RedirectError.ofPolicyOrBudget {o : Opening env.envVar spec} {error : AppError}
    (h : o.RedirectError env error) (hstops : ¬ o.StopsOtherwise env) :
    error.OfPolicyOrBudget := by
  obtain ⟨b₀, s₀, hstart, hops, t, hrun⟩ := h
  rw [runHttp_eq_loop hstart.hops_eq_nil] at hrun
  rcases Prog.exists_reaches_of_loop_ok _ .start hrun with
    ⟨i, b, s, hreached, hround⟩ | ⟨b, s, hreached⟩
  · refine ofPolicyOrBudget_of_round ?_ (congrArg Prod.fst hround)
    intro hother
    exact hstops ⟨b₀, s₀, hstart, i, b, s, hreached, hother⟩
  · have hle := (HopReached.completed hreached).1
    omega

/-- A redirect error is the failure of the run. -/
theorem Opening.RedirectError.failedAt {o : Opening env.envVar spec} {error : AppError}
    (h : inspect env spec = (.ok report, w)) (herror : o.RedirectError env error) :
    report.failedAt = some .redirects := by
  obtain ⟨stages, hledger⟩ := exists_phaseLedger_of_inspect h o
  obtain ⟨b₀, s₀, hstart, hops, t, hrun⟩ := herror
  rcases inspect_http h o with ⟨b, s, hstart', -, d, hconcluded, -, hphases, -⟩ | ⟨hnone, -⟩
  · obtain ⟨rfl, rfl⟩ := hstart'.eq hstart
    rw [hrun] at hconcluded
    have hfailed := hconcluded.hasStatus.2 hops error rfl
    rw [← hphases] at hfailed
    exact (hledger.failed _).mpr hfailed
  · exact absurd hstart (hnone b₀ s₀)

/-- A failed redirect phase shows the error of the redirects. -/
theorem exists_redirectError (h : inspect env spec = (.ok report, w)) (o : Opening env.envVar spec)
    (hdone : w.completed ≠ []) {p : Phase} (hp : p ∈ report.phases) (hname : p.name = .redirects)
    (hfailed : p.status = .failed) :
    ∃ error, o.RedirectError env error ∧ p = failedPhase .redirects 0 error := by
  obtain ⟨stages, hledger⟩ := exists_phaseLedger_of_inspect h o
  rcases inspect_http h o with ⟨b, s, hstart, -, d, hconcluded, -, hphases, -⟩ | ⟨-, hnone⟩
  swap
  · exact absurd hnone hdone
  have hredirects := (hledger.failed .redirects).mpr ⟨p, hp, hname, hfailed⟩
  rcases hrun : runHttp b.current b.proxy b.selectedAddress spec.options s with
    ⟨error | ⟨hops, failure⟩, t⟩
  · rw [hrun] at hconcluded
    have hhttp := hconcluded.hasStatus.1
    rw [← hphases] at hhttp
    have hother := (hledger.failed .http).mpr hhttp
    rw [hredirects] at hother
    cases hother
  · rw [hrun] at hconcluded
    have hmem := hconcluded.redirectPhase_mem
    rw [← hphases] at hmem
    have hnodup := canonicalPhases_nodup.sublist hledger.names.sublist
    have hphase : p = redirectPhase hops failure := by
      apply List.inj_on_of_nodup_map hnodup hp hmem
      rw [hname]
      exact (redirectPhase_verdict hops failure).outline.1.symm
    rcases failure with _ | error
    · rw [hphase, redirectPhase] at hfailed
      split at hfailed
      · cases hfailed
      · cases hfailed
    · exact ⟨error, ⟨b, s, hstart, hops, t, hrun⟩, hphase⟩

/-- The class of a redirect error of the code of an unanswered lookup. -/
theorem Opening.RedirectError.cls_of_unresolved {o : Opening env.envVar spec} {error : AppError}
    (h : o.RedirectError env error) (hcode : error.code = "dns_resolution_failed") :
    error.cls = .io := by
  obtain ⟨b, s, hstart, hops, t, hrun⟩ := h
  obtain ⟨last, url, -, -, u, hrefused⟩ := (continuous_of_runHttp hrun).refused error rfl
    (by rw [hcode]; decide) (by rw [hcode]; decide)
  have hclassified := authorizeRedirect_classified hrefused
  rw [AppError.classified, hcode] at hclassified
  generalize error.cls = cls at hclassified
  cases cls <;> first | rfl | exact absurd hclassified (by decide)

/-- The diagnosis of failed redirects is calibrated exactly in the runs whose chains do
not stop otherwise. -/
theorem redirectDiagnosis_iff (h : inspect env spec = (.ok report, w))
    (o : Opening env.envVar spec) :
    (report.failedAt = some .redirects → BlamesPolicy report →
      ∀ error, o.RedirectError env error → error.OfPolicyOrBudget) ↔ ¬ o.StopsOtherwise env := by
  constructor
  · intro hcalibrated hstops
    obtain ⟨error, herror, hclass⟩ := hstops.exists_error
    have hfailed := herror.failedAt h
    exact hclass (hcalibrated hfailed ((scanned_of_inspect h).blamesPolicy hfailed) error herror)
  · intro hstops hfailed hblames error herror
    exact herror.ofPolicyOrBudget hstops

end

/-- The redirect of this run is looked up in vain. -/
def unresolvedRedirect : Environment :=
  { Environment.calm exampleRedirect with
    resolver := fun n => if n < 26 then (Environment.calm exampleRedirect).resolver n else none }

theorem unresolvedRedirect_blamed :
    letI := exampleRecordings.crates
    ∃ report w, ∃ o : Opening (fun _ => none) ⟨"http://example.com/", {}⟩,
      inspect unresolvedRedirect ⟨"http://example.com/", {}⟩ = (.ok report, w) ∧
      report.failedAt = some .redirects ∧ BlamesPolicy report ∧
      ∃ error, o.RedirectError unresolvedRedirect error ∧ error.cls = .io ∧
        error.retryable = true := by
  let := exampleRecordings.crates
  have hrun : Reports (inspect unresolvedRedirect ⟨"http://example.com/", {}⟩)
      fun report w => w.completed.length = 1 ∧ ∃ p ∈ report.phases, p.name = .redirects ∧
        p.status = .failed ∧ p.error.map DiagnosticError.code = some "dns_resolution_failed" ∧
        p.error.map DiagnosticError.retryable = some true := by decide +kernel
  obtain ⟨report, w, hrun, htest⟩ := exists_of_reports hrun
  obtain ⟨hone, p, hp, hname, hstatus, hcode, hretryable⟩ := of_decide_eq_true htest
  obtain ⟨o, -⟩ := inspectWithBackend_eq_ok _ hrun
  have hdone : w.completed ≠ [] := by
    intro hnil
    rw [hnil] at hone
    cases hone
  obtain ⟨error, herror, rfl⟩ := exists_redirectError hrun o hdone hp hname hstatus
  have hfailed := herror.failedAt hrun
  exact ⟨report, w, o, hrun, hfailed, (scanned_of_inspect hrun).blamesPolicy hfailed, error, herror,
    herror.cls_of_unresolved (Option.some.inj hcode), Option.some.inj hretryable⟩

theorem unresolvedRedirect_diagnosis :
    letI := exampleRecordings.crates
    ∃ report w, ∃ o : Opening (fun _ => none) ⟨"http://example.com/", {}⟩,
      inspect unresolvedRedirect ⟨"http://example.com/", {}⟩ = (.ok report, w) ∧
      ((report.failedAt = some .redirects → BlamesPolicy report →
        ∀ error, o.RedirectError unresolvedRedirect error → error.OfPolicyOrBudget) ↔
        ¬ o.StopsOtherwise unresolvedRedirect) := by
  let := exampleRecordings.crates
  have hrun : Reports (inspect unresolvedRedirect ⟨"http://example.com/", {}⟩)
      fun _ w => w.completed.length = 1 := by decide +kernel
  obtain ⟨report, w, hrun, -⟩ := exists_of_reports hrun
  obtain ⟨o, -⟩ := inspectWithBackend_eq_ok _ hrun
  exact ⟨report, w, o, hrun, redirectDiagnosis_iff hrun o⟩

end HopWhy
