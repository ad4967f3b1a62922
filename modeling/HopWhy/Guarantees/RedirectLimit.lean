import HopWhy.Runs.Options

/-!
# A higher redirect limit

Two inspections in one environment that differ in the redirect limit only: the one
with the higher limit does what the other does, and if that one stopped at its
limit, it goes on from there. So its calls, probes and finished hops extend those
of the other, and without such a stop the reports agree.
-/

namespace HopWhy

/-- The same inspection with another redirect limit. -/
def InspectionOptions.redirecting (options : InspectionOptions) (limit : UInt64) :
    InspectionOptions := { options with maxRedirects := limit }

def Draft.redirecting (draft : Draft) (limit : UInt64) : Draft :=
  draft.opting fun options => options.redirecting limit

section

variable {options : InspectionOptions} {limit : UInt64} {env : Environment}
  (hlimit : options.maxRedirects < limit)

include hlimit

theorem afterHop_before {i : ℕ} (hi : i < options.maxRedirects.toNat) (b : HopState)
    (proxy : ResolvedProxy) (address : SocketAddr) (e : Exchange) :
    afterHop options i b proxy address e =
      afterHop (options.redirecting limit) i b proxy address e := by
  have hlimit : options.maxRedirects.toNat < limit.toNat := hlimit
  have hlater : i ≠ (options.redirecting limit).maxRedirects.toNat :=
    Nat.ne_of_lt (Nat.lt_trans hi hlimit)
  unfold afterHop
  simp only [Nat.ne_of_lt hi, hlater, if_false]

/-- At the lower limit the loops part when another redirect is asked for. -/
theorem afterHop_at (b : HopState) (proxy : ResolvedProxy) (address : SocketAddr) (e : Exchange) :
    (∃ r, afterHop options options.maxRedirects.toNat b proxy address e = .inr r ∧
      afterHop (options.redirecting limit) options.maxRedirects.toNat b proxy address e = .inr r) ∨
    ∃ b', afterHop options options.maxRedirects.toNat b proxy address e =
        .inr (b'.hops, some redirectLimitReached) ∧
      afterHop (options.redirecting limit) options.maxRedirects.toNat b proxy address e =
        .inl b' := by
  have hlater : options.maxRedirects.toNat ≠ (options.redirecting limit).maxRedirects.toNat :=
    Nat.ne_of_lt hlimit
  unfold afterHop
  rcases e.redirectError with _ | error
  · rcases e.nextUrl with _ | next
    · exact Or.inl ⟨_, rfl, rfl⟩
    · exact Or.inr ⟨⟨next, b.hops ++ [e.hop], proxy, address⟩, if_pos rfl, if_neg hlater⟩
  · exact Or.inl ⟨_, rfl, rfl⟩

variable [Crates]

theorem hopRound_before {i : ℕ} (hi : i < options.maxRedirects.toNat) (b : HopState) :
    (hopRound options i b : Live env _) = hopRound (options.redirecting limit) i b := by
  unfold hopRound
  simp only [afterHop_before hlimit hi]
  rfl

theorem hopRound_at (b : HopState) (s : Session (World env)) :
    (∃ r t, hopRound options options.maxRedirects.toNat b s = (r, t) ∧
      hopRound (options.redirecting limit) options.maxRedirects.toNat b s = (r, t) ∧
      ∀ b', r ≠ .ok (.inl b')) ∨
    ∃ a b' t, hopRound options options.maxRedirects.toNat b s = (.ok (.inr a), t) ∧
      hopRound (options.redirecting limit) options.maxRedirects.toNat b s = (.ok (.inl b'), t) ∧
      a = (b'.hops, some redirectLimitReached) := by
  unfold hopRound
  have hendpoint : (hopEndpoint (options.redirecting limit) options.maxRedirects.toNat b :
      Live env _) = hopEndpoint options options.maxRedirects.toNat b := rfl
  rw [hendpoint]
  rcases hr : hopEndpoint options options.maxRedirects.toNat b s with ⟨error | ⟨proxy, address⟩, t⟩
  · simp only [Prog.bind_apply, Prog.attempt_apply, hr]
    exact Or.inl ⟨_, _, rfl, rfl, fun b' h => by cases h⟩
  · simp only [Prog.bind_apply, Prog.attempt_apply, hr]
    have hexchange : exchange options.maxRedirects.toNat b.current proxy address
        (options.redirecting limit) t =
      exchange options.maxRedirects.toNat b.current proxy address options t := rfl
    rw [hexchange]
    rcases exchange options.maxRedirects.toNat b.current proxy address options t with
      ⟨error | x, u⟩
    · exact Or.inl ⟨_, _, rfl, rfl, fun b' h => by cases h⟩
    · rcases afterHop_at hlimit b proxy address x with ⟨r, hend, hend'⟩ | ⟨b', hend, hnext⟩
      · refine Or.inl ⟨.ok (.inr r), _, congrArg (fun r => (Except.ok r, _)) hend,
          congrArg (fun r => (Except.ok r, _)) hend', fun b' h => by cases h⟩
      · exact Or.inr ⟨_, b', _, congrArg (fun r => (Except.ok r, _)) hend,
          congrArg (fun r => (Except.ok r, _)) hnext, rfl⟩

end

section

variable [Crates] {env : Environment} {options : InspectionOptions} {limit : UInt64}

/-- Rounds add to the history, and a chain returns the hops it began with. -/
theorem loop_leads (options : InspectionOptions) (n : ℕ) : ∀ i b (s : Session (World env)), ∃ e,
    Leads s e (Prog.loop (hopRound options) (fun b => pure (b.hops, none)) n i b s).2 ∧
      ∀ result, (Prog.loop (hopRound options) (fun b => pure (b.hops, none)) n i b s).1 =
        .ok result → b.hops <+: result.1 := by
  induction n with
  | zero =>
    intro i b s
    refine ⟨.none, Leads.refl s, ?_⟩
    rintro result h
    cases h
    exact List.prefix_rfl
  | succ n ih =>
    intro i b s
    obtain ⟨e, hleads, hround⟩ := hopRound_effect options i b s
    rw [Prog.loop]
    rcases hr : hopRound options i b s with ⟨error | b' | r, t⟩
    · rw [hr] at hleads
      rw [Prog.bind_error hr]
      exact ⟨e, hleads, fun result h => by cases h⟩
    · rw [hr] at hleads hround
      rw [Prog.bind_ok hr]
      obtain ⟨e', hleads', hprefix⟩ := ih (i + 1) b' t
      refine ⟨e ++ e', hleads.trans hleads', fun result h => ?_⟩
      have hhops : b'.hops = b.hops ++ e.hops := hround.hops_eq.1 b' rfl
      exact (List.prefix_append b.hops e.hops).trans (hhops ▸ hprefix result h)
    · rw [hr] at hleads hround
      rw [Prog.bind_ok hr]
      refine ⟨e, hleads, fun result h => ?_⟩
      cases h
      rw [hround.hops_eq.2 r rfl]
      exact List.prefix_append _ _

/-- The longer chain is the shorter one, or goes on where that one stops at its limit. -/
theorem runHttp_redirecting (hlimit : options.maxRedirects ≤ limit) (url : Url)
    (proxy : ResolvedProxy) (address : SocketAddr) (s : Session (World env)) :
    runHttp url proxy address options s =
      runHttp url proxy address (options.redirecting limit) s ∨
    ∃ hops t e, runHttp url proxy address options s =
        (.ok (hops, some redirectLimitReached), t) ∧
      Leads t e (runHttp url proxy address (options.redirecting limit) s).2 ∧
      ∀ result, (runHttp url proxy address (options.redirecting limit) s).1 = .ok result →
        hops <+: result.1 := by
  rcases UInt64.lt_or_eq_of_le hlimit with hlt | heq
  · have hcount : (options.redirecting limit).maxRedirects.toNat + 1 =
        options.maxRedirects.toNat + 1 + (limit.toNat - options.maxRedirects.toNat) := by
      have hlt : options.maxRedirects.toNat < limit.toNat := hlt
      change limit.toNat + 1 = _
      omega
    unfold runHttp
    rw [hcount]
    rcases Prog.loop_cut (fun i b hi => hopRound_before hlt hi b) (hopRound_at hlt)
      (limit.toNat - options.maxRedirects.toNat) options.maxRedirects.toNat 0
      ⟨url, [], proxy, address⟩ s (Nat.zero_add _) with hsame | ⟨_, b', t, hrun, hrun', rfl⟩
    · exact Or.inl hsame
    · obtain ⟨e, hleads, hprefix⟩ := loop_leads (options.redirecting limit)
        (limit.toNat - options.maxRedirects.toNat) (options.maxRedirects.toNat + 1) b' t
      rw [hrun']
      exact Or.inr ⟨b'.hops, t, e, hrun, hleads, hprefix⟩
  · subst heq
    exact Or.inl rfl

end

section

variable {limit : UInt64} {env : Environment}

/-- Raising the limit of the options. -/
abbrev raised (limit : UInt64) (options : InspectionOptions) : InspectionOptions :=
  options.redirecting limit

theorem unread_raised (limit : UInt64) : Unread (raised limit) := ⟨fun _ => rfl, fun _ => rfl⟩

variable [Crates]

theorem observeDns_sameBut (proxy : ResolvedProxy) (draft : Draft) :
    SameBut env (raised limit) (fun a a' => a' = (a.1.redirecting limit, a.2))
      (observeDns (liveBackend env) proxy draft)
      (observeDns (liveBackend env) proxy (draft.redirecting limit)) := by
  apply instant_sameBut.bind
  rintro started _ rfl
  apply (Prog.Coupled.refl (resolveAddresses proxy draft.options)).bindMatched
  · rintro ⟨all, permitted⟩ _ rfl
    dsimp only
    split_ifs
    · exact stopWith_sameBut { draft with addresses := _ } _ _ _
    · apply (elapsedMs_sameBut started).bind
      rintro durationMs _ rfl
      exact Prog.Matched.pure rfl
  · intro error
    exact stopWith_sameBut _ _ _ _

/-- Everything before the HTTP stage. -/
theorem observeEndpoint_sameBut (limit : UInt64) (proxy : ResolvedProxy) (draft : Draft) :
    SameBut env (raised limit) (fun a a' => a' = (a.1.redirecting limit, a.2))
      (observeEndpoint (liveBackend env) proxy draft)
      (observeEndpoint (liveBackend env) proxy (draft.redirecting limit)) := by
  apply (observeDns_sameBut proxy draft).bind
  rintro ⟨d, permitted⟩ _ rfl
  exact observeTcp_sameBut (unread_raised limit) permitted d

theorem observeTls_raised (limit : UInt64) (parsed : ParsedTarget) (proxy : ResolvedProxy)
    (address : SocketAddr) (draft : Draft) :
    SameBut env (raised limit) (fun d d' => d' = d.redirecting limit)
      (observeTls (liveBackend env) parsed proxy address draft)
      (observeTls (liveBackend env) parsed proxy address (draft.redirecting limit)) :=
  observeTls_sameBut (unread_raised limit) parsed proxy address draft

end

/-- The redirect limit stopped the run. -/
def StoppedAtLimit (phases : List Phase) : Prop :=
  ∃ phase ∈ phases, phase.name = .redirects ∧
    phase.error.map DiagnosticError.code = some redirectLimitReached.code

/-- The HTTP stage failed, so that the report has none of its hops. -/
def LostHops (phases : List Phase) : Prop :=
  ∃ phase ∈ phases, phase.name = .http ∧ phase.status = .failed

section

variable [Crates] {env : Environment} {limit : UInt64}

/-- What the stages under the higher limit make of those under the lower one. -/
structure ProlongsStages (limit : UInt64) (run run' : Except Draft Draft × Session (World env)) :
    Prop where
  calls : run.2.world.calls <+: run'.2.world.calls
  completed : run.2.world.completed <+: run'.2.world.completed
  probes : run.2.tracker.probes <+: run'.2.tracker.probes
  http : (settle run.1).http <+: (settle run'.1).http ∨ LostHops (settle run'.1).phases
  same : ¬ StoppedAtLimit (settle run.1).phases →
    settle run'.1 = (settle run.1).redirecting limit ∧ run'.2 = run.2

omit [Crates] in
theorem prolongsStages_of_same {run run' : Except Draft Draft × Session (World env)}
    (hsettle : settle run'.1 = (settle run.1).redirecting limit) (hsession : run'.2 = run.2) :
    ProlongsStages limit run run' where
  calls := hsession ▸ List.prefix_rfl
  completed := hsession ▸ List.prefix_rfl
  probes := hsession ▸ List.prefix_rfl
  http := Or.inl (hsettle ▸ List.prefix_rfl)
  same _ := ⟨hsettle, hsession⟩

theorem observeHttp_of_same {parsed : ParsedTarget} {proxy : ResolvedProxy}
    {address : SocketAddr} {draft : Draft} {s : Session (World env)}
    (h : runHttp parsed.url proxy address draft.options s.tick =
      runHttp parsed.url proxy address (draft.options.redirecting limit) s.tick) :
    ProlongsStages limit (observeHttp (liveBackend env) parsed proxy address draft s)
      (observeHttp (liveBackend env) parsed proxy address (draft.redirecting limit) s) := by
  unfold observeHttp
  rw [instant_bind, instant_bind, Prog.bind_apply, Prog.bind_apply, Prog.attempt_apply,
    Prog.attempt_apply]
  have hlive : (liveBackend env).runHttp parsed.url proxy address draft.options s.tick =
      (liveBackend env).runHttp parsed.url proxy address (draft.redirecting limit).options
        s.tick := h
  rw [hlive]
  rcases (liveBackend env).runHttp parsed.url proxy address (draft.redirecting limit).options s.tick
    with ⟨error | ⟨hops, failure⟩, t⟩
  · exact prolongsStages_of_same rfl rfl
  · exact prolongsStages_of_same rfl rfl

theorem observeHttp_prolongs (parsed : ParsedTarget) (proxy : ResolvedProxy) (address : SocketAddr)
    (draft : Draft) (hfresh : draft.http = []) (hlimit : draft.options.maxRedirects ≤ limit)
    (s : Session (World env)) : ProlongsStages limit
      (observeHttp (liveBackend env) parsed proxy address draft s)
      (observeHttp (liveBackend env) parsed proxy address (draft.redirecting limit) s) := by
  rcases runHttp_redirecting hlimit parsed.url proxy address s.tick with
    hsame | ⟨hops, t, e, hrun, hleads, hprefix⟩
  · exact observeHttp_of_same hsame
  obtain ⟨hconcluded, hend⟩ := observeHttp_run parsed proxy address draft hfresh s
  obtain ⟨hconcluded', hend'⟩ :=
    observeHttp_run parsed proxy address (draft.redirecting limit) hfresh s
  have hlonger : runHttp parsed.url proxy address (draft.redirecting limit).options s.tick =
      runHttp parsed.url proxy address (draft.options.redirecting limit) s.tick := rfl
  rw [hrun] at hconcluded hend
  rw [hlonger] at hconcluded' hend'
  rcases hr : runHttp parsed.url proxy address (draft.options.redirecting limit) s.tick with ⟨r, u⟩
  rw [hr] at hleads hprefix hconcluded' hend'
  have hhops : (settle (observeHttp (liveBackend env) parsed proxy address draft s).1).http =
        hops ∧
      StoppedAtLimit
        (settle (observeHttp (liveBackend env) parsed proxy address draft s).1).phases := by
    generalize settle (observeHttp (liveBackend env) parsed proxy address draft s).1 = d
      at hconcluded ⊢
    cases hconcluded with
    | reached http phases =>
      refine ⟨http, failedPhase .redirects 0 redirectLimitReached, ?_, rfl, rfl⟩
      rw [phases]
      simp [redirectPhase]
  constructor
  · rw [hend, hend', (leads_tick _).calls, (leads_tick _).calls, hleads.calls]
    simp
  · rw [hend, hend', completed_tick, completed_tick, hleads.completed]
    exact List.prefix_append _ _
  · rw [hend, hend', tracker_tick, tracker_tick, hleads.probes]
    exact List.prefix_append _ _
  · rw [hhops.1]
    generalize settle (observeHttp (liveBackend env) parsed proxy address (draft.redirecting limit)
      s).1 = d at hconcluded' ⊢
    cases hconcluded' with
    | @lost error _ front durationMs http phases =>
      right
      refine ⟨failedPhase .http durationMs error, ?_, rfl, rfl⟩
      rw [phases]
      exact List.mem_append_right _ List.mem_cons_self
    | reached http phases =>
      left
      rw [http]
      exact hprefix _ rfl
  · exact fun hstopped => absurd hhops.2 hstopped

/-- All stages, under both limits. -/
theorem observeAll_prolongs (parsed : ParsedTarget) (proxy : ResolvedProxy) (draft : Draft)
    (hfresh : draft.http = []) (hlimit : draft.options.maxRedirects ≤ limit)
    (s : Session (World env)) : ProlongsStages limit
      (observeAll (liveBackend env) parsed proxy draft s)
      (observeAll (liveBackend env) parsed proxy (draft.redirecting limit) s) := by
  rw [observeAll_eq, observeAll_eq]
  obtain ⟨hresult, hsession⟩ :=
    observeEndpoint_sameBut limit proxy draft s s rfl
  rcases hrun : observeEndpoint (liveBackend env) proxy draft s with ⟨d | ⟨d, address⟩, t⟩ <;>
    rcases hrun' : observeEndpoint (liveBackend env) proxy (draft.redirecting limit) s with
      ⟨d' | a', t'⟩ <;> rw [hrun, hrun'] at hresult hsession
  · rw [Prog.bind_error hrun, Prog.bind_error hrun']
    exact prolongsStages_of_same hresult hsession.symm
  · cases hresult
  · cases hresult
  obtain rfl : t = t' := hsession
  obtain rfl : a' = (d.redirecting limit, address) := hresult
  rw [Prog.bind_ok hrun, Prog.bind_ok hrun']
  dsimp only
  obtain ⟨hresult₂, hsession₂⟩ :=
    observeTls_raised limit parsed proxy address d t t rfl
  rcases hrun₂ : observeTls (liveBackend env) parsed proxy address d t with ⟨d₂ | d₂, u⟩ <;>
    rcases hrun₂' : observeTls (liveBackend env) parsed proxy address (d.redirecting limit) t with
      ⟨d₂' | d₂', u'⟩ <;> rw [hrun₂, hrun₂'] at hresult₂ hsession₂
  · rw [Prog.bind_error hrun₂, Prog.bind_error hrun₂']
    exact prolongsStages_of_same hresult₂ hsession₂.symm
  · cases hresult₂
  · cases hresult₂
  obtain rfl : u = u' := hsession₂
  obtain rfl : d₂' = d₂.redirecting limit := hresult₂
  rw [Prog.bind_ok hrun₂, Prog.bind_ok hrun₂']
  obtain ⟨hkeeps, -⟩ := observed_keeps hrun hrun₂
  exact observeHttp_prolongs parsed proxy address d₂ (hkeeps.http.trans hfresh)
    (hkeeps.options ▸ hlimit) u

/-- What the report under the higher limit makes of the one under the lower limit. -/
structure Prolongs (limit : UInt64) (report report' : Report) (w w' : World env) : Prop where
  calls : w.calls <+: w'.calls
  completed : w.completed <+: w'.completed
  probes : report.probes <+: report'.probes
  http : report.http <+: report'.http ∨ LostHops report'.phases
  same : ¬ StoppedAtLimit report.phases → w' = w ∧
    report' = sealReport { report with
      options := report.options.redirecting limit
      budget := budgetOf (report.options.redirecting limit)
      reportSha256 := none }

theorem finalized_of_same {run run' : Except Draft Draft × Session (World env)}
    (hsettle : settle run'.1 = (settle run.1).redirecting limit) (hsession : run'.2 = run.2) :
    (finalized run').2 = (finalized run).2 ∧
      (finalized run').1 = sealReport { (finalized run).1 with
        options := (finalized run).1.options.redirecting limit
        budget := budgetOf ((finalized run).1.options.redirecting limit)
        reportSha256 := none } := by
  unfold finalized
  rw [hsettle, hsession]
  exact ⟨rfl, rfl⟩

theorem ProlongsStages.finalized {run run' : Except Draft Draft × Session (World env)}
    (h : ProlongsStages limit run run') :
    Prolongs limit (finalized run).1 (finalized run').1 (finalized run).2 (finalized run').2 where
  calls := by
    rw [calls_finalized, calls_finalized]
    exact h.calls
  completed := h.completed
  probes := h.probes
  http := h.http
  same hstopped := finalized_of_same (h.same hstopped).1 (h.same hstopped).2

omit [Crates] in
theorem validateOptions_redirecting {options : InspectionOptions} (hvalid : limit ≤ 10)
    (h : validateOptions options = .ok ()) :
    validateOptions (options.redirecting limit) = .ok () := by
  unfold validateOptions at h
  split_ifs at h with hbudget hprobes haddresses hredirects hbody
  calc validateOptions (options.redirecting limit)
    _ = _ := if_neg (not_not.mpr hbudget)
    _ = _ := if_neg (not_not.mpr hprobes)
    _ = _ := if_neg (not_not.mpr haddresses)
    _ = _ := if_neg (UInt64.not_lt.mpr hvalid)
    _ = _ := if_neg hbody

/-- Raising the redirect limit prolongs a run that stopped at it, and changes no other. -/
theorem inspect_prolongs {target : String} {options : InspectionOptions} {report : Report}
    {w : World env} (hlimit : options.maxRedirects ≤ limit) (hvalid : limit ≤ 10)
    (h : inspect env ⟨target, options⟩ = (.ok report, w)) :
    ∃ report' w', inspect env ⟨target, options.redirecting limit⟩ = (.ok report', w') ∧
      Prolongs limit report report' w w' := by
  obtain ⟨o, ho⟩ := inspectWithBackend_eq_ok (liveBackend env) h
  let o' : Opening env.envVar ⟨target, options.redirecting limit⟩ :=
    ⟨o.parsed, o.proxy, validateOptions_redirecting hvalid o.valid, o.accepts, o.selects⟩
  refine ⟨_, _, inspectWithBackend_opening (liveBackend env) o' env.wallClock (World.start env), ?_⟩
  obtain ⟨rfl, rfl⟩ := Prod.mk.inj ho
  exact (observeAll_prolongs o.parsed o.proxy (o.draft env.wallClock (World.start env)) rfl hlimit
    (openingSession options (World.start env))).finalized

end

/-- The front page without redirects. -/
def unfollowed : InspectionOptions := ({} : InspectionOptions).redirecting 0

/-- The front page refers to another one, which the higher limit reaches. -/
theorem frontPage_prolongs :
    letI := exampleRecordings.crates
    ∃ report w report' w',
      inspect (.calm exampleRedirect) ⟨"http://example.com/", unfollowed⟩ = (.ok report, w) ∧
      inspect (.calm exampleRedirect) ⟨"http://example.com/", unfollowed.redirecting 3⟩ =
        (.ok report', w') ∧
      Prolongs 3 report report' w w' ∧ report.http.length < report'.http.length := by
  let := exampleRecordings.crates
  have hrun : Reports (inspect (.calm exampleRedirect) ⟨"http://example.com/", unfollowed⟩)
      fun report _ => report.http.length = 1 := by
    decide +kernel
  have hlonger : Reports (inspect (.calm exampleRedirect)
      ⟨"http://example.com/", unfollowed.redirecting 3⟩)
      fun report _ => report.http.length = 2 := by
    decide +kernel
  obtain ⟨report, w, hrun, htest⟩ := exists_of_reports hrun
  obtain ⟨report', w', hlonger, htest'⟩ := exists_of_reports hlonger
  have hlimit : unfollowed.maxRedirects ≤ 3 := by decide
  obtain ⟨report₂, w₂, hrun₂, hprolongs⟩ := inspect_prolongs hlimit (by decide) hrun
  rw [hlonger] at hrun₂
  cases hrun₂
  have hone := of_decide_eq_true htest
  have htwo := of_decide_eq_true htest'
  exact ⟨report, w, report', w', hrun, hlonger, hprolongs, by omega⟩

end HopWhy
