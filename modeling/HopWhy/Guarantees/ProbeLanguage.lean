import HopWhy.Guarantees.PhaseLedger
import HopWhy.Guarantees.ReadBack
import HopWhy.Guarantees.RedirectDiagnosis
import HopWhy.Runs.ProbeMachine

/-!
# Probe lists and diagnoses

The kinds and outcomes of the probes in a report are a word of the probe automaton,
and the state it leads to leaves few phases that can be named as the failing one. So
a report whose probes and diagnosis do not belong together is not one of a run.
-/

namespace HopWhy

/-- The TLS phase of a run that has come to its requests. -/
def passages (tlsDue : Bool) : List PhaseStatus :=
  if tlsDue then [.passed] else [.skipped, .notObserved]

def openedLedger : Outline := [(.input, .passed), (.proxy, .passed)]

def resolvedLedger : Outline := openedLedger ++ [(.dns, .passed)]

def connectedLedger : Outline := resolvedLedger ++ [(.tcp, .passed)]

def requestedLedger (tls : PhaseStatus) : Outline := connectedLedger ++ [(.tls, tls)]

/-- A failed HTTP stage. -/
def lostLedger (tls : PhaseStatus) : Outline := requestedLedger tls ++ [(.http, .failed)]

/-- An HTTP stage with a response. -/
def answeredLedger (redirects tls : PhaseStatus) : Outline :=
  requestedLedger tls ++ [(.http, .passed), (.redirects, redirects), (.assertions, .skipped)]

/-- The phases and statuses that a probe list may stand beside. -/
def ledgers (tlsDue : Bool) : ProbeState → List Outline
  | .start | .unresolved => [openedLedger ++ [(.dns, .failed)]]
  | .resolved => [openedLedger ++ [(.dns, .failed)], resolvedLedger ++ [(.tcp, .failed)]]
  | .connected =>
    if tlsDue then [connectedLedger ++ [(.tls, .failed)]] else (passages tlsDue).map lostLedger
  | .unsecured => [connectedLedger ++ [(.tls, .failed)]]
  | .secured | .unanswered => (passages tlsDue).map lostLedger
  | .answered => (passages tlsDue).map lostLedger ++
      [PhaseStatus.failed, .passed, .skipped].flatMap fun redirects =>
        (passages tlsDue).map (answeredLedger redirects)
  | .astray => (passages tlsDue).map (answeredLedger .failed)
  | .redirected =>
    (passages tlsDue).map lostLedger ++ (passages tlsDue).map (answeredLedger .failed)
  | .dead => []

/-- The state in which requests begin. -/
def readyState (tlsDue : Bool) : ProbeState := if tlsDue then .secured else .connected

theorem lostLedger_mem : ∀ tlsDue, ∀ tls ∈ passages tlsDue, ∀ q ∈ httpFailures (readyState tlsDue),
    lostLedger tls ∈ ledgers tlsDue q := by
  decide

/-- The statuses of the redirect phase after a response. -/
def redirectStatuses (failed : Bool) : List PhaseStatus :=
  if failed then [.failed] else [.passed, .skipped]

theorem answeredLedger_mem : ∀ tlsDue failed, ∀ tls ∈ passages tlsDue,
    ∀ status ∈ redirectStatuses failed, ∀ q ∈ if failed then [ProbeState.answered, .redirected,
      .astray] else [.answered], answeredLedger status tls ∈ ledgers tlsDue q := by
  decide

def Draft.outline (draft : Draft) : Outline := draft.phases.map Phase.outline

theorem Draft.outline_record (draft : Draft) (phase : Phase) :
    (draft.record phase).outline = draft.outline ++ [phase.outline] := by
  rw [Draft.outline, Draft.record, List.map_append]
  rfl

section

variable {env : Environment} {tlsDue : Bool}

/-- The phases of the draft may stand beside the probes. -/
def Fits (tlsDue : Bool) (draft : Draft) (s : Session (World env)) : Prop :=
  draft.outline ∈ ledgers tlsDue (probeState tlsDue s.tracker.probes)

/-- A ledger that all the possible states have. -/
theorem fits_of_mem {draft : Draft} {s : Session (World env)} {qs : List ProbeState} {o : Outline}
    (ho : draft.outline = o) (hs : AtOneOf tlsDue qs s) (h : ∀ q ∈ qs, o ∈ ledgers tlsDue q) :
    Fits tlsDue draft s := by
  rw [Fits, ho]
  exact h _ hs

theorem fits_of_failed {draft : Draft} {s : Session (World env)} {qs : List ProbeState}
    {o : Outline} {name : PhaseName} (ho : draft.outline = o) (hs : AtOneOf tlsDue qs s)
    (h : ∀ q ∈ qs, o ++ [(name, .failed)] ∈ ledgers tlsDue q) (durationMs : UInt64)
    (error : AppError) : Fits tlsDue (draft.record (failedPhase name durationMs error)) s := by
  apply fits_of_mem _ hs h
  rw [Draft.outline_record, ho]
  rfl

variable [Crates] {draft : Draft}

theorem observeDns_fits (hdraft : draft.outline = openedLedger) (proxy : ResolvedProxy) :
    Prog.Triple (At tlsDue .start) (observeDns (liveBackend env) proxy draft)
      (fun r t => r.1.outline = resolvedLedger ∧ At tlsDue .resolved t) (Fits tlsDue) := by
  intro s hs
  unfold observeDns
  rw [instant_bind, Prog.bind_apply, Prog.attempt_apply]
  have hbackend := resolveAddresses_moves proxy draft.options s.tick hs
  change Prog.Post _ _ ((liveBackend env).resolveAddresses proxy draft.options s.tick) at hbackend
  rcases hr : (liveBackend env).resolveAddresses proxy draft.options s.tick with
    ⟨error | ⟨all, permitted⟩, t⟩ <;> rw [hr] at hbackend
  · have hended : AtOneOf tlsDue [.start, .resolved, .unresolved] t.tick := hbackend
    exact fits_of_failed hdraft hended (by cases tlsDue <;> decide) _ _
  · have hlisted : ({ draft with addresses := all.map (observeAddress draft.options) } :
        Draft).outline = openedLedger := hdraft
    have hfound : At tlsDue .resolved t.tick := hbackend
    dsimp only
    split_ifs
    · have hended : AtOneOf tlsDue [.resolved] t.tick := hfound.oneOf List.mem_cons_self
      exact fits_of_failed hlisted hended (by cases tlsDue <;> decide) _ _
    · refine ⟨?_, hfound⟩
      rw [Draft.outline_record, hlisted]
      rfl

theorem observeTcp_fits (hdraft : draft.outline = resolvedLedger) (permitted : List SocketAddr) :
    Prog.Triple (At tlsDue .resolved) (observeTcp (liveBackend env) permitted draft)
      (fun r t => r.1.outline = connectedLedger ∧ At tlsDue .connected t) (Fits tlsDue) := by
  intro s hs
  unfold observeTcp
  rw [instant_bind, Prog.bind_apply, Prog.attempt_apply]
  have hbackend := connectFirst_moves permitted draft.options s.tick hs
  change Prog.Post _ _ ((liveBackend env).connectFirst permitted draft.options s.tick) at hbackend
  rcases hr : (liveBackend env).connectFirst permitted draft.options s.tick with
    ⟨error | address, t⟩ <;> rw [hr] at hbackend
  · have hended : AtOneOf tlsDue [.resolved] t.tick := hbackend
    exact fits_of_failed hdraft hended (by cases tlsDue <;> decide) _ _
  · refine ⟨?_, hbackend⟩
    rw [Draft.outline_record, hdraft]
    rfl

theorem observeTls_fits (hdraft : draft.outline = connectedLedger) {parsed : ParsedTarget}
    {proxy : ResolvedProxy} (hdue : tlsDue = true ↔ TlsProbed parsed proxy)
    (address : SocketAddr) :
    Prog.Triple (At tlsDue .connected) (observeTls (liveBackend env) parsed proxy address draft)
      (fun d t => (∃ tls ∈ passages tlsDue, d.outline = requestedLedger tls) ∧
        At tlsDue (readyState tlsDue) t) (Fits tlsDue) := by
  intro s hs
  unfold observeTls
  rw [instant_bind, Prog.ite_apply]
  split_ifs with hscheme hselected
  · have hno : tlsDue = false := by
      rw [Bool.eq_false_iff, Ne, hdue]
      exact fun h => hscheme h.1
    subst hno
    refine ⟨⟨.skipped, by decide, ?_⟩, hs⟩
    rw [Draft.outline_record, hdraft]
    rfl
  · have hno : tlsDue = false := by
      rw [Bool.eq_false_iff, Ne, hdue]
      intro h
      simp [h.2] at hselected
    subst hno
    refine ⟨⟨.notObserved, by decide, ?_⟩, hs⟩
    refine (draft.outline_record _).trans ?_
    rw [hdraft]
    rfl
  · have hyes : tlsDue = true := hdue.mpr ⟨not_not.mp hscheme, by simpa using hselected⟩
    subst hyes
    rw [Prog.bind_apply, Prog.attempt_apply]
    have hbackend :=
      probeTls_moves address parsed.summary.host draft.options.showAddresses s.tick hs
    change Prog.Post _ _ ((liveBackend env).probeTls address parsed.summary.host
      draft.options.showAddresses s.tick) at hbackend
    rcases hr : (liveBackend env).probeTls address parsed.summary.host draft.options.showAddresses
      s.tick with ⟨error | summary, t⟩ <;> rw [hr] at hbackend
    · have hended : AtOneOf true [.connected, .unsecured] t.tick := hbackend
      exact fits_of_failed hdraft hended (by decide) _ _
    · refine ⟨⟨.passed, by decide, ?_⟩, hbackend⟩
      refine (draft.outline_record _).trans ?_
      rw [hdraft]
      rfl

omit [Crates] in
theorem redirectPhase_outline (hops : List HttpHop) (failure : Option AppError) :
    ∃ status ∈ redirectStatuses failure.isSome,
      (redirectPhase hops failure).outline = (.redirects, status) := by
  unfold redirectPhase
  rcases failure with _ | error
  · rw [Option.isSome_none]
    dsimp only
    split_ifs
    · exact ⟨.passed, by decide, rfl⟩
    · exact ⟨.skipped, by decide, rfl⟩
  · rw [Option.isSome_some]
    exact ⟨.failed, by decide, rfl⟩

theorem observeHttp_fits {tls : PhaseStatus} (htls : tls ∈ passages tlsDue)
    (hdraft : draft.outline = requestedLedger tls) (parsed : ParsedTarget) (proxy : ResolvedProxy)
    (address : SocketAddr) :
    Prog.Triple (At tlsDue (readyState tlsDue))
      (observeHttp (liveBackend env) parsed proxy address draft) (Fits tlsDue) (Fits tlsDue) := by
  intro s hs
  unfold observeHttp
  rw [instant_bind, Prog.bind_apply, Prog.attempt_apply]
  have hready : Ready tlsDue (readyState tlsDue) := by
    cases tlsDue
    · exact rfl
    · exact trivial
  have hbackend := runHttp_moves hready parsed.url proxy address draft.options s.tick hs
  change Prog.Post _ _ ((liveBackend env).runHttp parsed.url proxy address draft.options s.tick)
    at hbackend
  rcases hr : (liveBackend env).runHttp parsed.url proxy address draft.options s.tick with
    ⟨error | ⟨hops, failure⟩, t⟩ <;> rw [hr] at hbackend
  · have hended : AtOneOf tlsDue (httpFailures (readyState tlsDue)) t.tick := hbackend
    exact fits_of_failed hdraft hended (lostLedger_mem tlsDue tls htls) _ _
  · have hended : AtOneOf tlsDue (chainEnds failure) t.tick := hbackend
    obtain ⟨status, hstatus, hredirects⟩ := redirectPhase_outline hops failure
    apply fits_of_mem _ hended (answeredLedger_mem tlsDue failure.isSome tls htls status hstatus)
    refine (congrArg (List.map Phase.outline) (phases_record₃ draft _ _ _)).trans ?_
    rw [List.map_append, ← Draft.outline, hdraft, List.map_cons, List.map_cons, hredirects]
    rfl

/-- All stages, from a run that has recorded nothing. -/
theorem observeAll_fits (hdraft : draft.outline = openedLedger) {parsed : ParsedTarget}
    {proxy : ResolvedProxy} (hdue : tlsDue = true ↔ TlsProbed parsed proxy) :
    Prog.Triple (At tlsDue .start) (observeAll (liveBackend env) parsed proxy draft)
      (Fits tlsDue) (Fits tlsDue) := by
  unfold observeAll
  apply (observeDns_fits hdraft proxy).bind
  rintro ⟨d₁, permitted⟩ s ⟨h₁, hs⟩
  refine (Prog.Triple.bind (observeTcp_fits h₁ permitted) ?_) s hs
  rintro ⟨d₂, address⟩ s ⟨h₂, hs⟩
  refine (Prog.Triple.bind (observeTls_fits h₂ hdue address) ?_) s hs
  rintro d₃ s ⟨⟨tls, htls, h₃⟩, hs⟩
  exact observeHttp_fits htls h₃ parsed proxy address s hs

end

/-- A direct https target has a TLS stage. -/
def Report.tlsDue (report : Report) : Bool :=
  report.target.scheme = "https" && !report.proxy.selected

theorem acceptTarget_scheme {url : Url} {options : InspectionOptions} {parsed : ParsedTarget}
    (h : acceptTarget url options = .ok parsed) : parsed.summary.scheme = parsed.url.scheme := by
  unfold acceptTarget at h
  split_ifs at h
  dsimp only at h
  split at h
  · cases h
  · cases h
    rfl

/-- The phases of a report may stand beside its probes. -/
theorem outline_mem_ledgers [Crates] {env : Environment} {spec : InspectSpec} {report : Report}
    {w : World env} (h : inspect env spec = (.ok report, w)) :
    report.phases.map Phase.outline ∈
      ledgers report.tlsDue (probeState report.tlsDue report.probes) := by
  obtain ⟨o, ho⟩ := inspectWithBackend_eq_ok (liveBackend env) h
  obtain ⟨htarget, hproxy, -⟩ := o.outcome_frame (liveBackend env) env.wallClock (World.start env)
  rw [ho] at htarget hproxy
  obtain ⟨url, -, haccept⟩ := parseTarget_eq_ok o.accepts
  have hdue : report.tlsDue = true ↔ TlsProbed o.parsed o.proxy := by
    rw [Report.tlsDue, htarget, hproxy, acceptTarget_scheme haccept]
    simp [TlsProbed]
  have hopened : (o.draft env.wallClock (World.start env)).outline = openedLedger := rfl
  have hrun := settle_of_post (observeAll_fits hopened hdue
    (openingSession spec.options (World.start env)) rfl)
  obtain rfl :
      (finalized (o.stages (liveBackend env) env.wallClock (World.start env))).1 = report :=
    congrArg Prod.fst ho
  rw [finalized_phases, finalized_probes]
  exact hrun

/-- The failing phases that a probe list may stand beside. -/
def verdicts (tlsDue : Bool) : ProbeState → List (Option PhaseName)
  | .start => [some .dns]
  | .unresolved => [some .dns]
  | .resolved => [some .dns, some .tcp]
  | .connected => if tlsDue then [some .tls] else [some .http]
  | .unsecured => [some .tls]
  | .secured => [some .http]
  | .unanswered => [some .http]
  | .answered => [none, some .http, some .redirects]
  | .astray => [some .redirects]
  | .redirected => [some .redirects, some .http]
  | .dead => []

/-- The failing phase of an outline. -/
def Outline.failedAt (o : Outline) : Option PhaseName := (o.find? (·.2 = .failed)).map Prod.fst

theorem failedAt_mem_verdicts : ∀ tlsDue q, ∀ o ∈ ledgers tlsDue q,
    Outline.failedAt o ∈ verdicts tlsDue q := by
  intro tlsDue q
  cases tlsDue <;> cases q <;> decide

/-- The probes of a report are a word of the automaton, and its failing phase is one that they
leave. -/
theorem inspect_probeLanguage [Crates] {env : Environment} {spec : InspectSpec} {report : Report}
    {w : World env} (h : inspect env spec = (.ok report, w)) :
    report.failedAt ∈ verdicts report.tlsDue (probeState report.tlsDue report.probes) := by
  rw [(scanned_of_inspect h).failedAt, failedAtOf_eq]
  exact failedAt_mem_verdicts _ _ _ (outline_mem_ledgers h)

/-- The front page is answered. -/
theorem frontPage_probeLanguage :
    letI := exampleRecordings.crates
    ∃ report w, inspect frontPage frontPageSpec = (.ok report, w) ∧
      report.failedAt ∈ verdicts report.tlsDue (probeState report.tlsDue report.probes) := by
  let := exampleRecordings.crates
  obtain ⟨report, w, hrun, -⟩ := frontPage_small
  exact ⟨report, w, hrun, inspect_probeLanguage hrun⟩

end HopWhy
