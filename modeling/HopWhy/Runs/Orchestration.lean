import HopWhy.Engine.Inspect

/-!
# The orchestration over any backend

The backend may return anything at each stage and may change the tracker. What
the orchestration makes of it is one of a few rows of phases, and the same holds
of a backend that also writes down which of its stages were called.
-/

namespace HopWhy

inductive Stage where
  | dns
  | tcp
  | tls
  | http
deriving DecidableEq, Repr

/-- The TLS phase of a run that goes on to HTTP. -/
inductive TlsPassage (probed : Prop) : Phase → List Stage → Prop
  | skipped (limitation : String) (h : ¬ probed) :
      TlsPassage probed (skippedPhase .tls limitation) []
  | notObserved (limitation : String) (h : ¬ probed) :
      TlsPassage probed (notObservedPhase .tls limitation) []
  | passed (durationMs : UInt64) (observations : List Observation) (h : probed) :
      TlsPassage probed (passedPhase .tls durationMs observations) [.tls]

/-- The redirect phase of a finished HTTP phase. -/
inductive RedirectVerdict : Phase → Prop
  | failed (durationMs : UInt64) (error : AppError) :
      RedirectVerdict (failedPhase .redirects durationMs error)
  | passed (durationMs : UInt64) (observations : List Observation) :
      RedirectVerdict (passedPhase .redirects durationMs observations)
  | skipped (limitation : String) : RedirectVerdict (skippedPhase .redirects limitation)

/-- The phases after input and proxy, and the stages called for them. -/
inductive PhaseRow (probed : Prop) : List Phase → List Stage → Prop
  | dns (d : UInt64) (error : AppError) : PhaseRow probed [failedPhase .dns d error] [.dns]
  | tcp (d₁ d₂ : UInt64) (o₁ : List Observation) (error : AppError) :
      PhaseRow probed [passedPhase .dns d₁ o₁, failedPhase .tcp d₂ error] [.dns, .tcp]
  | tls (d₁ d₂ d₃ : UInt64) (o₁ o₂ : List Observation) (error : AppError) (h : probed) :
      PhaseRow probed [passedPhase .dns d₁ o₁, passedPhase .tcp d₂ o₂, failedPhase .tls d₃ error]
        [.dns, .tcp, .tls]
  | http (d₁ d₂ d₄ : UInt64) (o₁ o₂ : List Observation) {tls : Phase} {called : List Stage}
      (passage : TlsPassage probed tls called) (error : AppError) :
      PhaseRow probed
        [passedPhase .dns d₁ o₁, passedPhase .tcp d₂ o₂, tls, failedPhase .http d₄ error]
        (.dns :: .tcp :: called ++ [.http])
  | reached (d₁ d₂ d₄ : UInt64) (o₁ o₂ o₄ : List Observation) {tls redirects : Phase}
      {called : List Stage} (passage : TlsPassage probed tls called)
      (verdict : RedirectVerdict redirects) (limitation : String) :
      PhaseRow probed
        [passedPhase .dns d₁ o₁, passedPhase .tcp d₂ o₂, tls, passedPhase .http d₄ o₄, redirects,
          skippedPhase .assertions limitation]
        (.dns :: .tcp :: called ++ [.http])

theorem redirectPhase_verdict (hops : List HttpHop) (failure : Option AppError) :
    RedirectVerdict (redirectPhase hops failure) := by
  unfold redirectPhase
  rcases failure with _ | error
  · dsimp only
    split_ifs with h
    · exact .passed _ _
    · exact .skipped _
  · exact .failed _ _

theorem phases_record₃ (draft : Draft) (a b c : Phase) :
    (((draft.record a).record b).record c).phases = draft.phases ++ [a, b, c] := by
  simp [Draft.record]

structure Recorded (σ : Type) where
  world : σ
  stages : List Stage

instance {σ : Type} [Clock σ] : Clock (Recorded σ) where
  now r := ((Clock.now r.world).1, { r with world := (Clock.now r.world).2 })

variable {σ : Type}

/-- The session behind a recorded one. -/
def Recorded.plain (s : Session (Recorded σ)) : Session σ := ⟨s.tracker, s.world.world⟩

def recordingStage {α : Type} (stage : Stage) (m : Prog (Session σ) AppError α) :
    Prog (Session (Recorded σ)) AppError α := fun s =>
  ((m (Recorded.plain s)).1,
    { tracker := (m (Recorded.plain s)).2.tracker
      world := ⟨(m (Recorded.plain s)).2.world, s.world.stages ++ [stage]⟩ })

def recording (backend : DiagnosticBackend σ) : DiagnosticBackend (Recorded σ) where
  resolveAddresses proxy options := recordingStage .dns (backend.resolveAddresses proxy options)
  connectFirst addresses options := recordingStage .tcp (backend.connectFirst addresses options)
  probeTls address host showAddresses :=
    recordingStage .tls (backend.probeTls address host showAddresses)
  runHttp url proxy address options :=
    recordingStage .http (backend.runHttp url proxy address options)

/-- The run reports, and the report passes the test. -/
def Reports (run : AppResult Report × σ) (test : Report → σ → Bool) : Bool :=
  match run.1 with
  | .ok report => test report run.2
  | .error _ => false

theorem exists_of_reports {run : AppResult Report × σ} {test : Report → σ → Bool}
    (h : Reports run test) : ∃ report w, run = (.ok report, w) ∧ test report w := by
  rcases run with ⟨error | report, w⟩
  · cases h
  · exact ⟨report, w, rfl, h⟩

variable [Clock σ]

/-- The stages called so far. -/
def Called (called : List Stage) (s : Session (Recorded σ)) : Prop := s.world.stages = called

variable (backend : DiagnosticBackend σ) (called : List Stage)

theorem observeDns_triple [Crates] (proxy : ResolvedProxy) (draft : Draft) :
    Prog.Triple (Called called) (observeDns (recording backend) proxy draft)
      (fun r t => Called (called ++ [.dns]) t ∧
        ∃ ms observations, r.1.phases = draft.phases ++ [passedPhase .dns ms observations])
      (fun d t => Called (called ++ [.dns]) t ∧
        ∃ ms error, d.phases = draft.phases ++ [failedPhase .dns ms error]) := by
  intro s hs
  unfold observeDns
  rw [instant_bind, Prog.bind_apply, Prog.attempt_apply]
  have hcalled : Called (called ++ [.dns])
      ((recording backend).resolveAddresses proxy draft.options s.tick).2 :=
    congrArg (· ++ [Stage.dns]) hs
  rcases ((recording backend).resolveAddresses proxy draft.options s.tick).1 with
    error | ⟨all, permitted⟩
  · exact ⟨hcalled, _, _, rfl⟩
  · dsimp only
    split_ifs with hempty
    · exact ⟨hcalled, _, _, rfl⟩
    · exact ⟨hcalled, _, _, rfl⟩

theorem observeTcp_triple [Crates] (permitted : List SocketAddr) (draft : Draft) :
    Prog.Triple (Called called) (observeTcp (recording backend) permitted draft)
      (fun r t => Called (called ++ [.tcp]) t ∧
        ∃ ms observations, r.1.phases = draft.phases ++ [passedPhase .tcp ms observations])
      (fun d t => Called (called ++ [.tcp]) t ∧
        ∃ ms error, d.phases = draft.phases ++ [failedPhase .tcp ms error]) := by
  intro s hs
  unfold observeTcp
  rw [instant_bind, Prog.bind_apply, Prog.attempt_apply]
  have hcalled : Called (called ++ [.tcp])
      ((recording backend).connectFirst permitted draft.options s.tick).2 :=
    congrArg (· ++ [Stage.tcp]) hs
  rcases ((recording backend).connectFirst permitted draft.options s.tick).1 with error | address
  · exact ⟨hcalled, _, _, rfl⟩
  · exact ⟨hcalled, _, _, rfl⟩

/-- The TLS stage is called for a direct https target. -/
def TlsProbed (parsed : ParsedTarget) (proxy : ResolvedProxy) : Prop :=
  parsed.url.scheme = "https" ∧ proxy.summary.selected = false

theorem observeTls_triple (parsed : ParsedTarget) (proxy : ResolvedProxy) (address : SocketAddr)
    (draft : Draft) :
    Prog.Triple (Called called) (observeTls (recording backend) parsed proxy address draft)
      (fun d t => ∃ tls more, TlsPassage (TlsProbed parsed proxy) tls more ∧
        Called (called ++ more) t ∧ d.phases = draft.phases ++ [tls])
      (fun d t => TlsProbed parsed proxy ∧ Called (called ++ [.tls]) t ∧
        ∃ ms error, d.phases = draft.phases ++ [failedPhase .tls ms error]) := by
  intro s hs
  unfold observeTls
  rw [instant_bind, Prog.ite_apply]
  split_ifs with hscheme hselected
  · exact ⟨_, [], .skipped _ fun h => hscheme h.1, by rw [List.append_nil]; exact hs, rfl⟩
  · have hskips : ¬ TlsProbed parsed proxy := fun h => by simp [h.2] at hselected
    exact ⟨_, [], .notObserved _ hskips, by rw [List.append_nil]; exact hs, rfl⟩
  · have hprobed : TlsProbed parsed proxy := ⟨not_not.mp hscheme, by simpa using hselected⟩
    rw [Prog.bind_apply, Prog.attempt_apply]
    have hcalled : Called (called ++ [.tls]) ((recording backend).probeTls address
        parsed.summary.host draft.options.showAddresses s.tick).2 :=
      congrArg (· ++ [Stage.tls]) hs
    rcases ((recording backend).probeTls address parsed.summary.host
        draft.options.showAddresses s.tick).1 with error | summary
    · exact ⟨hprobed, hcalled, _, _, rfl⟩
    · exact ⟨_, _, .passed _ _ hprobed, hcalled, rfl⟩

theorem observeHttp_triple (parsed : ParsedTarget) (proxy : ResolvedProxy) (address : SocketAddr)
    (draft : Draft) :
    Prog.Triple (Called called) (observeHttp (recording backend) parsed proxy address draft)
      (fun d t => Called (called ++ [.http]) t ∧ ∃ ms observations redirects limitation,
        RedirectVerdict redirects ∧ d.phases = draft.phases ++
          [passedPhase .http ms observations, redirects, skippedPhase .assertions limitation])
      (fun d t => Called (called ++ [.http]) t ∧
        ∃ ms error, d.phases = draft.phases ++ [failedPhase .http ms error]) := by
  intro s hs
  unfold observeHttp
  rw [instant_bind, Prog.bind_apply, Prog.attempt_apply]
  have hcalled : Called (called ++ [.http])
      ((recording backend).runHttp parsed.url proxy address draft.options s.tick).2 :=
    congrArg (· ++ [Stage.http]) hs
  rcases ((recording backend).runHttp parsed.url proxy address draft.options s.tick).1 with
    error | ⟨hops, failure⟩
  · exact ⟨hcalled, _, _, rfl⟩
  · exact ⟨hcalled, _, _, _, _, redirectPhase_verdict hops failure, phases_record₃ _ _ _ _⟩

/-- The whole orchestration, from the phases it opens with. -/
theorem observeAll_triple [Crates] (parsed : ParsedTarget) (proxy : ResolvedProxy)
    (draft : Draft) :
    Prog.Triple (Called []) (observeAll (recording backend) parsed proxy draft)
      (fun d t => ∃ row, d.phases = draft.phases ++ row ∧
        PhaseRow (TlsProbed parsed proxy) row t.world.stages)
      (fun d t => ∃ row, d.phases = draft.phases ++ row ∧
        PhaseRow (TlsProbed parsed proxy) row t.world.stages) := by
  unfold observeAll
  -- Each stage starts with the calls and the phases of the stages before it.
  refine Prog.Triple.bind ((observeDns_triple backend [] proxy draft).conseq (fun _ h => h)
    (fun _ _ h => h) ?_) ?_
  · rintro d t ⟨hcalled, ms, error, hphases⟩
    exact ⟨_, hphases, hcalled ▸ .dns ms error⟩
  rintro ⟨d₁, permitted⟩ s ⟨hcalled, ms₁, o₁, hphases₁⟩
  refine Prog.Triple.bind ((observeTcp_triple backend [.dns] permitted d₁).conseq (fun _ h => h)
    (fun _ _ h => h) ?_) ?_ s hcalled
  · rintro d t ⟨hcalled, ms, error, hphases⟩
    rw [hphases₁, List.append_assoc] at hphases
    exact ⟨_, hphases, hcalled ▸ .tcp ms₁ ms o₁ error⟩
  rintro ⟨d₂, address⟩ s ⟨hcalled, ms₂, o₂, hphases₂⟩
  rw [hphases₁, List.append_assoc] at hphases₂
  refine Prog.Triple.bind ((observeTls_triple backend [.dns, .tcp] parsed proxy address d₂).conseq
    (fun _ h => h) (fun _ _ h => h) ?_) ?_ s hcalled
  · rintro d t ⟨hprobed, hcalled, ms, error, hphases⟩
    rw [hphases₂, List.append_assoc] at hphases
    exact ⟨_, hphases, hcalled ▸ .tls ms₁ ms₂ ms o₁ o₂ error hprobed⟩
  rintro d₃ s ⟨tls, more, hpassage, hcalled, hphases₃⟩
  rw [hphases₂, List.append_assoc] at hphases₃
  refine ((observeHttp_triple backend _ parsed proxy address d₃).conseq
    (fun _ h => h) ?_ ?_) s hcalled
  · rintro d t ⟨hcalled, ms, observations, redirects, limitation, hverdict, hphases⟩
    rw [hphases₃, List.append_assoc] at hphases
    exact ⟨_, hphases, hcalled ▸ .reached ms₁ ms₂ ms o₁ o₂ observations hpassage hverdict
      limitation⟩
  · rintro d t ⟨hcalled, ms, error, hphases⟩
    rw [hphases₃, List.append_assoc] at hphases
    exact ⟨_, hphases, hcalled ▸ .http ms₁ ms₂ ms o₁ o₂ hpassage error⟩

/-- The session in which the stages begin: the clock was read for the tracker
and twice for the proxy phase. -/
def openingSession (options : InspectionOptions) (w : σ) : Session σ :=
  (Session.mk (.new options (Clock.now w).1) (Clock.now w).2).tick.tick

def openingProxyMs (w : σ) : UInt64 :=
  let w₁ := (Clock.now w).2
  saturatingU64 (((Clock.now (Clock.now w₁).2).1 - (Clock.now w₁).1) / 1000000)

omit [Clock σ] in
/-- What holds of both outcomes holds of the draft that is finalized. -/
theorem settle_of_post {P : Draft → Session σ → Prop} {run : Except Draft Draft × Session σ}
    (h : Prog.Post P P run) : P (settle run.1) run.2 := by
  rcases run with ⟨draft | draft, s⟩
  · exact h
  · exact h

variable [Crates]

/-- The report of finished stages, and the world when it is written. -/
def finalized (run : Except Draft Draft × Session σ) : Report × σ :=
  (sealReport (unsealedReport (settle run.1) run.2.tracker
    (saturatingU64 ((run.2.reading - run.2.tracker.started) / 1000000))), run.2.tick.world)

theorem finalized_http (run : Except Draft Draft × Session σ) :
    (finalized run).1.http = (settle run.1).http := rfl

theorem finalized_phases (run : Except Draft Draft × Session σ) :
    (finalized run).1.phases = (settle run.1).phases := rfl

theorem finalized_failedAt (run : Except Draft Draft × Session σ) :
    (finalized run).1.failedAt = failedAtOf (settle run.1).phases := rfl

theorem finalized_probes (run : Except Draft Draft × Session σ) :
    (finalized run).1.probes = run.2.tracker.probes := rfl

/-- The inputs that a run is past when its stages begin. -/
structure Opening (envVar : String → Option String) (spec : InspectSpec) where
  parsed : ParsedTarget
  proxy : ResolvedProxy
  valid : validateOptions spec.options = .ok ()
  accepts : parseTarget spec.target spec.options = .ok parsed
  selects : resolveProxy envVar parsed.url spec.options = .ok proxy

/-- A spec opens in one way. -/
theorem Opening.eq {envVar : String → Option String} {spec : InspectSpec}
    (o o' : Opening envVar spec) : o = o' := by
  obtain ⟨parsed, proxy, valid, accepts, selects⟩ := o
  obtain ⟨parsed', proxy', valid', accepts', selects'⟩ := o'
  obtain rfl : parsed = parsed' := Except.ok.inj (accepts.symm.trans accepts')
  obtain rfl : proxy = proxy' := Except.ok.inj (selects.symm.trans selects')
  rfl

namespace Opening

variable {envVar : String → Option String} {spec : InspectSpec} (o : Opening envVar spec)

def draft (wallClock : ℤ) (w : σ) : Draft :=
  openingDraft spec.options wallClock o.parsed o.proxy (openingProxyMs w)

/-- The stages of the run. -/
def stages (wallClock : ℤ) (w : σ) : Except Draft Draft × Session σ :=
  observeAll backend o.parsed o.proxy (o.draft wallClock w) (openingSession spec.options w)

/-- The report of the run, and the world when it is written. -/
def outcome (wallClock : ℤ) (w : σ) : Report × σ := finalized (o.stages backend wallClock w)

end Opening

/-- Past the checks an inspection always reports. -/
theorem inspectWithBackend_opening {envVar : String → Option String} {spec : InspectSpec}
    (o : Opening envVar spec) (wallClock : ℤ) (w : σ) :
    inspectWithBackend backend envVar wallClock spec w =
      (.ok (o.outcome backend wallClock w).1, (o.outcome backend wallClock w).2) := by
  unfold inspectWithBackend
  rw [o.valid, Prog.bind_ok (Prog.ofExcept_apply _ _), o.accepts,
    Prog.bind_ok (Prog.ofExcept_apply _ _)]
  dsimp only [withTracker, inspectSession]
  rw [instant_bind, o.selects]
  rfl

/-- An inspection fails one of its checks, the last of them after two clock readings, or
it runs the stages and reports. -/
theorem inspectWithBackend_cases (envVar : String → Option String) (wallClock : ℤ)
    (spec : InspectSpec) (w : σ) :
    (∃ error, validateOptions spec.options = .error error ∧
      inspectWithBackend backend envVar wallClock spec w = (.error error, w)) ∨
    (∃ error, parseTarget spec.target spec.options = .error error ∧
      inspectWithBackend backend envVar wallClock spec w = (.error error, w)) ∨
    (∃ (parsed : ParsedTarget) (error : AppError),
      resolveProxy envVar parsed.url spec.options = .error error ∧
      inspectWithBackend backend envVar wallClock spec w =
        (.error error, (Clock.now (Clock.now w).2).2)) ∨
    ∃ o : Opening envVar spec, inspectWithBackend backend envVar wallClock spec w =
      (.ok (o.outcome backend wallClock w).1, (o.outcome backend wallClock w).2) := by
  rcases hvalid : validateOptions spec.options with error | u
  · refine Or.inl ⟨error, rfl, ?_⟩
    rw [inspectWithBackend, hvalid, Prog.bind_apply]
    rfl
  rcases hparsed : parseTarget spec.target spec.options with error | parsed
  · refine Or.inr (Or.inl ⟨error, rfl, ?_⟩)
    rw [inspectWithBackend, hvalid, hparsed, Prog.bind_apply]
    rfl
  rcases hproxy : resolveProxy envVar parsed.url spec.options with error | proxy
  · refine Or.inr (Or.inr (Or.inl ⟨parsed, error, hproxy, ?_⟩))
    unfold inspectWithBackend
    rw [hvalid, Prog.bind_ok (Prog.ofExcept_apply _ _), hparsed,
      Prog.bind_ok (Prog.ofExcept_apply _ _)]
    dsimp only [withTracker, inspectSession]
    rw [instant_bind, Prog.bind_apply, hproxy]
    rfl
  · exact Or.inr (Or.inr (Or.inr ⟨⟨parsed, proxy, hvalid, hparsed, hproxy⟩,
      inspectWithBackend_opening backend _ wallClock w⟩))

/-- An inspection that reports has passed the checks and run the stages. -/
theorem inspectWithBackend_eq_ok {envVar : String → Option String} {wallClock : ℤ}
    {spec : InspectSpec} {w w' : σ} {report : Report}
    (h : inspectWithBackend backend envVar wallClock spec w = (.ok report, w')) :
    ∃ o : Opening envVar spec, o.outcome backend wallClock w = (report, w') := by
  rcases inspectWithBackend_cases backend envVar wallClock spec w with
    ⟨error, -, hrun⟩ | ⟨error, -, hrun⟩ | ⟨parsed, error, -, hrun⟩ | ⟨o, hrun⟩
  · rw [hrun] at h
    cases h
  · rw [hrun] at h
    cases h
  · rw [hrun] at h
    cases h
  · rw [hrun] at h
    cases h
    exact ⟨o, rfl⟩

/-- An inspection that does not report has failed one of the checks. -/
theorem inspectWithBackend_eq_error {envVar : String → Option String} {wallClock : ℤ}
    {spec : InspectSpec} {w w' : σ} {error : AppError}
    (h : inspectWithBackend backend envVar wallClock spec w = (.error error, w')) :
    validateOptions spec.options = .error error ∨
      parseTarget spec.target spec.options = .error error ∨
      ∃ parsed : ParsedTarget, resolveProxy envVar parsed.url spec.options = .error error := by
  rcases inspectWithBackend_cases backend envVar wallClock spec w with
    ⟨e, hvalid, hrun⟩ | ⟨e, hparsed, hrun⟩ | ⟨parsed, e, hproxy, hrun⟩ | ⟨o, hrun⟩
  · rw [hrun] at h
    cases h
    exact Or.inl hvalid
  · rw [hrun] at h
    cases h
    exact Or.inr (Or.inl hparsed)
  · rw [hrun] at h
    cases h
    exact Or.inr (Or.inr ⟨parsed, hproxy⟩)
  · rw [hrun] at h
    cases h

open Prog (Mirrors)

variable {ε : Type}

omit [Crates] in
theorem instant_mirrors :
    Mirrors Recorded.plain (instant : Prog (Session (Recorded σ)) ε ℕ) instant := fun _ => rfl

omit [Crates] in
theorem elapsedMs_mirrors (started : ℕ) :
    Mirrors Recorded.plain (elapsedMs started : Prog (Session (Recorded σ)) ε UInt64)
      (elapsedMs started) := fun _ => rfl

omit [Crates] in
theorem stopWith_mirrors {α : Type} (draft : Draft) (name : PhaseName) (started : ℕ)
    (error : AppError) :
    Mirrors Recorded.plain (stopWith draft name started error : Observe (Recorded σ) α)
      (stopWith draft name started error) := fun _ => rfl

omit [Crates] [Clock σ] in
theorem recordingStage_mirrors {α : Type} (stage : Stage) (m : Prog (Session σ) AppError α) :
    Mirrors Recorded.plain (recordingStage stage m) m := fun _ => rfl

theorem observeAll_mirrors (parsed : ParsedTarget) (proxy : ResolvedProxy) (draft : Draft) :
    Mirrors Recorded.plain (observeAll (recording backend) parsed proxy draft)
      (observeAll backend parsed proxy draft) := by
  refine Mirrors.bind ?dns fun ⟨d₁, permitted⟩ => Mirrors.bind ?tcp fun ⟨d₂, address⟩ =>
    Mirrors.bind ?tls fun d₃ => ?http
  case dns =>
    refine Mirrors.bind instant_mirrors fun started =>
      Mirrors.bind (Mirrors.attempt (recordingStage_mirrors .dns _)) ?_
    rintro (error | ⟨all, permitted⟩)
    · exact stopWith_mirrors _ _ _ _
    · dsimp only
      split_ifs with hempty
      · exact stopWith_mirrors _ _ _ _
      · exact Mirrors.bind (elapsedMs_mirrors started) fun _ => Mirrors.pure _
  case tcp =>
    refine Mirrors.bind instant_mirrors fun started =>
      Mirrors.bind (Mirrors.attempt (recordingStage_mirrors .tcp _)) ?_
    rintro (error | address)
    · exact stopWith_mirrors _ _ _ _
    · exact Mirrors.bind (elapsedMs_mirrors started) fun _ => Mirrors.pure _
  case tls =>
    refine Mirrors.bind instant_mirrors fun started => ?_
    split_ifs with hscheme hselected
    · exact Mirrors.pure _
    · exact Mirrors.pure _
    · refine Mirrors.bind (Mirrors.attempt (recordingStage_mirrors .tls _)) ?_
      rintro (error | summary)
      · exact stopWith_mirrors _ _ _ _
      · exact Mirrors.bind (elapsedMs_mirrors started) fun _ => Mirrors.pure _
  case http =>
    refine Mirrors.bind instant_mirrors fun started =>
      Mirrors.bind (Mirrors.attempt (recordingStage_mirrors .http _)) ?_
    rintro (error | ⟨hops, failure⟩)
    · exact stopWith_mirrors _ _ _ _
    · exact Mirrors.bind (elapsedMs_mirrors started) fun _ => Mirrors.pure _

/-- The recorded run of an inspection has the same report. -/
theorem outcome_recording {envVar : String → Option String} {spec : InspectSpec}
    (o : Opening envVar spec) (wallClock : ℤ) (w : σ) (stages : List Stage) :
    (o.outcome (recording backend) wallClock ⟨w, stages⟩).1 = (o.outcome backend wallClock w).1 ∧
      (o.outcome (recording backend) wallClock ⟨w, stages⟩).2.world =
        (o.outcome backend wallClock w).2 := by
  have h := observeAll_mirrors backend o.parsed o.proxy (o.draft wallClock w)
    (openingSession spec.options ⟨w, stages⟩)
  change o.stages backend wallClock w = _ at h
  unfold Opening.outcome
  rw [h]
  exact ⟨rfl, rfl⟩

/-- The parts of a draft that are written before the stages. -/
structure Draft.Frame (draft d : Draft) : Prop where
  target : d.target = draft.target
  proxy : d.proxy = draft.proxy
  options : d.options = draft.options
  started : d.startedAtUnixMs = draft.startedAtUnixMs

omit [Crates] in
theorem Draft.Frame.trans {a b c : Draft} (h : a.Frame b) (k : b.Frame c) : a.Frame c :=
  ⟨k.target.trans h.target, k.proxy.trans h.proxy, k.options.trans h.options,
    k.started.trans h.started⟩

omit [Crates] [Clock σ] in
theorem Draft.frame_record (draft : Draft) (phase : Phase) : draft.Frame (draft.record phase) :=
  ⟨rfl, rfl, rfl, rfl⟩

/-- The stage keeps the frame, whether it goes on or stops, and a stop leaves a
failed phase. -/
abbrev Settles {α : Type} (draft : Draft) (m : Observe σ α) (result : α → Draft) : Prop :=
  Prog.Triple (fun _ => True) m (fun a _ => draft.Frame (result a))
    (fun d _ => draft.Frame d ∧ ∃ p ∈ d.phases, p.status = .failed)

omit [Crates] [Clock σ] in
theorem Settles.bind {α β : Type} {draft : Draft} {m : Observe σ α} {f : α → Observe σ β}
    {result : α → Draft} {result' : β → Draft} (h : Settles draft m result)
    (h' : ∀ a, Settles (result a) (f a) result') : Settles draft (m >>= f) result' := by
  refine Prog.Triple.bind_related (R := Draft.Frame)
    (F := fun a d => a.Frame d ∧ ∃ p ∈ d.phases, p.status = .failed) Draft.Frame.trans ?_ h h'
  rintro a b d hframe ⟨hkept, hfailed⟩
  exact ⟨hframe.trans hkept, hfailed⟩

omit [Crates] [Clock σ] in
theorem Draft.frame_failed (draft : Draft) {d : Draft} (h : draft.Frame d) (name : PhaseName)
    (durationMs : UInt64) (error : AppError) :
    draft.Frame (d.record (failedPhase name durationMs error)) ∧
      ∃ p ∈ (d.record (failedPhase name durationMs error)).phases, p.status = .failed :=
  ⟨h.trans (d.frame_record _), _, List.mem_append_right _ List.mem_cons_self, rfl⟩

theorem observeDns_settles (proxy : ResolvedProxy) (draft : Draft) :
    Settles draft (observeDns backend proxy draft) Prod.fst := by
  intro s _
  unfold observeDns
  rw [instant_bind, Prog.bind_apply, Prog.attempt_apply]
  rcases (backend.resolveAddresses proxy draft.options s.tick).1 with error | ⟨all, permitted⟩
  · exact draft.frame_failed ⟨rfl, rfl, rfl, rfl⟩ _ _ _
  · dsimp only
    split_ifs with hempty
    · exact draft.frame_failed
        (d := { draft with addresses := all.map (observeAddress draft.options) })
        ⟨rfl, rfl, rfl, rfl⟩ _ _ _
    · exact ⟨rfl, rfl, rfl, rfl⟩

theorem observeTcp_settles (permitted : List SocketAddr) (draft : Draft) :
    Settles draft (observeTcp backend permitted draft) Prod.fst := by
  intro s _
  unfold observeTcp
  rw [instant_bind, Prog.bind_apply, Prog.attempt_apply]
  rcases (backend.connectFirst permitted draft.options s.tick).1 with error | address
  · exact draft.frame_failed ⟨rfl, rfl, rfl, rfl⟩ _ _ _
  · exact draft.frame_record _

omit [Crates] in
theorem observeTls_settles (parsed : ParsedTarget) (proxy : ResolvedProxy) (address : SocketAddr)
    (draft : Draft) : Settles draft (observeTls backend parsed proxy address draft) id := by
  intro s _
  unfold observeTls
  rw [instant_bind, Prog.ite_apply]
  split_ifs with hscheme hselected
  · exact draft.frame_record _
  · exact ⟨rfl, rfl, rfl, rfl⟩
  · rw [Prog.bind_apply, Prog.attempt_apply]
    rcases (backend.probeTls address parsed.summary.host draft.options.showAddresses s.tick).1 with
      error | summary
    · exact draft.frame_failed ⟨rfl, rfl, rfl, rfl⟩ _ _ _
    · exact ⟨rfl, rfl, rfl, rfl⟩

omit [Crates] in
theorem observeHttp_settles (parsed : ParsedTarget) (proxy : ResolvedProxy) (address : SocketAddr)
    (draft : Draft) : Settles draft (observeHttp backend parsed proxy address draft) id := by
  intro s _
  unfold observeHttp
  rw [instant_bind, Prog.bind_apply, Prog.attempt_apply]
  rcases (backend.runHttp parsed.url proxy address draft.options s.tick).1 with
    error | ⟨hops, failure⟩
  · exact draft.frame_failed ⟨rfl, rfl, rfl, rfl⟩ _ _ _
  · exact ⟨rfl, rfl, rfl, rfl⟩

theorem observeAll_settles (parsed : ParsedTarget) (proxy : ResolvedProxy) (draft : Draft) :
    Settles draft (observeAll backend parsed proxy draft) id := by
  apply (observeDns_settles backend proxy draft).bind
  rintro ⟨d₁, permitted⟩
  apply (observeTcp_settles backend permitted d₁).bind
  rintro ⟨d₂, address⟩
  apply (observeTls_settles backend parsed proxy address d₂).bind
  intro d₃
  exact observeHttp_settles backend parsed proxy address d₃

/-- A report keeps the target, the options and the start of its run. -/
theorem Opening.outcome_frame {envVar : String → Option String} {spec : InspectSpec}
    (o : Opening envVar spec) (wallClock : ℤ) (w : σ) :
    (o.outcome backend wallClock w).1.target = o.parsed.summary ∧
      (o.outcome backend wallClock w).1.proxy = o.proxy.summary ∧
      (o.outcome backend wallClock w).1.options = spec.options := by
  have hsettles := observeAll_settles backend o.parsed o.proxy (o.draft wallClock w)
    (openingSession spec.options w) trivial
  unfold Opening.outcome Opening.stages
  rcases hrun : observeAll backend o.parsed o.proxy (o.draft wallClock w)
    (openingSession spec.options w) with ⟨d | d, t⟩
  · rw [hrun] at hsettles
    obtain ⟨hframe, -⟩ := hsettles
    exact ⟨hframe.target, hframe.proxy, hframe.options⟩
  · rw [hrun] at hsettles
    have hframe : (o.draft wallClock w).Frame d := hsettles
    exact ⟨hframe.target, hframe.proxy, hframe.options⟩

end HopWhy
