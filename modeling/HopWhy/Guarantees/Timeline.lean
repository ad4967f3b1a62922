import Mathlib.Algebra.GroupWithZero.Nat
import HopWhy.Runs.Orchestration
import HopWhy.Runs.Timeline

/-!
# The timeline of a report

Probes are timed from the start of the run, phases from readings of their own,
and every duration is truncated. The phases follow one another, so what they
took is no more than what the run took, and the last probe is over before the
run is timed.
-/

namespace HopWhy

/-- What these phases took, in milliseconds. -/
def phasesMs (phases : List Phase) : ℕ := (phases.map fun p => p.durationMs.toNat).sum

/-- The probes and the phases of a report fit into its time. -/
structure ConsistentTimeline (report : Report) : Prop where
  ordered : OneAfterAnother report.probes
  ended : ∀ last, report.probes.getLast? = some last → last.endMs ≤ report.usage.elapsedMs.toNat
  spent : phasesMs report.phases ≤ report.usage.elapsedMs.toNat

/-- The milliseconds of the run are truncated durations, and none is cut off by its type. -/
def World.Exact {env : Environment} (w : World env) : Prop :=
  ∀ n < w.step, (env.time n - env.time 0) / 1000000 < 2 ^ 64

@[simp] theorem phasesMs_record (draft : Draft) (phase : Phase) :
    phasesMs (draft.record phase).phases = phasesMs draft.phases + phase.durationMs.toNat := by
  simp [phasesMs, Draft.record]

section

variable {env : Environment} {began since : ℕ} {draft : Draft} {s : Session (World env)}

/-- The probes are in order, and the phases of the draft fit into the time so far. -/
def InTime (began : ℕ) (draft : Draft) (s : Session (World env)) : Prop :=
  Sequenced began (began + phasesMs draft.phases * 1000000) s

/-- A stage takes the time before it does anything else. -/
theorem InTime.enter (h : InTime began draft s) : Sequenced began s.reading s.tick := by
  have htick := h.along (leads_tick s) rfl
  apply htick.remark (h.begins.trans h.reached)
  rw [step_tick]
  exact env.time_mono (Nat.le_add_right _ 1)

theorem InTime.stage {α : Type} {m : Live env α} (h : InTime began draft s)
    (hm : InOrder began s.reading m) : ∃ r t, m s.tick = (r, t) ∧ Sequenced began s.reading t := by
  have hstage := hm s.tick h.enter
  rcases hrun : m s.tick with ⟨error | a, t⟩
  · rw [hrun] at hstage
    exact ⟨_, t, rfl, hstage⟩
  · rw [hrun] at hstage
    exact ⟨_, t, rfl, hstage⟩

/-- A stage that is over is timed and recorded. -/
theorem InTime.leave {t : Session (World env)} (h : InTime began draft s)
    (ht : Sequenced began s.reading t) {d : Draft}
    (hd : phasesMs d.phases =
      phasesMs draft.phases + (saturatingU64 ((t.reading - s.reading) / 1000000)).toNat) :
    InTime began d t.tick := by
  have htick := ht.along (leads_tick t) rfl
  have helapsed := elapsed_le ht.reached
  apply htick.remark (Nat.le_add_right _ _)
  rw [hd, Nat.add_mul, ← Nat.add_assoc, step_tick]
  exact ((Nat.add_le_add_right h.reached _).trans helapsed).trans
    (env.time_mono (Nat.le_add_right _ 1))

/-- A stage that takes no time of its own. -/
theorem InTime.skip (h : InTime began draft s) {d : Draft}
    (hd : phasesMs d.phases = phasesMs draft.phases) : InTime began d s.tick := by
  have htick := h.along (leads_tick s) rfl
  unfold InTime
  rw [hd]
  exact htick

/-- The stages of the backend leave a session in order. -/
structure KeepsOrder (backend : DiagnosticBackend (World env)) : Prop where
  resolveAddresses : ∀ began mark proxy options,
    InOrder began mark (backend.resolveAddresses proxy options)
  connectFirst : ∀ began mark addresses options,
    InOrder began mark (backend.connectFirst addresses options)
  probeTls : ∀ began mark address host showAddresses,
    InOrder began mark (backend.probeTls address host showAddresses)
  runHttp : ∀ began mark url proxy address options,
    InOrder began mark (backend.runHttp url proxy address options)

variable [Crates]

theorem keepsOrder_liveBackend (env : Environment) : KeepsOrder (liveBackend env) where
  resolveAddresses _ _ := resolveAddresses_inOrder
  connectFirst _ _ := connectFirst_inOrder
  probeTls _ _ := probeTls_inOrder
  runHttp _ _ := runHttp_inOrder

variable {backend : DiagnosticBackend (World env)}

theorem observeDns_inTime (h : KeepsOrder backend) (proxy : ResolvedProxy) (draft : Draft) :
    Prog.Triple (InTime began draft) (observeDns backend proxy draft)
      (fun r t => InTime began r.1 t) (fun d t => InTime began d t) := by
  intro s hs
  obtain ⟨r, t, hrun, ht⟩ := hs.stage (h.resolveAddresses _ _ proxy draft.options)
  unfold observeDns
  rw [instant_bind, Prog.bind_apply, Prog.attempt_apply, hrun]
  rcases r with error | ⟨all, permitted⟩
  · exact hs.leave ht (phasesMs_record _ _)
  · dsimp only
    split_ifs with hempty
    · exact hs.leave ht (phasesMs_record _ _)
    · exact hs.leave ht (phasesMs_record _ _)

theorem observeTcp_inTime (h : KeepsOrder backend) (permitted : List SocketAddr) (draft : Draft) :
    Prog.Triple (InTime began draft) (observeTcp backend permitted draft)
      (fun r t => InTime began r.1 t) (fun d t => InTime began d t) := by
  intro s hs
  obtain ⟨r, t, hrun, ht⟩ := hs.stage (h.connectFirst _ _ permitted draft.options)
  unfold observeTcp
  rw [instant_bind, Prog.bind_apply, Prog.attempt_apply, hrun]
  rcases r with error | address
  · exact hs.leave ht (phasesMs_record _ _)
  · exact hs.leave ht (phasesMs_record _ _)

omit [Crates] in
theorem observeTls_inTime (h : KeepsOrder backend) (parsed : ParsedTarget) (proxy : ResolvedProxy)
    (address : SocketAddr) (draft : Draft) :
    Prog.Triple (InTime began draft) (observeTls backend parsed proxy address draft)
      (fun d t => InTime began d t) (fun d t => InTime began d t) := by
  intro s hs
  unfold observeTls
  rw [instant_bind, Prog.ite_apply]
  split_ifs with hscheme hselected
  · exact hs.skip (phasesMs_record _ _)
  · exact hs.skip (phasesMs_record _ _)
  · obtain ⟨r, t, hrun, ht⟩ := hs.stage
      (h.probeTls _ _ address parsed.summary.host draft.options.showAddresses)
    rw [Prog.bind_apply, Prog.attempt_apply, hrun]
    rcases r with error | summary
    · exact hs.leave ht (phasesMs_record _ _)
    · exact hs.leave ht (phasesMs_record _ _)

omit [Crates] in
theorem durationMs_redirectPhase (hops : List HttpHop) (failure : Option AppError) :
    (redirectPhase hops failure).durationMs = 0 := by
  unfold redirectPhase
  split
  · rfl
  · split_ifs
    · rfl
    · rfl

omit [Crates] in
theorem observeHttp_inTime (h : KeepsOrder backend) (parsed : ParsedTarget) (proxy : ResolvedProxy)
    (address : SocketAddr) (draft : Draft) :
    Prog.Triple (InTime began draft) (observeHttp backend parsed proxy address draft)
      (fun d t => InTime began d t) (fun d t => InTime began d t) := by
  intro s hs
  obtain ⟨r, t, hrun, ht⟩ := hs.stage (h.runHttp _ _ parsed.url proxy address draft.options)
  unfold observeHttp
  rw [instant_bind, Prog.bind_apply, Prog.attempt_apply, hrun]
  rcases r with error | ⟨hops, failure⟩
  · exact hs.leave ht (phasesMs_record _ _)
  · -- The phases of the redirects and of the assertions are not timed.
    apply hs.leave ht
    change phasesMs (((draft.record _).record (redirectPhase hops failure)).record _).phases = _
    rw [phasesMs_record, phasesMs_record, phasesMs_record, durationMs_redirectPhase]
    rfl

theorem observeAll_inTime (h : KeepsOrder backend) (parsed : ParsedTarget) (proxy : ResolvedProxy)
    (draft : Draft) :
    Prog.Triple (InTime began draft) (observeAll backend parsed proxy draft)
      (fun d t => InTime began d t) (fun d t => InTime began d t) := by
  apply (observeDns_inTime h proxy draft).bind
  rintro ⟨d₁, permitted⟩
  apply (observeTcp_inTime h permitted d₁).bind
  rintro ⟨d₂, address⟩
  apply (observeTls_inTime h parsed proxy address d₂).bind
  intro d₃
  exact observeHttp_inTime h parsed proxy address d₃

omit [Crates] in
/-- The clock is read for the tracker and twice for the proxy phase before the stages begin. -/
theorem inTime_openingSession {options : InspectionOptions} {draft : Draft}
    (hphases : phasesMs draft.phases = (openingProxyMs (World.start env)).toNat) :
    InTime (env.time 0) draft (openingSession options (World.start env)) := by
  have hstart : env.time 0 ≤ env.time 1 := env.time_mono (Nat.zero_le 1)
  have hproxy := elapsed_le (env.time_mono (Nat.le_add_right 1 1))
  have hbudget := options.budgetMs.toNat_lt
  constructor
  · rfl
  · exact Nat.add_le_add_left (Nat.mul_le_mul_right _ (by omega)) _
  · exact List.isChain_nil
  · intro last hlast
    cases hlast
  · exact Nat.le_add_right _ _
  · rw [hphases]
    exact ((Nat.add_le_add_right hstart _).trans hproxy).trans (env.time_mono (Nat.le_succ 2))

theorem Opening.phasesMs_draft {spec : InspectSpec} (o : Opening env.envVar spec) :
    phasesMs (o.draft env.wallClock (World.start env)).phases =
      (openingProxyMs (World.start env)).toNat := by
  simp [phasesMs, Opening.draft, openingDraft, passedPhase]

/-- When the stages are over, what they recorded is in time. -/
theorem Opening.inTime {spec : InspectSpec} (o : Opening env.envVar spec) :
    InTime (env.time 0) (settle (o.stages (liveBackend env) env.wallClock (World.start env)).1)
      (o.stages (liveBackend env) env.wallClock (World.start env)).2 := by
  have hpost := observeAll_inTime (keepsOrder_liveBackend env) o.parsed o.proxy
    (o.draft env.wallClock (World.start env)) (openingSession spec.options (World.start env))
    (inTime_openingSession o.phasesMs_draft)
  exact settle_of_post hpost

omit [Crates] in
theorem le_elapsed {n since now : ℕ} (h : since + n * 1000000 ≤ now)
    (hexact : (now - since) / 1000000 < 2 ^ 64) :
    n ≤ (saturatingU64 ((now - since) / 1000000)).toNat := by
  rw [toNat_saturatingU64_eq_min]
  omega

theorem consistentTimeline_finalized {run : Except Draft Draft × Session (World env)}
    (h : InTime (env.time 0) (settle run.1) run.2) (hexact : (finalized run).2.Exact) :
    ConsistentTimeline (finalized run).1 := by
  have hstep : (finalized run).2.step = run.2.world.step + 1 := step_tick _
  have hlast := Nat.lt_of_lt_of_eq (Nat.lt_succ_self _) hstep.symm
  have helapsed : (finalized run).1.usage.elapsedMs =
      saturatingU64 ((env.time run.2.world.step - env.time 0) / 1000000) := by
    rw [← h.started]
    rfl
  constructor
  · exact h.ordered
  · intro last hend
    rw [helapsed]
    exact le_elapsed (h.ended last hend) (hexact _ hlast)
  · rw [helapsed]
    exact le_elapsed h.reached (hexact _ hlast)

/-- The report of a live run shows a timeline that can have happened. -/
theorem consistentTimeline_of_inspect {spec : InspectSpec} {report : Report} {w : World env}
    (h : inspect env spec = (.ok report, w)) (hexact : w.Exact) : ConsistentTimeline report := by
  obtain ⟨o, ho⟩ := inspectWithBackend_eq_ok (liveBackend env) h
  have hrun := consistentTimeline_finalized o.inTime
  rw [← Opening.outcome, ho] at hrun
  exact hrun hexact

end

/-- Every reading of this clock is three milliseconds after the one before. -/
def Environment.ticking : Environment :=
  { Environment.calm exampleRedirect with
    time := fun n => n * 3000000
    time_mono := fun _ _ h => Nat.mul_le_mul_right _ h }

theorem consistentTimeline_of_ticking :
    letI := exampleRecordings.crates
    ∃ report w, inspect .ticking ⟨"http://example.com/", {}⟩ = (.ok report, w) ∧
      report.probes.length = 5 ∧ ConsistentTimeline report := by
  let := exampleRecordings.crates
  have hrun : Reports (inspect .ticking ⟨"http://example.com/", {}⟩) fun report w =>
      report.probes.length = 5 ∧ w.step ≤ 1000 := by decide +kernel
  obtain ⟨report, w, hrun, htest⟩ := exists_of_reports hrun
  obtain ⟨hprobes, hsteps⟩ := of_decide_eq_true htest
  refine ⟨report, w, hrun, hprobes, consistentTimeline_of_inspect hrun ?_⟩
  intro n hn
  change (n * 3000000 - 0 * 3000000) / 1000000 < 2 ^ 64
  omega

end HopWhy
