import HopWhy.Guarantees.ResourceLimits

/-!
# Plans and runs

A plan repeats the checks of a run, so the two fail together, and the report has
the target and the options of the plan. The plan announces a TLS handshake without
a condition where a run may make one.
-/

namespace HopWhy

variable [Crates]

def Opening.plan {envVar : String → Option String} {spec : InspectSpec}
    (o : Opening envVar spec) : InspectionPlan where
  schemaVersion := planSchemaVersion
  target := o.parsed.summary
  options := spec.options
  policy := policyText spec.options.allowPrivate
  plannedProbes := HopWhy.plannedProbes
    (o.parsed.url.scheme ≠ "https" ∨ o.proxy.summary.selected) o.proxy.summary.selected
  networkPerformed := false

theorem plan_opening {envVar : String → Option String} {spec : InspectSpec}
    (o : Opening envVar spec) : plan envVar spec = .ok o.plan := by
  simp only [plan, o.valid, o.accepts, o.selects, bind, Except.bind]
  rfl

/-- A spec opens, or the plan and every run of it fail with the same error. -/
theorem opening_or_error (envVar : String → Option String) (spec : InspectSpec) :
    Nonempty (Opening envVar spec) ∨ ∃ error, plan envVar spec = .error error ∧
      ∀ {σ : Type} [Clock σ] (backend : DiagnosticBackend σ) (wallClock : ℤ) (w : σ),
        (inspectWithBackend backend envVar wallClock spec w).1 = .error error := by
  rcases hvalid : validateOptions spec.options with error | u
  · refine Or.inr ⟨error, ?_, fun backend wallClock w => ?_⟩
    · simp [plan, hvalid, bind, Except.bind]
    · simp [inspectWithBackend, hvalid, Prog.bind_apply]
  rcases hparsed : parseTarget spec.target spec.options with error | parsed
  · refine Or.inr ⟨error, ?_, fun backend wallClock w => ?_⟩
    · simp [plan, hvalid, hparsed, bind, Except.bind]
    · simp [inspectWithBackend, hvalid, hparsed, Prog.bind_apply]
  rcases hproxy : resolveProxy envVar parsed.url spec.options with error | proxy
  · refine Or.inr ⟨error, ?_, fun backend wallClock w => ?_⟩
    · simp [plan, hvalid, hparsed, hproxy, bind, Except.bind]
    · simp [inspectWithBackend, hvalid, hparsed, hproxy, Prog.bind_apply, withTracker,
        inspectSession]
  · exact Or.inl ⟨⟨parsed, proxy, hvalid, hparsed, hproxy⟩⟩

variable {env : Environment}

theorem InspectionEffect.no_handshake {options : InspectionOptions} {parsed : ParsedTarget}
    {proxy : ResolvedProxy} {cut : Prop} {e : Effect} {r : Option (AppResult HttpResult)}
    (h : InspectionEffect env options parsed proxy cut e r)
    (hprobed : ¬ TlsProbed parsed proxy) : countKind .tlsHandshake e.probes = 0 := by
  apply Nat.le_zero.mp
  cases h with
  | unreached reach uncut => exact reach.tally.tls
  | unprotected reach probed tls => exact absurd probed hprobed
  | requested reach tls uncut chain =>
    cases tls with
    | unprobed h => exact ((reach.tally.append tally_none).append (chain.tally (Nat.zero_le _))).tls
    | validated h tls => exact absurd h hprobed

omit [Crates] in
theorem countKind_pos {kind : ProbeKind} {probes : List ProbeRecord} {record : ProbeRecord}
    (hmem : record ∈ probes) (hkind : record.kind = kind) : 0 < countKind kind probes :=
  List.count_pos_iff.mpr (List.mem_map.mpr ⟨record, hmem, hkind⟩)

/-- The plan lists every kind of probe, and its one handshake is unconditional for a direct
https target. -/
theorem Opening.conditional_iff {envVar : String → Option String} {spec : InspectSpec}
    (o : Opening envVar spec) {planned : PlannedProbe} (hmem : planned ∈ o.plan.plannedProbes)
    (hkind : planned.kind = .tlsHandshake) :
    planned.conditional = true ↔ ¬ TlsProbed o.parsed o.proxy := by
  simp only [Opening.plan, plannedProbes, List.mem_cons, List.not_mem_nil, or_false] at hmem
  rcases hmem with rfl | rfl | rfl | rfl | rfl
  · cases hkind
  · cases hkind
  · simp only [decide_eq_true_eq, TlsProbed, not_and_or, ne_eq, Bool.not_eq_false]
  · cases hkind
  · cases hkind

theorem Opening.plans_kind {envVar : String → Option String} {spec : InspectSpec}
    (o : Opening envVar spec) (kind : ProbeKind) :
    ∃ planned ∈ o.plan.plannedProbes, planned.kind = kind := by
  cases kind <;> simp [Opening.plan, plannedProbes]

/-- What a plan promises about the runs of its spec. -/
structure PlanAgrees (env : Environment) (spec : InspectSpec) : Prop where
  errors : ∀ {σ : Type} [Clock σ] (backend : DiagnosticBackend σ) (wallClock : ℤ) (w : σ)
    (error : AppError), plan env.envVar spec = .error error ↔
      (inspectWithBackend backend env.envVar wallClock spec w).1 = .error error
  reports : ∀ {σ : Type} [Clock σ] (backend : DiagnosticBackend σ) (wallClock : ℤ) (w : σ)
    (p : InspectionPlan) (report : Report), plan env.envVar spec = .ok p →
      (inspectWithBackend backend env.envVar wallClock spec w).1 = .ok report →
      p.target = report.target ∧ p.options = report.options
  handshakes : ∀ p report, plan env.envVar spec = .ok p → (inspect env spec).1 = .ok report →
    ∀ record ∈ report.probes, record.kind = .tlsHandshake →
      ∀ planned ∈ p.plannedProbes, planned.kind = .tlsHandshake → planned.conditional = false
  kinds : ∀ p report, plan env.envVar spec = .ok p → (inspect env spec).1 = .ok report →
    ∀ record ∈ report.probes, ∃ planned ∈ p.plannedProbes, planned.kind = record.kind

theorem Opening.planAgrees {spec : InspectSpec} (o : Opening env.envVar spec) :
    PlanAgrees env spec where
  errors backend wallClock w error := by
    rw [plan_opening o, inspectWithBackend_opening backend o]
    constructor <;> intro h <;> cases h
  reports backend wallClock w p report hplan hrun := by
    rw [plan_opening o] at hplan
    rw [inspectWithBackend_opening backend o] at hrun
    cases hplan
    cases hrun
    obtain ⟨htarget, -, hoptions⟩ := o.outcome_frame backend wallClock w
    exact ⟨htarget.symm, hoptions.symm⟩
  handshakes p report hplan hrun record hrecord hkind planned hplanned htls := by
    rw [plan_opening o] at hplan
    cases hplan
    obtain ⟨o', e, r, d, heffect, hshows, -⟩ := inspect_effect (Prod.ext hrun rfl)
    obtain rfl := o'.eq o
    by_contra hconditional
    have hprobed := (o'.conditional_iff hplanned htls).mp (by simpa using hconditional)
    rw [hshows.probes] at hrecord
    have hpos := countKind_pos hrecord hkind
    rw [heffect.no_handshake hprobed] at hpos
    exact absurd hpos (lt_irrefl 0)
  kinds p report hplan _ record _ := by
    rw [plan_opening o] at hplan
    cases hplan
    exact o.plans_kind record.kind

/-- A plan fails as every run of its spec does, and otherwise tells what the report shows. -/
theorem plan_agrees (env : Environment) (spec : InspectSpec) : PlanAgrees env spec := by
  rcases opening_or_error env.envVar spec with ⟨⟨o⟩⟩ | ⟨error, hplan, hrun⟩
  · exact o.planAgrees
  · constructor
    · intro σ _ backend wallClock w error'
      simp only [hplan, hrun backend wallClock w, Except.error.injEq]
    · intro σ _ backend wallClock w p report hok
      rw [hplan] at hok
      cases hok
    · intro p report hok
      rw [hplan] at hok
      cases hok
    · intro p report hok
      rw [hplan] at hok
      cases hok

end HopWhy
