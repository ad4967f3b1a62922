import HopWhy.Runs.Inspection

/-!
# The resolution of a run

What the resolution stage leaves in a report: the addresses of its answer, and
one DNS phase. The later stages keep the addresses and append phases of other
names.
-/

namespace HopWhy

variable {σ : Type} [Clock σ] (backend : DiagnosticBackend σ)

/-- The draft still has the addresses, and the phases behind those it had are not DNS
phases. -/
structure Draft.Continues (draft d : Draft) : Prop where
  addresses : d.addresses = draft.addresses
  phases : ∃ later, d.phases = draft.phases ++ later ∧ ∀ p ∈ later, p.name ≠ .dns

omit [Clock σ] in
theorem Draft.Continues.trans {a b c : Draft} (h : a.Continues b) (k : b.Continues c) :
    a.Continues c := by
  obtain ⟨haddresses, l₁, hl₁, hnames₁⟩ := h
  obtain ⟨kaddresses, l₂, hl₂, hnames₂⟩ := k
  refine ⟨kaddresses.trans haddresses, l₁ ++ l₂, by rw [hl₂, hl₁, List.append_assoc], ?_⟩
  intro p hp
  rcases List.mem_append.mp hp with hp | hp
  · exact hnames₁ p hp
  · exact hnames₂ p hp

theorem Draft.continues_record (draft : Draft) {phase : Phase} (h : phase.name ≠ .dns) :
    draft.Continues (draft.record phase) :=
  ⟨rfl, [phase], rfl, by simpa using h⟩

/-- The stage continues the draft, whether it goes on or stops. -/
abbrev ContinuesWith {α : Type} (draft : Draft) (m : Observe σ α) (result : α → Draft) : Prop :=
  Prog.Triple (fun _ => True) m (fun a _ => draft.Continues (result a))
    (fun d _ => draft.Continues d)

omit [Clock σ] in
theorem ContinuesWith.bind {α β : Type} {draft : Draft} {m : Observe σ α} {f : α → Observe σ β}
    {result : α → Draft} {result' : β → Draft} (h : ContinuesWith draft m result)
    (h' : ∀ a, ContinuesWith (result a) (f a) result') :
    ContinuesWith draft (m >>= f) result' :=
  Prog.Triple.bind_related (R := Draft.Continues) (F := Draft.Continues) Draft.Continues.trans
    Draft.Continues.trans h h'

section

variable [Crates]

theorem observeTcp_continues (permitted : List SocketAddr) (draft : Draft) :
    ContinuesWith draft (observeTcp backend permitted draft) Prod.fst := by
  intro s _
  unfold observeTcp
  rw [instant_bind, Prog.bind_apply, Prog.attempt_apply]
  rcases (backend.connectFirst permitted draft.options s.tick).1 with error | address
  · exact draft.continues_record (by simp [failedPhase])
  · exact draft.continues_record (by simp [passedPhase])

omit [Crates] in
theorem observeTls_continues (parsed : ParsedTarget) (proxy : ResolvedProxy)
    (address : SocketAddr) (draft : Draft) :
    ContinuesWith draft (observeTls backend parsed proxy address draft) id := by
  intro s _
  unfold observeTls
  rw [instant_bind, Prog.ite_apply]
  split_ifs with hscheme hselected
  · exact draft.continues_record (by simp [skippedPhase])
  · exact ⟨rfl, [notObservedPhase .tls tlsNotObservedText], rfl, by simp [notObservedPhase]⟩
  · rw [Prog.bind_apply, Prog.attempt_apply]
    rcases (backend.probeTls address parsed.summary.host draft.options.showAddresses s.tick).1 with
      error | summary
    · exact draft.continues_record (by simp [failedPhase])
    · exact ⟨rfl, [_], rfl, by simp [passedPhase]⟩

omit [Clock σ] [Crates] in
theorem RedirectVerdict.name_eq {redirects : Phase} (h : RedirectVerdict redirects) :
    redirects.name = .redirects := by
  cases h <;> rfl

omit [Crates] in
theorem observeHttp_continues (parsed : ParsedTarget) (proxy : ResolvedProxy)
    (address : SocketAddr) (draft : Draft) :
    ContinuesWith draft (observeHttp backend parsed proxy address draft) id := by
  intro s _
  unfold observeHttp
  rw [instant_bind, Prog.bind_apply, Prog.attempt_apply]
  rcases (backend.runHttp parsed.url proxy address draft.options s.tick).1 with
    error | ⟨hops, failure⟩
  · exact draft.continues_record (by simp [failedPhase])
  · exact ⟨rfl, _, phases_record₃ _ _ _ _,
      by simp [passedPhase, skippedPhase, (redirectPhase_verdict hops failure).name_eq]⟩

/-- The DNS phase of a resolution that has a permitted address. -/
def resolvedPhase (durationMs : UInt64) (all permitted : List SocketAddr) : Phase :=
  passedPhase .dns durationMs [
    observation "resolved_address_count" (countJson all.length)
      "system resolver result after de-duplication",
    observation "permitted_address_count" (countJson permitted.length)
      "address policy evaluation"]

/-- The draft with the addresses of an answer. -/
def Draft.withAnswer (draft : Draft) (all : List SocketAddr) : Draft :=
  { draft with addresses := all.map (observeAddress draft.options) }

/-- What a resolution leaves in the draft. -/
inductive Resolves (draft : Draft) : AppResult (List SocketAddr × List SocketAddr) → Draft → Prop
  | unresolved (durationMs : UInt64) (error : AppError) :
      Resolves draft (.error error) (draft.record (failedPhase .dns durationMs error))
  | denied (durationMs : UInt64) (all : List SocketAddr) :
      Resolves draft (.ok (all, []))
        ((draft.withAnswer all).record (failedPhase .dns durationMs nonPublicAddressDenied))
  | passed (durationMs : UInt64) (all permitted : List SocketAddr) (nonempty : permitted ≠ []) :
      Resolves draft (.ok (all, permitted))
        ((draft.withAnswer all).record (resolvedPhase durationMs all permitted))

theorem observeDns_resolves (proxy : ResolvedProxy) (draft : Draft) (s : Session σ) :
    Prog.Post
      (fun r _ => Resolves draft (backend.resolveAddresses proxy draft.options s.tick).1 r.1)
      (fun d _ => Resolves draft (backend.resolveAddresses proxy draft.options s.tick).1 d)
      (observeDns backend proxy draft s) := by
  unfold observeDns
  rw [instant_bind, Prog.bind_apply, Prog.attempt_apply]
  rcases (backend.resolveAddresses proxy draft.options s.tick).1 with error | ⟨all, permitted⟩
  · exact .unresolved _ _
  · dsimp only
    split_ifs with hempty
    · subst hempty
      exact .denied _ all
    · exact .passed _ all permitted hempty

/-- The draft of all stages continues that of the resolution. -/
theorem observeAll_resolves (parsed : ParsedTarget) (proxy : ResolvedProxy) (draft : Draft)
    (s : Session σ) :
    ∃ d, Resolves draft (backend.resolveAddresses proxy draft.options s.tick).1 d ∧
      d.Continues (settle (observeAll backend parsed proxy draft s).1) := by
  have hdns := observeDns_resolves backend proxy draft s
  unfold observeAll
  rcases hrun : observeDns backend proxy draft s with ⟨d | ⟨d, permitted⟩, t⟩
  · rw [Prog.bind_error hrun]
    rw [hrun] at hdns
    exact ⟨d, hdns, rfl, [], by simp [settle], by simp⟩
  · rw [Prog.bind_ok hrun]
    rw [hrun] at hdns
    refine ⟨d, hdns, ?_⟩
    apply settle_of_post (P := fun d' _ => d.Continues d')
    refine (observeTcp_continues backend permitted d).bind ?_ t trivial
    rintro ⟨d₂, address⟩
    apply (observeTls_continues backend parsed proxy address d₂).bind
    intro d₃
    exact observeHttp_continues backend parsed proxy address d₃

/-- The report has this DNS phase and no other. -/
def DnsPhase (report : Report) (phase : Phase) : Prop :=
  phase ∈ report.phases ∧ ∀ p ∈ report.phases, p.name = .dns → p = phase

/-- What a report shows of a resolution. -/
inductive ShowsResolution (options : InspectionOptions) (report : Report) :
    AppResult (List SocketAddr × List SocketAddr) → Prop
  | unresolved (durationMs : UInt64) (error : AppError) (addresses : report.addresses = [])
      (dns : DnsPhase report (failedPhase .dns durationMs error)) :
      ShowsResolution options report (.error error)
  | denied (durationMs : UInt64) (all : List SocketAddr)
      (addresses : report.addresses = all.map (observeAddress options))
      (dns : DnsPhase report (failedPhase .dns durationMs nonPublicAddressDenied)) :
      ShowsResolution options report (.ok (all, []))
  | passed (durationMs : UInt64) (all permitted : List SocketAddr) (nonempty : permitted ≠ [])
      (addresses : report.addresses = all.map (observeAddress options))
      (dns : DnsPhase report (resolvedPhase durationMs all permitted)) :
      ShowsResolution options report (.ok (all, permitted))

omit [Crates] in
/-- A phase recorded on the opening draft is the DNS phase of a draft that continues it. -/
theorem dnsPhase_of_continues {draft d : Draft} {phase : Phase} {report : Report}
    (hopening : ∀ p ∈ draft.phases, p.name ≠ .dns)
    (h : (draft.record phase).Continues d) (hreport : report.phases = d.phases) :
    DnsPhase report phase := by
  obtain ⟨-, later, hphases, hlater⟩ := h
  rw [DnsPhase, hreport, hphases]
  constructor
  · simp [Draft.record]
  · intro p hp hname
    simp only [Draft.record, List.append_assoc, List.singleton_append, List.mem_append,
      List.mem_cons] at hp
    rcases hp with hp | hp | hp
    · exact absurd hname (hopening p hp)
    · exact hp
    · exact absurd hname (hlater p hp)

namespace Opening

variable {envVar : String → Option String} {spec : InspectSpec} (o : Opening envVar spec)

/-- The resolution of the opened run. -/
def resolution (w : σ) : AppResult (List SocketAddr × List SocketAddr) :=
  (backend.resolveAddresses o.proxy spec.options (openingSession spec.options w).tick).1

theorem showsResolution (wallClock : ℤ) (w : σ) :
    ShowsResolution spec.options (o.outcome backend wallClock w).1 (o.resolution backend w) := by
  have hopening : ∀ p ∈ (o.draft wallClock w).phases, p.name ≠ .dns := by
    simp [draft, openingDraft, passedPhase]
  obtain ⟨d, hresolves, hcontinues⟩ := observeAll_resolves backend o.parsed o.proxy
    (o.draft wallClock w) (openingSession spec.options w)
  have haddresses : (o.outcome backend wallClock w).1.addresses = d.addresses :=
    hcontinues.addresses
  have hphases : (o.outcome backend wallClock w).1.phases =
      (settle (o.stages backend wallClock w).1).phases := rfl
  change Resolves _ (o.resolution backend w) d at hresolves
  generalize o.resolution backend w = r at hresolves
  cases hresolves with
  | unresolved ms error =>
    exact .unresolved ms error haddresses (dnsPhase_of_continues hopening hcontinues hphases)
  | denied ms all =>
    have hanswered : ∀ p ∈ ((o.draft wallClock w).withAnswer all).phases, p.name ≠ .dns := hopening
    exact .denied ms all haddresses (dnsPhase_of_continues hanswered hcontinues hphases)
  | passed ms all permitted nonempty =>
    have hanswered : ∀ p ∈ ((o.draft wallClock w).withAnswer all).phases, p.name ≠ .dns := hopening
    exact .passed ms all permitted nonempty haddresses
      (dnsPhase_of_continues hanswered hcontinues hphases)

end Opening

end

end HopWhy
