import HopWhy.Guarantees.EffectiveTarget
import HopWhy.Guarantees.PhaseLedger
import HopWhy.Library.ServerName

/-!
# Server names of literal hosts

The host text of a target is also its TLS server name. The URL serializer puts
an IPv6 address in brackets, so of the literal hosts exactly the IPv4 ones are
server names and read back as the address that they spell.
-/

namespace HopWhy

section

variable [Crates] {env : Environment}

omit [Crates] in
theorem completeHandshake_error (probe : ActiveProbe) (started timeout : ℕ)
    (outcome : Option TlsSession) (rounds : ℕ) :
    Prog.Triple (fun _ => True)
      (completeHandshake probe started timeout outcome rounds : Live env TlsSession)
      (fun _ _ => True) (fun error _ => error.code ≠ "invalid_tls_server_name") := by
  intro s _
  rcases completeHandshake_cases probe started timeout outcome rounds s with
    ⟨-, n, t, heq, -⟩ | ⟨-, n, t, heq, -⟩
  · rw [heq]
    rcases outcome with _ | session
    · change tlsHandshakeFailed.code ≠ _
      decide
    · trivial
  · rw [heq]
    change budgetExhausted.code ≠ _
    decide

/-- With an accepted name the probe fails in other ways only. -/
theorem probeTls_error {serverHost : String} (hnamed : Crates.serverName serverHost = true)
    (address : SocketAddr) (showAddresses : Bool) :
    Prog.Triple (fun _ => True)
      (probeTls address serverHost showAddresses : Live env TlsSummary)
      (fun _ _ => True) (fun error _ => error.code ≠ "invalid_tls_server_name") := by
  intro s _
  have hbudget : budgetExhausted.code ≠ "invalid_tls_server_name" := by decide
  unfold probeTls
  rcases startProbe_cases .tlsHandshake (addressForReport address showAddresses) s with
    ⟨-, -, probe, hprobe, -⟩ | ⟨-, hprobe⟩
  · rw [Prog.bind_ok hprobe, instant_bind]
    rcases remaining_cases s.tick.tick.tick with ⟨-, hleft⟩ | ⟨-, hleft⟩
    · rw [Prog.bind_ok hleft]
      simp only [tlsConnect, interact_bind, negotiateTls, hnamed, Bool.not_true,
        Bool.false_eq_true, if_false]
      rcases env.accepts _ with _ | _
      · change tlsTransportFailed.code ≠ _
        decide
      · rcases env.tlsClient serverHost with _ | _
        · change tlsConfigurationFailed.code ≠ _
          decide
        · apply Prog.Triple.bind (completeHandshake_error probe _ _ _ _)
          · intro session u _
            trivial
          · trivial
    · rw [Prog.bind_error hleft]
      exact hbudget
  · rw [Prog.bind_error hprobe]
    exact hbudget

/-- The phase is no TLS phase that failed with the code. -/
def TlsFree (code : String) (p : Phase) : Prop :=
  p.name = .tls → ∀ error, p.error = some error → error.code ≠ code

/-- The stage adds no TLS phase that failed with the code. -/
abbrev KeepsTlsFree {σ α : Type} (code : String) (draft : Draft) (m : Observe σ α)
    (result : α → Draft) : Prop :=
  Prog.Triple (fun _ => ∀ p ∈ draft.phases, TlsFree code p) m
    (fun a _ => ∀ p ∈ (result a).phases, TlsFree code p)
    (fun d _ => ∀ p ∈ d.phases, TlsFree code p)

omit [Crates] in
theorem tlsFree_record {code : String} {draft : Draft} {phase : Phase}
    (h : ∀ p ∈ draft.phases, TlsFree code p) (hphase : TlsFree code phase) :
    ∀ p ∈ (draft.record phase).phases, TlsFree code p := by
  intro p hp
  rcases List.mem_append.mp hp with hp | hp
  · exact h p hp
  · rw [List.mem_singleton.mp hp]
    exact hphase

omit [Crates] in
theorem tlsFree_of_name {code : String} {p : Phase} (h : p.name ≠ .tls) : TlsFree code p :=
  fun hname => absurd hname h

omit [Crates] in
theorem tlsFree_of_error {code : String} {p : Phase} (h : p.error = none) : TlsFree code p := by
  intro _ error herror
  rw [h] at herror
  cases herror

section

variable {σ : Type} [Clock σ] (backend : DiagnosticBackend σ) {code : String}

theorem observeDns_tlsFree (proxy : ResolvedProxy) (draft : Draft) :
    KeepsTlsFree code draft (observeDns backend proxy draft) Prod.fst := by
  intro s h
  unfold observeDns
  rw [instant_bind, Prog.bind_apply, Prog.attempt_apply]
  rcases (backend.resolveAddresses proxy draft.options s.tick).1 with error | ⟨all, permitted⟩
  · exact tlsFree_record h (tlsFree_of_name (by simp [failedPhase]))
  · dsimp only
    split_ifs with hempty
    · exact tlsFree_record h (tlsFree_of_name (by simp [failedPhase]))
    · exact tlsFree_record h (tlsFree_of_error rfl)

theorem observeTcp_tlsFree (permitted : List SocketAddr) (draft : Draft) :
    KeepsTlsFree code draft (observeTcp backend permitted draft) Prod.fst := by
  intro s h
  unfold observeTcp
  rw [instant_bind, Prog.bind_apply, Prog.attempt_apply]
  rcases (backend.connectFirst permitted draft.options s.tick).1 with error | address
  · exact tlsFree_record h (tlsFree_of_name (by simp [failedPhase]))
  · exact tlsFree_record h (tlsFree_of_error rfl)

omit [Crates] in
/-- The TLS phase fails with a code of the probe. -/
theorem observeTls_tlsFree {parsed : ParsedTarget}
    (hprobe : ∀ address showAddresses, Prog.Triple (fun _ => True)
      (backend.probeTls address parsed.summary.host showAddresses) (fun _ _ => True)
      (fun error _ => error.code ≠ code))
    (proxy : ResolvedProxy) (address : SocketAddr) (draft : Draft) :
    KeepsTlsFree code draft (observeTls backend parsed proxy address draft) id := by
  intro s h
  unfold observeTls
  rw [instant_bind, Prog.ite_apply]
  split_ifs with hscheme hselected
  · exact tlsFree_record h (tlsFree_of_error rfl)
  · exact tlsFree_record h (tlsFree_of_error rfl)
  · rw [Prog.bind_apply, Prog.attempt_apply]
    have hcode := hprobe address draft.options.showAddresses s.tick trivial
    rcases hr : backend.probeTls address parsed.summary.host draft.options.showAddresses s.tick with
      ⟨error | summary, t⟩
    · rw [hr] at hcode
      apply tlsFree_record h
      intro _ shown hshown
      cases hshown
      exact hcode
    · exact tlsFree_record h (tlsFree_of_error rfl)

omit [Crates] in
theorem observeHttp_tlsFree (parsed : ParsedTarget) (proxy : ResolvedProxy) (address : SocketAddr)
    (draft : Draft) :
    KeepsTlsFree code draft (observeHttp backend parsed proxy address draft) id := by
  intro s h
  unfold observeHttp
  rw [instant_bind, Prog.bind_apply, Prog.attempt_apply]
  rcases (backend.runHttp parsed.url proxy address draft.options s.tick).1 with
    error | ⟨hops, failure⟩
  · exact tlsFree_record h (tlsFree_of_name (by simp [failedPhase]))
  · apply tlsFree_record
    · apply tlsFree_record
      · exact tlsFree_record h (tlsFree_of_error rfl)
      · rcases (redirectPhase_verdict hops failure).outline with ⟨hname, -⟩
        exact tlsFree_of_name (by rw [hname]; decide)
    · exact tlsFree_of_error rfl

theorem observeAll_tlsFree {parsed : ParsedTarget}
    (hprobe : ∀ address showAddresses, Prog.Triple (fun _ => True)
      (backend.probeTls address parsed.summary.host showAddresses) (fun _ _ => True)
      (fun error _ => error.code ≠ code))
    (proxy : ResolvedProxy) (draft : Draft) :
    KeepsTlsFree code draft (observeAll backend parsed proxy draft) id := by
  apply Prog.Triple.bind (observeDns_tlsFree backend proxy draft)
  rintro ⟨d₁, permitted⟩
  apply Prog.Triple.bind (observeTcp_tlsFree backend permitted d₁)
  rintro ⟨d₂, address⟩
  apply Prog.Triple.bind (observeTls_tlsFree backend hprobe proxy address d₂)
  intro d₃
  exact observeHttp_tlsFree backend parsed proxy address d₃

end

theorem Opening.outcome_tlsFree {envVar : String → Option String} {spec : InspectSpec}
    (o : Opening envVar spec) {σ : Type} [Clock σ] (backend : DiagnosticBackend σ) {code : String}
    (hprobe : ∀ address showAddresses, Prog.Triple (fun _ => True)
      (backend.probeTls address o.parsed.summary.host showAddresses) (fun _ _ => True)
      (fun error _ => error.code ≠ code)) (wallClock : ℤ) (w : σ) :
    ∀ p ∈ (o.outcome backend wallClock w).1.phases, TlsFree code p := by
  have hopening : ∀ p ∈ (o.draft wallClock w).phases, TlsFree code p := by
    intro p hp
    rcases List.mem_cons.mp hp with rfl | hp
    · exact tlsFree_of_error rfl
    · rw [List.mem_singleton.mp hp]
      exact tlsFree_of_error rfl
  have hstages := observeAll_tlsFree backend hprobe o.proxy (o.draft wallClock w)
    (openingSession spec.options w) hopening
  unfold Opening.outcome Opening.stages
  rcases hrun : observeAll backend o.parsed o.proxy (o.draft wallClock w)
    (openingSession spec.options w) with ⟨d | d, t⟩
  · rw [hrun] at hstages
    exact hstages
  · rw [hrun] at hstages
    exact hstages

/-- The handshake of a literal target gets a server name, and its host reads back. -/
structure LiteralReached {spec : InspectSpec} (o : Opening env.envVar spec) (ip : IpAddr)
    (report : Report) : Prop where
  named : TlsProbed o.parsed o.proxy → Crates.serverName o.parsed.summary.host = true
  tls : ∀ p ∈ report.phases, TlsFree "invalid_tls_server_name" p
  host : IpAddr.parse report.target.host = some ip

/-- A direct https target with a literal host reaches its handshake and reads back
exactly when the literal is an IPv4 address. -/
theorem literalReached_iff (hnames : ∀ text, Crates.serverName text = ServerName.accepts text)
    {spec : InspectSpec} {report : Report} {w : World env}
    (h : inspect env spec = (.ok report, w)) (o : Opening env.envVar spec)
    (hprobed : TlsProbed o.parsed o.proxy) {host : UrlHost} {ip : IpAddr}
    (hhost : o.parsed.url.host = some host) (hliteral : host.literal = some ip) :
    LiteralReached o ip report ↔ ip.isV4 = true := by
  obtain ⟨url, -, haccepts⟩ := parseTarget_eq_ok o.accepts
  have hsummary : o.parsed.summary.host = host.text := by
    rw [(acceptTarget_summary haccepts).2.2, Url.hostStr_of_literal hhost hliteral]
    rfl
  constructor
  · intro hreached
    have hnamed := hreached.named hprobed
    rwa [hnames, hsummary, ServerName.accepts_literal hliteral] at hnamed
  · intro hv4
    have hnamed : Crates.serverName o.parsed.summary.host = true := by
      rw [hnames, hsummary, ServerName.accepts_literal hliteral, hv4]
    have hreport : (o.outcome (liveBackend env) env.wallClock (World.start env)).1 = report :=
      Except.ok.inj (congrArg Prod.fst ((inspectWithBackend_opening (liveBackend env) o
        env.wallClock (World.start env)).symm.trans h))
    refine ⟨fun _ => hnamed, ?_, ?_⟩
    · rw [← hreport]
      apply o.outcome_tlsFree (liveBackend env)
      intro address showAddresses
      exact probeTls_error hnamed address showAddresses
    · rw [← hreport, (o.outcome_frame (liveBackend env) env.wallClock (World.start env)).1,
        hsummary, ServerName.parse_literal hliteral, if_pos hv4]

end

def secureUrl (host : UrlHost) : Url := { exampleSecureUrl with host := some host }

/-- Two literal targets, with the server names of the TLS library. -/
@[reducible] def literalCrates : Crates :=
  { Recordings.crates { urls := [
      ("https://93.184.215.14/", secureUrl (.ipv4 (.ofOctets 93 184 215 14))),
      ("https://[2606:4700:4700::1111]/",
        secureUrl (.ipv6 (.ofSegments [0x2606, 0x4700, 0x4700, 0, 0, 0, 0, 0x1111])))] } with
    serverName := ServerName.accepts }

abbrev calmServer : Environment := .calm fun _ => .ok (.bare 200 [])

/-- An IPv4 target reaches its handshake. -/
theorem ipv4Literal_reached :
    letI := literalCrates
    ∃ (o : Opening calmServer.envVar ⟨"https://93.184.215.14/", {}⟩) (report : Report)
      (w : World calmServer),
      inspect calmServer ⟨"https://93.184.215.14/", {}⟩ =
        (.ok report, w) ∧ TlsProbed o.parsed o.proxy ∧
      (LiteralReached o (.v4 (.ofOctets 93 184 215 14)) report ↔
        IpAddr.isV4 (.v4 (.ofOctets 93 184 215 14)) = true) := by
  let := literalCrates
  have hrun : Reports (inspect calmServer ⟨"https://93.184.215.14/", {}⟩)
      fun report _ => report.failedAt.isNone := by decide +kernel
  obtain ⟨report, w, hrun, -⟩ := exists_of_reports hrun
  let o : Opening calmServer.envVar ⟨"https://93.184.215.14/", {}⟩ :=
    { parsed := _, proxy := _, valid := rfl, accepts := rfl, selects := rfl }
  have hprobed : TlsProbed o.parsed o.proxy := ⟨rfl, rfl⟩
  exact ⟨o, report, w, hrun, hprobed, literalReached_iff (fun _ => rfl) hrun o hprobed rfl rfl⟩

/-- An IPv6 target fails with its own server name, and its host does not read back. -/
theorem ipv6Literal_not_reached :
    letI := literalCrates
    ∃ (o : Opening calmServer.envVar ⟨"https://[2606:4700:4700::1111]/", {}⟩) (report : Report)
      (w : World calmServer),
      inspect calmServer ⟨"https://[2606:4700:4700::1111]/", {}⟩ =
        (.ok report, w) ∧ TlsProbed o.parsed o.proxy ∧
      (∃ p ∈ report.phases, p.name = .tls ∧
        p.error.map DiagnosticError.code = some "invalid_tls_server_name") ∧
      IpAddr.parse report.target.host = none := by
  let := literalCrates
  have hrun : Reports (inspect calmServer
      ⟨"https://[2606:4700:4700::1111]/", {}⟩) fun report _ =>
        (∃ p ∈ report.phases, p.name = .tls ∧
          p.error.map DiagnosticError.code = some "invalid_tls_server_name") ∧
        IpAddr.parse report.target.host = none := by decide +kernel
  obtain ⟨report, w, hrun, htest⟩ := exists_of_reports hrun
  let o : Opening calmServer.envVar ⟨"https://[2606:4700:4700::1111]/", {}⟩ :=
    { parsed := _, proxy := _, valid := rfl, accepts := rfl, selects := rfl }
  exact ⟨o, report, w, hrun, ⟨rfl, rfl⟩, of_decide_eq_true htest⟩

end HopWhy
