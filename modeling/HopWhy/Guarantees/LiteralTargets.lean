import HopWhy.Guarantees.AddressPolicy
import HopWhy.Guarantees.RedirectChain
import HopWhy.Library.AddrText

/-!
# Literal targets

The address policy is applied to the connect host. A URL whose host is a denied
literal is kept from every request where that literal is the connect host, or
the connect host is itself denied. The host of a URL that goes through a
permitted proxy is not classified at all.
-/

namespace HopWhy

/-- The host of the URL is an address that the default policy denies. -/
def DeniedHost (url : Url) : Prop :=
  ∃ host ip, url.host = some host ∧ host.literal = some ip ∧ isIpPermitted ip false = false

/-- The destination spells out an address that the default policy denies. -/
def DeniedDestination (destination : String) : Prop :=
  ∃ address, SocketAddr.parse destination = some address ∧
    isIpPermitted address.ip false = false

theorem parse_socketDestination {host : UrlHost} {ip : IpAddr} (h : host.literal = some ip)
    (port : UInt16) :
    ∃ address, SocketAddr.parse (socketDestination host.text port) = some address ∧
      address.ip = ip := by
  rcases host with name | a | a
  · cases h
  · cases h
    refine ⟨.v4 a port, ?_, rfl⟩
    have htext : socketDestination (UrlHost.ipv4 a).text port =
        String.ofList (a.text ++ ':' :: Nat.toDigits 10 port.toNat) := by
      rw [socketDestination, UrlHost.text, String.toList_ofList,
        if_neg fun h => SocketAddr.colon_not_mem_text a h.1, Nat.toString_eq_ofList_toDigits]
      apply String.toList_inj.mp
      simp
    rw [htext, SocketAddr.parse_v4]
  · cases h
    refine ⟨.v6 a port 0 0, ?_, rfl⟩
    have htext : socketDestination (UrlHost.ipv6 a).text port =
        String.ofList ('[' :: a.hexText ++ ']' :: ':' :: Nat.toDigits 10 port.toNat) := by
      rw [socketDestination, UrlHost.text, String.toList_ofList,
        if_neg fun h => h.2 rfl, Nat.toString_eq_ofList_toDigits]
      apply String.toList_inj.mp
      simp
    rw [htext, SocketAddr.parse_v6]

section

variable [Crates] {env : Environment} {options : InspectionOptions} {spec : InspectSpec} {url : Url}
  {proxy : ResolvedProxy}

/-- The policy gets to see the denied host of the URL: the URL is no target that is accepted,
or no proxy is selected, or one that is denied itself. -/
def Classified (envVar : String → Option String) (options : InspectionOptions) (url : Url) : Prop :=
  ∀ parsed proxy, acceptTarget url options = .ok parsed →
    resolveProxy envVar url options = .ok proxy →
    proxy.url = none ∨ DeniedDestination (destinationOf proxy)

omit [Crates] in
theorem DeniedHost.host_isSome (h : DeniedHost url) : url.host.isSome := by
  obtain ⟨host, ip, hhost, -⟩ := h
  simp [hhost]

omit [Crates] in
theorem DeniedHost.hostStr_isSome (h : DeniedHost url) : url.hostStr.isSome := by
  obtain ⟨host, ip, hhost, hliteral, -⟩ := h
  simp [Url.hostStr_of_literal hhost hliteral]

theorem resolveProxy_clearFragment (envVar : String → Option String) (h : url.host.isSome) :
    resolveProxy envVar url.clearFragment options = resolveProxy envVar url options := by
  rw [Url.clearFragment_of_host h]
  rfl

theorem AcceptedUrl.accepts (h : AcceptedUrl options url) :
    ∃ parsed, acceptTarget url options = .ok parsed :=
  acceptTarget_isOk (by simpa [isHttpScheme] using h.scheme) h.host h.username h.password options

theorem Classified.denied {envVar : String → Option String} (h : Classified envVar options url)
    (hdenied : DeniedHost url) (haccepted : AcceptedUrl options url)
    (hselects : resolveProxy envVar url.clearFragment options = .ok proxy) :
    DeniedDestination (destinationOf proxy) := by
  rw [resolveProxy_clearFragment envVar hdenied.host_isSome] at hselects
  obtain ⟨parsed, haccepts⟩ := haccepted.accepts
  rcases h parsed proxy haccepts hselects with hdirect | hproxy
  · obtain ⟨host, ip, hhost, hliteral, hip⟩ := hdenied
    obtain ⟨hconnect, -⟩ := resolveProxy_direct hselects hdirect
    rw [Url.hostStr_of_literal hhost hliteral, Option.getD_some] at hconnect
    obtain ⟨address, hparse, haddress⟩ := parse_socketDestination hliteral proxy.connectPort
    rw [← hconnect] at hparse
    exact ⟨address, hparse, by rwa [haddress]⟩
  · exact hproxy

theorem Justified.request_ne {first : Url} {history : List Interaction} {client : HttpClient}
    {method : RequestMethod} {current : Url} (hprivate : options.allowPrivate = false)
    (hdenied : DeniedHost url) (hclassified : Classified env.envVar options url)
    (h : Justified env.envVar options first history (.request client method current)) :
    current ≠ url := by
  rintro rfl
  obtain ⟨haccepted, proxy, hcleared, -⟩ := h
  obtain ⟨address, hparse, hno⟩ := hclassified.denied hdenied haccepted hcleared.selects
  have hpermitted := hcleared.permitted
  rw [hcleared.literal address hparse, hprivate, hno] at hpermitted
  cases hpermitted

theorem inspect_unrequested (hjoin : JoinReparses) (hprivate : spec.options.allowPrivate = false)
    (hdenied : DeniedHost url) (hclassified : Classified env.envVar spec.options url)
    (client : HttpClient) (method : RequestMethod) :
    Interaction.request client method url ∉ (inspect env spec).2.calls := by
  intro hcall
  rcases hrun : inspect env spec with ⟨error | report, w⟩
  · rw [hrun, calls_of_inspect_error hrun] at hcall
    cases hcall
  · obtain ⟨o, e, r, d, heffect, hshows, -⟩ := inspect_effect hrun
    obtain ⟨haccepted, hfragment⟩ := acceptedUrl_of_target o.accepts
    rw [hrun, hshows.calls] at hcall
    obtain ⟨before, after, hsplit⟩ := List.append_of_mem hcall
    have hguarded := heffect.guarded hjoin haccepted hfragment o.selects
    exact (hguarded before _ after hsplit).request_ne hprivate hdenied hclassified rfl

/-- Why the stage of a denied URL ends whose lookup begins in `s`: the policy refuses
it, or there is no time or no slot for the lookup. -/
def LookupDenied (s : Session (World env)) (error : AppError) : Prop :=
  error.cls = .policy ∨ (error = budgetExhausted ∧ ¬ Openable s)

omit [Crates] in
theorem resolveAddresses_of_denied (hprivate : options.allowPrivate = false)
    (hdenied : DeniedDestination (destinationOf proxy)) (s : Session (World env)) :
    ((resolveAddresses proxy options s).1 = .error budgetExhausted ∧
      LookupDenied s budgetExhausted) ∨
    ∃ all, (resolveAddresses proxy options s).1 = .ok (all, []) := by
  obtain ⟨address, hparse, hno⟩ := hdenied
  rcases resolveAddresses_result proxy options s with ⟨-, n, hresult⟩ | ⟨hclosed, hresult⟩
  · rw [answerTo_literal n address hparse] at hresult
    have hnone : permittedOf options [address] = [] := by
      simp [permittedOf, hprivate, hno]
    exact Or.inr ⟨[address], hresult.trans (congrArg (fun l => Except.ok ([address], l)) hnone)⟩
  · exact Or.inl ⟨hresult, Or.inr ⟨rfl, hclosed⟩⟩

theorem authorizeRedirect_of_denied (hprivate : options.allowPrivate = false)
    (hdenied : DeniedHost url) (hclassified : Classified env.envVar options url)
    (hurl : Crates.urlParse url.asStr = .ok url) (s : Session (World env)) :
    ∃ error t, authorizeRedirect url options s = (.error error, t) ∧ LookupDenied s error := by
  rcases hparsed : parseTarget url.asStr options with error | parsed
  · refine ⟨error, s, ?_, Or.inl ?_⟩
    · simp only [authorizeRedirect, hparsed, Prog.bind_apply, Prog.ofExcept_apply]
    · rw [parseTarget, hurl] at hparsed
      exact acceptTarget_error hdenied.hostStr_isSome hparsed
  obtain ⟨haccepted, hfragment⟩ := acceptedUrl_of_parseTarget hurl hparsed
  rcases hproxy : resolveProxy env.envVar parsed.url options with error | proxy
  · refine ⟨error, s, ?_, Or.inl (resolveProxy_error hproxy)⟩
    simp only [authorizeRedirect, hparsed, hproxy, Prog.bind_apply, Prog.ofExcept_apply]
  rw [authorizeRedirect_apply hparsed hproxy]
  rw [hfragment] at hproxy
  rcases resolveAddresses_of_denied hprivate (hclassified.denied hdenied haccepted hproxy) s with
    ⟨hlookup, hrefused⟩ | ⟨all, hlookup⟩
  · rw [hlookup]
    exact ⟨_, _, rfl, hrefused⟩
  · rw [hlookup]
    exact ⟨redirectTargetDenied, _, rfl, Or.inl rfl⟩

/-- A redirect to a denied URL ends the chain with its hops. -/
theorem hopRound_of_denied (hprivate : options.allowPrivate = false) {i : ℕ} {b : HopState}
    (hdenied : DeniedHost b.current) (hclassified : Classified env.envVar options b.current)
    (hurl : Crates.urlParse b.current.asStr = .ok b.current) (s : Session (World env)) :
    ∃ error, (hopRound options (i + 1) b s).1 = .ok (.inr (b.hops, some error)) ∧
      LookupDenied s error := by
  obtain ⟨error, t, hendpoint, hrefused⟩ :=
    authorizeRedirect_of_denied hprivate hdenied hclassified hurl s
  refine ⟨error, ?_, hrefused⟩
  have hendpoint : hopEndpoint options (i + 1) b s = (.error error, t) := hendpoint
  simp only [hopRound, Prog.bind_apply, Prog.attempt_apply, hendpoint]
  rfl

/-- A run whose connect host is denied stops in its DNS stage. -/
theorem observeAll_of_denied (parsed : ParsedTarget) {draft : Draft}
    (hprivate : draft.options.allowPrivate = false)
    (hdenied : DeniedDestination (destinationOf proxy)) (s : Session (World env)) :
    ∃ d ms error, (observeAll (liveBackend env) parsed proxy draft s).1 =
      .error (Draft.record d (failedPhase .dns ms error)) ∧ LookupDenied s.tick error := by
  have hdns : ∃ d ms error t, observeDns (liveBackend env) proxy draft s =
      (.error (Draft.record d (failedPhase .dns ms error)), t) ∧ LookupDenied s.tick error := by
    unfold observeDns
    rw [instant_bind, Prog.bind_apply, Prog.attempt_apply]
    rcases resolveAddresses_of_denied hprivate hdenied s.tick with
      ⟨hlookup, hrefused⟩ | ⟨all, hlookup⟩
    · change ((liveBackend env).resolveAddresses proxy draft.options s.tick).1 = _ at hlookup
      rw [hlookup]
      exact ⟨draft, _, _, _, rfl, hrefused⟩
    · change ((liveBackend env).resolveAddresses proxy draft.options s.tick).1 = _ at hlookup
      rw [hlookup]
      exact ⟨_, _, nonPublicAddressDenied, _, rfl, Or.inl rfl⟩
  obtain ⟨d, ms, error, t, hdns, hrefused⟩ := hdns
  refine ⟨d, ms, error, ?_, hrefused⟩
  rw [observeAll, Prog.bind_error hdns]

theorem HopReached.reparses (hjoin : JoinReparses) {b₀ b : HopState} {s₀ s : Session (World env)}
    {i : ℕ} (h : HopReached options b₀ s₀ (i + 1) b s) :
    Crates.urlParse b.current.asStr = .ok b.current := by
  rcases h with _ | @⟨_, b', _, s', _, h, goesOn⟩
  obtain ⟨e, -, heffect⟩ := hopRound_effect options i b' s'
  rw [goesOn] at heffect
  generalize hr : (Except.ok (.inl b) : AppResult (HopState ⊕ HttpResult)) = r at heffect
  cases heffect with
  | stopped endpoint => cases hr
  | lost endpoint request => cases hr
  | finished endpoint request =>
    exact request.next hjoin (afterHop_eq_inl (Except.ok.inj hr).symm).2.2.1

/-- The run has the phase as its failure, refused at the lookup that begins in `s`. -/
def DeniedAt (name : PhaseName) (s : Session (World env)) (report : Report) : Prop :=
  report.failedAt = some name ∧
    ∃ ms error, failedPhase name ms error ∈ report.phases ∧ LookupDenied s error

/-- The URL is denied wherever the run comes to it: nothing is requested of it, and
the run reports why. -/
structure DeniesUrl (env : Environment) (spec : InspectSpec) (url : Url)
    (run : AppResult Report × World env) : Prop where
  unrequested : ∀ client method, Interaction.request client method url ∉ run.2.calls
  target_rejected : validateOptions spec.options = .ok () → ∀ raw,
    Crates.urlParse spec.target = .ok raw → raw.clearFragment = url →
    ∀ error, run.1 = .error error → error.cls = .policy
  target_refused : ∀ parsed, parseTarget spec.target spec.options = .ok parsed →
    parsed.url = url → ∀ report, run.1 = .ok report →
    DeniedAt .dns (openingSession spec.options (World.start env)).tick report
  redirect_refused : ∀ (o : Opening env.envVar spec) b₀ s₀ i b s, o.StartsHttp env b₀ s₀ →
    HopReached spec.options b₀ s₀ (i + 1) b s → b.current = url → ∀ report, run.1 = .ok report →
    DeniedAt .redirects s report

theorem inspect_failedAt {report : Report} {w : World env}
    (h : inspect env spec = (.ok report, w)) {name : PhaseName} {ms : UInt64} {error : AppError}
    (hphase : failedPhase name ms error ∈ report.phases) : report.failedAt = some name := by
  obtain ⟨o, -⟩ := inspectWithBackend_eq_ok (liveBackend env) h
  obtain ⟨stages, hledger⟩ := exists_phaseLedger_of_inspect h o
  exact (hledger.failed name).mpr ⟨_, hphase, rfl, rfl⟩

theorem inspect_target_rejected (hdenied : DeniedHost url)
    (hvalid : validateOptions spec.options = .ok ()) {raw : Url}
    (hraw : Crates.urlParse spec.target = .ok raw) (hurl : raw.clearFragment = url)
    {error : AppError} (h : (inspect env spec).1 = .error error) : error.cls = .policy := by
  rcases inspectWithBackend_eq_error (liveBackend env) (Prod.ext h rfl) with
    hinvalid | htarget | ⟨parsed, hproxy⟩
  · rw [hvalid] at hinvalid
    cases hinvalid
  · obtain ⟨host, ip, hhost, hliteral, -⟩ := hdenied
    rw [← hurl, Url.host_clearFragment] at hhost
    rw [parseTarget, hraw] at htarget
    exact acceptTarget_error (by simp [Url.hostStr_of_literal hhost hliteral]) htarget
  · exact resolveProxy_error hproxy

theorem inspect_target_refused (hprivate : spec.options.allowPrivate = false)
    (hdenied : DeniedHost url) (hclassified : Classified env.envVar spec.options url)
    {parsed : ParsedTarget} (hparsed : parseTarget spec.target spec.options = .ok parsed)
    (hurl : parsed.url = url) {report : Report} {w : World env}
    (h : inspect env spec = (.ok report, w)) :
    DeniedAt .dns (openingSession spec.options (World.start env)).tick report := by
  obtain ⟨o, ho⟩ := inspectWithBackend_eq_ok (liveBackend env) h
  obtain rfl : parsed = o.parsed := Except.ok.inj (hparsed.symm.trans o.accepts)
  obtain ⟨haccepted, hfragment⟩ := acceptedUrl_of_target o.accepts
  have hselects := o.selects
  rw [← hfragment, hurl] at hselects
  rw [hurl] at haccepted
  have hopening : (o.draft env.wallClock (World.start env)).options.allowPrivate = false := hprivate
  obtain ⟨d, ms, error, hstop, hrefused⟩ :=
    observeAll_of_denied o.parsed hopening (hclassified.denied hdenied haccepted hselects)
      (openingSession spec.options (World.start env))
  have hphases := finalized_phases (o.stages (liveBackend env) env.wallClock (World.start env))
  rw [← Opening.outcome, ho, Opening.stages, hstop] at hphases
  have hmem : failedPhase .dns ms error ∈ report.phases := by
    rw [hphases]
    exact List.mem_append_right _ List.mem_cons_self
  exact ⟨inspect_failedAt h hmem, ms, error, hmem, hrefused⟩

theorem inspect_redirect_refused (hjoin : JoinReparses)
    (hprivate : spec.options.allowPrivate = false) {o : Opening env.envVar spec} {b₀ b : HopState}
    {s₀ s : Session (World env)} {i : ℕ} (hstart : o.StartsHttp env b₀ s₀)
    (hreached : HopReached spec.options b₀ s₀ (i + 1) b s) (hdenied : DeniedHost b.current)
    (hclassified : Classified env.envVar spec.options b.current) {report : Report} {w : World env}
    (h : inspect env spec = (.ok report, w)) : DeniedAt .redirects s report := by
  obtain ⟨error, hround, hrefused⟩ :=
    hopRound_of_denied hprivate hdenied hclassified (hreached.reparses hjoin) s
  have hb : b₀.hops = [] := hstart.hops_eq_nil
  have hloop := (runHttp_eq_loop hb s₀).trans ((loop_of_reached hreached).2 _ hround)
  rcases inspect_http h o with ⟨b', s', hstart', -, d, hconcluded, -, hphases, -⟩ | ⟨hnone, -⟩
  · obtain ⟨rfl, rfl⟩ := hstart.eq hstart'
    rw [hloop] at hconcluded
    have hmem : failedPhase .redirects 0 error ∈ report.phases := by
      rw [hphases]
      cases hconcluded with
      | reached http phases =>
        rw [phases]
        exact List.mem_append_right _ (List.mem_cons_of_mem _ List.mem_cons_self)
    exact ⟨inspect_failedAt h hmem, 0, error, hmem, hrefused⟩
  · exact absurd hstart (hnone b₀ s₀)

/-- A denied URL that is classified is never requested, whatever the resolver, the
servers and the proxies of other URLs do. -/
theorem inspect_deniesUrl (hjoin : JoinReparses) (hprivate : spec.options.allowPrivate = false)
    (hdenied : DeniedHost url) (hclassified : Classified env.envVar spec.options url) :
    DeniesUrl env spec url (inspect env spec) where
  unrequested := inspect_unrequested hjoin hprivate hdenied hclassified
  target_rejected hvalid _ hraw hurl _ h := inspect_target_rejected hdenied hvalid hraw hurl h
  target_refused _ hparsed hurl report h :=
    inspect_target_refused hprivate hdenied hclassified hparsed hurl (Prod.ext h rfl)
  redirect_refused o b₀ s₀ i b s hstart hreached hurl report h := by
    subst hurl
    exact inspect_redirect_refused hjoin hprivate hstart hreached hdenied hclassified
      (Prod.ext h rfl)

end

def loopbackUrl : Url := { exampleUrl "/" with host := some (.ipv6 ⟨1⟩) }

def loopbackRecordings : Recordings where
  urls := [("http://[::1]/", loopbackUrl),
    ("http://proxy.test", { exampleUrl "/" with host := some (.domain "proxy.test") })]

def proxiedCalm : Environment :=
  { Environment.calm fun _ => .ok (.bare 200 []) with
    envVar := fun key => if key = "http_proxy" then some "proxy.test" else none }

theorem loopback_deniedHost : DeniedHost loopbackUrl := ⟨_, _, rfl, rfl, by decide +kernel⟩

/-- Behind a proxy the loopback target is requested. -/
theorem loopback_requested_through_proxy :
    letI := loopbackRecordings.crates
    DeniedHost loopbackUrl ∧ ¬ DeniesUrl proxiedCalm ⟨"http://[::1]/", {}⟩ loopbackUrl
      (inspect proxiedCalm ⟨"http://[::1]/", {}⟩) := by
  let := loopbackRecordings.crates
  refine ⟨loopback_deniedHost, fun h => ?_⟩
  refine h.unrequested ⟨10000000000, "proxy.test", .v4 (.ofOctets 93 184 215 14) 80,
    some "http://proxy.test/"⟩ .get ?_
  decide +kernel

def exemptingRecordings : Recordings where
  urls := ("http://example.com/", exampleUrl "/") :: loopbackRecordings.urls
  joins := [((exampleUrl "/", "http://[::1]/"), loopbackUrl)]

/-- The site is behind the proxy, and the loopback address is exempted from it. -/
def exemptingCalm : Environment :=
  { Environment.calm fun _ => .ok (.bare 302 [("location", Text.utf8 "http://[::1]/")]) with
    envVar := fun key =>
      if key = "no_proxy" then some "localhost,[::1]" else proxiedCalm.envVar key }

/-- Exempted from the proxy it is denied. -/
theorem loopback_deniesUrl :
    letI := exemptingRecordings.crates
    ∃ report w, inspect exemptingCalm ⟨"http://example.com/", {}⟩ = (.ok report, w) ∧
      report.proxy.endpoint = some "http://proxy.test/" ∧
      report.http.map HttpHop.location = [some "http://[::1]/"] ∧
      report.failedAt = some .redirects ∧
      DeniesUrl exemptingCalm ⟨"http://example.com/", {}⟩ loopbackUrl
        (inspect exemptingCalm ⟨"http://example.com/", {}⟩) := by
  let := exemptingRecordings.crates
  have hdirect : (resolveProxy exemptingCalm.envVar loopbackUrl {}).map ResolvedProxy.url =
      .ok none := by
    decide +kernel
  have hrun : Reports (inspect exemptingCalm ⟨"http://example.com/", {}⟩) fun report _ =>
      report.proxy.endpoint = some "http://proxy.test/" ∧
        report.http.map HttpHop.location = [some "http://[::1]/"] ∧
        report.failedAt = some .redirects := by
    decide +kernel
  obtain ⟨report, w, hrun, htest⟩ := exists_of_reports hrun
  obtain ⟨hendpoint, hlocations, hfailed⟩ := of_decide_eq_true htest
  refine ⟨report, w, hrun, hendpoint, hlocations, hfailed, inspect_deniesUrl
    (exemptingRecordings.joinReparses (by decide)) rfl loopback_deniedHost ?_⟩
  intro parsed proxy _ hproxy
  rw [hproxy] at hdirect
  exact Or.inl (Except.ok.inj hdirect)

end HopWhy
