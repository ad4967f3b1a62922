import HopWhy.Engine.Http
import HopWhy.Runs.Stages

/-!
# Effects of the live HTTP stage

One request has one of three effects, and which one it has is decided by the
state before it: the request is served when time, slot, client, response and
body are all there. A redirect chain is a row of endpoint lookups and requests.
-/

namespace HopWhy

variable {env : Environment}

/-- The octets a bounded read of the body returns, if no read below the limit fails. -/
def bodySample : ℕ → List BodyRead → Option (List UInt8)
  | 0, _ => some []
  | _ + 1, [] => some []
  | limit + 1, .data octets :: rest =>
    if octets = [] then some []
    else (bodySample (limit + 1 - octets.length) rest).map (octets.take (limit + 1) ++ ·)
  | _ + 1, .failed :: _ => none

/-- The result of a bounded read of a body. -/
def readResult : Option (List UInt8) → AppResult (List UInt8)
  | some read => .ok read
  | none => .error responseBodyReadFailed

theorem leads_bodyRead (timeout : ℕ) (s : Session (World env)) :
    Leads s (.ofCalls [.bodyRead timeout]) (s.interact (.bodyRead timeout)) :=
  leads_interact s (by simp)

/-- The reads of a body are calls without a record of their own. -/
theorem readToEnd_cases (timeout limit : ℕ) (body : List BodyRead) (s : Session (World env)) :
    ∃ n t, readToEnd timeout limit body s = (readResult (bodySample limit body), t) ∧
      Leads s (.ofCalls (List.replicate n (.bodyRead timeout))) t := by
  induction body generalizing limit s with
  | nil =>
    rcases limit with _ | limit
    · exact ⟨0, s, rfl, Leads.refl s⟩
    · exact ⟨1, _, rfl, leads_bodyRead timeout s⟩
  | cons b rest ih =>
    rcases limit with _ | limit
    · exact ⟨0, s, rfl, Leads.refl s⟩
    · rcases b with octets | _
      · by_cases hempty : octets = []
        · subst hempty
          exact ⟨1, _, rfl, leads_bodyRead timeout s⟩
        · obtain ⟨n, t, heq, hleads⟩ :=
            ih (limit + 1 - octets.length) (s.interact (.bodyRead timeout))
          refine ⟨n + 1, t, ?_, (leads_bodyRead timeout s).trans hleads⟩
          unfold readToEnd bodySample
          rw [interact_bind, if_neg hempty, if_neg hempty, Prog.bind_apply, heq]
          rcases bodySample (limit + 1 - octets.length) rest with _ | later <;> rfl
      · exact ⟨1, _, rfl, leads_bodyRead timeout s⟩

theorem toNat_saturatingU64_eq_min (n : ℕ) : (saturatingU64 n).toNat = min n (2 ^ 64 - 1) := by
  by_cases h : n < 2 ^ 64
  · rw [toNat_saturatingU64 h]
    omega
  · rw [saturatingU64, if_neg h, UInt64.toNat_ofNat_of_lt' (by decide)]
    omega

/-- Counting body octets. -/
theorem leads_count (s : Session (World env)) (n : ℕ) :
    Leads s ⟨[], [], [], n⟩ { s with tracker := { s.tracker with
      responseBytesRead := saturatingU64 (s.tracker.responseBytesRead.toNat + n) } } where
  calls := (Leads.refl s).calls
  completed := (Leads.refl s).completed
  probes := (Leads.refl s).probes
  read := toNat_saturatingU64_eq_min _
  started := rfl
  deadline := rfl
  maxProbes := rfl
  numbered := by simp
  limit := by simp
  steps := le_refl _

/-- The client goes to the endpoint and through the proxy it was built for. -/
structure Pinned (proxy : ResolvedProxy) (address : SocketAddr) (client : HttpClient) : Prop where
  host : client.pinnedHost = proxy.connectHost
  address : client.pinnedAddress = address
  proxy : client.proxy = proxy.url.map Url.asStr

/-- The client can be built when `step` is the number of the next interaction. -/
structure ClientReady (env : Environment) (proxy : ResolvedProxy) (s : Session (World env)) :
    Prop where
  inTime : env.time s.world.step < s.tracker.deadline
  proxied : ∀ url, proxy.url = some url → env.proxyAccepted url.asStr = true
  built : env.clientBuilds (s.world.step + 1) = true

theorem buildHttpClient_cases (proxy : ResolvedProxy) (address : SocketAddr)
    (s : Session (World env)) :
    (ClientReady env proxy s ∧ ∃ client, Pinned proxy address client ∧
      buildHttpClient proxy address s = (.ok client, s.tick)) ∨
    (¬ ClientReady env proxy s ∧
      ∃ error, buildHttpClient proxy address s = (.error error, s.tick)) := by
  unfold buildHttpClient
  rcases remaining_cases s with ⟨htime, hleft⟩ | ⟨htime, hleft⟩
  · rw [Prog.bind_ok hleft]
    by_cases hproxy : ∀ url, proxy.url = some url → env.proxyAccepted url.asStr = true
    · have hany : ((proxy.url.map Url.asStr).any fun text => !env.proxyAccepted text) = false := by
        rcases hurl : proxy.url with _ | url
        · rfl
        · simp [hproxy url hurl]
      simp only [hany, Bool.false_eq_true, if_false, Prog.bind_apply, Prog.state_apply, step_tick]
      by_cases hbuilt : env.clientBuilds (s.world.step + 1) = true
      · rw [if_pos hbuilt]
        exact Or.inl ⟨⟨htime, hproxy, hbuilt⟩, _, ⟨rfl, rfl, rfl⟩, rfl⟩
      · rw [if_neg hbuilt]
        exact Or.inr ⟨fun h => hbuilt h.built, _, rfl⟩
    · have hany : ((proxy.url.map Url.asStr).any fun text => !env.proxyAccepted text) = true := by
        push Not at hproxy
        obtain ⟨url, hurl, hno⟩ := hproxy
        simp [hurl, hno]
      simp only [hany, if_true]
      exact Or.inr ⟨fun h => hproxy h.proxied, _, rfl⟩
  · rw [Prog.bind_error hleft]
    exact Or.inr ⟨fun h => absurd h.inTime (Nat.not_lt.mpr htime), _, rfl⟩

/-- How many octets of a body are read: one past the sample, to see whether there are more. -/
def readLimit (options : InspectionOptions) : ℕ := min (options.maxBodyBytes.toNat + 1) (2 ^ 64 - 1)

/-- The state before a request from which it ends in a finished hop. -/
structure Served (env : Environment) (options : InspectionOptions) (proxy : ResolvedProxy)
    (s : Session (World env)) : Prop where
  client : ClientReady env proxy s
  inTime : env.time (s.world.step + 1) < s.tracker.deadline
  slot : SlotFree s
  answered : ∃ response, env.respond (s.world.step + 4) = .ok response ∧
    (bodySample (readLimit options) response.body).isSome

theorem leads_complete (s : Session (World env)) (hop : HttpHop) :
    Leads s (.ofHop hop) { s with world := s.world.complete hop } where
  calls := by simp [World.calls, Effect.ofHop]
  completed := rfl
  probes := by simp [Effect.ofHop]
  read := (Leads.refl s).read
  started := rfl
  deadline := rfl
  maxProbes := rfl
  numbered := by simp [Effect.ofHop]
  limit := by simp [Effect.ofHop]
  steps := le_refl _

/-- The variables of the next hop. -/
theorem afterHop_eq_inl {options : InspectionOptions} {i : ℕ} {b b' : HopState}
    {proxy : ResolvedProxy} {address : SocketAddr} {x : Exchange}
    (h : afterHop options i b proxy address x = .inl b') :
    i ≠ options.maxRedirects.toNat ∧ x.redirectError = none ∧ x.nextUrl = some b'.current ∧
      b'.hops = b.hops ++ [x.hop] := by
  unfold afterHop at h
  dsimp only at h
  rcases herror : x.redirectError with _ | error
  · rcases hnext : x.nextUrl with _ | next
    · simp [herror, hnext] at h
    · rw [herror, hnext] at h
      dsimp only at h
      split_ifs at h with hi
      cases h
      exact ⟨hi, rfl, rfl, rfl⟩
  · simp [herror] at h

theorem afterHop_eq_inr {options : InspectionOptions} {i : ℕ} {b : HopState}
    {proxy : ResolvedProxy} {address : SocketAddr} {x : Exchange} {r : HttpResult}
    (h : afterHop options i b proxy address x = .inr r) : r.1 = b.hops ++ [x.hop] := by
  unfold afterHop at h
  dsimp only at h
  repeat' split at h
  all_goals cases h
  all_goals rfl

variable [Crates]

/-- What a response and its body sample leave. -/
def exchangeOf (options : InspectionOptions) (sequence : ℕ) (current : Url) (response : Response)
    (read : List UInt8) : Exchange :=
  let (nextUrl, redirectError) := followLocation current response
  { hop := hopOf response sequence (redactUrl current options.showQueryValues)
      (nextUrl.map fun url => redactUrl url options.showQueryValues) options read
    nextUrl
    redirectError }

inductive ExchangeEffect (env : Environment) (served : Prop) (options : InspectionOptions)
    (sequence : ℕ) (current : Url) (proxy : ResolvedProxy) (address : SocketAddr) :
    Effect → AppResult Exchange → Prop
  | refused (unserved : ¬ served) (error : AppError) :
      ExchangeEffect env served options sequence current proxy address .none (.error error)
  | failed (unserved : ¬ served) (client : HttpClient) (pinned : Pinned proxy address client)
      (reads : ℕ) (record : ProbeRecord) (kind : record.kind = .httpRequest)
      (names : record.destination = redactUrl current options.showQueryValues)
      (error : AppError) :
      ExchangeEffect env served options sequence current proxy address
        (.probed (.request client options.method current ::
          List.replicate reads (.bodyRead client.timeout)) record) (.error error)
  | finished (isserved : served) (client : HttpClient) (pinned : Pinned proxy address client)
      (reads : ℕ) (record : ProbeRecord) (kind : record.kind = .httpRequest)
      (names : record.destination = redactUrl current options.showQueryValues)
      (response : Response) (read : List UInt8)
      (sampled : bodySample (readLimit options) response.body = some read)
      (responded : ∃ n, env.respond n = .ok response) :
      ExchangeEffect env served options sequence current proxy address
        ⟨.request client options.method current ::
            List.replicate reads (.bodyRead client.timeout), [record], [],
          (read.take options.maxBodyBytes.toNat).length⟩
        (.ok (exchangeOf options sequence current response read))

/-- A hop whose body is read is counted; otherwise the reads stay uncounted. -/
theorem responseToHop_cases (response : Response) (sequence timeout : ℕ) (url : String)
    (location : Option String) (options : InspectionOptions) (s : Session (World env)) :
    ∃ reads, (∃ read, bodySample (readLimit options) response.body = some read ∧
        (responseToHop response sequence timeout url location options s).1 =
          .ok (hopOf response sequence url location options read) ∧
        Leads s ⟨List.replicate reads (.bodyRead timeout), [], [],
            (read.take options.maxBodyBytes.toNat).length⟩
          (responseToHop response sequence timeout url location options s).2) ∨
      (bodySample (readLimit options) response.body = none ∧
        (responseToHop response sequence timeout url location options s).1 =
          .error responseBodyReadFailed ∧
        Leads s (.ofCalls (List.replicate reads (.bodyRead timeout)))
          (responseToHop response sequence timeout url location options s).2) := by
  unfold responseToHop
  rw [← readLimit]
  obtain ⟨reads, t, heq, hleads⟩ :=
    readToEnd_cases timeout (readLimit options) response.body s
  refine ⟨reads, ?_⟩
  rw [Prog.bind_apply, heq]
  rcases hsample : bodySample (readLimit options) response.body with _ | read
  · exact Or.inr ⟨rfl, rfl, hleads⟩
  · refine Or.inl ⟨read, rfl, rfl, ?_⟩
    have h := hleads.trans (leads_count t (read.take options.maxBodyBytes.toNat).length)
    rw [Effect.ofCalls_append_read, List.append_nil] at h
    exact h

theorem exchange_effect (sequence : ℕ) (current : Url) (proxy : ResolvedProxy)
    (address : SocketAddr) (options : InspectionOptions) (s : Session (World env)) :
    ∃ e, Leads s e (exchange sequence current proxy address options s).2 ∧
      ExchangeEffect env (Served env options proxy s) options sequence current proxy address e
        (exchange sequence current proxy address options s).1 := by
  unfold exchange
  rcases buildHttpClient_cases proxy address s with
    ⟨hready, client, hpinned, hclient⟩ | ⟨hready, error, hclient⟩
  · rw [Prog.bind_ok hclient]
    rcases startProbe_cases .httpRequest (redactUrl current options.showQueryValues) s.tick with
      ⟨htime, hslot, probe, hprobe, hopened⟩ | ⟨hno, hprobe⟩
    · rw [Prog.bind_ok hprobe, instant_bind]
      simp only [sendRequest, interact_bind]
      have hfour : s.tick.tick.tick.tick.world.step = s.world.step + 4 := by simp
      rw [step_tick] at htime
      rw [hfour]
      have hcall : Leads s (.ofCalls [.request client options.method current])
          (s.tick.tick.tick.tick.interact (.request client options.method current)) := by
        have h := ((((leads_tick s).trans (leads_tick _)).trans (leads_tick _)).trans
          (leads_tick s.tick.tick.tick)).trans (leads_interact s.tick.tick.tick.tick
            (i := .request client options.method current) (by simp))
        simpa only [Effect.none_append] using h
      have hclose := fun outcome durationMs =>
        hcall.trans (leads_close (hopened.of_tick.along hcall rfl) outcome durationMs)
      simp only [Effect.ofCalls_append_ofProbe] at hclose
      rcases hrespond : env.respond (s.world.step + 4) with error | response
      · refine ⟨_, hclose "request_failed" _, .failed (fun h => ?_) client hpinned 0 _
          hopened.kind hopened.destination _⟩
        obtain ⟨response, hok, -⟩ := h.answered
        rw [hrespond] at hok
        cases hok
      · simp only [finishProbe_bind]
        have hrecord := hclose "response_received"
        obtain ⟨reads, ⟨read, hsample, hok, hleads⟩ | ⟨hsample, herr, hleads⟩⟩ :=
          responseToHop_cases response sequence client.timeout
            (redactUrl current options.showQueryValues)
            ((followLocation current response).1.map fun url =>
              redactUrl url options.showQueryValues) options _
        · rw [Prog.bind_ok (Prod.ext hok rfl)]
          have h := (hrecord _).trans hleads
          rw [Effect.probed_append_read] at h
          have hserved : Served env options proxy s :=
            ⟨hready, htime, hslot, response, hrespond, by simp [hsample]⟩
          exact ⟨_, h, .finished hserved client hpinned reads _ hopened.kind
            hopened.destination response read hsample ⟨_, hrespond⟩⟩
        · rw [Prog.bind_error (Prod.ext herr rfl)]
          refine ⟨_, (hrecord _).trans hleads, .failed (fun h => ?_) client hpinned reads _
            hopened.kind hopened.destination _⟩
          obtain ⟨other, hok, hsome⟩ := h.answered
          rw [hrespond] at hok
          cases hok
          simp [hsample] at hsome
    · rw [Prog.bind_error hprobe]
      refine ⟨_, (leads_tick s).trans (leads_tick _), .refused (fun h => hno ⟨?_, h.slot⟩) _⟩
      rw [step_tick]
      exact h.inTime
  · rw [Prog.bind_error hclient]
    exact ⟨_, leads_tick s, .refused (fun h => hready h.client) error⟩

/-- The endpoint of a redirect, from the result of its lookup. -/
def endpointOf (proxy : ResolvedProxy) :
    AppResult (List SocketAddr × List SocketAddr) → AppResult (ResolvedProxy × SocketAddr)
  | .error error => .error error
  | .ok (_, permitted) =>
    match permitted.head? with
    | some address => .ok (proxy, address)
    | none => .error redirectTargetDenied

inductive AuthorizeEffect (env : Environment) (options : InspectionOptions)
    (current : Url) : Effect → AppResult (ResolvedProxy × SocketAddr) → Prop
  | denied (error : AppError) : AuthorizeEffect env options current .none (.error error)
  | looked (parsed : ParsedTarget) (proxy : ResolvedProxy)
      (accepts : parseTarget current.asStr options = .ok parsed)
      (selects : resolveProxy env.envVar parsed.url options = .ok proxy) {e : Effect}
      {r : AppResult (List SocketAddr × List SocketAddr)}
      (lookup : LookupEffect options (destinationOf proxy) e r) :
      AuthorizeEffect env options current e (endpointOf proxy r)

theorem authorizeRedirect_apply {current : Url} {options : InspectionOptions}
    {parsed : ParsedTarget} {proxy : ResolvedProxy}
    (hparsed : parseTarget current.asStr options = .ok parsed)
    (hproxy : resolveProxy env.envVar parsed.url options = .ok proxy) (s : Session (World env)) :
    authorizeRedirect current options s =
      (endpointOf proxy (resolveAddresses proxy options s).1,
        (resolveAddresses proxy options s).2) := by
  unfold authorizeRedirect
  simp only [hparsed, hproxy, Prog.bind_apply, Prog.ofExcept_apply]
  rcases resolveAddresses proxy options s with ⟨error | ⟨all, permitted⟩, t⟩
  · rfl
  · rw [endpointOf]
    dsimp only
    rcases permitted.head? with _ | address <;> rfl

theorem authorizeRedirect_effect (current : Url) (options : InspectionOptions)
    (s : Session (World env)) :
    ∃ e, Leads s e (authorizeRedirect current options s).2 ∧
      AuthorizeEffect env options current e (authorizeRedirect current options s).1 := by
  rcases hparsed : parseTarget current.asStr options with error | parsed
  · refine ⟨.none, ?_⟩
    simp only [authorizeRedirect, hparsed, Prog.bind_apply, Prog.ofExcept_apply]
    exact ⟨Leads.refl s, .denied error⟩
  rcases hproxy : resolveProxy env.envVar parsed.url options with error | proxy
  · refine ⟨.none, ?_⟩
    simp only [authorizeRedirect, hparsed, hproxy, Prog.bind_apply, Prog.ofExcept_apply]
    exact ⟨Leads.refl s, .denied error⟩
  obtain ⟨e, hleads, hlookup⟩ := resolveAddresses_effect proxy options s
  rw [authorizeRedirect_apply hparsed hproxy]
  exact ⟨e, hleads, .looked parsed proxy hparsed hproxy hlookup⟩

/-- The first hop has its endpoint already. -/
inductive EndpointEffect (env : Environment) (options : InspectionOptions) :
    ℕ → HopState → Effect → AppResult (ResolvedProxy × SocketAddr) → Prop
  | first (b : HopState) :
      EndpointEffect env options 0 b .none (.ok (b.proxy, b.selectedAddress))
  | later (i : ℕ) (b : HopState) {e : Effect} {r : AppResult (ResolvedProxy × SocketAddr)}
      (authorized : AuthorizeEffect env options b.current e r) :
      EndpointEffect env options (i + 1) b e r

theorem hopEndpoint_effect (options : InspectionOptions) (i : ℕ) (b : HopState)
    (s : Session (World env)) :
    ∃ e, Leads s e (hopEndpoint options i b s).2 ∧
      EndpointEffect env options i b e (hopEndpoint options i b s).1 := by
  rcases i with _ | i
  · exact ⟨.none, Leads.refl s, .first b⟩
  · obtain ⟨e, hleads, heffect⟩ := authorizeRedirect_effect b.current options s
    exact ⟨e, hleads, .later i b heffect⟩

/-- The effects of one round: no endpoint, a lost request, or a finished hop. -/
inductive RoundEffect (env : Environment) (options : InspectionOptions) (i : ℕ)
    (b : HopState) : Effect → AppResult (HopState ⊕ HttpResult) → Prop
  | stopped {e : Effect} {error : AppError}
      (endpoint : EndpointEffect env options i b e (.error error)) :
      RoundEffect env options i b e (.ok (.inr (b.hops, some error)))
  | lost {e₁ e₂ : Effect} {proxy : ResolvedProxy} {address : SocketAddr} {error : AppError}
      {served : Prop} (endpoint : EndpointEffect env options i b e₁ (.ok (proxy, address)))
      (request : ExchangeEffect env served options i b.current proxy address e₂ (.error error)) :
      RoundEffect env options i b (e₁ ++ e₂) (.error error)
  | finished {e₁ e₂ : Effect} {proxy : ResolvedProxy} {address : SocketAddr} {x : Exchange}
      {served : Prop} (endpoint : EndpointEffect env options i b e₁ (.ok (proxy, address)))
      (request : ExchangeEffect env served options i b.current proxy address e₂ (.ok x)) :
      RoundEffect env options i b (e₁ ++ e₂ ++ .ofHop x.hop)
        (.ok (afterHop options i b proxy address x))

theorem hopRound_effect (options : InspectionOptions) (i : ℕ) (b : HopState)
    (s : Session (World env)) :
    ∃ e, Leads s e (hopRound options i b s).2 ∧
      RoundEffect env options i b e (hopRound options i b s).1 := by
  unfold hopRound
  obtain ⟨e₁, hleads₁, hendpoint⟩ := hopEndpoint_effect options i b s
  rcases hr : hopEndpoint options i b s with ⟨error | ⟨proxy, address⟩, t⟩
  · rw [hr] at hleads₁ hendpoint
    simp only [Prog.bind_apply, Prog.attempt_apply, hr]
    exact ⟨e₁, hleads₁, .stopped hendpoint⟩
  · rw [hr] at hleads₁ hendpoint
    simp only [Prog.bind_apply, Prog.attempt_apply, hr]
    obtain ⟨e₂, hleads₂, hrequest⟩ := exchange_effect i b.current proxy address options t
    rcases hx : exchange i b.current proxy address options t with ⟨error | x, u⟩
    · rw [hx] at hleads₂ hrequest
      exact ⟨_, hleads₁.trans hleads₂, .lost hendpoint hrequest⟩
    · rw [hx] at hleads₂ hrequest
      exact ⟨_, (hleads₁.trans hleads₂).trans (leads_complete u x.hop),
        .finished hendpoint hrequest⟩

/-- The effects of the redirect loop from hop `i` on. -/
inductive ChainEffect (env : Environment) (options : InspectionOptions) :
    ℕ → HopState → Effect → AppResult HttpResult → Prop
  | lost {i : ℕ} {b : HopState} {e : Effect} {error : AppError}
      (round : RoundEffect env options i b e (.error error)) :
      ChainEffect env options i b e (.error error)
  | ended {i : ℕ} {b : HopState} {e : Effect} {r : HttpResult}
      (round : RoundEffect env options i b e (.ok (.inr r))) :
      ChainEffect env options i b e (.ok r)
  | followed {i : ℕ} {b b' : HopState} {e e' : Effect} {r : AppResult HttpResult}
      (round : RoundEffect env options i b e (.ok (.inl b')))
      (later : ChainEffect env options (i + 1) b' e' r) :
      ChainEffect env options i b (e ++ e') r

/-- A round that goes on is not the last one. -/
theorem RoundEffect.lt_limit {options : InspectionOptions}
    {i : ℕ} {b b' : HopState} {e : Effect}
    (h : RoundEffect env options i b e (.ok (.inl b'))) : i ≠ options.maxRedirects.toNat := by
  generalize hr : (Except.ok (.inl b') : AppResult (HopState ⊕ HttpResult)) = r at h
  cases h with
  | stopped endpoint => cases hr
  | lost endpoint request => cases hr
  | finished endpoint request => exact (afterHop_eq_inl (Except.ok.inj hr).symm).1

theorem runHttp_effect (initialUrl : Url) (initialProxy : ResolvedProxy)
    (initialAddress : SocketAddr) (options : InspectionOptions) (s : Session (World env)) :
    ∃ e, Leads s e (runHttp initialUrl initialProxy initialAddress options s).2 ∧
      ChainEffect env options 0
        { current := initialUrl, hops := [], proxy := initialProxy
          selectedAddress := initialAddress } e
        (runHttp initialUrl initialProxy initialAddress options s).1 := by
  unfold runHttp
  -- The rounds that are left reach the limit, so the loop never runs out of them.
  suffices hloop : ∀ n i b (s : Session (World env)), i ≤ options.maxRedirects.toNat →
      i + n = options.maxRedirects.toNat + 1 →
      ∃ e, Leads s e (Prog.loop (hopRound options) (fun b => pure (b.hops, none)) n i b s).2 ∧
        ChainEffect env options i b e
          (Prog.loop (hopRound options) (fun b => pure (b.hops, none)) n i b s).1 from
    hloop (options.maxRedirects.toNat + 1) 0 _ s (by omega) (by omega)
  intro n
  induction n with
  | zero =>
    intro i b s hle hi
    omega
  | succ n ih =>
    intro i b s hle hi
    obtain ⟨e, hleads, hround⟩ := hopRound_effect options i b s
    rw [Prog.loop]
    rcases hr : hopRound options i b s with ⟨error | b' | r, t⟩
    · rw [hr] at hleads hround
      rw [Prog.bind_error hr]
      exact ⟨e, hleads, .lost hround⟩
    · rw [hr] at hleads hround
      rw [Prog.bind_ok hr]
      have hlt := hround.lt_limit
      obtain ⟨e', hleads', hlater⟩ := ih (i + 1) b' t (by omega) (by omega)
      exact ⟨e ++ e', hleads.trans hleads', .followed hround hlater⟩
    · rw [hr] at hleads hround
      rw [Prog.bind_ok hr]
      exact ⟨e, hleads, .ended hround⟩

end HopWhy
