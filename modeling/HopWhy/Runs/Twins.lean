import HopWhy.Engine.Inspect
import HopWhy.Library.Coupled

/-!
# Two runs in step

The runs of two inspections in the same network, with environment variables of
their own. They stay in step, with the same probes at the same times, when the URLs
they hold look alike: redacted, followed, parsed and proxied with the same outcome.
-/

namespace HopWhy

/-- The same network, seen with other environment variables. -/
def Environment.withVars (env : Environment) (vars : String → Option String) : Environment :=
  { env with envVar := vars }

variable [Crates] {env : Environment} {vars : String → Option String}

/-- The sessions of two runs that are in step. -/
structure Twins (s : Session (World env)) (s' : Session (World (env.withVars vars))) : Prop where
  tracker : s.tracker = s'.tracker
  step : s.world.step = s'.world.step

/-- Two programs of the runs that keep in step. -/
abbrev InStep (env : Environment) (vars : String → Option String) {ε α α' : Type}
    (A : α → α' → Prop) (m : Prog (Session (World env)) ε α)
    (m' : Prog (Session (World (env.withVars vars))) ε α') : Prop := Prog.Coupled Twins A m m'

section

variable {ε α α' : Type}

omit [Crates]

theorem instant_inStep : InStep env vars Eq
    (instant : Prog (Session (World env)) ε ℕ) instant := by
  intro s s' h
  refine ⟨congrArg env.time h.step, h.tracker, ?_⟩
  exact (World.step_interact _ _).trans ((congrArg (· + 1) h.step).trans
    (World.step_interact _ _).symm)

theorem elapsedMs_inStep (started : ℕ) : InStep env vars Eq
    (elapsedMs started : Prog (Session (World env)) ε UInt64) (elapsedMs started) := by
  apply instant_inStep.bindEq
  intro now
  exact Prog.Coupled.pure rfl

theorem state_inStep : InStep env vars Twins
    (Prog.state : Prog (Session (World env)) ε (Session (World env))) Prog.state :=
  fun _ _ h => ⟨h, h⟩

theorem modifyTracker_inStep (f : Tracker → Tracker) : InStep env vars Eq
    (modifyTracker f : Prog (Session (World env)) ε Unit) (modifyTracker f) := by
  apply Prog.Coupled.modify
  intro s s' h
  exact ⟨congrArg f h.tracker, h.step⟩

/-- A call whose answer does not depend on what is asked for. -/
theorem interact_inStep {A : α → α' → Prop} {answer : ℕ → α × Interaction}
    {answer' : ℕ → α' × Interaction} (h : ∀ n, A (answer n).1 (answer' n).1) :
    InStep env vars A
      (interact answer : Prog (Session (World env)) ε α) (interact answer') := by
  intro s s' hs
  refine ⟨?_, hs.tracker, ?_⟩
  · change A (answer s.world.step).1 (answer' s'.world.step).1
    rw [← hs.step]
    exact h _
  · exact (World.step_interact _ _).trans ((congrArg (· + 1) hs.step).trans
      (World.step_interact _ _).symm)

theorem remaining_inStep : InStep env vars Eq Tracker.remaining
    Tracker.remaining := by
  apply instant_inStep.bindEq
  intro now
  apply state_inStep.bind
  intro s s' h
  rw [h.tracker]
  exact Prog.Coupled.ite Iff.rfl (Prog.Coupled.pure rfl) (Prog.Coupled.fail _)

theorem startProbe_inStep (kind : ProbeKind) (destination : String) :
    InStep env vars Eq (Tracker.startProbe kind destination)
      (Tracker.startProbe kind destination) := by
  apply remaining_inStep.bindEq
  intro _
  apply state_inStep.bind
  intro s s' h
  rw [h.tracker]
  apply Prog.Coupled.ite Iff.rfl (Prog.Coupled.fail _)
  apply (elapsedMs_inStep _).bindEq
  intro startedMs
  exact Prog.Coupled.pure rfl

theorem finishProbe_inStep (probe : ActiveProbe) (started : ℕ) (outcome : String) :
    InStep env vars Eq
      (Tracker.finishProbe probe started outcome : Prog (Session (World env)) ε Unit)
      (Tracker.finishProbe probe started outcome) := by
  apply (elapsedMs_inStep started).bindEq
  intro durationMs
  exact modifyTracker_inStep _

/-- A probe that is closed before the stage fails. -/
theorem finishProbe_fail_inStep {A : α → α' → Prop} (probe : ActiveProbe) (started : ℕ)
    (outcome : String) (error : ε) : InStep env vars A
      (Tracker.finishProbe probe started outcome >>= fun _ => Prog.fail error)
      (Tracker.finishProbe probe started outcome >>= fun _ => Prog.fail error) := by
  apply (finishProbe_inStep probe started outcome).bindEq
  intro _
  exact Prog.Coupled.fail error

end

/-- Two proxies that a run tells apart by the text of their URL only. -/
structure ProxyTwins (env : Environment) (p p' : ResolvedProxy) : Prop where
  summary : p.summary = p'.summary
  host : p.connectHost = p'.connectHost
  port : p.connectPort = p'.connectPort
  accepted : ((p.url.map Url.asStr).any fun text => !env.proxyAccepted text) =
    (p'.url.map Url.asStr).any fun text => !env.proxyAccepted text

omit [Crates] in
theorem ProxyTwins.refl (p : ResolvedProxy) : ProxyTwins env p p := ⟨rfl, rfl, rfl, rfl⟩

omit [Crates] in
theorem resolveAddresses_inStep {p p' : ResolvedProxy} (h : ProxyTwins env p p')
    (options : InspectionOptions) : InStep env vars Eq
      (resolveAddresses p options) (resolveAddresses p' options) := by
  unfold resolveAddresses
  rw [h.host, h.port]
  apply (startProbe_inStep _ _).bindEq
  intro probe
  apply instant_inStep.bindEq
  intro started
  apply (interact_inStep (A := Eq) fun n => rfl).bindEq
  rintro (_ | answer)
  · exact finishProbe_fail_inStep _ _ _ _
  · apply (finishProbe_inStep _ _ _).bindEq
    intro _
    exact Prog.Coupled.ite Iff.rfl (Prog.Coupled.fail _) (Prog.Coupled.pure rfl)

theorem connectFirst_inStep (addresses : List SocketAddr) (options : InspectionOptions) :
    InStep env vars Eq (connectFirst addresses options)
      (connectFirst addresses options) := by
  apply Prog.Coupled.firstOf _ (Prog.Coupled.fail _)
  intro address
  apply (startProbe_inStep _ _).bindEq
  intro probe
  apply instant_inStep.bindEq
  intro started
  apply remaining_inStep.bindEq
  intro timeout
  apply (interact_inStep (A := Eq) fun n => rfl).bindEq
  intro connected
  apply Prog.Coupled.ite Iff.rfl
  · apply (finishProbe_inStep _ _ _).bindEq
    intro _
    exact Prog.Coupled.pure rfl
  · apply (finishProbe_inStep _ _ _).bindEq
    intro _
    exact Prog.Coupled.pure rfl

omit [Crates] in
theorem handshakeRound_inStep (probe : ActiveProbe) (started timeout : ℕ) :
    InStep env vars Eq (handshakeRound probe started timeout)
      (handshakeRound probe started timeout) := by
  apply remaining_inStep.bindEq
  intro left
  exact Prog.Coupled.ite Iff.rfl (finishProbe_fail_inStep _ _ _ _) (interact_inStep fun _ => rfl)

omit [Crates] in
theorem completeHandshake_inStep (probe : ActiveProbe) (started timeout : ℕ)
    (outcome : Option TlsSession) (rounds : ℕ) :
    InStep env vars Eq
      (completeHandshake probe started timeout outcome rounds)
      (completeHandshake probe started timeout outcome rounds) := by
  induction rounds with
  | zero =>
    apply (handshakeRound_inStep _ _ _).bindEq
    intro _
    rcases outcome with _ | session
    · exact finishProbe_fail_inStep _ _ _ _
    · exact Prog.Coupled.pure rfl
  | succ rounds ih =>
    apply (handshakeRound_inStep _ _ _).bindEq
    intro _
    exact ih

theorem probeTls_inStep (address : SocketAddr) (serverHost : String) (showAddresses : Bool) :
    InStep env vars Eq (probeTls address serverHost showAddresses)
      (probeTls address serverHost showAddresses) := by
  apply (startProbe_inStep _ _).bindEq
  intro probe
  apply instant_inStep.bindEq
  intro started
  apply remaining_inStep.bindEq
  intro left
  apply (interact_inStep (A := Eq) fun n => rfl).bindEq
  rintro ⟨connected, handshake⟩
  apply Prog.Coupled.ite Iff.rfl (finishProbe_fail_inStep _ _ _ _)
  apply Prog.Coupled.ite Iff.rfl (finishProbe_fail_inStep _ _ _ _)
  apply Prog.Coupled.ite Iff.rfl (finishProbe_fail_inStep _ _ _ _)
  apply (completeHandshake_inStep _ _ _ _ _).bindEq
  intro session
  apply (finishProbe_inStep _ _ _).bindEq
  intro _
  exact Prog.Coupled.pure rfl

/-- URLs `u` and `v` that the runs may hold at the same time: `current` ones, and
those that a response refers to. Nothing that a run does with them tells them apart. -/
structure Indistinct (env : Environment) (vars : String → Option String)
    (options : InspectionOptions) (current next : Url → Url → Prop) : Prop where
  current_of_next : ∀ u v, next u v → current u v
  redacted : ∀ u v, current u v →
    redactUrl u options.showQueryValues = redactUrl v options.showQueryValues
  scheme : ∀ u v, current u v → u.scheme = v.scheme
  followed : ∀ u v response, current u v →
    Option.Rel next (followLocation u response).1 (followLocation v response).1 ∧
      (followLocation u response).2 = (followLocation v response).2
  reparsed : ∀ u v, next u v → (parseTarget u.asStr options).Alike
    (fun p p' => current p.url p'.url ∧ p.summary = p'.summary) (parseTarget v.asStr options)
  resolved : ∀ u v, current u v →
    (resolveProxy env.envVar u options).Alike (ProxyTwins env) (resolveProxy vars v options)

omit [Crates] in
theorem readToEnd_inStep (timeout limit : ℕ) (body : List BodyRead) :
    InStep env vars Eq (readToEnd timeout limit body) (readToEnd timeout limit body) := by
  have hread : InStep env vars Eq
      (interact fun _ => ((), .bodyRead timeout) : Live env Unit)
      (interact fun _ => ((), .bodyRead timeout)) := interact_inStep fun _ => rfl
  induction body generalizing limit with
  | nil =>
    rcases limit with _ | limit
    · exact Prog.Coupled.pure rfl
    · apply hread.bindEq
      intro _
      exact Prog.Coupled.pure rfl
  | cons read rest ih =>
    rcases limit with _ | limit
    · exact Prog.Coupled.pure rfl
    · rcases read with octets | _
      · apply hread.bindEq
        intro _
        apply Prog.Coupled.ite Iff.rfl (Prog.Coupled.pure rfl)
        apply (ih _).bindEq
        intro later
        exact Prog.Coupled.pure rfl
      · apply hread.bindEq
        intro _
        exact Prog.Coupled.fail _

theorem responseToHop_inStep (response : Response) (sequence timeout : ℕ) (url : String)
    (location : Option String) (options : InspectionOptions) :
    InStep env vars Eq (responseToHop response sequence timeout url location options)
      (responseToHop response sequence timeout url location options) := by
  apply (readToEnd_inStep _ _ _).bindEq
  intro read
  apply (modifyTracker_inStep _).bindEq
  intro _
  exact Prog.Coupled.pure rfl

omit [Crates] in
theorem buildHttpClient_inStep {p p' : ResolvedProxy} (h : ProxyTwins env p p')
    (address : SocketAddr) :
    InStep env vars (fun client client' => client.timeout = client'.timeout)
      (buildHttpClient p address) (buildHttpClient p' address) := by
  apply remaining_inStep.bindEq
  intro left
  apply Prog.Coupled.ite
  · exact (congrArg (· = true) h.accepted).to_iff
  · exact Prog.Coupled.fail _
  · apply state_inStep.bind
    intro s s' hs
    have hbuilds : env.clientBuilds s.world.step = true ↔
        (env.withVars vars).clientBuilds s'.world.step = true := by
      rw [hs.step]
      rfl
    exact Prog.Coupled.ite hbuilds (Prog.Coupled.pure rfl) (Prog.Coupled.fail _)

/-- Exchanges with the same hop that refer to URLs alike. -/
structure ExchangeTwins (next : Url → Url → Prop) (e e' : Exchange) : Prop where
  hop : e.hop = e'.hop
  nextUrl : Option.Rel next e.nextUrl e'.nextUrl
  redirectError : e.redirectError = e'.redirectError

section

variable {options : InspectionOptions} {current next : Url → Url → Prop}
  (h : Indistinct env vars options current next) {p p' : ResolvedProxy}

include h

theorem Indistinct.map_redactUrl {x y : Option Url} (hnext : Option.Rel next x y) :
    (x.map fun url => redactUrl url options.showQueryValues) =
      y.map fun url => redactUrl url options.showQueryValues := by
  rcases hnext with hnext | _
  · exact congrArg some (h.redacted _ _ (h.current_of_next _ _ hnext))
  · rfl

theorem exchange_inStep (sequence : ℕ) {u v : Url} (hcurrent : current u v)
    (hproxy : ProxyTwins env p p') (address : SocketAddr) :
    InStep env vars (ExchangeTwins next) (exchange sequence u p address options)
      (exchange sequence v p' address options) := by
  unfold exchange
  rw [h.redacted u v hcurrent, h.scheme u v hcurrent]
  apply (buildHttpClient_inStep hproxy address).bind
  intro client client' htimeout
  apply (startProbe_inStep _ _).bindEq
  intro probe
  apply instant_inStep.bindEq
  intro started
  have hsend : InStep env vars Eq (sendRequest client options.method u)
      (sendRequest client' options.method v) := interact_inStep fun n => rfl
  apply hsend.bindEq
  rintro (error | response)
  · exact finishProbe_fail_inStep _ _ _ _
  · apply (finishProbe_inStep _ _ _).bindEq
    intro _
    obtain ⟨hnext, herror⟩ := h.followed u v response hcurrent
    dsimp only
    rw [h.map_redactUrl hnext, htimeout]
    apply (responseToHop_inStep _ _ _ _ _ _).bindEq
    intro hop
    exact Prog.Coupled.pure ⟨rfl, hnext, herror⟩

theorem authorizeRedirect_inStep {u v : Url} (hnext : next u v) :
    InStep env vars (fun a a' => ProxyTwins env a.1 a'.1 ∧ a.2 = a'.2)
      (authorizeRedirect u options) (authorizeRedirect v options) := by
  apply (Prog.Coupled.ofExcept (h.reparsed u v hnext)).bind
  rintro parsed parsed' ⟨hurl, -⟩
  apply (Prog.Coupled.ofExcept (h.resolved _ _ hurl)).bind
  intro q q' hproxy
  apply (resolveAddresses_inStep hproxy options).bindEq
  rintro ⟨all, permitted⟩
  dsimp only
  rcases permitted.head? with _ | address
  · exact Prog.Coupled.fail _
  · exact Prog.Coupled.pure ⟨hproxy, rfl⟩

/-- The variables of the two loops at the beginning of a round. -/
structure HopTwins (env : Environment) (current next : Url → Url → Prop) (i : ℕ)
    (b b' : HopState) : Prop where
  current : current b.current b'.current
  next : i ≠ 0 → next b.current b'.current
  hops : b.hops = b'.hops
  proxy : ProxyTwins env b.proxy b'.proxy
  address : b.selectedAddress = b'.selectedAddress

theorem hopEndpoint_inStep {i : ℕ} {b b' : HopState} (hb : HopTwins env current next i b b') :
    InStep env vars (fun a a' => ProxyTwins env a.1 a'.1 ∧ a.2 = a'.2) (hopEndpoint options i b)
      (hopEndpoint options i b') := by
  unfold hopEndpoint
  split_ifs with hi
  · exact Prog.Coupled.pure ⟨hb.proxy, hb.address⟩
  · exact authorizeRedirect_inStep h (hb.next hi)

theorem afterHop_twins {i : ℕ} {b b' : HopState} (hb : HopTwins env current next i b b')
    (hproxy : ProxyTwins env p p') (address : SocketAddr) {e e' : Exchange}
    (he : ExchangeTwins next e e') :
    Sum.LiftRel (HopTwins env current next (i + 1)) Eq (afterHop options i b p address e)
      (afterHop options i b' p' address e') := by
  obtain ⟨hop, nextUrl, redirectError⟩ := e
  obtain ⟨hop', nextUrl', redirectError'⟩ := e'
  obtain ⟨rfl, hnext, rfl⟩ := he
  unfold afterHop
  rw [hb.hops]
  rcases redirectError with _ | error
  · rcases hnext with hnext | _
    · dsimp only
      split_ifs with hlast
      · exact .inr rfl
      · exact .inl ⟨h.current_of_next _ _ hnext, fun _ => hnext, rfl, hproxy, rfl⟩
    · exact .inr rfl
  · exact .inr rfl

theorem hopRound_inStep {i : ℕ} {b b' : HopState} (hb : HopTwins env current next i b b') :
    InStep env vars (Sum.LiftRel (HopTwins env current next (i + 1)) Eq) (hopRound options i b)
      (hopRound options i b') := by
  apply Prog.Coupled.attemptBind (hopEndpoint_inStep h hb)
  · rintro ⟨q, address⟩ ⟨q', address'⟩ ⟨hproxy, haddress⟩
    obtain rfl : address = address' := haddress
    apply (exchange_inStep h i hb.current hproxy address).bind
    intro e e' he
    have hcomplete : InStep env vars Eq (complete e.hop) (complete e'.hop) := by
      apply Prog.Coupled.modify
      intro s s' hs
      exact ⟨hs.tracker, hs.step⟩
    apply hcomplete.bindEq
    intro _
    exact Prog.Coupled.pure (afterHop_twins h hb hproxy address he)
  · intro error
    exact Prog.Coupled.pure (.inr (congrArg (·, some error) hb.hops))

theorem runHttp_inStep {u v : Url} (hcurrent : current u v) (hproxy : ProxyTwins env p p')
    (address : SocketAddr) :
    InStep env vars Eq (runHttp u p address options) (runHttp v p' address options) := by
  apply Prog.Coupled.loop (HopTwins env current next)
  · intro i b b' hb
    exact hopRound_inStep h hb
  · intro i b b' hb
    exact Prog.Coupled.pure (congrArg (·, none) hb.hops)
  · exact ⟨hcurrent, fun hi => absurd rfl hi, rfl, hproxy, rfl⟩

end

omit [Crates] in
theorem stopWith_inStep {α α' : Type} {A : α → α' → Prop} (draft : Draft) (name : PhaseName)
    (started : ℕ) (error : AppError) :
    InStep env vars A (stopWith draft name started error) (stopWith draft name started error) := by
  apply (elapsedMs_inStep started).bindEq
  intro durationMs
  exact Prog.Coupled.fail _

theorem observeDns_inStep {p p' : ResolvedProxy} (h : ProxyTwins env p p') (draft : Draft) :
    InStep env vars (fun a a' => a = a' ∧ a.1.options = draft.options)
      (observeDns (liveBackend env) p draft)
      (observeDns (liveBackend (env.withVars vars)) p' draft) := by
  apply instant_inStep.bindEq
  intro started
  apply Prog.Coupled.attemptBind (resolveAddresses_inStep h draft.options)
  · rintro ⟨all, permitted⟩ _ rfl
    apply Prog.Coupled.ite Iff.rfl (stopWith_inStep _ _ _ _)
    apply (elapsedMs_inStep started).bindEq
    intro durationMs
    exact Prog.Coupled.pure ⟨rfl, rfl⟩
  · intro error
    exact stopWith_inStep _ _ _ _

theorem observeTcp_inStep (permitted : List SocketAddr) (draft : Draft) :
    InStep env vars (fun a a' => a = a' ∧ a.1.options = draft.options)
      (observeTcp (liveBackend env) permitted draft)
      (observeTcp (liveBackend (env.withVars vars)) permitted draft) := by
  apply instant_inStep.bindEq
  intro started
  apply Prog.Coupled.attemptBind (connectFirst_inStep permitted draft.options)
  · rintro address _ rfl
    apply (elapsedMs_inStep started).bindEq
    intro durationMs
    exact Prog.Coupled.pure ⟨rfl, rfl⟩
  · intro error
    exact stopWith_inStep _ _ _ _

section

variable {options : InspectionOptions} {current next : Url → Url → Prop}
  (h : Indistinct env vars options current next) {p p' : ResolvedProxy}
  {parsed parsed' : ParsedTarget} (hurl : current parsed.url parsed'.url)
  (hsummary : parsed.summary = parsed'.summary) (hproxy : ProxyTwins env p p')

include h hurl hsummary hproxy

theorem observeTls_inStep (address : SocketAddr) (draft : Draft) :
    InStep env vars (fun a a' => a = a' ∧ a.options = draft.options)
      (observeTls (liveBackend env) parsed p address draft)
      (observeTls (liveBackend (env.withVars vars)) parsed' p' address draft) := by
  unfold observeTls
  rw [h.scheme _ _ hurl, hproxy.summary, hsummary]
  apply instant_inStep.bindEq
  intro started
  apply Prog.Coupled.ite Iff.rfl (Prog.Coupled.pure ⟨rfl, rfl⟩)
  apply Prog.Coupled.ite Iff.rfl (Prog.Coupled.pure ⟨rfl, rfl⟩)
  apply Prog.Coupled.attemptBind
    (probeTls_inStep address parsed'.summary.host draft.options.showAddresses)
  · rintro summary _ rfl
    apply (elapsedMs_inStep started).bindEq
    intro durationMs
    exact Prog.Coupled.pure ⟨rfl, rfl⟩
  · intro error
    exact stopWith_inStep _ _ _ _

omit hsummary

theorem observeHttp_inStep (address : SocketAddr) {draft : Draft}
    (hdraft : draft.options = options) :
    InStep env vars Eq (observeHttp (liveBackend env) parsed p address draft)
      (observeHttp (liveBackend (env.withVars vars)) parsed' p' address draft) := by
  subst hdraft
  apply instant_inStep.bindEq
  intro started
  apply Prog.Coupled.attemptBind (runHttp_inStep h hurl hproxy address)
  · rintro ⟨hops, failure⟩ _ rfl
    apply (elapsedMs_inStep started).bindEq
    intro durationMs
    exact Prog.Coupled.pure rfl
  · intro error
    exact stopWith_inStep _ _ _ _

include hsummary

/-- The stages of two runs with the same draft leave the same draft. -/
theorem observeAll_inStep {draft : Draft} (hdraft : draft.options = options) :
    InStep env vars Eq (observeAll (liveBackend env) parsed p draft)
      (observeAll (liveBackend (env.withVars vars)) parsed' p' draft) := by
  apply (observeDns_inStep hproxy draft).bind
  rintro ⟨d₁, permitted⟩ _ ⟨rfl, h₁⟩
  apply (observeTcp_inStep permitted d₁).bind
  rintro ⟨d₂, address⟩ _ ⟨rfl, h₂⟩
  apply (observeTls_inStep h hurl hsummary hproxy address d₂).bind
  rintro d₃ _ ⟨rfl, h₃⟩
  exact observeHttp_inStep h hurl hproxy address (h₃.trans (h₂.trans (h₁.trans hdraft)))

end

variable {options : InspectionOptions} {current next : Url → Url → Prop}

theorem inspectSession_inStep (h : Indistinct env vars options current next)
    {parsed parsed' : ParsedTarget} (hurl : current parsed.url parsed'.url)
    (hsummary : parsed.summary = parsed'.summary) :
    InStep env vars Eq (inspectSession (liveBackend env) env.envVar env.wallClock options parsed)
      (inspectSession (liveBackend (env.withVars vars)) vars env.wallClock options parsed') := by
  apply instant_inStep.bindEq
  intro proxyStarted
  apply (Prog.Coupled.ofExcept (h.resolved _ _ hurl)).bind
  intro p p' hproxy
  apply (elapsedMs_inStep proxyStarted).bindEq
  intro proxyMs
  have hdraft : openingDraft options env.wallClock parsed p proxyMs =
      openingDraft options env.wallClock parsed' p' proxyMs := by
    unfold openingDraft
    rw [hsummary, hproxy.summary]
  rw [hdraft]
  apply (observeAll_inStep h hurl hsummary hproxy rfl).attempt.bind
  intro observed observed' hobserved
  rw [hobserved.eq]
  apply state_inStep.bind
  intro s s' hs
  rw [hs.tracker]
  apply (elapsedMs_inStep _).bindEq
  intro elapsed
  exact Prog.Coupled.pure rfl

/-- Targets that look alike are inspected with the same report or the same error. -/
theorem inspect_inStep (h : Indistinct env vars options current next) {raw raw' : String}
    (htarget : (parseTarget raw options).Alike
      (fun p p' => current p.url p'.url ∧ p.summary = p'.summary) (parseTarget raw' options)) :
    (inspect env ⟨raw, options⟩).1 = (inspect (env.withVars vars) ⟨raw', options⟩).1 := by
  unfold inspect inspectWithBackend
  rcases hvalid : validateOptions options with error | _
  · rfl
  · rcases hparsed : parseTarget raw options with error | parsed <;>
      rcases hparsed' : parseTarget raw' options with error' | parsed' <;>
      rw [hparsed, hparsed'] at htarget
    · exact congrArg Except.error htarget
    · cases htarget
    · cases htarget
    · exact (inspectSession_inStep h htarget.1 htarget.2 _ _ ⟨rfl, rfl⟩).1.eq

end HopWhy
